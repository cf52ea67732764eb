import DbConsole.Grid
import DbConsole.Proofs.Number.Digits

/-!
Markdown tables line by line and cell by cell. Bars are escaped in the cells of rows and nowhere else, and
line feeds nowhere, so a table has its shape just if no column name has a bar of its own and nothing that is
shown has a line feed.
-/
set_option autoImplicit false

namespace DbConsole.Grid

/-- The pieces of a text between its bars. A bar right behind a backslash does not count; `escaped` tells
whether the text itself stands behind one. -/
def cut (escaped : Bool) : List Char → List (List Char)
  | [] => [[]]
  | c :: rest =>
    if c = '|' ∧ escaped = false then [] :: cut false rest
    else (cut (c == '\\') rest).modifyHead (c :: ·)

/-- The line begins and ends with a bar and has so many cells in between. -/
def HasCells (width : Nat) (line : List Char) : Prop :=
  ∃ cells, cells.length = width ∧ cut false line = [] :: cells ++ [[]]

def countLine (height : Nat) : List Char :=
  '*' :: (toString height).toList ++ " rows*".toList

/-- A header, a rule and a line for each row, all of so many cells; then an empty line and the count. -/
def IsTable (width height : Nat) (text : String) : Prop :=
  ∃ header rule body,
    text.toList.splitOn '\n' = header :: rule :: body ++ [[], countLine height, []] ∧
      body.length = height ∧ ∀ line ∈ header :: rule :: body, HasCells width line

/-- Every bar of the text has a backslash before it. -/
def BarsEscaped (text : List Char) : Prop :=
  ∀ before after, text = before ++ '|' :: after → before.getLast? = some '\\'

/-! ### Pieces -/

theorem cut_ne_nil (escaped : Bool) (text : List Char) : cut escaped text ≠ [] := by
  induction text generalizing escaped with
  | nil => exact List.cons_ne_nil _ _
  | cons c rest ih =>
    rw [cut]
    split
    · exact List.cons_ne_nil _ _
    · obtain ⟨first, more, pieces⟩ := List.exists_cons_of_ne_nil (ih (c == '\\'))
      simp [pieces]

theorem modifyHead_append {α : Type} {l : List α} (some : l ≠ []) (l' : List α) (f : α → α) :
    (l ++ l').modifyHead f = l.modifyHead f ++ l' := by
  cases l with
  | nil => exact absurd rfl some
  | cons a l => rfl

/-- A bar behind a blank ends a piece. -/
theorem cut_append_bar (escaped : Bool) (before after : List Char) :
    cut escaped (before ++ ' ' :: '|' :: after) = cut escaped (before ++ [' ']) ++ cut false after := by
  induction before generalizing escaped with
  | nil => simp [cut]
  | cons c before ih =>
    rw [List.cons_append, List.cons_append, cut, cut]
    split
    · rw [ih, List.cons_append]
    · rw [ih, modifyHead_append (cut_ne_nil _ _)]

/-- A text is one piece just if none of its bars counts. -/
theorem length_cut_eq_one_iff (escaped : Bool) (text : List Char) :
    (cut escaped text).length = 1 ↔ ∀ before after, text = before ++ '|' :: after →
      (before = [] ∧ escaped = true) ∨ before.getLast? = some '\\' := by
  induction text generalizing escaped with
  | nil => simp [cut]
  | cons c rest ih =>
    rw [cut]
    split
    case isTrue bar =>
      refine iff_of_false ?_ fun none => ?_
      · have more := List.length_pos_iff.mpr (cut_ne_nil false rest)
        rw [List.length_cons]
        omega
      · rcases none [] rest (bar.1 ▸ rfl) with ⟨_, behind⟩ | behind
        · exact Bool.false_ne_true (bar.2.symm.trans behind)
        · cases behind
    case isFalse other =>
      rw [List.length_modifyHead, ih]
      constructor
      · intro all before after split
        cases before with
        | nil =>
          obtain ⟨rfl, rfl⟩ := List.cons.inj split
          exact .inl ⟨rfl, by simpa using other⟩
        | cons d before =>
          obtain ⟨rfl, rfl⟩ := List.cons.inj split
          right
          rcases all before after rfl with ⟨rfl, slash⟩ | last
          · simpa using slash
          · simp [List.getLast?_cons, last]
      · rintro all before after rfl
        rcases all (c :: before) after rfl with ⟨none, _⟩ | last
        · cases none
        · cases before with
          | nil => exact .inl ⟨rfl, by simpa using last⟩
          | cons d before => exact .inr (by simpa [List.getLast?_cons] using last)

/-- With a blank on either side a text is one piece just if its own bars are escaped. -/
theorem length_cut_padded_iff (text : List Char) :
    (cut false (' ' :: text ++ [' '])).length = 1 ↔ BarsEscaped text := by
  rw [length_cut_eq_one_iff]
  constructor
  · rintro all before after rfl
    have last := (all (' ' :: before) (after ++ [' ']) (by simp)).resolve_left (by simp)
    cases before with
    | nil => cases last
    | cons c before => simpa [List.getLast?_cons] using last
  · intro escaped before after split
    right
    cases before with
    | nil => cases split
    | cons c before =>
      obtain ⟨rfl, split⟩ := List.cons.inj split
      rcases List.eq_nil_or_concat after with rfl | ⟨after, d, rfl⟩
      · exact absurd (List.append_singleton_inj.mp split).2 (by decide)
      · have inside : text ++ [' '] = (before ++ '|' :: after) ++ [d] := by simpa using split
        have last := escaped before after (List.append_singleton_inj.mp inside).1
        simp [List.getLast?_cons, last]

section Pieces

variable {α β : Type} {f : α → List β} {l : List α}

theorem length_le_flatMap (filled : ∀ a, f a ≠ []) (l : List α) : l.length ≤ (l.flatMap f).length := by
  induction l with
  | nil => exact Nat.le_refl _
  | cons a l ih =>
    have one := List.length_pos_iff.mpr (filled a)
    rw [List.flatMap_cons, List.length_append, List.length_cons]
    omega

/-- Where none brings nothing, as many are brought as bring them just if each brings one. -/
theorem length_flatMap_eq_iff (filled : ∀ a, f a ≠ []) :
    (l.flatMap f).length = l.length ↔ ∀ a ∈ l, (f a).length = 1 := by
  induction l with
  | nil => simp
  | cons a l ih =>
    have one := List.length_pos_iff.mpr (filled a)
    have least := length_le_flatMap filled l
    rw [List.flatMap_cons, List.length_append, List.length_cons, List.forall_mem_cons, ← ih]
    omega

theorem length_splitOn_eq_one_iff [BEq α] [LawfulBEq α] (a : α) (l : List α) :
    (l.splitOn a).length = 1 ↔ a ∉ l := by
  constructor
  · intro one mem
    obtain ⟨before, after, rfl⟩ := List.append_of_mem mem
    have first := List.length_pos_iff.mpr (List.splitOn_ne_nil a before)
    have second := List.length_pos_iff.mpr (List.splitOn_ne_nil a after)
    rw [List.splitOn_append_cons_self, List.length_append] at one
    omega
  · intro absent
    rw [List.splitOn_eq_singleton absent, List.length_singleton]

end Pieces

/-! ### Lines -/

/-- A line of fields without the line feed at its end. -/
def lineBody (fields : List (List Char)) : List Char :=
  '|' :: fields.flatMap fun f => ' ' :: f ++ [' ', '|']

theorem toList_line (fields : List String) :
    (line fields).toList = lineBody (fields.map String.toList) ++ ['\n'] := by
  rw [line, String.toList_append, String.toList_join, lineBody]
  induction fields with
  | nil => rfl
  | cons f fields ih => simp_all

theorem cut_lineBody (fields : List (List Char)) :
    cut false (lineBody fields) = [] :: fields.flatMap (fun f => cut false (' ' :: f ++ [' '])) ++ [[]] := by
  rw [lineBody, cut, if_pos ⟨rfl, rfl⟩, List.cons_append]
  refine congrArg _ ?_
  induction fields with
  | nil => rfl
  | cons f fields ih =>
    rw [List.flatMap_cons, List.flatMap_cons, List.append_assoc, List.append_assoc, ← ih]
    exact cut_append_bar false (' ' :: f) _

/-- A line has as many cells as fields just if the bars in the fields are escaped. -/
theorem hasCells_lineBody_iff (fields : List (List Char)) :
    HasCells fields.length (lineBody fields) ↔ ∀ f ∈ fields, BarsEscaped f := by
  have each : (∀ f ∈ fields, BarsEscaped f) ↔
      (fields.flatMap fun f => cut false (' ' :: f ++ [' '])).length = fields.length := by
    rw [length_flatMap_eq_iff fun f => cut_ne_nil _ _]
    exact forall₂_congr fun f _ => (length_cut_padded_iff f).symm
  rw [each]
  constructor
  · rintro ⟨cells, length, pieces⟩
    rw [cut_lineBody] at pieces
    have same := List.append_cancel_right (List.cons.inj pieces).2
    rw [same, length]
  · exact fun length => ⟨_, length, cut_lineBody fields⟩

theorem lf_mem_lineBody_iff (fields : List (List Char)) :
    '\n' ∈ lineBody fields ↔ ∃ f ∈ fields, '\n' ∈ f := by
  simp [lineBody]

/-- The line under the header without the line feed at its end. -/
def ruleBody (columns : List String) : List Char :=
  '|' :: columns.flatMap fun _ => ['-', '-', '-', '|']

theorem toList_rule (columns : List String) :
    (String.join (columns.map fun _ => "|---") ++ "|\n").toList = ruleBody columns ++ ['\n'] := by
  rw [String.toList_append, String.toList_join, ruleBody]
  induction columns with
  | nil => rfl
  | cons c columns ih => simp_all

theorem hasCells_ruleBody (columns : List String) : HasCells columns.length (ruleBody columns) := by
  refine ⟨columns.map fun _ => ['-', '-', '-'], List.length_map _, ?_⟩
  rw [ruleBody, cut, if_pos ⟨rfl, rfl⟩, List.cons_append]
  refine congrArg _ ?_
  induction columns with
  | nil => rfl
  | cons c columns ih =>
    rw [List.flatMap_cons, List.map_cons, @List.cons_append _ _ _ [[]], ← ih]
    rfl

/-- The lines of a table down to its last row, each without the line feed at its end. -/
def bodies (columns : List String) (rows : List Row) : List (List Char) :=
  lineBody (columns.map String.toList) :: ruleBody columns ::
    rows.map fun row => lineBody (columns.map fun c => (escapeBars (cellOf row c).display).toList)

theorem splitOn_flatMap {α : Type} [BEq α] [LawfulBEq α] (a : α) (lines : List (List α))
    (rest : List α) : (lines.flatMap (· ++ [a]) ++ rest).splitOn a =
      lines.flatMap (·.splitOn a) ++ rest.splitOn a := by
  induction lines with
  | nil => rfl
  | cons line lines ih =>
    rw [List.flatMap_cons, List.append_assoc, List.append_assoc, List.singleton_append,
      List.splitOn_append_cons_self, ih, List.flatMap_cons, List.append_assoc]

theorem flatMap_splitOn {α : Type} [BEq α] [LawfulBEq α] {a : α} {lines : List (List α)}
    (whole : ∀ line ∈ lines, a ∉ line) : lines.flatMap (·.splitOn a) = lines := by
  induction lines with
  | nil => rfl
  | cons line lines ih =>
    obtain ⟨first, rest⟩ := List.forall_mem_cons.mp whole
    rw [List.flatMap_cons, List.splitOn_eq_singleton first, ih rest, List.singleton_append]

theorem lf_notMem_countLine (height : Nat) : '\n' ∉ countLine height := by
  have digits : '\n' ∉ Nat.toDigits 10 height := (AllDigits.toDigits height).notMem rfl
  simp [countLine, digits]

theorem toList_markdown {columns : List String} (some : columns ≠ []) (rows : List Row) :
    (markdown columns rows).toList = (bodies columns rows).flatMap (· ++ ['\n']) ++
      '\n' :: (countLine rows.length ++ '\n' :: []) := by
  have rowLines : (String.join (rows.map fun row =>
      line (columns.map fun c => escapeBars (cellOf row c).display))).toList =
        (rows.map fun row => lineBody (columns.map fun c =>
          (escapeBars (cellOf row c).display).toList)).flatMap (· ++ ['\n']) := by
    rw [String.toList_join, List.flatMap_map, List.flatMap_map]
    refine congrArg (List.flatMap · rows) (funext fun row => ?_)
    rw [toList_line, List.map_map]
    rfl
  rw [markdown, if_neg (by simpa using some)]
  dsimp only
  rw [String.toList_append, String.toList_append, String.toList_append, String.toList_append,
    String.toList_append, toList_line, toList_rule, rowLines]
  simp [bodies, countLine]

theorem splitOn_markdown {columns : List String} (some : columns ≠ []) (rows : List Row) :
    (markdown columns rows).toList.splitOn '\n' =
      (bodies columns rows).flatMap (·.splitOn '\n') ++ [[], countLine rows.length, []] := by
  rw [toList_markdown some, splitOn_flatMap, ← List.nil_append ('\n' :: _),
    List.splitOn_append_cons_self, List.splitOn_append_cons_self,
    List.splitOn_eq_singleton (lf_notMem_countLine _)]
  rfl

/-! ### Escaped bars -/

theorem BarsEscaped.append {a b : List Char} (escaped : BarsEscaped a) (escaped' : BarsEscaped b) :
    BarsEscaped (a ++ b) := by
  intro before after split
  rcases List.append_eq_append_iff.mp split with ⟨middle, rfl, second⟩ | ⟨middle, first, second⟩
  · have last := escaped' middle after second
    simp [List.getLast?_append, last]
  · cases middle with
    | nil =>
      have last := escaped' [] after second.symm
      cases last
    | cons c middle =>
      obtain ⟨rfl, rfl⟩ := List.cons.inj second
      exact escaped before middle first

theorem barsEscaped_escapeBars (s : String) : BarsEscaped (escapeBars s).toList := by
  rw [escapeBars, String.toList_ofList]
  induction s.toList with
  | nil => intro before after split; cases before <;> cases split
  | cons c rest ih =>
    rw [List.flatMap_cons]
    refine BarsEscaped.append ?_ ih
    intro before after split
    split at split
    case isTrue bar =>
      rcases List.cons_eq_append_iff.mp split with ⟨rfl, first⟩ | ⟨before, rfl, second⟩
      · exact absurd (List.cons.inj first).1 (by decide)
      · rcases List.singleton_eq_append_iff.mp second with ⟨rfl, _⟩ | ⟨_, none⟩
        · rfl
        · cases none
    case isFalse other =>
      rcases List.singleton_eq_append_iff.mp split with ⟨rfl, same⟩ | ⟨_, none⟩
      · exact absurd (List.cons.inj same).1.symm other
      · cases none

theorem lf_mem_escapeBars_iff (s : String) : '\n' ∈ (escapeBars s).toList ↔ '\n' ∈ s.toList := by
  rw [escapeBars, String.toList_ofList, List.mem_flatMap]
  constructor
  · rintro ⟨c, mem, here⟩
    split at here
    · simp at here
    · exact List.mem_singleton.mp here ▸ mem
  · exact fun mem => ⟨'\n', mem, by decide⟩

/-! ### Tables -/

/-- Whether a table has its shape can be told line by line. -/
theorem isTable_iff_bodies {columns : List String} (some : columns ≠ []) (rows : List Row) :
    IsTable columns.length rows.length (markdown columns rows) ↔
      ∀ b ∈ bodies columns rows, '\n' ∉ b ∧ HasCells columns.length b := by
  rw [IsTable, splitOn_markdown some]
  have count : (bodies columns rows).length = rows.length + 2 := by simp [bodies]
  constructor
  · rintro ⟨header, rule, body, split, height, cells⟩
    have pieces := List.append_cancel_right split
    have length : ((bodies columns rows).flatMap (·.splitOn '\n')).length =
        (bodies columns rows).length := by
      rw [pieces, count, ← height]
      rfl
    have whole : ∀ b ∈ bodies columns rows, '\n' ∉ b := fun b mem =>
      (length_splitOn_eq_one_iff '\n' b).mp
        ((length_flatMap_eq_iff fun b => List.splitOn_ne_nil '\n' b).mp length b mem)
    rw [← pieces, flatMap_splitOn whole] at cells
    exact fun b mem => ⟨whole b mem, cells b mem⟩
  · intro all
    rw [flatMap_splitOn fun b mem => (all b mem).1]
    exact ⟨_, _, _, rfl, List.length_map _, fun b mem => (all b mem).2⟩

theorem whole_lineBody_iff (columns : List String) (field : String → List Char) :
    '\n' ∉ lineBody (columns.map field) ∧ HasCells columns.length (lineBody (columns.map field)) ↔
      ∀ c ∈ columns, '\n' ∉ field c ∧ BarsEscaped (field c) := by
  have cells := hasCells_lineBody_iff (columns.map field)
  rw [List.length_map, List.forall_mem_map] at cells
  rw [cells, lf_mem_lineBody_iff]
  simp [imp_and, forall_and]

/-- A Markdown table has a header, a rule and one line for each row, and all of these have as many cells as
there are columns, just if no column name has a line feed or a bar that is not escaped and no cell shows a
line feed. -/
theorem isTable_markdown_iff (columns : List String) (rows : List Row) (some : columns ≠ []) :
    IsTable columns.length rows.length (markdown columns rows) ↔
      (∀ name ∈ columns, '\n' ∉ name.toList ∧ BarsEscaped name.toList) ∧
        ∀ row ∈ rows, ∀ name ∈ columns, '\n' ∉ (cellOf row name).display.toList := by
  have rule : '\n' ∉ ruleBody columns := by simp [ruleBody]
  rw [isTable_iff_bodies some, bodies, List.forall_mem_cons, List.forall_mem_cons, List.forall_mem_map,
    whole_lineBody_iff columns String.toList,
    and_iff_right (And.intro rule (hasCells_ruleBody columns))]
  refine and_congr_right fun _ => forall₂_congr fun row _ => ?_
  rw [whole_lineBody_iff]
  refine forall₂_congr fun name _ => ?_
  rw [lf_mem_escapeBars_iff, and_iff_left (barsEscaped_escapeBars _)]

/-- Bars in cells are escaped, and one that a column name has may be escaped by hand. -/
theorem escapedByHand_isTable :
    ["id", "a\\|b"] ≠ [] ∧
      IsTable 2 1 (markdown ["id", "a\\|b"] [Dict.empty.insert "id" (.text "x|y\\")]) := by
  refine ⟨by decide, (isTable_markdown_iff ["id", "a\\|b"] _ (by decide)).mpr ⟨?_, by decide⟩⟩
  intro name mem
  refine ⟨?_, (length_cut_padded_iff name.toList).mp ?_⟩
  · revert name
    decide
  · revert name
    decide

/-- A bar in a column name makes another cell of the header, and a line feed in a cell another line. -/
theorem bareBar_and_lineFeed_no_table :
    ¬ IsTable 1 0 (markdown ["a|b"] []) ∧
      ¬ IsTable 1 1 (markdown ["note"] [Dict.empty.insert "note" (.text "one\ntwo")]) := by
  constructor
  · have lines : (markdown ["a|b"] []).toList.splitOn '\n' =
        ["| a|b |".toList, "|---|".toList, [], "*0 rows*".toList, []] := by decide
    rintro ⟨header, rule, body, split, -, cells⟩
    rw [lines] at split
    obtain ⟨rfl, -⟩ := List.cons.inj split
    obtain ⟨cells, one, pieces⟩ := cells _ List.mem_cons_self
    have four : (cut false "| a|b |".toList).length = 4 := by decide
    rw [pieces] at four
    simp [one] at four
  · have seven : ((markdown ["note"] [Dict.empty.insert "note" (.text "one\ntwo")]).toList.splitOn
        '\n').length = 7 := by decide
    rintro ⟨header, rule, body, split, height, -⟩
    rw [split] at seven
    simp [height] at seven

end DbConsole.Grid
