import DbConsole.Proofs.Sql.LastPart

/-!
Statements that drop or rename a table whose name stands between quotes. They are read as what they are,
whatever the name, and so the names taken from them are right just if the last parts are plain.
-/
set_option autoImplicit false

namespace DbConsole.Sql

/-! ### Words with spaces between them -/

/-- The quote that closes what a quote opens. -/
def closing (opening : Char) : Char :=
  if opening == '[' then ']' else opening

/-- The characters with each closing quote written twice. -/
def twice (quote : Char) (cs : List Char) : List Char :=
  cs.flatMap fun c => if c == quote then [c, c] else [c]

/-- A word of a statement: a keyword, or a name between quotes. -/
inductive Written where
  | keyword (word : String)
  | name (opening : Char) (text : String)

namespace Written

def chars : Written → List Char
  | .keyword word => word.toList
  | .name opening text => opening :: (twice (closing opening) text.toList ++ [closing opening])

def token : Written → Token
  | .keyword word => .ofWord word
  | .name opening text => .quotedWord text opening

/-- A keyword is made of letters, and the dialect knows the quotes of a name. -/
def Readable (d : Dialect) : Written → Prop
  | .keyword word => word.toList ≠ [] ∧ ∀ l ∈ word.toList, Text.isAsciiLetter l
  | .name opening _ => d.opensName opening

end Written

open Written

theorem Piece.quotedBody_twice {quote : Char} {rest : List Char} (behind : rest.head? ≠ some quote)
    (cs acc : List Char) :
    quotedBody quote false false acc (twice quote cs ++ quote :: rest) =
      some (acc.reverse ++ cs, rest) := by
  induction cs generalizing acc with
  | nil =>
    cases rest with
    | nil => simp [twice, quotedBody]
    | cons d rest =>
      have other : ¬ d = quote := by simpa using behind
      simp [twice, quotedBody, other]
  | cons c cs ih =>
    by_cases same : c = quote
    · subst same
      have step : twice c (c :: cs) ++ c :: rest = c :: c :: (twice c cs ++ c :: rest) := by
        simp [twice]
      rw [step, quotedBody]
      simp [ih]
    · have step : twice quote (c :: cs) ++ quote :: rest = c :: (twice quote cs ++ quote :: rest) := by
        simp [twice, same]
      rw [step]
      cases more : twice quote cs ++ quote :: rest with
      | nil => simp at more
      | cons e more' =>
        rw [quotedBody, ← more]
        simp [same, ih]

theorem Piece.front_opening {d : Dialect} {opening : Char} (opens : d.opensName opening)
    (prev : Option Token) (rest : List Char) :
    front d prev (opening :: rest) = nameFrom opening rest := by
  have letter : Text.isAsciiLetter opening = false ∧ opening ∉ [' ', '\t', '\n', '\r', '\''] := by
    obtain rfl | rfl | rfl := Dialect.eq_of_opensName opens <;> decide
  simp only [List.mem_cons, List.not_mem_nil, or_false, not_or] at letter
  simp [front, letter, opens]

theorem Piece.front_name {d : Dialect} {opening : Char} (opens : d.opensName opening)
    (prev : Option Token) (text : String) {rest : List Char}
    (behind : rest.head? ≠ some (closing opening)) :
    front d prev ((Written.name opening text).chars ++ rest) =
      some (.token (Written.name opening text).token, rest) := by
  have body := quotedBody_twice behind text.toList []
  rw [chars, List.cons_append, List.append_assoc, List.singleton_append, front_opening opens, nameFrom]
  change (quotedBody (closing opening) _ _ _ _).map _ = _
  simp [body, Written.token]

theorem Dialect.continuesWord_of_letter {d : Dialect} {c : Char} (letter : Text.isAsciiLetter c) :
    d.continuesWord c := by
  have small : c.toNat < 128 := by
    simp [Text.isAsciiLetter, Char.le_def, UInt32.le_iff_toNat_le] at letter
    grind
  cases d <;> simp [continuesWord, startsWord, Text.isLetter, letter, small]

/-- A word of letters ends where a space or nothing stands behind it. -/
theorem Piece.front_keyword {d : Dialect} {c : Char} {cs rest : List Char}
    (letters : ∀ l ∈ c :: cs, Text.isAsciiLetter l) (behind : rest.head? ∈ [none, some ' '])
    (prev : Option Token) :
    front d prev (c :: cs ++ rest) = some (.word (c :: cs), rest) := by
  have first : Text.isAsciiLetter c := letters c (List.mem_cons_self ..)
  have next (h : Char) (more : List Char) (at_ : cs ++ rest = h :: more) :
      Text.isAsciiLetter h ∨ h = ' ' := by
    cases cs with
    | nil => cases at_; exact .inr (by simpa using behind)
    | cons l cs => cases at_; exact .inl (letters _ (by simp))
  have ends : wordFrom d [c] (cs ++ rest) = (.word (c :: cs), rest) := by
    have inside : ∀ l ∈ cs, d.continuesWord l := fun l member =>
      d.continuesWord_of_letter (letters l (List.mem_cons_of_mem c member))
    have stop : rest.takeWhile d.continuesWord = [] ∧ rest.dropWhile d.continuesWord = rest := by
      cases rest with
      | nil => exact ⟨rfl, rfl⟩
      | cons h more =>
        obtain rfl : h = ' ' := by simpa using behind
        have space : d.continuesWord ' ' = false := by cases d <;> decide
        simp [space]
    rw [wordFrom, List.takeWhile_append_of_pos inside, List.dropWhile_append_of_pos inside,
      stop.1, stop.2, List.append_nil, List.singleton_append]
  have plain : letterFrom d c (cs ++ rest) = some (wordFrom d [c] (cs ++ rest)) := by
    unfold letterFrom
    dsimp only
    split
    all_goals first
      | rfl
      | exact absurd (next _ _ (by assumption)) (by decide)
  have blank : c ∉ [' ', '\t', '\n', '\r'] := by
    intro member
    simp only [List.mem_cons, List.not_mem_nil, or_false] at member
    obtain rfl | rfl | rfl | rfl := member <;> exact absurd first (by decide)
  simp only [List.mem_cons, List.not_mem_nil, or_false, not_or] at blank
  simp [front, blank, first, plain, ends]

theorem Piece.front_written {d : Dialect} {w : Written} (readable : w.Readable d)
    {rest : List Char} (behind : rest.head? ∈ [none, some ' ']) (prev : Option Token) :
    front d prev (w.chars ++ rest) = some (.token w.token, rest) := by
  cases w with
  | keyword word =>
    obtain ⟨some_letter, letters⟩ := readable
    obtain ⟨c, cs, spelled⟩ := List.exists_cons_of_ne_nil some_letter
    rw [spelled] at letters
    have whole : String.ofList (c :: cs) = word := by rw [← spelled, String.ofList_toList]
    rw [chars, spelled, front_keyword letters behind, Piece.word, whole]
    rfl
  | name opening text =>
    refine front_name readable prev text fun same => ?_
    rw [same] at behind
    obtain rfl | rfl | rfl := Dialect.eq_of_opensName readable <;> exact absurd behind (by decide)

/-- The words with spaces between them. -/
def spelled : List Written → List Char
  | [] => []
  | [w] => w.chars
  | w :: more => w.chars ++ ' ' :: spelled more

/-- The tokens of words, before the first of which a space may stand. -/
def lexed (spaced : Bool) : List Written → List Lexeme
  | [] => []
  | w :: more => ⟨w.token, spaced⟩ :: lexed true more

theorem Written.chars_ne_nil {d : Dialect} {w : Written} (readable : w.Readable d) : w.chars ≠ [] := by
  cases w with
  | keyword word => exact readable.1
  | name opening text => simp [chars]

theorem Lexeme.scan_written {d : Dialect} {w : Written} (readable : w.Readable d)
    {rest : List Char} (behind : rest.head? ∈ [none, some ' ']) (fuel : Nat) (spaced : Bool)
    (acc : List Lexeme) :
    scan d (fuel + 1) spaced acc (w.chars ++ rest) =
      scan d fuel false (⟨w.token, spaced⟩ :: acc) rest := by
  have read := Piece.front_written readable behind
  have some_chars := w.chars_ne_nil readable
  cases cs : w.chars ++ rest with
  | nil => simp_all
  | cons c more =>
    rw [scan, ← cs]
    · simp [read]
    · simp

theorem Lexeme.scan_spelled {d : Dialect} {words : List Written} (readable : ∀ w ∈ words, w.Readable d)
    {fuel : Nat} (enough : 2 * words.length ≤ fuel) (spaced : Bool) (acc : List Lexeme) :
    scan d fuel spaced acc (spelled words) = some ((lexed spaced words).reverse ++ acc) := by
  fun_induction spelled words generalizing fuel spaced acc with
  | case1 => cases fuel <;> rfl
  | case2 w =>
    obtain ⟨fuel, rfl⟩ : ∃ k, fuel = k + 1 := ⟨fuel - 1, by simp at enough; omega⟩
    have ends : ([] : List Char).head? ∈ [none, some ' '] := by simp
    have read := scan_written (readable w (by simp)) ends fuel spaced acc
    rw [List.append_nil] at read
    rw [read]
    cases fuel <;> simp [scan, lexed]
  | case3 w more _ ih =>
    obtain ⟨fuel, rfl⟩ : ∃ k, fuel = k + 2 := ⟨fuel - 2, by simp at enough; omega⟩
    have space : scan d (fuel + 1) false (⟨w.token, spaced⟩ :: acc) (' ' :: spelled more) =
        scan d fuel true (⟨w.token, spaced⟩ :: acc) (spelled more) := by
      rw [scan]
      · simp [Piece.front]
      · simp
    rw [scan_written (readable w (by simp)) (by simp), space,
      ih (fun w member => readable w (List.mem_cons_of_mem _ member)) (by simp at enough ⊢; omega)]
    simp [lexed]

theorem length_spelled {d : Dialect} {words : List Written} (readable : ∀ w ∈ words, w.Readable d) :
    2 * words.length ≤ (spelled words).length + 1 := by
  fun_induction spelled words with
  | case1 => simp
  | case2 w =>
    have := List.length_pos_iff.mpr (w.chars_ne_nil (readable w (by simp)))
    simp; omega
  | case3 w more _ ih =>
    have := List.length_pos_iff.mpr (w.chars_ne_nil (readable w (by simp)))
    have := ih fun w member => readable w (List.mem_cons_of_mem _ member)
    simp at this ⊢; omega

theorem lexemes?_spelled {d : Dialect} {words : List Written} (readable : ∀ w ∈ words, w.Readable d) :
    lexemes? d (String.ofList (spelled words)) = some (lexed false words) := by
  simp [lexemes?, Lexeme.scan_spelled readable (length_spelled readable)]

/-! ### Batches of one statement -/

theorem Parser.bind_ok {α β : Type} {p : Parser α} {f : α → Parser β} {e : Setting}
    {ls rest : List Lexeme} {a : α} (read : p e ls = .ok (a, rest)) : (p >>= f) e ls = f a e rest := by
  change (p e ls >>= fun x => f x.1 e x.2) = f a e rest
  rw [read]
  rfl

theorem Grammar.batch_nil (n : Nat) (due : Bool) (e : Setting) :
    Grammar.batch (n + 1) due e [] = .ok ([], []) :=
  rfl

theorem Grammar.batch_one {n : Nat} {e : Setting} {l : Lexeme} {ls : List Lexeme} {s : Statement}
    (word : l.token.isWord) (parses : (rulesAt maxDepth).statement e (l :: ls) = .ok (s, [])) :
    Grammar.batch (n + 2) false e (l :: ls) = .ok ([s], []) := by
  have none : Parser.symbol ";" e (l :: ls) = .ok (false, l :: ls) := by
    obtain ⟨token, spaced⟩ := l
    cases token <;> simp [Token.isWord] at word
    rfl
  have more : Parser.atEnd e (l :: ls) = .ok (false, l :: ls) := rfl
  rw [Grammar.batch, Parser.bind_ok none]
  simp only [Bool.false_eq_true, if_false]
  rw [Parser.bind_ok more]
  simp only [Bool.false_eq_true, if_false]
  rw [Parser.bind_ok parses, Parser.bind_ok (batch_nil n true e)]
  rfl

theorem batch?_spelled {engine : Option Engine} {w : Written} {words : List Written} {s : Statement}
    (readable : ∀ v ∈ w :: words, v.Readable (.ofEngine engine))
    (parses : ∀ r, Grammar.statement r ⟨.ofEngine engine, .anywhere⟩ (lexed false (w :: words)) =
      .ok (s, [])) :
    batch? engine (String.ofList (spelled (w :: words))) = some [s] := by
  have whole : Grammar.batch (2 * (lexed false (w :: words)).length + 1) false
      ⟨.ofEngine engine, .anywhere⟩ (lexed false (w :: words)) = .ok ([s], []) := by
    have word : w.token.isWord := by cases w <;> rfl
    have two : 2 * (lexed false (w :: words)).length + 1 = 2 * (lexed true words).length + 1 + 2 := by
      simp [lexed]; omega
    rw [two]
    exact Grammar.batch_one word (parses (Grammar.rulesAt 49))
  simp only [batch?, parse?, lexemes?_spelled readable, whole]
  rfl

/-! ### Drops and renames -/

/-- A drop of the table of a name between quotes. -/
def dropOf (q : Char) (v : String) : String :=
  String.ofList (spelled [.keyword "DROP", .keyword "TABLE", .name q v])

/-- A rename of a table as a change of the table. -/
def alterOf (q : Char) (v : String) (p : Char) (w : String) : String :=
  String.ofList (spelled [.keyword "ALTER", .keyword "TABLE", .name q v, .keyword "RENAME",
    .keyword "TO", .name p w])

/-- A rename of a table as a statement of its own. -/
def renameOf (q : Char) (v : String) (p : Char) (w : String) : String :=
  String.ofList (spelled [.keyword "RENAME", .keyword "TABLE", .name q v, .keyword "TO", .name p w])

section

variable {engine : Option Engine} {q p : Char}

theorem batch?_dropOf (opens : (Dialect.ofEngine engine).opensName q) (v : String) :
    batch? engine (dropOf q v) = some [.drop .table [[⟨v, some q⟩]]] := by
  refine batch?_spelled ?_ fun r => ?_
  · simp [Written.Readable, opens]
    decide
  · cases Dialect.ofEngine engine <;> rfl

theorem batch?_alterOf (opens : (Dialect.ofEngine engine).opensName q)
    (opens' : (Dialect.ofEngine engine).opensName p) (v w : String) :
    batch? engine (alterOf q v p w) =
      some [.alterTable [⟨v, some q⟩] [.rename [⟨w, some p⟩]]] := by
  refine batch?_spelled ?_ fun r => ?_
  · simp [Written.Readable, opens, opens']
    decide
  · cases Dialect.ofEngine engine <;> rfl

theorem batch?_renameOf (opens : (Dialect.ofEngine engine).opensName q)
    (opens' : (Dialect.ofEngine engine).opensName p) (v w : String) :
    batch? engine (renameOf q v p w) =
      some [.renameTables [([⟨v, some q⟩], [⟨w, some p⟩])]] := by
  refine batch?_spelled ?_ fun r => ?_
  · simp [Written.Readable, opens, opens']
    decide
  · cases Dialect.ofEngine engine <;> rfl

theorem droppedTables?_dropOf (opens : (Dialect.ofEngine engine).opensName q) (v : String) :
    droppedTables? engine (dropOf q v) = some [Name.bare [⟨v, some q⟩]] := by
  rw [droppedTables?, batch?_dropOf opens]
  rfl

theorem renamedTables?_alterOf (opens : (Dialect.ofEngine engine).opensName q)
    (opens' : (Dialect.ofEngine engine).opensName p) (v w : String) :
    renamedTables? engine (alterOf q v p w) =
      some [(Name.bare [⟨v, some q⟩], Name.bare [⟨w, some p⟩])] := by
  rw [renamedTables?, batch?_alterOf opens opens']
  rfl

theorem renamedTables?_renameOf (opens : (Dialect.ofEngine engine).opensName q)
    (opens' : (Dialect.ofEngine engine).opensName p) (v w : String) :
    renamedTables? engine (renameOf q v p w) =
      some [(Name.bare [⟨v, some q⟩], Name.bare [⟨w, some p⟩])] := by
  rw [renamedTables?, batch?_renameOf opens opens']
  rfl

theorem bare_quoted_eq_iff (opens : (Dialect.ofEngine engine).opensName q) (v : String) :
    Name.bare [⟨v, some q⟩] = v ↔ Ident.isPlain ⟨v, some q⟩ :=
  Name.bare_eq_text_iff (d := .ofEngine engine) (i := ⟨v, some q⟩)
    (by simp [Dialect.quotes, opens]) []

/-- The names of dropped and of renamed tables, which are told from the printed names, are the right
ones just if the last parts of the names are plain. -/
theorem names_right_iff (opens : (Dialect.ofEngine engine).opensName q)
    (opens' : (Dialect.ofEngine engine).opensName p) {i : Ident}
    (allowed : (Dialect.ofEngine engine).quotes i.quote) (outer : Name) (v w : String) :
    (Name.bare (outer ++ [i]) = i.text ↔ i.isPlain) ∧
      (droppedTables? engine (dropOf q v) = some [v] ↔ Ident.isPlain ⟨v, some q⟩) ∧
      (renamedTables? engine (alterOf q v p w) = some [(v, w)] ↔
        Ident.isPlain ⟨v, some q⟩ ∧ Ident.isPlain ⟨w, some p⟩) ∧
      (renamedTables? engine (renameOf q v p w) = some [(v, w)] ↔
        Ident.isPlain ⟨v, some q⟩ ∧ Ident.isPlain ⟨w, some p⟩) := by
  rw [droppedTables?_dropOf opens, renamedTables?_alterOf opens opens',
    renamedTables?_renameOf opens opens']
  simp [Name.bare_eq_text_iff allowed, bare_quoted_eq_iff opens, bare_quoted_eq_iff opens']

end

/-- A name with spaces is plain, one with points is not. -/
theorem names_right_of_spaced :
    (Dialect.ofEngine (some .postgres)).opensName '"' ∧
      droppedTables? (some .postgres) "DROP TABLE \"order items\"" = some ["order items"] ∧
      renamedTables? (some .postgres) "ALTER TABLE \"a b\" RENAME TO \"c d\"" =
        some [("a b", "c d")] := by
  have opens : (Dialect.ofEngine (some .postgres)).opensName '"' := rfl
  have right := names_right_iff opens opens (i := ⟨"order items", some '"'⟩) rfl []
  exact ⟨opens, (right "order items" "c d").2.1.mpr (by decide),
    (right "a b" "c d").2.2.1.mpr (by decide)⟩

/-- A table named with a point is taken for another one, and so is one whose name holds quotes,
begins or ends with one, or stands between single quotes. -/
theorem odd_names_taken_for_others :
    droppedTables? (some .postgres) "DROP TABLE \"a.b\"" = some ["b"] ∧
      droppedTables? (some .postgres) "DROP TABLE \"a\"\"b\"" = some ["a\"\"b"] ∧
      droppedTables? (some .sqlite) "DROP TABLE [\"a\"]" = some ["a"] ∧
      droppedTables? (some .mysql) "DROP TABLE 'a'" = some ["'a'"] ∧
      renamedTables? (some .mysql) "RENAME TABLE `a.b` TO `c]`" = some [("b", "c")] := by
  decide +kernel

end DbConsole.Sql
