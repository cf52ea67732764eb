import DbConsole.Proofs.Dict
import DbConsole.Proofs.Json.Documents
import DbConsole.Proofs.Json.Extent
import DbConsole.Proofs.Json.Finds
import DbConsole.Proofs.Json.Tracks

/-!
What is read of an indented text. If it can be read at all, it is an object with the fields that were
written, or no object where none was written; what the fields hold may have changed.
-/
set_option autoImplicit false

namespace DbConsole.Json

/-- The names of the fields, in their order. -/
def names : Json → List String
  | .object fields => fields.map Prod.fst
  | _ => []

/-! ### The text of lists and objects -/

/-- The text behind an opening bracket, or behind an item. -/
def itemsLines (d : Nat) : Bool → List Json → List Char → List Char
  | true, [], rest => ']' :: rest
  | true, j :: items, rest => newline (d + 1) (prettyChars (d + 1) j (prettyItems d items rest))
  | false, items, rest => prettyItems d items rest

/-- The text behind an opening brace, or behind a field. -/
def fieldsLines (d : Nat) : Bool → List (String × Json) → List Char → List Char
  | true, [], rest => '\x7d' :: rest
  | true, (k, j) :: fields, rest =>
    newline (d + 1) (quotedChars k.toList ++ ':' :: ' ' ::
      prettyChars (d + 1) j (prettyFields d fields rest))
  | false, fields, rest => prettyFields d fields rest

theorem prettyChars_array (d : Nat) (items : List Json) (rest : List Char) :
    prettyChars d (.array items) rest = '[' :: itemsLines d true items rest := by
  cases items <;> rfl

theorem prettyChars_object (d : Nat) (fields : List (String × Json)) (rest : List Char) :
    prettyChars d (.object fields) rest = '\x7b' :: fieldsLines d true fields rest := by
  cases fields <;> rfl

namespace Reader

variable {α : Type} {d : Nat} {rest : List Char}

theorem ends_prettyItems (items : List Json) : Ends (prettyItems d items rest) := by
  cases items <;> · rintro _ ⟨⟩; decide

theorem ends_prettyFields (fields : List (String × Json)) : Ends (prettyFields d fields rest) := by
  rcases fields with _ | ⟨⟨k, j⟩, fields⟩ <;> · rintro _ ⟨⟩; decide

/-- A text begins with a character that tells it from the end of a list or an object. -/
theorem exists_opens_prettyChars (d : Nat) (j : Json) (ends : Ends rest) :
    ∃ c cs, prettyChars d j rest = c :: cs ∧ Opens c := by
  match j with
  | .null | .bool true | .bool false | .string _ | .array [] | .array (_ :: _) | .object []
  | .object (_ :: _) => exact ⟨_, _, rfl, rfl, by decide, by decide⟩
  | .number n =>
    obtain ⟨c, cs, text, numeric, -⟩ := finds_number n ends
    exact ⟨c, cs, text, opens_of_sign_or_digit numeric⟩

/-! ### Lines -/

theorem takes_next_newline {c : Char} (solid : isSpace c = false) (d : Nat) (cs : List Char) :
    Takes next (newline d (c :: cs)) (some c) (c :: cs) := by
  have spaces : ∀ a ∈ '\n' :: List.replicate (2 * d) ' ', isSpace a = true := by
    rintro a (_ | ⟨_, mem⟩)
    · rfl
    · rw [List.eq_of_mem_replicate mem]
      rfl
  have dropped : (newline d (c :: cs)).dropWhile isSpace = c :: cs := by
    rw [newline, ← List.cons_append, List.dropWhile_append_of_pos spaces,
      List.dropWhile_cons_of_neg (by simp [solid])]
  intro p
  rw [next_eq, dropped]
  exact ⟨_, rfl⟩

theorem Finds.verbatim_space {depth : Nat} {good : Json → Prop} {before after : List Char}
    (finds : Finds (verbatim depth) before good after) :
    Finds (verbatim depth) (' ' :: before) good after := by
  intro p a t read
  rw [verbatim_next (next_eq ⟨' ' :: before, p⟩)] at read
  refine finds (p.after ' ') a t ?_
  rw [verbatim_next (next_eq ⟨before, p.after ' '⟩)]
  exact read

theorem takes_moreItems_line {j : Json} (first : Bool) (items : List Json) (rest : List Char) :
    Takes (moreItems first) (itemsLines d first (j :: items) rest) true
      (prettyChars (d + 1) j (prettyItems d items rest)) := by
  obtain ⟨c, cs, text, opens⟩ := exists_opens_prettyChars (d + 1) j (ends_prettyItems items)
  have open_ : Takes next (newline (d + 1) (prettyChars (d + 1) j (prettyItems d items rest)))
      (some c) (prettyChars (d + 1) j (prettyItems d items rest)) := by
    rw [text]
    exact takes_next_newline opens.1 (d + 1) cs
  cases first with
  | true =>
    refine open_.bind ?_
    split
    case h_1 other => cases other
    case h_2 other => exact absurd (Option.some.inj other) opens.2.1
    case h_3 => exact .pure true _
  | false =>
    refine (Takes.next rfl _).bind ((Takes.skip ',' _).bind (open_.bind ?_))
    split
    case h_1 other => cases other
    case h_2 other => exact absurd (Option.some.inj other) opens.2.1
    case h_3 => exact .pure true _

theorem takes_moreItems_last (first : Bool) (rest : List Char) :
    Takes (moreItems first) (itemsLines d first [] rest) false (']' :: rest) := by
  cases first with
  | true => exact takes_moreItems_close true rest
  | false => exact (takes_next_newline rfl d rest).bind (.pure false _)

theorem takes_moreFields_line (first : Bool) (k : String) (j : Json)
    (fields : List (String × Json)) (rest : List Char) :
    Takes (moreFields first) (fieldsLines d first ((k, j) :: fields) rest) true
      (quotedChars k.toList ++ ':' :: ' ' ::
        prettyChars (d + 1) j (prettyFields d fields rest)) := by
  cases first with
  | true => exact (takes_next_newline rfl (d + 1) _).bind (.pure true _)
  | false =>
    exact (Takes.next rfl _).bind ((Takes.skip ',' _).bind
      ((takes_next_newline rfl (d + 1) _).bind (.pure true _)))

theorem takes_moreFields_last (first : Bool) (rest : List Char) :
    Takes (moreFields first) (fieldsLines d first [] rest) false ('\x7d' :: rest) := by
  cases first with
  | true => exact takes_moreFields_close true rest
  | false => exact (takes_next_newline rfl d rest).bind (.pure false _)

/-! ### Lists and objects -/

/-- The reader finds something at the indented text of the document, whatever follows it. -/
def FindsText (r : Reader Json) (d : Nat) (j : Json) : Prop :=
  ∀ rest, Ends rest → Finds r (prettyChars d j rest) (fun found => found.names = j.names) rest

section Containers

variable {depth : Nat}

theorem finds_items (items : List Json) (each : ∀ j ∈ items, FindsText (verbatim depth) (d + 1) j)
    (fuel : Nat) (first : Bool) :
    Finds (Reader.items (verbatim depth) fuel first) (itemsLines d first items rest)
      (fun _ => True) (']' :: rest) := by
  induction items generalizing fuel first with
  | nil =>
    cases fuel with
    | zero => exact .of_fails (.fail _)
    | succ fuel => exact .behind (takes_moreItems_last first rest) (.pure trivial)
  | cons j items ih =>
    cases fuel with
    | zero => exact .of_fails (.fail _)
    | succ fuel =>
      refine .behind (takes_moreItems_line first items rest) ?_
      refine .bind (each j List.mem_cons_self _ (ends_prettyItems items)) fun _ _ => ?_
      exact .bind (ih (fun i mem => each i (.tail j mem)) fuel false) fun _ _ => .pure trivial

theorem finds_listOf (items : List Json)
    (each : ∀ j ∈ items, FindsText (verbatim depth) (d + 1) j) :
    Finds (listOf (verbatim depth)) ('[' :: itemsLines d true items rest) (fun _ => True) rest := by
  refine .behind (.skip '[' _) (.behind (.length _) (.bind (finds_items items each _ true) ?_))
  exact fun _ _ => .behind (.skip ']' rest) (.pure trivial)

theorem finds_fields (fields : List (String × Json))
    (each : ∀ p ∈ fields, FindsText (verbatim depth) (d + 1) p.2) (fuel : Nat) (first : Bool) :
    Finds (Reader.fields (verbatim depth) fuel first) (fieldsLines d first fields rest)
      (fun found => found.map Prod.fst = fields.map Prod.fst) ('\x7d' :: rest) := by
  induction fields generalizing fuel first with
  | nil =>
    cases fuel with
    | zero => exact .of_fails (.fail _)
    | succ fuel => exact .behind (takes_moreFields_last first rest) (.pure rfl)
  | cons p fields ih =>
    cases fuel with
    | zero => exact .of_fails (.fail _)
    | succ fuel =>
      refine .behind (takes_moreFields_line first p.1 p.2 fields rest) ?_
      refine .behind (takes_key p.1 _) (.behind (takes_colon _) ?_)
      have value := each p List.mem_cons_self (prettyFields d fields rest) (ends_prettyFields fields)
      refine .bind value.verbatim_space fun j _ => ?_
      refine .bind (ih (fun q mem => each q (.tail p mem)) fuel false) fun found same => ?_
      exact .pure (congrArg (p.1 :: ·) same)

theorem finds_objectOf (fields : List (String × Json))
    (each : ∀ p ∈ fields, FindsText (verbatim depth) (d + 1) p.2) :
    Finds (objectOf (verbatim depth)) ('\x7b' :: fieldsLines d true fields rest)
      (fun found => found.map Prod.fst = fields.map Prod.fst) rest := by
  refine .behind (.skip '\x7b' _) (.behind (.length _) (.bind (finds_fields fields each _ true) ?_))
  exact fun _ same => .behind (.skip '\x7d' rest) (.pure same)

end Containers

/-! ### Any document -/

theorem finds_verbatim (j : Json) : ∀ depth d, FindsText (verbatim depth) d j := by
  induction j using induct with
  | null =>
    intro depth d rest _
    rw [verbatim.eq_def]
    exact .behind (.next rfl _) (.behind (.skip 'n' _) (.behind (.word "ull".toList rest)
      (.pure rfl)))
  | bool b =>
    intro depth d rest _
    rw [verbatim.eq_def]
    cases b
    · exact .behind (.next rfl _) (.behind (.skip 'f' _) (.behind (.word "alse".toList rest)
        (.pure rfl)))
    · exact .behind (.next rfl _) (.behind (.skip 't' _) (.behind (.word "rue".toList rest)
        (.pure rfl)))
  | number n =>
    intro depth d rest ends p a t read
    obtain ⟨c, cs, text, numeric, finds⟩ := finds_number n ends
    have known : Finds (number c >>= fun n => pure (Json.number n)) (c :: cs)
      (fun found => found.names = []) rest := .bind finds fun _ _ => .pure rfl
    rw [prettyChars, text, verbatim_of_numeric numeric] at read
    exact known p a t read
  | string s =>
    intro depth d rest _
    rw [verbatim.eq_def]
    exact .behind (.next rfl _) (.behind (.skip '"' _) (.behind (takes_string s rest) (.pure rfl)))
  | array items each =>
    intro depth d rest _
    rw [verbatim.eq_def, prettyChars_array]
    refine .behind (.next rfl _) ?_
    cases depth with
    | zero => exact .of_fails (.failNext _)
    | succ depth =>
      exact .bind (finds_listOf items fun j mem => each j mem depth (d + 1)) fun _ _ => .pure rfl
  | object fields each =>
    intro depth d rest _
    rw [verbatim.eq_def, prettyChars_object]
    refine .behind (.next rfl _) ?_
    cases depth with
    | zero => exact .of_fails (.failNext _)
    | succ depth =>
      exact .bind (finds_objectOf fields fun p mem => each p mem depth (d + 1)) fun _ same =>
        .pure same

end Reader

/-! ### What is parsed -/

theorem names_canonicalFields (fields : List (String × Json)) :
    (canonicalFields fields).map Prod.fst = fields.map Prod.fst := by
  induction fields with
  | nil => rfl
  | cons p fields ih => exact congrArg (p.1 :: ·) ih

/-- What an indented text is parsed as has no fields of other names than were written. -/
theorem names_subset_of_parse {j found : Json} (parsed : parse j.pretty = .ok found) :
    found.names ⊆ j.names := by
  obtain ⟨read, ran, rfl⟩ := Reader.map_eq_ok.mp parsed
  rw [pretty, String.toList_ofList] at ran
  obtain ⟨t, reached, -⟩ := Reader.run_eq_ok.mp ran
  have nothing : Reader.Ends [] := nofun
  have same := (Reader.finds_verbatim j Reader.maxDepth 0 [] nothing _ _ _ reached).1
  rw [← same]
  cases read with
  | object fields =>
    change (sortPairs (canonicalFields fields)).map Prod.fst ⊆ fields.map Prod.fst
    rw [← names_canonicalFields fields]
    exact keys_sortPairs_subset _
  | _ => exact List.nil_subset _

end DbConsole.Json
