import DbConsole.Proofs.Json.Numbers
import DbConsole.Proofs.Json.SameStop
import DbConsole.Proofs.Json.Strings

/-!
A document whose numbers 64 bits hold is read back from its compact text, as far as the depth allows.
-/
set_option autoImplicit false

namespace DbConsole.Json

mutual
/-- Whether 64 bits hold every number in the document. -/
def fits : Json → Bool
  | .number n => n.fits
  | .array items => fitsItems items
  | .object fields => fitsFields fields
  | _ => true

def fitsItems : List Json → Bool
  | [] => true
  | j :: rest => fits j && fitsItems rest

def fitsFields : List (String × Json) → Bool
  | [] => true
  | (_, j) :: rest => fits j && fitsFields rest
end

mutual
/-- How many containers are open at once in the text of the document. -/
def nesting : Json → Nat
  | .array items => nestingItems items + 1
  | .object fields => nestingFields fields + 1
  | _ => 0

def nestingItems : List Json → Nat
  | [] => 0
  | j :: rest => max (nesting j) (nestingItems rest)

def nestingFields : List (String × Json) → Nat
  | [] => 0
  | (_, j) :: rest => max (nesting j) (nestingFields rest)
end

theorem fitsItems_iff {items : List Json} : fitsItems items = true ↔ ∀ j ∈ items, j.fits = true := by
  induction items with
  | nil => simp [fitsItems]
  | cons j items ih => simp [fitsItems, ih]

theorem fitsFields_iff {fields : List (String × Json)} :
    fitsFields fields = true ↔ ∀ p ∈ fields, p.2.fits = true := by
  induction fields with
  | nil => simp [fitsFields]
  | cons p fields ih => simp [fitsFields, ih]

theorem nestingItems_le_iff {items : List Json} {d : Nat} :
    nestingItems items ≤ d ↔ ∀ j ∈ items, j.nesting ≤ d := by
  induction items with
  | nil => simp [nestingItems]
  | cons j items ih => rw [nestingItems, Nat.max_le, ih, List.forall_mem_cons]

theorem nestingFields_le_iff {fields : List (String × Json)} {d : Nat} :
    nestingFields fields ≤ d ↔ ∀ p ∈ fields, p.2.nesting ≤ d := by
  induction fields with
  | nil => simp [nestingFields]
  | cons p fields ih => rw [nestingFields, Nat.max_le, ih, List.forall_mem_cons]

/-- Induction over a document: a container after all that it holds. -/
theorem induct {motive : Json → Prop} (null : motive .null) (bool : ∀ b, motive (.bool b))
    (number : ∀ n, motive (.number n)) (string : ∀ s, motive (.string s))
    (array : ∀ items, (∀ j ∈ items, motive j) → motive (.array items))
    (object : ∀ fields, (∀ p ∈ fields, motive p.2) → motive (.object fields)) (j : Json) :
    motive j :=
  match j with
  | .null => null
  | .bool b => bool b
  | .number n => number n
  | .string s => string s
  | .array items => array items fun j _ => induct null bool number string array object j
  | .object fields => object fields fun p mem =>
    have : sizeOf p.2 < sizeOf fields := by
      have := List.sizeOf_lt_of_mem mem
      have : sizeOf p = 1 + sizeOf p.1 + sizeOf p.2 := by cases p; rfl
      omega
    induct null bool number string array object p.2

mutual
theorem length_le_compactChars (rest : List Char) : ∀ j : Json,
    rest.length ≤ (compactChars j rest).length
  | .null | .bool true | .bool false => by
    simp only [compactChars, List.length_append]
    omega
  | .number _ | .string _ => by
    simp only [compactChars, List.length_append]
    omega
  | .array [] | .object [] => by
    simp only [compactChars, List.length_cons]
    omega
  | .array (j :: items) => by
    have first := length_le_compactChars (compactItems items rest) j
    have others := length_lt_compactItems rest items
    simp only [compactChars, List.length_cons]
    omega
  | .object ((k, j) :: fields) => by
    have first := length_le_compactChars (compactFields fields rest) j
    have others := length_lt_compactFields rest fields
    simp only [compactChars, List.length_cons, List.length_append]
    omega

theorem length_lt_compactItems (rest : List Char) : ∀ items : List Json,
    rest.length + items.length < (compactItems items rest).length
  | [] => by simp [compactItems]
  | j :: items => by
    have first := length_le_compactChars (compactItems items rest) j
    have others := length_lt_compactItems rest items
    simp only [compactItems, List.length_cons]
    omega

theorem length_lt_compactFields (rest : List Char) : ∀ fields : List (String × Json),
    rest.length + fields.length < (compactFields fields rest).length
  | [] => by simp [compactFields]
  | (k, j) :: fields => by
    have first := length_le_compactChars (compactFields fields rest) j
    have others := length_lt_compactFields rest fields
    simp only [compactFields, List.length_cons, List.length_append]
    omega
end

/-- The items of a list up to its closing bracket, the first of them with or without a comma. -/
def itemsText : Bool → List Json → List Char → List Char
  | true, j :: items, rest => compactChars j (compactItems items rest)
  | _, items, rest => compactItems items rest

/-- The fields of an object up to its closing brace, the first of them with or without a comma. -/
def fieldsText : Bool → List (String × Json) → List Char → List Char
  | true, (k, j) :: fields, rest =>
    quotedChars k.toList ++ ':' :: compactChars j (compactFields fields rest)
  | _, fields, rest => compactFields fields rest

theorem compactChars_array (items : List Json) (rest : List Char) :
    compactChars (.array items) rest = '[' :: itemsText true items rest := by
  cases items <;> rfl

theorem compactChars_object (fields : List (String × Json)) (rest : List Char) :
    compactChars (.object fields) rest = '\x7b' :: fieldsText true fields rest := by
  rcases fields with _ | ⟨⟨k, j⟩, fields⟩ <;> rfl

theorem length_le_itemsText (items : List Json) (rest : List Char) :
    items.length ≤ (itemsText true items rest).length := by
  cases items with
  | nil => exact Nat.zero_le _
  | cons j items =>
    have first := length_le_compactChars (compactItems items rest) j
    have others := length_lt_compactItems rest items
    rw [itemsText, List.length_cons]
    omega

theorem length_le_fieldsText (fields : List (String × Json)) (rest : List Char) :
    fields.length ≤ (fieldsText true fields rest).length := by
  rcases fields with _ | ⟨⟨k, j⟩, fields⟩
  · exact Nat.zero_le _
  · have first := length_le_compactChars (compactFields fields rest) j
    have others := length_lt_compactFields rest fields
    rw [fieldsText, List.length_append, List.length_cons, List.length_cons]
    omega

namespace Reader

/-! ### What may follow a value, and what begins one -/

theorem ends_compactItems (items : List Json) (rest : List Char) : Ends (compactItems items rest) := by
  cases items <;> · rintro _ ⟨⟩; decide

theorem ends_compactFields (fields : List (String × Json)) (rest : List Char) :
    Ends (compactFields fields rest) := by
  rcases fields with _ | ⟨⟨k, j⟩, fields⟩ <;> · rintro _ ⟨⟩; decide

/-- Whether a value can begin with the character. -/
def Opens (c : Char) : Prop :=
  isSpace c = false ∧ c ≠ ']' ∧ c ≠ '\x7d'

theorem opens_of_sign_or_digit {c : Char} (numeric : c = '-' ∨ Text.isAsciiDigit c = true) :
    Opens c := by
  rcases numeric with rfl | digit
  · exact ⟨rfl, by decide, by decide⟩
  · refine ⟨?_, ?_, ?_⟩
    · simp only [isSpace, Bool.or_eq_false_iff, beq_eq_false_iff_ne]
      refine ⟨⟨⟨?_, ?_⟩, ?_⟩, ?_⟩ <;> · rintro rfl; cases digit
    · rintro rfl
      cases digit
    · rintro rfl
      cases digit

theorem exists_opens {j : Json} (fits : j.fits = true) {rest : List Char} (ends : Ends rest) :
    ∃ c cs, compactChars j rest = c :: cs ∧ Opens c ∧ (c = 'n' → j = .null) := by
  match j with
  | .null => exact ⟨_, _, rfl, ⟨rfl, by decide, by decide⟩, fun _ => rfl⟩
  | .bool true | .bool false | .string _ | .array [] | .array (_ :: _) | .object []
  | .object (_ :: _) =>
    exact ⟨_, _, rfl, ⟨rfl, by decide, by decide⟩, fun same => absurd same (by decide)⟩
  | .number (.whole m) =>
    obtain ⟨c, cs, text, numeric, -⟩ := takes_number fits ends
    refine ⟨c, cs, text, opens_of_sign_or_digit numeric, ?_⟩
    rintro rfl
    rcases numeric with dash | digit
    · cases dash
    · cases digit
  | .number (.real _) => cases fits

/-! ### Lists and objects -/

/-- The reader takes the text of the document as the value, whatever follows it. -/
def TakesText {α : Type} (r : Reader α) (j : Json) (a : α) : Prop :=
  ∀ rest, Ends rest → Takes r (compactChars j rest) a rest

theorem takes_moreItems_close (first : Bool) (rest : List Char) :
    Takes (moreItems first) (']' :: rest) false (']' :: rest) :=
  (Takes.next rfl rest).bind (.pure false _)

theorem takes_moreItems {j : Json} (fits : j.fits = true) (first : Bool) (items : List Json)
    (rest : List Char) :
    Takes (moreItems first) (itemsText first (j :: items) rest) true
      (compactChars j (compactItems items rest)) := by
  obtain ⟨c, cs, text, opens, -⟩ := exists_opens fits (ends_compactItems items rest)
  cases first with
  | true =>
    rw [itemsText, text]
    refine (Takes.next opens.1 cs).bind ?_
    split
    case h_1 other => cases other
    case h_2 other => exact absurd (Option.some.inj other) opens.2.1
    case h_3 => exact .pure true _
  | false =>
    rw [itemsText, compactItems, text]
    · refine (Takes.next rfl _).bind ((Takes.skip ',' _).bind ((Takes.next opens.1 cs).bind ?_))
      split
      case h_1 other => cases other
      case h_2 other => exact absurd (Option.some.inj other) opens.2.1
      case h_3 => exact .pure true _
    · rintro _ _ ⟨⟩

theorem takes_moreFields_close (first : Bool) (rest : List Char) :
    Takes (moreFields first) ('\x7d' :: rest) false ('\x7d' :: rest) :=
  (Takes.next rfl rest).bind (.pure false _)

theorem takes_moreFields (first : Bool) (k : String) (j : Json) (fields : List (String × Json))
    (rest : List Char) :
    Takes (moreFields first) (fieldsText first ((k, j) :: fields) rest) true
      (quotedChars k.toList ++ ':' :: compactChars j (compactFields fields rest)) := by
  cases first with
  | true => exact (Takes.next rfl _).bind (.pure true _)
  | false =>
    exact (Takes.next rfl _).bind ((Takes.skip ',' _).bind ((Takes.next rfl _).bind (.pure true _)))

theorem takes_colon (rest : List Char) : Takes colon (':' :: rest) () rest :=
  (Takes.next rfl rest).bind (.skip ':' rest)

section Containers

variable {α : Type} {item : Reader α} {write : α → Json} {fuel : Nat} {rest : List Char}

theorem takes_items {as : List α} (fits : ∀ a ∈ as, (write a).fits = true)
    (each : ∀ a ∈ as, TakesText item (write a) a) (enough : as.length < fuel) (first : Bool) :
    Takes (items item fuel first) (itemsText first (as.map write) rest) as (']' :: rest) := by
  obtain ⟨fuel, rfl⟩ := Nat.exists_eq_succ_of_ne_zero (Nat.ne_zero_of_lt enough)
  induction as generalizing fuel first with
  | nil => cases first <;> exact (takes_moreItems_close _ rest).bind (.pure [] _)
  | cons a as ih =>
    have fewer : as.length < fuel := Nat.lt_of_succ_lt_succ enough
    obtain ⟨fuel, rfl⟩ := Nat.exists_eq_succ_of_ne_zero (Nat.ne_zero_of_lt fewer)
    have taken := each a List.mem_cons_self _ (ends_compactItems (as.map write) rest)
    have onward := ih (fun b mem => fits b (.tail a mem)) (fun b mem => each b (.tail a mem))
      false fuel fewer
    exact (takes_moreItems (fits a List.mem_cons_self) first _ rest).bind
      (taken.bind (onward.bind (.pure _ _)))

theorem takes_listOf {as : List α} (fits : ∀ a ∈ as, (write a).fits = true)
    (each : ∀ a ∈ as, TakesText item (write a) a) (rest : List Char) :
    Takes (listOf item) ('[' :: itemsText true (as.map write) rest) as rest := by
  have enough := length_le_itemsText (as.map write) rest
  rw [List.length_map] at enough
  exact (Takes.skip '[' _).bind ((Takes.length _).bind
    ((takes_items fits each (Nat.lt_succ_of_le enough) true).bind ((Takes.skip ']' rest).bind
      (.pure _ _))))

theorem takes_fields {ps : List (String × α)} (each : ∀ p ∈ ps, TakesText item (write p.2) p.2)
    (enough : ps.length < fuel) (first : Bool) :
    Takes (fields item fuel first) (fieldsText first (ps.map fun p => (p.1, write p.2)) rest) ps
      ('\x7d' :: rest) := by
  obtain ⟨fuel, rfl⟩ := Nat.exists_eq_succ_of_ne_zero (Nat.ne_zero_of_lt enough)
  induction ps generalizing fuel first with
  | nil => cases first <;> exact (takes_moreFields_close _ rest).bind (.pure [] _)
  | cons p ps ih =>
    have fewer : ps.length < fuel := Nat.lt_of_succ_lt_succ enough
    obtain ⟨fuel, rfl⟩ := Nat.exists_eq_succ_of_ne_zero (Nat.ne_zero_of_lt fewer)
    have taken := each p List.mem_cons_self _
      (ends_compactFields (ps.map fun p => (p.1, write p.2)) rest)
    have onward := ih (fun q mem => each q (.tail p mem)) false fuel fewer
    exact (takes_moreFields first p.1 _ _ rest).bind ((takes_key p.1 _).bind ((takes_colon _).bind
      (taken.bind (onward.bind (.pure _ _)))))

theorem takes_objectOf {ps : List (String × α)} (each : ∀ p ∈ ps, TakesText item (write p.2) p.2)
    (rest : List Char) :
    Takes (objectOf item) ('\x7b' :: fieldsText true (ps.map fun p => (p.1, write p.2)) rest) ps
      rest := by
  have enough := length_le_fieldsText (ps.map fun p => (p.1, write p.2)) rest
  rw [List.length_map] at enough
  exact (Takes.skip '\x7b' _).bind ((Takes.length _).bind
    ((takes_fields each (Nat.lt_succ_of_le enough) true).bind ((Takes.skip '\x7d' rest).bind
      (.pure _ _))))

end Containers

/-! ### Any document -/

/-- A character that begins a number begins nothing else. -/
theorem verbatim_of_numeric {c : Char} (numeric : c = '-' ∨ Text.isAsciiDigit c = true)
    (depth : Nat) (cs : List Char) (p : Place) :
    verbatim depth ⟨c :: cs, p⟩ = (number c >>= fun n => pure (.number n)) ⟨c :: cs, p⟩ := by
  have solid := (opens_of_sign_or_digit numeric).1
  have spaces : next ⟨c :: cs, p⟩ = .ok (some c, ⟨c :: cs, p⟩) := by
    rw [next_eq, List.dropWhile_cons_of_neg (by simp [solid]),
      List.takeWhile_cons_of_neg (by simp [solid])]
    rfl
  rw [verbatim.eq_def, bind_of_ok spaces]
  refine congrFun ?_ _
  split
  case h_1 other => cases other
  case h_8 _ _ _ _ _ _ other =>
    cases other
    rw [if_pos numeric]
  all_goals
    rename_i other
    cases other
    rcases numeric with dash | digit
    · cases dash
    · cases digit

theorem takes_verbatim_number {c : Char} {cs rest : List Char} {n : Number} (depth : Nat)
    (numeric : c = '-' ∨ Text.isAsciiDigit c = true) (taken : Takes (number c) (c :: cs) n rest) :
    Takes (verbatim depth) (c :: cs) (.number n) rest := by
  intro p
  rw [verbatim_of_numeric numeric]
  have read : Takes (number c >>= fun n => pure (Json.number n)) (c :: cs) (.number n) rest :=
    taken.bind (.pure _ rest)
  exact read p

/-- A document that the depth allows is read back. -/
theorem takes_verbatim (j : Json) : ∀ depth, j.fits = true → j.nesting ≤ depth →
    TakesText (verbatim depth) j j := by
  induction j using induct with
  | null =>
    intro depth _ _ rest _
    rw [verbatim.eq_def]
    exact (Takes.next rfl _).bind
      ((Takes.skip 'n' _).bind ((Takes.word "ull".toList rest).bind (.pure _ _)))
  | bool b =>
    intro depth _ _ rest _
    rw [verbatim.eq_def]
    cases b
    · exact (Takes.next rfl _).bind
        ((Takes.skip 'f' _).bind ((Takes.word "alse".toList rest).bind (.pure _ _)))
    · exact (Takes.next rfl _).bind
        ((Takes.skip 't' _).bind ((Takes.word "rue".toList rest).bind (.pure _ _)))
  | number n =>
    intro depth fits _ rest ends
    cases n with
    | real x => cases fits
    | whole m =>
      obtain ⟨c, cs, text, numeric, taken⟩ := takes_number fits ends
      rw [compactChars, Number.text, text]
      exact takes_verbatim_number depth numeric taken
  | string s =>
    intro depth _ _ rest _
    rw [verbatim.eq_def]
    exact (Takes.next rfl _).bind
      ((Takes.skip '"' _).bind ((takes_string s rest).bind (.pure _ _)))
  | array items ih =>
    intro depth fits nests rest _
    obtain ⟨d, rfl⟩ := Nat.exists_eq_succ_of_ne_zero (Nat.ne_zero_of_lt nests)
    have itemsFit := fitsItems_iff.mp fits
    have itemsNest := nestingItems_le_iff.mp (Nat.le_of_succ_le_succ nests)
    have taken := @takes_listOf _ (verbatim d) id items itemsFit
      (fun j mem => ih j mem d (itemsFit j mem) (itemsNest j mem)) rest
    rw [List.map_id] at taken
    rw [verbatim.eq_def, compactChars_array]
    exact (Takes.next rfl _).bind (taken.bind (.pure _ rest))
  | object fields ih =>
    intro depth fits nests rest _
    obtain ⟨d, rfl⟩ := Nat.exists_eq_succ_of_ne_zero (Nat.ne_zero_of_lt nests)
    have fieldsFit := fitsFields_iff.mp fits
    have fieldsNest := nestingFields_le_iff.mp (Nat.le_of_succ_le_succ nests)
    have taken := @takes_objectOf _ (verbatim d) id fields
      (fun p mem => ih p mem d (fieldsFit p mem) (fieldsNest p mem)) rest
    rw [show fields.map (fun p => (p.1, id p.2)) = fields from List.map_id fields] at taken
    rw [verbatim.eq_def, compactChars_object]
    exact (Takes.next rfl _).bind (taken.bind (.pure _ rest))

end Reader

end DbConsole.Json
