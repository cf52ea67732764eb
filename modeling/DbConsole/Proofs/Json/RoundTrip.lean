import DbConsole.Proofs.Json.Shapes

/-!
The text that a lawful shape writes for a value is read as that value.
-/
set_option autoImplicit false

namespace DbConsole.Json

open Reader

namespace Reader

/-! ### Tagged objects -/

variable {tag : String} {names : List String} {d fuel : Nat} {rest : List Char}

theorem takes_settle {α : Type} {r : Except Cause α} {a : α} (settled : r = .ok a) (rest : List Char) :
    Takes (settle r) rest a rest := by
  rw [settled]
  exact .pure a rest

/-- The fields behind the tag are set aside as they are. -/
theorem takes_taggedLoop_others (found : Option String) : ∀ (others before : List (String × Json))
    (fuel : Nat), (∀ p ∈ others, p.1 ≠ tag) → (∀ p ∈ others, p.2.fits = true) →
      (∀ p ∈ others, p.2.nesting ≤ d) → others.length < fuel →
      Takes (taggedLoop tag names d fuel false found before) (compactFields others rest)
        (found, before.reverse ++ others) rest := by
  intro others
  induction others with
  | nil =>
    intro before fuel _ _ _ enough
    obtain ⟨fuel, rfl⟩ := Nat.exists_eq_succ_of_ne_zero (Nat.ne_zero_of_lt enough)
    rw [List.append_nil]
    exact (takes_moreFields_close false rest).bind ((Takes.skip '\x7d' rest).bind (.pure _ rest))
  | cons p others ih =>
    intro before fuel beside fit nest enough
    obtain ⟨fuel, rfl⟩ := Nat.exists_eq_succ_of_ne_zero (Nat.ne_zero_of_lt enough)
    have taken := takes_verbatim p.2 d (fit p (.head _)) (nest p (.head _)) _
      (ends_compactFields others rest)
    have onward := ih (p :: before) fuel (fun q mem => beside q (.tail p mem))
      (fun q mem => fit q (.tail p mem)) (fun q mem => nest q (.tail p mem))
      (Nat.lt_of_succ_lt_succ enough)
    rw [List.reverse_cons, List.append_assoc, List.singleton_append] at onward
    exact (takes_moreFields false p.1 p.2 others rest).bind ((takes_key p.1 _).bind
      (.ite_neg (beside p (.head _)) ((takes_colon _).bind (taken.bind onward))))

theorem takes_taggedParts {what name : String} {i : Fin names.length}
    (chosen : chosen? names name = .ok i) {others : List (String × Json)}
    (beside : ∀ p ∈ others, p.1 ≠ tag) (fit : ∀ p ∈ others, p.2.fits = true)
    (nest : ∀ p ∈ others, p.2.nesting ≤ d) (rest : List Char) :
    Takes (taggedParts what tag names (d + 1))
      (compactChars (.object ((tag, .string name) :: others)) rest)
      (names.get i, .object others) rest := by
  have long := length_le_fieldsText ((tag, Json.string name) :: others) rest
  rw [List.length_cons] at long
  have taken := @takes_taggedLoop_others tag names d rest (some (names.get i)) others []
    (fieldsText true ((tag, Json.string name) :: others) rest).length beside fit nest (by omega)
  have named : Takes identifier (compactChars (.string name) (compactFields others rest)) name
      (compactFields others rest) := (Takes.next rfl _).bind (takes_key name _)
  have whole : Takes (taggedLoop tag names d
      ((fieldsText true ((tag, Json.string name) :: others) rest).length + 1) true none [])
      (fieldsText true ((tag, Json.string name) :: others) rest) (some (names.get i), others) rest :=
    (takes_moreFields true tag _ others rest).bind ((takes_key tag _).bind (.ite_pos rfl
      ((takes_colon _).bind (named.bind ((takes_settle chosen _).bind taken)))))
  rw [compactChars_object]
  exact (Takes.next rfl _).bind
    ((Takes.skip '\x7b' _).bind ((Takes.length _).bind (whole.bind (.pure _ rest))))

end Reader

/-! ### Reading what was written -/

namespace Reader

theorem takes_numeric {α : Type} {expected : String} {convert : Number → Except Cause α} {m : Int}
    {a : α} (fits : (Number.whole m).fits = true) (converted : convert (.whole m) = .ok a) :
    TakesText (numeric expected convert) (.number (.whole m)) a := by
  intro rest ends
  obtain ⟨c, cs, text, begins, taken⟩ := takes_number fits ends
  rw [compactChars, Number.text, text]
  exact (Takes.next (opens_of_sign_or_digit begins).1 cs).bind
    (.ite_pos begins (taken.bind (takes_settle converted rest)))

theorem takes_dictionary {α : Type} {item : Reader α} {write : α → Json} (d : Dict α)
    (each : ∀ p ∈ d.entries, TakesText item (write p.2) p.2) (rest : List Char) :
    Takes (objectOf item >>= fun ps => pure (Dict.ofList ps))
      ('\x7b' :: fieldsText true (d.entries.map fun p => (p.1, write p.2)) rest) d rest := by
  refine (takes_objectOf each rest).bind ?_
  rw [Dict.ofList_entries]
  exact .pure d rest

end Reader

mutual
theorem Shape.takes_read : (s : Shape) → s.lawful = true → (v : s.Value) → s.Sound v →
    (depth : Nat) → (s.write v).nesting ≤ depth → TakesText (s.read depth) (s.write v) v
  | .any, _, j, sound, depth, nests => by
    intro rest ends p
    obtain ⟨p', read⟩ := takes_verbatim j depth sound.1 nests rest ends p
    refine ⟨p', ?_⟩
    change (verbatim depth ⟨compactChars j rest, p⟩).map (fun r => (r.1.canonical, r.2)) = _
    rw [read]
    exact congrArg (fun j => Except.ok (j, _)) (canonical_of_ordered j sound.2)
  | .bool, _, true, _, _, _ => fun rest _ =>
    (Takes.next rfl _).bind
      ((Takes.skip 't' _).bind ((Takes.word "rue".toList rest).bind (.pure _ rest)))
  | .bool, _, false, _, _, _ => fun rest _ =>
    (Takes.next rfl _).bind
      ((Takes.skip 'f' _).bind ((Takes.word "alse".toList rest).bind (.pure _ rest)))
  | .natural bits, lawful, n, _, _, _ =>
    takes_numeric (fits_natural (of_decide_eq_true lawful) n) (natural?_write n)
  | .integer, _, n, _, _, _ => takes_numeric (fits_integer n) (integer?_write n)
  | .text, _, t, _, _, _ => fun rest _ => (Takes.next rfl _).bind (takes_key t rest)
  | .unit, _, (), _, _, _ => fun rest _ =>
    (Takes.next rfl _).bind ((Takes.skip 'n' _).bind (.word "ull".toList rest))
  | .choice names, lawful, i, _, depth, _ => fun rest _ =>
    (Takes.next rfl _).bind ((takes_key (names.get i) rest).bind
      (takes_settle (chosen?_write (of_decide_eq_true lawful) i) rest))
  | .optional item, lawful, none, sound, depth, nests => fun rest _ => takes_null rest false false
  | .optional item, lawful, some a, sound, depth, nests => by
    obtain ⟨solid, lawful⟩ := Bool.and_eq_true_iff.mp lawful
    exact takes_some (item.fits_write lawful a (sound a rfl)) (item.write_ne_null solid a)
      (item.takes_read lawful a (sound a rfl) depth nests)
  | .list item, lawful, vs, sound, depth, nests => by
    intro rest _
    obtain ⟨d, rfl⟩ := Nat.exists_eq_succ_of_ne_zero (Nat.ne_zero_of_lt nests)
    have nest := nestingItems_le_iff.mp (Nat.le_of_succ_le_succ nests)
    have taken := takes_listOf (fun a held => item.fits_write lawful a (sound a held))
      (fun a held => item.takes_read lawful a (sound a held) d (nest _ (List.mem_map_of_mem held)))
      rest
    rw [Shape.write, compactChars_array]
    exact (Takes.next rfl _).bind taken
  | .dictionary item, lawful, d, sound, depth, nests => by
    intro rest _
    obtain ⟨e, rfl⟩ := Nat.exists_eq_succ_of_ne_zero (Nat.ne_zero_of_lt nests)
    have nest := nestingFields_le_iff.mp (Nat.le_of_succ_le_succ nests)
    have taken := takes_dictionary d (fun p held =>
      item.takes_read lawful p.2 (sound p held) e (nest _ (List.mem_map_of_mem held))) rest
    rw [Shape.write, compactChars_object]
    exact (Takes.next rfl _).bind taken
  | .record name fields, lawful, v, sound, depth, nests => by
    intro rest _
    obtain ⟨apart, lawful⟩ := Bool.and_eq_true_iff.mp lawful
    obtain ⟨d, rfl⟩ := Nat.exists_eq_succ_of_ne_zero (Nat.ne_zero_of_lt nests)
    have nest := nestingFields_le_iff.mp (Nat.le_of_succ_le_succ nests)
    have taken := takes_fieldLoop rest fields v id _ true (of_decide_eq_true apart)
      (fields.reads_write lawful v sound d nest)
      (fun _ _ _ r found => ⟨r, found, fun _ _ _ taken => taken⟩)
      (Nat.lt_succ_of_le (length_le_fieldsText (fields.write v) rest))
    rw [Shape.write, compactChars_object]
    exact (Takes.next rfl _).bind ((Takes.skip '\x7b' _).bind ((Takes.length _).bind
      (taken.bind (takes_settle (fields.completes v _) rest))))
  | .tagged name tag cases, lawful, v, sound, depth, nests => by
    intro rest _
    obtain ⟨apart, lawful⟩ := Bool.and_eq_true_iff.mp lawful
    obtain ⟨case, others, known, written, beside, accepted⟩ :=
      cases.splits_write tag (of_decide_eq_true apart) lawful v sound
    have fits := cases.fits_write tag lawful v sound
    obtain ⟨d, rfl⟩ := Nat.exists_eq_succ_of_ne_zero (Nat.ne_zero_of_lt nests)
    have nest := nestingFields_le_iff.mp (Nat.le_of_succ_le_succ nests)
    rw [written] at fits nest
    obtain ⟨i, rfl⟩ := List.mem_iff_get.mp known
    have taken := @takes_taggedParts tag cases.names d name _ i
      (chosen?_write (of_decide_eq_true apart) i) others beside
      (fun p mem => fits p (.tail _ mem)) (fun p mem => nest p (.tail _ mem)) rest
    have text : (Shape.tagged name tag cases).write v =
        .object ((tag, .string (cases.names.get i)) :: others) := congrArg Json.object written
    rw [text]
    refine taken.bind ?_
    intro p
    refine ⟨p, ?_⟩
    change atLarge (cases.accept name cases.names (.object others) (cases.names.get i)) _ = _
    rw [accepted name cases.names]
    rfl

theorem Fields.reads_write : (fs : Fields) → fs.lawful = true → (v : fs.Value) → fs.Sound v →
    (d : Nat) → (∀ p ∈ fs.write v, p.2.nesting ≤ d) → fs.Reads d v
  | .nil, _, _, _, _, _ => trivial
  | .cons key shape presence rest, lawful, (slot, v), sound, d, nests => by
    obtain ⟨front, later⟩ := Bool.and_eq_true_iff.mp lawful
    obtain ⟨null, own⟩ := Bool.and_eq_true_iff.mp front
    rw [Fields.write] at nests
    refine ⟨fun j written => ?_, rest.reads_write later v sound.2 d fun p mem => ?_⟩
    · rw [written] at nests
      refine takes_presence (fun a held => shape.fits_write own a (sound.1 a held)) ?_ ?_ written
      · intro a held
        have nest := nests _ (.head _)
        rw [Presence.eq_of_written written held] at nest
        exact shape.takes_read own a (sound.1 a held) d nest
      · intro may a _
        rw [may] at null
        exact shape.write_ne_null null a
    · cases written : presence.write shape.write slot with
      | none =>
        rw [written] at nests
        exact nests p mem
      | some j =>
        rw [written] at nests
        exact nests p (.tail _ mem)
end

end DbConsole.Json
