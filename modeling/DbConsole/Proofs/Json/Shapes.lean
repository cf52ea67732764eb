import DbConsole.Proofs.Json.Fields

/-!
The document that a lawful shape writes for a value is read, and accepted, as that value.
-/
set_option autoImplicit false

namespace DbConsole.Json

/-! ### Scalars -/

theorem natural?_write {bits : Nat} (n : Fin (Nat.pow 2 bits)) :
    natural? bits (.whole n.val) = .ok n :=
  dif_pos ⟨Int.natCast_nonneg _, n.isLt⟩

theorem integer?_write (n : Int64) : integer? (.whole n.toInt) = .ok n := by
  have low := n.le_toInt
  have high := n.toInt_lt
  rw [integer?, if_pos (by rw [cast_two_pow_63]; omega), Int64.ofInt_toInt]

theorem fits_natural {bits : Nat} (narrow : bits ≤ 64) (n : Fin (Nat.pow 2 bits)) :
    (Number.whole n.val).fits = true := by
  have small : n.val < 2 ^ 64 :=
    Nat.lt_of_lt_of_le n.isLt (Nat.pow_le_pow_right (by decide) narrow)
  rw [Number.fits_whole_iff]
  omega

theorem fits_integer (n : Int64) : (Number.whole n.toInt).fits = true := by
  have low := n.le_toInt
  have high := n.toInt_lt
  rw [Number.fits_whole_iff]
  omega

theorem chosen?_write {names : List String} (apart : names.Nodup) (i : Fin names.length) :
    chosen? names (names.get i) = .ok i := by
  have found : names.finIdxOf? (names.get i) = some i := by
    refine List.finIdxOf?_eq_some_iff.mpr ⟨rfl, fun j before same => ?_⟩
    exact absurd (Fin.ext (apart.getElem_inj_iff.mp same)) (Fin.ne_of_lt before)
  rw [chosen?, found]

theorem Shape.write_ne_null : (s : Shape) → s.neverNull = true → (v : s.Value) → s.write v ≠ .null
  | .bool, _, _ | .natural _, _, _ | .integer, _, _ | .text, _, _ | .choice _, _, _
  | .list _, _, _ | .dictionary _, _, _ | .record _ _, _, _ | .tagged _ _ _, _, _ => by
    rintro ⟨⟩

/-! ### What is written fits -/

mutual
theorem Shape.fits_write : (s : Shape) → s.lawful = true → (v : s.Value) → s.Sound v →
    (s.write v).fits = true
  | .any, _, _, sound => sound.1
  | .bool, _, _, _ | .text, _, _, _ | .unit, _, _, _ | .choice _, _, _, _ => rfl
  | .natural _, lawful, n, _ => fits_natural (of_decide_eq_true lawful) n
  | .integer, _, n, _ => fits_integer n
  | .optional item, lawful, none, _ => rfl
  | .optional item, lawful, some a, sound =>
    item.fits_write (Bool.and_eq_true_iff.mp lawful).2 a (sound a rfl)
  | .list item, lawful, vs, sound => by
    refine fitsItems_iff.mpr fun j mem => ?_
    obtain ⟨a, held, rfl⟩ := List.mem_map.mp mem
    exact item.fits_write lawful a (sound a held)
  | .dictionary item, lawful, d, sound => by
    refine fitsFields_iff.mpr fun p mem => ?_
    obtain ⟨q, held, rfl⟩ := List.mem_map.mp mem
    exact item.fits_write lawful q.2 (sound q held)
  | .record _ fields, lawful, v, sound =>
    fitsFields_iff.mpr (fields.fits_write (Bool.and_eq_true_iff.mp lawful).2 v sound)
  | .tagged _ tag cases, lawful, v, sound =>
    fitsFields_iff.mpr (cases.fits_write tag (Bool.and_eq_true_iff.mp lawful).2 v sound)

theorem Fields.fits_write : (fs : Fields) → fs.lawful = true → (v : fs.Value) → fs.Sound v →
    ∀ p ∈ fs.write v, p.2.fits = true
  | .nil, _, _, _ => by rintro _ ⟨⟩
  | .cons key shape presence rest, lawful, (slot, v), sound => by
    obtain ⟨front, later⟩ := Bool.and_eq_true_iff.mp lawful
    have own := (Bool.and_eq_true_iff.mp front).2
    have others := rest.fits_write later v sound.2
    rw [Fields.write]
    cases written : presence.write shape.write slot with
    | none => exact others
    | some j =>
      rintro p (_ | ⟨_, mem⟩)
      · rcases Presence.held_of_written written with ⟨a, held, rfl⟩ | ⟨-, -, rfl⟩
        · exact shape.fits_write own a (sound.1 a held)
        · rfl
      · exact others p mem

theorem Cases.fits_write (tag : String) : (cs : Cases) → cs.lawful tag = true → (v : cs.Value) →
    cs.Sound v → ∀ p ∈ cs.write tag v, p.2.fits = true
  | .cons name fields rest, lawful, .inl f, sound => by
    obtain ⟨front, -⟩ := Bool.and_eq_true_iff.mp lawful
    rintro p (_ | ⟨_, mem⟩)
    · rfl
    · exact fields.fits_write (Bool.and_eq_true_iff.mp front).2 f sound p mem
  | .cons name fields rest, lawful, .inr r, sound =>
    rest.fits_write tag (Bool.and_eq_true_iff.mp lawful).2 r sound
end

/-! ### What is written is accepted -/

theorem acceptItems_write {α : Type} {item : Json → Except Cause α} {write : α → Json} {as : List α}
    (each : ∀ a ∈ as, item (write a) = .ok a) : acceptItems item (as.map write) = .ok as := by
  induction as with
  | nil => rfl
  | cons a as ih =>
    rw [List.map_cons, acceptItems, each a List.mem_cons_self, ih fun b mem => each b (.tail a mem)]
    rfl

theorem acceptPairs_write {α : Type} {item : Json → Except Cause α} {write : α → Json}
    {ps : List (String × α)} (each : ∀ p ∈ ps, item (write p.2) = .ok p.2) :
    acceptPairs item (ps.map fun p => (p.1, write p.2)) = .ok ps := by
  induction ps with
  | nil => rfl
  | cons p ps ih =>
    rw [List.map_cons, acceptPairs, each p List.mem_cons_self,
      ih fun q mem => each q (.tail p mem)]
    rfl

/-- What the document of a tagged value consists of, and that the fields beside the tag are
accepted. -/
def Cases.Splits (tag : String) (cs : Cases) (v : cs.Value) : Prop :=
  ∃ name others, name ∈ cs.names ∧ cs.write tag v = (tag, .string name) :: others ∧
    (∀ p ∈ others, p.1 ≠ tag) ∧
      ∀ what known, cs.accept what known (.object others) name = .ok v

theorem Fields.key_of_mem_write : (fs : Fields) → (v : fs.Value) → ∀ p ∈ fs.write v, p.1 ∈ fs.keys
  | .nil, _ => by rintro _ ⟨⟩
  | .cons key shape presence rest, (slot, v) => by
    have others := rest.key_of_mem_write v
    rw [Fields.write]
    cases presence.write shape.write slot with
    | none => exact fun p mem => .tail key (others p mem)
    | some j =>
      rintro p (_ | ⟨_, mem⟩)
      · exact .head _
      · exact .tail key (others p mem)

theorem Fields.accept_filled (fields : Fields) {v : fields.Value}
    (filled : acceptFields fields.acceptKey (fields.write v) fields.blank = .ok (fields.given v)) :
    (do
      let p ← acceptFields fields.acceptKey (fields.write v) fields.blank
      (fields.complete p).mapError Cause.missingField) = .ok v := by
  rw [filled]
  exact fields.completes v _

mutual
theorem Shape.accept_write : (s : Shape) → s.lawful = true → (v : s.Value) → s.Sound v →
    s.accept (s.write v) = .ok v
  | .any, _, j, sound => congrArg Except.ok (canonical_of_ordered j sound.2)
  | .bool, _, _, _ | .text, _, _, _ | .unit, _, _, _ => rfl
  | .choice _, lawful, i, _ => chosen?_write (of_decide_eq_true lawful) i
  | .natural _, _, n, _ => natural?_write n
  | .integer, _, n, _ => integer?_write n
  | .optional item, lawful, none, _ => rfl
  | .optional item, lawful, some a, sound => by
    obtain ⟨solid, lawful⟩ := Bool.and_eq_true_iff.mp lawful
    have accepted := @Presence.accept_nullable _ item.accept _ false false
      (item.write_ne_null solid a)
    rw [item.accept_write lawful a (sound a rfl)] at accepted
    exact accepted
  | .list item, lawful, vs, sound =>
    acceptItems_write fun a held => item.accept_write lawful a (sound a held)
  | .dictionary item, lawful, d, sound => by
    have accepted := acceptPairs_write fun p held => item.accept_write lawful p.2 (sound p held)
    change (acceptPairs item.accept (d.entries.map fun p => (p.1, item.write p.2))).map Dict.ofList =
      .ok d
    rw [accepted]
    exact congrArg Except.ok (Dict.ofList_entries d)
  | .record name fields, lawful, v, sound => by
    obtain ⟨apart, lawful⟩ := Bool.and_eq_true_iff.mp lawful
    have filled := acceptFields_write fields v id (of_decide_eq_true apart)
      (fields.accepts_write lawful v sound) fun _ _ _ _ _ found => found
    exact fields.accept_filled filled
  | .tagged name tag cases, lawful, v, sound => by
    obtain ⟨apart, lawful⟩ := Bool.and_eq_true_iff.mp lawful
    obtain ⟨case, others, -, written, beside, accepted⟩ :=
      cases.splits_write tag (of_decide_eq_true apart) lawful v sound
    have found : ((tag, Json.string case) :: others).find? (·.1 == tag) =
        some (tag, .string case) := List.find?_cons_of_pos (beq_self_eq_true tag)
    have left : ((tag, Json.string case) :: others).filter (·.1 != tag) = others := by
      rw [List.filter_cons_of_neg (by simp), List.filter_eq_self.mpr]
      exact fun p mem => bne_iff_ne.mpr (beside p mem)
    change (match (cases.write tag v).find? (·.1 == tag) with
      | some (_, .string s) =>
        cases.accept name cases.names (.object ((cases.write tag v).filter (·.1 != tag))) s
      | some (_, j) => .error (.invalidType (.of j) "variant identifier")
      | none => .error (.missingField tag)) = .ok v
    rw [written, found, left]
    exact accepted name cases.names

theorem Fields.accepts_write : (fs : Fields) → fs.lawful = true → (v : fs.Value) → fs.Sound v →
    fs.Accepts v
  | .nil, _, _, _ => trivial
  | .cons key shape presence rest, lawful, (slot, v), sound => by
    obtain ⟨front, later⟩ := Bool.and_eq_true_iff.mp lawful
    obtain ⟨null, own⟩ := Bool.and_eq_true_iff.mp front
    refine ⟨fun j written => ?_, rest.accepts_write later v sound.2⟩
    refine Presence.accept_write (fun a held => shape.accept_write own a (sound.1 a held)) ?_ written
    intro may a _
    rw [may] at null
    exact shape.write_ne_null null a

theorem Cases.splits_write (tag : String) : (cs : Cases) → cs.names.Nodup → cs.lawful tag = true →
    (v : cs.Value) → cs.Sound v → cs.Splits tag v
  | .cons name fields rest, apart, lawful, .inl f, sound => by
    obtain ⟨front, -⟩ := Bool.and_eq_true_iff.mp lawful
    obtain ⟨keys, lawful⟩ := Bool.and_eq_true_iff.mp front
    obtain ⟨untagged, keys⟩ := List.nodup_cons.mp (of_decide_eq_true keys)
    refine ⟨name, fields.write f, .head _, rfl, ?_, fun what known => ?_⟩
    · intro p mem same
      exact untagged (same ▸ fields.key_of_mem_write f p mem)
    · have filled := acceptFields_write fields f id keys (fields.accepts_write lawful f sound)
        fun _ _ _ _ _ found => found
      have own : (Cases.cons name fields rest).accept what known (.object (fields.write f)) name =
          (do
            let p ← acceptFields fields.acceptKey (fields.write f) fields.blank
            let v ← (fields.complete p).mapError Cause.missingField
            return (Sum.inl v : fields.Value ⊕ rest.Value)) := if_pos rfl
      rw [own, show acceptFields fields.acceptKey (fields.write f) fields.blank = _ from filled]
      change ((fields.complete (fields.given f)).mapError Cause.missingField >>= fun v =>
        Except.ok (Sum.inl v)) = _
      rw [fields.completes f]
      rfl
  | .cons name fields rest, apart, lawful, .inr r, sound => by
    obtain ⟨fresh, apart⟩ := List.nodup_cons.mp apart
    obtain ⟨case, others, known, written, beside, accepted⟩ :=
      rest.splits_write tag apart (Bool.and_eq_true_iff.mp lawful).2 r sound
    refine ⟨case, others, .tail _ known, written, beside, fun what all => ?_⟩
    have other : case ≠ name := ne_of_mem_of_not_mem known fresh
    change (if case = name then _ else (rest.accept what all (.object others) case).map Sum.inr) = _
    rw [if_neg other, accepted]
    rfl
end

end DbConsole.Json
