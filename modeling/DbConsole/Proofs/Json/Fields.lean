import DbConsole.Json.Shape.Read
import DbConsole.Proofs.Json.Lawful
import Mathlib.Data.List.Nodup

/-!
Records: each field that is written is read into its place, whatever the fields before it, and the
fields together make up the record.
-/
set_option autoImplicit false

namespace DbConsole.Json

/-! ### One field -/

namespace Presence

variable {α : Type} {write : α → Json} {p : Presence} {slot : p.Slot α} {j : Json}

/-- A field that is not written has given nothing. -/
theorem given_of_unwritten (unwritten : p.write write slot = none) : p.given slot = none := by
  cases p with
  | required => cases unwritten
  | defaulted =>
    cases slot with
    | none => rfl
    | some a => cases unwritten
  | nullable inList omitted =>
    cases slot with
    | some a => cases unwritten
    | none =>
      cases omitted with
      | true => rfl
      | false => cases unwritten

/-- How a field is written: as its value, or as a null that stands for none. -/
inductive Writes (write : α → Json) : (p : Presence) → p.Slot α → Json → Prop
  | required (a : α) : Writes write .required a (write a)
  | defaulted (a : α) : Writes write .defaulted (some a) (write a)
  | nullable (inList omitted : Bool) (a : α) :
    Writes write (.nullable inList omitted) (some a) (write a)
  | null (inList : Bool) : Writes write (.nullable inList false) none .null

theorem writes_of_written (written : p.write write slot = some j) : Writes write p slot j := by
  cases p with
  | required =>
    cases written
    exact .required slot
  | defaulted =>
    cases slot with
    | none => cases written
    | some a =>
      cases written
      exact .defaulted a
  | nullable inList omitted =>
    cases slot with
    | some a =>
      cases written
      exact .nullable inList omitted a
    | none =>
      cases omitted with
      | true => cases written
      | false =>
        cases written
        exact .null inList

theorem held_of_written (written : p.write write slot = some j) :
    (∃ a, p.held slot = some a ∧ j = write a) ∨
      (p.mayBeNull = true ∧ p.held slot = none ∧ j = .null) := by
  cases writes_of_written written with
  | required a | defaulted a | nullable inList omitted a => exact .inl ⟨a, rfl, rfl⟩
  | null inList => exact .inr ⟨rfl, rfl, rfl⟩

theorem eq_of_written {a : α} (written : p.write write slot = some j) (held : p.held slot = some a) :
    j = write a := by
  rcases held_of_written written with ⟨b, held', rfl⟩ | ⟨-, vacant, -⟩
  · rw [held] at held'
    rw [Option.some.inj held']
  · rw [held] at vacant
    cases vacant

end Presence

namespace Reader

variable {α : Type} {item : Reader α} {write : α → Json} {p : Presence} {slot : p.Slot α} {j : Json}

theorem takes_null (rest : List Char) (inList omitted : Bool) :
    Takes (Presence.read item (.nullable inList omitted)) (compactChars .null rest) none rest :=
  (Takes.next rfl _).bind
    ((Takes.skip 'n' _).bind ((Takes.word "ull".toList rest).bind (.pure none rest)))

/-- A value whose document is not null is read past the question whether it is one. -/
theorem takes_some {a : α} {inList omitted : Bool} (fits : (write a).fits = true)
    (solid : write a ≠ .null) (taken : TakesText item (write a) a) :
    TakesText (Presence.read item (.nullable inList omitted)) (write a) (some a) := by
  intro rest ends
  have takenHere := taken rest ends
  obtain ⟨c, cs, text, opens, letter⟩ := exists_opens fits ends
  rw [text] at takenHere ⊢
  refine (Takes.next opens.1 cs).bind ?_
  split
  case h_1 other =>
    cases other
    exact absurd (letter rfl) solid
  case h_2 => exact takenHere.bind (.pure (some a) rest)

theorem takes_presence (fits : ∀ a, p.held slot = some a → (write a).fits = true)
    (each : ∀ a, p.held slot = some a → TakesText item (write a) a)
    (solid : p.mayBeNull = true → ∀ a, p.held slot = some a → write a ≠ .null)
    (written : p.write write slot = some j) :
    ∃ given, p.given slot = some given ∧ TakesText (p.read item) j given := by
  cases Presence.writes_of_written written with
  | required a | defaulted a => exact ⟨a, rfl, each a rfl⟩
  | nullable inList omitted a => exact ⟨some a, rfl, takes_some (fits a rfl) (solid rfl a rfl) (each a rfl)⟩
  | null inList => exact ⟨none, rfl, fun rest _ => takes_null rest inList false⟩

end Reader

/-! ### All fields -/

open Reader

/-- Whether each field that is written is read back at the depth. -/
def Fields.Reads (d : Nat) : (fs : Fields) → fs.Value → Prop
  | .nil, _ => True
  | .cons _ shape presence rest, (slot, v) =>
    (∀ j, presence.write shape.write slot = some j →
      ∃ given, presence.given slot = some given ∧
        TakesText (presence.read (shape.read d)) j given) ∧ rest.Reads d v

/-- The reader of a whole record goes on with the keys of `fs`, its later fields, as those do. -/
def Fields.Embeds {π : Type} (d : Nat) (fs : Fields) (take : String → π → Option (Reader π))
    (into : fs.Partial → π) : Prop :=
  ∀ name ∈ fs.keys, ∀ m r, fs.readKey d name m = some r → ∃ r', take name (into m) = some r' ∧
    ∀ before m' after, Takes r before m' after → Takes r' before (into m') after

section Record

variable {π : Type} {d : Nat} {take : String → π → Option (Reader π)} {key : String} {shape : Shape}
  {presence : Presence} {rest : Fields}
  {into : (Fields.cons key shape presence rest).Partial → π}

theorem Fields.Embeds.tail (embeds : (Fields.cons key shape presence rest).Embeds d take into)
    (fresh : key ∉ rest.keys) (given : Option (presence.Given shape.Value)) :
    rest.Embeds d take fun m => into (given, m) := by
  intro name mem m r found
  have other : name ≠ key := ne_of_mem_of_not_mem mem fresh
  have lifted : (Fields.cons key shape presence rest).readKey d name (given, m) =
      some (do return (given, ← r)) := by
    change (if name = key then _ else (rest.readKey d name m).map _) = _
    rw [if_neg other, found]
    rfl
  obtain ⟨r', taken, onward⟩ := embeds name (.tail key mem) (given, m) _ lifted
  exact ⟨r', taken, fun before m' after reads =>
    onward before (given, m') after (reads.bind (.pure (given, m') after))⟩

theorem Fields.Embeds.head (embeds : (Fields.cons key shape presence rest).Embeds d take into)
    {j : Json} {given : presence.Given shape.Value}
    (taken : TakesText (presence.read (shape.read d)) j given) {after : List Char} (ends : Ends after)
    (m : rest.Partial) : ∃ r', take key (into (none, m)) = some r' ∧
      Takes r' (':' :: compactChars j after) (into (some given, m)) after := by
  have own : (Fields.cons key shape presence rest).readKey d key (none, m) = some (do
      colon
      let a ← presence.read (shape.read d)
      return (some a, m)) := if_pos rfl
  obtain ⟨r', found, onward⟩ := embeds key List.mem_cons_self (none, m) _ own
  exact ⟨r', found, onward _ _ _
    ((takes_colon _).bind ((taken after ends).bind (.pure (some given, m) after)))⟩

end Record

/-- The fields that are written, read in the order of the record, fill it. -/
theorem takes_fieldLoop {π : Type} {d : Nat} {take : String → π → Option (Reader π)}
    (after : List Char) : ∀ (fs : Fields) (v : fs.Value) (into : fs.Partial → π) (fuel : Nat)
      (first : Bool), fs.keys.Nodup → fs.Reads d v → fs.Embeds d take into →
      (fs.write v).length < fuel →
      Takes (fieldLoop take fuel first (into fs.blank)) (fieldsText first (fs.write v) after)
        (into (fs.given v)) after
  | .nil, (), into, fuel, first, _, _, _, enough => by
    obtain ⟨fuel, rfl⟩ := Nat.exists_eq_succ_of_ne_zero (Nat.ne_zero_of_lt enough)
    cases first <;>
    · exact (takes_moreFields_close _ after).bind ((Takes.skip '\x7d' after).bind (.pure _ after))
  | .cons key shape presence rest, (slot, v), into, fuel, first, apart, reads, embeds, enough => by
    obtain ⟨fresh, apart⟩ := List.nodup_cons.mp apart
    cases written : presence.write shape.write slot with
    | none =>
      have text : (Fields.cons key shape presence rest).write (slot, v) = rest.write v := by
        rw [Fields.write, written]
      rw [text] at enough ⊢
      rw [Fields.given, Presence.given_of_unwritten written]
      exact takes_fieldLoop after rest v _ fuel first apart reads.2 (embeds.tail fresh none) enough
    | some j =>
      have text : (Fields.cons key shape presence rest).write (slot, v) =
          (key, j) :: rest.write v := by
        rw [Fields.write, written]
      rw [text] at enough ⊢
      obtain ⟨fuel, rfl⟩ := Nat.exists_eq_succ_of_ne_zero (Nat.ne_zero_of_lt enough)
      obtain ⟨given, filled, taken⟩ := reads.1 j written
      obtain ⟨r, found, takenHere⟩ :=
        embeds.head taken (ends_compactFields (rest.write v) after) rest.blank
      have onward := takes_fieldLoop after rest v _ fuel false apart reads.2
        (embeds.tail fresh (some given)) (Nat.lt_of_succ_lt_succ enough)
      rw [Fields.given, filled]
      refine (takes_moreFields first key j _ after).bind ((takes_key key _).bind ?_)
      rw [Fields.blank, found]
      exact takenHere.bind onward

/-! ### Fields that are there as documents -/

namespace Presence

variable {α : Type} {item : Json → Except Cause α} {write : α → Json} {p : Presence}
  {slot : p.Slot α} {j : Json}

theorem accept_nullable (inList omitted : Bool) (solid : j ≠ .null) :
    (Presence.nullable inList omitted).accept item j = (item j).map some := by
  cases j <;> first | rfl | contradiction

theorem accept_write (each : ∀ a, p.held slot = some a → item (write a) = .ok a)
    (solid : p.mayBeNull = true → ∀ a, p.held slot = some a → write a ≠ .null)
    (written : p.write write slot = some j) :
    ∃ given, p.given slot = some given ∧ p.accept item j = .ok given := by
  cases writes_of_written written with
  | required a | defaulted a => exact ⟨a, rfl, each a rfl⟩
  | nullable inList omitted a =>
    refine ⟨some a, rfl, ?_⟩
    rw [accept_nullable _ _ (solid rfl a rfl), each a rfl]
    rfl
  | null inList => exact ⟨none, rfl, rfl⟩

end Presence

/-- Whether each field that is written is accepted. -/
def Fields.Accepts : (fs : Fields) → fs.Value → Prop
  | .nil, _ => True
  | .cons _ shape presence rest, (slot, v) =>
    (∀ j, presence.write shape.write slot = some j →
      ∃ given, presence.given slot = some given ∧ presence.accept shape.accept j = .ok given) ∧
      rest.Accepts v

/-- What takes the fields of a whole record goes on with the keys of `fs`, its later fields, as
those do. -/
def Fields.AcceptEmbeds {π : Type} (fs : Fields)
    (take : String → Json → π → Option (Except Cause π)) (into : fs.Partial → π) : Prop :=
  ∀ name ∈ fs.keys, ∀ j m m', fs.acceptKey name j m = some (.ok m') →
    take name j (into m) = some (.ok (into m'))

section AcceptRecord

variable {π : Type} {take : String → Json → π → Option (Except Cause π)} {key : String}
  {shape : Shape} {presence : Presence} {rest : Fields}
  {into : (Fields.cons key shape presence rest).Partial → π}

theorem Fields.AcceptEmbeds.tail
    (embeds : (Fields.cons key shape presence rest).AcceptEmbeds take into)
    (fresh : key ∉ rest.keys) (given : Option (presence.Given shape.Value)) :
    rest.AcceptEmbeds take fun m => into (given, m) := by
  intro name mem j m m' found
  have other : name ≠ key := ne_of_mem_of_not_mem mem fresh
  refine embeds name (.tail key mem) j (given, m) (given, m') ?_
  change (if name = key then _ else (rest.acceptKey name j m).map _) = _
  rw [if_neg other, found]
  rfl

theorem Fields.AcceptEmbeds.head
    (embeds : (Fields.cons key shape presence rest).AcceptEmbeds take into) {j : Json}
    {given : presence.Given shape.Value} (accepted : presence.accept shape.accept j = .ok given)
    (m : rest.Partial) : take key j (into (none, m)) = some (.ok (into (some given, m))) := by
  refine embeds key List.mem_cons_self j (none, m) (some given, m) ?_
  have own : (Fields.cons key shape presence rest).acceptKey key j (none, m) =
      some ((presence.accept shape.accept j).map fun a => (some a, m)) := if_pos rfl
  rw [own, accepted]
  rfl

end AcceptRecord

theorem acceptFields_write {π : Type} {take : String → Json → π → Option (Except Cause π)} :
    ∀ (fs : Fields) (v : fs.Value) (into : fs.Partial → π), fs.keys.Nodup → fs.Accepts v →
      fs.AcceptEmbeds take into →
      acceptFields take (fs.write v) (into fs.blank) = .ok (into (fs.given v))
  | .nil, (), _, _, _, _ => rfl
  | .cons key shape presence rest, (slot, v), into, apart, accepts, embeds => by
    obtain ⟨fresh, apart⟩ := List.nodup_cons.mp apart
    cases written : presence.write shape.write slot with
    | none =>
      rw [Fields.write, written, Fields.given, Presence.given_of_unwritten written]
      exact acceptFields_write rest v _ apart accepts.2 (embeds.tail fresh none)
    | some j =>
      obtain ⟨given, filled, accepted⟩ := accepts.1 j written
      have here := embeds.head accepted rest.blank
      rw [Fields.write, written, Fields.given, filled, acceptFields, Fields.blank, here]
      exact acceptFields_write rest v _ apart accepts.2 (embeds.tail fresh (some given))

end DbConsole.Json
