import DbConsole.Json.Shape
import DbConsole.Json.Shape.Accept
import DbConsole.Proofs.Dict
import DbConsole.Proofs.Json.Documents

/-!
Which shapes carry their values without loss, and which values a shape carries.
-/
set_option autoImplicit false

namespace DbConsole.Json

mutual
/-- Whether the fields of every object ascend, as those of a document that has been read do. -/
def Ordered : Json → Prop
  | .array items => OrderedItems items
  | .object fields => Ascending fields ∧ OrderedFields fields
  | _ => True

def OrderedItems : List Json → Prop
  | [] => True
  | j :: rest => Ordered j ∧ OrderedItems rest

def OrderedFields : List (String × Json) → Prop
  | [] => True
  | (_, j) :: rest => Ordered j ∧ OrderedFields rest
end

mutual
theorem canonical_of_ordered : ∀ j : Json, j.Ordered → j.canonical = j
  | .null, _ | .bool _, _ | .number _, _ | .string _, _ => rfl
  | .array items, ordered => congrArg Json.array (canonicalItems_of_ordered items ordered)
  | .object fields, ordered => by
    rw [canonical, canonicalFields_of_ordered fields ordered.2, sortPairs_of_ascending ordered.1]

theorem canonicalItems_of_ordered : ∀ items : List Json, OrderedItems items →
    canonicalItems items = items
  | [], _ => rfl
  | j :: rest, ordered => by
    rw [canonicalItems, canonical_of_ordered j ordered.1, canonicalItems_of_ordered rest ordered.2]

theorem canonicalFields_of_ordered : ∀ fields : List (String × Json), OrderedFields fields →
    canonicalFields fields = fields
  | [], _ => rfl
  | (k, j) :: rest, ordered => by
    rw [canonicalFields, canonical_of_ordered j ordered.1,
      canonicalFields_of_ordered rest ordered.2]
end

/-! ### Presence -/

namespace Presence

variable {α : Type}

/-- The value of a slot. -/
def held : (p : Presence) → p.Slot α → Option α
  | .required, a => some a
  | .defaulted, a => a
  | .nullable _ _, a => a

/-- What a reader is given for a slot that has been written. -/
def given : (p : Presence) → p.Slot α → Option (p.Given α)
  | .required, a => some a
  | .defaulted, a => a
  | .nullable _ omitted, a =>
    match a with
    | some v => some (some v)
    | none => if omitted then none else some none

/-- The slot that a field has in the end, if it needs no more than it was given. -/
def settled (p : Presence) : Option (p.Given α) → Option (p.Slot α)
  | some a => some (p.slot a)
  | none => p.lacking

theorem settled_given (p : Presence) (slot : p.Slot α) : p.settled (p.given slot) = some slot := by
  cases p with
  | required => rfl
  | defaulted => cases slot <;> rfl
  | nullable inList omitted => cases slot <;> cases omitted <;> rfl

end Presence

/-- The partial record that the written fields fill. -/
def Fields.given : (fs : Fields) → fs.Value → fs.Partial
  | .nil, _ => ()
  | .cons _ _ presence rest, (slot, v) => (presence.given slot, rest.given v)

theorem Fields.complete_cons (key : String) (shape : Shape) (presence : Presence) (rest : Fields)
    (given : Option (presence.Given shape.Value)) (more : rest.Partial) :
    (Fields.cons key shape presence rest).complete (given, more) =
      match presence.settled given with
      | none => .error key
      | some slot => (rest.complete more).map fun v => (slot, v) := by
  cases given <;> rfl

theorem Fields.complete_given : (fs : Fields) → (v : fs.Value) → fs.complete (fs.given v) = .ok v
  | .nil, () => rfl
  | .cons key shape presence rest, (slot, v) => by
    rw [Fields.given, complete_cons, presence.settled_given slot, rest.complete_given v]
    rfl

theorem Fields.completes (fs : Fields) (v : fs.Value) (fault : String → Cause) :
    (fs.complete (fs.given v)).mapError fault = .ok v := by
  rw [fs.complete_given]
  rfl

/-! ### Lawful shapes -/

def Fields.keys : Fields → List String
  | .nil => []
  | .cons key _ _ rest => key :: rest.keys

/-- Whether no document of the shape is null. -/
def Shape.neverNull : Shape → Bool
  | .any => false
  | .unit => false
  | .optional _ => false
  | _ => true

def Presence.mayBeNull : Presence → Bool
  | .nullable _ _ => true
  | _ => false

mutual
/-- Whether documents of the shape tell its values apart: names and keys differ from each other, and
a null stands for nothing but a missing value. -/
def Shape.lawful : Shape → Bool
  | .natural bits => bits ≤ 64
  | .choice names => names.Nodup
  | .optional item => item.neverNull && item.lawful
  | .list item => item.lawful
  | .dictionary item => item.lawful
  | .record _ fields => fields.keys.Nodup && fields.lawful
  | .tagged _ tag cases => cases.names.Nodup && cases.lawful tag
  | _ => true

def Fields.lawful : Fields → Bool
  | .nil => true
  | .cons _ shape presence rest =>
    (!presence.mayBeNull || shape.neverNull) && shape.lawful && rest.lawful

def Cases.lawful (tag : String) : Cases → Bool
  | .nil => true
  | .cons _ fields rest =>
    (tag :: fields.keys).Nodup && fields.lawful && rest.lawful tag
end

mutual
/-- Whether documents of the shape carry the value: numbers among documents of any kind fit, and
the fields of their objects ascend. -/
def Shape.Sound : (s : Shape) → s.Value → Prop
  | .any, j => j.fits = true ∧ j.Ordered
  | .optional item, v => ∀ a, v = some a → item.Sound a
  | .list item, vs => ∀ a, List.Mem a vs → item.Sound a
  | .dictionary item, d => ∀ p, List.Mem p (Dict.entries d) → item.Sound p.2
  | .record _ fields, v => fields.Sound v
  | .tagged _ _ cases, v => cases.Sound v
  | _, _ => True

def Fields.Sound : (fs : Fields) → fs.Value → Prop
  | .nil, _ => True
  | .cons _ shape presence rest, (slot, v) =>
    (∀ a, presence.held slot = some a → shape.Sound a) ∧ rest.Sound v

def Cases.Sound : (cs : Cases) → cs.Value → Prop
  | .nil, v => nomatch v
  | .cons _ fields rest, v => match v with
    | .inl f => fields.Sound f
    | .inr r => rest.Sound r
end

mutual
/-- Whether the shape fixes the shape of all that its documents hold. -/
def Shape.closed : Shape → Bool
  | .any => false
  | .optional item => item.closed
  | .list item => item.closed
  | .dictionary item => item.closed
  | .record _ fields => fields.closed
  | .tagged _ _ cases => cases.closed
  | _ => true

def Fields.closed : Fields → Bool
  | .nil => true
  | .cons _ shape _ rest => shape.closed && rest.closed

def Cases.closed : Cases → Bool
  | .nil => true
  | .cons _ fields rest => fields.closed && rest.closed
end

mutual
theorem Shape.sound_of_closed : (s : Shape) → s.closed = true → (v : s.Value) → s.Sound v
  | .bool, _, _ | .natural _, _, _ | .integer, _, _ | .text, _, _ | .unit, _, _
  | .choice _, _, _ => trivial
  | .optional item, closed, _ => fun a _ => item.sound_of_closed closed a
  | .list item, closed, _ => fun a _ => item.sound_of_closed closed a
  | .dictionary item, closed, _ => fun p _ => item.sound_of_closed closed p.2
  | .record _ fields, closed, v => fields.sound_of_closed closed v
  | .tagged _ _ cases, closed, v => cases.sound_of_closed closed v

theorem Fields.sound_of_closed : (fs : Fields) → fs.closed = true → (v : fs.Value) → fs.Sound v
  | .nil, _, _ => trivial
  | .cons _ shape _ rest, closed, (_, v) =>
    have ⟨own, later⟩ := Bool.and_eq_true_iff.mp closed
    ⟨fun a _ => shape.sound_of_closed own a, rest.sound_of_closed later v⟩

theorem Cases.sound_of_closed : (cs : Cases) → cs.closed = true → (v : cs.Value) → cs.Sound v
  | .cons _ fields _, closed, .inl f => fields.sound_of_closed (Bool.and_eq_true_iff.mp closed).1 f
  | .cons _ _ rest, closed, .inr r => rest.sound_of_closed (Bool.and_eq_true_iff.mp closed).2 r
end

end DbConsole.Json
