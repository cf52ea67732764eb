import DbConsole.Proofs.Json.RoundTrip
import DbConsole.Wire.Connection
import DbConsole.Wire.Listing
import DbConsole.Wire.Schema

/-!
Messages that are sent are read back as they were: rows, requests and answers, whatever texts they
hold, as far as their numbers are whole and their documents are not nested too deeply.
-/
set_option autoImplicit false

namespace DbConsole

open Json

/-- Whether the document is a list or an object. -/
def Json.isContainer : Json → Bool
  | .array _ => true
  | .object _ => true
  | _ => false

/-- Whether the cell comes back as itself: its numbers are whole and 64 bits hold them, and what it
holds as JSON is a list or an object, with the fields of its objects in ascending order. -/
def Cell.Carried : Cell → Prop
  | .number n => n.fits = true
  | .json j => j.isContainer = true ∧ j.fits = true ∧ j.Ordered
  | _ => True

def Row.Carried (row : Row) : Prop :=
  ∀ p ∈ row.entries, Cell.Carried p.2

namespace Wire

/-- Messages of the type that are carried by their documents. -/
class Lawful (α : Type) [Wire α] where
  Carried : α → Prop
  lawful : (shape α).lawful = true
  sound : ∀ a, Carried a → (shape α).Sound (toValue a)
  restored : ∀ a, Carried a → ofValue (toValue a) = a

/-- Every message that its document carries is read back from its text. -/
def RoundTrips (α : Type) [Wire α] (carried : α → Prop) : Prop :=
  ∀ a : α, carried a → (toJson a).nesting ≤ Reader.maxDepth → decode α (encode a) = .ok a

theorem roundTrips (α : Type) [Wire α] [Lawful α] : RoundTrips α Lawful.Carried := by
  intro a carried nests
  have taken := (shape α).takes_read Lawful.lawful (toValue a) (Lawful.sound a carried)
    Reader.maxDepth nests [] (by rintro _ ⟨⟩)
  have read : (shape α).parse (encode a) = .ok (toValue a) := by
    rw [Shape.parse, encode, compact, String.toList_ofList]
    exact Reader.run_of_takes taken
  rw [decode, read]
  exact congrArg Except.ok (Lawful.restored a carried)

/-! ### Rows -/

instance : Lawful Cell where
  Carried := Cell.Carried
  lawful := rfl
  sound
    | .null, _ | .bool _, _ | .text _, _ => ⟨rfl, trivial⟩
    | .number _, fits => ⟨fits, trivial⟩
    | .json _, carried => carried.2
  restored
    | .null, _ | .bool _, _ | .text _, _ | .number _, _ => rfl
    | .json (.array _), _ | .json (.object _), _ => rfl

instance : Lawful Row where
  Carried := Row.Carried
  lawful := rfl
  sound row carried p mem := by
    obtain ⟨q, held, rfl⟩ := List.mem_map.mp mem
    exact Lawful.sound q.2 (carried q held)
  restored row carried := by
    have each (p : String × Cell) (held : p ∈ row.entries) : (p.1, Cell.ofJson p.2.toJson) = p :=
      congrArg (Prod.mk p.1) (Lawful.restored p.2 (carried p held))
    refine Dict.eq_of_entries ?_
    change (row.entries.map fun p => (p.1, p.2.toJson)).map (fun p => (p.1, Cell.ofJson p.2)) = _
    rw [List.map_map]
    exact (List.map_congr_left each).trans (List.map_id _)

section Lists

variable {α : Type} [Wire α] [Lawful α] {as : List α}

theorem sound_list (carried : ∀ a ∈ as, Lawful.Carried a) :
    (Shape.list (shape α)).Sound (as.map toValue) := by
  intro v mem
  obtain ⟨a, held, rfl⟩ := List.mem_map.mp mem
  exact Lawful.sound a (carried a held)

theorem restored_list (carried : ∀ a ∈ as, Lawful.Carried a) :
    (as.map toValue).map ofValue = as := by
  rw [List.map_map]
  exact (List.map_congr_left fun a held => Lawful.restored a (carried a held)).trans (List.map_id as)

end Lists

instance : Lawful Page where
  Carried p := ∀ row ∈ p.rows, row.Carried
  lawful := rfl
  sound p carried := by
    refine ⟨?_, Fields.sound_of_closed _ rfl _⟩
    rintro _ ⟨⟩
    exact sound_list carried
  restored p carried := congrArg (Page.mk · p.page p.limit) (restored_list carried)

instance : Lawful SqlResult where
  Carried r := ∀ rows, r.rows = some rows → ∀ row ∈ rows, row.Carried
  lawful := rfl
  sound r carried := by
    refine ⟨?_, Fields.sound_of_closed _ rfl _⟩
    intro vs held
    obtain ⟨rows, found, rfl⟩ := Option.map_eq_some_iff.mp held
    exact sound_list (carried rows found)
  restored r carried := by
    obtain ⟨rows, rowCount, message, rowsAffected⟩ := r
    have same : (rows.map (·.map toValue)).map (·.map (ofValue : _ → Row)) = rows := by
      cases rows with
      | none => rfl
      | some rows => exact congrArg some (restored_list (carried rows rfl))
    cases rowCount <;> cases rowsAffected <;> exact congrArg (SqlResult.mk · _ message _) same

instance : Lawful PageQuery where
  Carried _ := True
  lawful := rfl
  sound _ _ := Shape.sound_of_closed _ rfl _
  restored q _ := by
    obtain ⟨page, limit, sort, order⟩ := q
    cases page <;> cases limit <;> rcases order with _ | _ | _ <;> rfl

/-! ### Tables and connections -/

instance : Lawful Column where
  Carried _ := True
  lawful := rfl
  sound _ _ := Shape.sound_of_closed _ rfl _
  restored _ _ := rfl

instance : Lawful ColumnSpec where
  Carried _ := True
  lawful := rfl
  sound _ _ := Shape.sound_of_closed _ rfl _
  restored _ _ := rfl

instance : Lawful TableSpec where
  Carried _ := True
  lawful := rfl
  sound _ _ := Shape.sound_of_closed _ rfl _
  restored t _ := congrArg (TableSpec.mk t.name) (restored_list fun _ _ => trivial)

instance : Lawful Alteration where
  Carried _ := True
  lawful := rfl
  sound _ _ := Shape.sound_of_closed _ rfl _
  restored a _ := by cases a <;> rfl

instance : Lawful Credentials where
  Carried _ := True
  lawful := rfl
  sound _ _ := Shape.sound_of_closed _ rfl _
  restored c _ := by
    obtain ⟨host, port, database, username, password, engine⟩ := c
    cases engine <;> rfl

/-- Every message about rows, tables and connections is read back from its text, if its rows hold
only cells that are carried and the text nests no deeper than a reader follows. -/
theorem messages_round_trip :
    RoundTrips Cell Cell.Carried ∧
    RoundTrips Row Row.Carried ∧
    RoundTrips Page (fun p => ∀ row ∈ p.rows, row.Carried) ∧
    RoundTrips SqlResult (fun r => ∀ rows, r.rows = some rows → ∀ row ∈ rows, row.Carried) ∧
    RoundTrips PageQuery (fun _ => True) ∧
    RoundTrips Column (fun _ => True) ∧
    RoundTrips ColumnSpec (fun _ => True) ∧
    RoundTrips TableSpec (fun _ => True) ∧
    RoundTrips Alteration (fun _ => True) ∧
    RoundTrips Credentials (fun _ => True) :=
  ⟨roundTrips Cell, roundTrips Row, roundTrips Page, roundTrips SqlResult, roundTrips PageQuery,
    roundTrips Column, roundTrips ColumnSpec, roundTrips TableSpec, roundTrips Alteration,
    roundTrips Credentials⟩

/-- A page with a control character, quotes and a backslash, and with the largest and the smallest
of the whole numbers. -/
def extremePage : Page where
  rows := [⟨[("key", .number (.whole (-9223372036854775808))),
    ("note", .text "\x01\"\\\n"),
    ("tags", .json (.object [("ids", .array [.number (.whole 18446744073709551615), .null])]))],
    by unfold Ascending; decide⟩]
  page := 1
  limit := 50

theorem extremePage_round_trips :
    (∀ row ∈ extremePage.rows, row.Carried) ∧ (toJson extremePage).nesting ≤ Reader.maxDepth ∧
      decode Page (encode extremePage) = .ok extremePage ∧
      decode Alteration (encode (Alteration.dropColumn "a\"b")) = .ok (.dropColumn "a\"b") := by
  have carried : ∀ row ∈ extremePage.rows, row.Carried := by
    intro row mem
    obtain rfl := List.mem_singleton.mp mem
    rintro p (_ | ⟨_, _ | ⟨_, _ | ⟨_, ⟨⟩⟩⟩⟩)
    · exact Number.fits_whole_iff.mpr (by decide)
    · trivial
    · exact ⟨rfl, rfl, List.pairwise_singleton _ _, ⟨trivial, trivial, trivial⟩, trivial⟩
  exact ⟨carried, by decide, messages_round_trip.2.2.1 extremePage carried (by decide),
    messages_round_trip.2.2.2.2.2.2.2.2.1 _ trivial (by decide)⟩

end Wire

end DbConsole
