import DbConsole.Error
import DbConsole.Json.Shape
import DbConsole.Json.Shape.Read
import DbConsole.Json.Writer

/-!
Values that travel as documents of a fixed shape, and the envelope around every answer of the backend.
-/
set_option autoImplicit false

namespace DbConsole

open Json

/-- A type of messages: the shape of its documents, and what a document carries as a value. -/
class Wire (α : Type) where
  shape : Shape
  toValue : α → shape.Value
  ofValue : shape.Value → α

namespace Wire

variable {α : Type} [Wire α]

def toJson (a : α) : Json :=
  (shape α).write (toValue a)

/-- The compact text of the message. -/
def encode (a : α) : String :=
  (toJson a).compact

/-- The message that the text carries. -/
def decode (α : Type) [Wire α] (text : String) : Except Fault α :=
  ((shape α).parse text).map ofValue

/-- The message that a document carries. -/
def ofJson (α : Type) [Wire α] (j : Json) : Except Cause α :=
  ((shape α).accept j).map ofValue

instance : Wire Json := ⟨.any, id, id⟩

instance : Wire String := ⟨.text, id, id⟩

instance : Wire Bool := ⟨.bool, id, id⟩

instance : Wire Unit := ⟨.unit, id, id⟩

instance : Wire UInt16 := ⟨.natural 16, UInt16.toFin, UInt16.ofFin⟩

instance : Wire UInt32 := ⟨.natural 32, UInt32.toFin, UInt32.ofFin⟩

instance : Wire UInt64 := ⟨.natural 64, UInt64.toFin, UInt64.ofFin⟩

instance : Wire Int64 := ⟨.integer, id, id⟩

instance : Wire (Option α) :=
  ⟨.optional (shape α), Option.map toValue, Option.map ofValue⟩

instance : Wire (List α) :=
  ⟨.list (shape α), List.map toValue, List.map ofValue⟩

end Wire

structure Envelope (α : Type) where
  success : Bool
  data : Option α
  error : Option String

namespace Envelope

variable {α : Type}

instance [Wire α] : Wire (Envelope α) where
  shape := .record "Envelope"
    (.cons "success" .bool .required
    (.cons "data" (Wire.shape α) (.nullable true true)
    (.cons "error" .text (.nullable true true) .nil)))
  toValue e := (e.success, e.data.map Wire.toValue, e.error, ())
  ofValue
    | (success, data, error, ()) => ⟨success, data.map Wire.ofValue, error⟩

def ok (data : α) : Envelope α :=
  ⟨true, some data, none⟩

def failure (error : String) : Envelope α :=
  ⟨false, none, some error⟩

/-- What the envelope is about: the payload of a success, the words of a failure. A success
without payload stands for a null where the payload may be one. -/
def result [Wire α] (e : Envelope α) : Except Error α :=
  if !e.success then .error (.rejected (e.error.getD "Request failed"))
  else
    match e.data with
    | some data => .ok data
    | none =>
      match Wire.ofJson α .null with
      | .ok data => .ok data
      | .error _ => .error (.decode .missingData)

end Envelope

end DbConsole
