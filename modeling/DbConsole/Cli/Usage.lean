import DbConsole.Grid

/-!
What can be wrong with a command line, and what its values may be.
-/
set_option autoImplicit false

namespace DbConsole

/-- Why a command line is no request to run a command. -/
inductive UsageFault where
  | unknownArgument
  | unknownCommand
  /-- An option that is given twice. -/
  | repeated
  /-- A value that is missing or that is none of those an option may have. -/
  | invalidValue
  /-- A value that cannot be read. -/
  | unreadableValue
  /-- A value for an option that takes none. -/
  | unwantedValue
  | missingArgument
  /-- The user asks how the program is used. -/
  | help
  /-- The user asks for the version. -/
  | version
  deriving DecidableEq, Repr

namespace UsageFault

def message : UsageFault → String
  | unknownArgument => "unexpected argument"
  | unknownCommand => "unrecognized subcommand"
  | repeated => "an argument cannot be used multiple times"
  | invalidValue => "a value is missing or not a possible one"
  | unreadableValue => "a value cannot be read"
  | unwantedValue => "unexpected value for an argument that takes none"
  | missingArgument => "required arguments were not provided"
  | help => "Usage: dbadmin [OPTIONS] [COMMAND]"
  | version => "dbadmin 0.1.0"

/-- Whether the user has made no mistake but wants to be told something. -/
def isRequest : UsageFault → Bool
  | help => true
  | version => true
  | _ => false

end UsageFault

/-- What the value of a parameter stands for. -/
inductive ValueKind where
  | text
  | path
  | natural16
  | natural32
  | natural64
  | engine
  | order
  | format
  /-- An option without a value, which is on if it is given. -/
  | flag
  | help
  | version
  deriving DecidableEq, Repr

namespace ValueKind

/-- What a value of the kind says; a call for help or for the version says nothing. -/
def Denotes : ValueKind → Type
  | text => String
  | path => String
  | natural16 => UInt16
  | natural32 => UInt32
  | natural64 => UInt64
  | engine => Engine
  | order => SortOrder
  | format => Format
  | flag => Bool
  | help => Empty
  | version => Empty

/-- Whether the command line gives a value with an option of the kind. -/
def takesValue : ValueKind → Bool
  | flag => false
  | help => false
  | version => false
  | _ => true

/-- The number that digits write. -/
def digits? (cs : List Char) : Option Nat :=
  if cs.isEmpty || !cs.all Char.isDigit then none
  else some (cs.foldl (fun n c => 10 * n + (c.toNat - '0'.toNat)) 0)

/-- A number without a sign or with a plus. -/
def unsigned? : List Char → Option Nat
  | '+' :: cs => digits? cs
  | cs => digits? cs

/-- A number from zero on with any sign. -/
def signed? : List Char → Option Nat
  | '-' :: cs => (digits? cs).filter (· == 0)
  | cs => unsigned? cs

/-- The number, if it is there and below the bound. -/
def below (bound : Nat) (number : Option Nat) : Except UsageFault (Fin bound) :=
  match number with
  | none => .error .unreadableValue
  | some n => if h : n < bound then .ok ⟨n, h⟩ else .error .unreadableValue

/-- The value that a text gives. -/
def read : (kind : ValueKind) → String → Except UsageFault kind.Denotes
  | text, s => .ok s
  | path, s => if s = "" then .error .invalidValue else .ok s
  | natural16, s => (below (Nat.pow 2 16) (signed? s.toList)).map UInt16.ofFin
  | natural32, s => (below (Nat.pow 2 32) (signed? s.toList)).map UInt32.ofFin
  | natural64, s => (below (Nat.pow 2 64) (unsigned? s.toList)).map UInt64.ofFin
  | engine, s => (Engine.ofName s).mapError fun _ => .unreadableValue
  | order, s => (SortOrder.ofName s).mapError fun _ => .unreadableValue
  | format, s =>
    match Format.ofName? s with
    | some f => .ok f
    | none => .error .invalidValue
  | flag, s =>
    if s = "true" then .ok true else if s = "false" then .ok false else .error .invalidValue
  | help, _ => .error .help
  | version, _ => .error .version

end ValueKind

end DbConsole
