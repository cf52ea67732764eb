import DbConsole.Cli.Parameter
import DbConsole.Dict

/-!
The arguments of a command line, read one after the other: first those of the program, up to the
name of a command, then those of the command. The value of a parameter is looked at when the next
parameter comes or the arguments end, so the first fault is not always the one that is told.
-/
set_option autoImplicit false

namespace DbConsole

/-- The variables of the environment. -/
abbrev Environment : Type :=
  String → Option String

/-- What the arguments on one side of a command's name may be. -/
inductive Level where
  | program
  | command (verb : Verb)
  deriving DecidableEq

namespace Level

def parameters : Level → List Parameter
  | program => Parameter.shared ++ [Parameter.help, Parameter.version]
  | command verb => verb.parameters ++ Parameter.shared ++ [Parameter.help]

def named? (l : Level) (name : String) : Option Parameter :=
  l.parameters.find? fun p => p.isOption && p.name == name

def lettered? (l : Level) (letter : Char) : Option Parameter :=
  l.parameters.find? fun p => p.letter == some letter

/-- The parameters that are given by place. -/
def places (l : Level) : List Parameter :=
  l.parameters.filter (!·.isOption)

end Level

/-- A parameter whose value is not looked at yet, and the value if it is there. -/
structure Pending where
  parameter : Parameter
  value : Option String

/-- How far the reading of a level has come. -/
structure Progress where
  /-- The values that have been looked at, by the names of their parameters. -/
  given : Dict String
  pending : Option Pending
  /-- The parameters given by place that are still to come. -/
  places : List Parameter

namespace Progress

def start (l : Level) : Progress :=
  ⟨.empty, none, l.places⟩

/-- Whether an option has come whose value must be the next argument. -/
def awaits (s : Progress) : Bool :=
  match s.pending with
  | some p => p.value.isNone
  | none => false

/-- Takes a value, if it is the first one for its parameter and can be read. -/
def take (s : Progress) (p : Parameter) (value : String) : Except UsageFault Progress :=
  if s.given.contains p.name then .error .repeated
  else (p.kind.read value).map fun _ => { s with given := s.given.insert p.name value }

/-- Looks at the value that has not been looked at. -/
def settle (s : Progress) : Except UsageFault Progress :=
  match s.pending with
  | none => .ok s
  | some ⟨_, none⟩ => .error .invalidValue
  | some ⟨p, some value⟩ => { s with pending := none }.take p value

/-- Takes a value at once, after the one before it. -/
def takeNext (s : Progress) (p : Parameter) (value : String) : Except UsageFault Progress := do
  (← s.settle).take p value

/-- Keeps a value, or the want of one, to be looked at later. -/
def keep (s : Progress) (p : Parameter) (value : Option String) : Except UsageFault Progress := do
  return { ← s.settle with pending := some ⟨p, value⟩ }

/-- Gives the value that an option waits for. -/
def supply (s : Progress) (value : String) : Progress :=
  { s with pending := s.pending.map fun p => ⟨p.parameter, some value⟩ }

/-- An option by name, with the value that is attached to it. -/
def long (s : Progress) (l : Level) (name : String) (value : Option String) :
    Except UsageFault Progress :=
  match l.named? name with
  | none => .error .unknownArgument
  | some p =>
    if p.kind.takesValue then
      match value with
      | some v => s.takeNext p v
      | none => s.keep p none
    else if value.isSome then .error .unwantedValue
    else s.takeNext p "true"

/-- Options by letter, which share one dash; the first that takes a value has the rest, less an
equals sign, for its value. -/
def letters (l : Level) : List Char → Progress → Except UsageFault Progress
  | [], s => .ok s
  | c :: rest, s =>
    match l.lettered? c with
    | none => .error .unknownArgument
    | some p =>
      if p.kind.takesValue then
        match rest with
        | [] => s.keep p none
        | '=' :: value => s.takeNext p (String.ofList value)
        | value => s.takeNext p (String.ofList value)
      else do letters l rest (← s.takeNext p "true")

/-- An argument that is given by place. One too many is taken for the name of a command where
commands are awaited, unless a double dash has made an end of those. -/
def place (s : Progress) (l : Level) (ended : Bool) (text : String) : Except UsageFault Progress :=
  match s.places with
  | p :: rest => { s with places := rest }.keep p (some text)
  | [] =>
    match l with
    | .command _ => .error .unknownArgument
    | .program =>
      if ended && (text == "help" || (Verb.ofName? text).isSome) then .error .unknownArgument
      else .error .unknownCommand

/-- Ends the reading of a level: the last value and the variables that stand for options which are
not given can all be read. -/
def finish (s : Progress) (l : Level) (env : Environment) : Except UsageFault (Dict String) := do
  let given := (← s.settle).given
  l.parameters.forM fun p =>
    match p.envName.bind env with
    | some value => if given.contains p.name then .ok () else (p.kind.read value).map fun _ => ()
    | none => .ok ()
  return given

end Progress

/-- An argument as it looks from outside. -/
inductive Argument where
  /-- The end of the options. -/
  | doubleDash
  | long (name : String) (value : Option String)
  | letters (cs : List Char)
  | plain

/-- Splits at the first equals sign. -/
def splitEquals (cs : List Char) : String × Option String :=
  (String.ofList (cs.takeWhile (· != '=')),
    match cs.dropWhile (· != '=') with
    | [] => none
    | _ :: value => some (String.ofList value))

def Argument.ofText (text : String) : Argument :=
  match text.toList with
  | ['-', '-'] => .doubleDash
  | '-' :: '-' :: cs => .long (splitEquals cs).1 (splitEquals cs).2
  | '-' :: c :: cs => .letters (c :: cs)
  | _ => .plain

/-- What comes of a call for help on a command. -/
def helpOn : List String → UsageFault
  | [] => .help
  | [name] => if name == "help" || (Verb.ofName? name).isSome then .help else .unknownCommand
  | _ => .unknownCommand

/-- Reads the arguments of a level, up to the name of a command where one may come. The options have
ended after a double dash. -/
def readLevel (l : Level) : Bool → List String → Progress →
    Except UsageFault (Progress × Option (Verb × List String))
  | _, [], s => .ok (s, none)
  | true, a :: rest, s => do readLevel l true rest (← s.place l true a)
  | false, a :: rest, s =>
    let commandsFit := l == .program && !s.awaits
    if commandsFit && a == "help" then .error (helpOn rest)
    else
      match if commandsFit then Verb.ofName? a else none with
      | some verb => .ok (s, some (verb, rest))
      | none =>
        match Argument.ofText a with
        | .doubleDash => readLevel l true rest s
        | .long name value => do readLevel l false rest (← s.long l name value)
        | .letters cs => do readLevel l false rest (← s.letters l cs)
        | .plain =>
          if s.awaits then readLevel l false rest (s.supply a)
          else do readLevel l false rest (← s.place l false a)

/-- What the arguments and the environment give, each value readable. -/
structure Given where
  line : Dict String
  env : Environment

namespace Given

/-- The value of a parameter: the command line's, else the environment's. -/
def get? (g : Given) (p : Parameter) : Option p.kind.Denotes :=
  ((g.line.get? p.name).or (p.envName.bind g.env)).bind fun value =>
    match p.kind.read value with
    | .ok v => some v
    | .error _ => none

def getD (g : Given) (p : Parameter) (default : p.kind.Denotes) : p.kind.Denotes :=
  (g.get? p).getD default

/-- The value of a parameter that must be given. -/
def require (g : Given) (p : Parameter) : Except UsageFault p.kind.Denotes :=
  match g.get? p with
  | some v => .ok v
  | none => .error .missingArgument

/-- What is given here, and what is given there where this gives nothing. -/
def onTopOf (g : Given) (lower : Dict String) : Given :=
  { g with line := g.line.entries.foldl (fun d p => d.insert p.1 p.2) lower }

end Given

end DbConsole
