/-!
A tree of files as far as one small document needs it: reading the text at a path, making the
directories above it, and writing it, and why each may be refused.
-/
set_option autoImplicit false

namespace DbConsole

/-- Why a disk refuses an operation. -/
inductive DiskFault where
  | missing
  | denied
  | occupied
  | notDirectory
  | isDirectory
  deriving DecidableEq

namespace DiskFault

def code : DiskFault → Nat
  | .missing => 2
  | .denied => 13
  | .occupied => 17
  | .notDirectory => 20
  | .isDirectory => 21

def words : DiskFault → String
  | .missing => "No such file or directory"
  | .denied => "Permission denied"
  | .occupied => "File exists"
  | .notDirectory => "Not a directory"
  | .isDirectory => "Is a directory"

def message (f : DiskFault) : String :=
  f.words ++ " (os error " ++ toString f.code ++ ")"

end DiskFault

/-- What a file holds: text, or bytes that are no text. -/
inductive FileContent where
  | text (text : String)
  | bytes
  deriving DecidableEq

/-- What a file of the bytes holds. -/
def FileContent.ofBytes (bytes : List UInt8) : FileContent :=
  match String.fromUTF8? ⟨bytes.toArray⟩ with
  | some decoded => .text decoded
  | none => .bytes

inductive DiskNode where
  | directory
  | file (content : FileContent) (writable : Bool)
  deriving DecidableEq

/-- A path below the working directory. -/
structure FilePath where
  parts : List String
  /-- Whether it is written as the path of a directory, with a slash or a dot at its end. -/
  asDirectory : Bool
  deriving DecidableEq

namespace FilePath

/-- The path that a text writes; empty parts and single dots stand for nothing. -/
def ofText (text : String) : FilePath :=
  let all := text.splitOn "/"
  ⟨all.filter fun p => p != "" && p != ".",
    match all.getLast? with
    | some last => last == "" || last == "."
    | none => true⟩

end FilePath

/-- The nodes below the working directory, which itself is always there. -/
structure Disk where
  nodes : List (List String × DiskNode)
  deriving DecidableEq

namespace Disk

def empty : Disk :=
  ⟨[]⟩

def node? (d : Disk) : List String → Option DiskNode
  | [] => some .directory
  | parts => (d.nodes.find? (·.1 == parts)).map (·.2)

def put (d : Disk) (parts : List String) (n : DiskNode) : Disk :=
  ⟨(parts, n) :: d.nodes.filter (·.1 != parts)⟩

/-- The text at the path; none where there is none or it cannot be read. -/
def readText? (d : Disk) (p : FilePath) : Option String :=
  match d.node? p.parts with
  | some (.file (.text text) _) => if p.asDirectory then none else some text
  | _ => none

/-- Whether the path leads to a file. -/
def isFile (d : Disk) (parts : List String) : Bool :=
  match d.node? parts with
  | some (.file _ _) => true
  | _ => false

/-- The paths of the directories above, the highest first. -/
def above (parts : List String) : List (List String) :=
  (List.range parts.length).map parts.take

/-- Makes every directory of the path that is missing. -/
def makeDirectory (d : Disk) (parts : List String) : Except DiskFault Disk :=
  if (above parts).any d.isFile then .error .notDirectory
  else if d.isFile parts then .error .occupied
  else
    .ok ((above parts ++ [parts]).foldl (fun d p =>
      if (d.node? p).isSome then d else d.put p .directory) d)

/-- Replaces the content of the file at the path, or makes the file. -/
def writeText (d : Disk) (p : FilePath) (text : String) : Except DiskFault Disk :=
  if (above p.parts).any d.isFile then .error .notDirectory
  else
    match d.node? p.parts with
    | some .directory => .error .isDirectory
    | some (.file _ writable) =>
      if p.asDirectory then .error .notDirectory
      else if writable then .ok (d.put p.parts (.file (.text text) true))
      else .error .denied
    | none =>
      if p.asDirectory then .error .isDirectory
      else if (above p.parts).all fun q => (d.node? q).isSome then
        .ok (d.put p.parts (.file (.text text) true))
      else .error .missing

/-- Writes the text after making the directories above it. -/
def save (d : Disk) (p : FilePath) (text : String) : Except DiskFault Disk := do
  let made ← d.makeDirectory p.parts.dropLast
  made.writeText p text

@[simp]
theorem node?_put_self (d : Disk) {parts : List String} (h : parts ≠ []) (n : DiskNode) :
    (d.put parts n).node? parts = some n := by
  cases parts with
  | nil => exact absurd rfl h
  | cons p ps => simp [node?, put]

/-- What is written is what is read. -/
theorem readText?_of_writeText {d e : Disk} {p : FilePath} {text : String}
    (h : d.writeText p text = .ok e) : e.readText? p = some text := by
  unfold writeText at h
  have hp : p.parts = [] → d.node? p.parts = some .directory := by
    intro hp
    rw [hp]
    rfl
  split at h
  · cases h
  · split at h
    · cases h
    · split at h
      · cases h
      · split at h
        · rename_i hn hd _
          cases h
          have hne : p.parts ≠ [] := fun he => by rw [hp he] at hn; cases hn
          simp [readText?, hne, hd]
        · cases h
    · split at h
      · cases h
      · split at h
        · rename_i hn hd _
          cases h
          have hne : p.parts ≠ [] := fun he => by rw [hp he] at hn; cases hn
          simp [readText?, hne, hd]
        · cases h

end Disk

end DbConsole
