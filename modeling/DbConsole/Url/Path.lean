import DbConsole.Text.Lowercase
import DbConsole.Text.Percent

/-!
Paths of URLs as lists of encoded segments, and the character sets that each part of a URL encodes.
-/
set_option autoImplicit false

namespace DbConsole.Url

def isControl (c : Char) : Bool :=
  c.toNat < 32 || c.toNat = 127

def fragmentSet (c : Char) : Bool :=
  isControl c || " \"<>`".toList.contains c

def pathSet (c : Char) : Bool :=
  fragmentSet c || "#?\x7b\x7d".toList.contains c

def userSet (c : Char) : Bool :=
  pathSet c || "/:;=@[\\]^|".toList.contains c

def querySet (special : Bool) (c : Char) : Bool :=
  isControl c || " \"#<>".toList.contains c || (special && c == '\'')

/-- A segment that is added on its own also encodes what would end it and the percent sign. -/
def segmentSet (special : Bool) (c : Char) : Bool :=
  pathSet c || c == '/' || c == '%' || (special && c == '\\')

/-- Characters that a URL skips wherever they stand. -/
def isSkipped (c : Char) : Bool :=
  c == '\t' || c == '\n' || c == '\r'

/-- The text with an encoded dot written as a dot. -/
def plainDots : List Char → List Char
  | '%' :: '2' :: 'e' :: rest => '.' :: plainDots rest
  | '%' :: '2' :: 'E' :: rest => '.' :: plainDots rest
  | c :: rest => c :: plainDots rest
  | [] => []

/-- A segment that stands for the place itself. -/
def isHere (segment : List Char) : Bool :=
  plainDots segment == ['.']

/-- A segment that stands for the place above. -/
def isUp (segment : List Char) : Bool :=
  plainDots segment == ['.', '.']

def isDriveLetter (segment : List Char) : Bool :=
  match segment with
  | [c, d] => c.isAlpha && (d == ':' || d == '|')
  | _ => false

/-- The path above, which a drive letter is not left for. -/
def above (segments : List String) : List String :=
  match segments.getLast? with
  | some s => if isDriveLetter s.toList then segments else segments.dropLast
  | none => []

/-- A drive letter that opens the path of a file is written with a colon. -/
def settled (file : Bool) (parents : List String) (segment : List Char) : String :=
  match segment with
  | [c, _] =>
    if file && parents.isEmpty && isDriveLetter segment then String.ofList [c, ':']
    else String.ofList segment
  | _ => String.ofList segment

/-- Goes on below a segment that a slash follows. -/
def enter (file : Bool) (parents : List String) (segment : List Char) : List String :=
  if isUp segment then above parents
  else if isHere segment then parents
  else parents ++ [settled file parents segment]

/-- Ends the path with a segment that no slash follows. -/
def close (file : Bool) (parents : List String) (segment : List Char) : List String :=
  if isUp segment then above parents ++ [""]
  else if isHere segment then parents ++ [""]
  else parents ++ [settled file parents segment]

def pathOfPieces (file : Bool) : List String → List (List Char) → List String
  | parents, [] => parents
  | parents, [last] => close file parents last
  | parents, piece :: rest => pathOfPieces file (enter file parents piece) rest

/-- The path of a file has no empty segments in front. -/
def trimmed (file : Bool) (segments : List String) : List String :=
  if file then
    match segments.dropWhile (· == "") with
    | [] => [""]
    | kept => kept
  else segments

/-- The path without the empty segment that a closing slash leaves, unless it is the only one. -/
def withoutOpenEnd (segments : List String) : List String :=
  match segments with
  | [_] => segments
  | _ => if segments.getLast? = some "" then segments.dropLast else segments

/-- Adds a segment. A segment of one or two dots is left out; a lone empty segment, which is the
path of a bare slash, gives way. -/
def pushSegment (special file : Bool) (segments : List String) (segment : String) : List String :=
  if segment = "." ∨ segment = ".." then segments
  else
    let parents := if segments = [""] then [] else segments
    let text := Text.percentEncode (segmentSet special) (segment.toList.filter (!isSkipped ·))
    trimmed file (close file parents text)

def extendPath (special file : Bool) (segments added : List String) : List String :=
  added.foldl (pushSegment special file) (withoutOpenEnd segments)

end DbConsole.Url
