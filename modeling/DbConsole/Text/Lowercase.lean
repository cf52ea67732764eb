import DbConsole.Text.CaseTable
import DbConsole.Text.CodePoints

/-!
Lower case, for ASCII alone and for all of Unicode. A capital sigma becomes the final form where
it closes a word and the medial form elsewhere.
-/
set_option autoImplicit false

namespace DbConsole.Text

def lowerAscii (c : Char) : Char :=
  if 'A' ≤ c ∧ c ≤ 'Z' then Char.ofNat (c.toNat + 32) else c

/-- The text with its ASCII capitals lowered and everything else kept. -/
def asciiLower (s : String) : String :=
  String.ofList (s.toList.map lowerAscii)

def lowerRun : List (Nat × Nat × Nat × Int) → Nat → Option Nat
  | [], _ => none
  | (first, last, step, delta) :: rest, n =>
    if n < first then none
    else if n ≤ last ∧ (n - first) % step = 0 then some (n + delta).toNat
    else lowerRun rest n

def lowerChar (c : Char) : List Char :=
  if c.toNat < 128 then [lowerAscii c]
  else if c.toNat = 0x130 then ['i', '\u0307']
  else
    match lowerRun lowerRuns c.toNat with
    | some n => [Char.ofNat n]
    | none => [c]

def isCased (c : Char) : Bool :=
  covers casedRanges c.toNat

def isCaseIgnorable (c : Char) : Bool :=
  covers caseIgnorableRanges c.toNat

/-- Whether the first character that casing does not look through is a cased one. -/
def meetsCased (cs : List Char) : Bool :=
  match cs.dropWhile isCaseIgnorable with
  | [] => false
  | c :: _ => isCased c

/-- Lower case of the text that follows `before`, which is given last character first. -/
def lowerAfter : List Char → List Char → List Char
  | _, [] => []
  | before, c :: rest =>
    if c = 'Σ' then
      (if meetsCased before && !meetsCased rest then 'ς' else 'σ') :: lowerAfter (c :: before) rest
    else lowerChar c ++ lowerAfter (c :: before) rest

def lower (s : String) : String :=
  String.ofList (lowerAfter [] s.toList)

end DbConsole.Text
