import DbConsole.Text.Lowercase
import DbConsole.Text.Percent
import DbConsole.Text.Punycode

/-!
Why a text is no URL, and the host of one: a name, an address of four bytes or one of eight words.
-/
set_option autoImplicit false

namespace DbConsole

/-- Why a text is no URL. -/
inductive UrlFault where
  /-- The text has no scheme, and there is nothing that it could be relative to. -/
  | relative
  | emptyHost
  | badDomain
  | badOpaqueHost
  | badPort
  | badIpv4
  | badIpv6
  deriving DecidableEq

def UrlFault.message : UrlFault → String
  | .relative => "relative URL without a base"
  | .emptyHost => "empty host"
  | .badDomain => "invalid international domain name"
  | .badOpaqueHost => "invalid domain character"
  | .badPort => "invalid port number"
  | .badIpv4 => "invalid IPv4 address"
  | .badIpv6 => "invalid IPv6 address"

inductive Host where
  /-- A name in its ASCII form; no name at all is the empty one. -/
  | named (name : String)
  | ipv4 (address : Nat)
  | ipv6 (words : List Nat)
  deriving DecidableEq

namespace Host

/-! ### Addresses of four bytes -/

/-- The number that ASCII digits write; none where one is no digit of the base. -/
def digits? (base : Nat) (cs : List Char) : Option Nat :=
  cs.foldl (fun acc c =>
    match acc, Text.hexValue? c with
    | some n, some d => if d < base then some (base * n + d) else none
    | _, _ => none) (some 0)

/-- A part of an address: decimal, octal behind a zero, hexadecimal behind a zero and an x. -/
def part? : List Char → Option Nat
  | [] => none
  | '0' :: 'x' :: cs => digits? 16 cs
  | '0' :: 'X' :: cs => digits? 16 cs
  | '0' :: c :: cs => digits? 8 (c :: cs)
  | cs => digits? 10 cs

def splitOn (sep : Char) (cs : List Char) : List (List Char) :=
  cs.foldr (fun c parts =>
    if c = sep then [] :: parts
    else
      match parts with
      | part :: rest => (c :: part) :: rest
      | [] => [[c]]) [[]]

/-- The parts between dots, without the empty one behind a closing dot. -/
def dottedParts (cs : List Char) : List (List Char) :=
  match splitOn '.' cs with
  | [part] => [part]
  | parts => if parts.getLast? = some [] then parts.dropLast else parts

/-- A name whose last part is a number is meant as an address. -/
def endsInNumber (cs : List Char) : Bool :=
  match (dottedParts cs).getLast? with
  | some [] => false
  | some last => last.all Char.isDigit || (part? last).isSome
  | none => false

/-- The last number fills the bytes that the ones before it leave. -/
def ipv4OfNumbers (numbers : List Nat) : Option Nat :=
  match numbers.reverse with
  | [] => none
  | last :: before =>
    if 3 < before.length || before.any (255 < ·) || Nat.pow 256 (4 - before.length) ≤ last then none
    else some (before.reverse.zipIdx.foldl (fun acc p => acc + p.1 * Nat.pow 256 (3 - p.2)) last)

def ipv4? (cs : List Char) : Option Nat :=
  ((dottedParts cs).mapM part?).bind ipv4OfNumbers

def showIpv4 (address : Nat) : String :=
  String.intercalate "." ([3, 2, 1, 0].map fun i => toString (address / Nat.pow 256 i % 256))

/-! ### Addresses of eight words -/

/-- A group of up to four hexadecimal digits and what follows it. -/
def takeGroup (cs : List Char) : List Char × List Char :=
  let group := (cs.take 4).takeWhile fun c => (Text.hexValue? c).isSome
  (group, cs.drop group.length)

/-- The four bytes in decimal that may close an address, as two words. -/
def closingWords? (cs : List Char) : Option (List Nat) :=
  let parts := splitOn '.' cs
  let byte? (p : List Char) : Option Nat :=
    if p.isEmpty || !p.all Char.isDigit || (1 < p.length && p.head? == some '0') then none
    else (digits? 10 p).bind fun n => if n < 256 then some n else none
  match parts.mapM byte? with
  | some [a, b, c, d] => some [256 * a + b, 256 * c + d]
  | _ => none

/-- The words of the address read so far, the place of the run of zeros that is left out, and
whether a colon came last. -/
structure WordsRead where
  words : List Nat
  gap : Option Nat
  dangling : Bool

theorem length_takeGroup (cs : List Char) : (takeGroup cs).2.length ≤ cs.length := by
  simp [takeGroup]

def readWords (st : WordsRead) (cs : List Char) : Option WordsRead :=
  match cs with
  | [] => if st.dangling then none else some st
  | ':' :: rest =>
    if 8 ≤ st.words.length || st.gap.isSome then none
    else readWords { st with gap := some st.words.length, dangling := false } rest
  | c :: rest =>
    let group := (takeGroup (c :: rest)).1
    if 8 ≤ st.words.length || group.isEmpty then none
    else
      match _h : (takeGroup (c :: rest)).2, digits? 16 group with
      | [], some n => some { st with words := st.words ++ [n], dangling := false }
      | ':' :: others, some n =>
        readWords { st with words := st.words ++ [n], dangling := true } others
      | '.' :: _, _ =>
        if 6 < st.words.length then none
        else
          (closingWords? (c :: rest)).map fun ws =>
            { st with words := st.words ++ ws, dangling := false }
      | _, _ => none
termination_by cs.length
decreasing_by
  · exact Nat.lt_succ_self _
  · have h := length_takeGroup (c :: rest)
    rw [_h] at h
    exact h

def ipv6? (cs : List Char) : Option (List Nat) :=
  let start : WordsRead := ⟨[], none, false⟩
  let read :=
    match cs with
    | ':' :: ':' :: rest => readWords { start with gap := some 0 } rest
    | ':' :: _ => none
    | cs => readWords start cs
  read.bind fun st =>
    match st.gap with
    | none => if st.words.length = 8 then some st.words else none
    | some place =>
      if 8 ≤ st.words.length then none
      else
        some (st.words.take place ++ List.replicate (8 - st.words.length) 0 ++ st.words.drop place)

/-- Where the longest run of zeros starts, the first of equal ones, and its length. -/
def zeroRun (words : List Nat) : Nat × Nat :=
  (List.range words.length).foldl (fun best i =>
    let length := ((words.drop i).takeWhile (· == 0)).length
    if best.2 < length then (i, length) else best) (0, 0)

def hexText (n : Nat) : String :=
  String.ofList (Nat.toDigits 16 n)

/-- The longest run of two or more zeros is left out. -/
def showIpv6 (words : List Nat) : String :=
  let join (ws : List Nat) : String := String.intercalate ":" (ws.map hexText)
  let run := zeroRun words
  if run.2 < 2 then join words
  else join (words.take run.1) ++ "::" ++ join (words.drop (run.1 + run.2))

def render : Host → String
  | .named name => name
  | .ipv4 address => showIpv4 address
  | .ipv6 words => "[" ++ showIpv6 words ++ "]"

/-! ### Names -/

/-- Characters of ASCII that no name may hold. -/
def isForbidden (c : Char) : Bool :=
  c.toNat ≤ 32 || c.toNat = 127 || "%#/:<>?@[\\]^|".toList.contains c

/-- Characters beyond ASCII that stand for nothing in a name. -/
def isIgnored (c : Char) : Bool :=
  let n := c.toNat
  n == 0xAD || n == 0x34F || n == 0x200B || n == 0x2060 || n == 0x2064 || n == 0xFEFF ||
    (0x180B ≤ n && n ≤ 0x180D) || (0xFE00 ≤ n && n ≤ 0xFE0F)

/-- Characters beyond ASCII that no name may hold: controls, spaces, and those for private use. -/
def isRefused (c : Char) : Bool :=
  let n := c.toNat
  (0x80 ≤ n && n ≤ 0xA0) || (0x2000 ≤ n && n ≤ 0x200A) || (0x200E ≤ n && n ≤ 0x200F) ||
    (0x2028 ≤ n && n ≤ 0x202F) || n == 0x205F || n == 0x3000 || (0x2065 ≤ n && n ≤ 0x206F) ||
    (0xE000 ≤ n && n ≤ 0xF8FF) || (0xFFF0 ≤ n && n ≤ 0xFFFF) || (0xF0000 ≤ n)

/-- What a character of a name is written as before the name is encoded. -/
def mapChar (c : Char) : List Char :=
  let n := c.toNat
  if n < 128 then [Text.lowerAscii c]
  else if isIgnored c then []
  else if n == 0x3002 || n == 0xFF0E || n == 0xFF61 then ['.']
  else if 0xFF01 ≤ n && n ≤ 0xFF5E then [Text.lowerAscii (Char.ofNat (n - 0xFEE0))]
  else Text.lowerChar c

/-- The ASCII form of one label; none where the label cannot stand in a name. -/
def labelForm? (label : List Char) : Option (List Char) :=
  match label with
  | 'x' :: 'n' :: '-' :: '-' :: code =>
    match Text.Punycode.decode code with
    | some cs =>
      if cs.all (·.toNat < 128) || cs.any isRefused || cs.flatMap mapChar != cs ||
        Text.Punycode.encode cs != code then none
      else some label
    | none => none
  | label =>
    if label.all (·.toNat < 128) then some label
    else if label.any isRefused then none
    else some ("xn--".toList ++ Text.Punycode.encode label)

/-- The ASCII form of a name. -/
def nameForm? (cs : List Char) : Option (List Char) :=
  let labels := splitOn '.' (cs.flatMap mapChar)
  match labels.mapM labelForm? with
  | some forms =>
    let name := List.intercalate ['.'] forms
    if name.any isForbidden then none else some name
  | none => none

def textOfBytes? (bytes : List UInt8) : Option (List Char) :=
  (String.fromUTF8? ⟨bytes.toArray⟩).map String.toList

/-- The host of a URL of a scheme that is known. -/
def ofKnown (cs : List Char) : Except UrlFault Host :=
  match cs with
  | '[' :: rest =>
    if rest.getLast? = some ']' then
      match ipv6? rest.dropLast with
      | some words => .ok (.ipv6 words)
      | none => .error .badIpv6
    else .error .badIpv6
  | cs =>
    match (textOfBytes? (Text.percentDecode cs)).bind nameForm? with
    | none => .error .badDomain
    | some [] => .error .emptyHost
    | some name =>
      if endsInNumber name then
        match ipv4? name with
        | some address => .ok (.ipv4 address)
        | none => .error .badIpv4
      else .ok (.named (String.ofList name))

/-- Characters that no host of an unknown scheme may hold. -/
def isForbiddenOpaque (c : Char) : Bool :=
  c.toNat = 0 || "\t\n\r #/:<>?@[\\]^|".toList.contains c

def isControl (c : Char) : Bool :=
  c.toNat < 32 || c.toNat = 127

/-- The host of a URL of any other scheme. -/
def ofUnknown (cs : List Char) : Except UrlFault Host :=
  match cs with
  | '[' :: rest =>
    if rest.getLast? = some ']' then
      match ipv6? rest.dropLast with
      | some words => .ok (.ipv6 words)
      | none => .error .badIpv6
    else .error .badIpv6
  | cs =>
    if cs.any isForbiddenOpaque then .error .badOpaqueHost
    else .ok (.named (String.ofList (Text.percentEncode isControl cs)))

end Host

end DbConsole
