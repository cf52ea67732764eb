/-!
Percent-encoding of text by its UTF-8 bytes, and the form encoding of names and values. The main
statements say that decoding gives back the bytes that were encoded.
-/
set_option autoImplicit false

namespace DbConsole.Text

def utf8 (cs : List Char) : List UInt8 :=
  cs.flatMap String.utf8EncodeChar

def hexDigit (n : Nat) : Char :=
  if n < 10 then Char.ofNat (48 + n) else Char.ofNat (55 + n)

def hexValue? (c : Char) : Option Nat :=
  let n := c.toNat
  if 48 ≤ n ∧ n ≤ 57 then some (n - 48)
  else if 65 ≤ n ∧ n ≤ 70 then some (n - 55)
  else if 97 ≤ n ∧ n ≤ 102 then some (n - 87)
  else none

theorem hexValue?_hexDigit {n : Nat} (h : n < 16) : hexValue? (hexDigit n) = some n := by
  have all : ∀ m ∈ List.range 16, hexValue? (hexDigit m) = some m := by decide
  exact all n (List.mem_range.2 h)

/-- A byte as a percent sign and two digits. -/
def percentByte (b : UInt8) : List Char :=
  ['%', hexDigit (b.toNat / 16), hexDigit (b.toNat % 16)]

/-- Characters of ASCII stand as they are unless they are in the set; all else goes by bytes. -/
def percentChar (set : Char → Bool) (c : Char) : List Char :=
  if c.toNat < 128 && !set c then [c] else (String.utf8EncodeChar c).flatMap percentByte

def percentEncode (set : Char → Bool) (cs : List Char) : List Char :=
  cs.flatMap (percentChar set)

/-- The bytes that the text stands for; a percent sign without two digits stands for itself. -/
def percentDecode : List Char → List UInt8
  | [] => []
  | '%' :: x :: y :: rest =>
    match hexValue? x, hexValue? y with
    | some a, some b => UInt8.ofNat (16 * a + b) :: percentDecode rest
    | _, _ => String.utf8EncodeChar '%' ++ percentDecode (x :: y :: rest)
  | c :: rest => String.utf8EncodeChar c ++ percentDecode rest
termination_by cs => cs.length

theorem percentDecode_percentByte (b : UInt8) (rest : List Char) :
    percentDecode (percentByte b ++ rest) = b :: percentDecode rest := by
  have hb := b.toNat_lt
  rw [percentByte, List.cons_append, List.cons_append, List.cons_append, List.nil_append,
    percentDecode, hexValue?_hexDigit (by omega), hexValue?_hexDigit (by omega)]
  simp [show 16 * (b.toNat / 16) + b.toNat % 16 = b.toNat by omega]

theorem percentDecode_flatMap_percentByte (bs : List UInt8) (rest : List Char) :
    percentDecode (bs.flatMap percentByte ++ rest) = bs ++ percentDecode rest := by
  induction bs with
  | nil => rfl
  | cons b bs ih => simp [percentDecode_percentByte, ih]

theorem percentDecode_cons {c : Char} (h : c ≠ '%') (rest : List Char) :
    percentDecode (c :: rest) = String.utf8EncodeChar c ++ percentDecode rest := by
  rw [percentDecode]
  intro x y r hc
  exact absurd hc h

/-- Where the percent sign itself is encoded, decoding gives back what was encoded. -/
theorem percentDecode_percentEncode {set : Char → Bool} (h : set '%' = true) (cs rest : List Char) :
    percentDecode (percentEncode set cs ++ rest) = utf8 cs ++ percentDecode rest := by
  induction cs with
  | nil => rfl
  | cons c cs ih =>
    simp only [percentEncode, utf8, List.flatMap_cons, List.append_assoc] at ih ⊢
    rw [percentChar]
    split
    · have hc : c ≠ '%' := by
        rintro rfl
        simp_all
      rw [List.cons_append, List.nil_append, percentDecode_cons hc, ih]
    · rw [percentDecode_flatMap_percentByte, ih]

/-- The characters that a form leaves as they are. -/
def isFormPlain (c : Char) : Bool :=
  c.isAlphanum || c == '*' || c == '-' || c == '.' || c == '_'

/-- A name or value of a form: a blank is a plus sign, all else that is not plain goes by bytes. -/
def formEncode (cs : List Char) : List Char :=
  cs.flatMap fun c => if c = ' ' then ['+'] else percentChar (fun c => !isFormPlain c) c

end DbConsole.Text
