/-!
Bytes as text of 64 signs, three bytes in four signs, filled up with equals signs.
-/
set_option autoImplicit false

namespace DbConsole.Text

def base64Sign (n : Nat) : Char :=
  if n < 26 then Char.ofNat (65 + n)
  else if n < 52 then Char.ofNat (71 + n)
  else if n < 62 then Char.ofNat (n - 4)
  else if n = 62 then '+'
  else '/'

def base64 : List UInt8 → List Char
  | [] => []
  | [a] =>
    let n := a.toNat * 16
    [base64Sign (n / 64), base64Sign (n % 64), '=', '=']
  | [a, b] =>
    let n := (a.toNat * 256 + b.toNat) * 4
    [base64Sign (n / 4096), base64Sign (n / 64 % 64), base64Sign (n % 64), '=']
  | a :: b :: c :: rest =>
    let n := (a.toNat * 256 + b.toNat) * 256 + c.toNat
    base64Sign (n / 262144) :: base64Sign (n / 4096 % 64) :: base64Sign (n / 64 % 64) ::
      base64Sign (n % 64) :: base64 rest

end DbConsole.Text
