/-!
# Hexadecimal digits

Lower-case hexadecimal spelling of numbers and of byte strings, and the reading of digits in either
case.
-/

namespace TextProtocol.Text

/-- The lower-case hexadecimal digit of a number below sixteen. -/
def hexDigit (n : Nat) : Char :=
  if n < 10 then Char.ofNat (48 + n) else Char.ofNat (87 + n)

def hexPadded : (width : Nat) → (n : Nat) → List Char
  | 0, _ => []
  | w + 1, n => hexPadded w (n / 16) ++ [hexDigit (n % 16)]

def hexByte (b : UInt8) : List Char :=
  hexPadded 2 b.toNat

def hexBytes (data : List UInt8) : String :=
  String.ofList (data.flatMap hexByte)

def hexValue? (c : Char) : Option Nat :=
  let n := c.toNat
  if 48 ≤ n ∧ n ≤ 57 then some (n - 48)
  else if 97 ≤ n ∧ n ≤ 102 then some (n - 87)
  else if 65 ≤ n ∧ n ≤ 70 then some (n - 55)
  else none

def readHexBytes? : List Char → Option (List UInt8)
  | [] => some []
  | a :: b :: rest => do
    let hi ← hexValue? a
    let lo ← hexValue? b
    let more ← readHexBytes? rest
    return UInt8.ofNat (16 * hi + lo) :: more
  | _ => none

/-- The number spelled by hexadecimal digits, if all of them are digits. -/
def readHex? (cs : List Char) : Option Nat :=
  cs.foldlM (fun n c ↦ (hexValue? c).map (16 * n + ·)) 0

end TextProtocol.Text
