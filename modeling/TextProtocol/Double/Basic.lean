/-!
# Binary floating-point numbers

The numbers of the 64-bit binary format, as exact data: a finite number is a sign, a mantissa below
2^53 and a power of two not below -1074, the mantissa at least 2^52 unless the exponent is the
least one. A ratio of natural numbers is rounded to the nearest such number, a tie to the even
mantissa; decimal numerals and quotients are read through it.
-/

namespace TextProtocol

/-- A number of the 64-bit binary floating-point format. -/
inductive Double where
  | finite (negative : Bool) (mantissa : Nat) (exponent : Int)
  | infinite (negative : Bool)
  | nan
  deriving DecidableEq, Repr, Inhabited

namespace Double

def minExponent : Int := -1074

def maxExponent : Int := 971

def zero (negative : Bool) : Double :=
  .finite negative 0 minExponent

/-- The quotient rounded to the nearest natural number, a tie to the even one. -/
def roundDiv (num den : Nat) : Nat :=
  let q := num / den
  let r := num % den
  if 2 * r > den || (2 * r == den && q % 2 == 1) then q + 1 else q

def scaled (num den : Nat) (e : Int) : Nat × Nat :=
  if e < 0 then (num * Nat.pow 2 e.natAbs, den) else (num, den * Nat.pow 2 e.natAbs)

def ofRatio (negative : Bool) (num den : Nat) : Double :=
  if num = 0 then zero negative
  else
    let guess : Int := (Nat.log2 num : Int) - Nat.log2 den - 52
    let (n, d) := scaled num den guess
    let fitted := if n < d * Nat.pow 2 52 then guess - 1 else guess
    let e := max fitted minExponent
    let (n, d) := scaled num den e
    let m := roundDiv n d
    let (m, e) := if m = Nat.pow 2 53 then (Nat.pow 2 52, e + 1) else (m, e)
    if maxExponent < e then .infinite negative else .finite negative m e

def ofDecimal (negative : Bool) (digits : Nat) (power : Int) : Double :=
  if digits = 0 then zero negative
  else
    let magnitude : Int := (Nat.log2 digits : Int) * 30103 / 100000 + power
    if 400 < magnitude then .infinite negative
    else if magnitude < -400 then zero negative
    else if power < 0 then ofRatio negative digits (Nat.pow 10 power.natAbs)
    else ofRatio negative (digits * Nat.pow 10 power.natAbs) 1

/-- The quotient of two integers, `none` when it is beyond the greatest number. -/
def ofQuotient? (num : Int) (den : Nat) : Option Double :=
  match ofRatio (num < 0) num.natAbs den with
  | .infinite _ => none
  | x => some x

/-- A finite number as a ratio of an integer and a positive natural number. -/
def toRatio (negative : Bool) (mantissa : Nat) (exponent : Int) : Int × Nat :=
  let (n, d) := if exponent < 0 then (mantissa, Nat.pow 2 exponent.natAbs)
    else (mantissa * Nat.pow 2 exponent.natAbs, 1)
  (if negative then -(n : Int) else n, d)

/-- A finite number without its fraction; `none` for infinities and NaN. -/
def truncate? : Double → Option Int
  | .finite s m e =>
    let (n, d) := toRatio s m e
    some (Int.tdiv n d)
  | _ => none

/-- The least integer that is not below a finite number; `none` for infinities and NaN. -/
def ceiling? : Double → Option Int
  | .finite s m e =>
    let (n, d) := toRatio s m e
    some (-(-n / d))
  | _ => none

def plus : Double → Int → Double
  | .finite s m e, k =>
    let (n, d) := toRatio s m e
    ofRatio (n + k * d < 0) (n + k * d).natAbs d
  | x, _ => x

def negated : Double → Double
  | .finite s m e => .finite (!s) m e
  | .infinite s => .infinite (!s)
  | .nan => .nan

def isZero : Double → Bool
  | .finite _ m _ => m == 0
  | _ => false

/-- Whether a finite or infinite `x` is below the integer ratio `n / d`. -/
def ltRatio : Double → Int × Nat → Bool
  | .finite s m e, (n, d) =>
    let (a, b) := toRatio s m e
    a * d < n * b
  | .infinite s, _ => s
  | .nan, _ => false

/-- Whether the integer ratio `n / d` is below a finite or infinite `x`. -/
def ratioLt : Int × Nat → Double → Bool
  | (n, d), .finite s m e =>
    let (a, b) := toRatio s m e
    n * b < a * d
  | _, .infinite s => !s
  | _, .nan => false

/-- The order of numbers; nothing is below or above NaN. -/
def lt : Double → Double → Bool
  | x, .finite s m e => x.ltRatio (toRatio s m e)
  | .finite s m e, y => ratioLt (toRatio s m e) y
  | .infinite s, .infinite t => s && !t
  | _, _ => false

/-- Equality of numbers: the two zeros are equal, and NaN equals nothing. -/
def eq : Double → Double → Bool
  | .finite s m e, .finite s' m' e' =>
    let (a, b) := toRatio s m e
    let (a', b') := toRatio s' m' e'
    a * b' == a' * b
  | .infinite s, .infinite t => s == t
  | _, _ => false

end Double

end TextProtocol
