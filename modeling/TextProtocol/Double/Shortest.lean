import TextProtocol.Double.Basic

/-!
# The shortest decimal of a floating-point number

`shortest` finds the decimal with the fewest digits that reads back as the given number and, among
those, the nearest one. It works on exact ratios: the reals that round to `m * 2 ^ e` form an
interval, and for one digit, two digits, ... the two decimals around the number are tried against
it. `Double.text` lays the digits out: positionally for magnitudes from 10^-4 up to 10^16, always
with a fractional part, and with a signed exponent of at least two digits otherwise.
-/

namespace TextProtocol.Double

def timesTen (num den : Nat) (k : Int) : Nat × Nat :=
  if k < 0 then (num, den * Nat.pow 10 k.natAbs) else (num * Nat.pow 10 k.natAbs, den)

def atLeastTen (num den : Nat) (k : Int) : Bool :=
  let (n, d) := timesTen num den (-k)
  d ≤ n

/-- The least `p` with `num / den < 10 ^ p`, for a positive ratio. -/
def decimalPoint (num den : Nat) : Int :=
  let guess : Int := ((Nat.log2 num : Int) - Nat.log2 den) * 30103 / 100000 - 1
  if atLeastTen num den (guess + 3) then guess + 4
  else if atLeastTen num den (guess + 2) then guess + 3
  else if atLeastTen num den (guess + 1) then guess + 2
  else if atLeastTen num den guess then guess + 1
  else guess

/-- The reals that round to a number: the two ends over a common denominator, and whether the ends
belong to it. -/
structure RoundingInterval where
  low : Nat
  high : Nat
  den : Nat
  closed : Bool

def interval (m : Nat) (e : Int) : RoundingInterval :=
  let below := if m = Nat.pow 2 52 ∧ minExponent < e then 4 * m - 1 else 4 * m - 2
  let (unit, den) := if e < 2 then (1, Nat.pow 2 (2 - e).natAbs) else (Nat.pow 2 (e - 2).natAbs, 1)
  ⟨below * unit, (4 * m + 2) * unit, den, m % 2 == 0⟩

def RoundingInterval.has (i : RoundingInterval) (num den : Nat) : Bool :=
  let a := num * i.den
  if i.closed then i.low * den ≤ a && a ≤ i.high * den
  else i.low * den < a && a < i.high * den

/-- The decimal of `n` digits nearest to `num / den` among those in the interval, if there is one:
its digits as a number. `point` is the place of the decimal point. -/
def withDigits (i : RoundingInterval) (num den : Nat) (point : Int) (n : Nat) : Option Nat :=
  let (a, b) := timesTen num den (n - point)
  let down := a / b
  let inside (k : Nat) : Bool :=
    let (c, d) := timesTen k 1 (point - n)
    0 < k && i.has c d
  match inside down, inside (down + 1) with
  | true, true =>
    let r := 2 * (a % b)
    if r < b || (r == b && down % 2 == 0) then some down else some (down + 1)
  | true, false => some down
  | false, true => some (down + 1)
  | false, false => none

/-- The fewest digits from `n` on, `fuel` tries; at most seventeen are ever needed. -/
def search (i : RoundingInterval) (num den : Nat) (point : Int) : (fuel n : Nat) → Nat × Nat
  | 0, n => ((timesTen num den (n - point)).1 / (timesTen num den (n - point)).2, n)
  | fuel + 1, n =>
    match withDigits i num den point n with
    | some digits => (digits, n)
    | none => search i num den point fuel (n + 1)

/-- The digits of a positive finite number and the place of the decimal point: the number is
`0.digits * 10 ^ point`. -/
def shortest (m : Nat) (e : Int) : List Char × Int :=
  let (num, den) := if e < 0 then (m, Nat.pow 2 e.natAbs) else (m * Nat.pow 2 e.natAbs, 1)
  let point := decimalPoint num den
  let (digits, n) := search (interval m e) num den point 17 1
  let spelled := Nat.toDigits 10 digits
  let point := point + ((spelled.length : Int) - n)
  ((spelled.reverse.dropWhile (· == '0')).reverse, point)

def exponentText (e : Int) : List Char :=
  let digits := Nat.toDigits 10 e.natAbs
  'e' :: (if e < 0 then '-' else '+') :: (if digits.length < 2 then '0' :: digits else digits)

def layout (digits : List Char) (point : Int) : List Char :=
  if -4 < point ∧ point ≤ 16 then
    if point ≤ 0 then
      '0' :: '.' :: List.replicate point.natAbs '0' ++ digits
    else
      let whole := digits.take point.natAbs
      let fraction := digits.drop point.natAbs
      whole ++ List.replicate (point.natAbs - whole.length) '0' ++ '.' ::
        (if fraction.isEmpty then ['0'] else fraction)
  else
    match digits with
    | [] => []
    | [d] => d :: exponentText (point - 1)
    | d :: ds => d :: '.' :: ds ++ exponentText (point - 1)

def text : Double → String
  | .nan => "nan"
  | .infinite s => if s then "-inf" else "inf"
  | .finite s m e =>
    let body := if m = 0 then "0.0" else
      let (digits, point) := shortest m e
      String.ofList (layout digits point)
    if s then "-" ++ body else body

end TextProtocol.Double
