import TextProtocol.Text.Blank
import TextProtocol.Text.Digit

/-!
# Integers in text

The number of digits of the integers that are read and written is limited. The decimal numerals that
stand for integers in loosely written documents may have blanks around them, a sign, digits of any
script and single underscores between digits.
-/

namespace TextProtocol.Text

/-- The greatest number of digits of an integer that is read or written. -/
def maxDigits : Nat := 4300

/-- Whether an integer can be written: it has no more digits than are allowed. -/
def isWritable (n : Int) : Bool :=
  (toString n.natAbs).length ≤ maxDigits

inductive IntegerError where
  | malformed
  | tooManyDigits (count : Nat)
  deriving DecidableEq, Repr

def isNumeralBlank (c : Char) : Bool :=
  isBlank c && !(28 ≤ c.toNat && c.toNat ≤ 31)

/-- The values of leading digits, which underscores may divide, and the rest. `after` is whether a
digit stands directly before. -/
def takeDigits (after : Bool) : List Char → Option (List Nat × List Char)
  | [] => if after then some ([], []) else none
  | c :: rest =>
    if c == '_' then if after then takeDigits false rest else none
    else match decimalValue? c with
      | some d => (takeDigits true rest).map fun (ds, r) ↦ (d :: ds, r)
      | none => if after then some ([], c :: rest) else none

def ofDecimalDigits (ds : List Nat) : Nat :=
  ds.foldl (fun n d ↦ 10 * n + d) 0

def readInteger (cs : List Char) : Except IntegerError Int :=
  let (negative, body) := match cs.dropWhile isNumeralBlank with
    | '-' :: rest => (true, rest)
    | '+' :: rest => (false, rest)
    | rest => (false, rest)
  match takeDigits false body with
  | none => .error .malformed
  | some (ds, rest) =>
    if maxDigits < ds.length then .error (.tooManyDigits ds.length)
    else if rest.all isNumeralBlank then
      let n : Int := ofDecimalDigits ds
      .ok (if negative then -n else n)
    else .error .malformed

end TextProtocol.Text
