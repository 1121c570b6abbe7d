import TextProtocol.Fault
import TextProtocol.Value.Basic

/-!
# Comparing values

Numbers of any kind are compared by their exact values, a truth value counting as zero or one;
strings, byte strings and lists are compared with their own kind, item by item. Other pairs are
equal only to themselves and have no order.
-/

namespace TextProtocol

/-- A number: an integer or a floating-point number. -/
inductive Number where
  | int (n : Int)
  | real (x : Double)

namespace Number

def lt : Number → Number → Bool
  | .int a, .int b => a < b
  | .int a, .real y => Double.ratioLt (a, 1) y
  | .real x, .int b => x.ltRatio (b, 1)
  | .real x, .real y => x.lt y

def eq : Number → Number → Bool
  | .int a, .int b => a == b
  | .int a, .real y => match y with
    | .finite s m e => let (n, d) := Double.toRatio s m e; a * d == n
    | _ => false
  | .real x, .int b => match x with
    | .finite s m e => let (n, d) := Double.toRatio s m e; b * d == n
    | _ => false
  | .real x, .real y => x.eq y

end Number

namespace Value

def number? : Value → Option Number
  | .bool b => some (.int (if b then 1 else 0))
  | .int n => some (.int n)
  | .real x => some (.real x)
  | _ => none

def integer? : Value → Option Int
  | .bool b => some (if b then 1 else 0)
  | .int n => some n
  | _ => none

/-- Byte strings in order of their first different byte. -/
def bytesLt : List UInt8 → List UInt8 → Bool
  | [], [] => false
  | [], _ :: _ => true
  | _ :: _, [] => false
  | a :: as, b :: bs => if a == b then bytesLt as bs else a < b

mutual

def same : Value → Value → Bool
  | .null, .null => true
  | .text a, .text b => a == b
  | .unpaired a, .unpaired b => a == b
  | .bytes a, .bytes b | .bytes a, .buffer b | .buffer a, .bytes b | .buffer a, .buffer b => a == b
  | .list a, .list b => sameItems a b
  | .object a, .object b => a.length == b.length && sameEntries a b
  | a, b => match a.number?, b.number? with
    | some x, some y => x.eq y
    | _, _ => false

def sameItems : List Value → List Value → Bool
  | [], [] => true
  | a :: as, b :: bs => same a b && sameItems as bs
  | _, _ => false

/-- Whether each entry of the first list has its key and an equal value in the second. -/
def sameEntries : List (String × Value) → List (String × Value) → Bool
  | [], _ => true
  | (k, v) :: rest, other =>
    (match lookup? other k with
      | some w => same v w
      | none => false) && sameEntries rest other

end

mutual

/-- Whether one value is below another; a fault when the two have no order. -/
def lt : Value → Value → Except Fault Bool
  | .text a, .text b => .ok (a < b)
  | .text a, .unpaired b => .ok (Text.codesLt (Text.codes a) b.codes)
  | .unpaired a, .text b => .ok (Text.codesLt a.codes (Text.codes b))
  | .unpaired a, .unpaired b => .ok (Text.codesLt a.codes b.codes)
  | .bytes a, .bytes b | .bytes a, .buffer b | .buffer a, .bytes b | .buffer a, .buffer b =>
    .ok (bytesLt a b)
  | .list a, .list b => ltItems a b
  | a, b => match a.number?, b.number? with
    | some x, some y => .ok (x.lt y)
    | _, _ => .error .mismatch

def ltItems : List Value → List Value → Except Fault Bool
  | [], [] => .ok false
  | [], _ :: _ => .ok true
  | _ :: _, [] => .ok false
  | a :: as, b :: bs => if same a b then ltItems as bs else lt a b

end

/-- The greater of two values, the first when neither is greater. -/
def max (a b : Value) : Except Fault Value := do
  return if ← lt a b then b else a

/-- The lesser of two values, the first when neither is lesser. -/
def min (a b : Value) : Except Fault Value := do
  return if ← lt b a then b else a

/-- The value itself when it counts as true, else the other one. -/
def orElse (a b : Value) : Value :=
  if a.truthy then a else b

end Value

end TextProtocol
