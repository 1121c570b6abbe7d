import TextProtocol.Double.Basic

/-!
# Objects of Python modules

What the expressions of a module stand for, as far as it decides which exception they raise. What is
not known any further is `other`, with which everything can be done.
-/

namespace TextProtocol.Script

structure Exception where
  className : String
  deriving DecidableEq, Repr

namespace Exception

def mismatch : Exception := ⟨"TypeError"⟩

def absent : Exception := ⟨"AttributeError"⟩

def invalid : Exception := ⟨"ValueError"⟩

def unknownName : Exception := ⟨"NameError"⟩

def missingKey : Exception := ⟨"KeyError"⟩

def outOfRange : Exception := ⟨"IndexError"⟩

def zeroDivision : Exception := ⟨"ZeroDivisionError"⟩

/-- The classes that a class of exceptions is derived from, itself among them, if they are not only
the ones that all are derived from. -/
def families : List (String × List String) :=
  [("KeyError", ["LookupError"]), ("IndexError", ["LookupError"]),
    ("ZeroDivisionError", ["ArithmeticError"]), ("OverflowError", ["ArithmeticError"]),
    ("FloatingPointError", ["ArithmeticError"]), ("ModuleNotFoundError", ["ImportError"]),
    ("UnboundLocalError", ["NameError"]), ("NotImplementedError", ["RuntimeError"]),
    ("RecursionError", ["RuntimeError"]), ("UnicodeError", ["ValueError"]),
    ("FileNotFoundError", ["OSError"]), ("PermissionError", ["OSError"]),
    ("TimeoutError", ["OSError"]), ("ConnectionError", ["OSError"]),
    ("IndentationError", ["SyntaxError"]), ("TabError", ["IndentationError", "SyntaxError"])]

def isA (e : Exception) (className : String) : Bool :=
  e.className == className || ["Exception", "BaseException"].contains className ||
    ((families.lookup e.className).getD []).contains className

end Exception

inductive Object where
  | text (chars : List Char)
  | bytes (data : List Char)
  | int (value : Int)
  /-- A real number; if it is not known, it is the one that is no number. -/
  | real (value : Double)
  | complex
  | bool (value : Bool)
  | none
  | ellipsis
  | tuple (items : List Object)
  | list (items : List Object)
  | set (items : List Object)
  | dict (entries : List (Object × Object))
  | builtin (name : String)
  | exceptionClass (name : String)
  | function (result : Object)
  /-- A class that the module makes, or a type that is made from others, with the members that it
  keeps together and their defaults. -/
  | type (members : List (String × Option Object))
  | generic
  | enumBase
  /-- A class of named values, with whether it has some. -/
  | enumeration (hasValues : Bool)
  /-- What makes a class one whose members are kept together. -/
  | dataDecorator
  | exception (raised : Exception)
  | other

namespace Object

def int? : Object → Option Int
  | .int n => some n
  | .bool b => some (if b then 1 else 0)
  | _ => Option.none

def real? : Object → Option Double
  | .real x => some x
  | e => e.int?.map fun n ↦ Double.ofRatio (n < 0) n.natAbs 1

def isTrue : Object → Bool
  | .text chars | .bytes chars => !chars.isEmpty
  | .int n => n != 0
  | .real x => !x.isZero
  | .bool b => b
  | .none => false
  | .tuple items | .list items | .set items => !items.isEmpty
  | .dict entries => !entries.isEmpty
  | _ => true

def isSame : Object → Object → Bool
  | .text a, .text b | .bytes a, .bytes b => a == b
  | .none, .none | .ellipsis, .ellipsis => true
  | .builtin a, .builtin b | .exceptionClass a, .exceptionClass b => a == b
  | a, b => match a.int?, b.int? with
    | some m, some n => m == n
    | _, _ => match a.real?, b.real? with
      | some x, some y => x.eq y
      | _, _ => false

def isHashable : Object → Bool
  | .list _ | .set _ | .dict _ => false
  | _ => true

def isOther : Object → Bool
  | .other => true
  | _ => false

def elements : Object → Except Exception (Option (List Object))
  | .text chars => .ok (some (chars.map fun c ↦ .text [c]))
  | .bytes data => .ok (some (data.map fun c ↦ .int c.toNat))
  | .tuple items | .list items | .set items => .ok (some items)
  | .dict entries => .ok (some (entries.map (·.1)))
  | .other | .enumeration _ | .enumBase => .ok Option.none
  | _ => .error .mismatch

/-! ## Operators -/

def mostKept : Nat :=
  100000

/-- So many copies of a list, one after another; what is too long is not known. -/
def repeated {α : Type} (items : List α) (count : Int) (make : List α → Object) : Object :=
  if items.length * count.toNat ≤ mostKept then
    make (List.replicate count.toNat items).flatten
  else .other

/-- A whole number raised to a power that is not negative; what is too large is not known. -/
def power (base : Int) (exponent : Nat) : Object :=
  if exponent ≤ 1000 then .int (Int.pow base exponent) else .other

def wholeOperator (sign : String) (a b : Int) : Except Exception Object :=
  match sign with
  | "+" => .ok (.int (a + b))
  | "-" => .ok (.int (a - b))
  | "*" => .ok (.int (a * b))
  | "/" =>
    if b == 0 then .error .zeroDivision
    else .ok (.real (Double.ofRatio ((a < 0) != (b < 0)) a.natAbs b.natAbs))
  | "//" => if b == 0 then .error .zeroDivision else .ok (.int (Int.fdiv a b))
  | "%" => if b == 0 then .error .zeroDivision else .ok (.int (Int.fmod a b))
  | "**" =>
    if 0 ≤ b then .ok (power a b.toNat)
    else if a == 0 then .error .zeroDivision
    else .ok (.real .nan)
  | "<<" => if b < 0 then .error .invalid
    else .ok (if b ≤ 1000 then .int (a * Nat.pow 2 b.toNat) else .other)
  | ">>" => if b < 0 then .error .invalid
    else .ok (if b ≤ 1000 then .int (Int.fdiv a (Nat.pow 2 b.toNat)) else .other)
  | "&" | "|" | "^" => .ok .other
  | _ => .error .mismatch

def rounded (operation : Int × Nat → Int × Nat → Int × Nat) : Double → Double → Object
  | .finite s m e, .finite s' m' e' =>
    let (n, d) := operation (Double.toRatio s m e) (Double.toRatio s' m' e')
    .real (Double.ofRatio (n < 0) n.natAbs d)
  | _, _ => .real .nan

def quotient (a b : Int × Nat) : Int × Nat :=
  (a.1 * b.2 * b.1.sign, a.2 * b.1.natAbs)

def realOperator (sign : String) (a b : Double) : Except Exception Object :=
  match sign with
  | "+" => .ok (rounded (fun a b ↦ (a.1 * b.2 + b.1 * a.2, a.2 * b.2)) a b)
  | "-" => .ok (rounded (fun a b ↦ (a.1 * b.2 - b.1 * a.2, a.2 * b.2)) a b)
  | "*" => .ok (rounded (fun a b ↦ (a.1 * b.1, a.2 * b.2)) a b)
  | "/" => if b.isZero then .error .zeroDivision else .ok (rounded quotient a b)
  | "//" | "%" => if b.isZero then .error .zeroDivision else .ok (.real .nan)
  | "**" => .ok (.real .nan)
  | _ => .error .mismatch

def isNumber : Object → Bool
  | .complex => true
  | e => e.real?.isSome

def complexOperator (sign : String) (right : Object) : Except Exception Object :=
  match sign with
  | "+" | "-" | "*" | "**" => .ok .complex
  | "/" => if right.real?.any (·.isZero) then .error .zeroDivision else .ok .complex
  | _ => .error .mismatch

def types : List String :=
  ["bool", "bytearray", "bytes", "classmethod", "complex", "dict", "enumerate", "filter", "float",
    "frozenset", "int", "list", "map", "memoryview", "object", "property", "range", "reversed",
    "set", "slice", "staticmethod", "str", "super", "tuple", "type", "zip"]

def isType : Object → Bool
  | .builtin name => types.contains name
  | .exceptionClass _ | .type _ | .generic | .enumBase | .enumeration _ | .none => true
  | _ => false

def operator (sign : String) (left right : Object) : Except Exception Object :=
  if left.isOther || right.isOther then .ok .other
  else match left.int?, right.int? with
    | some a, some b => wholeOperator sign a b
    | _, _ =>
      if left.isNumber && right.isNumber then
        match left.real?, right.real? with
        | some a, some b => realOperator sign a b
        | _, _ => complexOperator sign right
      else match sign, left, right with
        | "+", .text a, .text b => .ok (.text (a ++ b))
        | "+", .bytes a, .bytes b => .ok (.bytes (a ++ b))
        | "+", .tuple a, .tuple b => .ok (.tuple (a ++ b))
        | "+", .list a, .list b => .ok (.list (a ++ b))
        | "*", items, count => match copies items count, copies count items with
          | some made, _ | _, some made => .ok made
          | _, _ => .error .mismatch
        | "-", .set _, .set _ | "&", .set _, .set _ | "|", .set _, .set _ | "^", .set _, .set _ =>
          .ok .other
        | "|", .dict _, .dict _ => .ok .other
        | "|", .none, .none => .error .mismatch
        | "|", a, b => if a.isType && b.isType then .ok (.type []) else .error .mismatch
        | _, _, _ => .error .mismatch
where
  /-- Copies of a sequence, if the count is a whole number. -/
  copies (items count : Object) : Option Object :=
    count.int?.bind fun n ↦ match items with
      | .text chars => some (repeated chars n .text)
      | .bytes data => some (repeated data n .bytes)
      | .tuple items => some (repeated items n .tuple)
      | .list items => some (repeated items n .list)
      | _ => Option.none

def unary (sign : String) (e : Object) : Except Exception Object :=
  if sign == "not" then .ok (.bool !e.isTrue)
  else match e with
    | .other => .ok .other
    | .real x =>
      if sign == "~" then .error .mismatch
      else .ok (.real (if sign == "-" then x.negated else x))
    | .complex => if sign == "~" then .error .mismatch else .ok .complex
    | e => match e.int? with
      | some n => .ok (.int (if sign == "-" then -n else if sign == "~" then -n - 1 else n))
      | Option.none => .error .mismatch

def contains (container member : Object) : Except Exception Object :=
  match container, member with
  | .text whole, .text part =>
    .ok (.bool ((List.range (whole.length + 1)).any fun i ↦ part.isPrefixOf (whole.drop i)))
  | .text _, .other | .bytes _, .other | .bytes _, .bytes _ | .bytes _, .int _
  | .bytes _, .bool _ => .ok .other
  | .tuple items, e | .list items, e => .ok (.bool (items.any (isSame e)))
  | .set items, e => if e.isHashable then .ok (.bool (items.any (isSame e))) else .error .mismatch
  | .dict entries, e =>
    if e.isHashable then .ok (.bool (entries.any fun entry ↦ isSame e entry.1))
    else .error .mismatch
  | .other, _ => .ok .other
  | _, _ => .error .mismatch

def order (sign : String) (left right : Object) : Except Exception Object :=
  match left, right with
  | .text a, .text b | .bytes a, .bytes b =>
    let a := String.ofList a
    let b := String.ofList b
    .ok (.bool (if sign == "<" then a < b else if sign == ">" then b < a
      else if sign == "<=" then !(b < a) else !(a < b)))
  | .tuple _, .tuple _ | .list _, .list _ | .set _, .set _ => .ok .other
  | .other, _ | _, .other => .ok .other
  | a, b => match a.int?, b.int? with
    | some m, some n => .ok (.bool (if sign == "<" then m < n else if sign == ">" then n < m
      else if sign == "<=" then m ≤ n else n ≤ m))
    | _, _ => match a.real?, b.real? with
      | some x, some y => .ok (.bool (if sign == "<" then x.lt y else if sign == ">" then y.lt x
        else if sign == "<=" then x.lt y || x.eq y else y.lt x || x.eq y))
      | _, _ => .error .mismatch

def compare (sign : String) (left right : Object) : Except Exception Object :=
  match sign with
  | "==" | "is" => .ok (if left.isOther || right.isOther then .other else .bool (left.isSame right))
  | "!=" | "is not" =>
    .ok (if left.isOther || right.isOther then .other else .bool !(left.isSame right))
  | "in" => right.contains left
  | "not in" => do unary "not" (← right.contains left)
  | _ => order sign left right

/-! ## Subscripts -/

/-- The place in a sequence that an index means; a negative one counts from the end. -/
def placeOf (length : Nat) (n : Int) : Except Exception Nat :=
  let n := if n < 0 then n + length else n
  if 0 ≤ n && n < length then .ok n.toNat else .error .outOfRange

def itemAt (items : List Object) (index : Object) : Except Exception Object :=
  match index.int? with
  | some n => do return (items[← placeOf items.length n]?).getD .other
  | Option.none => if index.isOther then .ok .other else .error .mismatch

def item (container index : Object) : Except Exception Object :=
  match container with
  | .text chars => itemAt (chars.map fun c ↦ .text [c]) index
  | .bytes data => itemAt (data.map fun c ↦ .int c.toNat) index
  | .tuple items | .list items => itemAt items index
  | .dict entries =>
    if !index.isHashable then .error .mismatch
    else match entries.reverse.find? (fun entry ↦ isSame index entry.1) with
      | some entry => .ok entry.2
      | Option.none => if index.isOther then .ok .other else .error .missingKey
  | .builtin name =>
    if ["dict", "enumerate", "frozenset", "list", "set", "tuple", "type"].contains name then
      .ok (.type [])
    else .error .mismatch
  | .generic => .ok (.type [])
  | .enumeration _ | .enumBase => .error .missingKey
  | .other => .ok .other
  | _ => .error .mismatch

/-- The place that a bound of a slice means, inside a sequence. -/
def boundOf (length : Nat) (otherwise : Nat) (bound : Object) : Nat :=
  match bound.int? with
  | some n => min length (if n < 0 then n + length else n).toNat
  | Option.none => otherwise

def part {α : Type} (items : List α) (lower upper : Object) : List α :=
  let first := boundOf items.length 0 lower
  (items.take (boundOf items.length items.length upper)).drop first

def isBound (e : Object) : Bool :=
  e.int?.isSome || e matches .none | .other

def slice (container lower upper step : Object) : Except Exception Object := do
  let found ← match container with
    | .text chars => pure (.text (part chars lower upper))
    | .bytes data => pure (.bytes (part data lower upper))
    | .tuple items => pure (.tuple (part items lower upper))
    | .list items => pure (.list (part items lower upper))
    | .other => pure .other
    | _ => throw .mismatch
  if !found.isOther && [lower, upper, step].any (!·.isBound) then throw .mismatch
  else if !found.isOther && step.int? == some 0 then throw .invalid
  else return found

end Object

end TextProtocol.Script
