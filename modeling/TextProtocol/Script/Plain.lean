import TextProtocol.Script.Program

/-!
# Plain values

An expression is a plain value if it is written out: a literal, or a collection of plain values.
-/

namespace TextProtocol.Script

def readExpression (source : String) : Option Expr := do
  guard !(source.toList.contains '\x00')
  match rows source with
  | [.line 1 (some tokens)] =>
    let (found, position) ← (Reader.starExpressions (RowReader.fuelFor tokens)).run
      ⟨.module, tokens, ⟨[], []⟩, false⟩
    guard (position.tokens.isEmpty && !position.misplaced)
    return found
  | _ => none

namespace Expr

/-- Whether an expression is a number that is written out and not complex. -/
def isReal : Expr → Bool
  | .natural _ | .real _ => true
  | _ => false

def isNumeral : Expr → Bool
  | .imaginary => true
  | e => e.isReal

def isSigned (isUnsigned : Expr → Bool) : Expr → Bool
  | .unary sign operand => sign != "~" && sign != "not" && isUnsigned operand
  | e => isUnsigned e

def isKey : (fuel : Nat) → Expr → Bool
  | 0, _ => false
  | fuel + 1, e => match e with
    | .list _ | .set _ | .dict _ | .call .. => false
    | .tuple items => items.all (isKey fuel)
    | _ => true

/-- Whether an expression is a plain value. A sum is one if it makes a complex number. -/
def isPlain : (fuel : Nat) → Expr → Bool
  | 0, _ => false
  | fuel + 1, e => match e with
    | .text _ | .bytes _ | .constant _ | .natural _ | .real _ | .imaginary => true
    | .unary .. => e.isSigned isNumeral
    | .binary sign left right =>
      (sign == "+" || sign == "-") && left.isSigned isReal && (right matches .imaginary)
    | .tuple items | .list items => items.all (isPlain fuel)
    | .set items => items.all fun item ↦ isPlain fuel item && isKey fuel item
    | .dict entries => entries.all fun
      | .pair key value => isPlain fuel key && isKey fuel key && isPlain fuel value
      | _ => false
    | .call (.name "set") [] => true
    | _ => false

end Expr

/-- Whether a text is a plain value. Blanks in front of it do not count. -/
def isPlainText (text : List Char) : Bool :=
  let text := text.dropWhile fun c ↦ c == ' ' || c == '\t'
  (readExpression (String.ofList text)).any (Expr.isPlain (text.length + 1))

end TextProtocol.Script
