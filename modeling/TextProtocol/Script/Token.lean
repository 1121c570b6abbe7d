import TextProtocol.Double.Basic
import TextProtocol.Text.Identifier

/-!
# Tokens of Python modules

A generated Python module is read again when it is loaded. This file cuts its source into tokens,
one logical line at a time: a line goes on inside brackets and after a backslash, and a comment ends
with its line.
-/

namespace TextProtocol.Script

structure Quote where
  /-- The letters in front of the marks, in lower case. -/
  letters : List Char
  body : List Char
  deriving DecidableEq, Repr

/-- The smallest part of a line that has a meaning. -/
inductive Token where
  | word (text : String)
  | natural (value : Nat)
  | real (value : Double)
  | imaginary
  | quote (literal : Quote)
  | sign (text : String)
  deriving DecidableEq, Repr

/-! ## String literals -/

def isMark (c : Char) : Bool :=
  c == '"' || c == '\''

/-- The body of a literal that ends with three marks, and what follows it. -/
def takeLong (mark : Char) : List Char → Option (List Char × List Char)
  | [] => none
  | '\\' :: c :: rest => (takeLong mark rest).map fun (body, rest) ↦ ('\\' :: c :: body, rest)
  | c :: rest =>
    if c == mark && rest.take 2 == [mark, mark] then some ([], rest.drop 2)
    else (takeLong mark rest).map fun (body, rest) ↦ (c :: body, rest)

/-- The body of a literal that ends with one mark, on the same line, and what follows it. -/
def takeShort (mark : Char) : List Char → Option (List Char × List Char)
  | [] => none
  | '\\' :: c :: rest => (takeShort mark rest).map fun (body, rest) ↦ ('\\' :: c :: body, rest)
  | c :: rest =>
    if c == mark then some ([], rest)
    else if c == '\n' then none
    else (takeShort mark rest).map fun (body, rest) ↦ (c :: body, rest)

def readQuote (letters : List Char) (mark : Char) (rest : List Char) :
    Option (Token × List Char) := do
  let (body, rest) ← if rest.take 2 == [mark, mark] then takeLong mark (rest.drop 2)
    else takeShort mark rest
  return (.quote ⟨letters, body⟩, rest)

def quoteLetters : List String :=
  ["b", "u", "r", "f", "br", "rb", "fr", "rf"]

/-! ## Numbers -/

/-- Whether a character may stand in a word; any that is not ASCII may, until the word is looked
at as a whole. -/
def isWordChar (c : Char) : Bool :=
  c.isAlphanum || c == '_' || 128 ≤ c.toNat

def wordsAfterNumber : List String :=
  ["and", "else", "for", "if", "in", "is", "or", "not"]

def endsNumber (rest : List Char) : Bool :=
  !rest.head?.any isWordChar || wordsAfterNumber.any (·.toList.isPrefixOf rest)

def isDigitRun : List Char → Bool
  | [] => true
  | '_' :: c :: rest => c != '_' && isDigitRun rest
  | ['_'] => false
  | _ :: rest => isDigitRun rest

def digitRun (isDigit : Char → Bool) (text : List Char) : List Char × List Char :=
  text.span fun c ↦ isDigit c || c == '_'

def runValue (base : Nat) (run : List Char) : Nat :=
  (run.filter (· != '_')).foldl (fun n c ↦ base * n + (if c.isDigit then c.toNat - 48
    else c.toLower.toNat - 87)) 0

/-- Whether a character is a digit of one of the bases two, eight and sixteen. -/
def isDigitOf (base : Nat) (c : Char) : Bool :=
  let n := c.toNat
  (48 ≤ n && n < 48 + min base 10) || (base == 16 && "abcdefABCDEF".contains c)

def readBased (base : Nat) (rest : List Char) : Option (Token × List Char) :=
  let (run, rest) := digitRun (isDigitOf base) rest
  if !run.isEmpty && isDigitRun run && endsNumber rest then
    some (.natural (runValue base run), rest)
  else none

def readFraction : List Char → Option (List Char) × List Char
  | '.' :: rest => if rest.head?.any Char.isDigit then
      let (run, rest) := digitRun Char.isDigit rest
      (some run, rest)
    else (some [], rest)
  | rest => (none, rest)

/-- The exponent at the beginning of a text: whether it is negative, its digits, and what follows
it. -/
def readExponent (rest : List Char) : Option (Bool × List Char × List Char) :=
  match rest with
  | e :: rest =>
    if e == 'e' || e == 'E' then
      let digits := match rest with
        | sign :: more => if sign == '+' || sign == '-' then more else rest
        | [] => rest
      if digits.head?.any Char.isDigit then
        some (rest.head? == some '-', digitRun Char.isDigit digits)
      else none
    else none
  | [] => none

def mostDigits : Nat :=
  4300

/-- A whole number in decimal digits; it begins with a zero only if it is zero. -/
def readWhole (run rest : List Char) : Option (Token × List Char) :=
  let digits := run.filter (· != '_')
  if (digits.head? == some '0' && digits.any (· != '0')) || mostDigits < digits.length ||
      !endsNumber rest then none
  else some (.natural (runValue 10 run), rest)

def realOf (whole fraction : List Char) (negative : Bool) (exponent : List Char) : Double :=
  let power : Int := runValue 10 exponent
  let places := (fraction.filter (· != '_')).length
  Double.ofDecimal false (runValue 10 (whole ++ fraction))
    ((if negative then -power else power) - places)

def readDecimal (text : List Char) : Option (Token × List Char) :=
  let (whole, rest) := digitRun Char.isDigit text
  let (fraction?, rest) := readFraction rest
  let exponent? := readExponent rest
  let (negative, exponent, rest) := exponent?.getD (false, [], rest)
  let fraction := fraction?.getD []
  if [whole, fraction, exponent].any (!isDigitRun ·) then none
  else match rest with
    | 'j' :: more | 'J' :: more => if endsNumber more then some (.imaginary, more) else none
    | rest =>
      if fraction?.isNone && exponent?.isNone then readWhole whole rest
      else if endsNumber rest then some (.real (realOf whole fraction negative exponent), rest)
      else none

def readNumber (text : List Char) : Option (Token × List Char) :=
  match text with
  | '0' :: c :: rest =>
    if c == 'x' || c == 'X' then readBased 16 rest
    else if c == 'o' || c == 'O' then readBased 8 rest
    else if c == 'b' || c == 'B' then readBased 2 rest
    else readDecimal text
  | _ => readDecimal text

/-! ## Tokens -/

def signs : List String :=
  ["**=", "//=", ">>=", "<<=", "...", "!=", "==", "<=", ">=", "->", "+=", "-=", "*=", "/=", "%=",
    "@=", "&=", "|=", "^=", ":=", "**", "//", "<<", ">>", "+", "-", "*", "/", "%", "@", "&", "|",
    "^", "~", "<", ">", "(", ")", "[", "]", "\x7b", "\x7d", ",", ":", ";", ".", "="]

def readWord (text : List Char) : Option (Token × List Char) :=
  let (run, rest) := text.span isWordChar
  let letters := run.map Char.toLower
  match rest with
  | mark :: more =>
    if isMark mark && quoteLetters.contains (String.ofList letters) then
      readQuote letters mark more
    else word run rest
  | [] => word run rest
where
  word (run rest : List Char) : Option (Token × List Char) :=
    if Text.isIdentifier run then some (.word (String.ofList run), rest) else none

/-- The token at the beginning of a text that begins with neither a blank nor a comment. -/
def readToken (text : List Char) : Option (Token × List Char) :=
  match text with
  | [] => none
  | c :: rest =>
    if isMark c then readQuote [] c rest
    else if c.isDigit || (c == '.' && rest.head?.any Char.isDigit) then readNumber text
    else if isWordChar c then readWord text
    else (signs.find? (·.toList.isPrefixOf text)).map fun s ↦ (.sign s, text.drop s.length)

def areBrackets (opening closing : String) : Bool :=
  [("(", ")"), ("[", "]"), ("\x7b", "\x7d")].contains (opening, closing)

def mostBrackets : Nat :=
  200

def openAfter (opened : List String) : Token → Option (List String)
  | .sign s =>
    if ["(", "[", "\x7b"].contains s then
      if mostBrackets ≤ opened.length then none else some (s :: opened)
    else if [")", "]", "\x7d"].contains s then
      match opened with
      | opening :: more => if areBrackets opening s then some more else none
      | [] => none
    else some opened
  | _ => some opened

def isGap (c : Char) : Bool :=
  c == ' ' || c == '\t' || c == '\x0c'

/-- The tokens of a logical line and the lines after it; none if a part of it is no token, or a
bracket or a string literal is left open. -/
def readTokens : (fuel : Nat) → (opened : List String) → List Char →
    Option (List Token × List Char)
  | 0, _, _ => none
  | fuel + 1, opened, text => match text with
    | [] => if opened.isEmpty then some ([], []) else none
    | '\n' :: rest => if opened.isEmpty then some ([], rest) else readTokens fuel opened rest
    | '\\' :: '\n' :: rest => if rest.isEmpty then none else readTokens fuel opened rest
    | '#' :: rest => readTokens fuel opened (rest.dropWhile (· != '\n'))
    | c :: rest =>
      if isGap c then readTokens fuel opened rest
      else do
        let (token, rest) ← readToken text
        let opened ← openAfter opened token
        let (tokens, rest) ← readTokens fuel opened rest
        return (token :: tokens, rest)

def readLine (text : List Char) : Option (List Token × List Char) :=
  readTokens (text.length + 1) [] text

end TextProtocol.Script
