import TextProtocol.Script.Object

/-!
# Formatting in Python modules

Which exceptions are raised when objects are put into texts: by a percent sign, or in the hole of a
formatted literal.
-/

namespace TextProtocol.Script

/-! ## Percent signs -/

/-- What a percent sign in a text asks for. -/
structure Directive where
  key? : Option (List Char)
  /-- How many numbers are taken from the arguments for the width and the precision. -/
  stars : Nat
  letter : Char

/-- The key of a directive up to its closing bracket, and what follows it. -/
def readKey : (depth : Nat) → List Char → Option (List Char × List Char)
  | _, [] => none
  | depth, ')' :: rest =>
    if depth == 0 then some ([], rest)
    else (readKey (depth - 1) rest).map fun (key, rest) ↦ (')' :: key, rest)
  | depth, c :: rest =>
    (readKey (if c == '(' then depth + 1 else depth) rest).map fun (key, rest) ↦ (c :: key, rest)

/-- A width or a precision: whether it is taken from the arguments, and what follows it. -/
def readWidth : List Char → Nat × List Char
  | '*' :: rest => (1, rest)
  | rest => (0, rest.dropWhile Char.isDigit)

/-- The directive after a percent sign, and what follows it; none if it is not complete. -/
def readDirective (text : List Char) : Option (Directive × List Char) := do
  let (key?, rest) ← match text with
    | '(' :: rest => (readKey 0 rest).map fun (key, rest) ↦ (some key, rest)
    | _ => some (none, text)
  let (width, rest) := readWidth (rest.dropWhile ("-+ #0".contains ·))
  let (precision, rest) := match rest with
    | '.' :: rest => readWidth rest
    | _ => (0, rest)
  match rest with
  | c :: rest =>
    if "hlL".contains c then match rest with
      | letter :: rest => return (⟨key?, width + precision, letter⟩, rest)
      | [] => none
    else return (⟨key?, width + precision, c⟩, rest)
  | [] => none

def checkLetter (isBytes : Bool) (letter : Char) (e : Object) : Except Exception Unit :=
  let need (condition : Bool) : Except Exception Unit :=
    if condition || e.isOther then .ok () else .error .mismatch
  if "ra".contains letter then .ok ()
  else if letter == 's' || (isBytes && letter == 'b') then need (!isBytes || e matches .bytes _)
  else if "diueEfFgG".contains letter then need e.real?.isSome
  else if "oxX".contains letter then need e.int?.isSome
  else if letter == 'c' then match e with
    | .text [_] => need !isBytes
    | .bytes [_] => need isBytes
    | e => match e.int? with
      | some n => if 0 ≤ n && n < (if isBytes then 256 else 0x110000) then .ok ()
        else .error ⟨"OverflowError"⟩
      | none => need false
  else .error .invalid

def valueAt (key : List Char) : Object → Except Exception Object
  | .dict entries => Object.item (.dict entries) (.text key)
  | .other => .ok .other
  | _ => .error .mismatch

def isMapping : Object → Bool
  | .dict _ | .list _ | .bytes _ | .other => true
  | _ => false

def takeStars : (stars : Nat) → List Object → Except Exception (List Object)
  | 0, arguments => .ok arguments
  | stars + 1, e :: rest =>
    if e.int?.isSome || e.isOther then takeStars stars rest else .error .mismatch
  | _ + 1, [] => .error .mismatch

/-- Puts arguments where the percent signs of a text ask for them; `whole` is what stands on the
right of the operator. -/
def fillPercents (isBytes : Bool) (whole : Object) : (fuel : Nat) → (text : List Char) →
    (arguments : List Object) → Except Exception Unit
  | 0, _, _ => .ok ()
  | fuel + 1, text, arguments => do
    match text.dropWhile (· != '%') with
    | _ :: rest =>
      match readDirective rest with
      | none => throw .invalid
      | some (directive, rest) =>
        let arguments ← match directive.key? with
          | some key =>
            if isMapping whole then pure [← valueAt key whole] else throw .mismatch
          | none => pure arguments
        let arguments ← takeStars directive.stars arguments
        if directive.letter == '%' then fillPercents isBytes whole fuel rest arguments
        else match arguments with
          | e :: more =>
            checkLetter isBytes directive.letter e
            fillPercents isBytes whole fuel rest more
          | [] => throw .mismatch
    | [] => if arguments.isEmpty || isMapping whole then return () else throw .mismatch

def percent (isBytes : Bool) (text : List Char) (right : Object) : Except Exception Unit :=
  fillPercents isBytes right (text.length + 1) text (match right with
    | .tuple items => items
    | e => [e])

/-! ## Holes -/

def checkFormat (format : List Char) (e : Object) : Except Exception Unit :=
  let letter? := format.getLast?.filter Char.isAlpha
  let need (letters : String) : Except Exception Unit :=
    if letter?.all (letters.contains ·) then .ok () else .error .invalid
  if format.isEmpty then .ok ()
  else match e with
    | .text _ => need "s"
    | .int _ | .bool _ => need "bcdeEfFgGnoxX"
    | .real _ => need "eEfFgGn"
    | .complex => need "eEfFgGn"
    | .other => .ok ()
    | _ => .error .mismatch

def shown : Object → List Char
  | .text chars => chars
  | .int n => (toString n).toList
  | .bool b => (if b then "True" else "False").toList
  | .none => "None".toList
  | _ => ['?']

end TextProtocol.Script
