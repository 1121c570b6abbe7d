import TextProtocol.Script.Expr
import TextProtocol.Script.Literal

/-!
# Reading expressions in Python modules

A reader takes tokens from the front of a line. What stands where it may not stand, such as a result
outside of a function, is read all the same and noted, because it is found only after everything is
read.
-/

namespace TextProtocol.Script

/-- What a statement stands in, as far as some statements and expressions need it. -/
structure Place where
  depth : Nat
  /-- Whether it stands in no function and no class. -/
  inModule : Bool
  inFunction : Bool
  /-- Whether it stands in a function that may wait. -/
  inAsync : Bool
  inLoop : Bool

namespace Place

def module : Place :=
  ⟨1, true, false, false, false⟩

def deeper (place : Place) : Place :=
  ⟨place.depth + 1, place.inModule, place.inFunction, place.inAsync, place.inLoop⟩

def loop (place : Place) : Place :=
  ⟨place.depth, place.inModule, place.inFunction, place.inAsync, true⟩

def type (place : Place) : Place :=
  ⟨place.depth, false, false, false, false⟩

def function (place : Place) (isAsync : Bool) : Place :=
  ⟨place.depth, false, true, isAsync, false⟩

end Place

structure Names where
  mentioned : List String
  /-- Those that are declared to mean what they mean in the module. -/
  globals : List String

structure Position where
  place : Place
  tokens : List Token
  names : Names
  /-- Whether something has been read that may not stand where it stands. -/
  misplaced : Bool

/-- What takes tokens from the front of a line, or fails. -/
abbrev Reader := StateT Position Option

def keywords : List String :=
  ["False", "None", "True", "and", "as", "assert", "async", "await", "break", "class", "continue",
    "def", "del", "elif", "else", "except", "finally", "for", "from", "global", "if", "import",
    "in", "is", "lambda", "nonlocal", "not", "or", "pass", "raise", "return", "try", "while",
    "with", "yield"]

/-- The signs of operators that bind equally, by how strongly they bind. -/
def signsAt : (level : Nat) → List String
  | 0 => ["|"]
  | 1 => ["^"]
  | 2 => ["&"]
  | 3 => ["<<", ">>"]
  | 4 => ["+", "-"]
  | 5 => ["*", "/", "//", "%", "@"]
  | _ => []

def augmentSigns : List String :=
  ["+=", "-=", "*=", "/=", "//=", "%=", "@=", "&=", "|=", "^=", ">>=", "<<=", "**="]

namespace Reader

def peek : Reader (Option Token) :=
  return (← get).tokens.head?

def peekSecond : Reader (Option Token) :=
  return (← get).tokens[1]?

def skip : Reader Unit :=
  modify fun s ↦ { s with tokens := s.tokens.drop 1 }

def misplace : Reader Unit :=
  modify fun s ↦ { s with misplaced := true }

/-- Notes that something may not stand here, unless the place is a certain one. -/
def needPlace (isRight : Place → Bool) : Reader Unit := do
  if !isRight (← get).place then misplace

def mention (name : String) : Reader Unit :=
  modify fun s ↦ { s with names.mentioned := name :: s.names.mentioned }

/-- Declares that names mean what they mean in the module, which has to come before their use. -/
def declareGlobals (names : List String) : Reader Unit := do
  if names.any ((← get).names.mentioned.contains ·) then misplace
  modify fun s ↦ { s with names.globals := names ++ s.names.globals }

/-- Notes that a name is annotated, which none may be that means what it means in the module. -/
def annotate (name : String) : Reader Unit := do
  if (← get).names.globals.contains name then misplace

def apart {α : Type} (reader : Reader α) : Reader α := do
  let names := (← get).names
  let found ← reader
  modify fun s ↦ { s with names }
  return found

def isNext (token : Token) : Reader Bool :=
  return (← peek) == some token

def accept (token : Token) : Reader Bool := do
  let found ← isNext token
  if found then skip
  return found

def sign (text : String) : Reader Bool :=
  accept (.sign text)

def word (text : String) : Reader Bool :=
  accept (.word text)

def needSign (text : String) : Reader Unit := do
  guard (← sign text)

def needWord (text : String) : Reader Unit := do
  guard (← word text)

def identifier : Reader String := do
  match ← peek with
  | some (.word w) =>
    guard (!keywords.contains w)
    skip
    return w
  | _ => failure

def signOf (texts : List String) : Reader (Option String) := do
  match ← peek with
  | some (.sign s) => if texts.contains s then skip; return some s else return none
  | _ => return none

def atListEnd : Reader Bool := do
  match ← peek with
  | none => return true
  | some (.sign s) => return [")", "]", "\x7d", "=", ":", ";"].contains s || augmentSigns.contains s
  | some (.word w) => return w == "in"
  | _ => return false

def atLoop : Reader Bool :=
  return (← isNext (.word "for")) || (← isNext (.word "async"))

def compareSign : Reader (Option String) := do
  match ← signOf ["==", "!=", "<", ">", "<=", ">="] with
  | some s => return some s
  | none =>
    if ← word "in" then return some "in"
    else if ← word "is" then
      if ← word "not" then return some "is not" else return some "is"
    else if (← isNext (.word "not")) && (← peekSecond) == some (.word "in") then
      skip
      skip
      return some "not in"
    else return none

def aside {α : Type} (tokens : List Token) (reader : Reader α) : Reader α := do
  let rest := (← get).tokens
  modify fun s ↦ { s with tokens }
  let result ← reader
  guard (← get).tokens.isEmpty
  modify fun s ↦ { s with tokens := rest }
  return result

def quotes : Reader (List Quote) := do
  let tokens := (← get).tokens
  let found := tokens.map (fun
    | .quote q => some q
    | _ => none)
  let run := found.takeWhile Option.isSome
  modify fun s ↦ { s with tokens := tokens.drop run.length }
  return run.filterMap id

end Reader

/-- Whether a value can be given to an expression. Of the parts of a tuple or a list one at most is
starred. -/
def isTarget : (fuel : Nat) → Expr → Bool
  | 0, _ => false
  | fuel + 1, e => match e with
    | .name _ | .attribute .. | .item .. => true
    | .starred e => isTarget fuel e
    | .tuple items | .list items => items.all (isTarget fuel)
    | _ => false

def isDeletable : (fuel : Nat) → Expr → Bool
  | 0, _ => false
  | fuel + 1, e => match e with
    | .name _ | .attribute .. | .item .. => true
    | .tuple items | .list items => items.all (isDeletable fuel)
    | _ => false

def Expr.isStarred : Expr → Bool
  | .starred _ => true
  | _ => false

def keywordNames (arguments : List Expr) : List String :=
  arguments.filterMap fun
    | .keyword name _ => some name
    | _ => none

/-- Whether arguments stand in an order that they may have: by position, then by keyword, and
nothing by position after an unpacked dictionary. -/
def areOrdered : (keyword unpacked : Bool) → List Expr → Bool
  | _, _, [] => true
  | _, unpacked, .keyword .. :: rest => areOrdered true unpacked rest
  | keyword, _, .unpacked _ :: rest => areOrdered keyword true rest
  | keyword, unpacked, .starred _ :: rest => !unpacked && areOrdered keyword unpacked rest
  | keyword, unpacked, _ :: rest => !keyword && !unpacked && areOrdered keyword unpacked rest

structure Parameter where
  /-- The star or stars in front, or the slash that stands alone. -/
  mark : String
  name : String
  annotation? : Option Expr
  default? : Option Expr

/-- Whether each parameter by position that follows one with a default has one, and parameters after
the marks stand in order. -/
def areParameters : (defaults starred slashed : Bool) → List Parameter → Bool
  | _, _, _, [] => true
  | defaults, starred, slashed, p :: rest =>
    if p.mark == "**" then p.default?.isNone && rest.isEmpty
    else if p.mark == "*" then
      !starred && p.default?.isNone && (p.name != "" || rest.head?.any (·.mark == "")) &&
        areParameters defaults true slashed rest
    else if p.mark == "/" then !starred && !slashed && areParameters defaults starred true rest
    else (starred || !defaults || p.default?.isSome) &&
      areParameters (defaults || p.default?.isSome) starred slashed rest

def areSound (parameters : List Parameter) : Bool :=
  areParameters false false false parameters && parameters.head?.all (·.mark != "/")

namespace Reader

/-- Fails if parameters cannot stand together. None has the name of another. -/
def checkParameters (parameters : List Parameter) : Reader Unit := do
  guard (areSound parameters)
  let names := (parameters.map (·.name)).filter (· != "")
  if names.eraseDups.length < names.length then misplace

mutual

def expression : (fuel : Nat) → Reader Expr
  | 0 => failure
  | fuel + 1 => do
    if ← word "lambda" then
      let found ← parameters fuel ":" false
      checkParameters found
      needSign ":"
      let _ ← apart (expression fuel)
      return .lambda (found.filterMap (·.default?))
    else
      let value ← disjunction fuel
      if ← word "if" then
        let condition ← disjunction fuel
        needWord "else"
        return .choice condition value (← expression fuel)
      else return value

def disjunction : (fuel : Nat) → Reader Expr
  | 0 => failure
  | fuel + 1 => do
    let left ← conjunction fuel
    if ← word "or" then return .either left (← disjunction fuel) else return left

def conjunction : (fuel : Nat) → Reader Expr
  | 0 => failure
  | fuel + 1 => do
    let left ← inversion fuel
    if ← word "and" then return .both left (← conjunction fuel) else return left

def inversion : (fuel : Nat) → Reader Expr
  | 0 => failure
  | fuel + 1 => do
    if ← word "not" then return .unary "not" (← inversion fuel)
    else
      let first ← binary fuel 0
      let rest ← comparisons fuel
      return if rest.isEmpty then first else .compare first rest

def comparisons : (fuel : Nat) → Reader (List (String × Expr))
  | 0 => failure
  | fuel + 1 => do
    match ← compareSign with
    | none => return []
    | some sign =>
      let operand ← binary fuel 0
      return (sign, operand) :: (← comparisons fuel)

def binary : (fuel level : Nat) → Reader Expr
  | 0, _ => failure
  | fuel + 1, level => do
    if 6 ≤ level then factor fuel
    else binaryRest fuel level (← binary fuel (level + 1))

def binaryRest : (fuel level : Nat) → Expr → Reader Expr
  | 0, _, _ => failure
  | fuel + 1, level, left => do
    match ← signOf (signsAt level) with
    | none => return left
    | some sign =>
      let right ← binary fuel (level + 1)
      binaryRest fuel level (.binary sign left right)

/-- An operand with signs in front, or raised to a power. -/
def factor : (fuel : Nat) → Reader Expr
  | 0 => failure
  | fuel + 1 => do
    match ← signOf ["+", "-", "~"] with
    | some sign => return .unary sign (← factor fuel)
    | none =>
      if ← word "await" then needPlace (·.inAsync)
      let base ← trailers fuel (← atom fuel)
      if ← sign "**" then return .binary "**" base (← factor fuel) else return base

/-- What follows an operand directly: attributes, calls and subscripts. -/
def trailers : (fuel : Nat) → Expr → Reader Expr
  | 0, _ => failure
  | fuel + 1, e => do
    if ← sign "." then trailers fuel (.attribute e (← identifier))
    else if ← sign "(" then trailers fuel (.call e (← arguments fuel))
    else if ← sign "[" then trailers fuel (.item e (← subscript fuel))
    else return e

def arguments : (fuel : Nat) → Reader (List Expr)
  | 0 => failure
  | fuel + 1 => do
    let found ← argumentList fuel true
    guard (areOrdered false false found)
    let names := keywordNames found
    if names.eraseDups.length < names.length then misplace
    return found

/-- Arguments up to the closing bracket. A generator without brackets of its own is the only
argument. -/
def argumentList : (fuel : Nat) → (first : Bool) → Reader (List Expr)
  | 0, _ => failure
  | fuel + 1, first => do
    if ← sign ")" then return []
    else
      let found ← argument fuel
      if ← atLoop then
        guard first
        let found ← comprehension fuel .generator found
        needSign ")"
        return [found]
      else if ← sign ")" then return [found]
      else
        needSign ","
        return found :: (← argumentList fuel false)

def argument : (fuel : Nat) → Reader Expr
  | 0 => failure
  | fuel + 1 => do
    if ← sign "*" then return .starred (← expression fuel)
    else if ← sign "**" then return .unpacked (← expression fuel)
    else if (← peekSecond) == some (.sign "=") then
      let name ← identifier
      needSign "="
      return .keyword name (← expression fuel)
    else named fuel

def subscript : (fuel : Nat) → Reader Expr
  | 0 => failure
  | fuel + 1 => do
    let first ← slice fuel
    if first.isStarred || (← isNext (.sign ",")) then
      return .tuple (first :: (← slices fuel))
    else
      needSign "]"
      return first

/-- More parts of a subscript, each after a comma, and the closing bracket. -/
def slices : (fuel : Nat) → Reader (List Expr)
  | 0 => failure
  | fuel + 1 => do
    if ← sign "]" then return []
    else
      needSign ","
      if ← sign "]" then return []
      else
        let found ← slice fuel
        return found :: (← slices fuel)

/-- A part of a subscript: an expression, or bounds with colons between them. -/
def slice : (fuel : Nat) → Reader Expr
  | 0 => failure
  | fuel + 1 => do
    if ← sign "*" then return .starred (← expression fuel)
    else
      let lower? ← bound fuel
      if ← sign ":" then
        let upper? ← bound fuel
        let step? ← if ← sign ":" then bound fuel else pure none
        return .slice [lower?, upper?, step?]
      else match lower? with
        | some e => return e
        | none => failure

def bound : (fuel : Nat) → Reader (Option Expr)
  | 0 => failure
  | fuel + 1 => do
    match ← peek with
    | some (.sign ":") | some (.sign ",") | some (.sign "]") => return none
    | _ => return some (← named fuel)

def named : (fuel : Nat) → Reader Expr
  | 0 => failure
  | fuel + 1 => do
    if (← peekSecond) == some (.sign ":=") then
      let name ← identifier
      mention name
      needSign ":="
      return .walrus name (← expression fuel)
    else expression fuel

def item : (fuel : Nat) → Reader Expr
  | 0 => failure
  | fuel + 1 => do
    if ← sign "*" then return .starred (← binary fuel 0) else named fuel

def items : (fuel : Nat) → (closing : String) → Reader (List Expr)
  | 0, _ => failure
  | fuel + 1, closing => do
    if ← sign closing then return []
    else
      needSign ","
      if ← sign closing then return []
      else
        let found ← item fuel
        return found :: (← items fuel closing)

def atom : (fuel : Nat) → Reader Expr
  | 0 => failure
  | fuel + 1 => do
    match ← peek with
    | some (.word w) =>
      if w == "None" then skip; return .constant .none
      else if w == "True" then skip; return .constant .true
      else if w == "False" then skip; return .constant .false
      else
        let name ← identifier
        mention name
        return .name name
    | some (.natural n) => skip; return .natural n
    | some (.real x) => skip; return .real x
    | some .imaginary => skip; return .imaginary
    | some (.quote _) => strings fuel (← quotes)
    | some (.sign "...") => skip; return .constant .ellipsis
    | some (.sign "(") => skip; group fuel
    | some (.sign "[") => skip; listDisplay fuel
    | some (.sign "\x7b") => skip; braces fuel
    | _ => failure

def group : (fuel : Nat) → Reader Expr
  | 0 => failure
  | fuel + 1 => do
    if ← sign ")" then return .tuple []
    else if ← isNext (.word "yield") then
      let value ← yielded fuel
      needSign ")"
      return value
    else
      let first ← item fuel
      if ← atLoop then
        let found ← comprehension fuel .generator first
        needSign ")"
        return found
      else if ← isNext (.sign ",") then return .tuple (first :: (← items fuel ")"))
      else
        needSign ")"
        guard !first.isStarred
        return first

def yielded : (fuel : Nat) → Reader Expr
  | 0 => failure
  | fuel + 1 => do
    needWord "yield"
    needPlace (·.inFunction)
    if ← word "from" then expression fuel
    else if ← atListEnd then return .constant .none
    else starExpressions fuel

def listDisplay : (fuel : Nat) → Reader Expr
  | 0 => failure
  | fuel + 1 => do
    if ← sign "]" then return .list []
    else
      let first ← item fuel
      if ← atLoop then
        let found ← comprehension fuel .list first
        needSign "]"
        return found
      else return .list (first :: (← items fuel "]"))

def braces : (fuel : Nat) → Reader Expr
  | 0 => failure
  | fuel + 1 => do
    if ← sign "\x7d" then return .dict []
    else if ← isNext (.sign "**") then return .dict (← entries fuel)
    else
      let first ← item fuel
      if ← sign ":" then
        guard !first.isStarred
        let entry := .pair first (← expression fuel)
        if ← atLoop then
          let found ← comprehension fuel .dict entry
          needSign "\x7d"
          return found
        else if ← sign "," then return .dict (entry :: (← entries fuel))
        else
          needSign "\x7d"
          return .dict [entry]
      else if ← atLoop then
        let found ← comprehension fuel .set first
        needSign "\x7d"
        return found
      else return .set (first :: (← items fuel "\x7d"))

def entries : (fuel : Nat) → Reader (List Expr)
  | 0 => failure
  | fuel + 1 => do
    if ← sign "\x7d" then return []
    else
      let found ← entry fuel
      if ← sign "\x7d" then return [found]
      else
        needSign ","
        return found :: (← entries fuel)

def entry : (fuel : Nat) → Reader Expr
  | 0 => failure
  | fuel + 1 => do
    if ← sign "**" then return .unpacked (← binary fuel 0)
    else
      let key ← expression fuel
      needSign ":"
      return .pair key (← expression fuel)

def comprehension : (fuel : Nat) → Collection → Expr → Reader Expr
  | 0, _, _ => failure
  | fuel + 1, makes, element => do
    guard !element.isStarred
    let found ← loops fuel
    guard !found.isEmpty
    return .comprehension makes element found

def loops : (fuel : Nat) → Reader (List (Expr × Expr × List Expr))
  | 0 => failure
  | fuel + 1 => do
    if ← word "async" then
      needPlace (·.inAsync)
      guard (← isNext (.word "for"))
    if ← word "for" then
      let target ← targets fuel
      needWord "in"
      let source ← disjunction fuel
      let found ← conditions fuel
      return (target, source, found) :: (← loops fuel)
    else return []

def conditions : (fuel : Nat) → Reader (List Expr)
  | 0 => failure
  | fuel + 1 => do
    if ← word "if" then
      let found ← disjunction fuel
      return found :: (← conditions fuel)
    else return []

/-- What a loop gives values to. A starred target does not stand alone. -/
def targets : (fuel : Nat) → Reader Expr
  | 0 => failure
  | fuel + 1 => do
    let first ← target fuel
    if ← isNext (.sign ",") then return .tuple (first :: (← moreTargets fuel))
    else
      if first.isStarred then misplace
      return first

def moreTargets : (fuel : Nat) → Reader (List Expr)
  | 0 => failure
  | fuel + 1 => do
    if ← sign "," then
      if ← atListEnd then return []
      else
        let found ← target fuel
        return found :: (← moreTargets fuel)
    else return []

def target : (fuel : Nat) → Reader Expr
  | 0 => failure
  | fuel + 1 => do
    let starred ← sign "*"
    let found ← binary fuel 0
    guard (isTarget fuel found)
    return if starred then .starred found else found

/-- Expressions with commas between them, which may be starred. A starred one does not stand
alone. -/
def starExpressions : (fuel : Nat) → Reader Expr
  | 0 => failure
  | fuel + 1 => do
    let first ← starExpression fuel
    if ← isNext (.sign ",") then return .tuple (first :: (← moreStarExpressions fuel))
    else
      if first.isStarred then misplace
      return first

def moreStarExpressions : (fuel : Nat) → Reader (List Expr)
  | 0 => failure
  | fuel + 1 => do
    if ← sign "," then
      if ← atListEnd then return []
      else
        let found ← starExpression fuel
        return found :: (← moreStarExpressions fuel)
    else return []

def starExpression : (fuel : Nat) → Reader Expr
  | 0 => failure
  | fuel + 1 => do
    if ← sign "*" then return .starred (← binary fuel 0) else expression fuel

/-- String literals side by side, which make one value. -/
def strings : (fuel : Nat) → List Quote → Reader Expr
  | 0, _ => failure
  | fuel + 1, found => do
    guard (found.all Quote.isBytes || !found.any Quote.isBytes)
    let parts ← literals fuel found
    return if found.any Quote.isBytes then .bytes (parts.flatMap (fun
        | .bytes data => data
        | _ => []))
      else if parts.all (fun
        | .text _ => true
        | _ => false) then .text (parts.flatMap (fun
          | .text chars => chars
          | _ => []))
      else .formatted parts

def literals : (fuel : Nat) → List Quote → Reader (List Expr)
  | 0, _ => failure
  | _ + 1, [] => return []
  | fuel + 1, q :: rest => do
    let front ← match q.written? with
      | some (.text chars) => pure [Expr.text chars]
      | some (.bytes data) => pure [Expr.bytes data]
      | some (.formatted found) => (Expr.formatted [] :: ·) <$> pieces fuel found
      | none => failure
    return front ++ (← literals fuel rest)

def pieces : (fuel : Nat) → List Piece → Reader (List Expr)
  | 0, _ => failure
  | _ + 1, [] => return []
  | fuel + 1, .text chars :: rest => return .text chars :: (← pieces fuel rest)
  | fuel + 1, .hole source converted format :: rest => do
    match readLine ('(' :: source ++ [')']) with
    | some (tokens, []) =>
      let value ← aside tokens (starExpressions fuel)
      let format ← pieces fuel format
      return .hole value converted format :: (← pieces fuel rest)
    | _ => failure

def parameters : (fuel : Nat) → (closing : String) → (annotated : Bool) → Reader (List Parameter)
  | 0, _, _ => failure
  | fuel + 1, closing, annotated => do
    if ← isNext (.sign closing) then return []
    else
      let found ← parameter fuel annotated
      if ← sign "," then return found :: (← parameters fuel closing annotated)
      else
        guard (← isNext (.sign closing))
        return [found]

def annotation : (fuel : Nat) → (mark : String) → Reader (Option Expr)
  | 0, _ => failure
  | fuel + 1, mark => do
    if ← sign ":" then
      if mark == "*" then return some (← starExpression fuel)
      else return some (← expression fuel)
    else return none

def parameter : (fuel : Nat) → (annotated : Bool) → Reader Parameter
  | 0, _ => failure
  | fuel + 1, annotated => do
    if ← sign "/" then return ⟨"/", "", none, none⟩
    else
      let mark := (← signOf ["*", "**"]).getD ""
      if mark == "*" && (← isNext (.sign ",")) then return ⟨"*", "", none, none⟩
      else
        let name ← identifier
        let annotation? ← if annotated then annotation fuel mark else pure none
        let default? ← if ← sign "=" then some <$> expression fuel else pure none
        return ⟨mark, name, annotation?, default?⟩

end

end Reader

end TextProtocol.Script
