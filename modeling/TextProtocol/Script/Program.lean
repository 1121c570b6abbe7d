import TextProtocol.Script.Reader
import TextProtocol.Script.Row

/-!
# Reading statements in Python modules

Statements are read row by row. A statement with a body is followed by a row in a deeper block, or
has its body on its own row.
-/

namespace TextProtocol.Script

namespace Reader

/-- What an assignment may give: an expression, or what comes back to a generator. -/
def assigned (fuel : Nat) : Reader Expr := do
  if ← isNext (.word "yield") then yielded fuel else starExpressions fuel

def assignment : (fuel : Nat) → (before : List Expr) → Reader Statement
  | 0, _ => failure
  | fuel + 1, before => do
    guard (before.all (isTarget fuel))
    let value ← assigned fuel
    if ← sign "=" then assignment fuel (before ++ [value]) else return .assign before value

/-- Whether a value can be given to an expression that is changed or annotated. -/
def isSingle : Expr → Bool
  | .name _ | .attribute .. | .item .. => true
  | _ => false

def expressionStatement (fuel : Nat) : Reader Statement := do
  let first ← assigned fuel
  if ← sign "=" then assignment fuel [first]
  else if ← sign ":" then
    guard (isSingle first)
    if let .name name := first then annotate name
    let annotation ← expression fuel
    let value? ← if ← sign "=" then some <$> assigned fuel else pure none
    return .annotate first annotation value?
  else match ← signOf augmentSigns with
    | some sign =>
      guard (isSingle first)
      return .augment first ((sign.dropEnd 1).toString) (← assigned fuel)
    | none => return .expr first

def dotted : (fuel : Nat) → Reader String
  | 0 => failure
  | fuel + 1 => do
    let first ← identifier
    if ← sign "." then return first ++ "." ++ (← dotted fuel) else return first

def separated {α : Type} (reader : Reader α) : (fuel : Nat) → Reader (List α)
  | 0 => failure
  | fuel + 1 => do
    let found ← reader
    if ← sign "," then return found :: (← separated reader fuel) else return [found]

def alias? : Reader (Option String) := do
  if ← word "as" then some <$> identifier else return none

def moduleName (fuel : Nat) : Reader (String × String) := do
  let name ← dotted fuel
  let bound := (← alias?).getD (String.ofList (name.toList.takeWhile (· != '.')))
  mention bound
  return (name, bound)

/-- A name that is taken from a module, and the name that it is bound to. -/
def member : Reader (String × String) := do
  let name ← identifier
  let bound := (← alias?).getD name
  mention bound
  return (name, bound)

/-- The names that are taken from a module; only a module may take all. -/
def members (fuel : Nat) : Reader (List (String × String)) := do
  if ← sign "*" then
    needPlace (·.inModule)
    return []
  else if ← sign "(" then
    let found ← memberList fuel
    guard !found.isEmpty
    return found
  else separated member fuel
where
  /-- Names up to a closing bracket. -/
  memberList : Nat → Reader (List (String × String))
    | 0 => failure
    | fuel + 1 => do
      if ← sign ")" then return []
      else
        let found ← member
        if ← sign ")" then return [found]
        else
          needSign ","
          return found :: (← memberList fuel)

def dots : (fuel : Nat) → Reader Nat
  | 0 => failure
  | fuel + 1 => do
    if ← sign "." then return (← dots fuel) + 1
    else if ← sign "..." then return (← dots fuel) + 3
    else return 0

def loadFrom (fuel : Nat) : Reader Statement := do
  let level ← dots fuel
  let source ← if 0 < level && (← isNext (.word "import")) then pure "" else dotted fuel
  needWord "import"
  if level == 0 && source == "__future__" then needPlace (·.inModule)
  return .loadFrom (String.ofList (List.replicate level '.') ++ source) (← members fuel)

def throwing (fuel : Nat) : Reader Statement := do
  if (← peek).all (· == .sign ";") then return .throw none none
  else
    let value ← expression fuel
    let cause? ← if ← word "from" then some <$> expression fuel else pure none
    return .throw (some value) cause?

def deleting (fuel : Nat) : Reader Statement := do
  let found ← starExpressions fuel
  guard (isDeletable fuel found)
  return .delete [found]

def asserting (fuel : Nat) : Reader Statement := do
  let condition ← expression fuel
  let message? ← if ← sign "," then some <$> expression fuel else pure none
  return .assert condition message?

def returning (fuel : Nat) : Reader Statement := do
  needPlace (·.inFunction)
  if ← atListEnd then return .pass else return .expr (← starExpressions fuel)

def simple (fuel : Nat) : Reader Statement := do
  if ← word "pass" then return .pass
  else if ← word "break" then
    needPlace (·.inLoop)
    return .pass
  else if ← word "continue" then
    needPlace (·.inLoop)
    return .pass
  else if ← word "return" then returning fuel
  else if ← word "raise" then throwing fuel
  else if ← word "global" then
    declareGlobals (← separated identifier fuel)
    return .pass
  else if ← word "nonlocal" then
    let _ ← separated identifier fuel
    misplace
    return .pass
  else if ← word "del" then deleting fuel
  else if ← word "assert" then asserting fuel
  else if ← word "import" then return .load (← separated (moduleName fuel) fuel)
  else if ← word "from" then loadFrom fuel
  else expressionStatement fuel

/-- Statements without a body on one row, up to its end. -/
def simples : (fuel : Nat) → Reader (List Statement)
  | 0 => failure
  | fuel + 1 => do
    let found ← simple fuel
    if (← peek).isNone then return [found]
    else
      needSign ";"
      if (← peek).isNone then return [found]
      else return found :: (← simples fuel)

end Reader

structure Progress where
  rows : List Row
  names : Names
  misplaced : Bool

abbrev RowReader := StateT Progress (Except SourceFault)

namespace RowReader

def fuelFor (tokens : List Token) : Nat :=
  let written := tokens.map fun
    | .quote q => q.body.length + 1
    | _ => 1
  64 * (written.foldl (· + ·) 1)

def onTokens {α : Type} (place : Place) (tokens : List Token)
    (reader : (fuel : Nat) → Reader α) : RowReader (α × List Token) := do
  match (reader (fuelFor tokens)).run ⟨place, tokens, (← get).names, false⟩ with
  | some (found, position) =>
    modify fun s ↦ ⟨s.rows, position.names, s.misplaced || position.misplaced⟩
    return (found, position.tokens)
  | none => throw .syntaxError

def onRow {α : Type} (place : Place) (tokens : List Token) (reader : (fuel : Nat) → Reader α) :
    RowReader α := do
  let (found, rest) ← onTokens place tokens reader
  if rest.isEmpty then return found else throw .syntaxError

/-- The tokens of the next row if it stands in the same block and begins with one of some words. -/
def rowWith (place : Place) (words : List String) : RowReader (Option (String × List Token)) := do
  match (← get).rows with
  | .line d (some (.word w :: tokens)) :: rest =>
    if d == place.depth && words.contains w then
      modify fun s ↦ { s with rows := rest }
      return some (w, tokens)
    else return none
  | .fault cause :: _ => throw cause
  | _ => return none

/-- Reads the body of a function or a class, where some names are bound already. -/
def inScope {α : Type} (bound : List String) (reader : RowReader α) : RowReader α := do
  let names := (← get).names
  modify fun s ↦ { s with names := ⟨bound, []⟩ }
  let found ← reader
  modify fun s ↦ { s with names }
  return found

def heldItem (fuel : Nat) : Reader (Expr × Option Expr) := do
  let value ← Reader.expression fuel
  if ← Reader.word "as" then return (value, some (← Reader.target fuel)) else return (value, none)

/-- Items of a statement that holds on to something, up to a closing bracket. -/
def bracketedItems : (fuel : Nat) → Reader (List (Expr × Option Expr))
  | 0 => failure
  | fuel + 1 => do
    let found ← heldItem fuel
    if ← Reader.sign ")" then return [found]
    else
      Reader.needSign ","
      if ← Reader.sign ")" then return [found]
      else return found :: (← bracketedItems fuel)

/-- The items of a statement that holds on to something, in brackets or not, and a colon. -/
def heldItems (fuel : Nat) : Reader (List (Expr × Option Expr)) :=
  (do
    Reader.needSign "("
    let found ← bracketedItems fuel
    Reader.needSign ":"
    return found) <|>
  (do
    let found ← Reader.separated (heldItem fuel) fuel
    Reader.needSign ":"
    return found)

def handlerHead (fuel : Nat) : Reader (Bool × Option Expr × Option String) := do
  let starred ← Reader.sign "*"
  if ← Reader.sign ":" then
    guard !starred
    return (false, none, none)
  else
    let found ← Reader.expression fuel
    let name? ← Reader.alias?
    name?.forM Reader.mention
    Reader.needSign ":"
    return (starred, some found, name?)

def functionHead (fuel : Nat) : Reader (String × List String × List Expr) := do
  let name ← Reader.identifier
  Reader.mention name
  Reader.needSign "("
  let found ← Reader.parameters fuel ")" true
  Reader.checkParameters found
  Reader.needSign ")"
  let result? ← if ← Reader.sign "->" then some <$> Reader.expression fuel else pure none
  Reader.needSign ":"
  return (name, found.map (·.name),
    found.filterMap (·.default?) ++ found.filterMap (·.annotation?) ++ result?.toList)

def typeHead (fuel : Nat) : Reader (String × List Expr) := do
  let name ← Reader.identifier
  Reader.mention name
  let found ← if ← Reader.sign "(" then Reader.arguments fuel else pure []
  Reader.needSign ":"
  return (name, found)

def headed {α : Type} (reader : Reader α) : Reader α := do
  let found ← reader
  Reader.needSign ":"
  return found

def afterColon (place : Place) (tokens : List Token) : RowReader (List Token) :=
  return (← onTokens place tokens fun _ ↦ Reader.needSign ":").2

mutual

def block (place : Place) : (fuel : Nat) → RowReader (List Statement)
  | 0 => throw .syntaxError
  | fuel + 1 => do
    match (← get).rows with
    | [] => return []
    | .fault cause :: _ => throw cause
    | .line d tokens? :: rest =>
      if d < place.depth then return []
      else if place.depth < d then throw .misindented
      else match tokens? with
        | none => throw .syntaxError
        | some tokens =>
          modify fun s ↦ { s with rows := rest }
          let found ← statements place fuel [] tokens
          return found ++ (← block place fuel)

def body (place : Place) : (fuel : Nat) → List Token → RowReader (List Statement)
  | 0, _ => throw .syntaxError
  | fuel + 1, tokens => do
    if !tokens.isEmpty then onRow place tokens Reader.simples
    else match (← get).rows with
      | .fault cause :: _ => throw cause
      | .line d _ :: _ =>
        if d == place.depth + 1 then block place.deeper fuel else throw .misindented
      | [] => throw .misindented

def statements (place : Place) : (fuel : Nat) → (decorators : List Expr) →
    List Token → RowReader (List Statement)
  | 0, _, _ => throw .syntaxError
  | fuel + 1, decorators, tokens => do
    match tokens with
    | .word "def" :: rest => return [← function place false fuel decorators rest]
    | .word "async" :: .word "def" :: rest =>
      return [← function place true fuel decorators rest]
    | .word "class" :: rest =>
      let ((name, bases), rest) ← onTokens place rest typeHead
      let found ← inScope [] (body place.type fuel rest)
      return [.type name decorators bases found]
    | .sign "@" :: rest =>
      let found ← onRow place rest Reader.named
      match (← get).rows with
      | .fault cause :: _ => throw cause
      | .line d tokens? :: more =>
        if place.depth < d then throw .misindented
        else match tokens? with
          | some tokens =>
            modify fun s ↦ { s with rows := more }
            if d == place.depth then statements place fuel (decorators ++ [found]) tokens
            else throw .syntaxError
          | none => throw .syntaxError
      | [] => throw .syntaxError
    | _ => if decorators.isEmpty then undecorated place fuel tokens else throw .syntaxError

def function (place : Place) (isAsync : Bool) : (fuel : Nat) →
    (decorators : List Expr) → List Token → RowReader Statement
  | 0, _, _ => throw .syntaxError
  | fuel + 1, decorators, tokens => do
    let ((name, bound, evaluated), rest) ← onTokens place tokens functionHead
    let _ ← inScope bound (body (place.function isAsync) fuel rest)
    return .function name (decorators ++ evaluated)

/-- The statements that begin on a row, of which none can be decorated. -/
def undecorated (place : Place) : (fuel : Nat) → List Token →
    RowReader (List Statement)
  | 0, _ => throw .syntaxError
  | fuel + 1, tokens => do
    match tokens with
    | .word "if" :: rest => return [← branch place fuel rest]
    | .word "while" :: rest =>
      let (condition, rest) ← onTokens place rest fun fuel ↦ headed (Reader.named fuel)
      let found ← body place.loop fuel rest
      return [.loop condition found (← otherwise place fuel)]
    | .word "for" :: rest =>
      let (target, rest) ← onTokens place rest Reader.targets
      let (_, rest) ← onTokens place rest fun _ ↦ Reader.needWord "in"
      let (source, rest) ← onTokens place rest fun fuel ↦ headed (Reader.starExpressions fuel)
      let found ← body place.loop fuel rest
      return [.each target source found (← otherwise place fuel)]
    | .word "with" :: rest =>
      let (found, rest) ← onTokens place rest heldItems
      return [.within found (← body place fuel rest)]
    | .word "async" :: rest =>
      let (_, _) ← onTokens place rest fun _ ↦ Reader.needPlace (·.inAsync)
      match rest with
      | .word "for" :: _ | .word "with" :: _ => undecorated place fuel rest
      | _ => throw .syntaxError
    | .word "try" :: rest =>
      let found ← body place fuel (← afterColon place rest)
      let caught ← handlers place fuel none
      let unharmed ← if caught.isEmpty then pure [] else otherwise place fuel
      match ← rowWith place ["finally"] with
      | some (_, rest) =>
        let last ← body place fuel (← afterColon place rest)
        return [.attempt found caught unharmed last]
      | none =>
        if caught.isEmpty then throw .syntaxError
        else return [.attempt found caught unharmed []]
    | _ => onRow place tokens Reader.simples

def branch (place : Place) : (fuel : Nat) → List Token → RowReader Statement
  | 0, _ => throw .syntaxError
  | fuel + 1, tokens => do
    let (condition, rest) ← onTokens place tokens fun fuel ↦ headed (Reader.named fuel)
    let yes ← body place fuel rest
    match ← rowWith place ["elif"] with
    | some (_, rest) => return .branch condition yes [← branch place fuel rest]
    | none => return .branch condition yes (← otherwise place fuel)

def otherwise (place : Place) : (fuel : Nat) → RowReader (List Statement)
  | 0 => throw .syntaxError
  | fuel + 1 => do
    match ← rowWith place ["else"] with
    | some (_, rest) => body place fuel (← afterColon place rest)
    | none => return []

/-- The handlers of exceptions. All or none are starred, as those before them are, and one without a
class is the last. -/
def handlers (place : Place) : (fuel : Nat) → (starred? : Option Bool) →
    RowReader (List (Option Expr × Option String × List Statement))
  | 0, _ => throw .syntaxError
  | fuel + 1, starred? => do
    match ← rowWith place ["except"] with
    | some (_, rest) =>
      let ((starred, type?, name?), rest) ← onTokens place rest handlerHead
      if starred?.any (· != starred) then throw .syntaxError
      let found ← body place fuel rest
      let more ← handlers place fuel (some starred)
      if type?.isNone && !more.isEmpty then modify fun s ↦ { s with misplaced := true }
      return (type?, name?, found) :: more
    | none => return []

end

end RowReader

/-- The statements of a module. What stands where it may not stand is a fault only if everything can
be read. -/
def readModule (source : String) : Except SourceFault (List Statement) := do
  let rows := rows source
  let fuel := 4 * rows.length + 8
  let (found, progress) ← (RowReader.block .module fuel).run ⟨rows, ⟨[], []⟩, false⟩
  if progress.misplaced then throw .syntaxError else return found

end TextProtocol.Script
