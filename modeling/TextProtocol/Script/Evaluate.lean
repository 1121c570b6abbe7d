import TextProtocol.Script.Formatting
import TextProtocol.Script.Names
import TextProtocol.Script.Program

/-!
# Running Python modules

The exception that the statements of a module raise when it is loaded, or the names that they bind.
-/

namespace TextProtocol.Script

abbrev Scope := List (String × Object)

/-- The modules that can be loaded next to those of the standard library, each with its names; one
without them has every name. -/
abbrev Siblings := List (String × Option Scope)

/-- The names of a module, a class or a comprehension. -/
structure Frame where
  isClass : Bool
  names : Scope

/-- What stays as it is while a statement is run. -/
structure Surroundings where
  siblings : Siblings
  handled? : Option Exception

/-- What reads and binds names, from the innermost frame on, and may raise an exception. -/
abbrev Run := ReaderT Surroundings (StateT (List Frame) (Except Exception))

namespace Run

/-- The frames whose names can be read: the innermost one, and of those around it all that are no
classes. -/
def visible : List Frame → List Frame
  | [] => []
  | innermost :: rest => innermost :: rest.filter (!·.isClass)

def lookup (name : String) : Run Object := do
  match (visible (← get)).findSome? (·.names.lookup name) with
  | some e => return e
  | none => unbound name

def names : Run Scope :=
  return ((← get).head?.map (·.names)).getD []

def modifyNames (change : Scope → Scope) : Run Unit :=
  modify fun
    | [] => []
    | frame :: rest => { frame with names := change frame.names } :: rest

def bind (name : String) (e : Object) : Run Unit :=
  modifyNames ((name, e) :: ·)

def unbind (name : String) : Run Unit := do
  if ((← names).lookup name).isSome then modifyNames (·.filter (·.1 != name))
  else throw .unknownName

def inside {α : Type} (frame : Frame) (run : Run α) : Run α := do
  let frames ← get
  set (frame :: frames)
  let found ← run
  set frames
  return found

def handling {α : Type} (e : Exception) (run : Run α) : Run α :=
  withReader (fun s ↦ ⟨s.siblings, some e⟩) run

def caught (run : Run Unit) : Run (Option Exception) := do
  match (run.run (← read)).run (← get) with
  | .ok (_, frames) =>
    set frames
    return none
  | .error e => return some e

/-- Whether an object has a fixed set of attributes, none of which can be set. -/
def isRigid (e : Object) : Bool :=
  (attributesOf e).isSome

def checkAttribute (e : Object) : Except Exception Unit :=
  if isRigid e then .error .absent
  else match e with
    | .builtin name => .error (if Object.types.contains name then .mismatch else .absent)
    | .exceptionClass _ => .error .mismatch
    | _ => .ok ()

def checkPart (container index : Object) : Except Exception Unit :=
  match container with
  | .list items => do let _ ← Object.itemAt items index
  | .dict _ => if index.isHashable then .ok () else .error .mismatch
  | .other => .ok ()
  | _ => .error .mismatch

def checkDeleted (container index : Object) : Except Exception Unit :=
  match container with
  | .list _ | .dict _ => do let _ ← Object.item container index
  | .other => .ok ()
  | _ => .error .mismatch

/-- The whole number that a text stands for, with a sign, blanks and single underscores allowed. -/
def whole? (chars : List Char) : Option Int :=
  let chars := chars.dropWhile Char.isWhitespace
  let chars := (chars.reverse.dropWhile Char.isWhitespace).reverse
  let digits := match chars with
    | c :: rest => if c == '+' || c == '-' then rest else chars
    | [] => []
  if digits.head?.any Char.isDigit && digits.all (fun c ↦ c.isDigit || c == '_') &&
      isDigitRun digits then
    let n : Int := runValue 10 digits
    some (if chars.head? == some '-' then -n else n)
  else none

def collected (e : Object) (make : List Object → Object) : Except Exception Object := do
  return make ((← Object.elements e).getD [.other])

def callBuiltin (name : String) (arguments : List Object) : Except Exception Object :=
  match name, arguments with
  | "int", [.text chars] => match whole? chars with
    | some n => .ok (.int n)
    | none => .error .invalid
  | "int", [e] => match e with
    | .real _ | .bytes _ | .other => .ok .other
    | e => match e.int? with
      | some n => .ok (.int n)
      | none => .error .mismatch
  | "str", _ | "repr", _ | "ascii", _ | "hex", _ | "oct", _ | "bin", _ | "chr", _ =>
    .ok unknownText
  | "len", [.text chars] | "len", [.bytes chars] => .ok (.int chars.length)
  | "len", [.tuple items] | "len", [.list items] | "len", [.set items] => .ok (.int items.length)
  | "len", [.dict entries] => .ok (.int entries.length)
  | "len", [.other] => .ok .other
  | "len", _ => .error .mismatch
  | "ord", [.text [c]] => .ok (.int c.toNat)
  | "ord", [.text _] => .error .mismatch
  | "print", _ => .ok .none
  | "bool", [] => .ok (.bool false)
  | "bool", [e] => .ok (if e.isOther then .other else .bool e.isTrue)
  | "int", [] => .ok (.int 0)
  | "float", [] => .ok (.real (.zero false))
  | "tuple", [] => .ok (.tuple [])
  | "list", [] => .ok (.list [])
  | "set", [] => .ok (.set [])
  | "dict", _ => .ok (.dict [])
  | "tuple", [e] => collected e .tuple
  | "list", [e] => collected e .list
  | "set", [e] => do
    let found ← collected e .set
    match found with
    | .set items => if items.all Object.isHashable then .ok found else .error .mismatch
    | _ => .ok found
  | "exit", _ | "quit", _ => .error ⟨"SystemExit"⟩
  | _, _ => .ok .other

def applied (function : Object) (arguments : List Object) : Except Exception Object :=
  match function with
  | .builtin name => callBuiltin name arguments
  | .exceptionClass name => .ok (.exception ⟨name⟩)
  | .dataDecorator => .ok .dataDecorator
  | .function result => .ok result
  | .type _ | .generic | .enumBase | .enumeration _ | .other => .ok .other
  | _ => .error .mismatch

def operated (sign : String) (left right : Object) : Except Exception Object :=
  match sign, left with
  | "%", .text chars => do
    percent false chars right
    return left
  | "%", .bytes data => do
    percent true data right
    return left
  | _, _ => Object.operator sign left right

def shares (targets : List Expr) (values : List Object) : Except Exception (List Object) :=
  let front := (targets.takeWhile (!·.isStarred)).length
  if front == targets.length then
    if values.length == front then .ok values else .error .invalid
  else
    let back := targets.length - front - 1
    if values.length < front + back then .error .invalid
    else
      let middle := values.length - front - back
      .ok (values.take front ++ [.list ((values.drop front).take middle)] ++
        values.drop (front + middle))

def checkKeys (keys : List Object) : Except Exception Unit :=
  if keys.all Object.isHashable then .ok () else .error .mismatch

mutual

def eval : (fuel : Nat) → Expr → Run Object
  | 0, _ => return .other
  | fuel + 1, e => do
    match e with
    | .text chars => return .text chars
    | .bytes data => return .bytes data
    | .formatted parts => return .text (← evalParts fuel parts)
    | .hole value converted format =>
      let found ← eval fuel value
      let format ← evalParts fuel format
      checkFormat format (if converted then .text [] else found)
      return .text (shown found)
    | .natural n => return .int n
    | .real x => return .real x
    | .imaginary => return .complex
    | .constant .none => return .none
    | .constant .true => return .bool true
    | .constant .false => return .bool false
    | .constant .ellipsis => return .ellipsis
    | .name name => lookup name
    | .tuple items => return .tuple (← evalItems fuel items)
    | .list items => return .list (← evalItems fuel items)
    | .set items =>
      let found ← evalItems fuel items
      checkKeys found
      return .set found
    | .dict entries => return .dict (← evalEntries fuel entries)
    | .pair key value =>
      let key ← eval fuel key
      return .tuple [key, ← eval fuel value]
    | .keyword _ value | .starred value | .unpacked value => eval fuel value
    | .unary sign operand => Object.unary sign (← eval fuel operand)
    | .binary sign left right =>
      let left ← eval fuel left
      operated sign left (← eval fuel right)
    | .compare first rest => evalCompare fuel (← eval fuel first) rest
    | .both left right =>
      let found ← eval fuel left
      if found.isTrue then eval fuel right else return found
    | .either left right =>
      let found ← eval fuel left
      if found.isTrue then return found else eval fuel right
    | .choice condition yes no =>
      if (← eval fuel condition).isTrue then eval fuel yes else eval fuel no
    | .attribute value name => attributeOf (← eval fuel value) name
    | .call function arguments =>
      let function ← eval fuel function
      applied function (← evalArguments fuel arguments)
    | .item value (.slice bounds) =>
      let value ← eval fuel value
      match ← evalBounds fuel bounds with
      | [lower, upper, step] => Object.slice value lower upper step
      | _ => return .other
    | .item value index =>
      let value ← eval fuel value
      Object.item value (← eval fuel index)
    | .slice bounds =>
      let _ ← evalBounds fuel bounds
      return .other
    | .walrus name value =>
      let found ← eval fuel value
      bind name found
      return found
    | .lambda defaults =>
      let _ ← evalItems fuel defaults
      return .function .other
    | .comprehension makes element loops => evalComprehension fuel makes element loops

def evalParts : (fuel : Nat) → List Expr → Run (List Char)
  | 0, _ => return []
  | _ + 1, [] => return []
  | fuel + 1, e :: rest => do
    let front := shown (← eval fuel e)
    return front ++ (← evalParts fuel rest)

def evalItems : (fuel : Nat) → List Expr → Run (List Object)
  | 0, _ => return []
  | _ + 1, [] => return []
  | fuel + 1, e :: rest => do
    let found ← eval fuel e
    let front ← if e.isStarred then pure ((← Object.elements found).getD [.other])
      else pure [found]
    return front ++ (← evalItems fuel rest)

def evalArguments : (fuel : Nat) → List Expr → Run (List Object)
  | 0, _ => return []
  | _ + 1, [] => return []
  | fuel + 1, .unpacked e :: rest => do
    match ← eval fuel e with
    | .dict _ | .other => evalArguments fuel rest
    | _ => throw .mismatch
  | fuel + 1, e :: rest => do
    let front ← evalItems fuel [e]
    return front ++ (← evalArguments fuel rest)

def evalEntries : (fuel : Nat) → List Expr → Run (List (Object × Object))
  | 0, _ => return []
  | _ + 1, [] => return []
  | fuel + 1, .pair key value :: rest => do
    let key ← eval fuel key
    let value ← eval fuel value
    checkKeys [key]
    return (key, value) :: (← evalEntries fuel rest)
  | fuel + 1, e :: rest => do
    match ← eval fuel e with
    | .dict entries => return entries ++ (← evalEntries fuel rest)
    | .other => return (.other, .other) :: (← evalEntries fuel rest)
    | _ => throw .mismatch

def evalBounds : (fuel : Nat) → List (Option Expr) → Run (List Object)
  | 0, _ => return []
  | _ + 1, [] => return []
  | fuel + 1, bound? :: rest => do
    let found ← match bound? with
      | some e => eval fuel e
      | none => pure .none
    return found :: (← evalBounds fuel rest)

/-- Comparisons in a row, up to the first that does not hold. -/
def evalCompare : (fuel : Nat) → Object → List (String × Expr) → Run Object
  | 0, _, _ => return .other
  | _ + 1, left, [] => return left
  | fuel + 1, left, (sign, e) :: rest => do
    let right ← eval fuel e
    let found ← Object.compare sign left right
    if rest.isEmpty || !found.isTrue then return found else evalCompare fuel right rest

def evalComprehension : (fuel : Nat) → Collection → Expr → List (Expr × Expr × List Expr) →
    Run Object
  | 0, _, _, _ => return .other
  | fuel + 1, makes, element, loops => do
    match makes, loops with
    | _, [] => return .other
    | .generator, (_, source, _) :: _ =>
      let _ ← Object.elements (← eval fuel source)
      return .other
    | _, (target, source, conditions) :: rest =>
      let values := (← Object.elements (← eval fuel source)).getD [.other]
      let found ← inside ⟨false, []⟩ (evalLoop fuel element target conditions rest values)
      match makes with
      | .list => return .list found
      | .set =>
        checkKeys found
        return .set found
      | _ =>
        let entries := found.filterMap fun
          | .tuple [key, value] => some (key, value)
          | _ => none
        checkKeys (entries.map (·.1))
        return .dict entries

def evalLoops : (fuel : Nat) → Expr → List (Expr × Expr × List Expr) → Run (List Object)
  | 0, _, _ => return []
  | fuel + 1, element, [] => return [← eval fuel element]
  | fuel + 1, element, (target, source, conditions) :: rest => do
    let values := (← Object.elements (← eval fuel source)).getD [.other]
    evalLoop fuel element target conditions rest values

def evalLoop : (fuel : Nat) → (element target : Expr) → (conditions : List Expr) →
    List (Expr × Expr × List Expr) → List Object → Run (List Object)
  | 0, _, _, _, _, _ => return []
  | _ + 1, _, _, _, _, [] => return []
  | fuel + 1, element, target, conditions, rest, value :: more => do
    give fuel target value
    let front ← if ← holds fuel conditions then evalLoops fuel element rest else pure []
    return front ++ (← evalLoop fuel element target conditions rest more)

def holds : (fuel : Nat) → List Expr → Run Bool
  | 0, _ => return true
  | _ + 1, [] => return true
  | fuel + 1, e :: rest => do
    if (← eval fuel e).isTrue then holds fuel rest else return false

def give : (fuel : Nat) → Expr → Object → Run Unit
  | 0, _, _ => return ()
  | fuel + 1, target, value => do
    match target with
    | .name name => bind name value
    | .attribute e _ => checkAttribute (← eval fuel e)
    | .item e index =>
      let container ← eval fuel e
      checkPart container (← eval fuel index)
    | .starred e => give fuel e value
    | .tuple targets | .list targets =>
      match ← Object.elements value with
      | some values => giveAll fuel targets (← shares targets values)
      | none => giveAll fuel targets (targets.map fun _ ↦ .other)
    | _ => return ()

def giveAll : (fuel : Nat) → List Expr → List Object → Run Unit
  | fuel + 1, target :: targets, value :: values => do
    give fuel target value
    giveAll fuel targets values
  | _, _, _ => return ()

end

def delete : (fuel : Nat) → List Expr → Run Unit
  | 0, _ => return ()
  | _ + 1, [] => return ()
  | fuel + 1, target :: rest => do
    match target with
    | .name name => unbind name
    | .attribute e _ => checkAttribute (← eval fuel e)
    | .item e index =>
      let container ← eval fuel e
      checkDeleted container (← eval fuel index)
    | .tuple items | .list items => delete fuel items
    | _ => return ()
    delete fuel rest

def raisable : Object → Exception
  | .exceptionClass name => ⟨name⟩
  | .exception e => e
  | _ => .mismatch

/-- The exception that is raised after another one, unless it cannot be its cause. -/
def caused (e : Exception) : Object → Exception
  | .exceptionClass _ | .exception _ | .none | .other => e
  | _ => .mismatch

def handles (e : Exception) : Object → Bool
  | .exceptionClass name => e.isA name
  | .tuple items => items.any fun
    | .exceptionClass name => e.isA name
    | _ => false
  | _ => false

def isBase : Object → Bool
  | .builtin _ | .exceptionClass _ | .type _ | .generic | .enumBase | .enumeration _ | .other =>
    true
  | _ => false

/-- Whether an object is an enumeration that has values, from which none is derived. -/
def isComplete : Object → Bool
  | .enumeration hasValues => hasValues
  | _ => false

def isEnum : Object → Bool
  | .enumBase | .enumeration _ => true
  | _ => false

def hasRepeats (names : List String) : Bool :=
  names.eraseDups.length < names.length

/-- The names of the classes that a class is derived from, as far as they are written as names. -/
def baseNames (arguments : List Expr) : List String :=
  arguments.filterMap fun
    | .name name => some name
    | _ => none

def annotated (body : List Statement) : List String :=
  (body.filterMap fun
    | .annotate (.name name) _ _ => some name
    | _ => none).eraseDups

/-- The class that is made from its bases and what its body binds. Two values of an enumeration do
not share a name, and members that are kept together have no default that can change. -/
def madeType (bases decorators : List Object) (body : List Statement) (bound : Scope) :
    Except Exception Object :=
  if bases.any isEnum then
    if hasRepeats (bound.map (·.1)) then .error .mismatch else .ok (.enumeration !bound.isEmpty)
  else if decorators.any (· matches .dataDecorator) then
    let members := (annotated body).map fun name ↦ (name, bound.lookup name)
    if members.any fun e ↦ e.2.any (!·.isHashable) then .error .invalid else .ok (.type members)
  else .ok (.type [])

def loadAll : List (String × String) → Run Unit
  | [] => return ()
  | (name, bound) :: rest => do
    if !isLibrary name && ((← read).siblings.lookup name).isNone then
      throw ⟨"ModuleNotFoundError"⟩
    bind bound .other
    loadAll rest

def loadNames (source : String) : List (String × String) → Run Unit
  | [] => return ()
  | (name, bound) :: rest => do
    match (← read).siblings.lookup source with
    | some (some scope) => match scope.lookup name with
      | some e => bind bound e
      | none => throw ⟨"ImportError"⟩
    | some none => bind bound .other
    | none =>
      if isLibrary source then bind bound (libraryMember source name)
      else if source.toList.all (· == '.') then throw ⟨"ImportError"⟩
      else throw ⟨"ModuleNotFoundError"⟩
    loadNames source rest

mutual

def execAll : (fuel : Nat) → List Statement → Run Unit
  | 0, _ => return ()
  | _ + 1, [] => return ()
  | fuel + 1, s :: rest => do
    exec fuel s
    execAll fuel rest

def exec : (fuel : Nat) → Statement → Run Unit
  | 0, _ => return ()
  | fuel + 1, s => do
    match s with
    | .pass => return ()
    | .expr e => let _ ← eval fuel e
    | .assign targets value =>
      let found ← eval fuel value
      giveAll fuel targets (targets.map fun _ ↦ found)
    | .augment target sign value =>
      let left ← eval fuel target
      let right ← eval fuel value
      give fuel target (← operated sign left right)
    | .annotate target annotation value? =>
      match value?, target with
      | some value, _ => give fuel target (← eval fuel value)
      | none, .attribute e _ => let _ ← eval fuel e
      | none, .item e index => let _ ← evalItems fuel [e, index]
      | none, _ => pure ()
      let _ ← eval fuel annotation
    | .throw none _ => throw ((← read).handled?.getD ⟨"RuntimeError"⟩)
    | .throw (some value) cause? =>
      let e := raisable (← eval fuel value)
      match cause? with
      | some cause => throw (caused e (← eval fuel cause))
      | none => throw e
    | .assert condition message? =>
      if !(← eval fuel condition).isTrue then
        if let some message := message? then let _ ← eval fuel message
        throw ⟨"AssertionError"⟩
    | .delete targets => delete fuel targets
    | .load names => loadAll names
    | .loadFrom source names => loadNames source names
    | .branch condition yes no =>
      if (← eval fuel condition).isTrue then execAll fuel yes else execAll fuel no
    | .loop condition body otherwise =>
      if (← eval fuel condition).isTrue then
        execAll fuel body
        exec fuel (.loop condition body otherwise)
      else execAll fuel otherwise
    | .each target source body otherwise =>
      execEach fuel target body ((← Object.elements (← eval fuel source)).getD [.other])
      execAll fuel otherwise
    | .within items body => execWithin fuel items body
    | .attempt body handlers otherwise last =>
      let raised? ← caught do
        match ← caught (execAll fuel body) with
        | none => execAll fuel otherwise
        | some e => execHandlers fuel e handlers
      match raised? with
      | some e =>
        handling e (execAll fuel last)
        throw e
      | none => execAll fuel last
    | .function name evaluated =>
      let _ ← evalItems fuel evaluated
      bind name .other
    | .type name decorators arguments body =>
      let decorators ← evalItems fuel decorators
      let bases ← evalArguments fuel arguments
      if bases.any isComplete then throw .mismatch
      let bound ← inside ⟨true, [("__module__", unknownText), ("__qualname__", unknownText)]⟩ do
        execAll fuel body
        return (← names).dropLast.dropLast
      if !bases.all isBase || hasRepeats (baseNames arguments) then throw .mismatch
      let made ← madeType bases decorators body bound
      let _ ← decorators.mapM fun e ↦ applied e [made]
      bind name made

def execEach : (fuel : Nat) → Expr → List Statement → List Object → Run Unit
  | 0, _, _, _ => return ()
  | _ + 1, _, _, [] => return ()
  | fuel + 1, target, body, value :: rest => do
    give fuel target value
    execAll fuel body
    execEach fuel target body rest

def execWithin : (fuel : Nat) → List (Expr × Option Expr) → List Statement → Run Unit
  | 0, _, _ => return ()
  | fuel + 1, [], body => execAll fuel body
  | fuel + 1, (e, target?) :: rest, body => do
    match ← eval fuel e with
    | .other => if let some target := target? then give fuel target .other
    | _ => throw .mismatch
    execWithin fuel rest body

/-- Runs the first handler that an exception belongs to; if there is none, the exception is raised
again. -/
def execHandlers : (fuel : Nat) → Exception →
    List (Option Expr × Option String × List Statement) → Run Unit
  | 0, e, _ => throw e
  | _ + 1, e, [] => throw e
  | fuel + 1, e, (type?, name?, body) :: rest => do
    let found ← match type? with
      | some type => pure (handles e (← eval fuel type))
      | none => pure true
    if found then
      if let some name := name? then bind name (.exception e)
      handling e (execAll fuel body)
    else execHandlers fuel e rest

end

end Run

/-- The names that a module binds when it is loaded, or the exception that it raises. -/
def runModule (siblings : Siblings) (fuel : Nat) (statements : List Statement) :
    Except Exception Scope := do
  let (names, _) ← ((do Run.execAll fuel statements; Run.names).run ⟨siblings, none⟩).run
    [⟨false, []⟩]
  return names

end TextProtocol.Script
