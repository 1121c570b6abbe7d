import TextProtocol.Target.Literal.Rust
import TextProtocol.Target.Names

/-!
# Rust calls

The calls in generated Rust that read, check, write and draw the values of a field.
-/

namespace TextProtocol.Target.Rust

abbrev profile : Naming.Profile := Naming.Profile.rust

def modules (p : Package) : Modules :=
  .ofPackage profile p (profile.fileStem [p.name, "tests"])

def packageNames (p : Package) : Holes :=
  p.names profile (modules p)

def typeOf (f : Field) : String :=
  let base := match f.info.kind with
    | "number" => "i64"
    | "boolean" => "bool"
    | "bytes" => "Vec<u8>"
    | _ => "String"
  if f.info.nullable then s!"Option<{base}>" else base

def literal (f : Field) (v : Value) : String :=
  match f.info.kind with
  | "number" => v.plain
  | "boolean" => if v.truthy then "true" else "false"
  | "bytes" => match v with
    | .bytes data => bytesOf data ++ ".to_vec()"
    | _ => bytesOf [] ++ ".to_vec()"
  | _ => stringLiteral v.plain ++ ".to_string()"

def patternFunction (m : Message) (f : Field) : String :=
  profile.functionName [m.name, f.name, "pattern"]

def bounds (m : Message) (f : Field) : String :=
  let c := f.info.constraints
  let pattern := if f.hasPattern then s!"Some({patternFunction m f}())" else "None"
  match f.info.kind with
  | "number" => s!", {optional c.minimum}, {optional c.maximum}"
  | "boolean" => ""
  | "enum" => ", " ++ stringsLiteral c.values
  | "bytes" => ", " ++ optional c.length
  | _ => s!", {optional c.minLength}, {optional c.maxLength}, {pattern}"

def coerceCall (m : Message) (f : Field) (raw : String) : String :=
  s!"coerce_{f.info.kind}({raw}{bounds m f})"

def checkCall (m : Message) (f : Field) (value : String) : String :=
  s!"check_{f.info.kind}(&mut errors, {stringLiteral f.name}, &{value}{bounds m f}, " ++
    s!"{stopsLiteral f.info.stops})"

/-- The call that refuses an optional value that would be written as nothing. -/
def emptyCheck? (f : Field) (value : String) : Option String :=
  if f.required || !(["string", "enum", "bytes"].contains f.info.kind) ||
      !f.info.constraints.length.isNull then none
  else some s!"check_empty(&mut errors, {stringLiteral f.name}, {value}.len())"

def writeCall (f : Field) (value : String) : String :=
  match f.info.kind with
  | "number" | "boolean" => s!"out.extend_from_slice({value}.to_string().as_bytes());"
  | "bytes" => s!"out.extend_from_slice(&{value});"
  | _ => s!"out.extend_from_slice({value}.as_bytes());"

def drawn (f : Field) : String :=
  let d := f.info.domain
  let sizes := "\x7b" ++ d.minSize.plain ++ "," ++ d.maxSize.plain ++ "\x7d"
  let text := stringLiteral (charClass d.alphabet ++ sizes)
  match f.info.definition.type with
  | some (.number ..) => s!"{d.minimum.plain}i64..={d.maximum.plain}i64"
  | some .boolean => "any::<bool>()"
  | some (.enum _) =>
    "prop::sample::select(vec![" ++ ", ".intercalate (d.values.map stringLiteral) ++
      "]).prop_map(String::from)"
  | some (.bytes length) =>
    if length.isNull then text ++ ".prop_map(String::into_bytes)"
    else s!"prop::collection::vec(any::<u8>(), {length.plain}..={length.plain})"
  | _ => text

def strategy (f : Field) : String :=
  let base := if f.isPinned then s!"Just({literal f f.pinned})" else drawn f
  if f.info.generatesAbsent then s!"prop::option::of({base})"
  else if f.info.nullable then base ++ ".prop_map(Some)"
  else base

def tuple : List String → String
  | [item] => "(" ++ item ++ ",)"
  | items => "(" ++ ", ".intercalate items ++ ")"

def tupleLimit : Nat := 10

def groups {α : Type} (items : List α) : List (List α) :=
  match items with
  | [] => []
  | item :: rest =>
    (item :: rest).take tupleLimit :: groups (rest.drop (tupleLimit - 1))
termination_by items.length
decreasing_by simp only [List.length_drop, List.length_cons]; omega

def nestedTuple (items : List String) : String :=
  match (groups items).map tuple with
  | [group] => group
  | several => tuple several

def strategyTuple (m : Message) : String :=
  nestedTuple (m.fields.map strategy)

/-- The members of all fields, as a pattern for what the strategies draw. -/
def bindingTuple (m : Message) : String :=
  nestedTuple (m.fields.map (·.member profile))

def exampleStruct (m : Message) (sample : List (Field × Value)) : String :=
  let value (e : Field × Value) : String :=
    let text := literal e.1 e.2
    let owned := if e.1.info.nullable then s!"Some({text})" else text
    s!"{e.1.member profile}: {owned}"
  profile.typeName [m.name] ++ " \x7b " ++ ", ".intercalate (sample.map value) ++ " \x7d"

end TextProtocol.Target.Rust
