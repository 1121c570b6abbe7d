import TextProtocol.Target.Literal.Go
import TextProtocol.Target.Names

/-!
# Go calls

The calls in generated Go that read, check, write and draw the values of a field.
-/

namespace TextProtocol.Target.Go

abbrev profile : Naming.Profile := Naming.Profile.go

def modules (p : Package) : Modules :=
  .ofPackage profile p (profile.fileStem [p.name] ++ "_test")

def packageName (name : String) : String :=
  let flat := Naming.Casing.flat.apply name
  profile.escape (if flat.toList.head?.any Char.isAlpha then flat else "proto" ++ flat)

def packageNames (p : Package) : Holes :=
  ("package", packageName p.name) :: p.names profile (modules p)

def indented (holes : Holes) (text : String) : List String :=
  (block text).map fun line ↦ fill holes (tabbed line)

def typeOf (f : Field) : String :=
  match f.info.kind with
  | "number" => "int64"
  | "boolean" => "bool"
  | "bytes" => "[]byte"
  | _ => "string"

def patternVariable (m : Message) (f : Field) : String :=
  profile.variableName [m.name, f.name, "pattern"]

def patternArgument (m : Message) (f : Field) : String :=
  if f.hasPattern then patternVariable m f else "nil"

def numberRange (f : Field) : String :=
  let c := f.info.constraints
  let bound (name mark : String) (v : Value) : List String :=
    if v.isNull then [] else [s!"{name}: {v.plain}", s!"{mark}: true"]
  composite "numberRange" (bound "min" "hasMin" c.minimum ++ bound "max" "hasMax" c.maximum)

def lengthArgument (v : Value) : String :=
  if v.isNull then "-1" else v.plain

def bounds (m : Message) (f : Field) : String :=
  let c := f.info.constraints
  match f.info.kind with
  | "number" => ", " ++ numberRange f
  | "boolean" => ""
  | "enum" => ", " ++ stringsLiteral c.values
  | "bytes" => ", " ++ lengthArgument c.length
  | _ => s!", {(c.minLength.orElse (.int 0)).plain}, {lengthArgument c.maxLength}, " ++
      patternArgument m f

def kindName (f : Field) : String :=
  String.ofList (Naming.capitalize f.info.kind.toList)

def coerceCall (m : Message) (f : Field) (raw : String) : String :=
  s!"coerce{kindName f}({raw}{bounds m f})"

def checkCall (m : Message) (f : Field) (value : String) : String :=
  s!"check{kindName f}(errs, {stringLiteral f.name}, {value}{bounds m f}" ++
    s!"{stopsArguments f.info.stops})"

/-- The call that refuses an optional value that would be written as nothing. -/
def emptyCheck? (f : Field) (value : String) : Option String :=
  if f.required || !(["string", "enum", "bytes"].contains f.info.kind) ||
      !f.info.constraints.length.isNull then none
  else some s!"checkEmpty(errs, {stringLiteral f.name}, len({value}))"

def presence (f : Field) (value : String) : String :=
  match f.info.kind with
  | "number" => value ++ " != 0"
  | "boolean" => value
  | "bytes" => s!"len({value}) > 0"
  | _ => value ++ " != \"\""

def writeCall (f : Field) (value : String) : String :=
  match f.info.kind with
  | "number" => s!"buf.WriteString(strconv.FormatInt({value}, 10))"
  | "boolean" => s!"buf.WriteString(strconv.FormatBool({value}))"
  | "bytes" => s!"buf.Write({value})"
  | _ => s!"buf.WriteString({value})"

def drawn (f : Field) : String :=
  let d := f.info.domain
  let text := s!"randomString(r, {stringLiteral d.alphabet}, {d.minSize.plain}, {d.maxSize.plain})"
  match f.info.definition.type with
  | some (.number ..) => s!"randomInt(r, {d.minimum.plain}, {d.maximum.plain})"
  | some .boolean => "r.Intn(2) == 1"
  | some (.enum _) => "pick(r" ++ String.join (d.values.map fun v ↦ ", " ++ stringLiteral v) ++ ")"
  | some (.bytes length) =>
    if length.isNull then s!"[]byte({text})" else s!"randomBytes(r, {length.plain})"
  | _ => text

/-- The expression that draws values for a field. A field with a pattern has one fixed value. -/
def generator (f : Field) : String :=
  let base := if !f.hasPattern then drawn f
    else if f.info.sample.isNull then stringLiteral "" else literal f.info.sample
  if f.info.generatesAbsent then s!"optional(r, {base})" else base

def exampleStruct (m : Message) (sample : List (Field × Value)) : String :=
  composite (profile.typeName [m.name])
    (sample.map fun e ↦ s!"{e.1.member profile}: {literal e.2}")

end TextProtocol.Target.Go
