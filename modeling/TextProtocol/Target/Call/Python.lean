import TextProtocol.Target.Literal.Python
import TextProtocol.Target.Names

/-!
# Python calls

The calls in generated Python that read, check and draw the values of a field, and the names of
modules and functions.
-/

namespace TextProtocol.Target.Python

abbrev profile : Naming.Profile := Naming.Profile.python

def packageOf (protocol : Compiled.Protocol) : Except Cause Package :=
  Package.ofProtocol protocol profile.displayName 0 fun v ↦ .ok (literal v)

def modules (p : Package) : Modules :=
  .ofPackage profile p (profile.fileStem ["test", p.name])

def packageNames (p : Package) (runtime : String) : Holes :=
  ("runtime", runtime) :: p.names profile (modules p)

def typeOf (f : Field) : String :=
  match f.info.kind with
  | "number" => "int"
  | "boolean" => "bool"
  | "bytes" => "bytes"
  | _ => "str"

def annotation (f : Field) : String :=
  if f.info.nullable then typeOf f ++ " | None" else typeOf f

def keywords (options : List (String × Value)) : String :=
  String.join ((options.filter fun o ↦ !o.2.isNull).map fun o ↦ s!", {o.1}={literal o.2}")

def bounds (f : Field) : String :=
  let c := f.info.constraints
  match f.info.kind with
  | "string" => keywords [("min_length", c.minLength), ("max_length", c.maxLength),
      ("pattern", Value.ofText? c.pattern)]
  | "number" => keywords [("minimum", c.minimum), ("maximum", c.maximum)]
  | "bytes" => keywords [("length", c.length)]
  | _ => ""

def choices (f : Field) : String :=
  if f.info.kind == "enum" then ", " ++ stringsLiteral f.info.constraints.values else ""

def coerceCall (f : Field) (raw : String) : String :=
  s!"coerce_{f.info.kind}({raw}{choices f}{bounds f})"

def checkCall (f : Field) (value : String) : String :=
  let required := (Value.ofBool? f.info.definition.required).plain
  let stops := if f.info.stops.isEmpty then ""
    else ", stops=" ++ stopsLiteral f.info.stops
  s!"check_{f.info.kind}({stringLiteral f.name}, {value}{choices f}, required={required}" ++
    s!"{stops}{bounds f})"

def strategy (f : Field) : String :=
  let d := f.info.domain
  let sizes := s!"min_size={d.minSize.plain}, max_size={d.maxSize.plain}"
  let text := s!"st.text(alphabet={stringLiteral d.alphabet}, {sizes})"
  let base :=
    if f.hasPattern then s!"st.just({literal f.info.sample})"
    else match f.info.definition.type with
      | some (.number ..) =>
        s!"st.integers(min_value={d.minimum.plain}, max_value={d.maximum.plain})"
      | some .boolean => "st.booleans()"
      | some (.enum _) => s!"st.sampled_from({stringsLiteral d.values})"
      | some (.bytes length) =>
        if length.isNull then text ++ ".map(str.encode)" else s!"st.binary({sizes})"
      | _ => text
  if f.info.generatesAbsent then "st.none() | " ++ base else base

def exampleArguments (sample : List (Field × Value)) : String :=
  ", ".intercalate (sample.map fun e ↦ s!"{e.1.member profile}={literal e.2}")

end TextProtocol.Target.Python
