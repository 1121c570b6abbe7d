import TextProtocol.Target.Literal.TypeScript
import TextProtocol.Target.Names

/-!
# TypeScript calls

The calls in generated TypeScript that read, check and draw the values of a field.
-/

namespace TextProtocol.Target.TypeScript

abbrev profile : Naming.Profile := Naming.Profile.typescript

def modules (p : Package) : Modules :=
  .ofPackage profile p (profile.fileStem [p.name] ++ ".test")

def packageNames (p : Package) : Holes :=
  p.names profile (modules p)

def typeOf (f : Field) : String :=
  match f.info.kind with
  | "number" => "number"
  |"boolean" => "boolean"
  | "bytes" => "Uint8Array"
  | "enum" => match f.info.constraints.values with
    | [] => "string"
    | values => " | ".intercalate (values.map stringLiteral)
  | _ => "string"

def object (entries : List (String × String)) : String :=
  if entries.isEmpty then "\x7b\x7d"
  else "\x7b " ++ ", ".intercalate (entries.map fun e ↦ s!"{e.1}: {e.2}") ++ " \x7d"

def bound (name : String) (v : Value) : List (String × String) :=
  if v.isNull then [] else [(name, v.plain)]

def patternOption (f : Field) : List (String × String) :=
  match f.info.constraints.pattern with
  | some pattern =>
    if pattern.isEmpty then [] else [("pattern", s!"new RegExp({stringLiteral pattern}, 'u')")]
  | none => []

def bounds (f : Field) : List (String × String) :=
  let c := f.info.constraints
  match f.info.kind with
  | "string" => bound "minLength" c.minLength ++ bound "maxLength" c.maxLength ++ patternOption f
  | "number" => bound "min" c.minimum ++ bound "max" c.maximum
  | "bytes" => bound "length" c.length
  | _ => []

def coerceCall (f : Field) (raw : String) : String :=
  match f.info.kind with
  | "number" => s!"coerceNumber({raw}, {object (bounds f)})"
  | "boolean" => s!"coerceBoolean({raw})"
  | "enum" => s!"coerceEnum({raw}, {stringsLiteral f.info.constraints.values} as const)"
  | "bytes" => s!"coerceBytes({raw}, {object (bounds f)})"
  | _ => s!"coerceString({raw}, {object (bounds f)})"

def checkCall (f : Field) (value : String) : String :=
  let required := [("required", if f.required then "true" else "false")]
  let stops := if f.info.stops.isEmpty then [] else [("stops", stopsLiteral f.info.stops)]
  let subject := s!"errors, {stringLiteral f.name}, {value}"
  let options := object (required ++ bounds f ++ stops)
  match f.info.kind with
  | "number" => s!"checkNumber({subject}, {options})"
  | "boolean" => s!"checkBoolean({subject}, {options})"
  | "enum" => s!"checkEnum({subject}, {stringsLiteral f.info.constraints.values}, {options})"
  | "bytes" => s!"checkBytes({subject}, {options})"
  | _ => s!"checkString({subject}, {options})"

def drawn (f : Field) : String :=
  let d := f.info.domain
  let sizes := [("minLength", d.minSize.plain), ("maxLength", d.maxSize.plain)]
  let unit := s!"fc.constantFrom(...{stringLiteral d.alphabet})"
  let text := "fc.string(" ++ object (("unit", unit) :: sizes) ++ ")"
  match f.info.definition.type with
  | some (.number ..) =>
    "fc.integer(" ++ object [("min", d.minimum.plain), ("max", d.maximum.plain)] ++ ")"
  | some .boolean => "fc.boolean()"
  | some (.enum _) => s!"fc.constantFrom(...({stringsLiteral d.values} as const))"
  | some (.bytes length) =>
    if length.isNull then text ++ ".map((s) => encoder.encode(s))"
    else s!"fc.uint8Array({object sizes})"
  | _ => text

def arbitrary (f : Field) : String :=
  let base := if f.isPinned then s!"fc.constant({literal f.pinned})" else drawn f
  if f.info.generatesAbsent then
    "fc.option(" ++ base ++ ", " ++ object [("nil", "undefined")] ++ ")"
  else base

def exampleObject (sample : List (Field × Value)) : String :=
  object (sample.map fun e ↦ (e.1.member profile, literal e.2))

end TextProtocol.Target.TypeScript
