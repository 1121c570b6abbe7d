import TextProtocol.Format.Tokenizer
import TextProtocol.Spec.Basic

/-!
# Segments

The layout of a message is a row of segments, each a fixed text or a field. A format compiles to
segments when each of its placeholders names a declared field.
-/

namespace TextProtocol

/-- A part of the layout of a message. -/
inductive Segment where
  | literal (text : String)
  | field (field : Spec.Field)

namespace Segment

/-- Why a format has no segments at all. -/
inductive Failure where
  | fault (fault : Fault)
  | badFormat (error : Format.SyntaxError) (format : String)

/-- A placeholder that names no declared field. -/
structure Undefined where
  name : String
  column : Nat
  declared : List String

def Undefined.message (u : Undefined) : String :=
  let names := ", ".intercalate u.declared
  let declared := if names.isEmpty then "none" else names
  s!"undefined placeholder \x7b{u.name}\x7d at column {u.column} (declared fields: {declared})"

/-- The field of a name; the last one, if a name is declared more than once. -/
def named? (fields : List Spec.Field) (name : String) : Option Spec.Field :=
  fields.reverse.find? fun f ↦ f.name == some name

/-- The different names of fields. A field without a name has none to list. -/
def declaredNames (fields : List Spec.Field) : Except Fault (List String) := do
  let names ← fields.mapM fun f ↦ match f.name with
    | some n => Except.ok n
    | none => .error Fault.mismatch
  return names.eraseDups

/-- Segments, and the placeholders that name no field. -/
structure Reading where
  segments : List Segment := []
  undefined : List Undefined := []

def ofItems (fields : List Spec.Field) : List Format.Item → Except Fault Reading
  | [] => .ok {}
  | .literal text :: rest => do
    let r ← ofItems fields rest
    return if text.isEmpty then r else { r with segments := .literal text :: r.segments }
  | .placeholder name column :: rest => do
    match named? fields name with
    | some f =>
      let r ← ofItems fields rest
      return { r with segments := .field f :: r.segments }
    | none =>
      let declared ← declaredNames fields
      let r ← ofItems fields rest
      return { r with undefined := ⟨name, column, declared⟩ :: r.undefined }

def ofFormat (format : Option String) (fields : List Spec.Field) : Except Failure Reading :=
  match format with
  | none => .error (.fault .mismatch)
  | some text => match Format.tokenize text with
    | .error e => .error (.badFormat e text)
    | .ok items => (ofItems fields items).mapError .fault

def separator? (text : Option String) : Option String :=
  text.filter (!·.isEmpty)

/-- Segments without a copy of the terminator at the end of the last literal, so that it is not
expected twice. -/
def withoutTerminator (terminator : Option String) (segments : List Segment) : List Segment :=
  match separator? terminator, segments.getLast? with
  | some t, some (.literal text) =>
    if text.endsWith t then
      let remainder := String.ofList (text.toList.take (text.length - t.length))
      if remainder.isEmpty then segments.dropLast
      else segments.dropLast ++ [.literal remainder]
    else segments
  | _, _ => segments

end Segment

end TextProtocol
