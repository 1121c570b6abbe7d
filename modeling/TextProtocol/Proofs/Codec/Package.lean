import Mathlib.Data.List.Nodup
import TextProtocol.Codec.Package
import TextProtocol.Proofs.Fault

/-!
# Messages that a package keeps

The functions of a package for a message are those of the message alone where the package keeps it,
`Keeps`: no other message takes the place of its functions or of the type of its records. Then its
parser differs from one that stands alone only where a name is hidden from it, `Keeps.parse_eq`. All
messages are kept, and nothing is hidden, in a package that is plain, `IsPlain`.

What is said of a message alone carries over to a package by `parse_eq_ok_iff` and
`serialize_eq_ok_iff`.
-/

namespace TextProtocol.Codec.Package

open Fault (bind_eq_ok_iff pure_eq_ok_iff)

variable {package : Package} {m : Compiled.Message}

/-! ## The names of a message -/

theorem functionOf_mem (hm : m ∈ package.messages) : package.functionOf m ∈ package.messages := by
  rw [functionOf]
  cases hlast : (package.messages.filter (functionStem · == functionStem m)).getLast? with
  | none => exact hm
  | some other => exact (List.mem_filter.mp (List.mem_of_getLast? hlast)).1

/-- The last of some messages that go by the name of one of them, where names are different. -/
theorem getLast?_filter_of_nodup {messages : List Compiled.Message} (hm : m ∈ messages)
    {key : Compiled.Message → String} (h : (messages.map key).Nodup) :
    ((messages.filter (key · == key m)).getLast?).getD m = m := by
  cases hlast : (messages.filter (key · == key m)).getLast? with
  | none => rfl
  | some other =>
    obtain ⟨hother, hkey⟩ := List.mem_filter.mp (List.mem_of_getLast? hlast)
    exact List.inj_on_of_nodup_map h hother hm (eq_of_beq hkey)

theorem functionOf_of_messages (h : package.messages = [m]) : package.functionOf m = m :=
  getLast?_filter_of_nodup (h ▸ List.mem_singleton_self m) (h ▸ List.nodup_singleton _)

/-- The functions for a message and the type of its records are its own. -/
structure Keeps (package : Package) (m : Compiled.Message) : Prop where
  function : package.functionOf m = m
  type : package.classOf m = m
  usual : package.unusual.lookup (typeName m) = none

theorem Keeps.build_eq (h : package.Keeps m) : package.build m = Codec.build m := by
  funext given
  rw [build, h.usual, h.type]

/-- The names of the messages of a package come to different ones, and hide nothing that its
functions return. -/
structure IsPlain (package : Package) : Prop where
  functions : (package.messages.map functionStem).Nodup
  types : (package.messages.map typeName).Nodup
  usual : package.unusual.isEmpty = true
  invalid : package.hidesInParser "Invalid" = false
  success : package.hidesInParser "ParseSuccess" = false
  written : package.hides "SerializeSuccess" = false

instance (package : Package) : Decidable package.IsPlain :=
  decidable_of_iff ((package.messages.map functionStem).Nodup ∧
    (package.messages.map typeName).Nodup ∧ package.unusual.isEmpty = true ∧
    package.hidesInParser "Invalid" = false ∧ package.hidesInParser "ParseSuccess" = false ∧
    package.hides "SerializeSuccess" = false)
    ⟨fun h ↦ ⟨h.1, h.2.1, h.2.2.1, h.2.2.2.1, h.2.2.2.2.1, h.2.2.2.2.2⟩,
      fun h ↦ ⟨h.functions, h.types, h.usual, h.invalid, h.success, h.written⟩⟩

theorem IsPlain.keeps (h : package.IsPlain) (hm : m ∈ package.messages) : package.Keeps m where
  function := getLast?_filter_of_nodup hm h.functions
  type := getLast?_filter_of_nodup hm h.types
  usual := by rw [List.isEmpty_iff.mp h.usual, List.lookup_nil]

/-! ## Parsers and serializers -/

/-- A message is parsed by the parser that goes by its name, if the name for successes is not hidden
from it. -/
theorem parse_eq_ok_iff {data : Bytes} {offset : Int} {p : Parsed} :
    package.parse m data offset = .ok (.ok p) ↔
      parseWith (package.hidesInParser "Invalid") (package.build (package.functionOf m))
        (package.functionOf m) data offset = .ok (.ok p) ∧
        package.hidesInParser "ParseSuccess" = false := by
  rw [parse, bind_eq_ok_iff]
  constructor
  · rintro ⟨result, hresult, h⟩
    split at h
    · cases h
    · rename_i hhides
      cases pure_eq_ok_iff.mp h
      exact ⟨hresult, by simpa [Except.isOk, Except.toBool] using hhides⟩
  · rintro ⟨hresult, hhides⟩
    exact ⟨_, hresult, by simp [hhides]⟩

theorem parse_eq_parseWith (hsuccess : package.hidesInParser "ParseSuccess" = false)
    (data : Bytes) (offset : Int) :
    package.parse m data offset =
      parseWith (package.hidesInParser "Invalid") (package.build (package.functionOf m))
        (package.functionOf m) data offset := by
  rw [parse, hsuccess]
  simp only [Bool.and_false, Bool.false_eq_true, if_false]
  cases parseWith (package.hidesInParser "Invalid") (package.build (package.functionOf m))
    (package.functionOf m) data offset <;> rfl

/-- A message that is kept is parsed as if it stood alone, if nothing is hidden from its parser. -/
theorem Keeps.parse_eq (h : package.Keeps m) (hinvalid : package.hidesInParser "Invalid" = false)
    (hsuccess : package.hidesInParser "ParseSuccess" = false) (data : Bytes) (offset : Int) :
    package.parse m data offset = Codec.parse m data offset := by
  rw [parse_eq_parseWith hsuccess, h.function, hinvalid, h.build_eq, Codec.parse]

/-- A record is written by the serializer that goes by the name of its message, if the name for what
is written is not hidden. -/
theorem serialize_eq_ok_iff {r : Record} {bytes : Bytes} :
    package.serialize m r = .ok (.ok bytes) ↔
      Codec.serialize (package.functionOf m) r = .ok (.ok bytes) ∧
        package.hides "SerializeSuccess" = false := by
  rw [serialize, bind_eq_ok_iff]
  constructor
  · rintro ⟨result, hresult, h⟩
    cases hhides : package.hides
        (if result.isOk then "SerializeSuccess" else "SerializeFailure") with
    | true =>
      rw [hhides] at h
      cases h
    | false =>
      rw [hhides] at h
      cases pure_eq_ok_iff.mp h
      exact ⟨hresult, hhides⟩
  · rintro ⟨hresult, hhides⟩
    exact ⟨_, hresult, by simp [Except.isOk, Except.toBool, hhides]⟩

end TextProtocol.Codec.Package
