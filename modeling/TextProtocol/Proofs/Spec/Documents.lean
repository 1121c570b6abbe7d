import TextProtocol.Proofs.Value.Order
import TextProtocol.Spec.Document
import TextProtocol.Spec.Encode

/-!
# Specifications and their documents

Decoding takes many spellings of one thing, and encoding picks one of them. What is decoded is
proper: its integer attributes are integers or null. A proper specification all of whose fields have
types can be encoded, and decoding takes the document for that very specification,
`exists_encode_of_proper`.

Everything is said about `decodeUnlessNull`, which is how an attribute is read: that the value
written for an attribute is read back as the attribute was, null included.
-/

namespace TextProtocol.Spec

open Fault (bind_eq_ok_iff mapError_eq_ok_iff pure_eq_ok_iff mapM_eq_ok_iff)
open Value (ofText? ofBool? isCountable)

/-! ## Attributes -/

variable {α : Type} {decode : Value → Decoded α}

/-- Choices of which no two are spelled alike. -/
class LawfulChoice (α : Type) [Choice α] : Prop where
  find?_word (a : α) : Choice.find? (Choice.word a) = some a

instance : LawfulChoice Direction := ⟨fun a ↦ by cases a <;> rfl⟩

instance : LawfulChoice Transport := ⟨fun a ↦ by cases a <;> rfl⟩

instance : LawfulChoice ParsePolicy := ⟨fun a ↦ by cases a <;> rfl⟩

instance : LawfulChoice NetworkPolicy := ⟨fun a ↦ by cases a <;> rfl⟩

theorem decodeUnlessNull_ofText? (o : Option String) :
    decodeUnlessNull decodeText (ofText? o) = .ok o := by
  cases o <;> rfl

theorem decodeUnlessNull_ofBool? (o : Option Bool) :
    decodeUnlessNull decodeBool (ofBool? o) = .ok o := by
  cases o <;> rfl

theorem decodeUnlessNull_encodeChoice [Choice α] [LawfulChoice α] (o : Option α) :
    decodeUnlessNull decodeChoice (encodeChoice o) = .ok o := by
  cases o with
  | none => rfl
  | some a =>
    have hfind : (Value.text (Choice.word a)).text?.bind Choice.find? = some a :=
      LawfulChoice.find?_word a
    rw [encodeChoice, decodeUnlessNull, decodeChoice, hfind]
    rfl

theorem decodeUnlessNull_encodeOr {encode : α → Value} {o : Option α}
    (h : ∀ a ∈ o, decodeUnlessNull decode (encode a) = .ok (some a)) :
    decodeUnlessNull decode (encodeOr encode o) = .ok o := by
  cases o with
  | none => rfl
  | some a => exact h a rfl

theorem decodeUnlessNull_object (entries : List (String × Value)) {a : α}
    (h : decode (.object entries) = .ok a) :
    decodeUnlessNull decode (.object entries) = .ok (some a) := by
  rw [decodeUnlessNull, h]
  rfl

theorem exists_decodeInteger {v : Value} (h : isCountable v = true) :
    ∃ o, decodeUnlessNull decodeInteger v = .ok o ∧ o.getD .null = v := by
  cases v with
  | null => exact ⟨none, rfl, rfl⟩
  | bool b => exact ⟨some (.bool b), rfl, rfl⟩
  | int n => exact ⟨some (.int n), rfl, rfl⟩
  | _ => cases h

theorem decodeIntegerOr_of_spelled {e : List (String × Value)} {key long : String} {v : Value}
    (hv : isCountable v = true) (h : spelled? e key long = some v) :
    decodeIntegerOr e key long = .ok v := by
  obtain ⟨o, ho, rfl⟩ := exists_decodeInteger hv
  rw [decodeIntegerOr, decodeOr, h, bind_eq_ok_iff]
  exact ⟨o, ho, rfl⟩

theorem exists_decodePure (v : Value) :
    ∃ o, decodeUnlessNull pure v = .ok o ∧ o.getD .null = v := by
  cases v with
  | null => exact ⟨none, rfl, rfl⟩
  | _ => exact ⟨some _, rfl, rfl⟩

theorem isCountable_of_decodeInteger {v w : Value} (h : decodeInteger v = .ok w) :
    isCountable w = true := by
  rw [decodeInteger.eq_def] at h
  split at h
  · cases h
    rfl
  · cases h
    rfl
  · split at h
    · cases h
    · split at h
      · cases h
        rfl
      · cases h
  · split at h
    · cases h
      rfl
    · cases h
  · cases h
  · cases h

/-! ### What decoded attributes have in common -/

section Decoded

variable {P : α → Prop} {e : List (String × Value)} {key long : String} {o : Option α}

theorem forall_mem_of_decodeUnlessNull (hdecode : ∀ v a, decode v = .ok a → P a) {v : Value}
    (h : decodeUnlessNull decode v = .ok o) : ∀ a ∈ o, P a := by
  rw [decodeUnlessNull] at h
  split at h
  · cases h
    exact fun a ha ↦ by cases ha
  · cases hv : decode v with
    | error e =>
      rw [hv] at h
      cases h
    | ok b =>
      rw [hv] at h
      cases h
      exact fun a ha ↦ Option.some.inj ha ▸ hdecode v b hv

theorem forall_mem_of_decodeOr {default : Option α} (hdecode : ∀ v a, decode v = .ok a → P a)
    (hdefault : ∀ a ∈ default, P a) (h : decodeOr e key long decode default = .ok o) :
    ∀ a ∈ o, P a := by
  rw [decodeOr] at h
  split at h
  · cases h
    exact hdefault
  · exact forall_mem_of_decodeUnlessNull hdecode h

theorem forall_mem_of_decodeNeeded (hdecode : ∀ v a, decode v = .ok a → P a)
    (h : decodeNeeded e key decode = .ok o) : ∀ a ∈ o, P a := by
  rw [decodeNeeded] at h
  split at h
  · cases h
  · exact forall_mem_of_decodeUnlessNull hdecode h

theorem isCountable_getD {o : Option Value} (h : ∀ v ∈ o, isCountable v = true) :
    isCountable (o.getD .null) = true := by
  cases o with
  | none => rfl
  | some v => exact h v rfl

theorem isCountable_of_decodeIntegerOr {w : Value} (h : decodeIntegerOr e key long = .ok w) :
    isCountable w = true := by
  obtain ⟨o, ho, h⟩ := bind_eq_ok_iff.mp h
  rw [pure_eq_ok_iff] at h
  subst h
  refine isCountable_getD (forall_mem_of_decodeOr (fun v w ↦ isCountable_of_decodeInteger) ?_ ho)
  exact fun v hv ↦ by cases hv

def present (o : Option (List (Option α))) : List α :=
  (o.getD []).filterMap id

theorem forall_present_of_decodeOr {o : Option (List (Option α))}
    (hdecode : ∀ v a, decode v = .ok a → P a)
    (h : decodeOr e key long (decodeList decode) (some []) = .ok o) : ∀ a ∈ present o, P a := by
  have hitems : ∀ items ∈ o, ∀ a, some a ∈ items → P a := by
    refine forall_mem_of_decodeOr (P := fun items ↦ ∀ a, some a ∈ items → P a) ?_ ?_ h
    · intro v items hv a ha
      obtain ⟨values, -, hmap⟩ := bind_eq_ok_iff.mp hv
      obtain ⟨w, -, hw⟩ := Fault.exists_of_mem_results (mapM_eq_ok_iff.mp hmap) ha
      exact forall_mem_of_decodeUnlessNull hdecode hw a rfl
    · rintro items ⟨⟩ a ha
      cases ha
  intro a ha
  obtain ⟨b, hb, rfl⟩ := List.mem_filterMap.mp ha
  cases o with
  | none => cases hb
  | some items => exact hitems items rfl a hb

end Decoded

/-! ### Lists -/

theorem encodeList_some (encode : α → Except Fault Value) (items : List (Option α)) :
    encodeList encode (some items) = (do
      let values ← items.mapM fun item ↦ item.elim (pure .null) encode
      return .list values) := by
  rw [encodeList]
  congr 2
  funext item
  cases item <;> rfl

/-- A list whose items can be encoded and read back can be encoded and read back. -/
theorem exists_encodeList {encode : α → Except Fault Value} {o : Option (List (Option α))}
    (h : ∀ a ∈ present o, ∃ d, encode a = .ok d ∧ decodeUnlessNull decode d = .ok (some a)) :
    ∃ d, encodeList encode o = .ok d ∧ decodeUnlessNull (decodeList decode) d = .ok o := by
  cases o with
  | none => exact ⟨.null, rfl, rfl⟩
  | some items =>
    have hitem : ∀ item ∈ items, ∃ d, item.elim (pure .null) encode = .ok d ∧
        decodeUnlessNull decode d = .ok item := by
      rintro (_ | a) hitem
      · exact ⟨.null, rfl, rfl⟩
      · exact h a (List.mem_filterMap.mpr ⟨some a, hitem, rfl⟩)
    obtain ⟨values, hvalues, hitems⟩ := Fault.exists_mapM hitem
    have hdecode : decodeList decode (.list values) = .ok items := hitems
    refine ⟨.list values, ?_, ?_⟩
    · rw [encodeList_some, hvalues]
      rfl
    · rw [decodeUnlessNull, hdecode]
      rfl

/-! ## Fields -/

theorem FieldType.decode_encode (t : FieldType) : FieldType.decode t.encode = .ok t := by
  have hbound (v : Value) : v = .null ∨ v.isNull = false := by
    cases v with
    | null => exact .inl rfl
    | _ => exact .inr rfl
  cases t with
  | string maxLength =>
    rcases hbound maxLength with rfl | h
    · rfl
    · simp only [encode, encodeBound, h]
      rfl
  | number minimum maximum =>
    rcases hbound minimum with rfl | hmin <;> rcases hbound maximum with rfl | hmax
    · rfl
    · simp only [encode, encodeBound, hmax]
      rfl
    · simp only [encode, encodeBound, hmin]
      rfl
    · simp only [encode, encodeBound, hmin, hmax]
      rfl
  | boolean => rfl
  | enum values =>
    have htexts : (values.map Value.text).mapM decodeText = .ok values := by
      rw [mapM_eq_ok_iff, List.map_map]
      rfl
    change (do return .enum (← (values.map Value.text).mapM decodeText) : Decoded FieldType) = _
    rw [htexts]
    rfl
  | bytes length =>
    rcases hbound length with rfl | h
    · rfl
    · simp only [encode, encodeBound, h]
      rfl

/-- The integer attributes of a rule are integers. -/
structure Rule.Proper (r : Rule) : Prop where
  minLength : isCountable r.minLength = true
  maxLength : isCountable r.maxLength = true
  minimum : isCountable r.minimum = true
  maximum : isCountable r.maximum = true

theorem Rule.proper_of_decode {v : Value} {r : Rule} (h : Rule.decode v = .ok r) : r.Proper := by
  simp only [Rule.decode, bind_eq_ok_iff, pure_eq_ok_iff] at h
  obtain ⟨e, -, _, -, _, hminLength, _, hmaxLength, _, hminimum, _, hmaximum, _, -, rfl⟩ := h
  exact {
    minLength := isCountable_of_decodeIntegerOr hminLength
    maxLength := isCountable_of_decodeIntegerOr hmaxLength
    minimum := isCountable_of_decodeIntegerOr hminimum
    maximum := isCountable_of_decodeIntegerOr hmaximum }

theorem Rule.decode_encode {r : Rule} (h : r.Proper) : Rule.decode r.encode = .ok r := by
  simp only [Rule.decode, bind_eq_ok_iff, pure_eq_ok_iff]
  -- One fact for each attribute, in the order of reading. Its key is found by evaluation.
  exact ⟨_, rfl, _, decodeUnlessNull_ofText? _, _, decodeIntegerOr_of_spelled h.minLength rfl,
    _, decodeIntegerOr_of_spelled h.maxLength rfl, _, decodeIntegerOr_of_spelled h.minimum rfl,
    _, decodeIntegerOr_of_spelled h.maximum rfl, _, decodeUnlessNull_ofText? _, rfl⟩

def Field.Proper (f : Field) : Prop :=
  ∀ r ∈ f.rule, r.Proper

theorem Field.proper_of_decode {v : Value} {f : Field} (h : Field.decode v = .ok f) : f.Proper := by
  simp only [Field.decode, bind_eq_ok_iff, pure_eq_ok_iff] at h
  obtain ⟨e, -, _, -, _, -, _, -, _, hrule, rfl⟩ := h
  exact forall_mem_of_decodeOr (fun v r ↦ Rule.proper_of_decode) (fun r hr ↦ by cases hr) hrule

theorem Field.exists_encode {f : Field} (h : f.Proper) (htype : f.type ≠ none) :
    ∃ d, f.encode = .ok d ∧ decodeUnlessNull Field.decode d = .ok (some f) := by
  obtain ⟨name, type, required, rule, defaultValue⟩ := f
  cases type with
  | none => exact absurd rfl htype
  | some t =>
    have hrule : decodeUnlessNull Rule.decode (encodeOr Rule.encode rule) = .ok rule :=
      decodeUnlessNull_encodeOr fun r hr ↦ decodeUnlessNull_object _ (Rule.decode_encode (h r hr))
    refine ⟨_, rfl, decodeUnlessNull_object _ ?_⟩
    simp only [Field.decode, bind_eq_ok_iff, pure_eq_ok_iff]
    exact ⟨_, rfl, _, decodeUnlessNull_ofText? _, _, decodeUnlessNull_object _ t.decode_encode,
      _, decodeUnlessNull_ofBool? _, _, hrule, rfl⟩

def ProperFields (fields : Option (List (Option Field))) : Prop :=
  ∀ f ∈ present fields, f.Proper

def TypedFields (fields : Option (List (Option Field))) : Prop :=
  ∀ f ∈ present fields, f.type ≠ none

theorem exists_encodeFields {fields : Option (List (Option Field))} (h : ProperFields fields)
    (htyped : TypedFields fields) :
    ∃ d, encodeList Field.encode fields = .ok d ∧
      decodeUnlessNull (decodeList Field.decode) d = .ok fields :=
  exists_encodeList fun f hf ↦ Field.exists_encode (h f hf) (htyped f hf)

/-! ## Messages and types -/

theorem Message.properFields_of_decode {v : Value} {m : Message} (h : Message.decode v = .ok m) :
    ProperFields m.fields := by
  simp only [Message.decode, bind_eq_ok_iff, pure_eq_ok_iff] at h
  obtain ⟨e, -, _, -, _, -, _, -, _, hfields, _, -, _, -, _, -, rfl⟩ := h
  exact forall_present_of_decodeOr (fun v f ↦ Field.proper_of_decode) hfields

theorem Message.exists_encode {m : Message} (h : ProperFields m.fields)
    (htyped : TypedFields m.fields) :
    ∃ d, m.encode = .ok d ∧ decodeUnlessNull Message.decode d = .ok (some m) := by
  obtain ⟨fields, hencode, hfields⟩ := exists_encodeFields h htyped
  refine ⟨_, bind_eq_ok_iff.mpr ⟨fields, hencode, rfl⟩, decodeUnlessNull_object _ ?_⟩
  simp only [Message.decode, bind_eq_ok_iff, pure_eq_ok_iff]
  exact ⟨_, rfl, _, decodeUnlessNull_ofText? _, _, decodeUnlessNull_encodeChoice _,
    _, decodeUnlessNull_ofText? _, _, hfields, _, decodeUnlessNull_ofText? _,
    _, decodeUnlessNull_ofText? _, _, decodeUnlessNull_ofText? _, rfl⟩

theorem EnumValue.decode_encode (v : EnumValue) : EnumValue.decode v.encode = .ok v := by
  obtain ⟨name, value, description⟩ := v
  obtain ⟨o, ho, rfl⟩ := exists_decodePure value
  simp only [EnumValue.decode, bind_eq_ok_iff, pure_eq_ok_iff]
  exact ⟨_, rfl, _, decodeUnlessNull_ofText? _, o, ho, _, decodeUnlessNull_ofText? _, rfl⟩

theorem TypeDefinition.properFields_of_decode {v : Value} {t : TypeDefinition}
    (h : TypeDefinition.decode v = .ok t) : ProperFields t.fields := by
  simp only [TypeDefinition.decode, bind_eq_ok_iff, pure_eq_ok_iff] at h
  obtain ⟨e, -, _, -, _, -, _, -, _, hfields, rfl⟩ := h
  exact forall_present_of_decodeOr (fun v f ↦ Field.proper_of_decode) hfields

theorem TypeDefinition.exists_encode {t : TypeDefinition} (h : ProperFields t.fields)
    (htyped : TypedFields t.fields) :
    ∃ d, t.encode = .ok d ∧ decodeUnlessNull TypeDefinition.decode d = .ok (some t) := by
  obtain ⟨fields, hencode, hfields⟩ := exists_encodeFields h htyped
  obtain ⟨values, hencode', hvalues⟩ :
      ∃ d, encodeList (fun v ↦ pure (EnumValue.encode v)) t.values = .ok d ∧
        decodeUnlessNull (decodeList EnumValue.decode) d = .ok t.values :=
    exists_encodeList fun v _ ↦ ⟨v.encode, rfl, decodeUnlessNull_object _ v.decode_encode⟩
  refine ⟨_, bind_eq_ok_iff.mpr ⟨values, hencode', bind_eq_ok_iff.mpr ⟨fields, hencode, rfl⟩⟩,
    decodeUnlessNull_object _ ?_⟩
  simp only [TypeDefinition.decode, bind_eq_ok_iff, pure_eq_ok_iff]
  exact ⟨_, rfl, _, decodeUnlessNull_ofText? _, _, decodeUnlessNull_ofText? _, _, hvalues,
    _, hfields, rfl⟩

/-! ## Connections, protocols and errors -/

theorem Handshake.decode_encode (h : Handshake) : Handshake.decode h.encode = .ok h := by
  simp only [Handshake.decode, bind_eq_ok_iff, pure_eq_ok_iff]
  exact ⟨_, rfl, _, decodeUnlessNull_ofBool? _, _, decodeUnlessNull_ofText? _,
    _, decodeUnlessNull_ofText? _, rfl⟩

theorem Termination.decode_encode (t : Termination) : Termination.decode t.encode = .ok t := by
  simp only [Termination.decode, bind_eq_ok_iff, pure_eq_ok_iff]
  exact ⟨_, rfl, _, decodeUnlessNull_ofBool? _, _, decodeUnlessNull_ofText? _,
    _, decodeUnlessNull_ofText? _, rfl⟩

theorem Connection.isCountable_of_decode {v : Value} {c : Connection}
    (h : Connection.decode v = .ok c) : isCountable c.timeout = true := by
  simp only [Connection.decode, bind_eq_ok_iff, pure_eq_ok_iff] at h
  obtain ⟨e, -, _, -, _, -, _, -, _, htimeout, _, -, rfl⟩ := h
  exact isCountable_of_decodeIntegerOr htimeout

theorem Connection.decode_encode {c : Connection} (h : isCountable c.timeout = true) :
    Connection.decode c.encode = .ok c := by
  have hhandshake : decodeUnlessNull Handshake.decode (encodeOr Handshake.encode c.handshake) =
      .ok c.handshake :=
    decodeUnlessNull_encodeOr fun a _ ↦ decodeUnlessNull_object _ a.decode_encode
  have htermination :
      decodeUnlessNull Termination.decode (encodeOr Termination.encode c.termination) =
        .ok c.termination :=
    decodeUnlessNull_encodeOr fun a _ ↦ decodeUnlessNull_object _ a.decode_encode
  simp only [Connection.decode, bind_eq_ok_iff, pure_eq_ok_iff]
  exact ⟨_, rfl, _, decodeUnlessNull_encodeChoice _, _, hhandshake, _, htermination,
    _, decodeIntegerOr_of_spelled h rfl, _, decodeUnlessNull_ofBool? _, rfl⟩

theorem Metadata.isCountable_of_decode {v : Value} {m : Metadata} (h : Metadata.decode v = .ok m) :
    isCountable m.port = true := by
  simp only [Metadata.decode, bind_eq_ok_iff, pure_eq_ok_iff] at h
  obtain ⟨e, -, _, -, port, hport, _, -, _, -, _, -, rfl⟩ := h
  exact isCountable_getD (forall_mem_of_decodeNeeded (fun v w ↦ isCountable_of_decodeInteger) hport)

theorem Metadata.decode_encode {m : Metadata} (h : isCountable m.port = true) :
    Metadata.decode m.encode = .ok m := by
  obtain ⟨name, port, description, version, rfc⟩ := m
  -- A missing port is kept as null, so the port is first taken for what reading makes of it.
  obtain ⟨o, ho, rfl⟩ := exists_decodeInteger h
  simp only [Metadata.decode, bind_eq_ok_iff, pure_eq_ok_iff]
  exact ⟨_, rfl, _, decodeUnlessNull_ofText? _, o, ho, _, decodeUnlessNull_ofText? _,
    _, decodeUnlessNull_ofText? _, _, decodeUnlessNull_ofText? _, rfl⟩

/-- The integer attributes of error handling are integers. -/
structure ErrorHandling.Proper (h : ErrorHandling) : Prop where
  retryAttempts : isCountable h.retryAttempts = true
  retryDelay : isCountable h.retryDelay = true

theorem ErrorHandling.proper_of_decode {v : Value} {h : ErrorHandling}
    (hdecode : ErrorHandling.decode v = .ok h) : h.Proper := by
  simp only [ErrorHandling.decode, bind_eq_ok_iff, pure_eq_ok_iff] at hdecode
  obtain ⟨e, -, _, -, _, -, _, hattempts, _, hdelay, rfl⟩ := hdecode
  exact ⟨isCountable_of_decodeIntegerOr hattempts, isCountable_of_decodeIntegerOr hdelay⟩

theorem ErrorHandling.decode_encode {h : ErrorHandling} (hproper : h.Proper) :
    ErrorHandling.decode h.encode = .ok h := by
  simp only [ErrorHandling.decode, bind_eq_ok_iff, pure_eq_ok_iff]
  exact ⟨_, rfl, _, decodeUnlessNull_encodeChoice _, _, decodeUnlessNull_encodeChoice _,
    _, decodeIntegerOr_of_spelled hproper.retryAttempts rfl,
    _, decodeIntegerOr_of_spelled hproper.retryDelay rfl, rfl⟩

/-! ## Specifications -/

/-- The integer attributes of a specification are integers. -/
structure Proper (s : Spec) : Prop where
  metadata : ∀ m ∈ s.metadata, isCountable m.port = true
  connection : ∀ c ∈ s.connection, isCountable c.timeout = true
  messages : ∀ m ∈ present s.messages, ProperFields m.fields
  types : ∀ t ∈ present s.types, ProperFields t.fields
  errorHandling : ∀ h ∈ s.errorHandling, h.Proper

/-- The fields of the messages and of the types of a specification have types. -/
structure Typed (s : Spec) : Prop where
  messages : ∀ m ∈ present s.messages, TypedFields m.fields
  types : ∀ t ∈ present s.types, TypedFields t.fields

theorem proper_of_decode {v : Value} {s : Spec} (h : Spec.decode v = .ok s) : s.Proper := by
  simp only [Spec.decode, bind_eq_ok_iff, pure_eq_ok_iff] at h
  obtain ⟨e, -, _, hmetadata, _, hconnection, _, hmessages, _, htypes, _, hhandling, rfl⟩ := h
  exact {
    metadata := forall_mem_of_decodeNeeded (fun v m ↦ Metadata.isCountable_of_decode) hmetadata
    connection := forall_mem_of_decodeOr (fun v c ↦ Connection.isCountable_of_decode)
      (by rintro c ⟨⟩; rfl) hconnection
    messages := forall_present_of_decodeOr (fun v m ↦ Message.properFields_of_decode) hmessages
    types := forall_present_of_decodeOr (fun v t ↦ TypeDefinition.properFields_of_decode) htypes
    errorHandling := forall_mem_of_decodeOr (fun v h ↦ ErrorHandling.proper_of_decode)
      (by rintro h ⟨⟩; exact ⟨rfl, rfl⟩) hhandling }

/-- A proper specification with types for all its fields can be encoded, and is read back. -/
theorem exists_encode_of_proper {s : Spec} (h : s.Proper) (htyped : s.Typed) :
    ∃ d, s.encode = .ok d ∧ ofDocument d = .ok s := by
  obtain ⟨messages, hencode, hmessages⟩ :
      ∃ d, encodeList Message.encode s.messages = .ok d ∧
        decodeUnlessNull (decodeList Message.decode) d = .ok s.messages :=
    exists_encodeList fun m hm ↦ Message.exists_encode (h.messages m hm) (htyped.messages m hm)
  obtain ⟨types, hencode', htypes⟩ :
      ∃ d, encodeList TypeDefinition.encode s.types = .ok d ∧
        decodeUnlessNull (decodeList TypeDefinition.decode) d = .ok s.types :=
    exists_encodeList fun t ht ↦ TypeDefinition.exists_encode (h.types t ht) (htyped.types t ht)
  have hmetadata : decodeUnlessNull Metadata.decode (encodeOr Metadata.encode s.metadata) =
      .ok s.metadata :=
    decodeUnlessNull_encodeOr fun m hm ↦
      decodeUnlessNull_object _ (Metadata.decode_encode (h.metadata m hm))
  have hconnection :
      decodeUnlessNull Connection.decode (encodeOr Connection.encode s.connection) =
        .ok s.connection :=
    decodeUnlessNull_encodeOr fun c hc ↦
      decodeUnlessNull_object _ (Connection.decode_encode (h.connection c hc))
  have hhandling :
      decodeUnlessNull ErrorHandling.decode (encodeOr ErrorHandling.encode s.errorHandling) =
        .ok s.errorHandling :=
    decodeUnlessNull_encodeOr fun a ha ↦
      decodeUnlessNull_object _ (ErrorHandling.decode_encode (h.errorHandling a ha))
  refine ⟨_, bind_eq_ok_iff.mpr ⟨messages, hencode, bind_eq_ok_iff.mpr ⟨types, hencode', rfl⟩⟩, ?_⟩
  refine mapError_eq_ok_iff.mpr ?_
  simp only [Spec.decode, bind_eq_ok_iff, pure_eq_ok_iff]
  exact ⟨_, rfl, _, hmetadata, _, hconnection, _, hmessages, _, htypes, _, hhandling, rfl⟩

theorem proper_of_ofDocument {document : Value} {s : Spec} (h : ofDocument document = .ok s) :
    s.Proper := by
  rw [ofDocument.eq_def] at h
  split at h
  · split at h
    · cases h
    · exact proper_of_decode (mapError_eq_ok_iff.mp h)
  · cases h

/-- A specification that was read from a document, and whose fields have types, can be encoded, and
the document that it is encoded to means the same specification. -/
theorem ofDocument_encode {document : Value} {s : Spec} (h : ofDocument document = .ok s)
    (htyped : s.Typed) : ∃ d, s.encode = .ok d ∧ ofDocument d = .ok s :=
  exists_encode_of_proper (proper_of_ofDocument h) htyped

/-- A document with long names of attributes, nulls, and values that have to be converted. -/
def echoDocument : Value :=
  .object [
    ("protocol", .object [("name", .int 7), ("port", .text " 7_0 "), ("version", .null)]),
    ("connection", .object [("type", .text "UDP"), ("transport", .text "TCP"),
      ("keep_alive", .text "no")]),
    ("message_types", .list [.null, .object [
      ("name", .text "echo"), ("direction", .text "request"), ("format", .text "\x7bword\x7d"),
      ("fields", .list [.object [
        ("name", .text "word"),
        ("type", .object [("kind", .text "enum"), ("values", .text "ab")]),
        ("required", .int 0),
        ("validation", .object [("minimum", .bool true), ("max", .text "-3")]),
        ("default_value", .list [.null, .object []])]])]])]

def echo : Spec where
  metadata := some { name := some "7", port := .int 70 }
  connection := some { keepAlive := some true }
  messages := some [none, some {
    name := some "echo", direction := some .request, format := some "\x7bword\x7d"
    fields := some [some {
      name := some "word", type := some (.enum ["a", "b"]), required := some false
      rule := some { minimum := .bool true, maximum := .int (-3) }
      defaultValue := .list [.null, .object []] }] }]

theorem ofDocument_encode_echo :
    ofDocument echoDocument = .ok echo ∧ echo.Typed ∧
      ∃ d, echo.encode = .ok d ∧ ofDocument d = .ok echo := by
  have hecho : ofDocument echoDocument = .ok echo := rfl
  have htyped : echo.Typed := by
    constructor <;> simp [echo, present, TypedFields]
  exact ⟨hecho, htyped, ofDocument_encode hecho htyped⟩

end TextProtocol.Spec
