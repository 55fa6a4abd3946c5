import RegistryFeed.Json.Value.Reader
import RegistryFeed.Proofs.Json.Records
import RegistryFeed.Publication.Document

/-!
# Reading documents back

The text of a document is one object with eight members, of which the last one
lists the records, and each record is read back from its text. Texts are
arbitrary. The integers of a version are those of 64 bits with a sign, which are
all that a store or a document of the programs can hold.
-/

namespace RegistryFeed

open Json

/-- An integer of 64 bits with a sign. -/
def IsInt64 (n : Int) : Prop := Text.minInt64 ≤ n ∧ n ≤ Text.maxInt64

instance (n : Int) : Decidable (IsInt64 n) :=
  inferInstanceAs (Decidable (Text.minInt64 ≤ n ∧ n ≤ Text.maxInt64))

structure VersionInfo.Bounded (v : VersionInfo) : Prop where
  id : IsInt64 v.id
  version : IsInt64 v.version
  lastSerial : IsInt64 v.lastSerial
  createdAt : IsInt64 v.createdAt

/-- The value is an object that has the member. -/
def Json.Value.has (name : String) : Value → Bool
  | .object ms => ms.any (·.1 = name)
  | _ => false

theorem IsInt64.le_maxNat64 {n : Int} (h : IsInt64 n) : n ≤ Text.maxNat64 := by
  have small := h.2
  rw [Text.maxInt64] at small
  rw [Text.maxNat64]
  omega

theorem IsInt64.fits {n : Int} (h : IsInt64 n) : (Value.number n).Fits :=
  .number h.1 h.le_maxNat64

theorem IsInt64.readInt64_writeInt {n : Int} (h : IsInt64 n) {rest : List Char}
    (closes : Closes rest) : readInt64 (writeInt n ++ rest) = .ok (n, rest) :=
  readInt_writeInt h.1 h.2 h.1 h.le_maxNat64 closes

/-! ## Changes -/

namespace DeltaChange

def fields (c : DeltaChange) : List (RecordField DeltaChange) :=
  [⟨"operation", .string c.operation.text, fun d => { d with operation := c.operation }⟩,
    ⟨"object_type", .string c.objectType, fun d => { d with objectType := c.objectType }⟩,
    ⟨"primary_key", .string c.primaryKey, fun d => { d with primaryKey := c.primaryKey }⟩] ++
    (c.payload.map fun p =>
      ⟨"payload", .string p, fun d => { d with payload := some p }⟩).toList

theorem toValue_eq (c : DeltaChange) : c.toValue = .object (c.fields.map (·.toMember)) := by
  obtain ⟨operation, objectType, primaryKey, payload⟩ := c
  cases payload <;> rfl

theorem names (c : DeltaChange) : c.fields.map (·.name) =
    ["operation", "object_type", "primary_key"] ++
      if c.payload.isSome then ["payload"] else [] := by
  obtain ⟨operation, objectType, primaryKey, payload⟩ := c
  cases payload <;> rfl

theorem knownTo_of_mem (c : DeltaChange) : ∀ f ∈ c.fields, f.KnownTo members := by
  have operation : operationOfWord? c.operation.text = some c.operation := by
    cases c.operation <;> rfl
  intro f hf
  rcases List.mem_append.mp hf with hf | hf
  · simp only [List.mem_cons, List.not_mem_nil, or_false] at hf
    rcases hf with rfl | rfl | rfl
    · exact ⟨_, rfl, fun rest _ => Member.read_ofReader (readWord_writeString operation rest)⟩
    · exact ⟨_, rfl, fun rest _ => Member.read_ofReader (readString_writeString _ rest)⟩
    · exact ⟨_, rfl, fun rest _ => Member.read_ofReader (readString_writeString _ rest)⟩
  · obtain ⟨p, -, rfl⟩ := Option.map_eq_some_iff.mp (Option.mem_toList.mp hf)
    exact ⟨_, rfl, fun rest _ => Member.read_ofReader (readString?_writeString p rest)⟩

theorem applyAll_fields (c initial : DeltaChange) (absent : initial.payload = none) :
    RecordField.applyAll c.fields initial = c := by
  obtain ⟨operation, objectType, primaryKey, payload⟩ := c
  obtain ⟨o, t, k, p⟩ := initial
  subst absent
  cases payload <;> rfl

/-- A change is read back from its text. -/
theorem read_toValue (c : DeltaChange) : readAll DeltaChange.read c.toValue.text = .ok c := by
  have distinct : (c.fields.map (·.name)).Nodup := by
    rw [names]
    split <;> decide
  have whole : complete members (c.fields.map (·.name)).reverse = true := by
    rw [names]
    split <;> rfl
  apply readAll_eq_ok
  rw [toValue_eq, DeltaChange.read, readRecord_write c.knownTo_of_mem distinct whole,
    applyAll_fields c _ rfl]

/-- A change has the member exactly if it has a payload. -/
theorem has_payload (c : DeltaChange) : c.toValue.has "payload" = c.payload.isSome := by
  obtain ⟨operation, objectType, primaryKey, payload⟩ := c
  cases payload <;> rfl

theorem fits (c : DeltaChange) : c.toValue.Fits := by
  refine .object ?_
  intro m hm
  rcases List.mem_append.mp hm with hm | hm
  · simp only [List.mem_cons, List.not_mem_nil, or_false] at hm
    rcases hm with rfl | rfl | rfl <;> exact .string _
  · obtain ⟨p, -, rfl⟩ := Option.map_eq_some_iff.mp (Option.mem_toList.mp hm)
    exact .string p

end DeltaChange

/-! ## Objects -/

namespace SnapshotObject

def fields (o : SnapshotObject) : List (RecordField SnapshotObject) :=
  [⟨"object_type", .string o.objectType, fun x => { x with objectType := o.objectType }⟩,
    ⟨"primary_key", .string o.primaryKey, fun x => { x with primaryKey := o.primaryKey }⟩,
    ⟨"payload", .string o.payload, fun x => { x with payload := o.payload }⟩]

theorem knownTo_of_mem (o : SnapshotObject) : ∀ f ∈ o.fields, f.KnownTo members := by
  intro f hf
  simp only [fields, List.mem_cons, List.not_mem_nil, or_false] at hf
  rcases hf with rfl | rfl | rfl <;>
    exact ⟨_, rfl, fun rest _ => Member.read_ofReader (readString_writeString _ rest)⟩

theorem read_toValue (o : SnapshotObject) :
    readAll SnapshotObject.read o.toValue.text = .ok o := by
  have distinct : ["object_type", "primary_key", "payload"].Nodup := by decide
  apply readAll_eq_ok
  exact readRecord_write o.knownTo_of_mem distinct rfl _ []

theorem fits (o : SnapshotObject) : o.toValue.Fits := by
  refine .object ?_
  intro m hm
  simp only [List.mem_cons, List.not_mem_nil, or_false] at hm
  rcases hm with rfl | rfl | rfl <;> exact .string _

end SnapshotObject

/-! ## Versions -/

namespace VersionInfo

def fields (v : VersionInfo) : List (RecordField VersionInfo) :=
  [⟨"id", .number v.id, fun w => { w with id := v.id }⟩,
    ⟨"source", .string v.source.name, fun w => { w with source := v.source }⟩,
    ⟨"version", .number v.version, fun w => { w with version := v.version }⟩,
    ⟨"kind", .string v.kind.text, fun w => { w with kind := v.kind }⟩,
    ⟨"last_serial_id", .number v.lastSerial, fun w => { w with lastSerial := v.lastSerial }⟩,
    ⟨"session_id", .string v.session, fun w => { w with session := v.session }⟩,
    ⟨"created_at", .number v.createdAt, fun w => { w with createdAt := v.createdAt }⟩]

theorem readSource_writeString (source : Source) (rest : List Char) :
    readSource (writeString source.name ++ rest) = .ok (source, rest) := by
  rw [readSource, readString_writeString]
  rfl

theorem Bounded.knownTo_of_mem {v : VersionInfo} (h : v.Bounded) :
    ∀ f ∈ v.fields, f.KnownTo members := by
  have kind : (DocumentKind.ofText v.kind.text).toOption = some v.kind := by
    rw [DocumentKind.ofText_text]
    rfl
  intro f hf
  simp only [fields, List.mem_cons, List.not_mem_nil, or_false] at hf
  rcases hf with rfl | rfl | rfl | rfl | rfl | rfl | rfl
  · exact ⟨_, rfl, fun rest ends => Member.read_ofReader (h.id.readInt64_writeInt ends)⟩
  · exact ⟨_, rfl, fun rest _ => Member.read_ofReader (readSource_writeString _ rest)⟩
  · exact ⟨_, rfl, fun rest ends => Member.read_ofReader (h.version.readInt64_writeInt ends)⟩
  · exact ⟨_, rfl, fun rest _ => Member.read_ofReader (readWord_writeString kind rest)⟩
  · exact ⟨_, rfl, fun rest ends => Member.read_ofReader (h.lastSerial.readInt64_writeInt ends)⟩
  · exact ⟨_, rfl, fun rest _ => Member.read_ofReader (readString_writeString _ rest)⟩
  · exact ⟨_, rfl, fun rest ends => Member.read_ofReader (h.createdAt.readInt64_writeInt ends)⟩

/-- A version is read back from its text. -/
theorem Bounded.read_toValue {v : VersionInfo} (h : v.Bounded) :
    readAll VersionInfo.read v.toValue.text = .ok v := by
  have distinct : ["id", "source", "version", "kind", "last_serial_id", "session_id",
      "created_at"].Nodup := by decide
  apply readAll_eq_ok
  exact readRecord_write h.knownTo_of_mem distinct rfl _ []

end VersionInfo

/-! ## Documents -/

/-- Items that are read back one by one give back the list. -/
theorem mapM_read {α : Type} {reader : Reader α} {toValue : α → Value}
    (read : ∀ x, readAll reader (toValue x).text = .ok x) (xs : List α) :
    (xs.map toValue).mapM (fun item => readAll reader item.text) = .ok xs := by
  rw [List.mapM_map]
  have each : (fun item => readAll reader item.text) ∘ toValue = fun x => pure (id x) :=
    funext read
  rw [each, List.mapM_pure, List.map_id]
  rfl

theorem DocumentBody.fits (body : DocumentBody) : body.toMember.2.Fits := by
  cases body with
  | changes cs =>
    refine .list ?_
    intro v hv
    obtain ⟨c, -, rfl⟩ := List.mem_map.mp hv
    exact c.fits
  | objects os =>
    refine .list ?_
    intro v hv
    obtain ⟨o, -, rfl⟩ := List.mem_map.mp hv
    exact o.fits

theorem Document.fits {d : Document} (h : d.info.Bounded) : d.toValue.Fits := by
  refine .object ?_
  intro m hm
  simp only [List.mem_cons, List.not_mem_nil, or_false] at hm
  rcases hm with rfl | rfl | rfl | rfl | rfl | rfl | rfl | rfl
  · exact .number (by decide) (by decide)
  · exact .string _
  · exact .string _
  · exact h.version.fits
  · exact h.lastSerial.fits
  · exact .string _
  · exact h.createdAt.fits
  · exact d.body.fits

theorem Document.ofText_text {d : Document} (h : d.info.Bounded) :
    Value.ofText d.text = .ok d.toValue := Value.ofText_text (Document.fits h)

/-- Lists with the same items are the same list. -/
theorem map_toValue_injective {α : Type} {reader : Reader α} {toValue : α → Value}
    (read : ∀ x, readAll reader (toValue x).text = .ok x) {xs ys : List α}
    (same : xs.map toValue = ys.map toValue) : xs = ys := by
  have first := mapM_read read xs
  rw [same, mapM_read read ys] at first
  exact (Except.ok.inj first).symm

theorem DocumentBody.toMember_injective {a b : DocumentBody} (same : a.toMember = b.toMember) :
    a = b := by
  obtain ⟨names, lists⟩ := Prod.mk.inj same
  cases a with
  | changes cs =>
    cases b with
    | changes ds => rw [map_toValue_injective DeltaChange.read_toValue (Value.list.inj lists)]
    | objects os => exact absurd (show "changes" = "objects" from names) (by decide)
  | objects os =>
    cases b with
    | changes cs => exact absurd (show "objects" = "changes" from names) (by decide)
    | objects ps => rw [map_toValue_injective SnapshotObject.read_toValue (Value.list.inj lists)]

theorem DocumentKind.text_injective {a b : DocumentKind} (same : a.text = b.text) : a = b := by
  have read := ofText_text a
  rw [same, ofText_text] at read
  exact (Except.ok.inj read).symm

/-- All that a document shows. -/
theorem Document.parts_eq {a b : Document} (same : a.toValue = b.toValue) :
    a.info.kind = b.info.kind ∧ a.info.source = b.info.source ∧
      a.info.version = b.info.version ∧ a.info.lastSerial = b.info.lastSerial ∧
      a.info.session = b.info.session ∧ a.info.createdAt = b.info.createdAt ∧ a.body = b.body := by
  simp only [toValue, Value.object.injEq, List.cons.injEq, Prod.mk.injEq, Value.string.injEq,
    Value.number.injEq, true_and, and_true] at same
  obtain ⟨kind, source, version, lastSerial, session, createdAt, body⟩ := same
  refine ⟨DocumentKind.text_injective kind, ?_, version, lastSerial, session, createdAt,
    DocumentBody.toMember_injective body⟩
  cases h : a.info.source
  cases k : b.info.source
  rw [h, k] at source
  exact congrArg Source.mk source

/-- The text of a document is an object of eight members that show its version and list its records,
and every record is read back from its item, a missing payload as missing; so documents of one text
show the same. The text of a version is read back as the version. -/
theorem documents_read_back :
    (∀ (v : VersionInfo) (cs : List DeltaChange), v.Bounded → ∃ items,
      Value.ofText (Document.mk v (.changes cs)).text = .ok (.object
        [("nrtm_version", .number 4), ("type", .string v.kind.text),
          ("source", .string v.source.name), ("version", .number v.version),
          ("last_serial_id", .number v.lastSerial), ("session_id", .string v.session),
          ("created_at", .number v.createdAt), ("changes", .list items)]) ∧
      items.mapM (fun item => readAll DeltaChange.read item.text) = .ok cs ∧
      items.map (·.has "payload") = cs.map (·.payload.isSome)) ∧
    (∀ (v : VersionInfo) (os : List SnapshotObject), v.Bounded → ∃ items,
      Value.ofText (Document.mk v (.objects os)).text = .ok (.object
        [("nrtm_version", .number 4), ("type", .string v.kind.text),
          ("source", .string v.source.name), ("version", .number v.version),
          ("last_serial_id", .number v.lastSerial), ("session_id", .string v.session),
          ("created_at", .number v.createdAt), ("objects", .list items)]) ∧
      items.mapM (fun item => readAll SnapshotObject.read item.text) = .ok os) ∧
    (∀ a b : Document, a.info.Bounded → b.info.Bounded → a.text = b.text →
      a.info.kind = b.info.kind ∧ a.info.source = b.info.source ∧
        a.info.version = b.info.version ∧ a.info.lastSerial = b.info.lastSerial ∧
        a.info.session = b.info.session ∧ a.info.createdAt = b.info.createdAt ∧
        a.body = b.body) ∧
    ∀ v : VersionInfo, v.Bounded → readAll VersionInfo.read v.toValue.text = .ok v := by
  refine ⟨?_, ?_, ?_, ?_⟩
  · intro v cs bounded
    refine ⟨cs.map (·.toValue), ?_, mapM_read DeltaChange.read_toValue cs, ?_⟩
    · exact Document.ofText_text (d := ⟨v, .changes cs⟩) bounded
    · rw [List.map_map]
      exact List.map_congr_left fun c _ => c.has_payload
  · intro v os bounded
    refine ⟨os.map (·.toValue), ?_, mapM_read SnapshotObject.read_toValue os⟩
    exact Document.ofText_text (d := ⟨v, .objects os⟩) bounded
  · intro a b here there same
    exact Document.parts_eq (Value.text_injective (Document.fits here) (Document.fits there) same)
  · intro v bounded
    exact bounded.read_toValue

/-- A version at both ends of its integers, with texts that need escapes. -/
def extremeVersion : VersionInfo :=
  ⟨Text.maxInt64, ⟨"\x00\"\\"⟩, Text.minInt64, .delta, Text.maxInt64, "\x1f\n\u2028", 0⟩

theorem extremeVersion_bounded : extremeVersion.Bounded :=
  ⟨by decide, by decide, by decide, by decide⟩

theorem documents_of_extremeVersion : extremeVersion.Bounded ∧
    readAll VersionInfo.read extremeVersion.toValue.text = .ok extremeVersion ∧
    ∃ items, Value.ofText (Document.mk extremeVersion (.changes [⟨.delete, "\t", "/", none⟩])).text =
      .ok (.object [("nrtm_version", .number 4), ("type", .string "delta"),
        ("source", .string "\x00\"\\"), ("version", .number Text.minInt64),
        ("last_serial_id", .number Text.maxInt64), ("session_id", .string "\x1f\n\u2028"),
        ("created_at", .number 0), ("changes", .list items)]) ∧
      items.map (·.has "payload") = [false] := by
  obtain ⟨changes, -, -, version⟩ := documents_read_back
  obtain ⟨items, read, -, payloads⟩ := changes extremeVersion [⟨.delete, "\t", "/", none⟩]
    extremeVersion_bounded
  exact ⟨extremeVersion_bounded, version _ extremeVersion_bounded, items, read, payloads⟩

end RegistryFeed
