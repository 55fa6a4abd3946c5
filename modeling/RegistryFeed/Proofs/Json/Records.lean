import RegistryFeed.Json.Record
import RegistryFeed.Proofs.Json.Values

/-!
# Records that were written

An object is read back as a record if the reader of each of its members reads what
was written there. The members may be written in any order, none of them twice,
and those that are required have to be among them; each makes its change to the
record that the reader starts from, and one that is left out makes none.
-/

namespace RegistryFeed.Json

variable {σ : Type} {members : List (Member σ)}

theorem Member.read_ofReader {α : Type} {name : String} {required : Bool} {reader : Reader α}
    {change : α → σ → σ} {cs rest : List Char} {x : α} (read : reader cs = .ok (x, rest)) :
    (Member.ofReader name required reader change).read cs = .ok (change x, rest) := by
  simp only [ofReader, read]
  rfl

/-- A member as it is written, and the change that reading it makes. -/
structure RecordField (σ : Type) where
  name : String
  value : Value
  change : σ → σ

namespace RecordField

def toMember (f : RecordField σ) : String × Value := (f.name, f.value)

/-- One of the members has the name, and it reads the value as the change. -/
def KnownTo (members : List (Member σ)) (f : RecordField σ) : Prop :=
  ∃ m, members.find? (·.name == f.name) = some m ∧
    ∀ rest, Closes rest → m.read (f.value.write ++ rest) = .ok (f.change, rest)

/-- The record that the members make of another one. -/
def applyAll (fields : List (RecordField σ)) (record : σ) : σ :=
  fields.foldl (fun r f => f.change r) record

end RecordField

/-- The induction is on the members still to be read; `seen` are the names of those before. -/
theorem readMembers_membersFrom {fields : List (RecordField σ)}
    (known : ∀ f ∈ fields, f.KnownTo members) (distinct : (fields.map (·.name)).Nodup)
    {seen : List String} (unseen : ∀ f ∈ fields, f.name ∉ seen)
    (whole : complete members ((fields.map (·.name)).reverse ++ seen) = true)
    {fuel : Nat} (enough : fields.length < fuel) (first : Bool) (record : σ) (rest : List Char) :
    readMembers members fuel first seen record
        (membersFrom first (fields.map (·.toMember)) ++ rest) =
      .ok (RecordField.applyAll fields record, rest) := by
  induction fields generalizing fuel first seen record with
  | nil =>
    obtain ⟨fuel, rfl⟩ := Nat.exists_eq_add_one_of_ne_zero (Nat.ne_zero_of_lt enough)
    rw [List.map_nil, membersFrom, readMembers.eq_def]
    simp only [List.map_nil, List.reverse_nil, List.nil_append] at whole
    simp only [List.singleton_append, skipGap_cons (show isGap '\x7d' = false from rfl), whole,
      if_true]
    rfl
  | cons f fields ih =>
    obtain ⟨fuel, rfl⟩ := Nat.exists_eq_add_one_of_ne_zero (Nat.ne_zero_of_lt enough)
    obtain ⟨m, found, one⟩ := known f List.mem_cons_self
    have new : seen.contains f.name = false := by
      simpa using unseen f List.mem_cons_self
    obtain ⟨once, others⟩ := List.nodup_cons.mp distinct
    have later : ∀ g ∈ fields, g.name ∉ f.name :: seen := by
      intro g hg again
      rcases List.mem_cons.mp again with same | again
      · exact once (List.mem_map.mpr ⟨g, hg, same⟩)
      · exact unseen g (List.mem_cons_of_mem f hg) again
    have all : complete members ((fields.map (·.name)).reverse ++ f.name :: seen) = true := by
      rw [List.map_cons, List.reverse_cons, List.append_assoc] at whole
      exact whole
    have read := one _ (closes_membersFrom (fields.map (·.toMember)) rest)
    have more := ih (fun g hg => known g (List.mem_cons_of_mem f hg)) others later all
      (Nat.lt_of_succ_lt_succ enough) false (f.change record)
    have key := readQuoted_escaped f.name
      (':' :: (f.value.write ++ (membersFrom false (fields.map (·.toMember)) ++ rest)))
    have text : membersFrom first ((f :: fields).map (·.toMember)) ++ rest = lead first ++ '"' ::
        (f.name.toList.flatMap escapeChar ++ '"' :: ':' ::
          (f.value.write ++ (membersFrom false (fields.map (·.toMember)) ++ rest))) := by
      simp [membersFrom, writeString, RecordField.toMember]
    rw [text, readMembers.eq_def]
    cases first with
    | true =>
      rw [lead, if_pos rfl, List.nil_append]
      simp only [skipGap_cons (show isGap '"' = false from rfl), if_true, key, bind, Except.bind,
        found, new, Bool.false_eq_true, if_false, readColon_cons, read, more]
      rfl
    | false =>
      rw [lead, if_neg Bool.false_ne_true, List.singleton_append]
      simp only [skipGap_cons (show isGap ',' = false from rfl),
        skipGap_cons (show isGap '"' = false from rfl), Bool.false_eq_true, if_false, key, bind,
        Except.bind, found, new, readColon_cons, read, more]
      rfl

/-- An object of known members is read back as the record that they make. -/
theorem readRecord_write {fields : List (RecordField σ)}
    (known : ∀ f ∈ fields, f.KnownTo members) (distinct : (fields.map (·.name)).Nodup)
    (whole : complete members (fields.map (·.name)).reverse = true) (initial : σ)
    (rest : List Char) :
    readRecord members initial ((Value.object (fields.map (·.toMember))).write ++ rest) =
      .ok (RecordField.applyAll fields initial, rest) := by
  rw [Value.write, writeMembers_eq, List.cons_append, readRecord,
    skipGap_cons (show isGap '\x7b' = false from rfl)]
  apply readMembers_membersFrom known distinct
  · intro f _ seen
    cases seen
  · rw [List.append_nil]
    exact whole
  · have long := length_lt_membersFrom true (fields.map (·.toMember))
    rw [List.length_map] at long
    rw [List.length_append]
    omega

/-! ## Members that may be left out -/

/-- A member with a name of its own, and what is written and read for it if it is there. -/
structure Slot (σ : Type) where
  name : String
  given : Option (Value × (σ → σ))

namespace Slot

/-- A member for which there may be a value. -/
def ofOption {α : Type} (name : String) (write : α → Value) (change : α → σ → σ) (x : Option α) :
    Slot σ :=
  ⟨name, x.map fun x => (write x, change x)⟩

def field? (s : Slot σ) : Option (RecordField σ) := s.given.map fun g => ⟨s.name, g.1, g.2⟩

def toMembers (s : Slot σ) : List (String × Value) := (s.given.map fun g => (s.name, g.1)).toList

/-- A member that is left out changes nothing. -/
def apply (s : Slot σ) (record : σ) : σ := (s.given.map fun g => g.2 record).getD record

/-- The member reads what is written for it, if anything is. -/
def KnownTo (members : List (Member σ)) (s : Slot σ) : Prop := ∀ f ∈ s.field?, f.KnownTo members

theorem knownTo_ofOption {α : Type} {name : String} {m : Member σ} {write : α → Value}
    {change : α → σ → σ} {x : Option α} (found : members.find? (·.name == name) = some m)
    (read : ∀ y ∈ x, ∀ rest, Closes rest →
      m.read ((write y).write ++ rest) = .ok (change y, rest)) :
    (ofOption name write change x).KnownTo members := by
  intro f hf
  cases x with
  | none => cases hf
  | some y =>
    obtain rfl := Option.some.inj hf
    exact ⟨m, found, read y rfl⟩

/-- Members that are left out take no name twice. -/
theorem names_sublist (slots : List (Slot σ)) :
    ((slots.filterMap field?).map (·.name)).Sublist (slots.map (·.name)) := by
  induction slots with
  | nil => exact .slnil
  | cons s slots ih =>
    obtain ⟨name, given⟩ := s
    cases given with
    | none => exact ih.cons name
    | some g => exact ih.cons_cons name

theorem flatMap_toMembers (slots : List (Slot σ)) :
    slots.flatMap toMembers = (slots.filterMap field?).map (·.toMember) := by
  induction slots with
  | nil => rfl
  | cons s slots ih =>
    obtain ⟨name, given⟩ := s
    rw [List.flatMap_cons, ih]
    cases given <;> rfl

theorem foldl_apply (slots : List (Slot σ)) (record : σ) :
    slots.foldl (fun r s => s.apply r) record =
      RecordField.applyAll (slots.filterMap field?) record := by
  induction slots generalizing record with
  | nil => rfl
  | cons s slots ih =>
    obtain ⟨name, given⟩ := s
    rw [List.foldl_cons, ih]
    cases given <;> rfl

end Slot

/-- An object is read back with any of its members left out that are not required. -/
theorem readRecord_slots {slots : List (Slot σ)} (known : ∀ s ∈ slots, s.KnownTo members)
    (distinct : (slots.map (·.name)).Nodup)
    (whole : ∀ m ∈ members, m.required → ∃ s ∈ slots, s.name = m.name ∧ s.given.isSome)
    (initial : σ) (rest : List Char) :
    readRecord members initial ((Value.object (slots.flatMap (·.toMembers))).write ++ rest) =
      .ok (slots.foldl (fun r s => s.apply r) initial, rest) := by
  rw [Slot.flatMap_toMembers, Slot.foldl_apply]
  apply readRecord_write
  · intro f hf
    obtain ⟨s, hs, given⟩ := List.mem_filterMap.mp hf
    exact known s hs f given
  · exact distinct.sublist (Slot.names_sublist slots)
  · rw [complete, List.all_eq_true]
    intro m hm
    by_cases required : m.required
    · obtain ⟨s, hs, name, given⟩ := whole m hm required
      obtain ⟨g, there⟩ := Option.isSome_iff_exists.mp given
      have field : s.field? = some ⟨s.name, g.1, g.2⟩ := by
        rw [Slot.field?, there]
        rfl
      have mem := List.mem_map_of_mem (f := (·.name)) (List.mem_filterMap.mpr ⟨s, hs, field⟩)
      simpa [required, ← name] using mem
    · simp [required]

end RegistryFeed.Json
