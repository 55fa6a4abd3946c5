import RegistryFeed.Change.Entry
import RegistryFeed.Publication.Record
import RegistryFeed.Text.Ascii

/-! # What is published

Some object types are never published, and a change of an object whose text is missing is dropped
unless it deletes the object. Dropping says nothing: the lists are only shorter. A delta keeps the
order of the log; a snapshot is the state after all changes, in the order of type and key. -/
namespace RegistryFeed

/-- The types that are not published, in lower case. -/
structure PublicationFilter where
  excluded : List String
deriving DecidableEq, Repr

/-- Objects by type and key, in strictly ascending order of both. -/
abbrev ObjectMap := List ((String × String) × String)

namespace ObjectMap

/-- The order of types, then keys, each by code points. -/
def before (a b : String × String) : Bool := a.1 < b.1 || (a.1 == b.1 && a.2 < b.2)

def insert (key : String × String) (payload : String) : ObjectMap → ObjectMap
  | [] => [(key, payload)]
  | (k, p) :: rest =>
    if k = key then (key, payload) :: rest
    else if before key k then (key, payload) :: (k, p) :: rest
    else (k, p) :: insert key payload rest

def erase (key : String × String) (m : ObjectMap) : ObjectMap := m.filter fun e => e.1 ≠ key

/-- The text of an object. -/
def get? (m : ObjectMap) (key : String × String) : Option String := m.lookup key

theorem get?_cons (e : (String × String) × String) (m : ObjectMap) (key : String × String) :
    get? (e :: m) key = if key = e.1 then some e.2 else get? m key := by
  obtain ⟨k, p⟩ := e
  by_cases h : key = k
  · simp [get?, h]
  · have : (key == k) = false := by simpa using h
    simp [get?, List.lookup_cons, h, this]

theorem get?_insert (m : ObjectMap) (key other : String × String) (payload : String) :
    (m.insert key payload).get? other = if other = key then some payload else m.get? other := by
  induction m with
  | nil => rw [insert, get?_cons]
  | cons e rest ih =>
    simp only [insert]
    split
    · next same =>
      simp only [get?_cons, same]
      split <;> rfl
    · next other' =>
      split
      · simp only [get?_cons]
      · simp only [get?_cons, ih]
        split
        · next first =>
          have : other ≠ key := fun h => other' (first.symm.trans h)
          simp [this]
        · rfl

theorem get?_erase (m : ObjectMap) (key other : String × String) :
    (m.erase key).get? other = if other = key then none else m.get? other := by
  induction m with
  | nil => simp [erase, get?]
  | cons e rest ih =>
    simp only [erase] at ih ⊢
    by_cases same : e.1 = key
    · rw [List.filter_cons_of_neg (by simpa using same), ih]
      split
      · rfl
      · next h => simp [get?_cons, same, h]
    · rw [List.filter_cons_of_pos (by simpa using same), get?_cons, get?_cons, ih]
      split
      · next first =>
        have : other ≠ key := fun h => same (first.symm.trans h)
        simp [this]
      · rfl

def objects (m : ObjectMap) : List SnapshotObject := m.map fun e => ⟨e.1.1, e.1.2, e.2⟩

end ObjectMap

namespace PublicationFilter

/-- Types of personal data. -/
def defaultExcluded : List String := ["person", "role"]

def ofTypes (types : List String) : PublicationFilter := ⟨types.map Text.lowercase⟩

def default : PublicationFilter := ofTypes defaultExcluded

def publishes (f : PublicationFilter) (objectType : String) : Bool :=
  !f.excluded.contains (Text.lowercase objectType)

/-- The change an entry publishes, if any. -/
def change? (f : PublicationFilter) (e : Entry) : Option DeltaChange :=
  if !f.publishes e.objectType then none
  else if e.operation.isDelete then some ⟨e.operation, e.objectType, e.primaryKey, none⟩
  else e.payload.map fun p => ⟨e.operation, e.objectType, e.primaryKey, some p⟩

def changes (f : PublicationFilter) (es : List Entry) : List DeltaChange := es.filterMap f.change?

/-- The objects after one more entry. -/
def fold (f : PublicationFilter) (m : ObjectMap) (e : Entry) : ObjectMap :=
  if !f.publishes e.objectType then m
  else if e.operation.isDelete then m.erase (e.objectType, e.primaryKey)
  else match e.payload with
    | some p => m.insert (e.objectType, e.primaryKey) p
    | none => m

def objects (f : PublicationFilter) (es : List Entry) : List SnapshotObject :=
  ObjectMap.objects (es.foldl f.fold [])

end PublicationFilter

end RegistryFeed
