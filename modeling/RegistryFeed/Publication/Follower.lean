import RegistryFeed.Publication.Record

/-! # Followers

A follower keeps a copy of a source: it loads the objects of the snapshot and then makes the changes
of every delta, in the order of the versions. Which documents it has fetched so far does not matter
beyond that. -/
namespace RegistryFeed

/-- A copy of a source: the text that is held for a type and a key, if any. -/
abbrev Holdings := String → String → Option String

namespace Holdings

def empty : Holdings := fun _ _ => none

/-- Holds a text, or nothing, for one type and key; everything else stays. -/
def set (h : Holdings) (objectType primaryKey : String) (payload : Option String) : Holdings :=
  fun t k => if t = objectType ∧ k = primaryKey then payload else h t k

def load (h : Holdings) (o : SnapshotObject) : Holdings :=
  h.set o.objectType o.primaryKey (some o.payload)

/-- A deletion removes the object; any other change sets its text. -/
def make (h : Holdings) (c : DeltaChange) : Holdings :=
  h.set c.objectType c.primaryKey (if c.operation = .delete then none else c.payload)

def ofSnapshot (os : List SnapshotObject) : Holdings := os.foldl load empty

def makeAll (h : Holdings) (cs : List DeltaChange) : Holdings := cs.foldl make h

/-- What a follower holds after a snapshot and some deltas. -/
def follow (snapshot : List SnapshotObject) (deltas : List (List DeltaChange)) : Holdings :=
  deltas.foldl makeAll (ofSnapshot snapshot)

example (p q : String) :
    follow [⟨"route", "k", p⟩] [[⟨.update, "route", "k", some q⟩]] "route" "k" = some q := rfl
example (p : String) :
    follow [⟨"route", "k", p⟩] [[], [⟨.delete, "route", "k", none⟩]] "route" "k" = none := rfl

end Holdings

end RegistryFeed
