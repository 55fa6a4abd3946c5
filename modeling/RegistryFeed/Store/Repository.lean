import RegistryFeed.Store.Versions

/-! # The repository of versions

Callers insert versions in transactions, one transaction at a time. A call begins the chain of a
source or continues a chain after a version that the caller has read, now or long ago. What a
transaction has inserted counts once it is committed, and is lost if it is rolled back; a version
that is saved at once is a call and a commit. -/
namespace RegistryFeed

/-- A request for a new version. -/
inductive VersionCall
  | first (source : Source) (session : String) (lastSerial now : Int)
  | next (previous : VersionInfo) (lastSerial now : Int)
deriving DecidableEq, Repr

/-- The version that is asked for, in the row with the given number. -/
def VersionCall.info (id : Int) : VersionCall → VersionInfo
  | .first source session lastSerial now => ⟨id, source, 1, .snapshot, lastSerial, session, now⟩
  | .next previous lastSerial now =>
    ⟨id, previous.source, previous.version + 1, .delta, lastSerial, previous.session, now⟩

/-- The version that is inserted, with the store that has it, or the reason why none is. -/
def Store.answer (s : Store) : VersionCall → Except EngineError (VersionInfo × Store)
  | .first source session lastSerial now => s.insertFirst source session lastSerial now
  | .next previous lastSerial now => s.insertNext previous lastSerial now

/-- The store as it is committed, and as the transaction at hand sees it. -/
structure Repository where
  committed : Store
  working : Store
deriving DecidableEq, Repr

namespace Repository

def create (s : Store) : Repository := ⟨s, s⟩

inductive Event
  | call (c : VersionCall)
  | commit
  | rollback
deriving DecidableEq, Repr

def step (r : Repository) : Event → Repository
  | .call c =>
    match r.working.answer c with
    | .ok (_, s) => { r with working := s }
    | .error _ => r
  | .commit => { r with committed := r.working }
  | .rollback => { r with working := r.committed }

def run (r : Repository) (es : List Event) : Repository := es.foldl step r

/-- Each version that a call continues has been read from a row: from one that was committed by
then, or from one that the transaction sees. -/
def Informed (r : Repository) (es : List Event) : Prop :=
  ∀ before previous lastSerial now after,
    es = before ++ .call (.next previous lastSerial now) :: after →
    (∃ earlier, earlier <+: before ∧
      ∃ row ∈ (r.run earlier).committed.versions, row.info = .ok previous) ∨
    ∃ row ∈ (r.run before).working.versions, row.info = .ok previous

end Repository

end RegistryFeed
