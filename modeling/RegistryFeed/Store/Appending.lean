import RegistryFeed.Store.ChangeLog

/-! # Appending to the store

Changes of any sources, recorded one after another, and the list of entries that stands for the log
of one source: its own changes, numbered from one. A reader goes through the log page by page, each
page from the last serial of the page before, until a page is empty. -/
namespace RegistryFeed

/-- A change that has been committed and has no serial yet. -/
structure Change where
  source : Source
  operation : Operation
  objectType : String
  primaryKey : String
  payload : Option String
  committedAt : Int
deriving DecidableEq, Repr

def Change.entry (c : Change) (serial : Int) : Entry :=
  ⟨serial, c.operation, c.objectType, c.primaryKey, c.payload, c.committedAt⟩

/-- The entries of a source: its changes in their order, under the serials from one on. -/
def listed (source : Source) (cs : List Change) : List Entry :=
  (cs.filter fun c => c.source = source).mapIdx fun k c => c.entry (k + 1)

namespace Store

def record (s : Store) (c : Change) : Entry × Store :=
  s.append c.source c.operation c.objectType c.primaryKey c.payload c.committedAt

/-- Records changes one after another. -/
def recordAll (s : Store) (cs : List Change) : Store := cs.foldl (fun s c => (s.record c).2) s

/-- The entries after a position, in pages of the given sizes; an empty page is the last one. -/
def readPages (s : Store) (source : Source) (after : Int) :
    List Nat → Except EngineError (List Entry)
  | [] => .ok []
  | max :: more => do
    let es ← s.page source after max
    match es.getLast? with
    | some last => return es ++ (← s.readPages source last.serial more)
    | none => return []

end Store

end RegistryFeed
