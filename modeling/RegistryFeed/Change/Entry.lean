import RegistryFeed.Change.Operation

/-! # Changes

The change log of a source is a sequence of committed changes. Each has a serial that is greater
than those of all changes committed before it; serials may have gaps. -/
namespace RegistryFeed

/-- The position before every serial, zero included. -/
def beforeFirstSerial : Int := -1

/-- A change to an object, without its text where that could not be resolved; the time is in
milliseconds since the epoch. -/
structure Entry where
  serial : Int
  operation : Operation
  objectType : String
  primaryKey : String
  payload : Option String
  committedAt : Int
deriving DecidableEq, Repr

/-- The first and the last serial a log can serve. -/
structure SerialRange where
  first : Int
  last : Int
deriving DecidableEq, Repr

def SerialRange.contains (r : SerialRange) (serial : Int) : Bool :=
  r.first ≤ serial && serial ≤ r.last

/-- The entries after a position, in the order of the log. -/
def entriesAfter (log : List Entry) (after : Int) : List Entry :=
  log.filter fun e => after < e.serial

/-- From the serial of the first entry to that of the last. -/
def serialRange (log : List Entry) : Option SerialRange :=
  match log.head?, log.getLast? with
  | some a, some b => some ⟨a.serial, b.serial⟩
  | _, _ => none

/-- The serial of the last entry. -/
def lastSerial (log : List Entry) : Option Int := (serialRange log).map (·.last)

/-- The serial that follows the last one. -/
def nextSerial (log : List Entry) : Int :=
  match lastSerial log with
  | some n => n + 1
  | none => 1

end RegistryFeed
