import RegistryFeed.Change.Reading

/-! # A change log in memory

Entries of each source in the order in which they were put in. Reading can be made to fail, at once
or after some more reads; the log keeps a record of the reads it was asked for. -/
namespace RegistryFeed

inductive LogHealth
  | working
  | failing
  | workingFor (reads : Nat)
deriving DecidableEq, Repr

/-- A read that a log was asked for. -/
inductive LogRead
  | range (source : Source)
  | entries (source : Source) (after : Int)
deriving DecidableEq, Repr

/-- The newest read comes first. -/
structure MemoryLog where
  entries : List (Source × List Entry)
  versions : List (Source × VersionInfo)
  health : LogHealth
  reads : List LogRead
deriving DecidableEq, Repr

namespace MemoryLog

def empty : MemoryLog := ⟨[], [], .working, []⟩

/-- The failure of every read of a failing log. -/
def failure : EngineError := .internal (.other "simulated change log failure")

def entriesOf (log : MemoryLog) (source : Source) : List Entry :=
  (log.entries.lookup source).getD []

/-- Replaces the entries of a source. -/
def setEntries (log : MemoryLog) (source : Source) (es : List Entry) : MemoryLog :=
  { log with entries := (source, es) :: log.entries.filter fun e => e.1 ≠ source }

/-- Puts an entry at the end, under a serial of its own or else under the next one. -/
def append (log : MemoryLog) (source : Source) (serial : Option Int) (entry : Int → Entry) :
    Int × MemoryLog :=
  let es := log.entriesOf source
  let n := serial.getD (nextSerial es)
  (n, log.setEntries source (es ++ [entry n]))

/-- Takes out all entries below a serial. -/
def trim (log : MemoryLog) (source : Source) (before : Int) : MemoryLog :=
  log.setEntries source ((log.entriesOf source).filter fun e => before ≤ e.serial)

/-- Whether a read succeeds, and the log after it. -/
def beginRead (log : MemoryLog) (read : LogRead) : Bool × MemoryLog :=
  let log := { log with reads := read :: log.reads }
  match log.health with
  | .working => (true, log)
  | .failing | .workingFor 0 => (false, log)
  | .workingFor (n + 1) => (true, { log with health := .workingFor n })

def entriesSince (log : MemoryLog) (source : Source) (after : Int) :
    Except EngineError (List Entry) × MemoryLog :=
  let (good, log) := log.beginRead (.entries source after)
  (if good then .ok (entriesAfter (log.entriesOf source) after) else .error failure, log)

def range (log : MemoryLog) (source : Source) :
    Except EngineError (Option SerialRange) × MemoryLog :=
  let (good, log) := log.beginRead (.range source)
  (if good then .ok (serialRange (log.entriesOf source)) else .error failure, log)

/-- A page is cut from all the entries after its position. -/
def page (log : MemoryLog) (source : Source) (after : Int) (max : Nat) :
    Except EngineError (List Entry) × MemoryLog :=
  let (result, log) := log.entriesSince source after
  (result.map (·.take max), log)

def latestSerial (log : MemoryLog) (source : Source) :
    Except EngineError (Option Int) × MemoryLog :=
  let (result, log) := log.range source
  (result.map fun r => r.map (·.last), log)

/-- Which version was published is told to the log; telling it is no read. -/
def latestVersion (log : MemoryLog) (source : Source) : Option VersionInfo :=
  log.versions.lookup source

def reply (log : MemoryLog) : Reading → Reply × MemoryLog
  | .range source =>
    let (result, log) := log.range source
    (.range result, log)
  | .page source after max =>
    let (result, log) := log.page source after max
    (.page result, log)
  | .latest source => (.latest (.ok (log.latestVersion source)), log)

def source : LogSource MemoryLog := ⟨reply, fun log => (log.entries.flatMap (·.2)).length⟩

end MemoryLog

end RegistryFeed
