import RegistryFeed.Publication.Filter
import RegistryFeed.Publication.LockWait
import RegistryFeed.Settings
import RegistryFeed.Store.Publishing

/-! # Generating a version

A generator publishes the next version of one source: it waits for the lock of the source, finds the
latest version, reads the entries after it, commits, and gives the lock back on every path. Between
any two steps the store may change under it, and its lease may expire. A snapshot is refused where a
chain exists, a delta where none does; a delta without publishable changes is not made. -/
namespace RegistryFeed

/-- What a generator is about to commit. -/
inductive Publishing
  | snapshot (lastSerial : Int) (objects : List SnapshotObject)
  | delta (previous : VersionInfo) (lastSerial : Int) (changes : List DeltaChange)
deriving DecidableEq, Repr

/-- How a generator ends: with an artifact, with nothing to publish, or with a failure. -/
abbrev GenerationResult := Except EngineError (Option Artifact)

inductive Generation.Phase
  | locking (wait : LockWait)
  | finding (lease : Lease)
  | reading (lease : Lease) (previous : Option VersionInfo)
  | committing (lease : Lease) (publishing : Publishing)
  | releasing (lease : Lease) (result : GenerationResult)
  | ended (result : GenerationResult)
  | fatal (cause : Fatal)
deriving Repr

/-- The session is the identifier that a new chain gets. -/
structure Generation where
  kind : DocumentKind
  source : Source
  filter : PublicationFilter
  session : String
  phase : Generation.Phase
  observed : List Observation
deriving Repr

namespace Generation

def create (kind : DocumentKind) (source : Source) (filter : PublicationFilter)
    (settings : GenerationSettings) (session : String) : Generation :=
  ⟨kind, source, filter, session,
    .locking (.create source.lockName settings.lease settings.wait settings.retry), []⟩

def observe (g : Generation) (os : List Observation) : Generation :=
  { g with observed := g.observed ++ os }

/-- Goes on after a step of the wait for the lock. -/
def waited (g : Generation) (w : LockWait) : Generation :=
  let g := g.observe w.observed
  let w := { w with observed := [] }
  match w.phase with
  | .acquired lease => { g with phase := .finding lease }
  | .failed error => { g with phase := .ended (.error error) }
  | .fatal cause => { g with phase := .fatal cause }
  | _ => { g with phase := .locking w }

/-- The lock was tried, so much time after the first try. -/
def lockTried (g : Generation) (elapsed : Span) (result : Except EngineError (Option Lease)) :
    Generation :=
  match g.phase with
  | .locking w => g.waited (w.tried elapsed result)
  | _ => g

/-- A sleep between two tries is over. -/
def woken (g : Generation) : Generation :=
  match g.phase with
  | .locking w => g.waited w.woken
  | _ => g

/-- The latest version was looked up. -/
def found (g : Generation) (result : Except EngineError (Option VersionInfo)) : Generation :=
  match g.phase with
  | .finding lease =>
    let next : Phase := match g.kind, result with
      | _, .error error => .releasing lease (.error error)
      | .snapshot, .ok (some v) =>
        .releasing lease (.error (.snapshotExists g.source.name v.version))
      | .snapshot, .ok none => .reading lease none
      | .delta, .ok (some v) => .reading lease (some v)
      | .delta, .ok none => .releasing lease (.error (.noSnapshot g.source.name))
    { g with phase := next }
  | _ => g

/-- The position after which the generator reads the log. -/
def position : Option VersionInfo → Int
  | some v => v.lastSerial
  | none => beforeFirstSerial

/-- A delta is skipped, for a reason. -/
def skip (g : Generation) (lease : Lease) (reason : String) : Generation :=
  { g.observe [.deltaSkipped g.source.name reason] with phase := .releasing lease (.ok none) }

/-- The log was read. The last entry read gives the serial of the version, published or not. -/
def read (g : Generation) (result : Except EngineError (List Entry)) : Generation :=
  match g.phase with
  | .reading lease previous =>
    match result, previous with
    | .error error, _ => { g with phase := .releasing lease (.error error) }
    | .ok entries, none =>
      let lastSerial := ((entries.getLast?).map (·.serial)).getD beforeFirstSerial
      { g with phase := .committing lease (.snapshot lastSerial (g.filter.objects entries)) }
    | .ok entries, some v =>
      match entries.getLast? with
      | none => g.skip lease "no_changes"
      | some last =>
        let changes := g.filter.changes entries
        if changes.isEmpty then g.skip lease "all_filtered"
        else { g with phase := .committing lease (.delta v last.serial changes) }
  | _ => g

/-- The transaction that the generator is about to commit. -/
def commit (g : Generation) (p : Publishing) (s : Store) (now : Int) :
    Except EngineError (Artifact × Store) :=
  match p with
  | .snapshot lastSerial objects => s.publishSnapshot g.source g.session lastSerial objects now
  | .delta previous lastSerial changes => s.publishDelta previous lastSerial changes now

def generatedObservation (d : Document) : Observation :=
  match d.body with
  | .changes cs => .deltaGenerated d.info.source.name d.info.version cs.length .zero
  | .objects os => .snapshotGenerated d.info.source.name os.length .zero

/-- The transaction was committed, or failed and left nothing behind. -/
def committed (g : Generation) (result : Except EngineError Artifact) : Generation :=
  match g.phase, result with
  | .committing lease _, .ok a =>
    { g.observe [generatedObservation a.toDocument] with phase := .releasing lease (.ok (some a)) }
  | .committing lease _, .error error => { g with phase := .releasing lease (.error error) }
  | _, _ => g

/-- The lock was given back. Whether that succeeded does not matter: a lease expires by itself. -/
def released (g : Generation) : Generation :=
  match g.phase with
  | .releasing _ result => { g with phase := .ended result }
  | _ => g

/-- How a generator ended. One that waits on for its lock has met another generator. -/
def result (g : Generation) : GenerationResult :=
  match g.phase with
  | .ended result => result
  | .fatal cause => .error (.internal (.other cause.message))
  | _ => .error (.lockContended g.source.lockName)

end Generation

end RegistryFeed
