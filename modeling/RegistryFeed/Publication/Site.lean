import RegistryFeed.Change.MemoryLog
import RegistryFeed.Publication.Generation

/-! # Where generators work

A store, a clock, and perhaps a change log or a lock manager other than the store's own. One step of
a generator is one action here, so generators on one site can be interleaved step by step. -/
namespace RegistryFeed

/-- How a lock manager under a script answers a try. -/
inductive ScriptedTry
  | granted
  | busy
  | failing
deriving DecidableEq, Repr

/-- What a lock manager was asked for. -/
inductive LockCall
  | acquire (name : String) (ttl : Span) (time : Span)
  | release (name : String)
deriving DecidableEq, Repr

/-- A lock manager that answers from a script, and grants every try when the script is used up. The
newest call comes first. -/
structure LockScript where
  answers : List ScriptedTry
  releaseFails : Bool
  calls : List LockCall
deriving DecidableEq, Repr

namespace LockScript

def tryAcquire (s : LockScript) (name : String) (ttl now : Span) :
    Except EngineError (Option Lease) × LockScript :=
  let called := { s with answers := s.answers.tail, calls := .acquire name ttl now :: s.calls }
  let result : Except EngineError (Option Lease) := match s.answers.head? with
    | none | some .granted => .ok (some ⟨name, "script", 0⟩)
    | some .busy => .ok none
    | some .failing => .error (.internal (.other "simulated lock failure"))
  (result, called)

def release (s : LockScript) (lease : Lease) : LockScript :=
  { s with calls := .release lease.name :: s.calls }

end LockScript

/-- A store, with the change log and the lock manager that generators use where these are not its
own. New versions get the stamp as their time; owners are numbered as they try a lock of the
store. -/
structure Site where
  store : Store
  memory : Option MemoryLog
  script : Option LockScript
  clock : Span
  stamp : Int
  owners : Nat
deriving Repr

namespace Site

def epochMillis (site : Site) : Int := site.clock.millis

def ownerName (n : Nat) : String := "owner-" ++ Text.decimalNat n

/-- Tries a lock for a new owner. -/
def tryLock (site : Site) (name : String) (ttl : Span) :
    Except EngineError (Option Lease) × Site :=
  match site.script with
  | some script =>
    let (result, script) := script.tryAcquire name ttl site.clock
    (result, { site with script := some script })
  | none =>
    let (result, store) :=
      site.store.tryAcquire name (ownerName site.owners) ttl site.epochMillis
    (.ok result, { site with store := store, owners := site.owners + 1 })

def releaseLock (site : Site) (lease : Lease) : Site :=
  match site.script with
  | some script => { site with script := some (script.release lease) }
  | none => { site with store := site.store.release lease }

def entriesSince (site : Site) (source : Source) (after : Int) :
    Except EngineError (List Entry) × Site :=
  match site.memory with
  | some log =>
    let (result, log) := log.entriesSince source after
    (result, { site with memory := some log })
  | none => (site.store.entriesSince source after, site)

/-- The clock goes on by a sleep, which ends on a whole millisecond. Asking the store takes time
too, so that a millisecond goes by in any case between two tries of its locks. -/
def sleep (site : Site) (delay : Span) : Site :=
  let least := if site.script.isSome then 0 else 1
  { site with clock := site.clock.add (.ofMillis (max least delay.timer.ceilMillis)) }

/-- One try of a wait for a lock that began at a time, or one sleep. -/
def waitStep (site : Site) (startedAt : Span) (w : LockWait) : LockWait × Site :=
  match w.phase with
  | .trying =>
    let (result, site) := site.tryLock w.name w.ttl
    (w.tried (site.clock.sub startedAt) result, site)
  | .sleeping delay => (w.woken, site.sleep delay)
  | _ => (w, site)

/-- Waits for a lock until the wait ends or the fuel does. -/
def runWait (startedAt : Span) : Nat → LockWait → Site → LockWait × Site
  | 0, w, site => (w, site)
  | fuel + 1, w, site =>
    match w.phase with
    | .trying | .sleeping _ =>
      let (w, site) := site.waitStep startedAt w
      runWait startedAt fuel w site
    | _ => (w, site)

/-- One step of a generator that began at a time. -/
def step (site : Site) (startedAt : Span) (g : Generation) : Generation × Site :=
  match g.phase with
  | .locking w => match w.phase with
    | .trying =>
      let (result, site) := site.tryLock w.name w.ttl
      (g.lockTried (site.clock.sub startedAt) result, site)
    | .sleeping delay => (g.woken, site.sleep delay)
    | _ => (g, site)
  | .finding _ => (g.found (site.store.findLast g.source), site)
  | .reading _ previous =>
    let (result, site) := site.entriesSince g.source (Generation.position previous)
    (g.read result, site)
  | .committing _ publishing =>
    match g.commit publishing site.store site.stamp with
    | .ok (d, store) => (g.committed (.ok d), { site with store := store })
    | .error error => (g.committed (.error error), site)
  | .releasing lease _ => (g.released, site.releaseLock lease)
  | .ended _ | .fatal _ => (g, site)

/-- Runs a generator alone until it ends or the fuel does. -/
def run (startedAt : Span) : Nat → Generation → Site → Generation × Site
  | 0, g, site => (g, site)
  | fuel + 1, g, site =>
    match g.phase with
    | .ended _ | .fatal _ => (g, site)
    | _ =>
      let (g, site) := site.step startedAt g
      run startedAt fuel g site

/-- Enough steps for a generator whose sleeps each take a millisecond or more. -/
def stepsFor (settings : GenerationSettings) : Nat := 2 * settings.wait.ceilMillis + 16

/-- Generates a version of a source, alone on the site. -/
def generate (site : Site) (kind : DocumentKind) (source : Source) (filter : PublicationFilter)
    (settings : GenerationSettings) (session : String) : Generation × Site :=
  run site.clock (stepsFor settings) (.create kind source filter settings session) site

end Site

end RegistryFeed
