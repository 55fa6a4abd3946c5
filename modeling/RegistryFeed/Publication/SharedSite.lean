import RegistryFeed.Publication.Site

/-! # Generators on a shared site

Any number of generators work on one site. Each event is one step of one of them, a step that fails
from outside, an entry that some program puts into the log, or time that passes; a generator that
sleeps between two tries of its lock may be woken at any time. Nothing is assumed about the order of
the events. -/
namespace RegistryFeed

namespace Site

/-- The serials of a source, in the order of the log that the generators read. -/
def serials (site : Site) (source : Source) : List Int :=
  match site.memory with
  | some log => (log.entriesOf source).map (·.serial)
  | none => (site.store.rowsOf source).map (·.serial)

/-- The entries of a source that the generators can read. -/
def entriesOf (site : Site) (source : Source) : List Entry :=
  match site.memory with
  | some log => log.entriesOf source
  | none => (site.store.rowsOf source).filterMap fun r => r.entry.toOption

end Site

/-- A generator at work, with the time at which it began. -/
structure Worker where
  startedAt : Span
  generation : Generation
deriving Repr

/-- Workers stand in the order in which they began; those that have ended stay. -/
structure SharedSite where
  site : Site
  workers : List Worker
deriving Repr

namespace SharedSite

/-- A generator begins, takes its next step, or fails at it, since the lock, the store or the log
cannot be used; a change comes to the log under a serial of its own or else under the next one; or
time passes, and new versions get another time. -/
inductive Event
  | begin (kind : DocumentKind) (source : Source) (filter : PublicationFilter)
      (settings : GenerationSettings) (session : String)
  | turn (worker : Nat)
  | fail (worker : Nat) (error : EngineError)
  | append (source : Source) (serial : Option Int) (operation : Operation)
      (objectType primaryKey : String) (payload : Option String)
  | pass (span : Span) (stamp : Int)
deriving Repr

/-- The next step of a worker. A sleep ends without moving the clock, which only time does. -/
def takeTurn (site : Site) (w : Worker) : Worker × Site :=
  match w.generation.phase with
  | .locking { phase := .sleeping _, .. } => ({ w with generation := w.generation.woken }, site)
  | _ =>
    let (g, site) := site.step w.startedAt w.generation
    ({ w with generation := g }, site)

/-- A step that fails leaves nothing behind; a lease that cannot be given back stays. -/
def failTurn (site : Site) (w : Worker) (error : EngineError) : Worker :=
  let g := w.generation
  { w with
    generation := match g.phase with
      | .locking _ => g.lockTried (site.clock.sub w.startedAt) (.error error)
      | .finding _ => g.found (.error error)
      | .reading _ _ => g.read (.error error)
      | .committing _ _ => g.committed (.error error)
      | .releasing _ _ => g.released
      | .ended _ | .fatal _ => g }

/-- A change is committed to the log that the generators read. The log only grows at its end: a
serial that is not above all others is refused. -/
def record (site : Site) (source : Source) (serial : Option Int) (operation : Operation)
    (objectType primaryKey : String) (payload : Option String) : Site :=
  if serial.all fun n => (site.serials source).all (· < n) then
    match site.memory, serial with
    | some log, _ =>
      let entry (n : Int) : Entry :=
        ⟨n, operation, objectType, primaryKey, payload, site.epochMillis⟩
      { site with memory := some (log.append source serial entry).2 }
    | none, none =>
      { site with
        store :=
          (site.store.append source operation objectType primaryKey payload site.epochMillis).2 }
    | none, some n =>
      match site.store.putRow
          ⟨source, n, operation.text, objectType, primaryKey, payload, site.epochMillis⟩ with
      | .ok store => { site with store := store }
      | .error _ => site
  else site

def step (s : SharedSite) : Event → SharedSite
  | .begin kind source filter settings session =>
    { s with
      workers := s.workers ++ [⟨s.site.clock, .create kind source filter settings session⟩] }
  | .turn worker =>
    match s.workers[worker]? with
    | some w =>
      let (w, site) := takeTurn s.site w
      ⟨site, s.workers.set worker w⟩
    | none => s
  | .fail worker error =>
    match s.workers[worker]? with
    | some w => { s with workers := s.workers.set worker (failTurn s.site w error) }
    | none => s
  | .append source serial operation objectType primaryKey payload =>
    { s with site := record s.site source serial operation objectType primaryKey payload }
  | .pass span stamp =>
    { s with site := { s.site with clock := s.site.clock.add span, stamp := stamp } }

def run (s : SharedSite) (es : List Event) : SharedSite := es.foldl step s

/-- How the generators that have ended did so. -/
def results (s : SharedSite) : List GenerationResult :=
  s.workers.filterMap fun w => match w.generation.phase with
    | .ended result => some result
    | _ => none

end SharedSite

end RegistryFeed
