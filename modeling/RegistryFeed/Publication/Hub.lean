import RegistryFeed.Publication.SharedSite

/-! # Calls on many sources

Programs append to the log, publish and use the locks of any number of sources on one site. What is
under way for a source is kept at a desk of its own, and each call is one on one source; the site is
shared. A generator goes one step at a time, so calls on one source or on several may overlap, and
any of them may fail, wait or never go on. Nothing is assumed about the order of the calls. -/
namespace RegistryFeed

/-- What is asked for one source: to commit a change, to begin a generator, to let it go on or fail,
and to try the lock, to give back the lease that came with an earlier answer, or to look it up. -/
inductive SourceCall
  | append (operation : Operation) (objectType primaryKey : String) (payload : Option String)
  | begin (kind : DocumentKind) (filter : PublicationFilter) (settings : GenerationSettings)
      (session : String)
  | turn (worker : Nat)
  | fail (worker : Nat) (error : EngineError)
  | acquire (ttl : Span)
  | giveBack (answer : Nat)
  | lookUp
deriving Repr

/-- The same call with another identifier for a chain that it begins. -/
def SourceCall.rename (f : String → String) : SourceCall → SourceCall
  | begin kind filter settings session => begin kind filter settings (f session)
  | c => c

inductive SourceAnswer
  | appended (entry : Entry)
  | tried (result : Except EngineError (Option Lease))
  | returned
  | shown (holder : Option Lease)
deriving Repr

/-- What is under way for one source. Workers stand in the order in which they began, and stay. -/
structure Desk where
  workers : List Worker
  answers : List SourceAnswer
deriving Repr

namespace Desk

def empty : Desk := ⟨[], []⟩

def tell (d : Desk) (a : SourceAnswer) : Desk := { d with answers := d.answers ++ [a] }

def serve (source : Source) (d : Desk) (site : Site) : SourceCall → Desk × Site
  | .append operation objectType primaryKey payload =>
    let (entry, store) :=
      site.store.append source operation objectType primaryKey payload site.epochMillis
    (d.tell (.appended entry), { site with store := store })
  | .begin kind filter settings session =>
    ({ d with
      workers := d.workers ++ [⟨site.clock, .create kind source filter settings session⟩] }, site)
  | .turn worker =>
    match d.workers[worker]? with
    | some w =>
      let (w, site) := SharedSite.takeTurn site w
      ({ d with workers := d.workers.set worker w }, site)
    | none => (d, site)
  | .fail worker error =>
    match d.workers[worker]? with
    | some w =>
      ({ d with workers := d.workers.set worker (SharedSite.failTurn site w error) }, site)
    | none => (d, site)
  | .acquire ttl =>
    let (result, site) := site.tryLock source.lockName ttl
    (d.tell (.tried result), site)
  | .giveBack answer =>
    match d.answers[answer]? with
    | some (.tried (.ok (some lease))) => (d.tell .returned, site.releaseLock lease)
    | _ => (d, site)
  | .lookUp => (d.tell (.shown (site.store.holder source.lockName site.epochMillis)), site)

end Desk

structure Hub where
  site : Site
  desk : Source → Desk

namespace Hub

/-- When time passes, new versions get another time. -/
inductive Event
  | call (source : Source) (c : SourceCall)
  | pass (span : Span) (stamp : Int)
deriving Repr

/-- The event is a call on the source, or no call at all. -/
def Event.concerns (source : Source) : Event → Bool
  | call other _ => other = source
  | pass _ _ => true

def Event.rename (f : String → String) : Event → Event
  | call source c => call source (c.rename f)
  | pass span stamp => pass span stamp

/-- A hub at which nothing has been asked yet. -/
def create (site : Site) : Hub := ⟨site, fun _ => .empty⟩

def step (h : Hub) : Event → Hub
  | .call source c =>
    let (d, site) := (h.desk source).serve source h.site c
    ⟨site, fun other => if other = source then d else h.desk other⟩
  | .pass span stamp =>
    { h with site := { h.site with clock := h.site.clock.add span, stamp := stamp } }

def run (h : Hub) (es : List Event) : Hub := es.foldl step h

end Hub

end RegistryFeed
