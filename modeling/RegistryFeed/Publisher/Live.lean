import RegistryFeed.Publication.SharedSite
import RegistryFeed.Publisher.Task

/-! # Publishers on a shared site

A publisher makes one attempt after another, a bootstrap or a tick. An attempt has a generator of
its own, which works beside those of other publishers and programs. Any step of it may fail, and at
any time others publish, record changes, hold the lock or let time pass. Nothing is assumed about
the order of the events. -/
namespace RegistryFeed

/-- The worker whose step an event is. -/
def SharedSite.Event.worker? : SharedSite.Event → Option Nat
  | .turn worker | .fail worker _ => some worker
  | .begin _ _ _ _ _ | .append _ _ _ _ _ _ | .pass _ _ => none

namespace Publisher

/-- What an attempt came to. -/
inductive Answer
  | bootstrapped (version : Option Int)
  | ticked (outcome : TickOutcome)
deriving DecidableEq, Repr

/-- The version that was published. -/
def Answer.version? : Answer → Option Int
  | .bootstrapped version => version
  | .ticked (.published version) => some version
  | .ticked .nothingNew | .ticked .halted | .ticked .failed => none

/-- An attempt under way, with the place of its generator among all workers: whether the publisher
was halted when it began, the rows of the source when the latest version was looked for, and the
rows that the generator has added. -/
structure Ongoing where
  attempt : Attempt
  halted : Bool
  worker : Nat
  seen : Option (List VersionRow)
  added : List VersionRow
deriving Repr

/-- An attempt that is over. The chain was unread if a halted publisher could not look for it. -/
structure Done where
  answer : Answer
  halted : Bool
  unread : Bool
  seen : Option (List VersionRow)
  added : List VersionRow
deriving Repr

/-- Whether the versions of the source can be read. -/
def readsChain (p : Publisher) (site : Site) : Bool :=
  match site.store.findLast p.source with
  | .ok _ => true
  | .error _ => false

/-- Takes note of what a turn of the generator has done to the store. -/
def Ongoing.turned (c : Ongoing) (g : Generation) (before after : Store) : Ongoing :=
  { c with
    seen := match g.phase with
      | .finding _ => some (before.versionsOf g.source)
      | _ => c.seen
    added := c.added ++ after.versions.drop before.versions.length }

/-- Takes over what the generator of an attempt has done. -/
def conclude (p : Publisher) (c : Ongoing) (g : Generation) (site : Site) : Publisher × Done :=
  let result := p.takeOver (g, site)
  let (p, answer) : Publisher × Answer := match c.attempt with
    | .tick =>
      let (outcome, p, _) := attempted result
      (p, .ticked outcome)
    | .bootstrap =>
      let version := match g.result with
        | .ok (some a) => some a.info.version
        | _ => none
      ((bootstrapped result).1, .bootstrapped version)
  (p, ⟨answer, c.halted, false, c.seen, c.added⟩)

end Publisher

/-- A publisher on a shared site, with the attempt under way and those that are over, in their
order. -/
structure LivePublisher where
  publisher : Publisher
  shared : SharedSite
  call : Option Publisher.Ongoing
  done : List Publisher.Done
deriving Repr

namespace LivePublisher

open Publisher

/-- The publisher begins a bootstrap or a tick, before which it looks for a chain if it is halted,
and that may fail. The generator of the attempt goes on or fails, and when it has ended the attempt
is finished. Somebody may say that the snapshot has been published, and anything else may happen on
the site. -/
inductive Event
  | bootstrap (session : String)
  | tick (fails : Bool)
  | turn
  | fail (error : EngineError)
  | finish
  | resume
  | world (e : SharedSite.Event)
deriving Repr

def create (p : Publisher) (shared : SharedSite) : LivePublisher := ⟨p, shared, none, []⟩

/-- Sets a generator to work. -/
def begin (s : LivePublisher) (attempt : Attempt) (halted : Bool) (kind : DocumentKind)
    (session : String) : LivePublisher :=
  let p := s.publisher
  { s with
    shared := s.shared.step (.begin kind p.source p.filter p.settings session)
    call := some ⟨attempt, halted, s.shared.workers.length, none, []⟩ }

/-- Begins a tick, which is over at once if the publisher is halted and sees no chain. -/
def tick (s : LivePublisher) (fails : Bool) : LivePublisher :=
  let p := s.publisher
  let site := s.shared.site
  if p.status.halted then
    if !fails && p.seesChain site then
      { s with publisher := { p with status := p.status.resume } }.begin .tick true .delta ""
    else
      { s with
        done := s.done ++
          [⟨.ticked .halted, true, fails || !p.readsChain site,
            some (site.store.versionsOf p.source), []⟩] }
  else s.begin .tick false .delta ""

def finish (s : LivePublisher) (c : Ongoing) (g : Generation) : LivePublisher :=
  let (p, done) := s.publisher.conclude c g s.shared.site
  { s with publisher := p, call := none, done := s.done ++ [done] }

/-- The attempt under way, with its generator. -/
def own? (s : LivePublisher) : Option (Ongoing × Generation) := do
  let c ← s.call
  let w ← s.shared.workers[c.worker]?
  return (c, w.generation)

/-- A publisher makes one attempt at a time, and no one else takes the steps of its generator. -/
def step (s : LivePublisher) : Event → LivePublisher
  | .bootstrap session =>
    if s.call.isSome then s
    else s.begin .bootstrap s.publisher.status.halted .snapshot session
  | .tick fails => if s.call.isSome then s else s.tick fails
  | .turn =>
    match s.own? with
    | some (c, g) =>
      let shared := s.shared.step (.turn c.worker)
      { s with
        shared := shared
        call := some (c.turned g s.shared.site.store shared.site.store) }
    | none => s
  | .fail error =>
    match s.own? with
    | some (c, _) => { s with shared := s.shared.step (.fail c.worker error) }
    | none => s
  | .finish =>
    match s.own? with
    | some (c, g) => match g.phase with
      | .ended _ => s.finish c g
      | _ => s
    | none => s
  | .resume => { s with publisher := { s.publisher with status := s.publisher.status.resume } }
  | .world e =>
    if e.worker?.isSome && e.worker? = s.call.map (·.worker) then s
    else { s with shared := s.shared.step e }

def run (s : LivePublisher) (es : List Event) : LivePublisher := es.foldl step s

end LivePublisher

end RegistryFeed
