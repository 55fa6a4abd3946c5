import RegistryFeed.Publication.Site
import RegistryFeed.Publisher.Status

/-! # Publishers

A publisher makes deltas of one source. Without a snapshot in the store there is nothing a delta
could follow, so it halts; while halted it only looks whether some generator has published the
snapshot, and goes on when one has. Any other failure is counted, and the next tick tries again. -/
namespace RegistryFeed

structure Publisher where
  source : Source
  filter : PublicationFilter
  settings : GenerationSettings
  status : PublisherStatus
  observed : List Observation
deriving Repr

/-- What one tick came to. -/
inductive TickOutcome
  | published (version : Int)
  | nothingNew
  | halted
  | failed
deriving DecidableEq, Repr

namespace Publisher

def create (source : Source) (filter : PublicationFilter) (settings : GenerationSettings) :
    Publisher :=
  ⟨source, filter, settings, .fresh, []⟩

def observe (p : Publisher) (os : List Observation) : Publisher :=
  { p with observed := p.observed ++ os }

def failed (p : Publisher) (error : EngineError) : Publisher :=
  p.observe [.generationFailed p.source.name error.kind]

/-- Takes over what a generator has done. -/
def takeOver (p : Publisher) : Generation × Site → GenerationResult × Publisher × Site
  | (g, site) => (g.result, p.observe g.observed, site)

/-- Generates a version of the source alone on a site. -/
def generate (p : Publisher) (kind : DocumentKind) (session : String) (site : Site) :
    GenerationResult × Publisher × Site :=
  p.takeOver (site.generate kind p.source p.filter p.settings session)

/-- What comes of the first snapshot; another chain is left as it is. -/
def bootstrapped : GenerationResult × Publisher × Site → Publisher × Site
  | (.ok (some a), p, site) =>
    ({ p with status := p.status.recordSuccess (some a.info.version) }, site)
  | (.ok none, p, site) => (p, site)
  | (.error (.snapshotExists _ _), p, site) => (p, site)
  | (.error error, p, site) => (p.failed error, site)

/-- Publishes the snapshot of a source that has no chain yet. -/
def bootstrap (p : Publisher) (session : String) (site : Site) : Publisher × Site :=
  bootstrapped (p.generate .snapshot session site)

/-- Whether the store has a version of the source; a chain that cannot be read counts as none. -/
def seesChain (p : Publisher) (site : Site) : Bool :=
  match site.store.findLast p.source with
  | .ok (some _) => true
  | _ => false

/-- Takes note of what came of a delta. -/
def attempted : GenerationResult × Publisher × Site → TickOutcome × Publisher × Site
  | (.ok (some a), p, site) =>
    (.published a.info.version,
      { p with status := p.status.recordSuccess (some a.info.version) }, site)
  | (.ok none, p, site) => (.nothingNew, { p with status := p.status.recordSuccess none }, site)
  | (.error (.noSnapshot source), p, site) =>
    (.halted, { p.failed (.noSnapshot source) with status := p.status.halt }, site)
  | (.error error, p, site) =>
    (.failed, { p.failed error with status := p.status.recordFailure.2 }, site)

/-- Tries to publish a delta. -/
def attempt (p : Publisher) (site : Site) : TickOutcome × Publisher × Site :=
  attempted (p.generate .delta "" site)

/-- One tick: a halted publisher goes on only if it sees a chain. -/
def tick (p : Publisher) (site : Site) : TickOutcome × Publisher × Site :=
  if p.status.halted then
    if p.seesChain site then { p with status := p.status.resume }.attempt site
    else (.halted, p, site)
  else p.attempt site

end Publisher

end RegistryFeed
