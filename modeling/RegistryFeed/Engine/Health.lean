import RegistryFeed.Engine.Lifecycle

/-! # The health of an engine

What a monitor sees of an engine and of each of its sources. What cannot be read counts as unknown
and does not make an engine unhealthy; a halted publisher does. -/
namespace RegistryFeed

structure SourceHealth where
  source : Source
  lastSerial : Option Int
  version : Option Int
  halted : Bool
  failures : Nat
deriving DecidableEq, Repr

structure Health where
  state : EngineState
  ready : Bool
  healthy : Bool
  listening : Bool
  sources : List SourceHealth
deriving DecidableEq, Repr

namespace Engine

/-- The status of the publisher of a source; without one nothing is halted and nothing failed. -/
def statusOf (e : Engine) (source : Source) : PublisherStatus :=
  match e.publishers.find? (·.publisher.source = source) with
  | some t => t.publisher.status
  | none => .fresh

/-- What the open store and the log know of a source. -/
def positions (source : Source) (host : Host) : Option Int × Option Int × Host :=
  let (tail, host) := host.latestSerial source
  let version := (host.site.store.findLast source).toOption.join
  (tail.toOption.join, version.map (·.version), host)

def sourceHealth (e : Engine) (source : Source) (host : Host) : SourceHealth × Host :=
  let (lastSerial, version, host) :=
    if e.storeOpen then positions source host else (none, none, host)
  let status := e.statusOf source
  (⟨source, lastSerial, version, status.halted, status.failures.toNat⟩, host)

def health (e : Engine) (host : Host) : Health × Host :=
  let (sources, host) := e.settings.sources.all.foldl (fun acc source =>
    let (h, host) := e.sourceHealth source acc.2
    (acc.1 ++ [h], host)) ([], host)
  (⟨e.state, e.isRunning, e.isRunning && sources.all (fun h => !h.halted), e.listening, sources⟩,
    host)

end Engine

end RegistryFeed
