import RegistryFeed.Engine.Host
import RegistryFeed.Engine.State
import RegistryFeed.Publisher.Task
import RegistryFeed.Server.Acceptor

/-! # The engine

An engine opens the store, waits for clients and publishes every configured source, from a start
that succeeds to the shutdown. A start that is refused changes nothing; one that fails on the way
gives back what it has opened. -/
namespace RegistryFeed

/-- There is one publisher for each source; what is known of them outlives the shutdown. -/
structure Engine where
  settings : Settings
  state : EngineState
  storeOpen : Bool
  server : Option Server
  publishers : List PublisherTask
  observed : List Observation
deriving Repr

namespace Engine

def create (settings : Settings) : Engine := ⟨settings, .created, false, none, [], []⟩

def isRunning (e : Engine) : Bool := e.state = .running

def listening (e : Engine) : Bool := e.server.isSome

def observe (e : Engine) (os : List Observation) : Engine :=
  { e with observed := e.observed ++ os }

def enter (e : Engine) (state : EngineState) : Engine :=
  { e with state := state }.observe [.engineState state.label]

/-- The server of the settings, if there is to be one. -/
def openServer (settings : Settings) : Except Fatal (Except EngineError (Option Server)) :=
  if !settings.streaming.enabled then .ok (.ok none)
  else match Host.bind settings.streaming.bindAddress with
    | .error error => .ok (.error error)
    | .ok address => do
      let session ← settings.streaming.session
      let slots ← Slots.create (max settings.streaming.maxSessions 1)
      return .ok (some (.create address settings.sources.context session slots))

/-- The publishers of the settings, if there are to be any. -/
def spawnPublishers (settings : Settings) : Except Fatal (List PublisherTask) :=
  if !settings.publication.enabled then .ok []
  else do
    let generation ← settings.publication.generation
    return settings.sources.all.map fun source =>
      .spawn (.create source settings.publication.filter generation)
        settings.publication.bootstrapSnapshot

/-- Starts the engine: it checks its settings, opens the store, waits at its address and spawns its
publishers, in this order. -/
def start (e : Engine) (host : Host) : Except Fatal (Except EngineError Unit × Engine × Host) :=
  if e.state ≠ .created then
    .ok (.error (.invalidState EngineState.created.label e.state.label), e, host)
  else match e.settings.validate with
    | .error fault => .ok (.error (.config fault), e, host)
    | .ok () =>
      let e := e.enter .starting
      match host.openStore e.settings.store with
      | .error error => .ok (.error error, e.enter .failed, host)
      | .ok host => do
        match ← openServer e.settings with
        | .error error => return (.error error, e.enter .failed, host)
        | .ok server =>
          let publishers ← spawnPublishers e.settings
          let e := { e with server := server, publishers := publishers, storeOpen := true }
          return (.ok (), e.enter .running, host)

/-- Lets every publisher go on until it rests. -/
def runPublishers (e : Engine) (host : Host) : Engine × Host :=
  let (tasks, site) := e.publishers.foldl (fun acc t =>
    let (t, site) := t.run host.session acc.2
    (acc.1 ++ [t], site)) ([], host.site)
  ({ e with publishers := tasks }, { host with site := site })

/-- Something happens to all publishers, and they go on until they rest. -/
def tellPublishers (e : Engine) (event : TaskLoop.Event) (host : Host) : Engine × Host :=
  let told : Engine := { e with publishers := e.publishers.map fun t => t.act event }
  told.runPublishers host

/-- A source has got its snapshot: its publisher may go on. -/
def resume (e : Engine) (source : Source) : Engine :=
  { e with publishers := e.publishers.map fun t =>
      if t.publisher.source = source then
        { t with publisher := { t.publisher with status := t.publisher.status.resume } }
      else t }

/-- Takes over what a generator has made of a snapshot. -/
def published (e : Engine) (source : Source) (host : Host) :
    Generation × Site → Except EngineError Artifact × Engine × Host
  | (g, site) =>
    let e := e.observe g.observed
    let host := { host with site := site }
    match g.result with
    | .ok (some a) => (.ok a, e.resume source, host)
    | .ok none => (.error (.noSnapshot source.name), e, host)
    | .error error => (.error error, e, host)

/-- Publishes the snapshot of any source, configured or not. -/
def publishSnapshot (e : Engine) (source : Source) (host : Host) :
    Except Fatal (Except EngineError Artifact × Engine × Host) :=
  if !e.isRunning then
    .ok (.error (.invalidState EngineState.running.label e.state.label), e, host)
  else if !e.storeOpen then .ok (.error .shutdown, e, host)
  else do
    let generation ← e.settings.publication.generation
    return e.published source host <|
      host.site.generate .snapshot source e.settings.publication.filter generation host.session

/-- Stops the engine: clients and publishers are told, what they have begun is completed, and the
store is closed. -/
def shutdown (e : Engine) (host : Host) : Engine × Host :=
  let (e, host) := (e.enter .shuttingDown).tellPublishers (.signal true) host
  ({ e with server := none, storeOpen := false }.enter .stopped, host)

end Engine

end RegistryFeed
