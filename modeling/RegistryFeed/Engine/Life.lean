import RegistryFeed.Engine.Health

/-! # The life of an engine

An engine is started, asked and shut down in any order, and each call is over before the next one.
Between two calls its publishers and its server go on by themselves, and other programs do what they
like at the host. Nothing is assumed about the order of the events. -/
namespace RegistryFeed

/-- What is asked of an engine. -/
inductive EngineCall
  | start
  | publishSnapshot (source : Source)
  | health
  | shutdown
deriving DecidableEq, Repr

inductive EngineAnswer
  | started (result : Except EngineError Unit)
  | published (result : Except EngineError Artifact)
  | health (health : Health)
  | stopped
deriving Repr

/-- The answer to a start that succeeds. -/
def EngineAnswer.isStart : EngineAnswer → Bool
  | .started (.ok ()) => true
  | _ => false

/-- An engine at its host, with its answers so far. -/
structure LiveEngine where
  engine : Engine
  host : Host
  answers : List EngineAnswer
deriving Repr

namespace LiveEngine

/-- A call comes, or a publisher goes on, its timer fires, or something happens at the server or
elsewhere at the host. -/
inductive Event
  | call (c : EngineCall)
  | publisher (task : Nat)
  | timer (task : Nat)
  | server (now : Span) (e : Server.Event)
  | host (host : Host)
deriving Repr

def create (settings : Settings) (host : Host) : LiveEngine := ⟨.create settings, host, []⟩

def call (s : LiveEngine) : EngineCall → Except Fatal LiveEngine
  | .start => do
    let (result, engine, host) ← s.engine.start s.host
    return ⟨engine, host, s.answers ++ [.started result]⟩
  | .publishSnapshot source => do
    let (result, engine, host) ← s.engine.publishSnapshot source s.host
    return ⟨engine, host, s.answers ++ [.published result]⟩
  | .health =>
    let (health, host) := s.engine.health s.host
    return ⟨s.engine, host, s.answers ++ [.health health]⟩
  | .shutdown =>
    let (engine, host) := s.engine.shutdown s.host
    return ⟨engine, host, s.answers ++ [.stopped]⟩

/-- Puts what has become of the task of a publisher in its place. -/
def setTask (s : LiveEngine) (task : Nat) (t : PublisherTask) : LiveEngine :=
  { s with engine := { s.engine with publishers := s.engine.publishers.set task t } }

def step (s : LiveEngine) : Event → Except Fatal LiveEngine
  | .call c => s.call c
  | .publisher task =>
    match s.engine.publishers[task]? with
    | some t =>
      let (t, site) := t.advance s.host.session s.host.site
      return { s.setTask task t with host := { s.host with site := site } }
    | none => return s
  | .timer task =>
    match s.engine.publishers[task]? with
    | some t => return s.setTask task (t.act .timer)
    | none => return s
  | .server now e =>
    return { s with engine := { s.engine with server := s.engine.server.map (·.step now e) } }
  | .host host => return { s with host := host }

/-- What becomes of an engine when the events come one after another, if none of them panics. -/
def run (s : LiveEngine) : List Event → Except Fatal LiveEngine
  | [] => .ok s
  | e :: es => do (← s.step e).run es

end LiveEngine

end RegistryFeed
