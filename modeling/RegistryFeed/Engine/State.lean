/-! # States of the engine

An engine starts at most once. It is stopped from any state, and a failed start is final. -/
namespace RegistryFeed

inductive EngineState
  | created
  | starting
  | running
  | shuttingDown
  | stopped
  | failed
deriving DecidableEq, Repr

namespace EngineState

def label : EngineState → String
  | .created => "Created"
  | .starting => "Starting"
  | .running => "Running"
  | .shuttingDown => "ShuttingDown"
  | .stopped => "Stopped"
  | .failed => "Failed"

def all : List EngineState := [.created, .starting, .running, .shuttingDown, .stopped, .failed]

end EngineState

end RegistryFeed
