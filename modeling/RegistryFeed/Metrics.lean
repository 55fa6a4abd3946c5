import RegistryFeed.Text.Numeral
import RegistryFeed.Time.Span

/-! # Metrics

What the engine tells its operators. Each observation updates a few series; a series is a name with
labels and comes into being when it is first touched. Counters go round at 2^64, gauges keep the
last value, and histograms keep every value in order. -/
namespace RegistryFeed

inductive Observation
  | query (kind outcome : String)
  | protocolError (code : Nat)
  | activeSessions (count : Nat)
  | sessionRejected
  | sessionClosed (reason : String) (lasted : Span)
  | entriesStreamed (source : String) (count : Nat)
  | deltaGenerated (source : String) (version : Int) (changes : Nat) (took : Span)
  | snapshotGenerated (source : String) (objects : Nat) (took : Span)
  | deltaSkipped (source reason : String)
  | generationFailed (source kind : String)
  | lockWaited (lock : String) (acquired : Bool) (waited : Span)
  | storeRetried (operation : String)
  | engineState (label : String)
deriving DecidableEq, Repr

/-- The number under which a state of the engine is shown; an unknown label has one too. -/
def engineStateNumber (label : String) : Int :=
  match label with
  | "Created" => 0
  | "Starting" => 1
  | "Running" => 2
  | "ShuttingDown" => 3
  | "Stopped" => 4
  | "Failed" => 5
  | _ => -1

namespace Metrics

/-- A name with labels, the labels in alphabetical order. -/
structure Key where
  name : String
  labels : List (String × String)
deriving DecidableEq, Repr

def Key.text (k : Key) : String :=
  k.name ++ "\x7b" ++ ",".intercalate (k.labels.map fun l => l.1 ++ "=" ++ l.2) ++ "\x7d"

inductive Update
  | count (n : Nat)
  | set (value : Binary64)
  | record (value : Binary64)
deriving DecidableEq, Repr

inductive Value
  | counter (n : Nat)
  | gauge (value : Binary64)
  | histogram (values : List Binary64)
deriving DecidableEq, Repr

/-- The value of a series that an update brings into being. -/
def Update.first : Update → Value
  | .count n => .counter (n % UInt64.size)
  | .set v => .gauge v
  | .record v => .histogram [v]

def Value.apply : Value → Update → Value
  | .counter m, .count n => .counter ((m + n) % UInt64.size)
  | .histogram vs, .record v => .histogram (vs ++ [v])
  | _, u => u.first

/-- The series touched so far, in the order of their first touch. -/
abbrev Registry := List (Key × Value)

def Registry.update : Registry → Key → Update → Registry
  | [], k, u => [(k, u.first)]
  | (k', v) :: rest, k, u =>
    if k' = k then (k', v.apply u) :: rest else (k', v) :: Registry.update rest k u

/-- The updates an observation makes. -/
def updates : Observation → List (Key × Update)
  | .query kind outcome =>
    [(⟨"nrtm_queries_total", [("kind", kind), ("outcome", outcome)]⟩, .count 1)]
  | .protocolError code =>
    [(⟨"nrtm_protocol_errors_total", [("code", Text.decimalNat code)]⟩, .count 1)]
  | .activeSessions n => [(⟨"nrtm_active_sessions", []⟩, .set (.ofNat n))]
  | .sessionRejected => [(⟨"nrtm_sessions_rejected_total", []⟩, .count 1)]
  | .sessionClosed reason lasted =>
    [(⟨"nrtm_sessions_closed_total", [("reason", reason)]⟩, .count 1),
      (⟨"nrtm_session_duration_seconds", []⟩, .record lasted.toBinary64)]
  | .entriesStreamed source n =>
    [(⟨"nrtm_entries_streamed_total", [("source", source)]⟩, .count n)]
  | .deltaGenerated source version changes took =>
    [(⟨"nrtm_deltas_generated_total", [("source", source)]⟩, .count 1),
      (⟨"nrtm_delta_changes_total", [("source", source)]⟩, .count changes),
      (⟨"nrtm_current_version", [("source", source)]⟩, .set (.ofInt version)),
      (⟨"nrtm_generation_duration_seconds", [("source", source)]⟩, .record took.toBinary64)]
  | .snapshotGenerated source objects took =>
    [(⟨"nrtm_snapshots_generated_total", [("source", source)]⟩, .count 1),
      (⟨"nrtm_snapshot_objects", [("source", source)]⟩, .set (.ofNat objects)),
      (⟨"nrtm_current_version", [("source", source)]⟩, .set (.ofNat 1)),
      (⟨"nrtm_generation_duration_seconds", [("source", source)]⟩, .record took.toBinary64)]
  | .deltaSkipped source reason =>
    [(⟨"nrtm_deltas_skipped_total", [("reason", reason), ("source", source)]⟩, .count 1)]
  | .generationFailed source kind =>
    [(⟨"nrtm_generation_failures_total", [("kind", kind), ("source", source)]⟩, .count 1)]
  | .lockWaited lock acquired waited =>
    let outcome := if acquired then "acquired" else "contended"
    [(⟨"nrtm_lock_acquisitions_total", [("lock", lock), ("outcome", outcome)]⟩, .count 1),
      (⟨"nrtm_lock_wait_seconds", [("lock", lock)]⟩, .record waited.toBinary64)]
  | .storeRetried operation =>
    [(⟨"nrtm_store_retries_total", [("operation", operation)]⟩, .count 1)]
  | .engineState label =>
    [(⟨"nrtm_engine_state", []⟩, .set (.ofInt (engineStateNumber label)))]

def Registry.observe (r : Registry) (o : Observation) : Registry :=
  (updates o).foldl (fun r u => r.update u.1 u.2) r

/-- The series after a sequence of observations. -/
def ofObservations (os : List Observation) : Registry := os.foldl Registry.observe []

end Metrics

end RegistryFeed
