import RegistryFeed.Change.Reading

/-! # Subscriptions

A subscription hands out the entries of a source past its cursor, batch by batch. One call for a
batch looks at the shutdown signal, reads a page, and if the page is empty waits and begins again. A
call may be abandoned at any time: the cursor moves only when a batch is handed out. -/
namespace RegistryFeed

/-- How far a call for a batch has come. -/
inductive Call
  | idle
  | looking
  | reading
  | waiting
deriving DecidableEq, Repr

/-- How a call for a batch ends. -/
inductive Outcome
  | batch (entries : List Entry)
  | cancelled
  | failed (error : EngineError)
deriving DecidableEq, Repr

structure Subscription where
  source : Source
  cursor : Int
  batchSize : Nat
  call : Call
deriving DecidableEq, Repr

namespace Subscription

/-- A subscription to what follows a serial; batches have at least one entry. -/
def create (source : Source) (after : Int) (batchSize : Nat) : Subscription :=
  ⟨source, after, max batchSize 1, .idle⟩

/-- A call begins or is given up; it looks at the signal, gets the page that was read, is woken by
the interval or a new value, or finds the sender of the signal gone. -/
inductive Event
  | begin
  | look (cancelled : Bool)
  | page (result : Except EngineError (List Entry))
  | wake
  | detached
  | abandon
deriving Repr

/-- The read that a call waits for. -/
def reading? (s : Subscription) : Option Reading :=
  match s.call with
  | .reading => some (.page s.source s.cursor s.batchSize)
  | _ => none

/-- One step of a call; an event that the call does not wait for changes nothing. -/
def step (s : Subscription) (e : Event) : Subscription × Option Outcome :=
  match s.call, e with
  | .idle, .begin => ({ s with call := .looking }, none)
  | .looking, .look cancelled =>
    if cancelled then ({ s with call := .idle }, some .cancelled)
    else ({ s with call := .reading }, none)
  | .reading, .page (.error error) => ({ s with call := .idle }, some (.failed error))
  | .reading, .page (.ok entries) =>
    match entries.getLast? with
    | some last => ({ s with cursor := last.serial, call := .idle }, some (.batch entries))
    | none => ({ s with call := .waiting }, none)
  | .waiting, .wake => ({ s with call := .looking }, none)
  | .waiting, .detached => ({ s with call := .idle }, some .cancelled)
  | _, .abandon => ({ s with call := .idle }, none)
  | _, _ => (s, none)

end Subscription

end RegistryFeed
