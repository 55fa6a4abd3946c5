import RegistryFeed.Proofs.Session.Paging

/-!
# Keepalive answers

Three positions hand over to each other in a keepalive answer: that of the next
page, the end of the requested range, and the cursor of the subscription. One
invariant covers them: what is written is one window on the log, from the first
requested serial up to the present position, and the log reaches that position.
Replies may be late or given up, and the log grows in between; it is in ascending
order.
-/

namespace RegistryFeed

/-- A session that answers a keepalive request, or has done so; it may have been stopped. -/
inductive Serving (source : Source) (first last : Int) (opening : String) (log : List Entry) :
    Bool → Session → Prop
  | paging {s : Session} {position : Int} {streamed : Nat}
      (phase : s.phase = .paging source position last streamed true)
      (size : 1 ≤ s.settings.batch) (within : position < last)
      (written : Written first opening log position s.outbox.text) :
      Serving source first last opening log false s
  | tailing {s : Session} {sub : Subscription} {deadline : Span}
      (phase : s.phase = .tailing sub deadline) (ofSource : sub.source = source)
      (size : 1 ≤ sub.batchSize) (written : Written first opening log sub.cursor s.outbox.text) :
      Serving source first last opening log false s
  | closed {s : Session} {result : Except EngineError SessionEnd} {position : Int}
      (phase : s.phase = .ended result) (other : result ≠ .ok .cancelled)
      (written : Written first opening log position s.outbox.text) :
      Serving source first last opening log false s
  | cancelled {s : Session} {text : String} {position : Int}
      (phase : s.phase = .ended (.ok .cancelled))
      (written : Written first opening log position text)
      (ends : s.outbox.text = text ++ endText source) :
      Serving source first last opening log true s

namespace Serving

variable {source : Source} {first last : Int} {opening : String} {log : List Entry}
  {stopped : Bool} {s : Session}

theorem grow (h : Serving source first last opening log stopped s) {more : List Entry}
    (sorted : Ordered more) (grown : log <+: more) :
    Serving source first last opening more stopped s := by
  cases h with
  | paging phase size within written =>
    exact .paging phase size within (written.grow sorted grown)
  | tailing phase ofSource size written =>
    exact .tailing phase ofSource size (written.grow sorted grown)
  | closed phase other written => exact .closed phase other (written.grow sorted grown)
  | cancelled phase written ends => exact .cancelled phase (written.grow sorted grown) ends

theorem of_untouched (h : Serving source first last opening log stopped s) {t : Session}
    (same : Session.Untouched s t) : Serving source first last opening log stopped t := by
  obtain ⟨phase', text, settings⟩ := same
  cases h with
  | paging phase size within written =>
    exact .paging (phase'.trans phase) (settings ▸ size) within (text ▸ written)
  | tailing phase ofSource size written =>
    exact .tailing (phase'.trans phase) ofSource size (text ▸ written)
  | closed phase other written => exact .closed (phase'.trans phase) other (text ▸ written)
  | cancelled phase written ends => exact .cancelled (phase'.trans phase) written (text ▸ ends)

theorem of_finish {position : Int} (written : Written first opening log position s.outbox.text)
    (now : Span) {result : Except EngineError SessionEnd} (other : result ≠ .ok .cancelled) :
    Serving source first last opening log false (s.finish now result) := by
  have here : Written first opening log position (s.finish now result).outbox.text := by
    rw [Session.text_of_finish]
    exact written
  exact .closed rfl other here

theorem rangeServed (written : Written first opening log last s.outbox.text) (now : Span)
    (streamed : Nat) :
    Serving source first last opening log false (s.rangeServed now source last streamed true) := by
  unfold Session.rangeServed
  rcases s.emit_cases now true [] _ with ⟨o, wrote, emitted⟩ | ⟨_, fault, failed⟩
  · rw [emitted]
    have text := wrote.text
    rw [String.join_nil, String.append_empty] at text
    refine .tailing (rfl : _ = Phase.tailing ⟨source, last, max s.settings.batch 1, .looking⟩ now)
      rfl ?_ ?_
    · exact Nat.le_max_right _ 1
    · have same : o.text = s.outbox.text := text
      exact same ▸ written
  · rw [failed]
    exact of_finish written now (by simp)

/-- Wherever a range has come to, its answer goes on from there. -/
theorem of_advances {position floor : Int} {now : Span} {t : Session}
    (size : 1 ≤ s.settings.batch) (written : Written first opening log position s.outbox.text)
    (h : s.Advances now source first last opening log true floor t) :
    Serving source first last opening log false t := by
  cases h with
  | further _ _ within written => exact .paging rfl size within written
  | complete _ written => exact rangeServed (s := { s with outbox := _ }) written now _
  | lost _ => exact of_finish written now (by simp)

end Serving

/-- What a step makes of an answer: it goes on, or it is stopped because the session was asked
to stop. -/
inductive Served (source : Source) (first last : Int) (opening : String) (log : List Entry)
    (stopped : Bool) (s t : Session) : Prop
  | goesOn (serving : Serving source first last opening log stopped t) :
      Served source first last opening log stopped s t
  | stops (running : stopped = false) (asked : s.signal.Stops)
      (text : t.outbox.text = s.outbox.text ++ endText source)
      (serving : Serving source first last opening log true t) :
      Served source first last opening log stopped s t

/-- A step of the subscription. -/
theorem Served.of_streams {source : Source} {first last : Int} {opening : String}
    {log part old : List Entry} {s t : Session} {sub : Subscription}
    (written : Written first opening log sub.cursor s.outbox.text) (size : 1 ≤ sub.batchSize)
    (ofSource : sub.source = source) (sorted : Ordered log) (grown : old <+: log)
    (read : part <+: entriesAfter old sub.cursor) (h : Session.Streams s sub part t) :
    Served source first last opening log false s t := by
  cases h with
  | waits phase text => exact .goesOn (.tailing phase ofSource size (text ▸ written))
  | hands ends phase text =>
    have extended := written.extend sorted grown read
    rw [positionAfter_of_getLast? ends, ← text] at extended
    exact .goesOn (.tailing phase ofSource size extended)
  | closes phase other text => exact .goesOn (.closed phase other (text ▸ written))
  | cancels asked phase text =>
    rw [ofSource] at text
    exact .stops rfl asked text (.cancelled phase written text)

end RegistryFeed
