import RegistryFeed.Proofs.Change.Window
import RegistryFeed.Proofs.Session.Streaming

/-!
# Paging through a range

A range is served page by page. What is written is always one window on the log,
from the first requested serial up to the present position. A page moves the
position on, or completes the window up to the end of the range: it is the last
one if it is not full, if it reaches past the end, or if it ends at the end. The
log may have grown since a page was read from it; it is in ascending order, with
or without gaps.
-/

namespace RegistryFeed

/-- The frames from the first serial up to a position are written behind an opening. -/
structure Written (first : Int) (opening : String) (log : List Entry) (position : Int)
    (text : String) : Prop where
  start : first - 1 ≤ position
  reaches : Reaches log position
  text : text = opening ++ framesText (window log (first - 1) position)

section

variable {first position : Int} {opening text : String} {log : List Entry}

theorem Written.extend (h : Written first opening log position text) (sorted : Ordered log)
    {old part : List Entry} (grown : old <+: log) (read : part <+: entriesAfter old position) :
    Written first opening log (positionAfter position part) (text ++ framesText part) := by
  obtain ⟨further, window⟩ := window_append_part sorted grown read h.start
  refine ⟨Int.le_trans h.start further, h.reaches.positionAfter grown read, ?_⟩
  rw [h.text, ← window, Session.framesText_append, String.append_assoc]

/-- The last page of a range brings what is written up to the end of the range. -/
theorem Written.complete (h : Written first opening log position text) (sorted : Ordered log)
    {old : List Entry} {last : Int} {size : Nat} (grown : old <+: log) (reaches : Reaches old last)
    (within : position ≤ last)
    (done : ((entriesAfter old position).take size).length < size ∨
      ∃ e ∈ (entriesAfter old position).take size, last < e.serial) :
    Written first opening log last (text ++ framesText
      (((entriesAfter old position).take size).takeWhile fun e => e.serial ≤ last)) := by
  have start := h.start
  refine ⟨by omega, reaches.mono grown, ?_⟩
  rw [takeWhile_lastPage sorted grown reaches done, h.text, String.append_assoc,
    ← Session.framesText_append, window_append sorted start within]

theorem Written.grow (h : Written first opening log position text) {more : List Entry}
    (sorted : Ordered more) (grown : log <+: more) : Written first opening more position text := by
  refine ⟨h.start, h.reaches.mono grown, ?_⟩
  rw [h.text, h.reaches.window_eq sorted grown]

end

namespace Session

/-- What a session makes of a position in the range that it serves, at or beyond another one. -/
inductive Advances (s : Session) (now : Span) (source : Source) (first last : Int)
    (opening : String) (log : List Entry) (keepalive : Bool) (floor : Int) : Session → Prop
  | further {o : Outbox} {position : Int} {streamed : Nat} (connected : o.broken = s.outbox.broken)
      (beyond : floor ≤ position) (within : position < last)
      (written : Written first opening log position o.text) :
      Advances s now source first last opening log keepalive floor
        { s with outbox := o, phase := .paging source position last streamed keepalive }
  | complete {o : Outbox} {streamed : Nat} (connected : o.broken = s.outbox.broken)
      (written : Written first opening log last o.text) :
      Advances s now source first last opening log keepalive floor
        ({ s with outbox := o }.rangeServed now source last streamed keepalive)
  | lost {fault : ConnectionFault} (broken : s.outbox.broken = true) :
      Advances s now source first last opening log keepalive floor
        (s.finish now (.error (.io fault)))

variable {source : Source} {first last position floor : Int} {opening : String}
  {log : List Entry} {s : Session}

theorem page_advances {o : Outbox} (connected : o.broken = s.outbox.broken)
    (written : Written first opening log position o.text) (beyond : floor ≤ position)
    (le : position ≤ last) (now : Span) (streamed : Nat) (keepalive : Bool) :
    Advances s now source first last opening log keepalive floor
      ({ s with outbox := o }.page now source position last streamed keepalive) := by
  unfold page
  split
  · next within => exact .further connected beyond within written
  · have same : position = last := by omega
    subst same
    exact .complete connected written

/-- The range of a request that can be served begins before its first serial. -/
theorem serveRange_advances (source : Source) {final : Request.RangeEnd}
    {available : Option SerialRange}
    (served : checkRange first final available = .ok last) (reaches : Reaches log last)
    (inOrder : first ≤ last) (now : Span) (keepalive : Bool) :
    Advances (s.observe [.query "mirror" "ok"]) now source first last
      (s.outbox.text ++ startText source first last) log keepalive (first - 1)
      (s.serveRange now source first final keepalive available) := by
  simp only [serveRange, served]
  rcases (s.observe [.query "mirror" "ok"]).emit_cases now false [startText source first last] _
    with ⟨o, wrote, emitted⟩ | ⟨broken, fault, failed⟩
  · rw [emitted]
    have opened : Written first (s.outbox.text ++ startText source first last) log (first - 1)
        o.text := by
      refine ⟨Int.le_refl _, ?_, ?_⟩
      · obtain ⟨e, he, le⟩ := reaches
        exact ⟨e, he, by omega⟩
      · rw [wrote.text, window_self]
        simp [framesText, observe]
    exact page_advances wrote.broken opened (Int.le_refl _) (by omega) now 0 keepalive
  · rw [failed]
    exact .lost broken

/-- A page of the range moves the position on, or is the last one. The log that it was read from may
have grown since, but it did reach the end of the range. -/
theorem turnPage_advances {old : List Entry}
    (written : Written first opening log position s.outbox.text) (sorted : Ordered log)
    (grown : old <+: log) (reaches : Reaches old last) (now : Span) (streamed : Nat)
    (keepalive : Bool) (size : 1 ≤ s.settings.batch) (within : position < last) :
    Advances s now source first last opening log keepalive (position + 1)
      (s.turnPage now source position last streamed keepalive
        ((entriesAfter old position).take s.settings.batch)) := by
  unfold turnPage
  generalize paged : (entriesAfter old position).take s.settings.batch = entries
  have read : entries.takeWhile (fun e => e.serial ≤ last) <+: entriesAfter old position := by
    rw [← paged]
    exact (List.takeWhile_prefix _).trans (List.take_prefix _ _)
  rcases s.emit_cases now false ((entries.takeWhile fun e => e.serial ≤ last).map fun e =>
      (Frame.ofEntry e).text) _ with ⟨o, wrote, emitted⟩ | ⟨broken, fault, failed⟩
  · have frames : o.text = s.outbox.text ++
        framesText (entries.takeWhile fun e => e.serial ≤ last) := wrote.text
    rw [emitted]
    simp only
    split
    · next isLast =>
      -- the page holds the rest of the range, so the range ends at `last` and not before
      have done := short_or_beyond size isLast
      rw [← paged] at done frames
      have whole := written.complete sorted grown reaches (Int.le_of_lt within) done
      rw [← frames] at whole
      exact .complete wrote.broken whole
    · next goesOn =>
      have here := written.extend sorted grown read
      rw [← frames] at here
      have le := positionAfter_takeWhile_le (Int.le_of_lt within) entries
      have further := lt_positionAfter (sorted.sublist grown.sublist) paged goesOn
      exact page_advances wrote.broken here further le now _ keepalive
  · rw [failed]
    exact .lost broken

end Session

end RegistryFeed
