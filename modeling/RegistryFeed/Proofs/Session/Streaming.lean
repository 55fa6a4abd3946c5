import RegistryFeed.Session.Live

/-!
# What a step of a stream writes

Each step of a session that streams either leaves the text for the client as it
is, or puts the frames of one page behind it, or ends it. A step that cannot
send ends the session and writes nothing. Which entries a page has, and whether
it is still wanted, does not matter here.
-/

namespace RegistryFeed

/-! ## Writing -/

namespace Outbox

theorem text_of_close (o : Outbox) : o.close.text = o.text := by
  unfold close
  split
  · next p flushed => exact (text_of_flush flushed).1
  · rfl

/-- Flushing and writing send or hold back text, and notice nothing new about the client. -/
theorem broken_of_flush {o p : Outbox} (h : o.flush = .ok p) : p.broken = o.broken := by
  unfold flush at h
  split at h
  · cases h
    rfl
  · split at h
    · cases h
    · cases h
      rfl

theorem broken_of_write {o p : Outbox} {text : String} (h : o.write text = .ok p) :
    p.broken = o.broken := by
  unfold write at h
  split at h
  · cases h
  · next q room =>
    have same : q.broken = o.broken := by
      unfold makeRoom at room
      split at room
      · exact broken_of_flush room
      · cases room
        rfl
    split at h
    · cases h
      exact same
    · split at h
      · cases h
      · cases h
        exact same

theorem broken_of_writeAll {o p : Outbox} {texts : List String} (h : o.writeAll texts = .ok p) :
    p.broken = o.broken := by
  unfold writeAll at h
  induction texts generalizing o with
  | nil =>
    cases h
    rfl
  | cons t texts ih =>
    rw [List.foldlM_cons] at h
    obtain ⟨q, written, h⟩ := bind_eq_ok_iff.mp h
    exact (ih h).trans (broken_of_write written)

theorem flush_of_connected {o : Outbox} (h : o.broken = false) : ∃ p, o.flush = .ok p := by
  unfold flush
  split
  · exact ⟨o, rfl⟩
  · rw [if_neg (by simp [h])]
    exact ⟨_, rfl⟩

theorem write_of_connected {o : Outbox} (h : o.broken = false) (text : String) :
    ∃ p, o.write text = .ok p := by
  have room : ∃ p, o.makeRoom text = .ok p ∧ p.broken = false := by
    unfold makeRoom
    split
    · obtain ⟨p, flushed⟩ := flush_of_connected h
      exact ⟨p, flushed, (broken_of_flush flushed).trans h⟩
    · exact ⟨o, rfl, h⟩
  obtain ⟨p, made, connected⟩ := room
  unfold write
  rw [made]
  simp only [connected, Bool.false_eq_true, if_false]
  split
  · exact ⟨_, rfl⟩
  · exact ⟨_, rfl⟩

/-- While the client is there, everything can be written. -/
theorem writeAll_of_connected {o : Outbox} (h : o.broken = false) (texts : List String) :
    ∃ p, o.writeAll texts = .ok p := by
  unfold writeAll
  induction texts generalizing o with
  | nil => exact ⟨o, rfl⟩
  | cons t texts ih =>
    obtain ⟨p, written⟩ := write_of_connected h t
    obtain ⟨q, all⟩ := ih ((broken_of_write written).trans h)
    refine ⟨q, ?_⟩
    rw [List.foldlM_cons, written]
    exact all

/-- Texts were put behind all others, and sent if they had to be. -/
structure Wrote (o : Outbox) (flush : Bool) (texts : List String) (p : Outbox) : Prop where
  text : p.text = o.text ++ String.join texts
  broken : p.broken = o.broken
  held : flush = true → p.held = ""

theorem sent_of_nothing {o : Outbox} (h : o.held = "") : o.sent = o.text := by
  rw [text, h, String.append_empty]

/-- While the client is there, closing sends all that is written. -/
theorem sent_of_close {o : Outbox} (connected : o.broken = false) : o.close.sent = o.text := by
  obtain ⟨p, flushed⟩ := flush_of_connected connected
  obtain ⟨same, none⟩ := text_of_flush flushed
  rw [close, flushed, ← same]
  exact sent_of_nothing none

end Outbox

namespace Session

theorem text_of_finish (s : Session) (now : Span) (result : Except EngineError SessionEnd) :
    (s.finish now result).outbox.text = s.outbox.text := Outbox.text_of_close s.outbox

/-- Texts are written behind all others and the session goes on, or it ends as it is. -/
theorem emit_cases (s : Session) (now : Span) (flush : Bool) (texts : List String)
    (next : Session → Session) :
    (∃ o, s.outbox.Wrote flush texts o ∧
      s.emit now flush texts next = next { s with outbox := o }) ∨
    (s.outbox.broken = true ∧ ∃ fault,
      s.emit now flush texts next = s.finish now (.error (.io fault))) := by
  unfold emit
  cases written : s.outbox.writeAll texts with
  | error fault =>
    refine .inr ⟨?_, fault, rfl⟩
    cases broken : s.outbox.broken with
    | true => rfl
    | false =>
      obtain ⟨p, all⟩ := Outbox.writeAll_of_connected broken texts
      rw [written] at all
      cases all
  | ok o =>
    have text := Outbox.text_of_writeAll written
    have same := Outbox.broken_of_writeAll written
    cases flush with
    | false => exact .inl ⟨o, ⟨text, same, by simp⟩, rfl⟩
    | true =>
      cases flushed : o.flush with
      | ok p =>
        obtain ⟨kept, none⟩ := Outbox.text_of_flush flushed
        have still := (Outbox.broken_of_flush flushed).trans same
        refine .inl ⟨p, ⟨kept.trans text, still, fun _ => none⟩, ?_⟩
        simp [bind, Except.bind, flushed]
      | error fault =>
        refine .inr ⟨?_, fault, by simp [bind, Except.bind, flushed]⟩
        cases broken : s.outbox.broken with
        | true => rfl
        | false =>
          obtain ⟨q, done⟩ := Outbox.flush_of_connected (same.trans broken)
          rw [flushed] at done
          cases done

theorem emit_of_connected {s : Session} (connected : s.outbox.broken = false) (now : Span)
    (flush : Bool) (texts : List String) (next : Session → Session) :
    ∃ o, s.outbox.Wrote flush texts o ∧
      s.emit now flush texts next = next { s with outbox := o } := by
  rcases s.emit_cases now flush texts next with written | ⟨broken, -⟩
  · exact written
  · exact absurd (connected.symm.trans broken) Bool.false_ne_true

end Session

/-! ## One step of a call -/

namespace Subscription

/-- The ways in which a call goes on or ends. -/
theorem step_cases (s : Subscription) (e : Event) :
    (∃ call, s.step e = ({ s with call := call }, none)) ∨
    (∃ entries last, e = .page (.ok entries) ∧ entries.getLast? = some last ∧
      s.step e = ({ s with cursor := last.serial, call := .idle }, some (.batch entries))) ∨
    ((e = .look true ∨ e = .detached) ∧
      s.step e = ({ s with call := .idle }, some .cancelled)) ∨
    (∃ error, e = .page (.error error) ∧
      s.step e = ({ s with call := .idle }, some (.failed error))) := by
  have stays : ({ s with call := s.call }, none) = (s, (none : Option Outcome)) := rfl
  unfold step
  split
  · exact .inl ⟨_, rfl⟩
  · next cancelled _ =>
    cases cancelled with
    | false => exact .inl ⟨_, rfl⟩
    | true => exact .inr (.inr (.inl ⟨.inl rfl, rfl⟩))
  · next error _ => exact .inr (.inr (.inr ⟨error, rfl, rfl⟩))
  · next entries _ =>
    cases last : entries.getLast? with
    | none => exact .inl ⟨_, rfl⟩
    | some e => exact .inr (.inl ⟨entries, e, rfl, last, rfl⟩)
  · exact .inl ⟨_, rfl⟩
  · exact .inr (.inr (.inl ⟨.inr rfl, rfl⟩))
  · exact .inl ⟨_, rfl⟩
  · exact .inl ⟨_, stays.symm⟩

/-- However far a call has come, it can be given up for a new one. -/
theorem begin_again (s : Subscription) :
    ((s.step .abandon).1.step .begin).1 = { s with call := .looking } := by
  cases call : s.call <;> simp [step, call]

end Subscription

/-! ## One step of a stream -/

namespace Session

theorem framesText_append (a b : List Entry) :
    framesText (a ++ b) = framesText a ++ framesText b := by
  rw [framesText, List.map_append, String.join_append, framesText, framesText]

/-- What a step makes of a session that tails a subscription, where a page may have come. -/
inductive Streams (s : Session) (sub : Subscription) (page : List Entry) : Session → Prop
  | waits {t : Session} {call : Call} {deadline : Span}
      (phase : t.phase = .tailing { sub with call := call } deadline)
      (text : t.outbox.text = s.outbox.text) : Streams s sub page t
  | hands {t : Session} {last : Entry} {deadline : Span} (ends : page.getLast? = some last)
      (phase : t.phase =
        .tailing { sub with cursor := last.serial, call := .looking } deadline)
      (text : t.outbox.text = s.outbox.text ++ framesText page) : Streams s sub page t
  | closes {t : Session} {result : Except EngineError SessionEnd}
      (phase : t.phase = .ended result) (other : result ≠ .ok .cancelled)
      (text : t.outbox.text = s.outbox.text) : Streams s sub page t
  | cancels {t : Session} (asked : s.signal.Stops)
      (phase : t.phase = .ended (.ok .cancelled))
      (text : t.outbox.text = s.outbox.text ++ endText sub.source) : Streams s sub page t

theorem tail_streams {s : Session} {now deadline : Span} {sub : Subscription}
    {e : Subscription.Event} {page : List Entry}
    (same : ∀ entries, e = .page (.ok entries) → entries = page)
    (asked : e = .look true ∨ e = .detached → s.signal.Stops) :
    Streams s sub page (s.tail now deadline sub e) := by
  unfold tail
  rcases sub.step_cases e with ⟨call, h⟩ | ⟨entries, last, rfl, ends, h⟩ | ⟨he, h⟩ | ⟨error, _, h⟩
  · rw [h]
    exact .waits rfl rfl
  · have here := same entries rfl
    subst here
    rw [h]
    simp only
    rcases s.emit_cases now true (entries.map fun e => (Frame.ofEntry e).text) fun s =>
        { s.observe [.entriesStreamed sub.source.name entries.length] with
          phase := .tailing
            (({ sub with cursor := last.serial, call := .idle } : Subscription).step .begin).1
            now } with ⟨o, wrote, emitted⟩ | ⟨_, fault, failed⟩
    · rw [emitted]
      exact .hands ends rfl wrote.text
    · rw [failed]
      exact .closes rfl (by simp) (text_of_finish s now _)
  · rw [h]
    simp only
    rcases s.emit_cases now true [endText sub.source] fun s => s.finish now (.ok .cancelled) with
      ⟨o, wrote, emitted⟩ | ⟨_, fault, failed⟩
    · rw [emitted]
      refine .cancels (asked he) rfl ?_
      rw [text_of_finish, wrote.text, String.join_cons, String.join_nil, String.append_empty]
    · rw [failed]
      exact .closes rfl (by simp) (text_of_finish s now _)
  · rw [h]
    exact .closes rfl (by simp) (text_of_finish s now _)

/-- An event that neither brings a page nor stops the call writes nothing. -/
theorem tail_streams_of_plain {s : Session} {now deadline : Span} {sub : Subscription}
    {e : Subscription.Event} (noPage : ∀ entries, e ≠ .page (.ok entries))
    (unstopped : e ≠ .look true) (attached : e ≠ .detached) :
    Streams s sub [] (s.tail now deadline sub e) := by
  refine tail_streams ?_ ?_
  · intro entries he
    exact absurd he (noPage entries)
  · rintro (he | he)
    · exact absurd he unstopped
    · exact absurd he attached

/-- To have noticed its signal asks a session for no more than the signal does. -/
theorem Streams.of_noted {s t : Session} {sub : Subscription} {page : List Entry}
    (h : Streams { s with signal := s.signal.noted } sub page t) : Streams s sub page t := by
  cases h with
  | waits phase text => exact .waits phase text
  | hands ends phase text => exact .hands ends phase text
  | closes phase other text => exact .closes phase other text
  | cancels asked phase text => exact .cancels asked phase text

/-- A step of a session that changes neither its phase nor what is written. -/
structure Untouched (s t : Session) : Prop where
  phase : t.phase = s.phase
  text : t.outbox.text = s.outbox.text
  settings : t.settings = s.settings

theorem step_of_ended {s : Session} {result : Except EngineError SessionEnd}
    (h : s.phase = .ended result) (now : Span) (e : Event) : Untouched s (s.step now e) := by
  cases e with
  | signal value => exact ⟨rfl, rfl, rfl⟩
  | detached => exact ⟨rfl, rfl, rfl⟩
  | gone => exact ⟨rfl, rfl, rfl⟩
  | _ => simp only [step, h]; exact ⟨rfl, rfl, rfl⟩

/-- A session that neither reads lines nor follows the log is not interrupted. -/
theorem step_undisturbed {s : Session} (deaf : ∀ deadline, s.phase ≠ .reading deadline)
    (still : ∀ sub deadline, s.phase ≠ .tailing sub deadline) (now : Span) {e : Event}
    (other : ∀ r, e ≠ .reply r) : Untouched s (s.step now e) := by
  cases e with
  | signal value => exact ⟨rfl, rfl, rfl⟩
  | detached => exact ⟨rfl, rfl, rfl⟩
  | gone => exact ⟨rfl, rfl, rfl⟩
  | reply r => exact absurd rfl (other r)
  | _ =>
    cases phase : s.phase with
    | reading deadline => exact absurd phase (deaf deadline)
    | tailing sub deadline => exact absurd phase (still sub deadline)
    | _ => simp only [step, phase]; exact ⟨rfl, rfl, rfl⟩

/-- A range that is being served is not interrupted. -/
theorem step_of_paging {s : Session} {source : Source} {cursor last : Int} {streamed : Nat}
    {keepalive : Bool} (h : s.phase = .paging source cursor last streamed keepalive) (now : Span)
    {e : Event} (other : ∀ r, e ≠ .reply r) : Untouched s (s.step now e) :=
  step_undisturbed (by simp [h]) (by simp [h]) now other

theorem step_of_tailing {s : Session} {sub : Subscription} {deadline : Span}
    (h : s.phase = .tailing sub deadline) (now : Span) {e : Event} (other : ∀ r, e ≠ .reply r) :
    Streams s sub [] (s.step now e) := by
  have same : s.phase = .tailing { sub with call := sub.call } deadline := h
  have stays : ∀ signal, Streams s sub [] { s with signal := signal } :=
    fun _ => .waits same rfl
  cases e with
  | signal value => exact stays _
  | detached => exact stays _
  | gone => exact .waits same rfl
  | reply r => exact absurd rfl (other r)
  | line text =>
    simp only [step, h]
    rw [Subscription.begin_again]
    exact .waits rfl rfl
  | garbled length index =>
    simp only [step, h]
    exact .closes rfl (by simp) (text_of_finish s now _)
  | closed =>
    simp only [step, h]
    exact .closes rfl (by simp) (text_of_finish s now _)
  | look =>
    simp only [step, h]
    refine tail_streams (fun entries he => by cases he) ?_
    rintro (he | he)
    · exact .inl (Subscription.Event.look.inj he)
    · cases he
  | deadline =>
    simp only [step, h]
    split
    · exact tail_streams_of_plain (by simp) (by simp) (by simp)
    · exact stays s.signal
  | notice =>
    simp only [step, h]
    split
    · exact stays s.signal
    · split
      · refine Streams.of_noted ?_
        exact tail_streams_of_plain (by simp) (by simp) (by simp)
      · split
        · exact stays s.signal
        · next detached =>
          refine tail_streams (fun entries he => by cases he) ?_
          intro _
          exact .inr (by simpa using detached)

/-- A page that reaches a stream in time. -/
theorem reply_of_tailing {s : Session} {sub : Subscription} {deadline : Span}
    (h : s.phase = .tailing sub deadline) (now : Span) (entries : List Entry) :
    Streams s sub entries (s.step now (.reply (.page (.ok entries)))) := by
  simp only [step, h]
  refine tail_streams (fun es he => ?_) ?_
  · cases he
    rfl
  · rintro (he | he)
    · cases he
    · cases he

/-- While the client is there, a page that is waited for is written as a whole. -/
theorem text_of_page {s : Session} {sub : Subscription} {deadline : Span}
    (h : s.phase = .tailing sub deadline) (call : sub.call = .reading)
    (connected : s.outbox.broken = false) (now : Span) (entries : List Entry) :
    (s.step now (.reply (.page (.ok entries)))).outbox.text =
      s.outbox.text ++ framesText entries := by
  simp only [step, h, tail, Subscription.step, call]
  cases hl : entries.getLast? with
  | none =>
    rw [List.getLast?_eq_none_iff.mp hl]
    exact String.append_empty.symm
  | some last =>
    simp only
    rcases s.emit_cases now true (entries.map fun e => (Frame.ofEntry e).text) _ with
      ⟨o, wrote, emitted⟩ | ⟨broken, _⟩
    · rw [emitted]
      exact wrote.text
    · rw [connected] at broken
      cases broken

theorem failure_of_tailing {s : Session} {sub : Subscription} {deadline : Span}
    (h : s.phase = .tailing sub deadline) (now : Span) (error : EngineError) :
    Streams s sub [] (s.step now (.reply (.page (.error error)))) := by
  simp only [step, h]
  exact tail_streams_of_plain (by simp) (by simp) (by simp)

end Session

end RegistryFeed
