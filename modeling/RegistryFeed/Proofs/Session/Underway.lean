import RegistryFeed.Proofs.Session.Dialogue

/-!
# Answers on an unsteady log

Any reading of the log may fail, and other programs append in between; lines, signals and deadlines
come at any time and the client may be gone. A session rests, with nothing left to send, or it
answers the last line that it has accepted. What it has written of that answer is nothing before
the range is granted, and then the start of the range and one window on the log.
-/

namespace RegistryFeed

namespace Session

variable {s : Session}

/-- A session collects the answer to a query for information, and has written nothing of it. -/
def Informs (s : Session) : Prop :=
  (∃ option source more text, s.phase = .describing option source more text) ∨
    ∃ source more text, s.phase = .versioning source more text

theorem Informs.of_phase {t : Session} (h : s.Informs) (same : t.phase = s.phase) : t.Informs := by
  rw [Informs, same]
  exact h

theorem step_of_informs (h : s.Informs) (now : Span) {e : Event} (other : ∀ r, e ≠ .reply r) :
    Untouched s (s.step now e) := by
  rcases h with ⟨option, source, more, text, phase⟩ | ⟨source, more, text, phase⟩
  · exact step_undisturbed (by simp [phase]) (by simp [phase]) now other
  · exact step_undisturbed (by simp [phase]) (by simp [phase]) now other

/-- Between two requests all that was written is sent; behind the end nothing is written. -/
inductive Rests (s : Session) : Prop
  | reading {deadline : Span} (phase : s.phase = .reading deadline) (held : s.outbox.held = "")
  | ended {result : Except EngineError SessionEnd} (phase : s.phase = .ended result)

theorem Rests.silent (h : s.Rests) : s.reading? = none := by
  cases h with
  | reading phase _ | ended phase => simp [reading?, phase]

theorem reject_rests (s : Session) (now : Span) (f : Request.Fault) : (s.reject now f).Rests := by
  unfold reject
  rcases (s.observe [.protocolError f.code.number]).emit_cases now true [f.line ++ "\n\n"]
    (readOn now) with ⟨o, wrote, emitted⟩ | ⟨_, fault, failed⟩
  · rw [emitted]
    exact .reading rfl (wrote.held rfl)
  · rw [failed]
    exact .ended rfl

theorem answer_rests (s : Session) (now : Span) (kind text : String) :
    (s.answer now kind text).Rests := by
  unfold answer
  rcases s.emit_cases now true [text ++ "\n"] fun s =>
      (s.observe [.query kind "ok"]).finish now (.ok .completed) with
    ⟨o, _, emitted⟩ | ⟨_, fault, failed⟩
  · rw [emitted]
    exact .ended rfl
  · rw [failed]
    exact .ended rfl

theorem describe_informs (s : Session) (now : Span) (option : Request.InfoOption)
    (more : List Source) (text : String) :
    (s.describe now option more text).Informs ∧
        (s.describe now option more text).outbox = s.outbox ∨
      (s.describe now option more text).Rests := by
  cases more with
  | cons source more => exact .inl ⟨.inl ⟨option, source, more, text, rfl⟩, rfl⟩
  | nil =>
    cases option with
    | sources => exact .inr (s.answer_rests now "sources" text)
    | version => exact .inr (s.answer_rests now "version" text)

/-- A line is turned down, or its answer begins; nothing of that is written yet. -/
theorem request_cases (s : Session) (now : Span) (line : String) :
    (s.request now line).Rests ∨
      ((∃ self option, Request.parse s.context line = .ok (.info self option)) ∧
        (s.request now line).Informs ∧ (s.request now line).outbox = s.outbox) ∨
      ∃ source first final keepalive,
        Request.parse s.context line = .ok (.changes source first final keepalive) ∧
        s.request now line = { s with phase := .checking source first final keepalive } := by
  unfold request
  cases Request.parse s.context line with
  | error f => exact .inl (reject_rests _ now f)
  | ok q =>
    cases q with
    | info self option =>
      cases option with
      | sources =>
        exact (s.describe_informs now _ _ _).symm.imp_right fun h => .inl ⟨⟨self, .sources, rfl⟩, h⟩
      | version =>
        exact (s.describe_informs now _ _ _).symm.imp_right fun h => .inl ⟨⟨self, .version, rfl⟩, h⟩
    | changes source first final keepalive =>
      exact .inr (.inr ⟨source, first, final, keepalive, rfl, rfl⟩)

/-- Whatever else happens to a session that waits for a line, it goes on to wait or ends. -/
theorem step_of_reading {deadline : Span} (phase : s.phase = .reading deadline)
    (held : s.outbox.held = "") (now : Span) {e : Event} (other : ∀ r, e ≠ .reply r)
    (unasked : ∀ line, e ≠ .line line) : (s.step now e).Rests := by
  cases e with
  | line text => exact absurd rfl (unasked text)
  | reply r => exact absurd rfl (other r)
  | signal | detached | gone => exact .reading phase held
  | garbled | closed =>
    simp only [step, phase]
    exact .ended rfl
  | deadline | notice =>
    simp only [step, phase]
    split
    · exact .ended rfl
    · exact .reading phase held
  | look =>
    simp only [step, phase]
    exact .reading phase held

/-- Whatever the log replies, nothing is written before all of the answer is there. -/
theorem reply_of_informs (h : s.Informs) (now : Span) (r : Reply) :
    (s.step now (.reply r)).Informs ∧ (s.step now (.reply r)).outbox = s.outbox ∨
      (s.step now (.reply r)).Rests := by
  have stays : s.step now (.reply r) = s → (s.step now (.reply r)).Informs ∧
      (s.step now (.reply r)).outbox = s.outbox ∨ (s.step now (.reply r)).Rests := by
    intro same
    rw [same]
    exact .inl ⟨h, rfl⟩
  rcases h with ⟨option, source, more, text, phase⟩ | ⟨source, more, text, phase⟩
  · cases r with
    | page _ => exact stays (by simp only [step, phase])
    | latest _ => exact stays (by simp only [step, phase])
    | range result =>
      cases result with
      | error error =>
        simp only [step, phase]
        exact .inr (.ended rfl)
      | ok r =>
        cases option with
        | sources =>
          simp only [step, phase]
          exact s.describe_informs now _ _ _
        | version =>
          simp only [step, phase]
          exact .inl ⟨.inr ⟨_, _, _, rfl⟩, trivial⟩
  · cases r with
    | page _ => exact stays (by simp only [step, phase])
    | range _ => exact stays (by simp only [step, phase])
    | latest result =>
      cases result with
      | error error =>
        simp only [step, phase]
        exact .inr (.ended rfl)
      | ok v =>
        simp only [step, phase]
        exact s.describe_informs now _ _ _

/-- A range that was served to its end is followed by a subscription, or by the end. -/
theorem rangeServed_cases (s : Session) (now : Span) (source : Source) (last : Int)
    (streamed : Nat) (keepalive : Bool) :
    (keepalive = true ∧
      (s.rangeServed now source last streamed keepalive).phase =
        .tailing ⟨source, last, max s.settings.batch 1, .looking⟩ now ∧
      (s.rangeServed now source last streamed keepalive).outbox.text = s.outbox.text) ∨
    (s.rangeServed now source last streamed keepalive).Rests := by
  unfold rangeServed
  rcases s.emit_cases now true [] _ with ⟨o, wrote, emitted⟩ | ⟨_, fault, failed⟩
  · rw [emitted]
    cases keepalive with
    | true =>
      refine .inl ⟨rfl, rfl, wrote.text.trans ?_⟩
      rw [String.join_nil, String.append_empty]
    | false =>
      refine .inr ?_
      simp only [Bool.false_eq_true, if_false]
      rcases emit_cases _ now true [endText source] _ with ⟨p, _, emitted⟩ | ⟨_, fault, failed⟩
      · rw [emitted]
        exact .ended rfl
      · rw [failed]
        exact .ended rfl
  · rw [failed]
    exact .inr (.ended rfl)

/-- The failure of a reading that a session waits for ends it. -/
theorem step_failed {question : Reading} (asks : s.reading? = some question) (error : EngineError)
    (now : Span) : s.step now (.reply (question.failed error)) = s.finish now (.error error) := by
  cases phase : s.phase with
  | reading | ended => simp [reading?, phase] at asks
  | describing | versioning | checking | paging =>
    simp only [reading?, phase, Option.some.injEq] at asks
    subst asks
    simp only [Reading.failed, step, phase]
  | tailing sub deadline =>
    obtain ⟨reading, rfl⟩ := call_of_asking phase asks
    simp only [Reading.failed, step, phase, tail, Subscription.step, reading]

theorem notice_keeps (s : Session) (now : Span) :
    (s.step now .notice).context = s.context ∧ (s.step now .notice).settings = s.settings := by
  have kept {t : Session} (alike : Alike s t) : t.context = s.context ∧ t.settings = s.settings :=
    ⟨alike.context, alike.settings⟩
  cases phase : s.phase with
  | reading deadline =>
    simp only [step, phase]
    split
    · exact kept (s.finish_alike now _)
    · exact kept (.refl s)
  | tailing sub deadline =>
    simp only [step, phase]
    split
    · exact kept (.refl s)
    · split
      · have alike := tail_alike { s with signal := s.signal.noted } now deadline sub .wake
        exact ⟨alike.context, alike.settings⟩
      · split
        · exact kept (.refl s)
        · exact kept (s.tail_alike now deadline sub .detached)
  | _ => simp only [step, phase, and_self]

/-- The client and the settings are the same for ever. -/
theorem step_keeps (s : Session) (now : Span) (e : Event) :
    (s.step now e).context = s.context ∧ (s.step now e).settings = s.settings := by
  by_cases told : e.Told
  · have alike := s.step_alike now told
    exact ⟨alike.context, alike.settings⟩
  · cases e with
    | signal | detached | gone => exact ⟨rfl, rfl⟩
    | notice => exact s.notice_keeps now
    | line | garbled | closed | deadline | look | reply => exact absurd trivial told

end Session

namespace LiveSession

open Dialogue

variable {ctx : SourceContext} {seen : LogView → Prop} {s t : LiveSession}

/-- The log is in order, and a reply on its way is a failure or was read from a state of the log
that has been seen. -/
structure Sure (ctx : SourceContext) (seen : LogView → Prop) (s : LiveSession) : Prop where
  context : s.session.context = ctx
  size : 1 ≤ s.session.settings.batch
  ordered : ∀ source, Ordered (s.log.entries source)
  honest : ∀ source, s.exchange.Honest source fun es => ∃ v, seen v ∧ v.entries source = es

theorem Sure.step (h : s.Sure ctx seen) (now : seen s.log) (e : Event) :
    (s.step e).Sure ctx seen := by
  have kept : (s.step e).session.context = s.session.context ∧
      (s.step e).session.settings = s.session.settings := by
    rcases s.session_step e with same | ⟨time, x, same⟩
    · rw [same]
      exact ⟨rfl, rfl⟩
    · rw [same]
      exact s.session.step_keeps time x
  exact ⟨kept.1.trans h.context, kept.2 ▸ h.size, fun source => step_ordered (h.ordered source) e,
    fun source => honest_step (h.honest source) ⟨s.log, now, rfl⟩ e⟩

/-- How far the answer to an accepted line has come, behind what was sent before. -/
inductive Underway (ctx : SourceContext) (seen : LogView → Prop) (line opening : String)
    (s : LiveSession) : Prop
  | informing {self : Source} {option : Request.InfoOption}
      (accepted : Request.parse ctx line = .ok (.info self option))
      (informs : s.session.Informs) (text : s.session.outbox.text = opening) :
      Underway ctx seen line opening s
  | checking {source : Source} {first : Int} {final : Request.RangeEnd} {keepalive : Bool}
      (accepted : Request.parse ctx line = .ok (.changes source first final keepalive))
      (phase : s.session.phase = .checking source first final keepalive)
      (text : s.session.outbox.text = opening) : Underway ctx seen line opening s
  | paging {source : Source} {first last cursor : Int} {streamed : Nat} {keepalive : Bool}
      {v : LogView} (phase : s.session.phase = .paging source cursor last streamed keepalive)
      (granted : Granted ctx seen line source first last keepalive v)
      (range : v.entries source <+: s.log.entries source) (within : cursor < last)
      (written : Written first (opening ++ startText source first last) (s.log.entries source)
        cursor s.session.outbox.text)
      (fresh : s.exchange.Honest source (Reaches · last)) : Underway ctx seen line opening s
  | tailing {first last : Int} {sub : Subscription} {deadline : Span} {v : LogView}
      (phase : s.session.phase = .tailing sub deadline)
      (granted : Granted ctx seen line sub.source first last true v)
      (range : v.entries sub.source <+: s.log.entries sub.source) (beyond : last ≤ sub.cursor)
      (written : Written first (opening ++ startText sub.source first last)
        (s.log.entries sub.source) sub.cursor s.session.outbox.text) :
      Underway ctx seen line opening s

variable {line opening : String}

/-- What happens to the log alone leaves an answer where it is. -/
theorem Underway.grow (h : Underway ctx seen line opening s) (e : Event)
    (session : (s.step e).session = s.session) (sure : (s.step e).Sure ctx seen)
    (grown : Grows s.log (s.step e).log) : Underway ctx seen line opening (s.step e) := by
  cases h with
  | informing accepted informs text =>
    exact .informing accepted (session ▸ informs) (session ▸ text)
  | checking accepted phase text => exact .checking accepted (session ▸ phase) (session ▸ text)
  | paging phase granted range within written fresh =>
    refine .paging (session ▸ phase) granted (range.trans (grown _)) within ?_
      (honest_step fresh (granted.reaches.2.mono range) e)
    rw [session]
    exact written.grow (sure.ordered _) (grown _)
  | tailing phase granted range beyond written =>
    refine .tailing (session ▸ phase) granted (range.trans (grown _)) beyond ?_
    rw [session]
    exact written.grow (sure.ordered _) (grown _)

/-- An answer is not interrupted, except by the end of the session. -/
theorem Underway.act (h : Underway ctx seen line opening s) (now : Span) {e : Session.Event}
    (other : ∀ r, e ≠ .reply r) :
    Underway ctx seen line opening (s.step (.act now e)) ∨
      (s.step (.act now e)).session.Rests := by
  have stepped := s.step_act now other
  cases h with
  | informing accepted informs text =>
    obtain ⟨same, written, -⟩ := Session.step_of_informs informs now other
    rw [stepped]
    exact .inl (.informing accepted (informs.of_phase same) (written.trans text))
  | checking accepted phase text =>
    obtain ⟨same, written, -⟩ := Session.step_undisturbed (s := s.session) (by simp [phase])
      (by simp [phase]) now other
    rw [stepped]
    exact .inl (.checking accepted (same.trans phase) (written.trans text))
  | paging phase granted range within written fresh =>
    have kept := honest_step fresh (granted.reaches.2.mono range) (.act now e)
    obtain ⟨same, text, -⟩ := Session.step_of_paging phase now other
    rw [stepped] at kept ⊢
    exact .inl (.paging (same.trans phase) granted range within (text ▸ written) kept)
  | tailing phase granted range beyond written =>
    have streams := Session.step_of_tailing phase now other
    rw [stepped]
    generalize s.session.step now e = u at streams
    cases streams with
    | waits phase text => exact .inl (.tailing phase granted range beyond (text ▸ written))
    | hands ends _ _ => cases ends
    | closes phase _ _ => exact .inr (.ended phase)
    | cancels _ phase _ => exact .inr (.ended phase)

/-- Wherever a range has come to, its answer goes on from there or is at its end. -/
theorem Underway.of_advances {source : Source} {first last floor : Int} {keepalive : Bool}
    {v log : LogView} {now : Span} {x u : Session}
    (granted : Granted ctx seen line source first last keepalive v)
    (range : v.entries source <+: log.entries source)
    (h : x.Advances now source first last (opening ++ startText source first last)
      (log.entries source) keepalive floor u) :
    Underway ctx seen line opening ⟨u, log, none⟩ ∨ u.Rests := by
  cases h with
  | further _ _ within written =>
    exact .inl (.paging rfl granted range within written (.of_none rfl))
  | lost _ => exact .inr (.ended rfl)
  | @complete o streamed _ written =>
    rcases Session.rangeServed_cases { x with outbox := o } now source last streamed keepalive with
      ⟨rfl, phase, text⟩ | rests
    · exact .inl (.tailing phase granted range (Int.le_refl _) (text ▸ written))
    · exact .inr rests

/-- The range of the log has come: the request is refused, or its answer begins. -/
theorem Underway.serveRange {source : Source} {first : Int} {final : Request.RangeEnd}
    {keepalive : Bool} {v log : LogView} {x : Session}
    (accepted : Request.parse ctx line = .ok (.changes source first final keepalive))
    (text : x.outbox.text = opening) (state : seen v)
    (range : v.entries source <+: log.entries source) (now : Span) :
    Underway ctx seen line opening
        ⟨x.serveRange now source first final keepalive (serialRange (v.entries source)),
          log, none⟩ ∨
      (x.serveRange now source first final keepalive (serialRange (v.entries source))).Rests := by
  cases checked : Session.checkRange first final (serialRange (v.entries source)) with
  | error f =>
    rw [Session.serveRange, checked]
    exact .inr (Session.reject_rests _ now f)
  | ok last =>
    have granted : Granted ctx seen line source first last keepalive v :=
      ⟨state, final, accepted, checked⟩
    obtain ⟨inOrder, reached⟩ := granted.reaches
    have advances := Session.serveRange_advances (s := x) source checked (reached.mono range)
      inOrder now keepalive
    rw [text] at advances
    exact Underway.of_advances granted range advances

/-- A reply, or the failure to reply, moves an answer on or brings it to an end. -/
theorem Underway.deliver (h : Underway ctx seen line opening s) (sure : s.Sure ctx seen)
    {reply : Reply} (pending : s.pending = some reply) (now : Span) :
    Underway ctx seen line opening ⟨s.session.step now (.reply reply), s.log, none⟩ ∨
      (s.session.step now (.reply reply)).Rests := by
  cases h with
  | informing accepted informs text =>
    rcases Session.reply_of_informs informs now reply with ⟨informs', same⟩ | rests
    · exact .inl (.informing accepted informs' ((congrArg Outbox.text same).trans text))
    · exact .inr rests
  | @checking source first final keepalive accepted phase text =>
    obtain ⟨question, asks, ⟨error, rfl⟩ | ⟨old, grown, ⟨v, state, same⟩, rfl⟩⟩ :=
      honest_reply (sure.honest source) pending
    · rw [Session.step_failed asks]
      exact .inr (.ended rfl)
    · simp only [Session.reading?, phase, Option.some.injEq] at asks
      subst asks
      simp only [LogView.reply, Session.step, phase, ← same]
      exact Underway.serveRange accepted text state (same ▸ grown) now
  | @paging source first last cursor streamed keepalive v phase granted range within written
      fresh =>
    obtain ⟨question, asks, ⟨error, rfl⟩ | ⟨old, grown, reached, rfl⟩⟩ :=
      honest_reply fresh pending
    · rw [Session.step_failed asks]
      exact .inr (.ended rfl)
    · simp only [Session.reading?, phase, Option.some.injEq] at asks
      subst asks
      simp only [LogView.reply, Session.step, phase]
      exact Underway.of_advances granted range (Session.turnPage_advances written
        (sure.ordered source) grown reached now streamed keepalive sure.size within)
  | @tailing first last sub deadline v phase granted range beyond written =>
    obtain ⟨question, asks, ⟨error, rfl⟩ | ⟨old, grown, -, rfl⟩⟩ :=
      honest_reply (sure.honest sub.source) pending
    · rw [Session.step_failed asks]
      exact .inr (.ended rfl)
    · obtain ⟨-, rfl⟩ := Session.call_of_asking phase asks
      have read := List.take_prefix sub.batchSize
        (entriesAfter (old.entries sub.source) sub.cursor)
      have streams := Session.reply_of_tailing phase now
        ((entriesAfter (old.entries sub.source) sub.cursor).take sub.batchSize)
      have extended := written.extend (sure.ordered sub.source) grown read
      have further := (window_append_part (sure.ordered sub.source) grown read written.start).1
      simp only [LogView.reply]
      generalize s.session.step now _ = u at streams
      cases streams with
      | waits phase text => exact .inl (.tailing phase granted range beyond (text ▸ written))
      | hands ends phase text =>
        rw [← text, positionAfter_of_getLast? ends] at extended
        rw [positionAfter_of_getLast? ends] at further
        exact .inl (.tailing phase granted range (Int.le_trans beyond further) extended)
      | closes phase _ _ => exact .inr (.ended phase)
      | cancels _ phase _ => exact .inr (.ended phase)

theorem Underway.step (h : Underway ctx seen line opening s) (sure : s.Sure ctx seen)
    (now : seen s.log) (e : Event) :
    Underway ctx seen line opening (s.step e) ∨ (s.step e).session.Rests := by
  have after := sure.step now e
  cases e with
  | act time x =>
    rcases s.step_act_cases time x with same | other
    · rw [same]
      exact .inl h
    · exact h.act time other
  | read =>
    obtain ⟨session, log⟩ : (s.step .read).session = s.session ∧ (s.step .read).log = s.log :=
      s.ask_same s.log.reply
    exact .inl (h.grow .read session after fun _ => log ▸ List.prefix_rfl)
  | fail error =>
    obtain ⟨session, log⟩ :
        (s.step (.fail error)).session = s.session ∧ (s.step (.fail error)).log = s.log :=
      s.ask_same (Reading.failed error)
    exact .inl (h.grow (.fail error) session after fun _ => log ▸ List.prefix_rfl)
  | deliver time =>
    cases pending : s.pending with
    | none =>
      simp only [LiveSession.step, pending]
      exact .inl h
    | some reply =>
      simp only [LiveSession.step, pending]
      exact h.deliver sure pending time
  | append source entry =>
    exact .inl (h.grow _ rfl after fun other => s.log.append_grows source other entry)
  | publish source version => exact .inl (h.grow _ rfl after fun _ => List.prefix_rfl)

/-! ## Between the answers -/

/-- The answer to a line that is accepted begins behind what was sent before. -/
theorem step_line_of_reading (sure : s.Sure ctx seen) {deadline : Span}
    (phase : s.session.phase = .reading deadline) (held : s.session.outbox.held = "")
    (quiet : s.pending = none) (now : Span) (line : String) :
    (s.step (.act now (.line line))).session.Rests ∨
      Underway ctx seen line s.session.outbox.sent (s.step (.act now (.line line))) := by
  have request : s.session.step now (.line line) = s.session.request now line := by
    simp only [Session.step, phase]
  have text : s.session.outbox.text = s.session.outbox.sent :=
    (Outbox.sent_of_nothing held).symm
  rw [step_act s now (by simp), request, quiet, ite_self]
  rcases s.session.request_cases now line with rests | ⟨⟨self, option, accepted⟩, informs, same⟩ |
    ⟨source, first, final, keepalive, accepted, checks⟩
  · exact .inl rests
  · rw [sure.context] at accepted
    exact .inr (.informing accepted informs ((congrArg Outbox.text same).trans text))
  · rw [sure.context] at accepted
    rw [checks]
    exact .inr (.checking accepted rfl text)

/-- A session that rests goes on to rest, until it accepts a line. -/
theorem step_of_rests (rests : s.session.Rests) (sure : s.Sure ctx seen) (e : Event) :
    (s.step e).session.Rests ∨
      ∃ now line deadline, e = .act now (.line line) ∧ s.session.phase = .reading deadline ∧
        Underway ctx seen line s.session.outbox.sent (s.step e) := by
  have quiet : s.pending = none :=
    (sure.honest s.session.context.authoritative).pending_eq_none rests.silent
  cases e with
  | read => exact .inl ((s.ask_same s.log.reply).1 ▸ rests)
  | fail error => exact .inl ((s.ask_same (Reading.failed error)).1 ▸ rests)
  | append source entry => exact .inl rests
  | publish source version => exact .inl rests
  | deliver now =>
    simp only [LiveSession.step, quiet]
    exact .inl rests
  | act now x =>
    rcases s.step_act_cases now x with same | other
    · rw [same]
      exact .inl rests
    · cases rests with
      | ended phase =>
        rw [step_act s now other]
        exact .inl (.ended ((Session.step_of_ended phase now x).phase.trans phase))
      | @reading deadline phase held =>
        by_cases asks : ∃ line, x = .line line
        · obtain ⟨line, rfl⟩ := asks
          exact (step_line_of_reading sure phase held quiet now line).imp_right fun under =>
            ⟨now, line, deadline, rfl, phase, under⟩
        · rw [step_act s now other]
          exact .inl (Session.step_of_reading phase held now other fun line h => asks ⟨line, h⟩)

/-- After any events a session rests, or it answers the last line that it has accepted. -/
inductive Course (ctx : SourceContext) (seen : LogView → Prop) (s : LiveSession)
    (es : List Event) : Prop
  | rests (rests : (s.run es).session.Rests) : Course ctx seen s es
  | answers {before after : List Event} {start deadline : Span} {line : String}
      (split : es = before ++ .act start (.line line) :: after)
      (reading : (s.run before).session.phase = .reading deadline)
      (under : Underway ctx seen line (s.run before).session.outbox.sent (s.run es)) :
      Course ctx seen s es

theorem run_concat (s : LiveSession) (es : List Event) (e : Event) :
    s.run (es ++ [e]) = (s.run es).step e := by
  rw [LiveSession.run, List.foldl_append]
  rfl

theorem Course.run (sure : s.Sure ctx seen) (rests : s.session.Rests) (es : List Event)
    (logs : ∀ front back, es = front ++ back → seen (s.run front).log) :
    (s.run es).Sure ctx seen ∧ Course ctx seen s es := by
  induction es using List.reverseRecOn with
  | nil => exact ⟨sure, .rests rests⟩
  | append_singleton es e ih =>
    obtain ⟨sure', course⟩ := ih fun front back split =>
      logs front (back ++ [e]) (by rw [split, List.append_assoc])
    have now : seen (s.run es).log := logs es [e] rfl
    refine ⟨?_, ?_⟩
    · rw [run_concat]
      exact sure'.step now e
    · cases course with
      | rests here =>
        rcases step_of_rests here sure' e with still | ⟨start, line, deadline, rfl, reading, under⟩
        · exact .rests (by rwa [run_concat])
        · have split : es ++ [.act start (.line line)] = es ++ .act start (.line line) :: [] := rfl
          exact .answers split reading (by rwa [run_concat])
      | @answers before after start deadline line split reading under =>
        rcases under.step sure' now e with under | rests
        · have split' : es ++ [e] = before ++ .act start (.line line) :: (after ++ [e]) := by
            rw [split, List.append_assoc]
            rfl
          exact .answers split' reading (by rwa [run_concat])
        · exact .rests (by rwa [run_concat])

end LiveSession

end RegistryFeed
