import RegistryFeed.Proofs.Request.Selection
import RegistryFeed.Proofs.Session.Keepalive

/-!
# Delivery on a living log

A keepalive session together with the log that it reads, under any order of
events: appends, replies that come late or not at all, lines that make the
session give up its question, and the signal. A reply on its way answers the
question at hand from a log that is a prefix of the present one. That is enough
for the invariant of keepalive answers to be kept by every event.
-/

namespace RegistryFeed

theorem LogView.append_grows (v : LogView) (source other : Source) (e : Entry) :
    v.entries other <+: (v.append source e).entries other := by
  unfold append
  split
  · simp only
    split
    · next same =>
      rw [same]
      exact List.prefix_append _ _
    · exact List.prefix_rfl
  · exact List.prefix_rfl

theorem LogView.append_ordered {v : LogView} {other : Source} (h : Ordered (v.entries other))
    (source : Source) (e : Entry) : Ordered ((v.append source e).entries other) := by
  unfold append
  split
  · next above =>
    simp only
    split
    · next same =>
      subst same
      refine List.pairwise_append.mpr ⟨h, List.pairwise_singleton _ _, ?_⟩
      intro a ha b hb
      rw [List.mem_singleton.mp hb]
      exact of_decide_eq_true (List.all_eq_true.mp above a ha)
    · exact h
  · exact h

/-! ## Replies on their way -/

/-- A log, the question that is put to it, and the reply that is on its way. -/
structure Exchange where
  log : LogView
  question? : Option Reading
  pending : Option Reply

namespace Exchange

variable {x : Exchange} {source : Source} {P : List Entry → Prop}

/-- What is on its way answers the question at hand, from the log of the source as it was at a
moment at which it had a property. -/
def Honest (source : Source) (P : List Entry → Prop) (x : Exchange) : Prop :=
  ∀ reply, x.pending = some reply → ∃ question, x.question? = some question ∧
    ((∃ error, reply = question.failed error) ∨
      ∃ old : LogView, old.entries source <+: x.log.entries source ∧ P (old.entries source) ∧
        reply = old.reply question)

theorem Honest.of_none (h : x.pending = none) : x.Honest source P := by
  intro reply hr
  rw [h] at hr
  cases hr

theorem Honest.of_grown (h : x.Honest source P) {log : LogView}
    (grown : x.log.entries source <+: log.entries source) :
    { x with log := log }.Honest source P := by
  intro reply hr
  obtain ⟨question, hq, failed | ⟨old, hold, hp, same⟩⟩ := h reply hr
  · exact ⟨question, hq, .inl failed⟩
  · exact ⟨question, hq, .inr ⟨old, hold.trans grown, hp, same⟩⟩

/-- A question that is given up takes its reply along. -/
theorem Honest.turn (h : x.Honest source P) (next : Option Reading) :
    Honest source P ⟨x.log, next, if next = x.question? then x.pending else none⟩ := by
  intro reply hr
  simp only at hr
  split at hr
  · next same =>
    obtain ⟨question, hq, honest⟩ := h reply hr
    exact ⟨question, same.trans hq, honest⟩
  · cases hr

/-- A question is put, perhaps again. -/
theorem Honest.ask {question : Reading} (asks : x.question? = some question) {reply : Reply}
    (honest : (∃ error, reply = question.failed error) ∨
      ∃ old : LogView, old.entries source <+: x.log.entries source ∧ P (old.entries source) ∧
        reply = old.reply question) : { x with pending := some reply }.Honest source P := by
  intro answer ha
  rw [← Option.some.inj ha]
  exact ⟨question, asks, honest⟩

/-- Nothing is on its way where nothing is asked. -/
theorem Honest.pending_eq_none (h : x.Honest source P) (silent : x.question? = none) :
    x.pending = none := by
  rw [Option.eq_none_iff_forall_ne_some]
  intro reply hr
  obtain ⟨question, asks, -⟩ := h reply hr
  rw [silent] at asks
  cases asks

end Exchange

namespace LiveSession

/-- What happens to the session may make it give up its question. -/
theorem step_act (s : LiveSession) (now : Span) {e : Session.Event}
    (other : ∀ r, e ≠ .reply r) :
    s.step (.act now e) =
      ⟨s.session.step now e, s.log,
        if (s.session.step now e).reading? = s.session.reading? then s.pending else none⟩ := by
  cases e with
  | reply r => exact absurd rfl (other r)
  | _ => rfl

/-- A reply comes to the session by its own event only. -/
theorem step_act_cases (s : LiveSession) (now : Span) (e : Session.Event) :
    s.step (.act now e) = s ∨ ∀ r, e ≠ .reply r := by
  by_cases reply : ∃ r, e = .reply r
  · obtain ⟨r, rfl⟩ := reply
    exact .inl rfl
  · exact .inr fun r same => reply ⟨r, same⟩

/-- A question to the log changes neither the session nor the log. -/
theorem ask_same (s : LiveSession) (reply : Reading → Reply) :
    (s.ask reply).session = s.session ∧ (s.ask reply).log = s.log := by
  unfold LiveSession.ask
  split
  · exact ⟨rfl, rfl⟩
  · exact ⟨rfl, rfl⟩

/-- An event is one step of the session at most. -/
theorem session_step (s : LiveSession) (e : Event) :
    (s.step e).session = s.session ∨
      ∃ now x, (s.step e).session = s.session.step now x := by
  cases e with
  | act now x =>
    rcases s.step_act_cases now x with same | other
    · exact .inl (congrArg session same)
    · rw [step_act s now other]
      exact .inr ⟨now, x, rfl⟩
  | read => exact .inl (s.ask_same _).1
  | fail error => exact .inl (s.ask_same _).1
  | deliver now =>
    simp only [LiveSession.step]
    split
    · next r _ => exact .inr ⟨now, .reply r, rfl⟩
    · exact .inl rfl
  | append other entry => exact .inl rfl
  | publish other version => exact .inl rfl

def exchange (s : LiveSession) : Exchange := ⟨s.log, s.session.reading?, s.pending⟩

variable {source : Source} {P : List Entry → Prop} {s : LiveSession}

theorem honest_reply (h : s.exchange.Honest source P) {reply : Reply}
    (pending : s.pending = some reply) : ∃ question, s.session.reading? = some question ∧
      ((∃ error, reply = question.failed error) ∨
        ∃ old : LogView, old.entries source <+: s.log.entries source ∧ P (old.entries source) ∧
          reply = old.reply question) := h reply pending

theorem honest_ask (h : s.exchange.Honest source P) {reply : Reading → Reply}
    (honest : ∀ question, (∃ error, reply question = question.failed error) ∨
      ∃ old : LogView, old.entries source <+: s.log.entries source ∧ P (old.entries source) ∧
        reply question = old.reply question) : (s.ask reply).exchange.Honest source P := by
  unfold LiveSession.ask
  split
  · next question asks => exact Exchange.Honest.ask (x := s.exchange) asks (honest question)
  · exact h

theorem honest_step (h : s.exchange.Honest source P) (now : P (s.log.entries source)) (e : Event) :
    (s.step e).exchange.Honest source P := by
  cases e with
  | act time e =>
    rcases s.step_act_cases time e with same | other
    · rw [same]
      exact h
    · rw [step_act s time other]
      exact h.turn _
  | read => exact honest_ask h fun question => .inr ⟨s.log, List.prefix_rfl, now, rfl⟩
  | fail error => exact honest_ask h fun question => .inl ⟨error, rfl⟩
  | deliver time =>
    cases hp : s.pending with
    | none =>
      simp only [LiveSession.step, hp]
      exact h
    | some reply =>
      simp only [LiveSession.step, hp]
      exact .of_none rfl
  | append other entry => exact h.of_grown (s.log.append_grows other source entry)
  | publish other version =>
    have same : s.log.entries source <+: (s.log.publish other version).entries source :=
      List.prefix_rfl
    exact h.of_grown same

/-! ## The run of an answer -/

/-- A keepalive request is being answered, on a log that has reached the end of its range. -/
structure Answering (source : Source) (first last : Int) (opening : String) (stopped : Bool)
    (s : LiveSession) : Prop where
  ordered : Ordered (s.log.entries source)
  reaches : Reaches (s.log.entries source) last
  serving : Serving source first last opening (s.log.entries source) stopped s.session
  honest : s.exchange.Honest source (Reaches · last)

variable {first last : Int} {opening : String} {stopped : Bool}

/-- A reply to the question of a session, or the failure to reply, is served or ends it. -/
theorem Answering.deliver (h : Answering source first last opening stopped s) {reply : Reply}
    (pending : s.pending = some reply) (now : Span) :
    Served source first last opening (s.log.entries source) stopped s.session
      (s.session.step now (.reply reply)) := by
  obtain ⟨question, asks, answer⟩ := honest_reply h.honest pending
  cases h.serving with
  | @paging _ position streamed phase size within written =>
    simp only [Session.reading?, phase, Option.some.injEq] at asks
    subst asks
    rcases answer with ⟨error, rfl⟩ | ⟨old, grown, reaches, rfl⟩
    · simp only [Session.step, phase, Reading.failed]
      exact .goesOn (.of_finish written now (by simp))
    · simp only [Session.step, phase, LogView.reply]
      exact .goesOn (.of_advances size written
        (Session.turnPage_advances written h.ordered grown reaches now streamed true size within))
  | @tailing _ sub deadline phase ofSource size written =>
    have asks' : sub.reading? = some question := by
      rw [← asks, Session.reading?, phase]
    have page : question = .page sub.source sub.cursor sub.batchSize := by
      unfold Subscription.reading? at asks'
      split at asks'
      · exact (Option.some.inj asks').symm
      · cases asks'
    subst page
    rcases answer with ⟨error, rfl⟩ | ⟨old, grown, _, rfl⟩
    · have nothing : [] <+: entriesAfter (s.log.entries source) sub.cursor := List.nil_prefix
      have failed := Session.failure_of_tailing phase now error
      exact .of_streams written size ofSource h.ordered List.prefix_rfl nothing failed
    · have read : (entriesAfter (old.entries sub.source) sub.cursor).take sub.batchSize <+:
          entriesAfter (old.entries source) sub.cursor := by
        rw [ofSource]
        exact List.take_prefix _ _
      have replied := Session.reply_of_tailing phase now
        ((entriesAfter (old.entries sub.source) sub.cursor).take sub.batchSize)
      exact .of_streams written size ofSource h.ordered grown read replied
  | closed phase other written =>
    simp [Session.reading?, phase] at asks
  | cancelled phase written ends =>
    simp [Session.reading?, phase] at asks

theorem Answering.act (h : Answering source first last opening stopped s) (now : Span)
    {e : Session.Event} (other : ∀ r, e ≠ .reply r) :
    Served source first last opening (s.log.entries source) stopped s.session
      (s.session.step now e) := by
  have serving := h.serving
  cases serving with
  | paging phase size within written =>
    exact .goesOn (h.serving.of_untouched (Session.step_of_paging phase now other))
  | @tailing _ sub deadline phase ofSource size written =>
    have nothing : [] <+: entriesAfter (s.log.entries source) sub.cursor := List.nil_prefix
    have streams := Session.step_of_tailing phase now other
    exact .of_streams written size ofSource h.ordered List.prefix_rfl nothing streams
  | closed phase different written =>
    exact .goesOn (h.serving.of_untouched (Session.step_of_ended phase now e))
  | cancelled phase written ends =>
    exact .goesOn (h.serving.of_untouched (Session.step_of_ended phase now e))

theorem Answering.ask (h : Answering source first last opening stopped s) {reply : Reading → Reply}
    (honest : (s.ask reply).exchange.Honest source (Reaches · last)) :
    Answering source first last opening stopped (s.ask reply) := by
  obtain ⟨session, log⟩ := s.ask_same reply
  refine ⟨?_, ?_, ?_, honest⟩
  · rw [log]
    exact h.ordered
  · rw [log]
    exact h.reaches
  · rw [session, log]
    exact h.serving

/-- Every event keeps the invariant; only a session that is asked to stops. -/
theorem Answering.step (h : Answering source first last opening stopped s) (e : Event) :
    Answering source first last opening stopped (s.step e) ∨
      stopped = false ∧ s.session.signal.Stops ∧
        (s.step e).session.outbox.text = s.session.outbox.text ++ endText source ∧
        Answering source first last opening true (s.step e) := by
  have honest := honest_step h.honest h.reaches e
  cases e with
  | act now e =>
    rcases s.step_act_cases now e with same | other
    · rw [same]
      exact .inl h
    · rw [step_act s now other] at honest ⊢
      cases h.act now other with
      | goesOn serving => exact .inl ⟨h.ordered, h.reaches, serving, honest⟩
      | stops running asked text serving =>
        exact .inr ⟨running, asked, text, h.ordered, h.reaches, serving, honest⟩
  | read => exact .inl (h.ask honest)
  | fail error => exact .inl (h.ask honest)
  | deliver now =>
    cases pending : s.pending with
    | none =>
      simp only [LiveSession.step, pending]
      exact .inl h
    | some reply =>
      simp only [LiveSession.step, pending] at honest ⊢
      cases h.deliver pending now with
      | goesOn serving => exact .inl ⟨h.ordered, h.reaches, serving, honest⟩
      | stops running asked text serving =>
        exact .inr ⟨running, asked, text, h.ordered, h.reaches, serving, honest⟩
  | append other entry =>
    have grown := s.log.append_grows other source entry
    have ordered := LogView.append_ordered h.ordered other entry
    exact .inl ⟨ordered, h.reaches.mono grown, h.serving.grow ordered grown, honest⟩
  | publish other version => exact .inl ⟨h.ordered, h.reaches, h.serving, honest⟩

theorem run_cons (s : LiveSession) (e : Event) (es : List Event) :
    s.run (e :: es) = (s.step e).run es := rfl

theorem Answering.run_of_stopped (h : Answering source first last opening true s)
    (es : List Event) : Answering source first last opening true (s.run es) := by
  induction es generalizing s with
  | nil => exact h
  | cons e es ih =>
    rcases h.step e with stepped | ⟨running, _⟩
    · exact ih stepped
    · cases running

/-- An answer that was stopped has been stopped by one event, and was asked to at that moment. -/
theorem Answering.run (h : Answering source first last opening false s) (es : List Event) :
    Answering source first last opening false (s.run es) ∨
      Answering source first last opening true (s.run es) ∧
        ∃ front e back, es = front ++ e :: back ∧ (s.run front).session.signal.Stops ∧
          ((s.run front).step e).session.outbox.text =
            (s.run front).session.outbox.text ++ endText source := by
  induction es generalizing s with
  | nil => exact .inl h
  | cons e es ih =>
    rcases h.step e with stepped | ⟨_, asked, text, stopped⟩
    · rcases ih stepped with running | ⟨stopped, front, x, back, rfl, asked, text⟩
      · exact .inl running
      · exact .inr ⟨stopped, e :: front, x, back, rfl, asked, text⟩
    · exact .inr ⟨stopped.run_of_stopped es, [], e, es, rfl, asked, text⟩

/-! ## The beginning of an answer -/

theorem step_ordered (h : Ordered (s.log.entries source)) (e : Event) :
    Ordered ((s.step e).log.entries source) := by
  cases e with
  | act now e =>
    rcases s.step_act_cases now e with same | other
    · rw [same]
      exact h
    · rw [step_act s now other]
      exact h
  | read =>
    rw [LiveSession.step, (s.ask_same _).2]
    exact h
  | fail error =>
    rw [LiveSession.step, (s.ask_same _).2]
    exact h
  | deliver now =>
    simp only [LiveSession.step]
    split
    · exact h
    · exact h
  | append other entry => exact LogView.append_ordered h other entry
  | publish other version => exact h

theorem run_ordered (h : Ordered (s.log.entries source)) (es : List Event) :
    Ordered ((s.run es).log.entries source) := by
  induction es generalizing s with
  | nil => exact h
  | cons e es ih => exact ih (step_ordered h e)

theorem honest_run (h : s.exchange.Honest source fun _ => True) (es : List Event) :
    (s.run es).exchange.Honest source fun _ => True := by
  induction es generalizing s with
  | nil => exact h
  | cons e es ih => exact ih (honest_step h trivial e)

/-- A session that has ended writes nothing more. -/
theorem run_of_ended {result : Except EngineError SessionEnd}
    (h : s.session.phase = .ended result) (es : List Event) :
    (s.run es).session.outbox.text = s.session.outbox.text := by
  induction es generalizing s with
  | nil => rfl
  | cons e es ih =>
    have same : (s.step e).session.phase = s.session.phase ∧
        (s.step e).session.outbox.text = s.session.outbox.text := by
      rcases s.session_step e with stays | ⟨now, x, steps⟩
      · rw [stays]
        exact ⟨rfl, rfl⟩
      · rw [steps]
        have untouched := Session.step_of_ended h now x
        exact ⟨untouched.phase, untouched.text⟩
    rw [run_cons, ih (same.1.trans h), same.2]

/-- A line that is accepted puts a new question, which nothing answers yet. -/
theorem pending_of_accepted {line : String} {final : Request.RangeEnd} {keepalive : Bool}
    {deadline : Span} (reading : s.session.phase = .reading deadline)
    (accepted : Request.parse s.session.context line =
      .ok (.changes source first final keepalive)) (now : Span) :
    (s.step (.act now (.line line))).pending = none := by
  have asks : (s.session.step now (.line line)).reading? = some (.range source) := by
    simp only [Session.step, reading, Session.request, accepted, Session.reading?]
  have silent : s.session.reading? = none := by
    simp only [Session.reading?, reading]
  rw [step_act s now (by simp), asks, silent]
  rfl

/-- A range that can be served is one range, and the log reaches its end. -/
theorem reaches_of_checkRange {log : List Entry} {final : Request.RangeEnd}
    (notBefore : final.NotBefore first)
    (served : Session.checkRange first final (serialRange log) = .ok last) :
    first ≤ last ∧ Reaches log last := by
  unfold Session.checkRange at served
  cases hr : serialRange log with
  | none => simp [hr] at served
  | some r =>
    simp only [hr] at served
    split at served
    · next fits =>
      cases served
      simp only [Bool.and_eq_true, SerialRange.contains, decide_eq_true_eq] at fits
      obtain ⟨e, he, le⟩ := reaches_of_serialRange hr
      refine ⟨?_, e, he, Int.le_trans fits.2 le⟩
      cases final with
      | last => exact fits.1.2
      | serial n => exact notBefore
    · cases served

/-- The answer begins when the range of the log is found to hold the request, unless the client is
gone. -/
theorem Answering.begin {final : Request.RangeEnd} {available : Option SerialRange}
    (ordered : Ordered (s.log.entries source)) (honest : s.exchange.Honest source fun _ => True)
    (checking : s.session.phase = .checking source first final true)
    (pending : s.pending = some (.range (.ok available)))
    (notBefore : final.NotBefore first) (size : 1 ≤ s.session.settings.batch)
    (served : Session.checkRange first final available = .ok last) (now : Span) :
    (s.session.outbox.broken = true ∧ ∃ result,
      (s.step (.deliver now)).session.phase = .ended result ∧
      (s.step (.deliver now)).session.outbox.text = s.session.outbox.text) ∨
    Answering source first last (s.session.outbox.text ++ startText source first last) false
      (s.step (.deliver now)) := by
  obtain ⟨question, asks, answer⟩ := honest_reply honest pending
  simp only [Session.reading?, checking, Option.some.injEq] at asks
  subst asks
  rcases answer with ⟨error, failed⟩ | ⟨old, grown, _, replied⟩
  · simp [Reading.failed] at failed
  · simp only [LogView.reply, Reply.range.injEq, Except.ok.injEq] at replied
    subst replied
    obtain ⟨inOrder, reached⟩ := reaches_of_checkRange notBefore served
    have reaches := reached.mono grown
    have stepped : s.step (.deliver now) =
        ⟨s.session.serveRange now source first final true (serialRange (old.entries source)),
          s.log, none⟩ := by
      simp only [LiveSession.step, pending, Session.step, checking]
    have advances := Session.serveRange_advances (s := s.session) source served reaches inOrder
      now true
    rw [stepped]
    generalize s.session.serveRange now source first final true _ = t at advances
    cases advances with
    | further _ _ within written =>
      exact .inr ⟨ordered, reaches, .paging rfl size within written, .of_none rfl⟩
    | complete _ written =>
      refine .inr ⟨ordered, reaches, ?_, .of_none rfl⟩
      exact Serving.rangeServed
        (s := { s.session.observe [.query "mirror" "ok"] with outbox := _ }) written now _
    | lost broken => exact .inl ⟨broken, _, rfl, Session.text_of_finish _ now _⟩

/-! ## What a client has been given -/

/-- What a client that asked for the changes of a source from a serial on is to be given. -/
def wanted (s : LiveSession) (source : Source) (first : Int) : List Entry :=
  (s.log.entries source).filter fun e => first ≤ e.serial

theorem wanted_eq (s : LiveSession) (source : Source) (first : Int) :
    s.wanted source first = entriesAfter (s.log.entries source) (first - 1) := by
  refine List.filter_congr ?_
  intro e _
  simp only [decide_eq_decide]
  omega

/-- The text of an answer at one moment: an opening, frames, and the end line if the session was
stopped. If it was not, a call that is about to look puts the next batch behind the frames. -/
structure Delivered (source : Source) (first : Int) (opening : String) (frames : List Entry)
    (stopped : Bool) (s : LiveSession) : Prop where
  inOrder : frames <+: s.wanted source first
  text : s.session.outbox.text =
    opening ++ framesText frames ++ if stopped then endText source else ""
  ended : stopped = true ↔ s.session.result? = some (.ok .cancelled)
  goesOn : ∀ sub deadline, s.session.phase = .tailing sub deadline → sub.call = .looking →
    s.session.outbox.broken = false → s.session.signal.value = false →
    1 ≤ sub.batchSize ∧ ∀ now,
      (s.run [.act now .look, .read, .deliver now]).session.outbox.text =
        opening ++ framesText ((s.wanted source first).take (frames.length + sub.batchSize))

/-- One call of a subscription, from its look to its page. -/
theorem text_of_call {sub : Subscription} {deadline : Span}
    (phase : s.session.phase = .tailing sub deadline) (call : sub.call = .looking)
    (connected : s.session.outbox.broken = false) (quiet : s.session.signal.value = false)
    (now : Span) :
    (s.run [.act now .look, .read, .deliver now]).session.outbox.text =
      s.session.outbox.text ++
        framesText ((entriesAfter (s.log.entries sub.source) sub.cursor).take sub.batchSize) := by
  have looked : s.session.step now .look =
      { s.session with phase := .tailing { sub with call := .reading } deadline } := by
    simp only [Session.step, phase, Session.tail, Subscription.step, call, quiet]
    rfl
  have read : (s.step (.act now .look)).step .read =
      ⟨{ s.session with phase := .tailing { sub with call := .reading } deadline }, s.log,
        some (.page (.ok ((entriesAfter (s.log.entries sub.source) sub.cursor).take
          sub.batchSize)))⟩ := by
    rw [step_act s now (by simp), looked]
    rfl
  rw [run_cons, run_cons, read]
  exact Session.text_of_page (s := { s.session with phase := _ }) rfl rfl connected now _

theorem Answering.delivered (h : Answering source first last opening stopped s) :
    ∃ frames, Delivered source first opening frames stopped s := by
  have cut : ∀ position, first - 1 ≤ position →
      window (s.log.entries source) (first - 1) position ++
        entriesAfter (s.log.entries source) position = s.wanted source first := by
    intro position start
    rw [wanted_eq]
    exact window_append_entriesAfter h.ordered start
  cases h.serving with
  | @paging _ position streamed phase size within written =>
    refine ⟨window (s.log.entries source) (first - 1) position, ?_, ?_, ?_, ?_⟩
    · exact ⟨_, cut position written.start⟩
    · simpa using written.text
    · simp [Session.result?, phase]
    · intro sub deadline other
      rw [phase] at other
      cases other
  | @tailing _ sub deadline phase ofSource size written =>
    refine ⟨window (s.log.entries source) (first - 1) sub.cursor, ?_, ?_, ?_, ?_⟩
    · exact ⟨_, cut sub.cursor written.start⟩
    · simpa using written.text
    · simp [Session.result?, phase]
    · intro other deadline' here call connected quiet
      rw [phase] at here
      cases here
      refine ⟨size, fun now => ?_⟩
      rw [text_of_call phase call connected quiet, written.text, ofSource,
        ← cut sub.cursor written.start, List.take_length_add_append, Session.framesText_append,
        String.append_assoc]
  | @closed _ result position phase other written =>
    refine ⟨window (s.log.entries source) (first - 1) position, ?_, ?_, ?_, ?_⟩
    · exact ⟨_, cut position written.start⟩
    · simpa using written.text
    · simpa [Session.result?, phase] using other
    · intro sub deadline tailing
      rw [phase] at tailing
      cases tailing
  | @cancelled _ text position phase written ends =>
    refine ⟨window (s.log.entries source) (first - 1) position, ?_, ?_, ?_, ?_⟩
    · exact ⟨_, cut position written.start⟩
    · rw [ends, written.text]
      rfl
    · simp [Session.result?, phase]
    · intro sub deadline tailing
      rw [phase] at tailing
      cases tailing

/-- However the events after an accepted keepalive request are interleaved, its client is given the
frames of all entries from the first serial on, each once and in order, as far as they are written.
The end line comes once, behind everything else, and only when the session is asked to stop. -/
theorem keepalive_delivers {v : LiveSession} {line : String} {final : Request.RangeEnd}
    {deadline start : Span} {before : List Event} {available : Option SerialRange}
    (ordered : Ordered (s.log.entries source))
    (reading : s.session.phase = .reading deadline)
    (accepted : Request.parse s.session.context line = .ok (.changes source first final true))
    (reached : v = (s.step (.act start (.line line))).run before)
    (checking : v.session.phase = .checking source first final true)
    (size : 1 ≤ v.session.settings.batch)
    (pending : v.pending = some (.range (.ok available)))
    (served : Session.checkRange first final available = .ok last)
    (now : Span) (after : List Event) :
    let u := v.run (.deliver now :: after)
    (v.session.outbox.broken = true ∧ u.session.outbox.text = v.session.outbox.text) ∨
    ∃ frames stopped,
      Delivered source first (v.session.outbox.text ++ startText source first last) frames
        stopped u ∧
      (stopped = true → ∃ front e back, after = front ++ e :: back ∧
        (v.run (.deliver now :: front)).session.signal.Stops ∧
        ((v.run (.deliver now :: front)).step e).session.outbox.text =
          (v.run (.deliver now :: front)).session.outbox.text ++ endText source) := by
  intro u
  have asked : (s.step (.act start (.line line))).exchange.Honest source fun _ => True :=
    .of_none (pending_of_accepted reading accepted start)
  have honest := honest_run asked before
  have sorted := run_ordered (step_ordered ordered (.act start (.line line))) before
  rw [← reached] at honest sorted
  rcases Answering.begin sorted honest checking pending (Request.parse_notBefore accepted) size
    served now with ⟨broken, result, ended, text⟩ | begun
  · left
    exact ⟨broken, (run_of_ended ended after).trans text⟩
  · right
    rcases begun.run after with running | ⟨stopped, front, e, back, split, stops⟩
    · obtain ⟨frames, delivered⟩ := running.delivered
      exact ⟨frames, false, delivered, fun h => by cases h⟩
    · obtain ⟨frames, delivered⟩ := stopped.delivered
      exact ⟨frames, true, delivered, fun _ => ⟨front, e, back, split, stops⟩⟩

/-- A source with two entries, and a client that has not said anything yet. -/
def unasked : LiveSession :=
  let source : Source := ⟨"TEST"⟩
  ⟨.create ⟨source, none⟩ .default .quiet .zero,
    ⟨fun s => if s = source then
        [⟨1, .add, "route", "k", some "p", 0⟩, ⟨2, .delete, "route", "k", none, 0⟩] else [],
      fun _ => none⟩,
    none⟩

/-- The client has asked for everything, and the range of the log is on its way. -/
def asked : LiveSession := (unasked.step (.act .zero (.line "-k -g TEST:3:1-LAST"))).run [.read]

/-- An entry comes while the range is read, a line while its page is on its way, and at last the
signal. -/
def renewed : List Event :=
  [.read, .append ⟨"TEST"⟩ ⟨3, .add, "route", "k", some "q", 0⟩, .deliver .zero,
    .act .zero .look, .read, .act .zero (.line "-q SOURCES"),
    .act .zero .look, .read, .deliver .zero, .act .zero (.signal true), .act .zero .look]

theorem keepalive_delivers_renewed :
    Ordered (unasked.log.entries ⟨"TEST"⟩) ∧
      Request.parse unasked.session.context "-k -g TEST:3:1-LAST" =
        .ok (.changes ⟨"TEST"⟩ 1 .last true) ∧
      asked.session.phase = .checking ⟨"TEST"⟩ 1 .last true ∧
      asked.pending = some (.range (.ok (some ⟨1, 2⟩))) ∧
      ∃ frames, Delivered ⟨"TEST"⟩ 1 (asked.session.outbox.text ++ startText ⟨"TEST"⟩ 1 2) frames
        true (asked.run (.deliver .zero :: renewed)) := by
  have ordered : Ordered (unasked.log.entries ⟨"TEST"⟩) := by decide
  have accepted : Request.parse unasked.session.context "-k -g TEST:3:1-LAST" =
      .ok (.changes ⟨"TEST"⟩ 1 .last true) := by rfl
  have checking : asked.session.phase = .checking ⟨"TEST"⟩ 1 .last true := by rfl
  have pending : asked.pending = some (.range (.ok (some ⟨1, 2⟩))) := by rfl
  refine ⟨ordered, accepted, checking, pending, ?_⟩
  rcases keepalive_delivers ordered rfl accepted rfl checking (by decide +kernel) pending rfl .zero
      renewed with ⟨broken, _⟩ | ⟨frames, stopped, delivered, _⟩
  · exact absurd broken (by decide +kernel)
  · have ended := delivered.ended.mpr (by decide +kernel)
    rw [ended] at delivered
    exact ⟨frames, delivered⟩

end LiveSession

end RegistryFeed
