import RegistryFeed.Proofs.Session.Range
import RegistryFeed.Session.Dialogue

/-!
# The parts of a dialogue

The lines of a client are taken one by one. Whatever is told to a session, its client, its
settings and its signal stay as they are; a reply on its way is from some state of the log
that has been seen. What is written of a range that was granted makes a complete answer,
and what is written behind it are later entries.
-/

namespace RegistryFeed

/-! ## Lines -/

namespace Inbox

theorem cutLine?_of_feed {front : List UInt8} (whole : 10 ∉ front) (rest : List UInt8) :
    cutLine? (front ++ 10 :: rest) = some (front ++ [10], rest) := by
  induction front with
  | nil => rfl
  | cons b front ih =>
    have other : b ≠ 10 := (List.ne_of_not_mem_cons whole).symm
    rw [List.cons_append, cutLine?, if_neg other, ih (List.not_mem_of_not_mem_cons whole)]
    rfl

theorem cutLine?_of_whole {bytes : List UInt8} (whole : 10 ∉ bytes) : cutLine? bytes = none := by
  induction bytes with
  | nil => rfl
  | cons b bytes ih =>
    have other : b ≠ 10 := (List.ne_of_not_mem_cons whole).symm
    rw [cutLine?, if_neg other, ih (List.not_mem_of_not_mem_cons whole)]
    rfl

theorem trimEnd_of_whole {bytes : List UInt8} (whole : 10 ∉ bytes) : trimEnd bytes = bytes := by
  have reversed : 10 ∉ bytes.reverse := by rwa [List.mem_reverse]
  unfold trimEnd
  split
  · next feed =>
    rw [feed] at reversed
    exact absurd List.mem_cons_self reversed
  · next feed =>
    rw [feed] at reversed
    exact absurd List.mem_cons_self reversed
  · rfl

theorem arrivalOf_of_decode {bytes : List UInt8} {line : String}
    (text : Utf8.decode (trimEnd bytes) = .ok line) : arrivalOf bytes = .line line := by
  rw [arrivalOf, text]

theorem closed_next (i : Inbox) : i.next.2.closed = i.closed := by
  rw [next]
  split
  · rfl
  · split
    · rfl
    · split <;> rfl

variable {i : Inbox} {line : String} {lines : List String}

/-- The first line is taken, and the others are left. -/
theorem next_of_says (closed : i.closed = true) (said : Says i.bytes (line :: lines)) :
    ∃ rest, i.next = (.line line, { i with bytes := rest }) ∧ Says rest lines ∧
      rest.length < i.bytes.length := by
  obtain ⟨bytes, isClosed⟩ := i
  dsimp only at closed said ⊢
  cases said with
  | @fed front rest _ _ whole plain text later =>
    refine ⟨rest, ?_, later, by simp; omega⟩
    rw [next, cutLine?_of_feed whole]
    dsimp only
    rw [arrivalOf_of_decode (by rwa [trimEnd_feed plain])]
  | @returned front rest _ _ whole text later =>
    refine ⟨rest, ?_, later, by simp; omega⟩
    have cut : cutLine? (front ++ 13 :: 10 :: rest) = some (front ++ [13, 10], rest) := by
      have both : 10 ∉ front ++ [13] := by simp [whole]
      have found := cutLine?_of_feed both rest
      simpa using found
    rw [next, cut]
    dsimp only
    rw [arrivalOf_of_decode (by rwa [trimEnd_return_feed])]
  | unfed present whole text =>
    refine ⟨[], ?_, .nothing, List.length_pos_iff.mpr present⟩
    rw [next, cutLine?_of_whole whole]
    simp only [closed, Bool.not_true, Bool.false_eq_true, if_false, List.isEmpty_iff, present]
    rw [arrivalOf_of_decode (by rwa [trimEnd_of_whole whole])]

theorem next_of_says_nothing (closed : i.closed = true) (said : Says i.bytes []) :
    i.next = (.closed, i) := by
  obtain ⟨bytes, isClosed⟩ := i
  dsimp only at closed said
  cases said
  rw [closed]
  rfl

end Inbox

/-! ## What no step changes -/

namespace Session

/-- The client, the settings and the signal are as they were. -/
structure Alike (s t : Session) : Prop where
  context : t.context = s.context
  settings : t.settings = s.settings
  signal : t.signal = s.signal
  broken : t.outbox.broken = s.outbox.broken

theorem Alike.refl (s : Session) : Alike s s := ⟨rfl, rfl, rfl, rfl⟩

theorem Alike.trans {s t u : Session} (first : Alike s t) (second : Alike t u) : Alike s u :=
  ⟨second.context.trans first.context, second.settings.trans first.settings,
    second.signal.trans first.signal, second.broken.trans first.broken⟩

theorem broken_of_close (o : Outbox) : o.close.broken = o.broken := by
  unfold Outbox.close
  split
  · next p flushed => exact Outbox.broken_of_flush flushed
  · rfl

theorem finish_alike (s : Session) (now : Span) (result : Except EngineError SessionEnd) :
    Alike s (s.finish now result) :=
  ⟨rfl, rfl, rfl, broken_of_close s.outbox⟩

theorem Alike.of_observe {s t : Session} {os : List Observation} (h : Alike (s.observe os) t) :
    Alike s t :=
  ⟨h.context, h.settings, h.signal, h.broken⟩

theorem emit_alike (s : Session) (now : Span) (flush : Bool) (texts : List String)
    {next : Session → Session} (h : ∀ t, Alike t (next t)) :
    Alike s (s.emit now flush texts next) := by
  rcases s.emit_cases now flush texts next with ⟨o, wrote, emitted⟩ | ⟨_, fault, failed⟩
  · rw [emitted]
    have written : Alike s { s with outbox := o } := ⟨rfl, rfl, rfl, wrote.broken⟩
    exact written.trans (h _)
  · rw [failed]
    exact s.finish_alike now _

theorem reject_alike (s : Session) (now : Span) (f : Request.Fault) :
    Alike s (s.reject now f) := by
  refine .of_observe (emit_alike _ now true _ fun t => ?_)
  exact ⟨rfl, rfl, rfl, rfl⟩

theorem answer_alike (s : Session) (now : Span) (kind text : String) :
    Alike s (s.answer now kind text) :=
  s.emit_alike now true _ fun _ => .of_observe (finish_alike _ now _)

theorem describe_alike (s : Session) (now : Span) (option : Request.InfoOption)
    (more : List Source) (text : String) : Alike s (s.describe now option more text) := by
  cases more with
  | nil => cases option <;> exact s.answer_alike now _ text
  | cons source more => exact ⟨rfl, rfl, rfl, rfl⟩

theorem request_alike (s : Session) (now : Span) (line : String) :
    Alike s (s.request now line) := by
  unfold request
  split
  · exact .of_observe (reject_alike _ now _)
  · exact s.describe_alike now _ _ _
  · exact s.describe_alike now _ _ _
  · exact ⟨rfl, rfl, rfl, rfl⟩

theorem rangeServed_alike (s : Session) (now : Span) (source : Source) (last : Int)
    (streamed : Nat) (keepalive : Bool) :
    Alike s (s.rangeServed now source last streamed keepalive) := by
  refine s.emit_alike now true _ fun t => ?_
  cases keepalive with
  | true => exact ⟨rfl, rfl, rfl, rfl⟩
  | false => exact .of_observe (emit_alike _ now true _ fun u => u.finish_alike now _)

theorem page_alike (s : Session) (now : Span) (source : Source) (cursor last : Int)
    (streamed : Nat) (keepalive : Bool) :
    Alike s (s.page now source cursor last streamed keepalive) := by
  unfold page
  split
  · exact ⟨rfl, rfl, rfl, rfl⟩
  · exact s.rangeServed_alike now source last streamed keepalive

theorem turnPage_alike (s : Session) (now : Span) (source : Source) (cursor last : Int)
    (streamed : Nat) (keepalive : Bool) (entries : List Entry) :
    Alike s (s.turnPage now source cursor last streamed keepalive entries) := by
  unfold turnPage
  refine s.emit_alike now false _ fun t => ?_
  dsimp only
  split
  · exact t.rangeServed_alike now source last _ keepalive
  · exact t.page_alike now source _ last _ keepalive

theorem serveRange_alike (s : Session) (now : Span) (source : Source) (first : Int)
    (final : Request.RangeEnd) (keepalive : Bool) (available : Option SerialRange) :
    Alike s (s.serveRange now source first final keepalive available) := by
  unfold serveRange
  split
  · exact .of_observe (reject_alike _ now _)
  · exact .of_observe (emit_alike _ now false _ fun t => t.page_alike now source _ _ 0 keepalive)

theorem tail_alike (s : Session) (now deadline : Span) (sub : Subscription)
    (e : Subscription.Event) : Alike s (s.tail now deadline sub e) := by
  unfold tail
  split
  · exact ⟨rfl, rfl, rfl, rfl⟩
  · exact s.emit_alike now true _ fun t => ⟨rfl, rfl, rfl, rfl⟩
  · exact s.emit_alike now true _ fun t => t.finish_alike now _
  · exact s.finish_alike now _

/-- What is told to a session without the signal and while the client is there. -/
def Event.Told : Event → Prop
  | .signal _ | .detached | .gone | .notice => False
  | _ => True

theorem step_alike (s : Session) (now : Span) {e : Event} (told : e.Told) :
    Alike s (s.step now e) := by
  unfold step
  split
  · exact told.elim
  · exact told.elim
  · exact told.elim
  · split
    · exact s.request_alike now _
    · exact s.finish_alike now _
    · exact s.finish_alike now _
    · split
      · exact s.finish_alike now _
      · exact .refl s
    · exact told.elim
    · exact s.finish_alike now _
    · exact s.finish_alike now _
    · exact s.finish_alike now _
    · exact s.finish_alike now _
    · exact s.describe_alike now _ _ _
    · exact ⟨rfl, rfl, rfl, rfl⟩
    · exact s.describe_alike now _ _ _
    · exact s.serveRange_alike now _ _ _ _ _
    · exact s.turnPage_alike now _ _ _ _ _ _
    · exact s.tail_alike now _ _ _
    · exact s.tail_alike now _ _ _
    · split
      · exact s.tail_alike now _ _ _
      · exact .refl s
    · exact told.elim
    · exact ⟨rfl, rfl, rfl, rfl⟩
    · exact s.finish_alike now _
    · exact s.finish_alike now _
    · exact .refl s

end Session

/-! ## The replies of a log that grows -/

namespace LiveSession

/-- What happens in a dialogue: the signal is not given, the client is there and the log works. -/
def Event.Calm : Event → Prop
  | .act _ e => e.Told ∧ ∀ r, e ≠ .reply r
  | .fail _ => False
  | _ => True

/-- A session to which only that has happened: its log is in order, and a reply on its way answers
the question at hand from a state of the log that has been seen. -/
structure Steady (ctx : SourceContext) (seen : LogView → Prop) (s : LiveSession) : Prop where
  context : s.session.context = ctx
  connected : s.session.outbox.broken = false
  size : 1 ≤ s.session.settings.batch
  quiet : s.session.signal.value = false
  ordered : ∀ source, Ordered (s.log.entries source)
  honest : ∀ reply, s.pending = some reply → ∃ question old,
    s.session.reading? = some question ∧ seen old ∧
      (∀ source, old.entries source <+: s.log.entries source) ∧ reply = old.reply question

variable {ctx : SourceContext} {seen : LogView → Prop} {s : LiveSession}

/-- The log has grown and lost nothing. -/
def Grows (v w : LogView) : Prop := ∀ source, v.entries source <+: w.entries source

theorem Steady.of_alike (h : s.Steady ctx seen) {t : Session} (alike : s.session.Alike t)
    {pending : Option Reply}
    (kept : ∀ reply, pending = some reply →
      s.pending = some reply ∧ t.reading? = s.session.reading?) :
    Steady ctx seen ⟨t, s.log, pending⟩ where
  context := alike.context.trans h.context
  connected := alike.broken.trans h.connected
  size := alike.settings ▸ h.size
  quiet := alike.signal ▸ h.quiet
  ordered := h.ordered
  honest := by
    intro reply hr
    obtain ⟨same, asks⟩ := kept reply hr
    obtain ⟨question, old, hq, honest⟩ := h.honest reply same
    exact ⟨question, old, asks.trans hq, honest⟩

theorem Steady.step (h : s.Steady ctx seen) (now : seen s.log) {e : Event} (calm : e.Calm) :
    (s.step e).Steady ctx seen := by
  cases e with
  | act time e =>
    obtain ⟨told, other⟩ := calm
    rw [step_act s time other]
    refine h.of_alike (s.session.step_alike time told) ?_
    intro reply hr
    split at hr
    · next same => exact ⟨hr, same⟩
    · cases hr
  | read =>
    rw [LiveSession.step, LiveSession.ask]
    split
    · next question asks =>
      refine ⟨h.context, h.connected, h.size, h.quiet, h.ordered, ?_⟩
      rintro _ ⟨⟩
      exact ⟨question, s.log, asks, now, fun _ => List.prefix_rfl, rfl⟩
    · exact h
  | fail error => exact calm.elim
  | deliver time =>
    rw [LiveSession.step]
    split
    · next reply _ =>
      refine h.of_alike (s.session.step_alike time (e := .reply reply) trivial) ?_
      rintro _ ⟨⟩
    · exact h
  | append other entry =>
    refine ⟨h.context, h.connected, h.size, h.quiet, ?_, ?_⟩
    · exact fun source => LogView.append_ordered (h.ordered source) other entry
    · intro reply hr
      obtain ⟨question, old, asks, state, grown, same⟩ := h.honest reply hr
      refine ⟨question, old, asks, state, fun source => ?_, same⟩
      exact (grown source).trans (s.log.append_grows other source entry)
  | publish other version => exact ⟨h.context, h.connected, h.size, h.quiet, h.ordered, h.honest⟩

/-- Replies are waited for only where a question is put. -/
theorem Steady.pending_eq_none (h : s.Steady ctx seen) (silent : s.session.reading? = none) :
    s.pending = none := by
  rw [Option.eq_none_iff_forall_ne_some]
  intro reply hr
  obtain ⟨question, -, asks, -⟩ := h.honest reply hr
  rw [silent] at asks
  cases asks

/-- Only a session that follows the log looks at the signal. -/
theorem step_look_of_idle (idle : ∀ sub deadline, s.session.phase ≠ .tailing sub deadline)
    (now : Span) : s.step (.act now .look) = s := by
  have same : s.session.step now .look = s.session := by
    cases phase : s.session.phase with
    | tailing sub deadline => exact absurd phase (idle sub deadline)
    | _ => simp only [Session.step, phase]
  rw [step_act s now (by simp), same, if_pos rfl]

end LiveSession

/-! ## What a session makes of a reply -/

namespace Session

variable {s : Session}

/-- What a session makes of the reply to its question, if it is from this state of the log. -/
def told (s : Session) (v : LogView) (now : Span) : Session :=
  match s.phase with
  | .describing .sources source more text =>
    s.describe now .sources more (text ++ sourceLine source (serialRange (v.entries source)))
  | .describing .version source more text =>
    { s with phase :=
        .versioning source more (text ++ serialsLine source (serialRange (v.entries source))) }
  | .versioning source more text =>
    s.describe now .version more (text ++ ((v.latest source).map (versionLine source)).getD "")
  | .checking source first final keepalive =>
    s.serveRange now source first final keepalive (serialRange (v.entries source))
  | .paging source cursor last streamed keepalive =>
    s.turnPage now source cursor last streamed keepalive
      ((entriesAfter (v.entries source) cursor).take s.settings.batch)
  | .tailing sub deadline =>
    s.tail now deadline sub
      (.page (.ok ((entriesAfter (v.entries sub.source) sub.cursor).take sub.batchSize)))
  | _ => s

theorem call_of_asking {sub : Subscription} {deadline : Span} {question : Reading}
    (phase : s.phase = .tailing sub deadline) (asks : s.reading? = some question) :
    sub.call = .reading ∧ question = .page sub.source sub.cursor sub.batchSize := by
  rw [reading?, phase] at asks
  dsimp only [Subscription.reading?] at asks
  split at asks
  · next reading => exact ⟨reading, (Option.some.inj asks).symm⟩
  · cases asks

theorem step_reply {question : Reading} (asks : s.reading? = some question) (v : LogView)
    (now : Span) : s.step now (.reply (v.reply question)) = s.told v now := by
  rw [told]
  cases phase : s.phase with
  | reading | ended => simp [reading?, phase] at asks
  | describing option =>
    simp only [reading?, phase, Option.some.injEq] at asks
    subst asks
    cases option <;> simp only [LogView.reply, step, phase]
  | versioning source =>
    simp only [reading?, phase, Option.some.injEq] at asks
    subst asks
    simp only [LogView.reply, step, phase]
    cases v.latest source <;> rfl
  | checking | paging =>
    simp only [reading?, phase, Option.some.injEq] at asks
    subst asks
    simp only [LogView.reply, step, phase]
  | tailing sub deadline =>
    obtain ⟨-, rfl⟩ := call_of_asking phase asks
    simp only [LogView.reply, step, phase]

/-! ## Writing while the client is there -/

theorem answer_completes (connected : s.outbox.broken = false) (now : Span) (kind text : String) :
    (s.answer now kind text).phase = .ended (.ok .completed) ∧
      (s.answer now kind text).outbox.sent = s.outbox.text ++ (text ++ "\n") := by
  obtain ⟨o, wrote, emitted⟩ := emit_of_connected connected now true [text ++ "\n"]
    fun s => (s.observe [.query kind "ok"]).finish now (.ok .completed)
  rw [answer, emitted]
  refine ⟨rfl, (Outbox.sent_of_close (wrote.broken.trans connected)).trans (wrote.text.trans ?_)⟩
  rw [String.join_cons, String.join_nil, String.append_empty]

/-- A range that was served to its end is followed by a subscription to what comes after it. -/
theorem rangeServed_follows (connected : s.outbox.broken = false) (now : Span) (source : Source)
    (last : Int) (streamed : Nat) :
    (s.rangeServed now source last streamed true).phase =
        .tailing ⟨source, last, max s.settings.batch 1, .looking⟩ now ∧
      (s.rangeServed now source last streamed true).outbox.text = s.outbox.text := by
  obtain ⟨o, wrote, emitted⟩ := emit_of_connected connected now true [] fun s =>
    let s := s.observe [.entriesStreamed source.name streamed]
    if true then
      let sub := (Subscription.create source last s.settings.batch).step .begin
      { s with phase := .tailing sub.1 now }
    else s.emit now true [endText source] fun s => s.finish now (.ok .completed)
  rw [rangeServed, emitted]
  refine ⟨rfl, wrote.text.trans ?_⟩
  rw [String.join_nil, String.append_empty]

/-- A page moves a session that follows the log on, behind what it has written. -/
theorem page_follows {sub : Subscription} {deadline : Span}
    (phase : s.phase = .tailing sub deadline) (reading : sub.call = .reading)
    (connected : s.outbox.broken = false) (now : Span) (entries : List Entry) :
    ∃ call deadline', (s.step now (.reply (.page (.ok entries)))).phase =
        .tailing { sub with cursor := positionAfter sub.cursor entries, call := call } deadline' ∧
      (s.step now (.reply (.page (.ok entries)))).outbox.text =
        s.outbox.text ++ framesText entries := by
  have text := text_of_page phase reading connected now entries
  simp only [step, phase, tail, Subscription.step, reading] at text ⊢
  cases ends : entries.getLast? with
  | none =>
    rw [ends] at text
    rw [positionAfter, ends]
    exact ⟨.waiting, _, rfl, text⟩
  | some last =>
    rw [positionAfter_of_getLast? ends]
    obtain ⟨o, wrote, emitted⟩ := emit_of_connected connected now true
      (entries.map fun e => (Frame.ofEntry e).text) fun t =>
        { t.observe [.entriesStreamed sub.source.name entries.length] with
          phase := .tailing { sub with cursor := last.serial, call := .looking } now }
    refine ⟨.looking, now, ?_, ?_⟩
    · exact congrArg Session.phase emitted
    · exact (congrArg (fun t => t.outbox.text) emitted).trans wrote.text

/-- A line, a look at the signal and a wait leave what is followed as it is. -/
theorem step_follows {sub : Subscription} {deadline : Span}
    (phase : s.phase = .tailing sub deadline) (quiet : s.signal.value = false) (now : Span)
    {e : Event} (h : e = .look ∨ e = .deadline ∨ ∃ text, e = .line text) :
    ∃ call deadline',
      s.step now e = { s with phase := .tailing { sub with call := call } deadline' } := by
  have waits {x : Subscription.Event} (plain : x = .look false ∨ x = .wake) : ∃ call deadline',
      s.tail now deadline sub x =
        { s with phase := .tailing { sub with call := call } deadline' } := by
    rcases plain with rfl | rfl <;>
    · cases call : sub.call <;> simp only [tail, Subscription.step, call] <;> exact ⟨_, _, rfl⟩
  rcases h with rfl | rfl | ⟨text, rfl⟩
  · simp only [step, phase, quiet]
    exact waits (.inl rfl)
  · simp only [step, phase]
    split
    · exact waits (.inr rfl)
    · refine ⟨sub.call, deadline, ?_⟩
      rw [← phase]
  · simp only [step, phase]
    refine ⟨.looking, now, ?_⟩
    cases call : sub.call <;> simp only [Subscription.step, call]

end Session

/-! ## Ranges -/

theorem entriesBetween_eq_window (first last : Int) (es : List Entry) :
    entriesBetween first last es = window es (first - 1) last := by
  refine List.filter_congr ?_
  intro e _
  simp only [decide_eq_decide]
  omega

/-- The check of a range decides what is served. -/
theorem changesText_eq (source : Source) (first : Int) (final : Request.RangeEnd)
    (keepalive : Bool) (es : List Entry) :
    changesText source first final keepalive es =
      (Session.checkRange first final (serialRange es)).map fun last =>
        startText source first last ++ framesText (entriesBetween first last es) ++
          if keepalive then "" else endText source := by
  unfold changesText Session.checkRange
  cases serialRange es with
  | none => rfl
  | some r =>
    have inside : (r.contains first && decide (final.resolve r.last ≤ r.last)) = true ↔
        ¬ (first < r.first ∨ r.last < first ∨ r.last < final.resolve r.last) := by
      simp only [Bool.and_eq_true, SerialRange.contains, decide_eq_true_eq]
      omega
    simp only [inside]
    by_cases outside : first < r.first ∨ r.last < first ∨ r.last < final.resolve r.last
    · simp only [outside, not_true_eq_false, if_true, if_false]
      rfl
    · simp only [outside, not_false_eq_true, if_true, if_false]
      rfl

theorem range_of_served {first last : Int} {final : Request.RangeEnd}
    {available : Option SerialRange}
    (served : Session.checkRange first final available = .ok last) :
    ∃ r, available = some r ∧ last = final.resolve r.last := by
  cases available with
  | none => cases served
  | some r =>
    rw [Session.checkRange] at served
    split at served
    · exact ⟨r, rfl, (Except.ok.inj served).symm⟩
    · cases served

namespace Dialogue

variable {ctx : SourceContext} {seen : LogView → Prop} {log : LogView}

/-- A request for changes that a state of the log can serve, up to a last serial. -/
structure Granted (ctx : SourceContext) (seen : LogView → Prop) (line : String) (source : Source)
    (first last : Int) (keepalive : Bool) (v : LogView) : Prop where
  state : seen v
  served : ∃ final, Request.parse ctx line = .ok (.changes source first final keepalive) ∧
    Session.checkRange first final (serialRange (v.entries source)) = .ok last

section

variable {line opening text : String} {source : Source} {first last : Int} {v : LogView}

theorem Granted.reaches {keepalive : Bool}
    (h : Granted ctx seen line source first last keepalive v) :
    first ≤ last ∧ Reaches (v.entries source) last := by
  obtain ⟨-, final, accepted, served⟩ := h
  exact LiveSession.reaches_of_checkRange (Request.parse_notBefore accepted) served

/-- The frames of the range are those that the log showed when it was asked. -/
theorem Granted.window_eq {keepalive : Bool}
    (h : Granted ctx seen line source first last keepalive v)
    (sorted : Ordered (log.entries source)) (grown : v.entries source <+: log.entries source) :
    window (log.entries source) (first - 1) last = entriesBetween first last (v.entries source) :=
  (h.reaches.2.window_eq sorted grown).trans (entriesBetween_eq_window first last _).symm

/-- A range that is written to its end, with the end line, is a complete answer. -/
theorem Granted.completed (h : Granted ctx seen line source first last false v)
    (sorted : Ordered (log.entries source)) (grown : v.entries source <+: log.entries source)
    (written : Written first (opening ++ startText source first last) (log.entries source) last
      text) :
    ∃ answer, text ++ endText source = opening ++ answer ∧ Completed ctx seen line answer := by
  obtain ⟨state, final, accepted, served⟩ := h
  refine ⟨_, ?_, .changes accepted state (by rw [changesText_eq, served]; rfl)⟩
  rw [written.text, Granted.window_eq ⟨state, final, accepted, served⟩ sorted grown]
  simp only [String.append_assoc, Bool.false_eq_true, if_false]

/-- A range that is written to its end and beyond is followed by later entries. -/
theorem Granted.followed (h : Granted ctx seen line source first last true v)
    (sorted : Ordered (log.entries source)) (grown : v.entries source <+: log.entries source)
    {cursor : Int} (beyond : last ≤ cursor)
    (written : Written first (opening ++ startText source first last) (log.entries source) cursor
      text) :
    ∃ answer, text = opening ++ answer ∧ Followed ctx seen log line answer := by
  have inOrder := h.reaches.1
  have joined : window (log.entries source) (first - 1) cursor =
      entriesBetween first last (v.entries source) ++ window (log.entries source) last cursor := by
    rw [← h.window_eq sorted grown, window_append sorted (by omega) beyond]
  have later : window (log.entries source) last cursor <+: entriesAfter (log.entries source) last :=
    ⟨_, window_append_entriesAfter sorted beyond⟩
  obtain ⟨state, final, accepted, served⟩ := h
  obtain ⟨r, range, rfl⟩ := range_of_served served
  refine ⟨_, ?_, .changes accepted state range (by rw [changesText_eq, served]; rfl) later⟩
  rw [written.text, joined, Session.framesText_append]
  simp only [String.append_assoc, if_true, String.empty_append]

end

end Dialogue

end RegistryFeed
