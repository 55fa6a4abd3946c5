import RegistryFeed.Proofs.Session.Delivery

/-!
# The answer to one range

A request without keepalive is answered from the range of the log at one moment.
It is refused and the session reads on, or the range is served to its end and
the session ends. Every page that comes moves the position on, so there are at
most as many pages as serials. Other programs append in between, at any time, and
the session is told things it does not wait for; only the failure of the log and
the leaving of the client are left out.
-/

namespace RegistryFeed

namespace Session

/-- A session that waits for the log takes notice of nothing else, unless the client goes. -/
theorem step_of_awaiting {s : Session}
    (awaits : (∃ source first final, s.phase = .checking source first final false) ∨
      ∃ source cursor last streamed, s.phase = .paging source cursor last streamed false)
    (now : Span) {e : Event} (other : ∀ r, e ≠ .reply r) (stays : e ≠ .gone) :
    ∃ signal, s.step now e = { s with signal := signal } := by
  cases e with
  | signal value => exact ⟨_, rfl⟩
  | detached => exact ⟨_, rfl⟩
  | gone => exact absurd rfl stays
  | reply r => exact absurd rfl (other r)
  | _ =>
    refine ⟨s.signal, ?_⟩
    show s.step now _ = s
    rcases awaits with ⟨source, first, final, phase⟩ | ⟨source, cursor, last, streamed, phase⟩
    · simp only [step, phase]
    · simp only [step, phase]

theorem sent_of_ended {s : Session} {result : Except EngineError SessionEnd}
    (h : s.phase = .ended result) (now : Span) (e : Event) :
    (s.step now e).outbox.sent = s.outbox.sent := by
  cases e with
  | signal | detached | gone => rfl
  | _ => simp only [step, h]

/-! ## The two answers -/

theorem outOfRange_line (a b : Int) :
    (Request.Fault.outOfRange a b).line =
      "ERROR:401 invalid range: Not within " ++ (Text.decimal a ++ "-" ++ Text.decimal b) := by
  have code : Request.Code.outOfRange.text = "401" := by decide +kernel
  have opening : "ERROR:" ++ "401" ++ " " ++ "invalid range: Not within " =
      "ERROR:401 invalid range: Not within " := by decide +kernel
  have line : (Request.Fault.outOfRange a b).line = "ERROR:" ++ Request.Code.outOfRange.text ++
      " " ++ ("invalid range: Not within " ++ Text.decimal a ++ "-" ++ Text.decimal b) := rfl
  generalize Text.decimal a = first at line ⊢
  generalize Text.decimal b = last at line ⊢
  calc (Request.Fault.outOfRange a b).line
      = "ERROR:" ++ "401" ++ " " ++ "invalid range: Not within " ++ (first ++ "-" ++ last) := by
        rw [line, code]
        simp only [String.append_assoc]
    _ = _ := by rw [opening]

theorem checkRange_refused {first : Int} {final : Request.RangeEnd}
    {available : Option SerialRange}
    (outside : ∀ r, available = some r →
      first < r.first ∨ r.last < first ∨ r.last < final.resolve r.last) :
    ∃ f, checkRange first final available = .error f ∧
      f.line = "ERROR:401 invalid range: Not within " ++ rangeText available := by
  cases available with
  | none => exact ⟨.outOfRange 0 0, rfl, by decide +kernel⟩
  | some r =>
    refine ⟨.outOfRange r.first r.last, ?_, outOfRange_line r.first r.last⟩
    have := outside r rfl
    simp only [checkRange]
    rw [if_neg]
    simp only [Bool.and_eq_true, SerialRange.contains, decide_eq_true_eq]
    omega

theorem checkRange_served {first : Int} {final : Request.RangeEnd} {r : SerialRange}
    (inside : ¬ (first < r.first ∨ r.last < first ∨ r.last < final.resolve r.last)) :
    checkRange first final (some r) = .ok (final.resolve r.last) := by
  simp only [checkRange]
  rw [if_pos]
  simp only [Bool.and_eq_true, SerialRange.contains, decide_eq_true_eq]
  omega

/-- A rejection is sent at once, and the session reads on. -/
theorem text_of_reject {s : Session} (connected : s.outbox.broken = false) (now : Span)
    (f : Request.Fault) :
    (∃ deadline, (s.reject now f).phase = .reading deadline) ∧
      (s.reject now f).outbox.text = s.outbox.text ++ rejectionText f ∧
      (s.reject now f).outbox.held = "" := by
  obtain ⟨o, wrote, emitted⟩ := emit_of_connected (s := s.observe [.protocolError f.code.number])
    connected now true [f.line ++ "\n\n"] (readOn now)
  rw [reject, emitted]
  refine ⟨⟨_, rfl⟩, wrote.text.trans ?_, wrote.held rfl⟩
  rw [String.join_cons, String.join_nil, String.append_empty]
  rfl

theorem reject_reads {s : Session} (connected : s.outbox.broken = false) (now : Span)
    (f : Request.Fault) :
    (∃ deadline, (s.reject now f).phase = .reading deadline) ∧
      (s.reject now f).outbox.sent = s.outbox.text ++ f.line ++ "\n\n" := by
  obtain ⟨phase, text, none⟩ := text_of_reject connected now f
  refine ⟨phase, ?_⟩
  rw [Outbox.sent_of_nothing none, text, rejectionText, String.append_assoc]

/-- A range that was served to its end is followed by the end line, and all of it is sent. -/
theorem rangeServed_completes {s : Session} (connected : s.outbox.broken = false) (now : Span)
    (source : Source) (last : Int) (streamed : Nat) :
    (s.rangeServed now source last streamed false).phase = .ended (.ok .completed) ∧
      (s.rangeServed now source last streamed false).outbox.sent =
        s.outbox.text ++ endText source := by
  unfold rangeServed
  obtain ⟨o, flushed, emitted⟩ := emit_of_connected connected now true [] _
  rw [emitted]
  simp only [Bool.false_eq_true, if_false]
  have connected' : o.broken = false := flushed.broken.trans connected
  obtain ⟨p, wrote, emitted'⟩ := emit_of_connected
    (s := { s with outbox := o }.observe [.entriesStreamed source.name streamed]) connected' now
    true [endText source] fun s => s.finish now (.ok .completed)
  rw [emitted']
  refine ⟨rfl, (Outbox.sent_of_close (wrote.broken.trans connected')).trans ?_⟩
  have text : p.text = o.text ++ String.join [endText source] := wrote.text
  rw [text, flushed.text]
  simp

end Session

namespace LiveSession

/-- Something that neither asks the log nor answers the session, nor takes the client away. -/
def Event.Aside : Event → Prop
  | .act _ e => e ≠ .gone
  | .append _ _ | .publish _ _ => True
  | .read | .fail _ | .deliver _ => False

/-- Neither does the log fail nor does the client go. -/
def Event.Sound : Event → Prop
  | .act _ e => e ≠ .gone
  | .fail _ => False
  | _ => True

variable {source : Source} {first last : Int} {s t : LiveSession}

/-- The session still waits for the log, which may have grown. -/
structure StillWaits (source : Source) (s t : LiveSession) : Prop where
  session : ∃ signal, t.session = { s.session with signal := signal }
  pending : t.pending = s.pending
  grown : s.log.entries source <+: t.log.entries source

theorem stillWaits_of_aside {e : Event} (aside : e.Aside)
    (awaits : (∃ source first final, s.session.phase = .checking source first final false) ∨
      ∃ source cursor last streamed,
        s.session.phase = .paging source cursor last streamed false) :
    StillWaits source s (s.step e) := by
  cases e with
  | act now e =>
    rcases s.step_act_cases now e with same | other
    · rw [same]
      exact ⟨⟨s.session.signal, rfl⟩, rfl, List.prefix_rfl⟩
    · obtain ⟨signal, same⟩ := Session.step_of_awaiting awaits now other aside
      rw [step_act s now other]
      refine ⟨⟨signal, same⟩, if_pos ?_, List.prefix_rfl⟩
      rw [same]
      rfl
  | read => exact aside.elim
  | fail error => exact aside.elim
  | deliver now => exact aside.elim
  | append other entry =>
    exact ⟨⟨s.session.signal, rfl⟩, rfl, s.log.append_grows other source entry⟩
  | publish other version => exact ⟨⟨s.session.signal, rfl⟩, rfl, List.prefix_rfl⟩

theorem stillWaits_run {es : List Event} (aside : ∀ e ∈ es, e.Aside)
    (awaits : ∃ source first final, s.session.phase = .checking source first final false) :
    StillWaits source s (s.run es) := by
  induction es generalizing s with
  | nil => exact ⟨⟨s.session.signal, rfl⟩, rfl, List.prefix_rfl⟩
  | cons e es ih =>
    obtain ⟨⟨signal, session⟩, pending, grown⟩ : StillWaits source s (s.step e) :=
      stillWaits_of_aside (aside e List.mem_cons_self) (.inl awaits)
    have later := ih (s := s.step e) (fun x hx => aside x (List.mem_cons_of_mem _ hx))
      (by rw [session]; exact awaits)
    obtain ⟨⟨signal', session'⟩, pending', grown'⟩ := later
    refine ⟨⟨signal', ?_⟩, pending'.trans pending, grown.trans grown'⟩
    rw [run_cons, session', session]

/-! ## Page after page -/

/-- Whether the log has replied to a question that the session has not been answered yet. -/
def Event.replied (before : Bool) : Event → Bool
  | .read => true
  | .deliver _ => false
  | _ => before

def Event.answers (replied : Bool) : Event → Nat
  | .deliver _ => replied.toNat
  | _ => 0

/-- The number of answers that reach the session. -/
def answers (replied : Bool) : List Event → Nat
  | [] => 0
  | e :: es => e.answers replied + answers (e.replied replied) es

/-- A range is being served to a client that is there, with at most so many pages left, or it has
been served to its end. -/
inductive Ranging (source : Source) (last : Int) (opening : String) (wanted : List Entry) :
    Bool → Nat → LiveSession → Prop
  | paging {s : LiveSession} {position first : Int} {streamed left : Nat}
      (phase : s.session.phase = .paging source position last streamed false)
      (connected : s.session.outbox.broken = false) (size : 1 ≤ s.session.settings.batch)
      (ordered : Ordered (s.log.entries source)) (reaches : Reaches (s.log.entries source) last)
      (whole : window (s.log.entries source) (first - 1) last = wanted)
      (written : Written first opening (s.log.entries source) position s.session.outbox.text)
      (within : position < last) (bound : last - position ≤ left)
      (reply : ∀ r, s.pending = some r → ∃ old, old <+: s.log.entries source ∧
        Reaches old last ∧
        r = .page (.ok ((entriesAfter old position).take s.session.settings.batch))) :
      Ranging source last opening wanted s.pending.isSome left s
  | completed {s : LiveSession} {replied : Bool} {left : Nat}
      (phase : s.session.phase = .ended (.ok .completed))
      (sent : s.session.outbox.sent = opening ++ framesText wanted ++ endText source) :
      Ranging source last opening wanted replied left s

namespace Ranging

variable {opening : String} {wanted : List Entry} {replied : Bool} {left : Nat}

theorem of_advances {floor : Int} {now : Span} {x t : Session} {log : LogView}
    (advances : x.Advances now source first last opening (log.entries source) false floor t)
    (connected : x.outbox.broken = false) (size : 1 ≤ x.settings.batch)
    (ordered : Ordered (log.entries source)) (reaches : Reaches (log.entries source) last)
    (whole : window (log.entries source) (first - 1) last = wanted)
    (bound : last - floor ≤ left) :
    Ranging source last opening wanted false left ⟨t, log, none⟩ := by
  cases advances with
  | further still beyond within written =>
    exact .paging (s := ⟨_, log, none⟩) rfl (still.trans connected) size ordered reaches whole
      written within (by omega) (by simp)
  | @complete o streamed still written =>
    obtain ⟨phase, sent⟩ := Session.rangeServed_completes
      (s := { x with outbox := o }) (still.trans connected) now source last streamed
    refine .completed phase (sent.trans ?_)
    rw [← whole]
    exact congrArg (· ++ endText source) written.text
  | lost broken => exact absurd (connected.symm.trans broken) Bool.false_ne_true

theorem of_stillWaits (h : Ranging source last opening wanted replied left s)
    (waits : StillWaits source s t) (ordered : Ordered (t.log.entries source)) :
    Ranging source last opening wanted replied left t := by
  obtain ⟨⟨signal, session⟩, pending, grown⟩ := waits
  cases h with
  | @paging _ position first streamed _ phase connected size old reaches whole written within bound
      reply =>
    rw [← pending]
    have stays : t.session.phase = .paging source position last streamed false := by
      rw [session]
      exact phase
    have text : Written first opening (t.log.entries source) position t.session.outbox.text := by
      rw [session]
      exact written.grow ordered grown
    refine .paging stays ?_ ?_ ordered (reaches.mono grown) ?_ text within bound ?_
    · rw [session]
      exact connected
    · rw [session]
      exact size
    · rw [reaches.window_eq ordered grown]
      exact whole
    · intro r hr
      rw [pending] at hr
      obtain ⟨earlier, before, reached, same⟩ := reply r hr
      rw [session]
      exact ⟨earlier, before.trans grown, reached, same⟩
  | completed phase sent =>
    refine .completed ?_ ?_
    · rw [session]
      exact phase
    · rw [session]
      exact sent

theorem step_of_completed (phase : s.session.phase = .ended (.ok .completed))
    (sent : s.session.outbox.sent = opening ++ framesText wanted ++ endText source) (e : Event) :
    Ranging source last opening wanted replied left (s.step e) := by
  rcases s.session_step e with stays | ⟨now, x, steps⟩
  · exact .completed (stays ▸ phase) (stays ▸ sent)
  · refine .completed ?_ ?_
    · rw [steps, (Session.step_of_ended phase now x).phase, phase]
    · rw [steps, Session.sent_of_ended phase now x, sent]

/-- An answer to the question for a page moves the position on, or completes the range. -/
theorem deliver (h : Ranging source last opening wanted replied left s) (now : Span) :
    Ranging source last opening wanted false (left - replied.toNat) (s.step (.deliver now)) := by
  cases h with
  | completed phase sent => exact step_of_completed phase sent (.deliver now)
  | @paging _ position first streamed _ phase connected size ordered reaches whole written within
      bound reply =>
    cases pending : s.pending with
    | none =>
      have same : s.step (.deliver now) = s := by simp only [LiveSession.step, pending]
      have still := Ranging.paging phase connected size ordered reaches whole written within bound
        reply
      rw [pending] at still
      rw [same]
      exact still
    | some r =>
      obtain ⟨old, grown, reached, rfl⟩ := reply r pending
      have stepped : s.step (.deliver now) =
          ⟨s.session.turnPage now source position last streamed false
            ((entriesAfter old position).take s.session.settings.batch), s.log, none⟩ := by
        simp only [LiveSession.step, pending, Session.step, phase]
      rw [stepped]
      refine of_advances (Session.turnPage_advances written ordered grown reached now streamed false
        size within) connected size ordered reaches whole ?_
      simp only [Option.isSome_some, Bool.toNat_true]
      omega

theorem read (h : Ranging source last opening wanted replied left s) :
    Ranging source last opening wanted true left (s.step .read) := by
  cases h with
  | completed phase sent => exact step_of_completed phase sent .read
  | @paging _ position first streamed _ phase connected size ordered reaches whole written within
      bound reply =>
    have asked : s.step .read = { s with pending := some (.page (.ok
        ((entriesAfter (s.log.entries source) position).take s.session.settings.batch))) } := by
      simp only [LiveSession.step, ask, Session.reading?, phase, LogView.reply]
    rw [asked]
    refine .paging (s := { s with pending := some _ }) phase connected size ordered reaches whole
      written within bound ?_
    intro r hr
    exact ⟨s.log.entries source, List.prefix_rfl, reaches, (Option.some.inj hr).symm⟩

theorem aside (h : Ranging source last opening wanted replied left s) {e : Event}
    (aside : e.Aside) : Ranging source last opening wanted replied left (s.step e) := by
  cases h with
  | completed phase sent => exact step_of_completed phase sent e
  | paging phase connected size ordered reaches whole written within bound reply =>
    have waits : StillWaits source s (s.step e) :=
      stillWaits_of_aside aside (.inr ⟨_, _, _, _, phase⟩)
    have here := Ranging.paging phase connected size ordered reaches whole written within bound
      reply
    exact here.of_stillWaits waits (step_ordered ordered e)

theorem step (h : Ranging source last opening wanted replied left s) {e : Event}
    (sound : e.Sound) :
    Ranging source last opening wanted (e.replied replied) (left - e.answers replied)
      (s.step e) := by
  cases e with
  | act now e => exact h.aside sound
  | read => exact h.read
  | fail error => exact sound.elim
  | deliver now => exact h.deliver now
  | append other entry => exact h.aside trivial
  | publish other version => exact h.aside trivial

theorem run (h : Ranging source last opening wanted replied left s) {es : List Event}
    (sound : ∀ e ∈ es, e.Sound) :
    ∃ after, Ranging source last opening wanted after (left - answers replied es) (s.run es) := by
  induction es generalizing s replied left with
  | nil => exact ⟨replied, h⟩
  | cons e es ih =>
    have stepped := h.step (sound e List.mem_cons_self)
    obtain ⟨after, later⟩ := ih stepped fun x hx => sound x (List.mem_cons_of_mem _ hx)
    rw [Nat.sub_sub] at later
    exact ⟨after, later⟩

/-- What has been written of a range, at any moment. -/
theorem delivered (h : Ranging source last opening wanted replied left s) :
    ((∃ cursor streamed frames,
        s.session.phase = .paging source cursor last streamed false ∧ frames <+: wanted ∧
        s.session.outbox.text = opening ++ framesText frames) ∨
      (s.session.phase = .ended (.ok .completed) ∧
        s.session.outbox.sent = opening ++ framesText wanted ++ endText source)) ∧
    (left = 0 → s.session.phase = .ended (.ok .completed)) := by
  cases h with
  | @paging _ position first streamed _ phase connected size ordered reaches whole written within
      bound reply =>
    refine ⟨.inl ⟨position, streamed, window (s.log.entries source) (first - 1) position, phase, ?_,
      written.text⟩, ?_⟩
    · rw [← whole, ← window_append ordered written.start (Int.le_of_lt within)]
      exact List.prefix_append _ _
    · intro none
      omega
  | completed phase sent => exact ⟨.inr ⟨phase, sent⟩, fun _ => phase⟩

end Ranging

/-! ## The whole answer -/

/-- An accepted request waits for the range of the log, whatever else happens. -/
theorem asked_of_accepted {line : String} {final : Request.RangeEnd} {deadline : Span}
    {before between : List Event} (ordered : Ordered (s.log.entries source))
    (reading : s.session.phase = .reading deadline)
    (accepted : Request.parse s.session.context line = .ok (.changes source first final false))
    (waits : ∀ e ∈ before, e.Aside) (waits' : ∀ e ∈ between, e.Aside) (start : Span) :
    let asked := (s.step (.act start (.line line))).run before
    let t := asked.run (.read :: between)
    t.session.phase = .checking source first final false ∧
      t.session.outbox = s.session.outbox ∧ t.session.settings = s.session.settings ∧
      Ordered (t.log.entries source) ∧
      t.pending = some (.range (.ok (serialRange (asked.log.entries source)))) ∧
      asked.log.entries source <+: t.log.entries source := by
  intro asked t
  have accepts : (s.step (.act start (.line line))).session =
      { s.session with phase := .checking source first final false } := by
    rw [step_act s start (by simp)]
    simp only [Session.step, reading, Session.request, accepted]
  have toRead : StillWaits source (s.step (.act start (.line line))) asked :=
    stillWaits_run waits ⟨source, first, final, by rw [accepts]⟩
  obtain ⟨signal, session⟩ := toRead.session
  rw [accepts] at session
  have read : asked.step .read =
      { asked with pending := some (.range (.ok (serialRange (asked.log.entries source)))) } := by
    simp only [LiveSession.step, ask, Session.reading?, session, LogView.reply]
  have toAnswer : StillWaits source (asked.step .read) t :=
    stillWaits_run waits' ⟨source, first, final, by rw [read, session]⟩
  obtain ⟨signal', session'⟩ := toAnswer.session
  have sorted := run_ordered (step_ordered ordered (.act start (.line line))) before
  have sorted' := run_ordered (step_ordered sorted .read) between
  have pending := toAnswer.pending
  have grown := toAnswer.grown
  rw [read] at session' pending grown
  simp only [session] at session'
  refine ⟨?_, ?_, ?_, sorted', pending, grown⟩
  · rw [session']
  · rw [session']
  · rw [session']

/-- The reply with the range of the log reaches the session. -/
theorem deliver_of_checking {final : Request.RangeEnd} {available : Option SerialRange}
    (phase : s.session.phase = .checking source first final false)
    (pending : s.pending = some (.range (.ok available))) (now : Span) :
    s.step (.deliver now) =
      ⟨s.session.serveRange now source first final false available, s.log, none⟩ := by
  simp only [LiveSession.step, pending, Session.step, phase]

theorem refused_of_checking {final : Request.RangeEnd} {available : Option SerialRange}
    (phase : s.session.phase = .checking source first final false)
    (connected : s.session.outbox.broken = false)
    (pending : s.pending = some (.range (.ok available)))
    (outside : ∀ r, available = some r →
      first < r.first ∨ r.last < first ∨ r.last < final.resolve r.last) (now : Span) :
    (∃ deadline, (s.step (.deliver now)).session.phase = .reading deadline) ∧
      (s.step (.deliver now)).session.outbox.sent = s.session.outbox.text ++
        "ERROR:401 invalid range: Not within " ++ rangeText available ++ "\n\n" := by
  obtain ⟨f, refused, answer⟩ := Session.checkRange_refused outside
  rw [deliver_of_checking phase pending]
  simp only [Session.serveRange, refused]
  obtain ⟨reads, sent⟩ :=
    Session.reject_reads (s := s.session.observe [.query "mirror" "error"]) connected now f
  refine ⟨reads, sent.trans ?_⟩
  rw [answer, ← String.append_assoc]
  rfl

theorem ranging_of_checking {final : Request.RangeEnd} {r : SerialRange} {log : List Entry}
    (ordered : Ordered (s.log.entries source))
    (phase : s.session.phase = .checking source first final false)
    (connected : s.session.outbox.broken = false) (size : 1 ≤ s.session.settings.batch)
    (pending : s.pending = some (.range (.ok (serialRange log))))
    (grown : log <+: s.log.entries source) (notBefore : final.NotBefore first)
    (range : serialRange log = some r)
    (inside : ¬ (first < r.first ∨ r.last < first ∨ r.last < final.resolve r.last))
    (now : Span) :
    Ranging source (final.resolve r.last)
      (s.session.outbox.text ++ startText source first (final.resolve r.last))
      (entriesBetween first (final.resolve r.last) log) false
      (final.resolve r.last - first + 1).toNat (s.step (.deliver now)) := by
  have served := Session.checkRange_served inside
  rw [← range] at served
  obtain ⟨inOrder, reached⟩ := reaches_of_checkRange notBefore served
  have advances := Session.serveRange_advances (s := s.session) source served
    (reached.mono grown) inOrder now false
  rw [deliver_of_checking phase pending]
  refine Ranging.of_advances advances connected size ordered (reached.mono grown) ?_ ?_
  · rw [reached.window_eq ordered grown]
    refine List.filter_congr ?_
    intro e _
    simp only [decide_eq_decide]
    omega
  · omega

/-- A request for changes without keepalive is refused with the range of the log as it is when the
log replies, and the session reads on, exactly where the request does not lie within that range.
Otherwise the client is given the frames of exactly the entries that it asked for, in order and each
once, and then the end line, whatever the size of the pages and whatever is appended meanwhile;
there are at most as many pages as serials in the request. -/
theorem range_delivers {line : String} {final : Request.RangeEnd} {deadline : Span}
    {before between : List Event} (ordered : Ordered (s.log.entries source))
    (reading : s.session.phase = .reading deadline)
    (connected : s.session.outbox.broken = false) (size : 1 ≤ s.session.settings.batch)
    (accepted : Request.parse s.session.context line = .ok (.changes source first final false))
    (waits : ∀ e ∈ before, e.Aside) (waits' : ∀ e ∈ between, e.Aside) (start now : Span) :
    let asked := (s.step (.act start (.line line))).run before
    let log := asked.log.entries source
    let answered := asked.run (.read :: between ++ [.deliver now])
    ((∀ r, serialRange log = some r →
        first < r.first ∨ r.last < first ∨ r.last < final.resolve r.last) →
      (∃ deadline, answered.session.phase = .reading deadline) ∧
      answered.session.outbox.sent = s.session.outbox.text ++
        "ERROR:401 invalid range: Not within " ++ rangeText (serialRange log) ++ "\n\n") ∧
    ∀ r, serialRange log = some r →
      ¬ (first < r.first ∨ r.last < first ∨ r.last < final.resolve r.last) →
      ∀ after : List Event, (∀ e ∈ after, e.Sound) →
        let last := final.resolve r.last
        let opening := s.session.outbox.text ++ startText source first last
        let wanted := entriesBetween first last log
        let t := answered.run after
        ((∃ cursor streamed frames,
            t.session.phase = .paging source cursor last streamed false ∧ frames <+: wanted ∧
            t.session.outbox.text = opening ++ framesText frames) ∨
          (t.session.phase = .ended (.ok .completed) ∧
            t.session.outbox.sent = opening ++ framesText wanted ++ endText source)) ∧
        ((last - first + 1).toNat ≤ answers false after →
          t.session.phase = .ended (.ok .completed)) := by
  intro asked log answered
  obtain ⟨phase, outbox, settings, sorted, pending, grown⟩ :=
    asked_of_accepted ordered reading accepted waits waits' start
  have last : answered = (asked.run (.read :: between)).step (.deliver now) := by
    show asked.run _ = _
    rw [LiveSession.run, List.foldl_append]
    rfl
  have there := outbox ▸ connected
  rw [last]
  refine ⟨?_, ?_⟩
  · intro outside
    have refused := refused_of_checking phase there pending outside now
    rw [outbox] at refused
    exact refused
  · intro r range inside after sound
    have begun := ranging_of_checking sorted phase there (settings ▸ size) pending grown
      (Request.parse_notBefore accepted) range inside now
    rw [outbox] at begun
    obtain ⟨replied, ranging⟩ := begun.run sound
    obtain ⟨given, all⟩ := ranging.delivered
    exact ⟨given, fun enough => all (Nat.sub_eq_zero_of_le enough)⟩

/-- A log with gaps, and a client that gets one entry with each page. -/
def gapped : LiveSession :=
  let source : Source := ⟨"TEST"⟩
  ⟨.create ⟨source, none⟩ { SessionSettings.default with batch := 1 } .quiet .zero,
    ⟨fun s => if s = source then
        [⟨1, .add, "route", "k", some "p", 0⟩, ⟨3, .delete, "route", "k", none, 0⟩,
          ⟨7, .add, "route", "k", some "q", 0⟩] else [],
      fun _ => none⟩,
    none⟩

/-- An entry comes while the range of the log is on its way. -/
def growing : List Event := [.append ⟨"TEST"⟩ ⟨8, .add, "route", "k", some "r", 0⟩]

/-- A range that ends in a gap, and one that begins beyond the log. -/
theorem range_delivers_gapped :
    Ordered (gapped.log.entries ⟨"TEST"⟩) ∧
    Request.parse gapped.session.context "-g TEST:3:1-5" =
      .ok (.changes ⟨"TEST"⟩ 1 (.serial 5) false) ∧
    Request.parse gapped.session.context "-g TEST:3:8-LAST" =
      .ok (.changes ⟨"TEST"⟩ 8 .last false) ∧
    (((gapped.step (.act .zero (.line "-g TEST:3:1-5"))).run []).run
      (.read :: growing ++ [.deliver .zero] ++
        (List.replicate 5 [Event.read, .deliver .zero]).flatten)).session.phase =
      .ended (.ok .completed) ∧
    (((gapped.step (.act .zero (.line "-g TEST:3:8-LAST"))).run []).run
      (.read :: growing ++ [.deliver .zero])).session.outbox.sent =
      "ERROR:401 invalid range: Not within 1-7\n\n" := by
  have ordered : Ordered (gapped.log.entries ⟨"TEST"⟩) := by decide
  have served : Request.parse gapped.session.context "-g TEST:3:1-5" =
      .ok (.changes ⟨"TEST"⟩ 1 (.serial 5) false) := by rfl
  have refused : Request.parse gapped.session.context "-g TEST:3:8-LAST" =
      .ok (.changes ⟨"TEST"⟩ 8 .last false) := by rfl
  have waits : ∀ e ∈ ([] : List Event), e.Aside := by simp
  have grows : ∀ e ∈ growing, e.Aside := by simp [growing, Event.Aside]
  refine ⟨ordered, served, refused, ?_, ?_⟩
  · have answer := range_delivers ordered rfl rfl (by decide) served waits grows .zero .zero
    have given := answer.2 ⟨1, 7⟩ rfl (by decide)
      ((List.replicate 5 [Event.read, .deliver .zero]).flatten) (by simp [Event.Sound])
    rw [LiveSession.run, List.foldl_append]
    exact given.2 (by decide)
  · have answer := range_delivers ordered rfl rfl (by decide) refused waits grows .zero .zero
    refine (answer.1 ?_).2.trans (by decide +kernel)
    intro r range
    obtain rfl : (⟨1, 7⟩ : SerialRange) = r := Option.some.inj range
    decide

end LiveSession

end RegistryFeed
