import Mathlib.Data.Prod.Lex
import RegistryFeed.Proofs.Session.Leading
import RegistryFeed.Proofs.Session.Stages

/-!
# The end of a dialogue

A dialogue needs one thing at a time: more from the client, the log's reply, or that the
reply arrives. What it needs brings it nearer to its end, and nothing takes it farther
away, so it ends as soon as everything that it may need comes again and again. The log
may grow forever.
-/

namespace RegistryFeed

namespace Dialogue

/-- What a dialogue needs to go on. -/
inductive Need
  | nothing
  | words
  | reading
  | delivery
deriving DecidableEq

def need (d : Dialogue) : Need :=
  match d.live.session.phase with
  | .ended _ => .nothing
  | .reading _ | .tailing _ _ => .words
  | _ => if d.live.pending.isNone then .reading else .delivery

def Event.meets : Event → Need → Bool
  | .take _, .words | .read, .reading | .deliver _, .delivery => true
  | _, _ => false

end Dialogue

/-- How far a phase is from the end: first by what may still be heard in it, then by the questions
that its answer takes, each of which is put and replied to. -/
def Phase.left (words unasked : Nat) : Phase → Nat ×ₗ Nat
  | .checking _ _ _ _ => toLex (2 * words + 4, unasked)
  | .reading _ => toLex (2 * words + 3, 0)
  | .paging _ cursor last _ _ => toLex (words + 2, 2 * (last - cursor).toNat + unasked)
  | .describing _ _ more _ => toLex (2, 4 * more.length + 2 + unasked)
  | .versioning _ more _ => toLex (2, 4 * more.length + unasked)
  | .tailing _ _ => toLex (words + 1, 0)
  | .ended _ => toLex (0, 0)

namespace Dialogue

def left (d : Dialogue) : Nat ×ₗ Nat :=
  d.live.session.phase.left d.inbox.bytes.length (if d.live.pending.isNone then 1 else 0)

end Dialogue

theorem Phase.left_pos {p : Phase} (running : ∀ result, p ≠ .ended result) (words unasked : Nat) :
    toLex (0, 0) < p.left words unasked := by
  cases p with
  | ended result => exact absurd rfl (running result)
  | _ => exact Prod.Lex.toLex_lt_toLex.mpr (by omega)

/-- A reply brings a phase nearer to the end, unless it follows the log and goes on to do so. -/
theorem Phase.Leads.left_lt {v : LogView} {p q : Phase} (h : p.Leads v q)
    (running : ∀ result, p ≠ .ended result) (words : Nat) :
    q.left words 1 < p.left words 0 ∨
      (∃ sub deadline, p = .tailing sub deadline) ∧ ∃ sub deadline, q = .tailing sub deadline := by
  cases h with
  | ended p result => exact .inl (Phase.left_pos running words 0)
  | followed _ _ => exact .inr ⟨⟨_, _, rfl⟩, _, _, rfl⟩
  | turned read within =>
    have beyond := (mem_entriesAfter.mp read).2
    exact .inl (Prod.Lex.toLex_lt_toLex.mpr (by omega))
  | described | versioned =>
    refine .inl (Prod.Lex.toLex_lt_toLex.mpr ?_)
    rw [List.length_cons]
    omega
  | half | refused | begun | checked _ | served _ =>
    exact .inl (Prod.Lex.toLex_lt_toLex.mpr (by omega))

/-- A request is heard when there was more to be heard. -/
theorem Phase.Opens.left_lt {q : Phase} (h : q.Opens) {words before : Nat}
    (fewer : words < before) : q.left words 1 < toLex (2 * before + 3, 0) := by
  cases h with
  | ended | rejected | informing | checking => exact Prod.Lex.toLex_lt_toLex.mpr (by omega)

/-! ## What each event leaves -/

namespace Dialogue

variable {ctx : SourceContext} {seen : LogView → Prop} {lines : List String} {d : Dialogue}

/-- An event brings a dialogue nearer to its end, or it is not what is needed and leaves it as near
as it is. -/
def Nears (d : Dialogue) (e : Event) : Prop :=
  (d.step e).left < d.left ∨
    (d.step e).left = d.left ∧ (d.step e).need = d.need ∧ e.meets d.need = false

/-- A dialogue that follows the log needs its client only. -/
theorem left_of_tailing {sub : Subscription} {deadline : Span}
    (phase : d.live.session.phase = .tailing sub deadline) :
    d.left = toLex (d.inbox.bytes.length + 1, 0) ∧ d.need = .words := by
  rw [left, need, phase]
  exact ⟨rfl, rfl⟩

theorem nears_of_follow {e : Event} {sub : Subscription} {deadline : Span}
    (phase : d.live.session.phase = .tailing sub deadline)
    (follows : ∃ sub deadline, (d.step e).live.session.phase = .tailing sub deadline)
    (bytes : (d.step e).inbox = d.inbox) (other : e.meets .words = false) : d.Nears e := by
  obtain ⟨sub', deadline', phase'⟩ := follows
  obtain ⟨left, need⟩ := left_of_tailing phase
  obtain ⟨left', need'⟩ := left_of_tailing phase'
  refine .inr ⟨?_, need'.trans need.symm, ?_⟩
  · rw [left', left, bytes]
  · rwa [need]

theorem nears_of_same {e : Event} (same : d.step e = d) (other : e.meets d.need = false) :
    d.Nears e := by
  rw [Nears, same]
  exact .inr ⟨rfl, rfl, other⟩

theorem Going.nears_of_deliver (h : Going ctx seen lines d) (now : Span) :
    d.Nears (.deliver now) := by
  cases pending : d.live.pending with
  | none =>
    refine nears_of_same ?_ ?_
    · rw [Dialogue.step, LiveSession.step, pending]
    · rw [need, pending]
      split <;> rfl
  | some reply =>
    obtain ⟨question, old, asks, -, grown, rfl⟩ := h.steady.honest reply pending
    have delivered : d.step (.deliver now) =
        ⟨⟨d.live.session.step now (.reply (old.reply question)), d.live.log, none⟩, d.inbox⟩ := by
      rw [Dialogue.step, LiveSession.step, pending]
    have sorted (source : Source) : Ordered (old.entries source) :=
      (h.steady.ordered source).sublist (grown source).sublist
    have leads : d.live.session.phase.Leads old (d.live.session.told old now).phase :=
      Session.told_leads asks sorted
    rw [← Session.step_reply asks] at leads
    rcases leads.left_lt (Session.running_of_asks asks) d.inbox.bytes.length with
      lower | ⟨⟨_, _, phase⟩, follows⟩
    · refine .inl ?_
      rw [delivered, left, left, pending]
      exact lower
    · refine nears_of_follow phase ?_ (by rw [delivered]) rfl
      rw [delivered]
      exact follows

/-- A question that is put is one that the session was waiting to put, or is put again. -/
theorem nears_of_ask {question : Reading} (asks : d.live.session.reading? = some question)
    (need : d.need = if d.live.pending.isNone then .reading else .delivery)
    (need' : (d.step .read).need = .delivery)
    (falls : ∀ words, d.live.session.phase.left words 0 < d.live.session.phase.left words 1) :
    d.Nears .read := by
  have read : d.step .read =
      ⟨⟨d.live.session, d.live.log, some (d.live.log.reply question)⟩, d.inbox⟩ := by
    rw [Dialogue.step, LiveSession.step, LiveSession.ask, asks]
  cases pending : d.live.pending with
  | none =>
    refine .inl ?_
    rw [read, left, left, pending]
    exact falls _
  | some reply =>
    have same : d.need = .delivery := by
      rw [need, pending]
      rfl
    refine .inr ⟨?_, need'.trans same.symm, ?_⟩
    · rw [read, left, left, pending]
      rfl
    · rw [same]
      rfl

theorem Going.nears_of_read (h : Going ctx seen lines d) (running : d.need ≠ .nothing) :
    d.Nears .read := by
  cases h.stage with
  | ended phase _ => exact absurd (by rw [need, phase]) running
  | reading phase _ _ =>
    refine nears_of_same ?_ ?_
    · rw [Dialogue.step, LiveSession.step, LiveSession.ask, Session.reading?, phase]
    · rw [need, phase]
      rfl
  | tailing phase _ _ _ _ _ _ =>
    have same : (d.step .read).live.session.phase = d.live.session.phase :=
      congrArg Session.phase (d.live.ask_same _).1
    exact nears_of_follow phase ⟨_, _, same.trans phase⟩ rfl rfl
  | describing phase _ _ _ _ | versioning phase _ _ _ _ _ | checking phase _ _ _
      | paging phase _ _ _ _ _ _ _ =>
    refine nears_of_ask (by rw [Session.reading?, phase]) (by rw [need, phase]) ?_ ?_
    · simp only [Dialogue.step, LiveSession.step, LiveSession.ask, Session.reading?, need, phase]
      rfl
    · intro words
      rw [phase]
      exact Prod.Lex.toLex_lt_toLex.mpr (by omega)

theorem Going.nears_of_take (h : Going ctx seen lines d) (running : d.need ≠ .nothing)
    (now : Span) : d.Nears (.take now) := by
  have steady := h.steady
  have closed := h.closed
  have deaf (silent : d.listens = false) (other : d.need ≠ .words) : d.Nears (.take now) := by
    refine nears_of_same (if_neg (Bool.eq_false_iff.mp silent)) ?_
    cases need : d.need with
    | words => exact absurd need other
    | nothing | reading | delivery => rfl
  cases h.stage with
  | ended phase _ => exact absurd (by rw [need, phase]) running
  | describing phase _ _ _ _ | versioning phase _ _ _ _ _ | checking phase _ _ _
      | paging phase _ _ _ _ _ _ _ =>
    refine deaf (by simp [listens, isTailing, phase]) ?_
    rw [need, phase]
    dsimp only
    split <;> simp
  | @reading rest deadline phase said before =>
    have hears : d.listens = true := by simp [listens, phase]
    refine .inl ?_
    cases rest with
    | nil =>
      rw [step_take_closed hears (Inbox.next_of_says_nothing closed said) now,
        LiveSession.step_act _ _ (by simp), left, left, phase]
      simp only [Session.step, phase]
      exact Prod.Lex.toLex_lt_toLex.mpr (by omega)
    | cons line rest =>
      obtain ⟨bytes, next, -, fewer⟩ := Inbox.next_of_says closed said
      rw [step_take_line hears next now, LiveSession.step_act _ _ (by simp),
        steady.pending_eq_none (by simp [Session.reading?, phase]), ite_self, left, left, phase]
      simp only [Session.step, phase]
      exact (Session.request_opens _ now line).left_lt fewer
  | @tailing line opening after rest first last sub deadline v phase said before granted range
      beyond written =>
    have hears : d.listens = true := by simp [listens, isTailing, phase]
    refine .inl ?_
    cases rest with
    | nil =>
      rw [step_take_closed hears (Inbox.next_of_says_nothing closed said) now,
        LiveSession.step_act _ _ (by simp), left, left, phase]
      simp only [Session.step, phase]
      exact Prod.Lex.toLex_lt_toLex.mpr (by omega)
    | cons line' rest =>
      obtain ⟨bytes, next, -, fewer⟩ := Inbox.next_of_says closed said
      obtain ⟨call, deadline', same⟩ :=
        Session.step_follows phase steady.quiet now (.inr (.inr ⟨line', rfl⟩))
      rw [step_take_line hears next now, LiveSession.step_act _ _ (by simp), same, left, left,
        phase]
      exact Prod.Lex.toLex_lt_toLex.mpr (by dsimp only; omega)

/-- A look at the signal and a wait change nothing that matters. -/
theorem Going.nears_of_wait (h : Going ctx seen lines d) {e : Event} (now : Span)
    (wait : e = .look now ∨ e = .wake now) : d.Nears e := by
  have other (need : Need) : e.meets need = false := by
    rcases wait with rfl | rfl <;> cases need <;> rfl
  have idle (phase : ∀ sub deadline, d.live.session.phase ≠ .tailing sub deadline)
      (tails : d.isTailing = false) : d.Nears e := by
    refine nears_of_same ?_ (other _)
    rcases wait with rfl | rfl
    · rw [Dialogue.step, LiveSession.step_look_of_idle phase now]
    · exact if_neg (Bool.eq_false_iff.mp tails)
  cases h.stage with
  | reading phase _ _ | describing phase _ _ _ _ | versioning phase _ _ _ _ _
      | checking phase _ _ _ | paging phase _ _ _ _ _ _ _ | ended phase _ =>
    exact idle (by simp [phase]) (by simp [isTailing, phase])
  | tailing phase _ _ _ _ _ _ =>
    have tails : d.isTailing = true := by rw [isTailing, phase]
    rcases wait with rfl | rfl
    · obtain ⟨call, deadline, same⟩ :=
        Session.step_follows phase h.steady.quiet now (.inl rfl)
      refine nears_of_follow phase ?_ rfl rfl
      rw [Dialogue.step, LiveSession.step_act _ _ (by simp), same]
      exact ⟨_, _, rfl⟩
    · obtain ⟨call, deadline, same⟩ :=
        Session.step_follows phase h.steady.quiet now (.inr (.inl rfl))
      have stepped : d.step (.wake now) = { d with live := d.live.step (.act now .deadline) } :=
        if_pos tails
      refine nears_of_follow phase ?_ (by rw [stepped]) rfl
      rw [stepped, LiveSession.step_act _ _ (by simp), same]
      exact ⟨_, _, rfl⟩

theorem Going.nears (h : Going ctx seen lines d) (running : d.need ≠ .nothing) (e : Event) :
    d.Nears e := by
  cases e with
  | take now => exact h.nears_of_take running now
  | look now => exact h.nears_of_wait now (.inl rfl)
  | wake now => exact h.nears_of_wait now (.inr rfl)
  | read => exact h.nears_of_read running
  | deliver now => exact h.nears_of_deliver now
  | append source entry => exact .inr ⟨rfl, rfl, by cases d.need <;> rfl⟩
  | publish source version => exact .inr ⟨rfl, rfl, by cases d.need <;> rfl⟩

/-! ## The end -/

theorem after_succ (d : Dialogue) (schedule : Nat → Event) (n : Nat) :
    d.after schedule (n + 1) = (d.after schedule n).step (schedule n) := by
  simp only [after, run, List.range_succ, List.map_append, List.foldl_append]
  rfl

variable {schedule : Nat → Event}

theorem Fair.meets (fair : Fair schedule) {need : Need} (something : need ≠ .nothing) (n : Nat) :
    ∃ m ≥ n, (schedule m).meets need = true := by
  cases need with
  | nothing => exact absurd rfl something
  | words =>
    obtain ⟨m, later, now, same⟩ := fair.takes n
    exact ⟨m, later, by rw [same]; rfl⟩
  | reading =>
    obtain ⟨m, later, same⟩ := fair.reads n
    exact ⟨m, later, by rw [same]; rfl⟩
  | delivery =>
    obtain ⟨m, later, now, same⟩ := fair.delivers n
    exact ⟨m, later, by rw [same]; rfl⟩

/-- Nothing that is not needed gets in the way of what is. -/
theorem exists_nearer (going : ∀ n, Going ctx seen lines (d.after schedule n))
    (fair : Fair schedule) (n : Nat) (running : (d.after schedule n).need ≠ .nothing) :
    ∃ m, (d.after schedule m).left < (d.after schedule n).left := by
  obtain ⟨m, later, meets⟩ := fair.meets running n
  -- Up to the event that is needed a dialogue comes nearer, or nothing changes that matters.
  have waits (k : Nat) : (∃ j, (d.after schedule j).left < (d.after schedule n).left) ∨
      (d.after schedule (n + k)).left = (d.after schedule n).left ∧
        (d.after schedule (n + k)).need = (d.after schedule n).need := by
    induction k with
    | zero => exact .inr ⟨rfl, rfl⟩
    | succ k ih =>
      rcases ih with nearer | ⟨left, need⟩
      · exact .inl nearer
      · have nears := (going (n + k)).nears (need ▸ running) (schedule (n + k))
        rw [Nears, ← after_succ, left, need] at nears
        rcases nears with lower | ⟨left', need', -⟩
        · exact .inl ⟨_, lower⟩
        · exact .inr ⟨left', need'⟩
  obtain ⟨k, rfl⟩ := Nat.exists_eq_add_of_le later
  rcases waits k with nearer | ⟨left, need⟩
  · exact nearer
  · have nears := (going (n + k)).nears (need ▸ running) (schedule (n + k))
    rw [Nears, ← after_succ, left, need] at nears
    rcases nears with lower | ⟨-, -, other⟩
    · exact ⟨_, lower⟩
    · rw [meets] at other
      cases other

theorem exists_end (going : ∀ n, Going ctx seen lines (d.after schedule n))
    (fair : Fair schedule) : ∃ n, (d.after schedule n).need = .nothing := by
  have from_here (near : Nat ×ₗ Nat) : ∀ n, (d.after schedule n).left = near →
      ∃ m, (d.after schedule m).need = .nothing := by
    induction near using WellFoundedLT.induction with
    | ind near ih =>
      rintro n rfl
      by_cases done : (d.after schedule n).need = .nothing
      · exact ⟨n, done⟩
      · obtain ⟨m, nearer⟩ := exists_nearer going fair n done
        exact ih _ nearer m rfl
  exact from_here _ 0 rfl

theorem result_of_need (nothing : d.need = .nothing) :
    ∃ result, d.live.session.result? = some result := by
  unfold need at nothing
  split at nothing
  · next result phase => exact ⟨result, by rw [Session.result?, phase]⟩
  · cases nothing
  · cases nothing
  · split at nothing <;> cases nothing

theorem one_le_batch {stream : StreamSettings} {settings : SessionSettings}
    (derived : stream.session = .ok settings) : 1 ≤ settings.batch := by
  unfold StreamSettings.session at derived
  cases idle : stream.idleSpan with
  | error f => rw [idle] at derived; cases derived
  | ok idle' =>
    cases poll : stream.pollSpan with
    | error f => rw [idle, poll] at derived; cases derived
    | ok poll' =>
      rw [idle, poll] at derived
      cases derived
      exact Nat.le_max_right _ 1

/-- What a client reads depends on the lines that it says: one rejection for each line before the
first that is accepted, the complete answer to that one, and for a keepalive request frames of later
entries behind it. Nothing behind an accepted line is answered. The session completes after an
answer that has an end, and otherwise ends when the client closes; it does end as soon as the client
is listened to and the log replies again and again. -/
theorem answered_in_order {stream : StreamSettings} {settings : SessionSettings} {log : LogView}
    {bytes : List UInt8} {lines : List String} (ctx : SourceContext)
    (derived : stream.session = .ok settings) (ordered : ∀ source, Ordered (log.entries source))
    (said : Inbox.Says bytes lines) (now : Span) :
    let d := create ctx settings log bytes now
    (∀ es result, (d.run es).live.session.result? = some result →
      ∃ e, result = .ok e ∧ Answered ctx (Shown d.logAfter es) (d.run es).live.log lines
        (d.run es).live.session.outbox.sent e) ∧
    (∀ es, (d.run es).isTailing = true →
      Answered ctx (Shown d.logAfter es) (d.run es).live.log lines
        (d.run es).live.session.outbox.text .clientClosed) ∧
    ∀ schedule, Fair schedule →
      ∃ n e, (d.after schedule n).live.session.result? = some (.ok e) := by
  intro d
  have begins (seen : LogView → Prop) : Going ctx seen lines d :=
    going_create (one_le_batch derived) ordered said now
  have goes (es : List Event) : Going ctx (Shown d.logAfter es) lines (d.run es) :=
    (begins _).run fun _ state => state
  refine ⟨fun es result ended => (goes es).answered ended, fun es tails => (goes es).followed tails,
    fun schedule fair => ?_⟩
  obtain ⟨n, nothing⟩ := exists_end (fun n => (begins fun _ => True).run fun _ _ => trivial) fair
  obtain ⟨result, ended⟩ := result_of_need nothing
  obtain ⟨e, rfl, -⟩ := (goes _).answered ended
  exact ⟨n, e, ended⟩

def letters (line : String) : List UInt8 := line.toList.map fun c => c.toNat.toUInt8

/-- A line that is no request, one that asks for too much, one that follows the log, and one too
late that has no end. -/
def visit : List UInt8 :=
  letters "bogus" ++ 13 :: 10 :: (letters "-g TEST:3:9-LAST" ++ 10 ::
    (letters "-k -g TEST:3:1-2" ++ 10 :: letters "-q sources"))

/-- A log of three entries, at the beginning. -/
def visited : LogView where
  entries source := if source = ⟨"TEST"⟩ then
    [⟨1, .add, "route", "a", some "p", 0⟩, ⟨2, .delete, "route", "a", some "q", 0⟩,
      ⟨3, .add, "route", "b", some "r", 0⟩] else []
  latest _ := none

/-- An entry comes while the session follows the log. -/
def visiting : List Event :=
  [.take .zero, .take .zero, .read, .deliver .zero, .take .zero, .read, .deliver .zero, .read,
    .deliver .zero, .look .zero, .append ⟨"TEST"⟩ ⟨4, .add, "route", "c", some "s", 0⟩, .read,
    .deliver .zero, .take .zero, .take .zero]

def inTurn (n : Nat) : Event :=
  if n % 3 = 0 then .take .zero else if n % 3 = 1 then .read else .deliver .zero

theorem inTurn_fair : Fair inTurn where
  takes n := ⟨3 * n, by omega, .zero, if_pos (by omega)⟩
  reads n := by
    refine ⟨3 * n + 1, by omega, ?_⟩
    rw [inTurn, if_neg (by omega), if_pos (by omega)]
  delivers n := by
    refine ⟨3 * n + 2, by omega, .zero, ?_⟩
    rw [inTurn, if_neg (by omega), if_neg (by omega)]

theorem visit_said : Inbox.Says visit
    ["bogus", "-g TEST:3:9-LAST", "-k -g TEST:3:1-2", "-q sources"] := by
  refine .returned (by decide) (by rfl) ?_
  refine .fed (by decide) (by decide) (by rfl) ?_
  refine .fed (by decide) (by decide) (by rfl) ?_
  exact .unfed (by decide) (by decide) (by rfl)

theorem visited_ordered (source : Source) : Ordered (visited.entries source) := by
  by_cases there : source = ⟨"TEST"⟩
  · simp only [visited, if_pos there]
    decide
  · simp only [visited, if_neg there]
    exact List.Pairwise.nil

/-- Two rejections, a range, and two entries behind it. -/
theorem answered_of_visit :
    let ctx : SourceContext := ⟨⟨"TEST"⟩, none⟩
    let d := create ctx .default visited visit .zero
    let session := (d.run visiting).live.session
    StreamSettings.default.session = .ok .default ∧
    session.result? = some (.ok .clientClosed) ∧
    session.outbox.sent =
      "ERROR:400 ambiguous request: use exactly one of -q or -g\n\n" ++
      "ERROR:401 invalid range: Not within 1-3\n\n" ++
      "%START Version: 3 TEST 1-2\n\nADD 1\n\np\n\nDEL 2\n\nq\n\n" ++
      "ADD 3\n\nr\n\nADD 4\n\ns\n\n" ∧
    Answered ctx (Shown d.logAfter visiting) (d.run visiting).live.log
      ["bogus", "-g TEST:3:9-LAST", "-k -g TEST:3:1-2", "-q sources"] session.outbox.sent
      .clientClosed ∧
    ∃ n e, (d.after inTurn n).live.session.result? = some (.ok e) := by
  intro ctx d session
  have derived : StreamSettings.default.session = .ok .default := by rfl
  have ended : session.result? = some (.ok .clientClosed) := by decide +kernel
  obtain ⟨answered, -, ends⟩ := answered_in_order ctx derived visited_ordered visit_said .zero
  obtain ⟨e, same, reads⟩ := answered visiting _ ended
  obtain rfl : SessionEnd.clientClosed = e := Except.ok.inj same
  exact ⟨derived, ended, by decide +kernel, reads, ends inTurn inTurn_fair⟩

end Dialogue

end RegistryFeed
