import RegistryFeed.Proofs.Session.Subscribing

/-!
# Calls without a trace

A call that hands out no batch, because it failed, was given up or came to the end of the
subscription, leaves nothing behind but that a value of the signal may have been noticed. Later
calls can come to the same ends whether it was or not: a call that would be woken by the value can
be woken by its interval, and one that is not woken could have been before, found the log as empty
as it is and gone round once more.
-/

namespace RegistryFeed

namespace Signal

theorem noted_of_stale {σ : Signal} (stale : σ.fresh = false) : σ.noted = σ := by
  rw [noted, ← stale]

theorem send_of_detached (σ : Signal) (detached : σ.attached = false) (value : Bool) :
    σ.send value = σ := by
  rw [send, if_neg (by simp [detached])]

/-- A new value makes up for one that was noticed. -/
theorem send_noted {σ : Signal} (attached : σ.attached = true) (value : Bool) :
    σ.noted.send value = σ.send value := by
  rw [send, send, if_pos attached, if_pos (show σ.noted.attached = true from attached)]
  rfl

end Signal

namespace LiveSubscription

open Event

variable {s t x y : LiveSubscription}

/-- A value that the signal may have is noticed. -/
def noted (s : LiveSubscription) : LiveSubscription := { s with signal := s.signal.noted }

/-- What the caller and the world do, without the steps that a call takes by itself. -/
def deeds (es : List Event) : List Event := es.filter (·.party ≠ .call)

/-- What the world does. -/
def others (es : List Event) : List Event := es.filter (·.party = .world)

/-- Whatever the calls on one subscription come to, calls on the other can come to, while their
caller and the world do the same. -/
def Allows (s t : LiveSubscription) : Prop :=
  ∀ later, ∃ other, deeds other = deeds later ∧ (t.run other).2 = (s.run later).2

/-! ## Calls that hand out nothing -/

/-- Calls have left no trace, compared with a subscription on which there were none. -/
structure Traceless (y x : LiveSubscription) : Prop where
  idle : y.subscription.call = .idle
  subscription : { x.subscription with call := .idle } = y.subscription
  log : x.log = y.log
  signal : x.signal = y.signal ∨ x.signal = y.signal.noted

theorem ask_of_silent (silent : s.subscription.call ≠ .reading) (reply : Reading → Reply) :
    s.ask reply = s := by
  have none : s.subscription.reading? = none := by
    unfold Subscription.reading?
    split
    · next reading => exact absurd reading silent
    · rfl
  rw [ask, none]

theorem Traceless.ask (h : Traceless y x) (reply : Reading → Reply) :
    Traceless y (x.ask reply) := by
  unfold LiveSubscription.ask
  split
  · exact ⟨h.idle, h.subscription, h.log, h.signal⟩
  · exact h

theorem Traceless.advance (h : Traceless y x) {e : Subscription.Event}
    (nothing : ∀ page, (x.advance e).2 ≠ some (.batch page)) : Traceless y (x.advance e).1 := by
  obtain ⟨idle, same, log, signal⟩ := h
  refine ⟨idle, ?_, log, signal⟩
  unfold LiveSubscription.advance at nothing ⊢
  rcases x.subscription.step_cases e with ⟨_, step⟩ | ⟨page, _, _, _, step⟩ | ⟨_, step⟩ |
    ⟨_, _, step⟩
  · rw [step]
    exact same
  · rw [step] at nothing
    exact absurd rfl (nothing page)
  · rw [step]
    exact same
  · rw [step]
    exact same

theorem Traceless.notice (h : Traceless y x)
    (nothing : ∀ page, x.notice.2 ≠ some (.batch page)) : Traceless y x.notice.1 := by
  unfold LiveSubscription.notice at nothing ⊢
  split
  · exact h
  · next waits =>
    rw [if_neg waits] at nothing
    split
    · next fresh =>
      rw [if_pos fresh] at nothing
      have noted : x.signal.noted = y.signal.noted := by
        rcases h.signal with same | same
        · rw [same]
        · rw [same]
          rfl
      exact Traceless.advance (x := { x with signal := x.signal.noted })
        ⟨h.idle, h.subscription, h.log, .inr noted⟩ nothing
    · next stale =>
      rw [if_neg stale] at nothing
      split
      · exact h
      · next detached =>
        rw [if_neg detached] at nothing
        exact h.advance nothing

theorem Traceless.step (h : Traceless y x) {e : Event}
    (nothing : ∀ page, (x.step e).2 ≠ some (.batch page)) :
    Traceless (if e.party = .world then (y.step e).1 else y) (x.step e).1 := by
  cases e with
  | begin => exact h.advance nothing
  | abandon => exact h.advance nothing
  | look => exact h.advance nothing
  | sleep => exact h.advance nothing
  | notice => exact h.notice nothing
  | read => exact h.ask _
  | deliver =>
    change Traceless y (x.step .deliver).1
    simp only [LiveSubscription.step] at nothing ⊢
    split
    · next result pending =>
      rw [pending] at nothing
      exact Traceless.advance (x := { x with pending := none })
        ⟨h.idle, h.subscription, h.log, h.signal⟩ nothing
    · exact h
  | fail error =>
    have silent := ask_of_silent (s := y) (by simp [h.idle]) (Reading.failed error)
    simp only [LiveSubscription.step, silent]
    exact h.ask _
  | append source entry =>
    exact ⟨h.idle, h.subscription, congrArg (·.append source entry) h.log, h.signal⟩
  | send value =>
    refine ⟨h.idle, h.subscription, h.log, ?_⟩
    rcases h.signal with same | same
    · exact .inl (congrArg (·.send value) same)
    · simp only [LiveSubscription.step, same]
      cases attached : y.signal.attached with
      | true => exact .inl (Signal.send_noted attached value)
      | false =>
        rw [Signal.send_of_detached _ attached, Signal.send_of_detached y.signal.noted attached]
        exact .inr rfl
  | detach =>
    refine ⟨h.idle, h.subscription, h.log, ?_⟩
    rcases h.signal with same | same
    · exact .inl (congrArg Signal.detach same)
    · exact .inr (congrArg Signal.detach same)

theorem Traceless.run (h : Traceless y x) (es : List Event)
    (nothing : ∀ page, .batch page ∉ (x.run es).2) :
    Traceless (y.run (others es)).1 (x.run es).1 := by
  induction es generalizing x y with
  | nil => exact h
  | cons e es ih =>
    rw [run_cons] at nothing ⊢
    have here : ∀ page, (x.step e).2 ≠ some (.batch page) := by
      intro page handed
      exact nothing page (by simp [handed])
    have later := ih (h.step here) fun page mem =>
      nothing page (List.mem_append_right _ mem)
    by_cases world : e.party = .world
    · rw [if_pos world] at later
      rw [others, List.filter_cons_of_pos (by simpa using world), run_cons]
      exact later
    · rw [if_neg world] at later
      rw [others, List.filter_cons_of_neg (by simpa using world)]
      exact later

/-- Nothing is on its way to a subscription on which nobody calls. -/
theorem nothing_of_idle (h : s.Honest) (idle : s.subscription.call = .idle) :
    s.pending = none :=
  h.pending_eq_none (by simp [exchange, Subscription.reading?, idle])

/-- Calls that hand out no batch leave a subscription as it is without them, but for the signal. -/
theorem run_of_nothing (h : s.Honest) (idle : s.subscription.call = .idle) {calls : List Event}
    (ended : (s.run calls).1.subscription.call = .idle)
    (nothing : ∀ page, .batch page ∉ (s.run calls).2) :
    (s.run calls).1 = (s.run (others calls)).1 ∨
      (s.run calls).1 = (s.run (others calls)).1.noted := by
  have start : Traceless s s := ⟨idle, by rw [← idle], rfl, .inl rfl⟩
  obtain ⟨quiet, subscription, log, signal⟩ := start.run calls nothing
  have pending := nothing_of_idle (honest_run h calls) ended
  have pending' := nothing_of_idle (honest_run h (others calls)) quiet
  generalize (s.run calls).1 = x at *
  generalize (s.run (others calls)).1 = y at *
  have same : x.subscription = y.subscription := by
    rw [← subscription, ← ended]
  obtain ⟨sub, view, heard, reply⟩ := x
  obtain ⟨sub', view', heard', reply'⟩ := y
  dsimp only at same log pending pending' signal
  subst same log pending pending'
  rcases signal with rfl | rfl
  · exact .inl rfl
  · exact .inr rfl

/-! ## Ends that calls can come to -/

theorem run_append (s : LiveSubscription) (a b : List Event) :
    s.run (a ++ b) = (((s.run a).1.run b).1, (s.run a).2 ++ ((s.run a).1.run b).2) := by
  induction a generalizing s with
  | nil => rfl
  | cons e a ih =>
    rw [List.cons_append, run_cons, run_cons, ih, List.append_assoc]

theorem deeds_append (a b : List Event) : deeds (a ++ b) = deeds a ++ deeds b :=
  List.filter_append _ _

theorem Allows.refl (s : LiveSubscription) : s.Allows s := fun later => ⟨later, rfl, rfl⟩

/-- A subscription can follow another one event by event. -/
theorem allows_of_simulation {R : LiveSubscription → LiveSubscription → Prop}
    (follows : ∀ s t, R s t → ∀ e, ∃ es, deeds es = deeds [e] ∧
      (t.run es).2 = (s.step e).2.toList ∧ R (s.step e).1 (t.run es).1)
    (h : R s t) : s.Allows t := by
  intro later
  induction later generalizing s t with
  | nil => exact ⟨[], rfl, rfl⟩
  | cons e later ih =>
    obtain ⟨es, same, ends, related⟩ := follows s t h e
    obtain ⟨more, same', ends'⟩ := ih related
    refine ⟨es ++ more, ?_, ?_⟩
    · rw [deeds_append, same, same', ← deeds_append]
      rfl
    · rw [run_append, run_cons, ends, ends']

theorem noted_of_stale (stale : s.signal.fresh = false) : s.noted = s := by
  rw [noted, Signal.noted_of_stale stale]

/-- A call whose signal is noticed takes the same steps, unless it waits for the signal. -/
theorem step_noted (s : LiveSubscription) {e : Event} (waits : e ≠ .notice)
    (new : ∀ value, e ≠ .send value) :
    s.noted.step e = ((s.step e).1.noted, (s.step e).2) := by
  have asks : ∀ reply, s.noted.ask reply = (s.ask reply).noted := by
    intro reply
    simp only [ask, noted]
    split
    · rfl
    · rfl
  cases e with
  | notice => exact absurd rfl waits
  | send value => exact absurd rfl (new value)
  | read => exact Prod.ext (asks _) rfl
  | fail error => exact Prod.ext (asks _) rfl
  | deliver =>
    simp only [LiveSubscription.step, noted]
    split
    · rfl
    · rfl
  | _ => rfl

theorem step_send_of_detached (detached : s.signal.attached = false) (value : Bool) :
    s.step (.send value) = (s, none) := by
  rw [step, Signal.send_of_detached _ detached]

theorem step_send_noted (attached : s.signal.attached = true) (value : Bool) :
    s.noted.step (.send value) = s.step (.send value) := by
  simp only [step, noted, Signal.send_noted attached]

theorem notice_of_fresh (fresh : s.signal.fresh = true) (waits : s.subscription.call = .waiting) :
    s.notice = s.noted.step .sleep := by
  rw [notice, if_neg (by simp [waits]), if_pos fresh]
  rfl

theorem notice_of_not_waiting (h : s.subscription.call ≠ .waiting) : s.notice = (s, none) := by
  rw [notice, if_pos h]

/-- Where a value was noticed, the interval wakes the call instead. -/
theorem allows_noted (s : LiveSubscription) : s.Allows s.noted := by
  refine allows_of_simulation (R := fun a b => b = a ∨ b = a.noted) ?_ (.inr rfl)
  rintro a b (rfl | rfl) e
  · exact ⟨[e], rfl, by simp [run], .inl rfl⟩
  · by_cases stale : a.signal.fresh = false
    · rw [noted_of_stale stale]
      exact ⟨[e], rfl, by simp [run], .inl rfl⟩
    · have fresh : a.signal.fresh = true := by simpa using stale
      by_cases waits : e = .notice
      · subst waits
        by_cases waiting : a.subscription.call = .waiting
        · have same : a.step .notice = a.noted.step .sleep := notice_of_fresh fresh waiting
          rw [same]
          exact ⟨[.sleep], rfl, by simp [run], .inl rfl⟩
        · have same : a.step .notice = (a, none) := notice_of_not_waiting waiting
          rw [same]
          exact ⟨[], rfl, rfl, .inr rfl⟩
      · by_cases new : ∃ value, e = .send value
        · obtain ⟨value, rfl⟩ := new
          cases attached : a.signal.attached with
          | true =>
            have same := congrArg Prod.fst (step_send_noted attached value)
            exact ⟨[.send value], rfl, rfl, .inl same⟩
          | false =>
            rw [step_send_of_detached attached]
            exact ⟨[.send value], rfl, rfl,
              .inr (congrArg Prod.fst (step_send_of_detached (s := a.noted) attached value))⟩
        · have same := a.step_noted waits fun value h => new ⟨value, h⟩
          exact ⟨[e], rfl, by simp [run, same], .inr (congrArg Prod.fst same)⟩

/-- A call has not come to the point at which it waits: where it reads, it has seen that it may go
on, and no empty page is on its way to it. -/
structure Unwoken (s : LiveSubscription) : Prop where
  busy : s.subscription.call ≠ .waiting
  quiet : s.subscription.call = .reading → s.signal.value = false
  full : s.pending ≠ some (.page (.ok []))

theorem Unwoken.of_idle (idle : s.subscription.call = .idle) (pending : s.pending = none) :
    s.Unwoken := by
  refine ⟨?_, ?_, ?_⟩
  · rw [idle]; simp
  · rw [idle]; simp
  · rw [pending]; simp

/-- A call that has not waited does not begin to, unless it is given an empty page. -/
theorem Unwoken.advance (h : s.Unwoken) {e : Subscription.Event} (full : e ≠ .page (.ok []))
    (seen : ∀ value, e = .look value → value = s.signal.value) : (s.advance e).1.Unwoken := by
  have kept : (s.advance e).1.pending ≠ some (.page (.ok [])) := by
    unfold LiveSubscription.advance
    simp only
    split
    · exact h.full
    · simp
  have next : (s.subscription.step e).1.call ≠ .waiting ∧
      ((s.subscription.step e).1.call = .reading → s.signal.value = false) := by
    unfold Subscription.step
    split
    · exact ⟨by simp, by simp⟩
    · next cancelled _ =>
      cases cancelled with
      | true => exact ⟨by simp, by simp⟩
      | false => exact ⟨by simp, fun _ => (seen false rfl).symm⟩
    · exact ⟨by simp, by simp⟩
    · next page _ =>
      cases page with
      | nil => exact absurd rfl full
      | cons a page =>
        cases last : (a :: page).getLast? with
        | none => simp at last
        | some e => exact ⟨by simp, by simp⟩
    · exact ⟨by simp, by simp⟩
    · exact ⟨by simp, by simp⟩
    · exact ⟨by simp, by simp⟩
    · exact ⟨h.busy, h.quiet⟩
  exact ⟨next.1, next.2, kept⟩

/-- The next page of the log as it is. -/
def nextPage (s : LiveSubscription) : List Entry :=
  (entriesAfter s.entries s.cursor).take s.subscription.batchSize

theorem read_of_reading (reading : s.subscription.call = .reading) {page : List Entry}
    (next : s.nextPage = page) :
    s.step .read = ({ s with pending := some (.page (.ok page)) }, none) := by
  have asks : s.subscription.reading? =
      some (.page s.subscription.source s.cursor s.subscription.batchSize) := by
    rw [Subscription.reading?, reading]
    rfl
  simp only [step, ask, asks, ← next]
  rfl

theorem Unwoken.step (h : s.Unwoken) {e : Event} (waits : e ≠ .notice)
    (new : ∀ value, e ≠ .send value)
    (full : e = .read → s.subscription.call = .reading → s.nextPage ≠ []) :
    (s.step e).1.Unwoken := by
  cases e with
  | begin => exact h.advance (by simp) (by simp)
  | abandon => exact h.advance (by simp) (by simp)
  | sleep => exact h.advance (by simp) (by simp)
  | look => exact h.advance (by simp) fun value he => (Subscription.Event.look.inj he).symm
  | notice => exact absurd rfl waits
  | deliver =>
    simp only [LiveSubscription.step]
    split
    · next result pending =>
      refine Unwoken.advance (s := { s with pending := none }) ⟨h.busy, h.quiet, by simp⟩ ?_
        (by simp)
      intro empty
      rw [Subscription.Event.page.inj empty] at pending
      exact h.full pending
    · exact h
  | read =>
    by_cases reading : s.subscription.call = .reading
    · rw [read_of_reading reading rfl]
      refine ⟨h.busy, h.quiet, ?_⟩
      simpa using full rfl reading
    · simp only [LiveSubscription.step, ask_of_silent reading]
      exact h
  | fail error =>
    simp only [LiveSubscription.step]
    unfold ask
    split
    · next question asks =>
      refine ⟨h.busy, h.quiet, ?_⟩
      unfold Subscription.reading? at asks
      split at asks
      · cases asks
        simp [Reading.failed]
      · cases asks
    · exact h
  | append source entry => exact ⟨h.busy, h.quiet, h.full⟩
  | send value => exact absurd rfl (new value)
  | detach => exact ⟨h.busy, h.quiet, h.full⟩

/-- A call that finds the log empty is woken by the value, goes round once more and finds the log
as it was. -/
theorem run_round (reading : s.subscription.call = .reading) (quiet : s.signal.value = false)
    (fresh : s.signal.fresh = true) (empty : s.nextPage = []) :
    s.run [.read, .deliver, .notice, .look, .read] = ((s.noted.step .read).1, []) := by
  have read := read_of_reading reading empty
  have again := read_of_reading (s := s.noted) reading empty
  obtain ⟨⟨source, cursor, batchSize, call⟩, log, ⟨value, new, attached⟩, pending⟩ := s
  dsimp only at reading quiet fresh
  subst reading quiet fresh
  have waits : step ⟨⟨source, cursor, batchSize, .reading⟩, log, ⟨false, true, attached⟩,
      some (.page (.ok []))⟩ .deliver =
        (⟨⟨source, cursor, batchSize, .waiting⟩, log, ⟨false, true, attached⟩, none⟩, none) := rfl
  have woken : step ⟨⟨source, cursor, batchSize, .waiting⟩, log, ⟨false, true, attached⟩, none⟩
      .notice =
        (⟨⟨source, cursor, batchSize, .looking⟩, log, ⟨false, false, attached⟩, none⟩, none) := rfl
  have looks : step ⟨⟨source, cursor, batchSize, .looking⟩, log, ⟨false, false, attached⟩, none⟩
      .look =
        (⟨⟨source, cursor, batchSize, .reading⟩, log, ⟨false, false, attached⟩, none⟩, none) := rfl
  have reads := read_of_reading
    (s := ⟨⟨source, cursor, batchSize, .reading⟩, log, ⟨false, false, attached⟩, none⟩) rfl empty
  rw [run_cons, read, run_cons, waits, run_cons, woken, run_cons, looks, run_cons, reads, again]
  rfl

/-- Where a value was noticed, the call goes round once more as soon as it finds the log empty. -/
theorem Unwoken.allows (h : s.Unwoken) : s.noted.Allows s := by
  refine allows_of_simulation (R := fun a b => b = a ∨ a = b.noted ∧ b.Unwoken) ?_ (.inr ⟨rfl, h⟩)
  rintro a b (rfl | ⟨rfl, unwoken⟩) e
  · exact ⟨[e], rfl, by simp [run], .inl rfl⟩
  · by_cases stale : b.signal.fresh = false
    · rw [noted_of_stale stale]
      exact ⟨[e], rfl, by simp [run], .inl rfl⟩
    · have fresh : b.signal.fresh = true := by simpa using stale
      by_cases waits : e = .notice
      · subst waits
        have same : b.noted.step .notice = (b.noted, none) := notice_of_not_waiting unwoken.busy
        rw [same]
        exact ⟨[], rfl, rfl, .inr ⟨rfl, unwoken⟩⟩
      · by_cases new : ∃ value, e = .send value
        · obtain ⟨value, rfl⟩ := new
          cases attached : b.signal.attached with
          | true =>
            have same := congrArg Prod.fst (step_send_noted attached value)
            exact ⟨[.send value], rfl, rfl, .inl same.symm⟩
          | false =>
            have same : b.step (.send value) = (b, none) := step_send_of_detached attached value
            have same' : b.noted.step (.send value) = (b.noted, none) :=
              step_send_of_detached (s := b.noted) attached value
            rw [same']
            refine ⟨[.send value], rfl, by simp [run, same], .inr ?_⟩
            rw [run_cons, same]
            exact ⟨rfl, unwoken⟩
        · have other : ∀ value, e ≠ .send value := fun value h => new ⟨value, h⟩
          have same := b.step_noted waits other
          by_cases empty : e = .read ∧ b.subscription.call = .reading ∧ b.nextPage = []
          · obtain ⟨rfl, reading, empty⟩ := empty
            have round := run_round reading (unwoken.quiet reading) fresh empty
            refine ⟨[.read, .deliver, .notice, .look, .read], rfl, ?_, ?_⟩
            · rw [round]
              rfl
            · exact .inl (congrArg Prod.fst round)
          · refine ⟨[e], rfl, by simp [run, same], .inr ⟨congrArg Prod.fst same, ?_⟩⟩
            refine unwoken.step waits other ?_
            intro he reading none
            exact empty ⟨he, reading, none⟩

/-! ## All calls -/

/-- Whatever calls meet, what they hand out follows the log from the start to the cursor, in batches
that are neither empty nor too long, and the cursor moves by them only. Calls that hand out nothing
make no difference to what later calls can come to, and a call is cancelled only where it is asked
to be. -/
theorem calls_lose_nothing {source : Source} {log : LogView}
    (ordered : Ordered (log.entries source)) (start : Int) (batchSize : Nat) (signal : Signal)
    (es : List Event) :
    let ran := (create source start batchSize log signal).run es
    let s := ran.1
    ran.2.flatMap Outcome.entries = window (s.log.entries source) start s.cursor ∧
    (∀ e, let t := s.step e
      s.cursor ≤ t.1.cursor ∧
      (t.1.cursor ≠ s.cursor → ∃ page, t.2 = some (.batch page)) ∧
      (∀ page, t.2 = some (.batch page) → page ≠ [] ∧ page.length ≤ max 1 batchSize) ∧
      (t.2 = some .cancelled → s.signal.Stops)) ∧
    ∀ calls, s.subscription.call = .idle → (s.run calls).1.subscription.call = .idle →
      (∀ page, .batch page ∉ (s.run calls).2) →
      let t := (s.run calls).1
      let u := (s.run (others calls)).1
      (t = u ∨ t = u.noted) ∧ t.Allows u ∧ u.Allows t := by
  intro ran s
  have begun := Sound.create ordered start batchSize signal
  have sound := begun.run es
  have grown := run_grows begun.honest es
  refine ⟨?_, ?_, ?_⟩
  · have given := sound.given
    rw [LiveSubscription.entries, grown.source, List.nil_append] at given
    exact given
  · intro e t
    have ends := (step_stepped sound.honest e).ends
    have size : s.subscription.batchSize = max 1 batchSize :=
      grown.batchSize.trans (Nat.max_comm batchSize 1)
    refine ⟨ends.le, ends.moves, ?_, ends.asked⟩
    intro page handed
    rw [← size]
    exact ends.page handed
  · intro calls idle ended nothing t u
    have same := run_of_nothing sound.honest idle ended nothing
    refine ⟨same, ?_⟩
    rcases same with same | same
    · have alike : t = u := same
      rw [alike]
      exact ⟨.refl u, .refl u⟩
    · have noticed : t = u.noted := same
      have nothing := nothing_of_idle (honest_run sound.honest calls) ended
      have unwoken : u.Unwoken := by
        refine .of_idle ?_ ?_
        · exact (congrArg (·.subscription.call) noticed).symm.trans ended
        · exact (congrArg (·.pending) noticed).symm.trans nothing
      rw [noticed]
      exact ⟨unwoken.allows, u.allows_noted⟩

/-- A log of two entries, read in batches of at most one. -/
def waiting : LiveSubscription :=
  create ⟨"TEST"⟩ 0 0
    ⟨fun _ => [⟨1, .add, "route", "k", some "p", 0⟩, ⟨3, .delete, "route", "k", none, 0⟩],
      fun _ => none⟩
    .quiet

/-- A call is given up while its page is on its way, one fails, one hands out a batch, and one waits
for the log to grow and is given up. -/
def troubled : List Event :=
  [begin, look, read, abandon, begin, look, fail .shutdown, deliver, begin, look, read,
    append ⟨"TEST"⟩ ⟨4, .add, "route", "k", some "q", 0⟩, deliver, begin, look, read, deliver,
    begin, look, send false, read, abandon]

theorem calls_lose_nothing_troubled :
    Ordered (waiting.log.entries ⟨"TEST"⟩) ∧
      (waiting.run troubled).2 =
        [.failed .shutdown, .batch [⟨1, .add, "route", "k", some "p", 0⟩],
          .batch [⟨3, .delete, "route", "k", none, 0⟩]] ∧
      (waiting.run troubled).2.flatMap Outcome.entries =
        window ((waiting.run troubled).1.log.entries ⟨"TEST"⟩) 0 3 := by
  have ordered : Ordered (waiting.log.entries ⟨"TEST"⟩) := by decide
  have followed := (calls_lose_nothing ordered 0 0 .quiet troubled).1
  exact ⟨ordered, by decide +kernel, followed⟩

end LiveSubscription

end RegistryFeed
