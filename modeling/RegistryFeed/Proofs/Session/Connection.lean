import RegistryFeed.Proofs.Session.Transcript
import RegistryFeed.Proofs.Session.Views

/-!
# Connections as runs of a session

A connection takes the events of its session in an order of its own. Whatever it does
while its log shows one view, it does by events of a session on that view, so what holds
for every order of events holds for a connection. Once the client has said all that it
has to say, a connection only listens and reads, as a dialogue does.
-/

namespace RegistryFeed

namespace Inbox

theorem next_of_closed {i : Inbox} (closed : i.closed = true) : i.next.1 ≠ .pending := by
  have whole (line : List UInt8) : arrivalOf line ≠ .pending := by
    unfold arrivalOf
    split <;> simp
  unfold next
  split
  · exact whole _
  · rw [closed]
    simp only [Bool.not_true, Bool.false_eq_true, if_false]
    split
    · simp
    · exact whole _

end Inbox

/-- What a session does by itself: nobody gives a signal, goes away or writes to the log, which can
be read. -/
def LiveSession.Event.Own : LiveSession.Event → Prop
  | .act _ (.signal _) | .act _ .detached | .act _ .gone | .act _ (.reply _) => False
  | .act _ _ | .read | .deliver _ => True
  | .fail _ | .append _ _ | .publish _ _ => False

namespace Connection

variable {σ : Type} {source : LogSource σ} {sees : σ → LogView → Prop} {v : LogView}
  {c c' : Connection σ}

/-! ## What a connection does next -/

/-- A question is answered at once; without one a line is heard if it can be, and else the
session goes on by itself. -/
inductive Advance (source : LogSource σ) (c : Connection σ) : Connection σ → Prop
  | replied {question : Reading} (asks : c.session.reading? = some question) :
      Advance source c
        ({ c with log := (source.reply c.log question).2 }.act
          (.reply (source.reply c.log question).1))
  | heard {e : Session.Event} (silent : c.session.reading? = none) (listens : c.listens = true)
      (arrives : arrivalEvent c.inbox.next.1 = some e) :
      Advance source c ({ c with inbox := c.inbox.next.2 }.act e)
  | waited {e : Session.Event} (silent : c.session.reading? = none)
      (running : c.session.result? = none)
      (unheard : c.listens = true → arrivalEvent c.inbox.next.1 = none)
      (own : e = .look ∨ e = .notice ∨ e = .deadline) : Advance source c (c.act e)

/-- The session waits for a look, a change of the signal, or a deadline, as its phase has it. -/
theorem own_of_waiting {p q r : Prop} [Decidable p] [Decidable q] [Decidable r]
    (h : (if p then some (c.act .look) else if q then some (c.act .notice)
      else if r then some (c.act .deadline) else none) = some c') :
    ∃ e, (e = .look ∨ e = .notice ∨ e = .deadline) ∧ c' = c.act e := by
  rcases ite_eq_iff.mp h with ⟨-, same⟩ | ⟨-, h⟩
  · exact ⟨.look, .inl rfl, (Option.some.inj same).symm⟩
  · rcases ite_eq_iff.mp h with ⟨-, same⟩ | ⟨-, h⟩
    · exact ⟨.notice, .inr (.inl rfl), (Option.some.inj same).symm⟩
    · obtain ⟨-, same⟩ := Option.ite_none_right_eq_some.mp h
      exact ⟨.deadline, .inr (.inr rfl), (Option.some.inj same).symm⟩

theorem advance_of_advance? (h : advance? source c = some c') : Advance source c c' := by
  unfold advance? at h
  split at h
  · next question asks =>
    cases h
    exact .replied asks
  · next silent =>
    dsimp only at h
    split at h
    · next e heard =>
      cases h
      obtain ⟨listens, arrives⟩ := Option.ite_none_right_eq_some.mp heard
      exact .heard silent listens arrives
    · next unheard =>
      have deaf (listens : c.listens = true) : arrivalEvent c.inbox.next.1 = none := by
        rwa [if_pos listens] at unheard
      have running : c.session.result? = none := by
        unfold Session.result?
        split
        · next phase => simp [phase] at h
        · rfl
      obtain ⟨e, own, rfl⟩ : ∃ e, (e = .look ∨ e = .notice ∨ e = .deadline) ∧ c' = c.act e := by
        split at h
        · cases h
        · exact own_of_waiting h
        · exact own_of_waiting (p := False) (by simpa using h)
      exact .waited silent running deaf own

/-! ## Runs of the session -/

/-- The session of a connection, on what its log shows. -/
def live (c : Connection σ) (v : LogView) : LiveSession := ⟨c.session, v, none⟩

/-- A connection goes on to show the view, and comes from another by what the session does. -/
def Follows (sees : σ → LogView → Prop) (v : LogView) (c c' : Connection σ) : Prop :=
  sees c'.log v ∧ ∃ es, (∀ e ∈ es, e.Own) ∧ c'.live v = (c.live v).run es

theorem Follows.refl (h : sees c.log v) : Follows sees v c c :=
  ⟨h, [], List.forall_mem_nil _, rfl⟩

theorem Follows.trans {c'' : Connection σ} (first : Follows sees v c c')
    (later : Follows sees v c' c'') : Follows sees v c c'' := by
  obtain ⟨-, es, own, ran⟩ := first
  obtain ⟨shown, more, ownToo, ranOn⟩ := later
  refine ⟨shown, es ++ more, List.forall_mem_append.mpr ⟨own, ownToo⟩, ?_⟩
  rw [ranOn, ran, LiveSession.run, LiveSession.run, LiveSession.run, List.foldl_append]

theorem live_act (c : Connection σ) (v : LogView) {e : Session.Event}
    (other : ∀ r, e ≠ .reply r) :
    (c.act e).live v = (c.live v).step (.act c.now e) := by
  rw [LiveSession.step_act _ _ other]
  have nothing : (c.live v).pending = none := rfl
  rw [nothing, ite_self]
  rfl

theorem live_reply (shows : source.Shows sees) (h : sees c.log v) {question : Reading}
    (asks : c.session.reading? = some question) (log : σ) :
    ({ c with log := log }.act (.reply (source.reply c.log question).1)).live v =
      (c.live v).run [.read, .deliver c.now] := by
  simp only [LiveSession.run, List.foldl_cons, List.foldl_nil, LiveSession.step, LiveSession.ask,
    live, asks, act, shows.reply h]

theorem own_of_arrivalEvent {a : Arrival} {e : Session.Event} (h : arrivalEvent a = some e)
    (now : Span) : (LiveSession.Event.act now e).Own := by
  rcases Dialogue.heard_cases h with ⟨text, -, rfl⟩ | rfl | ⟨l, i, rfl⟩ <;> exact trivial

theorem Advance.follows (shows : source.Shows sees) (h : sees c.log v)
    (adv : Advance source c c') : Follows sees v c c' := by
  cases adv with
  | replied asks =>
    refine ⟨shows.kept h _, [.read, .deliver c.now], ?_, live_reply shows h asks _⟩
    simp [LiveSession.Event.Own]
  | @heard e _ _ arrives =>
    refine ⟨h, [.act c.now e], List.forall_mem_singleton.mpr (own_of_arrivalEvent arrives _), ?_⟩
    exact live_act { c with inbox := c.inbox.next.2 } v (Dialogue.told_of_arrivalEvent arrives).2
  | @waited e _ _ _ own =>
    refine ⟨h, [.act c.now e], List.forall_mem_singleton.mpr ?_, live_act c v ?_⟩
    · rcases own with rfl | rfl | rfl <;> exact trivial
    · rcases own with rfl | rfl | rfl <;> simp

theorem settleFor_follows (shows : source.Shows sees) (fuel : Nat) (h : sees c.log v) :
    Follows sees v c (settleFor source fuel c) := by
  induction fuel generalizing c with
  | zero => exact .refl h
  | succ fuel ih =>
    rw [settleFor]
    split
    · next next adv =>
      have first := (advance_of_advance? adv).follows shows h
      exact first.trans (ih first.1)
    · exact .refl h

theorem runUntil_follows (shows : source.Shows sees) (time : Span) (fuel : Nat)
    (h : sees c.log v) : Follows sees v c (runUntil source time fuel c) := by
  -- the session does not know what time it is until something happens to it
  have waits {c : Connection σ} (h : sees c.log v) (now : Span) :
      Follows sees v c { c with now := now } := ⟨h, [], List.forall_mem_nil _, rfl⟩
  induction fuel generalizing c with
  | zero => exact waits h time
  | succ fuel ih =>
    rw [runUntil]
    split
    · next d _ =>
      split
      · have settled : Follows sees v c (settle source { c with now := d }) :=
          (waits h d).trans (settleFor_follows shows _ h)
        exact settled.trans (ih settled.1)
      · exact waits h time
    · exact waits h time

/-- However much time passes, a connection does only what its session can do. -/
theorem pass_follows (shows : source.Shows sees) (millis : Nat) (h : sees c.log v) :
    Follows sees v c (c.pass source millis) := by
  have settled : Follows sees v c (c.settle source) := settleFor_follows shows _ h
  exact settled.trans (runUntil_follows shows _ _ settled.1)

/-! ## A client that has said all -/

/-- The dialogue of a connection with its client. -/
def dialogue (c : Connection σ) (v : LogView) : Dialogue := ⟨c.live v, c.inbox⟩

/-- The client has said all, and the log shows the view. -/
structure Settling (sees : σ → LogView → Prop) (v : LogView) (c : Connection σ) : Prop where
  shown : sees c.log v
  closed : c.inbox.closed = true

/-- What the connection has become comes of listening and reading while nobody writes. -/
def Answers (v : LogView) (c c' : Connection σ) : Prop :=
  ∃ es, (∀ e ∈ es, e.Still) ∧ c'.dialogue v = (c.dialogue v).run es

theorem Answers.refl (v : LogView) (c : Connection σ) : Answers v c c :=
  ⟨[], List.forall_mem_nil _, rfl⟩

theorem Answers.trans {c'' : Connection σ} (first : Answers v c c') (later : Answers v c' c'') :
    Answers v c c'' := by
  obtain ⟨es, still, ran⟩ := first
  obtain ⟨more, stillToo, ranOn⟩ := later
  refine ⟨es ++ more, List.forall_mem_append.mpr ⟨still, stillToo⟩, ?_⟩
  rw [ranOn, ran, Dialogue.run, Dialogue.run, Dialogue.run, List.foldl_append]

theorem arrives_of_closed (closed : c.inbox.closed = true) :
    ∃ e, arrivalEvent c.inbox.next.1 = some e := by
  have there := Inbox.next_of_closed closed
  cases arrival : c.inbox.next.1 with
  | pending => exact absurd arrival there
  | line | garbled | closed => exact ⟨_, rfl⟩

/-- A session asks, listens, or has ended. -/
theorem listens_of_running (silent : c.session.reading? = none)
    (running : c.session.result? = none) : c.listens = true := by
  unfold Session.reading? at silent
  unfold Session.result? at running
  unfold listens
  cases phase : c.session.phase with
  | reading => rfl
  | tailing sub _ =>
    simp only [phase, Subscription.reading?] at silent
    cases call : sub.call with
    | reading => simp [call] at silent
    | idle | looking | waiting => simp [call]
  | ended => simp [phase] at running
  | describing | versioning | checking | paging => simp [phase] at silent

theorem hears_of_listens (listens : c.listens = true) :
    (∃ deadline, c.session.phase = .reading deadline) ∨
      ∃ sub deadline, c.session.phase = .tailing sub deadline := by
  unfold Connection.listens at listens
  cases phase : c.session.phase with
  | reading deadline => exact .inl ⟨deadline, rfl⟩
  | tailing sub deadline => exact .inr ⟨sub, deadline, rfl⟩
  | _ => simp [phase] at listens

theorem dialogue_listens (h : c.listens = true) : (c.dialogue v).listens = true := by
  rcases hears_of_listens h with ⟨deadline, phase⟩ | ⟨sub, deadline, phase⟩ <;>
    simp [Dialogue.listens, Dialogue.isTailing, dialogue, live, phase]

/-- Something is always heard where the client has said all, so nothing is waited for. -/
theorem Settling.not_waits (h : Settling sees v c) (silent : c.session.reading? = none)
    (running : c.session.result? = none) :
    ¬ (c.listens = true → arrivalEvent c.inbox.next.1 = none) := by
  intro unheard
  obtain ⟨e, arrives⟩ := arrives_of_closed h.closed
  have nothing := unheard (listens_of_running silent running)
  rw [arrives] at nothing
  cases nothing

theorem Settling.advance (shows : source.Shows sees) (h : Settling sees v c)
    (adv : Advance source c c') : Settling sees v c' ∧ Answers v c c' := by
  cases adv with
  | @replied question asks =>
    refine ⟨⟨shows.kept h.shown _, h.closed⟩, [.read, .deliver c.now],
      by simp [Dialogue.Event.Still], ?_⟩
    exact congrArg (Dialogue.mk · c.inbox) (live_reply shows h.shown asks _)
  | @heard e silent listens arrives =>
    refine ⟨⟨h.shown, c.inbox.closed_next.trans h.closed⟩, [.take c.now],
      by simp [Dialogue.Event.Still], ?_⟩
    have acted := live_act { c with inbox := c.inbox.next.2 } v
      (Dialogue.told_of_arrivalEvent arrives).2
    have taken : (c.dialogue v).step (.take c.now) =
        ⟨(c.live v).step (.act c.now e), c.inbox.next.2⟩ := by
      rw [Dialogue.step, if_pos (dialogue_listens listens)]
      simp only [dialogue, arrives]
    exact (congrArg (Dialogue.mk · c.inbox.next.2) acted).trans taken.symm
  | waited silent running unheard own => exact absurd unheard (h.not_waits silent running)

theorem Settling.settleFor (shows : source.Shows sees) (fuel : Nat) (h : Settling sees v c) :
    Answers v c (settleFor source fuel c) := by
  induction fuel generalizing c with
  | zero => exact .refl v c
  | succ fuel ih =>
    rw [Connection.settleFor]
    split
    · next next adv =>
      obtain ⟨settling, first⟩ := h.advance shows (advance_of_advance? adv)
      exact first.trans (ih settling)
    · exact .refl v c

end Connection

end RegistryFeed
