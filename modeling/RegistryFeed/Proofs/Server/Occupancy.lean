import Mathlib.Data.List.Nodup
import RegistryFeed.Server.Acceptor

/-!
# Slots and live sessions

The permits that are held are those of the live sessions, each once. So slots are
neither lost nor won: a session that ends gives back the one slot that it took,
however it ends, and a client is refused exactly while every slot belongs to a
live session. Nothing is assumed about the order in which clients come, sessions
end and the signal is given, nor about what the sessions are asked.
-/

namespace RegistryFeed

namespace Server

/-- The permits of the live sessions, in the order in which the sessions began. -/
def live (s : Server) : List Nat := s.sessions.map (·.permit)

/-- An event that is the last one of the session with a permit: it comes to an end of its own, or
the server has stopped and does not wait for it any longer. -/
inductive Ends (s : Server) (now : Span) (permit : Nat) : Event → Prop
  | finished {session : Session} {e : Session.Event} (here : s.find? permit = some session)
      (ended : ((session.step now e).result?).isSome) : Ends s now permit (.inSession permit e)
  | cutOff (stopped : s.accepting = false) : Ends s now permit (.aborted permit)

/-- The permits that are held are those of the live sessions, and no session in the list has
ended. -/
structure Occupied (m : Nat) (s : Server) : Prop where
  capacity : s.slots.capacity = m
  held : s.slots.held = s.live
  issued : ∀ permit ∈ s.live, permit ≤ s.slots.issued
  distinct : s.live.Nodup
  within : s.live.length ≤ m
  unended : ∀ t ∈ s.sessions, t.session.result? = none

variable {m : Nat} {s : Server} {now : Span} {permit : Nat}

theorem Ends.step_eq {e : Event} (ends : s.Ends now permit e) :
    ∃ os, s.step now e = (s.drop permit).observe os := by
  cases ends with
  | @finished session e here ended =>
    obtain ⟨result, ended⟩ := Option.isSome_iff_exists.mp ended
    simp only [step, here, update, ended]
    exact ⟨_, rfl⟩
  | cutOff stopped =>
    simp only [step, stopped]
    exact ⟨[], by simp [observe]⟩

theorem occupied_create (address : SocketAddress) (context : SourceContext)
    (settings : SessionSettings) {slots : Slots} (made : Slots.create m = .ok slots) :
    (create address context settings slots).Occupied m := by
  unfold Slots.create at made
  split at made
  · cases made
  · cases made
    exact ⟨rfl, rfl, by simp [live, create], List.nodup_nil, Nat.zero_le m, by simp [create]⟩

namespace Occupied

theorem available_eq (h : s.Occupied m) : s.slots.available = m - s.live.length := by
  rw [Slots.available, h.capacity, h.held]

theorem conserved (h : s.Occupied m) : s.slots.available + s.live.length = m := by
  rw [h.available_eq]
  exact Nat.sub_add_cancel h.within

theorem active_eq (h : s.Occupied m) : s.active = s.live.length := by
  have := h.conserved
  rw [active, h.capacity]
  omega

/-- Nothing changes for the slots while the same sessions go on. -/
theorem of_live (h : s.Occupied m) {t : Server} (slots : t.slots = s.slots)
    (same : t.live = s.live) (unended : ∀ x ∈ t.sessions, x.session.result? = none) :
    t.Occupied m := by
  obtain ⟨capacity, held, issued, distinct, within, _⟩ := h
  rw [← slots] at capacity held issued
  rw [← same] at held issued distinct within
  exact ⟨capacity, held, issued, distinct, within, unended⟩

theorem observe (h : s.Occupied m) (os : List Observation) : (s.observe os).Occupied m :=
  h.of_live rfl rfl h.unended

/-! ## A session more -/

theorem take?_eq_none_iff (h : s.Occupied m) : s.slots.take? = none ↔ s.live.length = m := by
  rw [Slots.take?_eq_none_iff, h.capacity, h.held]
  have := h.within
  omega

/-- A client that finds every slot taken is closed and counted, and nothing else happens. -/
theorem accept_of_full (h : s.Occupied m) (full : s.live.length = m) :
    s.accept now = s.observe [.sessionRejected] := by
  rw [accept, h.take?_eq_none_iff.mpr full]

/-- A session with the next permit takes a free slot. -/
theorem taken (h : s.Occupied m) (free : s.live.length < m) {t : Server} {session : Session}
    (began : session.result? = none)
    (slots : t.slots = { s.slots with
      held := s.slots.held ++ [s.slots.issued + 1], issued := s.slots.issued + 1 })
    (sessions : t.sessions = s.sessions ++ [⟨s.slots.issued + 1, session⟩]) : t.Occupied m := by
  have permits : t.live = s.live ++ [s.slots.issued + 1] := by
    rw [live, sessions, List.map_append]
    rfl
  refine ⟨?_, ?_, ?_, ?_, ?_, ?_⟩
  · rw [slots]
    exact h.capacity
  · rw [slots, permits, ← h.held]
  · rw [slots, permits]
    intro permit mem
    rcases List.mem_append.mp mem with old | new
    · exact Nat.le_succ_of_le (h.issued permit old)
    · exact Nat.le_of_eq (List.mem_singleton.mp new)
  · rw [permits, List.nodup_append]
    refine ⟨h.distinct, List.nodup_singleton _, ?_⟩
    intro permit old last new
    have := h.issued permit old
    rw [List.mem_singleton.mp new]
    omega
  · rw [permits, List.length_append, List.length_singleton]
    exact free
  · rw [sessions]
    intro x mem
    rcases List.mem_append.mp mem with old | new
    · exact h.unended x old
    · rw [List.mem_singleton.mp new]
      exact began

/-- A client that finds a slot is served in a session of its own. -/
theorem accept_of_free (h : s.Occupied m) (now : Span) (free : s.live.length < m) :
    (s.accept now).Occupied m ∧ ∃ permit, permit ∉ s.live ∧
      (s.accept now).sessions =
        s.sessions ++ [⟨permit, .create s.context s.settings s.signal now⟩] ∧
      (s.accept now).observed = s.observed ++ [.activeSessions (s.live.length + 1)] := by
  have given := Slots.take?_of_free (s := s.slots) (by rw [h.capacity, h.held]; exact free)
  have occupied : (s.accept now).Occupied m := by
    rw [accept, given]
    exact (h.taken free rfl rfl rfl).observe _
  have active := occupied.active_eq
  rw [accept, given] at occupied active ⊢
  refine ⟨occupied, s.slots.issued + 1, ?_, rfl, ?_⟩
  · intro old
    have := h.issued _ old
    omega
  · refine congrArg (fun n => s.observed ++ [.activeSessions n]) (active.trans ?_)
    simp only [live, Server.observe, List.map_append, List.length_append, List.map_singleton,
      List.length_singleton]

/-! ## A session less -/

theorem live_drop (h : s.Occupied m) (permit : Nat) :
    (s.drop permit).live = s.live.erase permit := by
  rw [h.distinct.erase_eq_filter, live, live, List.filter_map]
  refine congrArg (List.map _) (List.filter_congr fun x _ => ?_)
  by_cases same : x.permit = permit <;> simp [same]

/-- A session that is over gives back its slot. -/
theorem drop (h : s.Occupied m) (permit : Nat) : (s.drop permit).Occupied m := by
  have permits := h.live_drop permit
  refine ⟨h.capacity, ?_, ?_, ?_, ?_, ?_⟩
  · rw [permits, ← h.held]
    rfl
  · rw [permits]
    exact fun x mem => h.issued x (List.mem_of_mem_erase mem)
  · rw [permits]
    exact h.distinct.erase permit
  · rw [permits]
    exact Nat.le_trans (List.erase_sublist.length_le) h.within
  · exact fun x mem => h.unended x (List.mem_filter.mp mem).1

/-- The event that ends a session drops it and gives back its slot. -/
theorem step_of_ends (h : s.Occupied m) {e : Event} (ends : s.Ends now permit e) :
    (s.step now e).Occupied m ∧ (s.step now e).live = s.live.erase permit ∧
      (s.step now e).slots = s.slots.giveBack permit := by
  obtain ⟨os, dropped⟩ := ends.step_eq
  rw [dropped]
  exact ⟨(h.drop permit).observe os, h.live_drop permit, rfl⟩

/-- A slot that is given back is free. -/
theorem available_giveBack (h : s.Occupied m) (mem : permit ∈ s.live) :
    (s.slots.giveBack permit).available = s.slots.available + 1 := by
  have taken := List.length_pos_of_mem mem
  have within := h.within
  rw [← h.held] at mem taken within
  simp only [Slots.available, Slots.giveBack, List.length_erase_of_mem mem, h.capacity]
  omega

/-! ## The same sessions -/

theorem mem_live_of_find? {session : Session}
    (here : s.find? permit = some session) : permit ∈ s.live := by
  obtain ⟨x, found, -⟩ := Option.map_eq_some_iff.mp here
  refine List.mem_map.mpr ⟨x, List.mem_of_find?_eq_some found, ?_⟩
  simpa using List.find?_some found

/-- A session that goes on keeps its slot. -/
theorem update_of_unended (h : s.Occupied m) {session : Session}
    (unended : session.result? = none) :
    (s.update permit session).Occupied m ∧ (s.update permit session).live = s.live ∧
      (s.update permit session).slots = s.slots := by
  have goesOn : s.update permit session = { s with sessions := s.sessions.map fun x =>
      if x.permit = permit then { x with session := session } else x } := by
    simp only [update, unended]
  have same : (s.update permit session).live = s.live := by
    rw [goesOn, live, List.map_map]
    refine List.map_congr_left fun x _ => ?_
    simp only [Function.comp_apply]
    split <;> rfl
  rw [goesOn] at same ⊢
  refine ⟨h.of_live rfl same ?_, same, rfl⟩
  refine List.forall_mem_map.mpr fun x hx => ?_
  split
  · exact unended
  · exact h.unended x hx

/-- What all sessions are told ends none of them at once. -/
theorem tell (h : s.Occupied m) {e : Session.Event}
    (quiet : ∀ session : Session, (session.step now e).result? = session.result?) :
    (s.tell now e).Occupied m ∧ (s.tell now e).live = s.live ∧
      (s.tell now e).slots = s.slots := by
  have same : (s.tell now e).live = s.live := by
    simp only [live, Server.tell, List.map_map]
    rfl
  refine ⟨h.of_live rfl same ?_, same, rfl⟩
  refine List.forall_mem_map.mpr fun x hx => ?_
  exact (quiet x.session).trans (h.unended x hx)

/-- An event that neither brings a client nor ends a session leaves the slots as they are. -/
theorem step_of_quiet (h : s.Occupied m) {e : Event} (arrival : e ≠ .arrival)
    (quiet : ∀ permit ∈ s.live, ¬ s.Ends now permit e) :
    (s.step now e).Occupied m ∧ (s.step now e).live = s.live ∧
      (s.step now e).slots = s.slots := by
  cases e with
  | arrival => exact absurd rfl arrival
  | inSession permit e =>
    cases here : s.find? permit with
    | none =>
      have stays : s.step now (.inSession permit e) = s := by simp only [step, here]
      rw [stays]
      exact ⟨h, rfl, rfl⟩
    | some session =>
      have goes : s.step now (.inSession permit e) = s.update permit (session.step now e) := by
        simp only [step, here]
      rw [goes]
      refine h.update_of_unended (Option.not_isSome_iff_eq_none.mp ?_)
      exact fun ended => quiet permit (mem_live_of_find? here) (.finished here ended)
  | signal value =>
    have told : ({ s with signal := s.signal.send value } : Server).Occupied m :=
      h.of_live rfl rfl h.unended
    exact told.tell fun _ => rfl
  | detached =>
    have told : ({ s with signal := s.signal.detach } : Server).Occupied m :=
      h.of_live rfl rfl h.unended
    exact told.tell fun _ => rfl
  | notice =>
    rw [step]
    split
    · exact ⟨h.of_live rfl rfl h.unended, rfl, rfl⟩
    · exact ⟨h, rfl, rfl⟩
  | aborted permit =>
    rw [step]
    split
    · exact ⟨h, rfl, rfl⟩
    · rename_i stopped
      have gone : permit ∉ s.live := fun mem =>
        quiet permit mem (.cutOff (eq_false_of_ne_true stopped))
      refine ⟨h.drop permit, (h.live_drop permit).trans (List.erase_of_not_mem gone), ?_⟩
      rw [← h.held] at gone
      rw [Server.drop, Slots.giveBack, List.erase_of_not_mem gone]

/-! ## Any events -/

/-- No event takes a slot away from a live session or leaves one with a session that is over. -/
theorem step (h : s.Occupied m) (now : Span) (e : Event) : (s.step now e).Occupied m := by
  by_cases arrival : e = .arrival
  · rw [arrival, Server.step]
    split
    · rcases Nat.eq_or_lt_of_le h.within with full | free
      · rw [h.accept_of_full full]
        exact h.observe _
      · exact (h.accept_of_free now free).1
    · exact h
  by_cases quiet : ∀ permit ∈ s.live, ¬ s.Ends now permit e
  · exact (h.step_of_quiet arrival quiet).1
  push Not at quiet
  obtain ⟨permit, -, ends⟩ := quiet
  exact (h.step_of_ends ends).1

/-- So it is after any events. -/
theorem run (h : s.Occupied m) (es : List (Span × Event)) : (s.run es).Occupied m := by
  induction es generalizing s with
  | nil => exact h
  | cons e es ih => exact ih (h.step e.1 e.2)

end Occupied

/-- The client that connects is refused: its connection is closed without a word and counted, and
nothing else happens. -/
def Refuses (s : Server) (now : Span) : Prop :=
  s.step now .arrival = s.observe [.sessionRejected]

theorem Occupied.refuses_iff (h : s.Occupied m) (accepting : s.accepting = true) :
    s.Refuses now ↔ s.live.length = m := by
  have accepts : s.step now .arrival = s.accept now := by
    simp only [Server.step, accepting, if_true]
  rw [Refuses, accepts]
  refine ⟨fun refused => ?_, h.accept_of_full⟩
  refine (Nat.eq_or_lt_of_le h.within).resolve_right fun free => ?_
  obtain ⟨-, permit, -, sessions, -⟩ := h.accept_of_free now free
  have same : (s.accept now).sessions.length = s.sessions.length := by
    rw [refused]
    rfl
  rw [sessions, List.length_append, List.length_singleton] at same
  omega

/-- After any events the slots that are free and the live sessions make up the limit. A client is
refused exactly if the sessions are as many as the limit, and is served in a session of its own
otherwise; a session gives back one slot when it ends, however it ends; and nothing else changes
how many slots are free. -/
theorem slots_of_run {slots : Slots} (made : Slots.create m = .ok slots)
    (address : SocketAddress) (context : SourceContext) (settings : SessionSettings)
    (es : List (Span × Event)) (now : Span) :
    let s := (create address context settings slots).run es
    s.live.length ≤ m ∧ s.slots.available + s.live.length = m ∧
      (∀ x ∈ s.sessions, x.session.result? = none) ∧
      (s.accepting = true →
        (s.Refuses now ↔ s.live.length = m) ∧
        (¬ s.Refuses now → ∃ permit, permit ∉ s.live ∧
          (s.step now .arrival).sessions =
            s.sessions ++ [⟨permit, .create s.context s.settings s.signal now⟩] ∧
          (s.step now .arrival).slots.available + 1 = s.slots.available ∧
          (s.step now .arrival).observed =
            s.observed ++ [.activeSessions (s.live.length + 1)])) ∧
      (s.accepting = false → s.step now .arrival = s) ∧
      (∀ e permit, permit ∈ s.live → s.Ends now permit e →
        (s.step now e).live = s.live.erase permit ∧
          (s.step now e).slots.available = s.slots.available + 1) ∧
      ∀ e, e ≠ .arrival → (∀ permit ∈ s.live, ¬ s.Ends now permit e) →
        (s.step now e).live = s.live ∧ (s.step now e).slots = s.slots := by
  intro s
  have h : s.Occupied m := (occupied_create address context settings made).run es
  refine ⟨h.within, h.conserved, h.unended, fun accepting => ⟨h.refuses_iff accepting, ?_⟩,
    fun stopped => ?_, fun e permit mem ends => ?_, fun e arrival quiet => ?_⟩
  · intro served
    have free : s.live.length < m :=
      Nat.lt_of_le_of_ne h.within fun full => served ((h.refuses_iff accepting).mpr full)
    obtain ⟨occupied, permit, new, sessions, observed⟩ := h.accept_of_free now free
    have accepts : s.step now .arrival = s.accept now := by
      simp only [step, accepting, if_true]
    rw [accepts]
    refine ⟨permit, new, sessions, ?_, observed⟩
    have before := h.conserved
    have after := occupied.conserved
    simp only [live, sessions, List.length_map, List.length_append, List.length_singleton]
      at before after
    omega
  · simp only [step, stopped, Bool.false_eq_true, if_false]
  · obtain ⟨-, live, slots⟩ := h.step_of_ends ends
    exact ⟨live, slots ▸ h.available_giveBack mem⟩
  · exact (h.step_of_quiet arrival quiet).2

/-- With one slot the first client is served and the second is refused; when the first one leaves
the slot is free again. -/
theorem slots_of_one_client :
    let s := (create (.v4 [127, 0, 0, 1] 4444) ⟨⟨"RIPE"⟩, none⟩ .default ⟨1, [], 0⟩).run
      [(.zero, .arrival)]
    s.live = [1] ∧ s.Refuses .zero ∧ (s.step .zero (.inSession 1 .closed)).live = [] ∧
      (s.step .zero (.inSession 1 .closed)).slots.available = 1 := by
  intro s
  have made : Slots.create 1 = .ok ⟨1, [], 0⟩ := by decide
  obtain ⟨-, -, -, full, -, ends, -⟩ :=
    slots_of_run made (.v4 [127, 0, 0, 1] 4444) ⟨⟨"RIPE"⟩, none⟩ .default [(.zero, .arrival)] .zero
  have live : s.live = [1] := rfl
  have here : s.find? 1 = some (.create ⟨⟨"RIPE"⟩, none⟩ .default .quiet .zero) := rfl
  obtain ⟨left, free⟩ :=
    ends (.inSession 1 .closed) 1 (List.mem_singleton.mpr rfl) (.finished here rfl)
  exact ⟨live, (full rfl).1.mpr rfl, left, free⟩

end Server

end RegistryFeed
