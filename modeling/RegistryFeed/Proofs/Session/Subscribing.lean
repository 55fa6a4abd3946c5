import RegistryFeed.Proofs.Session.Delivery
import RegistryFeed.Session.LiveSubscription

/-!
# The batches of a subscription

What a subscription has handed out is the window on its log from its start to its cursor, whatever
its calls met on their way: each event moves the cursor by the batch that it hands out, and by
nothing else. A page on its way is the next one of a log that is a prefix of the present one.
-/

namespace RegistryFeed

/-- The entries that the end of a call hands out. -/
def Outcome.entries : Outcome → List Entry
  | .batch page => page
  | .cancelled => []
  | .failed _ => []

namespace LiveSubscription

variable {s t : LiveSubscription}

def cursor (s : LiveSubscription) : Int := s.subscription.cursor

/-- The log of the source. -/
def entries (s : LiveSubscription) : List Entry := s.log.entries s.subscription.source

/-! ## One event -/

def exchange (s : LiveSubscription) : Exchange := ⟨s.log, s.subscription.reading?, s.pending⟩

/-- What is on its way answers the question of the call, from the log as it was at one moment. -/
abbrev Honest (s : LiveSubscription) : Prop :=
  s.exchange.Honest s.subscription.source fun _ => True

/-- What an event does to the cursor, and how it ends the call. -/
inductive Ends (s : LiveSubscription) (cursor : Int) : Option Outcome → Prop
  | goesOn (stays : cursor = s.cursor) : Ends s cursor none
  | hands {page : List Entry} {last : Entry} (ends : page.getLast? = some last)
      (moves : cursor = last.serial) {old : List Entry} (grown : old <+: s.entries)
      (read : page = (entriesAfter old s.cursor).take s.subscription.batchSize) :
      Ends s cursor (some (.batch page))
  | cancels (stays : cursor = s.cursor) (asked : s.signal.Stops) : Ends s cursor (some .cancelled)
  | fails (stays : cursor = s.cursor) (error : EngineError) : Ends s cursor (some (.failed error))

namespace Ends

variable {position : Int} {outcome : Option Outcome}

theorem le (h : s.Ends position outcome) : s.cursor ≤ position := by
  cases h with
  | goesOn stays => exact Int.le_of_eq stays.symm
  | cancels stays _ => exact Int.le_of_eq stays.symm
  | fails stays _ => exact Int.le_of_eq stays.symm
  | hands ends moves _ read =>
    have mem := List.mem_of_getLast? ends
    rw [read] at mem
    have above := (mem_entriesAfter.mp (List.mem_of_mem_take mem)).2
    rw [moves]
    exact Int.le_of_lt above

theorem moves (h : s.Ends position outcome) (moved : position ≠ s.cursor) :
    ∃ page, outcome = some (.batch page) := by
  cases h with
  | goesOn stays => exact absurd stays moved
  | cancels stays _ => exact absurd stays moved
  | fails stays _ => exact absurd stays moved
  | @hands page _ _ _ _ _ _ => exact ⟨page, rfl⟩

theorem page {page : List Entry} (h : s.Ends position outcome)
    (handed : outcome = some (.batch page)) :
    page ≠ [] ∧ page.length ≤ s.subscription.batchSize := by
  cases h with
  | goesOn _ => cases handed
  | cancels _ _ => cases handed
  | fails _ _ => cases handed
  | hands ends _ _ read =>
    cases handed
    refine ⟨fun none => ?_, ?_⟩
    · rw [none] at ends
      cases ends
    · rw [read]
      exact List.length_take_le _ _

theorem asked (h : s.Ends position outcome) (cancelled : outcome = some .cancelled) :
    s.signal.Stops := by
  cases h with
  | goesOn _ => cases cancelled
  | hands _ _ _ _ => cases cancelled
  | cancels _ asked => exact asked
  | fails _ _ => cases cancelled

end Ends

/-- What events do to a subscription apart from its call: its log may grow. -/
structure Grows (s t : LiveSubscription) : Prop where
  source : t.subscription.source = s.subscription.source
  batchSize : t.subscription.batchSize = s.subscription.batchSize
  entries : s.entries <+: t.entries
  ordered : Ordered s.entries → Ordered t.entries

theorem Grows.refl (s : LiveSubscription) : s.Grows s := ⟨rfl, rfl, List.prefix_rfl, id⟩

theorem Grows.trans {u : LiveSubscription} (h : s.Grows t) (h' : t.Grows u) : s.Grows u :=
  ⟨h'.source.trans h.source, h'.batchSize.trans h.batchSize, h.entries.trans h'.entries,
    fun o => h'.ordered (h.ordered o)⟩

theorem Grows.of_signal (s : LiveSubscription) (signal : Signal) :
    s.Grows { s with signal := signal } := ⟨rfl, rfl, List.prefix_rfl, id⟩

theorem advance_grows (s : LiveSubscription) (e : Subscription.Event) :
    s.Grows (s.advance e).1 := by
  have same : (s.subscription.step e).1.source = s.subscription.source ∧
      (s.subscription.step e).1.batchSize = s.subscription.batchSize := by
    rcases s.subscription.step_cases e with ⟨_, h⟩ | ⟨_, _, _, _, h⟩ | ⟨_, h⟩ | ⟨_, _, h⟩ <;>
      rw [h] <;> exact ⟨rfl, rfl⟩
  have log : (s.advance e).1.entries = s.entries := by
    rw [entries, entries, advance, same.1]
  exact ⟨same.1, same.2, log ▸ List.prefix_rfl, fun h => log ▸ h⟩

theorem advance_ends {e : Subscription.Event}
    (honest : ∀ page, e = .page (.ok page) → ∃ old, old <+: s.entries ∧
      page = (entriesAfter old s.cursor).take s.subscription.batchSize)
    (asked : e = .look true ∨ e = .detached → s.signal.Stops) :
    s.Ends (s.advance e).1.cursor (s.advance e).2 := by
  unfold cursor advance
  rcases s.subscription.step_cases e with ⟨call, h⟩ | ⟨page, last, he, ends, h⟩ | ⟨he, h⟩ |
    ⟨error, _, h⟩
  · rw [h]
    exact .goesOn rfl
  · obtain ⟨old, grown, read⟩ := honest page he
    rw [h]
    exact .hands ends rfl grown read
  · rw [h]
    exact .cancels rfl (asked he)
  · rw [h]
    exact .fails rfl error

/-- An event that is neither a page nor the end of the subscription. -/
theorem advance_ends_of_plain {e : Subscription.Event} (noPage : ∀ r, e ≠ .page r)
    (unstopped : e ≠ .look true) (attached : e ≠ .detached) :
    s.Ends (s.advance e).1.cursor (s.advance e).2 := by
  refine advance_ends (fun page he => absurd he (noPage _)) ?_
  rintro (he | he)
  · exact absurd he unstopped
  · exact absurd he attached

theorem honest_advance (h : s.Honest) (e : Subscription.Event) : (s.advance e).1.Honest := by
  rw [Honest, (s.advance_grows e).source]
  exact h.turn _

theorem ask_grows (s : LiveSubscription) (reply : Reading → Reply) :
    s.Grows (s.ask reply) ∧ (s.ask reply).cursor = s.cursor := by
  unfold ask
  split
  · exact ⟨⟨rfl, rfl, List.prefix_rfl, id⟩, rfl⟩
  · exact ⟨.refl s, rfl⟩

theorem honest_ask (h : s.Honest) {reply : Reading → Reply}
    (honest : ∀ question, (∃ error, reply question = question.failed error) ∨
      reply question = s.log.reply question) : (s.ask reply).Honest := by
  unfold LiveSubscription.ask
  split
  · next question asks =>
    refine Exchange.Honest.ask (x := s.exchange) asks
      ((honest question).imp_right fun same => ?_)
    exact ⟨s.log, List.prefix_rfl, trivial, same⟩
  · exact h

theorem honest_signal (h : s.Honest) (signal : Signal) : { s with signal := signal }.Honest := h

/-- A page on its way is the next one of the log as it was at one moment. -/
theorem honest_page (h : s.Honest) {page : List Entry}
    (pending : s.pending = some (.page (.ok page))) :
    ∃ old, old <+: s.entries ∧
      page = (entriesAfter old s.cursor).take s.subscription.batchSize := by
  obtain ⟨question, asks, answer⟩ := h _ pending
  replace asks : s.subscription.reading? = some question := asks
  have here : question = .page s.subscription.source s.cursor s.subscription.batchSize := by
    unfold Subscription.reading? at asks
    split at asks
    · exact (Option.some.inj asks).symm
    · cases asks
  subst here
  rcases answer with ⟨error, failed⟩ | ⟨old, grown, -, replied⟩
  · simp [Reading.failed] at failed
  · simp only [LogView.reply, Reply.page.injEq, Except.ok.injEq] at replied
    exact ⟨_, grown, replied⟩

/-- What one event does to a subscription. -/
structure Stepped (s : LiveSubscription) (t : LiveSubscription × Option Outcome) : Prop where
  grows : s.Grows t.1
  ends : s.Ends t.1.cursor t.2
  honest : t.1.Honest

theorem Stepped.silent (h : s.Honest) : s.Stepped (s, none) := ⟨.refl s, .goesOn rfl, h⟩

theorem Stepped.plain (h : s.Honest) {e : Subscription.Event} (noPage : ∀ r, e ≠ .page r)
    (unstopped : e ≠ .look true) (attached : e ≠ .detached) : s.Stepped (s.advance e) :=
  ⟨s.advance_grows e, advance_ends_of_plain noPage unstopped attached, honest_advance h e⟩

/-- Neither the signal nor what is on its way matters to the subscription and its log. -/
theorem Stepped.of_view {u : LiveSubscription} {x : LiveSubscription × Option Outcome}
    (h : u.Stepped x) (subscription : u.subscription = s.subscription) (log : u.log = s.log)
    (asked : u.signal.Stops → s.signal.Stops) : s.Stepped x := by
  obtain ⟨t, outcome⟩ := x
  obtain ⟨⟨source, batchSize, grown, ordered⟩, ends, honest⟩ := h
  have entries : u.entries = s.entries := by rw [LiveSubscription.entries, subscription, log]; rfl
  have cursor : u.cursor = s.cursor := congrArg Subscription.cursor subscription
  rw [entries] at grown ordered
  rw [subscription] at source batchSize
  refine ⟨⟨source, batchSize, grown, ordered⟩, ?_, honest⟩
  cases ends with
  | goesOn stays => exact .goesOn (stays.trans cursor)
  | hands last moves before read =>
    rw [entries] at before
    rw [cursor, subscription] at read
    exact .hands last moves before read
  | cancels stays asks => exact .cancels (stays.trans cursor) (asked asks)
  | fails stays error => exact .fails (stays.trans cursor) error

theorem notice_stepped (h : s.Honest) : s.Stepped s.notice := by
  unfold notice
  split
  · exact .silent h
  · split
    · have woken := Stepped.plain (honest_signal h s.signal.noted) (e := .wake) (by simp) (by simp)
        (by simp)
      exact woken.of_view rfl rfl id
    · split
      · exact .silent h
      · next detached =>
        refine ⟨s.advance_grows _, advance_ends (by simp) ?_, honest_advance h _⟩
        intro _
        exact .inr (by simpa using detached)

theorem deliver_stepped (h : s.Honest) : s.Stepped (s.step .deliver) := by
  simp only [step]
  split
  · next result pending =>
    let u : LiveSubscription := { s with pending := none }
    have honest : u.Honest := fun reply hr => by cases hr
    have delivered : u.Stepped (u.advance (.page result)) := by
      refine ⟨u.advance_grows _, advance_ends ?_ (by simp), honest_advance honest _⟩
      intro page he
      rw [Subscription.Event.page.inj he] at pending
      exact honest_page h pending
    exact delivered.of_view rfl rfl id
  · exact .silent h

theorem step_stepped (h : s.Honest) (e : Event) : s.Stepped (s.step e) := by
  cases e with
  | begin => exact .plain h (by simp) (by simp) (by simp)
  | abandon => exact .plain h (by simp) (by simp) (by simp)
  | sleep => exact .plain h (by simp) (by simp) (by simp)
  | look =>
    refine ⟨s.advance_grows _, advance_ends (by simp) ?_, honest_advance h _⟩
    rintro (he | he)
    · exact .inl (Subscription.Event.look.inj he)
    · cases he
  | read =>
    obtain ⟨grows, stays⟩ := s.ask_grows s.log.reply
    exact ⟨grows, .goesOn stays, honest_ask h fun _ => .inr rfl⟩
  | fail error =>
    obtain ⟨grows, stays⟩ := s.ask_grows (Reading.failed error)
    exact ⟨grows, .goesOn stays, honest_ask h fun _ => .inl ⟨error, rfl⟩⟩
  | deliver => exact deliver_stepped h
  | notice => exact notice_stepped h
  | append source entry =>
    have grown := s.log.append_grows source s.subscription.source entry
    exact ⟨⟨rfl, rfl, grown, fun o => LogView.append_ordered o source entry⟩, .goesOn rfl,
      h.of_grown grown⟩
  | send value => exact ⟨.of_signal s _, .goesOn rfl, honest_signal h _⟩
  | detach => exact ⟨.of_signal s _, .goesOn rfl, honest_signal h _⟩

/-! ## A run -/

/-- What was handed out is the window from a start to the cursor. -/
structure Sound (start : Int) (given : List Entry) (s : LiveSubscription) : Prop where
  ordered : Ordered s.entries
  size : 1 ≤ s.subscription.batchSize
  above : start ≤ s.cursor
  reached : s.cursor = start ∨ Reaches s.entries s.cursor
  given : given = window s.entries start s.cursor
  honest : s.Honest

variable {start : Int} {given : List Entry}

/-- The window does not change when the log grows. -/
theorem Sound.window_eq (h : Sound start given s) (grows : s.Grows t) :
    given = window t.entries start s.cursor := by
  rw [h.given]
  rcases h.reached with stays | reaches
  · rw [stays, window_self, window_self]
  · exact (reaches.window_eq (grows.ordered h.ordered) grows.entries).symm

/-- Each event keeps the invariant, with what it hands out. -/
theorem Sound.step (h : Sound start given s) (e : Event) :
    Sound start (given ++ (s.step e).2.toList.flatMap Outcome.entries) (s.step e).1 := by
  have stepped := step_stepped h.honest e
  generalize s.step e = x at stepped
  obtain ⟨t, outcome⟩ := x
  obtain ⟨grows, ends, honest⟩ := stepped
  have ordered := grows.ordered h.ordered
  have size : 1 ≤ t.subscription.batchSize := by rw [grows.batchSize]; exact h.size
  have before := h.window_eq grows
  have stayed : t.cursor = s.cursor → Sound start given t := by
    intro stays
    refine ⟨ordered, size, stays ▸ h.above, ?_, stays ▸ before, honest⟩
    rw [stays]
    exact h.reached.imp id (·.mono grows.entries)
  cases ends with
  | goesOn stays => simpa using stayed stays
  | cancels stays _ => simpa [Outcome.entries] using stayed stays
  | fails stays _ => simpa [Outcome.entries] using stayed stays
  | @hands page last ends moves old grown read =>
    have part : page <+: entriesAfter old s.cursor := by
      rw [read]
      exact List.take_prefix _ _
    have inLog := grown.trans grows.entries
    have position : positionAfter s.cursor page = last.serial := positionAfter_of_getLast? ends
    obtain ⟨on, joined⟩ := window_append_part ordered inLog part h.above
    rw [position, ← moves] at on joined
    refine ⟨ordered, size, Int.le_trans h.above on, .inr ?_, ?_, honest⟩
    · have mem := mem_entriesAfter.mp (part.subset (List.mem_of_getLast? ends))
      exact ⟨last, inLog.subset mem.1, Int.le_of_eq moves⟩
    · rw [before, ← joined]
      simp [Outcome.entries]

theorem run_cons (s : LiveSubscription) (e : Event) (es : List Event) :
    s.run (e :: es) = ((run (s.step e).1 es).1, (s.step e).2.toList ++ (run (s.step e).1 es).2) :=
  rfl

theorem honest_run (h : s.Honest) (es : List Event) : (s.run es).1.Honest := by
  induction es generalizing s with
  | nil => exact h
  | cons e es ih => exact ih (step_stepped h e).honest

theorem run_grows (h : s.Honest) (es : List Event) : s.Grows (s.run es).1 := by
  induction es generalizing s with
  | nil => exact .refl s
  | cons e es ih =>
    have stepped := step_stepped h e
    exact stepped.grows.trans (ih stepped.honest)

theorem Sound.run (h : Sound start given s) (es : List Event) :
    Sound start (given ++ (s.run es).2.flatMap Outcome.entries) (s.run es).1 := by
  induction es generalizing s given with
  | nil => simpa [LiveSubscription.run] using h
  | cons e es ih =>
    have later := ih (h.step e)
    rw [run_cons]
    simpa using later

theorem Sound.create {source : Source} {log : LogView} (ordered : Ordered (log.entries source))
    (start : Int) (batchSize : Nat) (signal : Signal) :
    Sound start [] (create source start batchSize log signal) :=
  ⟨ordered, Nat.le_max_right _ _, Int.le_refl _, .inl rfl, (window_self _ _).symm,
    fun reply hr => by cases hr⟩

end LiveSubscription

end RegistryFeed
