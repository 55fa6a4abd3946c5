import RegistryFeed.Error

/-! # The outbox of a session

Text for the client is held back until there is enough of it or it is flushed. Where the client is
gone nothing can be sent, which shows only when something is. -/
namespace RegistryFeed

/-- All text sent so far, and what is held back. It is broken if the client is gone. -/
structure Outbox where
  sent : String
  held : String
  broken : Bool
deriving DecidableEq, Repr

namespace Outbox

/-- The number of bytes that can be held back. -/
def capacity : Nat := 8192

def empty : Outbox := ⟨"", "", false⟩

def flush (o : Outbox) : Except ConnectionFault Outbox :=
  if o.held.isEmpty then .ok o
  else if o.broken then .error .brokenPipe
  else .ok { o with sent := o.sent ++ o.held, held := "" }

/-- Sends what is held if there is no room for a text behind it. -/
def makeRoom (o : Outbox) (text : String) : Except ConnectionFault Outbox :=
  if capacity < o.held.utf8ByteSize + text.utf8ByteSize then o.flush else .ok o

/-- Writes a text behind what is held; a text that needs all the room is sent at once. -/
def write (o : Outbox) (text : String) : Except ConnectionFault Outbox :=
  match o.makeRoom text with
  | .error fault => .error fault
  | .ok o =>
    if text.utf8ByteSize < capacity then .ok { o with held := o.held ++ text }
    else if o.broken then .error .brokenPipe
    else .ok { o with sent := o.sent ++ text }

def writeAll (o : Outbox) (texts : List String) : Except ConnectionFault Outbox :=
  texts.foldlM write o

/-- The end of a session: what is held is sent if it can be. -/
def close (o : Outbox) : Outbox :=
  match o.flush with
  | .ok o => o
  | .error _ => o

/-- All text written so far, sent or held back. -/
def text (o : Outbox) : String := o.sent ++ o.held

theorem text_of_flush {o p : Outbox} (h : o.flush = .ok p) : p.text = o.text ∧ p.held = "" := by
  simp only [flush] at h
  split at h
  · next empty =>
    injection h with h
    subst h
    exact ⟨rfl, by simpa using empty⟩
  · split at h
    · simp at h
    · injection h with h
      subst h
      simp [text]

theorem text_of_makeRoom {o p : Outbox} {t : String} (h : o.makeRoom t = .ok p) :
    p.text = o.text ∧ (capacity ≤ t.utf8ByteSize → p.held = "") := by
  simp only [makeRoom] at h
  split at h
  · obtain ⟨same, none⟩ := text_of_flush h
    exact ⟨same, fun _ => none⟩
  · next fits =>
    injection h with h
    subst h
    refine ⟨rfl, fun long => ?_⟩
    have : o.held.utf8ByteSize = 0 := by omega
    simpa using this

/-- Whatever is sent or held back, writing puts the text behind all the others. -/
theorem text_of_write {o p : Outbox} {t : String} (h : o.write t = .ok p) :
    p.text = o.text ++ t := by
  simp only [write] at h
  split at h
  · simp at h
  · next q room =>
    obtain ⟨same, empty⟩ := text_of_makeRoom room
    split at h
    · injection h with h
      subst h
      rw [← same]
      simp [text, String.append_assoc]
    · next long =>
      split at h
      · simp at h
      · injection h with h
        subst h
        rw [← same]
        simp [text, empty (by omega)]

theorem text_of_writeAll {o p : Outbox} {ts : List String} (h : o.writeAll ts = .ok p) :
    p.text = o.text ++ String.join ts := by
  induction ts generalizing o with
  | nil =>
    injection h with h
    subst h
    simp [String.join]
  | cons t ts ih =>
    simp only [writeAll, List.foldlM_cons, bind, Except.bind] at h
    split at h
    · simp at h
    · next q written =>
      rw [ih h, text_of_write written]
      simp [String.append_assoc]

end Outbox

end RegistryFeed
