/-! # The shutdown signal

One sender, many receivers: the sender gives values and may go away, a receiver looks at the latest
value at any time and can wait for one it has not seen. Here is the view of one receiver. -/
namespace RegistryFeed

/-- A value is fresh until the receiver takes note of it; the signal is attached while its sender is
there. -/
structure Signal where
  value : Bool
  fresh : Bool
  attached : Bool
deriving DecidableEq, Repr

namespace Signal

def quiet : Signal := ⟨false, false, true⟩

/-- A value is given; every value counts as new, even one equal to the last. -/
def send (s : Signal) (value : Bool) : Signal :=
  if s.attached then { s with value := value, fresh := true } else s

def detach (s : Signal) : Signal := { s with attached := false }

/-- Whether a receiver that waits is woken. -/
def wakes (s : Signal) : Bool := s.fresh || !s.attached

/-- A receiver is to stop: the value says so, or nobody is left to give another one. -/
def Stops (s : Signal) : Prop := s.value = true ∨ s.attached = false

def noted (s : Signal) : Signal := { s with fresh := false }

end Signal

end RegistryFeed
