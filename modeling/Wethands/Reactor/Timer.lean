import Mathlib.Order.Defs.Unbundled
import Wethands.Utils.Timestamp

/-!
# Timers and their indices
-/

namespace Wethands
namespace Reactor

open Utils

abbrev Address : Type := Nat

/-- A timer without its callback, whose behaviour is an input of the run. -/
structure Timer where
  expiration_ : Timestamp
  interval_ : Seconds
  repeated_ : Bool
  sequence_ : Nat

namespace Timer

def New (count_ : Nat) (when_ : Timestamp) (interval : Seconds) : Timer where
  expiration_ := when_
  interval_ := interval
  repeated_ := interval.positive
  sequence_ := count_ + 1

def Restart (timer : Timer) (now : Timestamp) : Timer :=
  if timer.repeated_ then
    { timer with expiration_ := AddSeconds now timer.interval_ }
  else { timer with expiration_ := Timestamp.Invalid }

@[simp] theorem restart_sequence (timer : Timer) (now : Timestamp) :
    (timer.Restart now).sequence_ = timer.sequence_ := by
  unfold Restart
  split <;> rfl

end Timer

structure TimerIndex where
  timer_ : Address
  expiration_ : Timestamp
  sequence_ : Nat
deriving DecidableEq

namespace TimerIndex

def Default : TimerIndex where
  timer_ := 0
  expiration_ := Timestamp.Invalid
  sequence_ := 0

/-- `operator<`: the earlier expiration, then the smaller sequence. -/
def Less (a b : TimerIndex) : Prop :=
  if a.expiration_ ≠ b.expiration_ then a.expiration_ < b.expiration_
  else a.sequence_ < b.sequence_

instance : DecidableRel Less := fun _ _ =>
  inferInstanceAs (Decidable (ite _ _ _))

theorem less_iff {a b : TimerIndex} :
    Less a b <-> a.expiration_ < b.expiration_ ∨
      a.expiration_ = b.expiration_ ∧ a.sequence_ < b.sequence_ := by
  unfold Less
  split <;> lia

instance : IsStrictWeakOrder TimerIndex Less where
  irrefl _ h := by
    rw [less_iff] at h
    lia
  trans _ _ _ hab hbc := by
    rw [less_iff] at hab hbc ⊢
    lia
  incomp_trans _ _ _ hab hbc := by
    simp only [less_iff] at hab hbc ⊢
    lia

end TimerIndex
end Reactor
end Wethands
