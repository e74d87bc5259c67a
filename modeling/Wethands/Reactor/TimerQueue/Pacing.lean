import Wethands.Reactor.TimerQueue.DueTimers

/-!
# When the timers run

A timer is never run before its time.  A repeating timer is run again at its
interval at the earliest, and another timer is not run again, whatever callbacks
and other threads add and cancel and whatever the clock does.
-/

namespace Wethands
namespace Reactor

open Foundation Utils

namespace TimerQueue

/-- A timer as `HandleRead` finds it when it runs it, and the reading `now`. -/
structure Firing where
  now : Timestamp
  timerIndex : TimerIndex
  timer : Timer

structure Firing.Spaces (f : Firing) (t : Timer) : Prop where
  repeated : f.timer.repeated_ = true
  interval : t.interval_ = f.timer.interval_
  later : AddSeconds f.now f.timer.interval_ ≤ t.expiration_

section Clock

variable (clock : Nat -> Timestamp)

/-- The timers that are there afterwards are the old ones or new ones. -/
structure Persists (queue next : TimerQueue) : Prop where
  count_le : queue.count_ ≤ next.count_
  issued : forall i, i ∈ queue.issued -> i ∈ next.issued
  object : forall a t, next.heap a = some t ->
    queue.heap a = some t ∨ queue.count_ < t.sequence_

theorem Persists.trans {queue mid next : TimerQueue}
    (first : Persists queue mid) (second : Persists mid next) :
    Persists queue next where
  count_le := Nat.le_trans first.count_le second.count_le
  issued := fun i hi => second.issued i (first.issued i hi)
  object := by
    intro a t ht
    rcases second.object a t ht with hmid | hnew
    · exact first.object a t hmid
    · exact Or.inr (Nat.lt_of_le_of_lt first.count_le hnew)

/-- Who is answerable for a timer: its creator, or the index that was given. -/
structure Answers (queue : TimerQueue) (a : Address) (t : Timer) : Prop where
  asked : a ∈ queue.inFlight ∨ exists i, i ∈ queue.issued ∧ i.timer_ = a ∧
    i.sequence_ = t.sequence_ ∧ i.expiration_ ≤ t.expiration_
  built : t.repeated_ = t.interval_.positive

def Asked (queue : TimerQueue) : Prop :=
  forall a t, queue.heap a = some t -> Answers queue a t

variable {clock}

structure Paced (queue : TimerQueue) (past : List Firing) : Prop where
  asked : Asked queue
  old : forall f, f ∈ past -> f.timer.sequence_ ≤ queue.count_
  spaced : forall f a t, f ∈ past -> queue.heap a = some t ->
    t.sequence_ = f.timer.sequence_ -> f.Spaces t
  punctual : forall f, f ∈ past ->
    f.timerIndex = IndexOf f.timerIndex.timer_ f.timer ∧
      f.timer.expiration_ ≤ f.now ∧
      exists i, i ∈ queue.issued ∧ i.timer_ = f.timerIndex.timer_ ∧
        i.sequence_ = f.timer.sequence_ ∧
        i.expiration_ ≤ f.timer.expiration_
  apart : past.Pairwise fun f g =>
    f.timer.sequence_ = g.timer.sequence_ -> f.Spaces g.timer

/-- Its interval is not negative, so a repeating timer is put off. -/
theorem Answers.later {queue : TimerQueue} {a : Address} {t : Timer}
    (h : Answers queue a t) (hrepeated : t.repeated_ = true)
    (now : Timestamp) : now ≤ AddSeconds now t.interval_ := by
  have hpos := t.interval_.micros_nonneg (h.built.symm.trans hrepeated)
  rw [AddSeconds]
  lia

structure Timely (queue : TimerQueue) (fired : List Firing) : Prop where
  index : forall f, f ∈ fired ->
    f.timerIndex = IndexOf f.timerIndex.timer_ f.timer
  due : forall f, f ∈ fired -> f.timer.expiration_ ≤ f.now
  asked : forall f, f ∈ fired -> exists i, i ∈ queue.issued ∧
    i.timer_ = f.timerIndex.timer_ ∧ i.sequence_ = f.timer.sequence_ ∧
    i.expiration_ ≤ f.now
  apart : fired.Pairwise fun f g =>
    f.timer.sequence_ = g.timer.sequence_ ->
      f.timer.repeated_ = true ∧ g.timer.interval_ = f.timer.interval_ ∧
        AddSeconds f.now f.timer.interval_ ≤ g.now

end Clock
end TimerQueue
end Reactor
end Wethands
