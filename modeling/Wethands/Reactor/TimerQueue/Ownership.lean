import Mathlib.Data.List.Perm.Basic
import Wethands.Reactor.TimerQueue.Model

/-!
# Who owns a timer

Every timer on the heap has exactly one owner: the thread that has just
constructed it, a queued `AddTimerInLoop`, the set of timers, or the code that
is running.  The last kind is a parameter of the invariant, the `hands`.
-/

namespace Wethands
namespace Reactor

open Foundation Utils

namespace TimerQueue

def Functor.Timer? : Functor -> Option Address
  | Functor.addTimerInLoop timer => some timer
  | Functor.cancelTimerInLoop _ => none

def QueuedTimers (functors : List Functor) : List Address :=
  functors.filterMap Functor.Timer?

@[simp] theorem queuedTimers_nil : QueuedTimers [] = [] := rfl

@[simp] theorem queuedTimers_add (timer : Address) (rest : List Functor) :
    QueuedTimers (Functor.addTimerInLoop timer :: rest) =
      timer :: QueuedTimers rest := rfl

@[simp] theorem queuedTimers_cancel (timerIndex : TimerIndex)
    (rest : List Functor) :
    QueuedTimers (Functor.cancelTimerInLoop timerIndex :: rest) =
      QueuedTimers rest := rfl

@[simp] theorem queuedTimers_append (functors rest : List Functor) :
    QueuedTimers (functors ++ rest) =
      QueuedTimers functors ++ QueuedTimers rest :=
  List.filterMap_append

def Owners (queue : TimerQueue) (hands : List Address) : List Address :=
  hands ++ (queue.inFlight ++ (QueuedTimers queue.pendingFunctors_ ++
    queue.timers_.elems.map TimerIndex.timer_))

def LiveAt (queue : TimerQueue) (a : Address) (s : Nat) : Prop :=
  exists t, queue.heap a = some t ∧ t.sequence_ = s

/--
Sequence numbers start at 1, an index that was returned still points to its
timer while the timer is there, and it is only returned once the timer has been
queued or inserted.
-/
structure IssuedInvariant (queue : TimerQueue) : Prop where
  pos : forall a s, LiveAt queue a s -> 0 < s
  le : forall i, i ∈ queue.issued -> i.sequence_ ≤ queue.count_
  address : forall i a, i ∈ queue.issued -> LiveAt queue a i.sequence_ ->
    a = i.timer_
  flight : forall i a, i ∈ queue.issued -> a ∈ queue.inFlight ->
    ¬LiveAt queue a i.sequence_
  queued : forall i, Functor.cancelTimerInLoop i ∈ queue.pendingFunctors_ ->
    Circulates queue i

structure Good (queue : TimerQueue) (hands : List Address) : Prop where
  nodup : (Owners queue hands).Nodup
  live : forall a, a ∈ Owners queue hands <-> (queue.heap a).isSome = true
  index : forall i, i ∈ queue.timers_ ->
    exists t, queue.heap i.timer_ = some t ∧ i = IndexOf i.timer_ t
  sequence_le : forall a s, LiveAt queue a s -> s ≤ queue.count_
  sequence_inj : forall a b s, LiveAt queue a s -> LiveAt queue b s -> a = b

/-- The two invariants of the states between two steps of the running code. -/
def Sound (queue : TimerQueue) (hands : List Address) : Prop :=
  Good queue hands ∧ IssuedInvariant queue

theorem good_init : Good Init [] where
  nodup := by simp [Owners, Init, QueuedTimers, OrderedSet.Empty]
  live := by simp [Owners, Init, QueuedTimers, OrderedSet.Empty]
  index := by simp [Init, OrderedSet.Empty, OrderedSet.mem_def]
  sequence_le := by simp [Init, LiveAt]
  sequence_inj := by simp [Init, LiveAt]

theorem issuedInvariant_init : IssuedInvariant Init where
  pos := by simp [Init, LiveAt]
  le := by simp [Init]
  address := by simp [Init]
  flight := by simp [Init]
  queued := by simp [Init]

theorem sound_init : Sound Init [] :=
  ⟨good_init, issuedInvariant_init⟩

/-!
# The heap after one change
-/

theorem liveAt_of_heap_eq {queue next : TimerQueue} {a : Address} {s : Nat}
    (hheap : next.heap = queue.heap) :
    LiveAt next a s <-> LiveAt queue a s := by
  unfold LiveAt
  rw [hheap]

theorem liveAt_new {queue next : TimerQueue} {a b : Address} {t : Timer}
    {s : Nat} (hheap : next.heap = Function.update queue.heap a (some t)) :
    LiveAt next b s <->
      b = a ∧ t.sequence_ = s ∨ b ≠ a ∧ LiveAt queue b s := by
  unfold LiveAt
  rw [hheap]
  by_cases hb : b = a
  · subst hb
    simp
  · simp [hb]

theorem liveAt_delete {queue next : TimerQueue} {a b : Address} {s : Nat}
    (hheap : next.heap = Function.update queue.heap a none) :
    LiveAt next b s <-> b ≠ a ∧ LiveAt queue b s := by
  unfold LiveAt
  rw [hheap]
  by_cases hb : b = a
  · subst hb
    simp
  · simp [hb]

/-!
# Changes of hands
-/

theorem Good.move {queue next : TimerQueue} {hands hands' : List Address}
    (h : Good queue hands)
    (hheap : next.heap = queue.heap) (hcount : next.count_ = queue.count_)
    (hindex : forall i, i ∈ next.timers_ ->
      exists t, queue.heap i.timer_ = some t ∧ i = IndexOf i.timer_ t)
    (hperm : (Owners next hands').Perm (Owners queue hands)) :
    Good next hands' where
  nodup := hperm.nodup_iff.mpr h.nodup
  live := by
    intro a
    rw [hperm.mem_iff, hheap]
    exact h.live a
  index := by rw [hheap]; exact hindex
  sequence_le := by
    intro a s hs
    rw [hcount]
    exact h.sequence_le a s ((liveAt_of_heap_eq hheap).mp hs)
  sequence_inj := by
    intro a b s ha hb
    exact h.sequence_inj a b s ((liveAt_of_heap_eq hheap).mp ha)
      ((liveAt_of_heap_eq hheap).mp hb)

theorem Good.set_timerfd {queue : TimerQueue} {hands : List Address}
    (h : Good queue hands) (timerfd : Timerfd) (readings : Nat) :
    Good { queue with timerfd_ := timerfd, readings := readings } hands :=
  ⟨h.nodup, h.live, h.index, h.sequence_le, h.sequence_inj⟩

def Outside (queue : TimerQueue) (hands : List Address) : List Address :=
  hands ++ queue.inFlight ++ QueuedTimers queue.pendingFunctors_

theorem owners_eq (queue : TimerQueue) (hands : List Address) :
    Owners queue hands = Outside queue hands ++
      queue.timers_.elems.map TimerIndex.timer_ := by
  simp [Owners, Outside, List.append_assoc]

theorem mem_owners {queue : TimerQueue} {hands : List Address} {b : Address} :
    b ∈ Owners queue hands <-> b ∈ Outside queue hands ∨
      exists i, i ∈ queue.timers_ ∧ i.timer_ = b := by
  rw [owners_eq, List.mem_append, List.mem_map]
  rfl

theorem mem_owners_of_mem {queue : TimerQueue} {hands : List Address}
    {i : TimerIndex} (hi : i ∈ queue.timers_) :
    i.timer_ ∈ Owners queue hands :=
  mem_owners.mpr (Or.inr ⟨i, hi, rfl⟩)

theorem Good.not_outside {queue : TimerQueue} {hands : List Address}
    (h : Good queue hands) {i : TimerIndex} (hi : i ∈ queue.timers_) :
    i.timer_ ∉ Outside queue hands := by
  have hnodup := h.nodup
  rw [owners_eq] at hnodup
  intro hout
  exact (List.nodup_append.mp hnodup).2.2 _ hout _
    (List.mem_map.mpr ⟨i, hi, rfl⟩) rfl

theorem Good.not_mem_of_hand {queue : TimerQueue} {hands : List Address}
    {a : Address} (h : Good queue (a :: hands)) : a ∉ Owners queue hands :=
  (List.nodup_cons.mp h.nodup).1

theorem Good.hand_live {queue : TimerQueue} {hands : List Address}
    {a : Address} (h : Good queue hands) (ha : a ∈ hands) :
    exists t, queue.heap a = some t :=
  Option.isSome_iff_exists.mp
    ((h.live a).mp (List.mem_append.mpr (Or.inl ha)))

theorem Good.index_eq {queue : TimerQueue} {hands : List Address}
    (h : Good queue hands) {i : TimerIndex} (hi : i ∈ queue.timers_)
    {a : Address} {t : Timer} (ha : queue.heap a = some t)
    (hseq : i.sequence_ = t.sequence_) : i = IndexOf a t := by
  rcases h.index i hi with ⟨u, hu, heq⟩
  have hsame : u.sequence_ = t.sequence_ := by
    rw [← hseq, heq]
    rfl
  have haddr : i.timer_ = a :=
    h.sequence_inj _ _ _ ⟨u, hu, hsame⟩ ⟨t, ha, rfl⟩
  rw [haddr, ha] at hu
  cases hu
  rw [← haddr]
  exact heq

/-- Neither index comes before the other: same expiration, same sequence. -/
theorem equivalent_iff {i j : TimerIndex} :
    OrderedSet.Equivalent TimerIndex.Less i j <->
      i.expiration_ = j.expiration_ ∧ i.sequence_ = j.sequence_ := by
  simp only [OrderedSet.Equivalent, TimerIndex.less_iff]
  lia

theorem Good.find_eq_none {queue : TimerQueue} {hands : List Address}
    {a : Address} {t : Timer} (h : Good queue (a :: hands))
    (ha : queue.heap a = some t) :
    queue.timers_.Find (IndexOf a t) = none := by
  apply OrderedSet.find_eq_none.mpr
  intro i hi hequiv
  have hsame := h.index_eq hi ha (equivalent_iff.mp hequiv).2
  apply h.not_mem_of_hand
  have hmem : i.timer_ ∈ Owners queue hands := mem_owners_of_mem hi
  rw [hsame] at hmem
  exact hmem

end TimerQueue
end Reactor
end Wethands
