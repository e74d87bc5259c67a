import Wethands.Reactor.TimerQueue.Batch

/-!
# The descriptor and the earliest timer

`UpdateTimerfd` reads the clock twice.  When the expiration passes between the
two readings, the relative time is zero, which disarms the descriptor, or
negative, which the kernel refuses.  Otherwise every timer of the set has a
wake-up.
-/

namespace Wethands
namespace Reactor

open Foundation Utils

namespace TimerQueue

/-- The moment at which the kernel lets the descriptor expire. -/
def Arming.Deadline (arming : Arming) : Int :=
  arming.moment * Timestamp.kNanosecondsPerMicrosecond +
    arming.it_value.Nanoseconds

/--
A descriptor armed this way expires no later than the timer, or a microsecond
after it was armed when the timer had expired by then.
-/
structure Arming.Covers (arming : Arming) (expiration : Timestamp) : Prop where
  positive : 0 < arming.it_value.Nanoseconds
  deadline :
    arming.Deadline ≤ expiration * Timestamp.kNanosecondsPerMicrosecond ∨
      expiration ≤ arming.moment ∧ arming.Deadline ≤
        (arming.moment + 1) * Timestamp.kNanosecondsPerMicrosecond

def Wakes : Timerfd -> Timestamp -> Prop
  | Timerfd.disarmed, _ => False
  | Timerfd.armed arming, expiration => arming.Covers expiration
  | Timerfd.expired arming, expiration => arming.Covers expiration

def Armed (queue : TimerQueue) : Prop :=
  forall i, i ∈ queue.timers_ -> Wakes queue.timerfd_ i.expiration_

def Event.InTime : Event -> Prop
  | Event.updateTimerfd expiration _ (some again) => again < expiration
  | _ => True

instance (e : Event) : Decidable e.InTime := by
  unfold Event.InTime
  split <;> infer_instance

theorem Arming.Covers.mono {arming : Arming} {expiration later : Timestamp}
    (h : arming.Covers expiration) (hle : expiration ≤ later) :
    arming.Covers later where
  positive := h.positive
  deadline := by
    simp only [Timestamp.kNanosecondsPerMicrosecond]
    rcases h.deadline with hbefore | ⟨hpast, hsoon⟩
    · simp only [Timestamp.kNanosecondsPerMicrosecond] at hbefore
      exact Or.inl (by lia)
    · simp only [Timestamp.kNanosecondsPerMicrosecond] at hsoon
      by_cases hlater : later ≤ arming.moment
      · exact Or.inr ⟨hlater, hsoon⟩
      · exact Or.inl (by lia)

theorem Wakes.mono {timerfd : Timerfd} {expiration later : Timestamp}
    (h : Wakes timerfd expiration) (hle : expiration ≤ later) :
    Wakes timerfd later := by
  cases timerfd with
  | disarmed => exact h
  | armed arming => exact Arming.Covers.mono h hle
  | expired arming => exact Arming.Covers.mono h hle

/-- The first timer of the set speaks for all of them. -/
theorem armed_of_first {queue : TimerQueue} {first : TimerIndex}
    (hfirst : queue.timers_.elems.head? = some first)
    (h : Wakes queue.timerfd_ first.expiration_) : Armed queue := by
  intro i hi
  rcases OrderedSet.head_before hfirst hi with rfl | hless
  · exact h
  · apply h.mono
    rw [TimerIndex.less_iff] at hless
    lia

theorem armed_of_empty {queue : TimerQueue}
    (h : queue.timers_.elems.head? = none) : Armed queue :=
  fun _ hi => absurd hi (OrderedSet.elems_eq_nil h)

theorem Armed.of_subset {queue next : TimerQueue} (h : Armed queue)
    (htimers : forall i, i ∈ next.timers_ -> i ∈ queue.timers_)
    (htimerfd : next.timerfd_ = queue.timerfd_) : Armed next := by
  intro i hi
  rw [htimerfd]
  exact h i (htimers i hi)

section Clock

variable {clock : Nat -> Timestamp}

/-!
# One call of `UpdateTimerfd`
-/

theorem wakes_timerfdSettime (timerfd : Timerfd) {moment : Timestamp}
    {it_value : Timespec} {expiration : Timestamp}
    (hvalid : it_value.Valid)
    (hcovers : Arming.Covers { moment := moment, it_value := it_value }
      expiration) :
    Wakes (TimerfdSettime timerfd moment it_value) expiration := by
  have hne : it_value ≠ { tv_sec := 0, tv_nsec := 0 } := by
    intro hzero
    have hpositive := hcovers.positive
    simp [hzero, Timespec.Nanoseconds] at hpositive
  rw [TimerfdSettime, if_pos hvalid, if_neg hne]
  exact hcovers

theorem covers_timeDifference {expiration again : Timestamp}
    (h : again < expiration) :
    Arming.Covers
      { moment := again, it_value := TimeDifference expiration again }
      expiration := by
  have hnano := timeDifference_nanoseconds expiration again
  constructor
  · rw [hnano]
    lia
  · apply Or.inl
    simp only [Arming.Deadline, hnano, Timestamp.kNanosecondsPerMicrosecond]
    lia

theorem covers_microsecond {expiration now : Timestamp}
    (h : expiration ≤ now) :
    Arming.Covers
      { moment := now, it_value := { tv_sec := 0, tv_nsec := 1000 } }
      expiration := by
  constructor
  · simp [Timespec.Nanoseconds]
  · apply Or.inr
    refine ⟨h, ?_⟩
    simp only [Arming.Deadline, Timespec.Nanoseconds,
      Timestamp.kNanosecondsPerMicrosecond]
    lia

theorem updateTimerfd_wakes {queue : TimerQueue} {expiration : Timestamp}
    (h : forall e, e ∈ (UpdateTimerfd clock queue expiration).2 -> e.InTime) :
    Wakes (UpdateTimerfd clock queue expiration).1.timerfd_ expiration := by
  unfold UpdateTimerfd at h ⊢
  dsimp only at h ⊢
  split
  · rename_i hlt
    rw [if_pos hlt] at h
    have hagain : clock (queue.readings + 1) < expiration :=
      h _ (List.mem_singleton.mpr rfl)
    exact wakes_timerfdSettime queue.timerfd_
      (timeDifference_valid (Int.le_of_lt hagain))
      (covers_timeDifference hagain)
  · rename_i hle
    exact wakes_timerfdSettime queue.timerfd_ (by decide)
      (covers_microsecond (Int.not_lt.mp hle))

theorem updateTimerfd_timers (queue : TimerQueue) (expiration : Timestamp) :
    (UpdateTimerfd clock queue expiration).1.timers_ = queue.timers_ := by
  rcases updateTimerfd_frame clock queue expiration with ⟨_, _, _, h, _⟩
  rw [h]

/-!
# What each operation leaves armed
-/

theorem addTimerInLoop_armed {queue next : TimerQueue} {a : Address}
    {es : List Event} (h : Armed queue)
    (hcall : AddTimerInLoop clock queue a = Except.ok (next, es))
    (hintime : forall e, e ∈ es -> e.InTime) : Armed next := by
  rcases addTimerInLoop_arms hcall with ⟨t, _, hfind, rfl, rfl⟩
  intro i hi
  have hmem := (OrderedSet.mem_insert hfind).mp hi
  have harmed : forall e, e ∈ (ArmFor clock queue (IndexOf a t)).2 ->
      e.InTime := by
    intro e he
    exact hintime e (List.mem_append.mpr (Or.inl he))
  unfold ArmFor at harmed ⊢
  unfold Earliest at harmed ⊢
  cases hfirst : queue.timers_.elems.head? with
  | none =>
      simp only [hfirst, if_true] at harmed ⊢
      rcases hmem with rfl | hold
      · exact updateTimerfd_wakes harmed
      · exact absurd hold (OrderedSet.elems_eq_nil hfirst)
  | some first =>
      simp only [hfirst, decide_eq_true_eq] at harmed ⊢
      have hfirstMem := OrderedSet.head_mem hfirst
      by_cases hlt : (IndexOf a t).expiration_ < first.expiration_
      · -- The new timer comes first, and the others come later.
        rw [if_pos hlt] at harmed ⊢
        have hnew := updateTimerfd_wakes harmed
        rcases hmem with rfl | hold
        · exact hnew
        · apply hnew.mono
          rcases OrderedSet.head_before hfirst hold with rfl | hless
          · exact Int.le_of_lt hlt
          · rw [TimerIndex.less_iff] at hless
            lia
      · rw [if_neg hlt]
        rcases hmem with rfl | hold
        · exact (h first hfirstMem).mono (Int.not_lt.mp hlt)
        · exact h i hold

theorem cancelTimerInLoop_armed {queue next : TimerQueue} {i : TimerIndex}
    {es : List Event} (h : Armed queue)
    (hcall : CancelTimerInLoop queue i = Except.ok (next, es)) :
    Armed next := by
  rcases cancelTimerInLoop_eq_ok hcall with
    ⟨_, ⟨_, rfl⟩ | ⟨found, _, rfl⟩⟩
  · exact h
  · exact h.of_subset (fun j hj => (OrderedSet.mem_erase.mp hj).1) rfl

theorem runOp_armed {queue next : TimerQueue} {op : Op} {es : List Event}
    (h : Armed queue) (hcall : RunOp clock queue op = Except.ok (next, es))
    (hintime : forall e, e ∈ es -> e.InTime) : Armed next := by
  cases op with
  | addTimer timer request =>
      rcases then_eq_ok.mp hcall with ⟨made, es1, _, hnew, hrest, rfl⟩
      rcases then_eq_ok.mp hrest with ⟨added, es2, es3, hadd, hissue, rfl⟩
      rcases newTimer_eq_ok hnew with ⟨_, _, _, _, rfl, hnext⟩
      rcases issue_eq_ok hissue with ⟨_, _, rfl, rfl⟩
      have hmade : Armed made := by
        rw [hnext]
        exact h.of_subset (fun i hi => hi) rfl
      have hadded := addTimerInLoop_armed hmade hadd (by simpa using hintime)
      exact hadded.of_subset (fun i hi => hi) rfl
  | cancelTimer timerIndex =>
      simp only [RunOp, CancelTimer] at hcall
      split at hcall
      · exact cancelTimerInLoop_armed h hcall
      · cases hcall
  | remoteNewTimer timer request =>
      simp only [RunOp, RemoteNewTimer] at hcall
      rcases then_eq_ok.mp hcall with ⟨made, es1, _, hnew, hrest, rfl⟩
      rcases newTimer_eq_ok hnew with ⟨_, _, _, _, _, rfl⟩
      cases hrest
      exact h.of_subset (fun i hi => hi) rfl
  | remoteRunInLoop timer =>
      simp only [RunOp, RemoteRunInLoop] at hcall
      split at hcall
      · rcases then_eq_ok.mp hcall with ⟨issued, es1, _, hissue, hrest, rfl⟩
        rcases issue_eq_ok hissue with ⟨_, _, _, rfl⟩
        cases hrest
        exact h.of_subset (fun i hi => hi) rfl
      · cases hcall
  | remoteCancelTimer timerIndex =>
      simp only [RunOp, RemoteCancelTimer] at hcall
      split at hcall
      · cases hcall
        exact h.of_subset (fun i hi => hi) rfl
      · cases hcall

theorem rearm_armed {queue : TimerQueue}
    (hintime : forall e, e ∈ (Rearm clock queue).2 -> e.InTime) :
    Armed (Rearm clock queue).1 := by
  unfold Rearm at hintime ⊢
  cases hfirst : queue.timers_.elems.head? with
  | none => exact armed_of_empty hfirst
  | some first =>
      simp only [hfirst] at hintime ⊢
      have hhead : (UpdateTimerfd clock queue
          first.expiration_).1.timers_.elems.head? = some first := by
        rw [updateTimerfd_timers]
        exact hfirst
      exact armed_of_first hhead (updateTimerfd_wakes hintime)

theorem perform_armed {queue next : TimerQueue} {i : Input}
    {es : List Event} (h : Armed queue)
    (hcall : Perform clock queue i = Except.ok (next, es))
    (hintime : forall e, e ∈ es -> e.InTime) : Armed next := by
  cases i with
  | op op => exact runOp_armed h hcall hintime
  | runFunctor =>
      simp only [Perform, RunFunctor] at hcall
      split at hcall
      · cases hcall
      · refine addTimerInLoop_armed ?_ hcall hintime
        exact h.of_subset (fun i hi => hi) rfl
      · refine cancelTimerInLoop_armed ?_ hcall
        exact h.of_subset (fun i hi => hi) rfl
  | handleRead scripts =>
      rcases handleRead_eq_ok hcall with ⟨mid, es1, _, rfl, rfl⟩
      apply rearm_armed
      intro e he
      exact hintime e (List.mem_append.mpr (Or.inr he))
  | timerExpires =>
      simp only [Perform, TimerExpires] at hcall
      split at hcall
      · rename_i arming harmed
        cases hcall
        intro j hj
        have hwakes := h j hj
        rw [harmed] at hwakes
        exact hwakes
      · cases hcall

/--
While the clock does not pass an expiration between the two readings made for
it, the loop is woken in time for the first timer of the set.
-/
theorem armed_for_earliest {inputs : List Input} {queue : TimerQueue}
    {tr : List Event} {first : TimerIndex}
    (hrun : (QueueMachine clock).Run Init inputs = some (queue, tr))
    (hintime : forall e, e ∈ tr -> e.InTime)
    (hfirst : queue.timers_.elems.head? = some first) :
    Wakes queue.timerfd_ first.expiration_ := by
  have hinit : Armed Init := armed_of_empty rfl
  have harmed : Armed queue :=
    Machine.run_invariant_of_events (I := fun queue _ => Armed queue)
      (A := Event.InTime) (p := [])
      (fun s _ i t es hs hes hstep =>
        perform_armed hs (answer_eq_some.mp hstep) hes)
      hinit hintime hrun
  exact harmed first (OrderedSet.head_mem hfirst)

/-!
# An expiration between two readings

The first reading is 0 and the second one is 1, the expiration.  The relative
time is zero, and the only timer has nothing to wake the loop.
-/

def OneTimer : List Input :=
  [Input.op (Op.addTimer 1 (Request.runAt 1))]

theorem armedForEarliest_counterexample :
    ¬ forall (clock : Nat -> Timestamp) inputs queue tr first,
      (forall m n, m ≤ n -> clock m ≤ clock n) ->
      (QueueMachine clock).Run Init inputs = some (queue, tr) ->
      queue.timers_.elems.head? = some first ->
      Wakes queue.timerfd_ first.expiration_ := by
  intro hclaim
  have hmono : forall m n : Nat, m ≤ n -> (m : Timestamp) ≤ n :=
    fun m n h => Int.ofNat_le.mpr h
  exact hclaim (fun n => n) OneTimer _ _
    { timer_ := 1, expiration_ := 1, sequence_ := 1 } hmono rfl rfl

theorem armed_for_earliest_one :
    exists queue tr,
      (QueueMachine (fun _ => 0)).Run Init OneTimer = some (queue, tr) ∧
      Wakes queue.timerfd_ 1 := by
  refine ⟨_, _, rfl, ?_⟩
  exact @armed_for_earliest (fun _ => 0) OneTimer _ _
    { timer_ := 1, expiration_ := 1, sequence_ := 1 } rfl
    (by decide) rfl

end Clock
end TimerQueue
end Reactor
end Wethands
