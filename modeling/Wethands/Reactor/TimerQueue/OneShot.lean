import Wethands.Reactor.TimerQueue.Batch

/-!
# The timers of one component

A component of the loop adds one-shot timers on the loop thread and keeps their
numbers.  What others do to the queue inserts none of these timers, and none of
them comes back once it has expired.
-/

namespace Wethands
namespace Reactor

open Foundation Utils

namespace TimerQueue

/-- The timers numbered in `own` are not repeated and never left the loop. -/
structure OneShot (queue : TimerQueue) (own : List Nat) : Prop where
  le : forall s, s ∈ own -> s ≤ queue.count_
  once : forall a t, queue.heap a = some t -> t.sequence_ ∈ own ->
    t.repeated_ = false
  inside : forall a s,
    a ∈ queue.inFlight ++ QueuedTimers queue.pendingFunctors_ ->
    LiveAt queue a s -> s ∉ own

structure Spares (queue next : TimerQueue) (own : List Nat) : Prop where
  oneShot : OneShot next own
  mem : forall i, i ∈ next.timers_ -> i.sequence_ ∈ own -> i ∈ queue.timers_
  issued : forall i, i ∈ queue.issued -> i ∈ next.issued

theorem oneShot_init : OneShot Init [] where
  le := by simp
  once := by simp
  inside := by simp

variable {queue mid next : TimerQueue} {own : List Nat}

theorem Spares.refl (h : OneShot queue own) : Spares queue queue own :=
  ⟨h, fun _ hi _ => hi, fun _ hi => hi⟩

theorem Spares.trans (first : Spares queue mid own)
    (second : Spares mid next own) : Spares queue next own where
  oneShot := second.oneShot
  mem := fun i hi hown => first.mem i (second.mem i hi hown) hown
  issued := fun i hi => second.issued i (first.issued i hi)

theorem Spares.circulates (h : Spares queue next own) {i : TimerIndex}
    (hi : Circulates queue i) : Circulates next i :=
  hi.imp_right (h.issued i)

theorem OneShot.spares (h : OneShot queue own)
    (hheap : next.heap = queue.heap) (hcount : next.count_ = queue.count_)
    (hout : forall a,
      a ∈ next.inFlight ++ QueuedTimers next.pendingFunctors_ ->
      a ∈ queue.inFlight ++ QueuedTimers queue.pendingFunctors_)
    (hmem : forall i, i ∈ next.timers_ -> i.sequence_ ∈ own ->
      i ∈ queue.timers_)
    (hissued : forall i, i ∈ queue.issued -> i ∈ next.issued) :
    Spares queue next own where
  oneShot := by
    refine ⟨?_, ?_, ?_⟩
    · rw [hcount]
      exact h.le
    · rw [hheap]
      exact h.once
    · intro a s ha hs
      exact h.inside a s (hout a ha) ((liveAt_of_heap_eq hheap).mp hs)
  mem := hmem
  issued := hissued

theorem OneShot.spares_delete (h : OneShot queue own) {a : Address}
    (hheap : next.heap = Function.update queue.heap a none)
    (hcount : next.count_ = queue.count_)
    (hout : next.inFlight ++ QueuedTimers next.pendingFunctors_ =
      queue.inFlight ++ QueuedTimers queue.pendingFunctors_)
    (hmem : forall i, i ∈ next.timers_ -> i ∈ queue.timers_)
    (hissued : next.issued = queue.issued) :
    Spares queue next own where
  oneShot := by
    refine ⟨?_, ?_, ?_⟩
    · rw [hcount]
      exact h.le
    · intro b t ht
      rw [hheap] at ht
      by_cases hb : b = a
      · subst hb
        simp at ht
      · rw [Function.update_of_ne hb] at ht
        exact h.once b t ht
    · intro b s hb hs
      rw [hout] at hb
      exact h.inside b s hb ((liveAt_delete hheap).mp hs).2
  mem := fun i hi _ => hmem i hi
  issued := fun i hi => hissued ▸ hi

theorem OneShot.of_update (h : OneShot queue own) {a : Address} {t : Timer}
    (hheap : next.heap = Function.update queue.heap a (some t))
    (hother : t.sequence_ ∉ own) (hcount : queue.count_ ≤ next.count_)
    (hout : forall b,
      b ∈ next.inFlight ++ QueuedTimers next.pendingFunctors_ ->
      b = a ∨ b ∈ queue.inFlight ++ QueuedTimers queue.pendingFunctors_) :
    OneShot next own where
  le := fun s hs => Nat.le_trans (h.le s hs) hcount
  once := by
    intro b u hu hmem
    rw [hheap] at hu
    by_cases hb : b = a
    · subst hb
      rw [Function.update_self, Option.some.injEq] at hu
      exact absurd (hu ▸ hmem) hother
    · rw [Function.update_of_ne hb] at hu
      exact h.once b u hu hmem
  inside := by
    intro b s hb hs
    rcases (liveAt_new hheap).mp hs with ⟨_, rfl⟩ | ⟨hne, hold⟩
    · exact hother
    · exact h.inside b s ((hout b hb).resolve_left hne) hold

theorem OneShot.not_mem (h : OneShot queue own) {s : Nat}
    (hs : s = queue.count_ + 1) : s ∉ own := by
  intro hmem
  have hle := h.le s hmem
  omega

section Clock

variable {clock : Nat -> Timestamp} {a : Address} {es : List Event}

/-!
# Changes by others
-/

theorem newTimer_spares {request : Request} (h : OneShot queue own)
    (hcall : NewTimer clock queue a request = Except.ok (next, es)) :
    Spares queue next own := by
  rcases newTimer_eq_ok hcall with ⟨t, readings, hfree, hseq, rfl, rfl⟩
  refine ⟨h.of_update rfl (h.not_mem hseq) (Nat.le_succ _) ?_,
    fun i hi _ => hi, fun i hi => hi⟩
  exact fun b hb => Or.inr hb

theorem addTimerInLoop_spares (h : OneShot queue own)
    (hother : forall s, LiveAt queue a s -> s ∉ own)
    (hcall : AddTimerInLoop clock queue a = Except.ok (next, es)) :
    Spares queue next own := by
  rcases addTimerInLoop_eq_ok hcall with
    ⟨t, _, _, _, hheap, hfind, rfl, _, _⟩
  refine h.spares rfl rfl (fun b hb => hb) ?_ (fun i hi => hi)
  intro i hi hown
  rcases (OrderedSet.mem_insert hfind).mp hi with rfl | hold
  · exact absurd hown (hother _ ⟨t, hheap, rfl⟩)
  · exact hold

theorem issue_spares (h : OneShot queue own)
    (hcall : Issue queue a = Except.ok (next, es)) :
    Spares queue next own := by
  rcases issue_eq_ok hcall with ⟨t, _, _, rfl⟩
  exact h.spares rfl rfl (fun b hb => hb) (fun i hi _ => hi)
    (fun i hi => List.mem_cons_of_mem _ hi)

theorem delete_spares (h : OneShot queue own)
    (hcall : Delete queue a = Except.ok (next, es)) :
    Spares queue next own := by
  rcases delete_eq_ok hcall with ⟨_, rfl⟩
  exact h.spares_delete rfl rfl rfl (fun i hi => hi) rfl

theorem cancelTimerInLoop_spares {i : TimerIndex} (h : OneShot queue own)
    (hcall : CancelTimerInLoop queue i = Except.ok (next, es)) :
    Spares queue next own := by
  rcases cancelTimerInLoop_eq_ok hcall with
    ⟨_, ⟨_, rfl⟩ | ⟨found, _, rfl⟩⟩
  · exact Spares.refl h
  · exact h.spares_delete rfl rfl rfl
      (fun j hj => (OrderedSet.mem_erase.mp hj).1) rfl

theorem addTimer_spares {request : Request} (h : OneShot queue own)
    (hcall : AddTimer clock queue a request = Except.ok (next, es)) :
    Spares queue next own := by
  rcases then_eq_ok.mp hcall with ⟨made, _, _, hnew, hrest, _⟩
  rcases then_eq_ok.mp hrest with ⟨added, _, _, hadd, hissue, _⟩
  have hmade := newTimer_spares h hnew
  rcases newTimer_eq_ok hnew with ⟨t, readings, _, hseq, _, rfl⟩
  have hother : forall s, LiveAt { queue with
      count_ := queue.count_ + 1
      heap := Function.update queue.heap a (some t)
      readings := readings } a s -> s ∉ own := by
    intro s hs
    rcases (liveAt_new rfl).mp hs with ⟨_, rfl⟩ | ⟨hne, _⟩
    · exact h.not_mem hseq
    · exact absurd rfl hne
  have hadded := addTimerInLoop_spares hmade.oneShot hother hadd
  exact hmade.trans (hadded.trans (issue_spares hadded.oneShot hissue))

theorem remoteNewTimer_spares {request : Request} (h : OneShot queue own)
    (hcall : RemoteNewTimer clock queue a request = Except.ok (next, es)) :
    Spares queue next own := by
  rcases then_eq_ok.mp hcall with ⟨made, _, _, hnew, hrest, _⟩
  cases hrest
  rcases newTimer_eq_ok hnew with ⟨t, readings, _, hseq, _, rfl⟩
  refine ⟨h.of_update rfl (h.not_mem hseq) (Nat.le_succ _) ?_,
    fun i hi _ => hi, fun i hi => hi⟩
  exact fun b hb => List.mem_cons.mp hb

theorem remoteRunInLoop_spares (h : OneShot queue own)
    (hcall : RemoteRunInLoop queue a = Except.ok (next, es)) :
    Spares queue next own := by
  unfold RemoteRunInLoop at hcall
  split at hcall
  · rename_i hmem
    rcases then_eq_ok.mp hcall with ⟨issued, _, _, hissue, hrest, _⟩
    have hissued := issue_spares h hissue
    cases hrest
    refine hissued.trans (hissued.oneShot.spares rfl rfl ?_
      (fun i hi _ => hi) (fun i hi => hi))
    rcases issue_eq_ok hissue with ⟨t, _, _, rfl⟩
    intro b hb
    simp only [queuedTimers_append, queuedTimers_add, queuedTimers_nil,
      List.mem_append, List.mem_singleton] at hb ⊢
    rcases hb with hflight | hqueued | rfl
    · exact Or.inl (List.mem_of_mem_erase hflight)
    · exact Or.inr hqueued
    · exact Or.inl hmem
  · cases hcall

theorem runOp_spares {op : Op} (h : OneShot queue own)
    (hcall : RunOp clock queue op = Except.ok (next, es)) :
    Spares queue next own := by
  cases op with
  | addTimer timer request => exact addTimer_spares h hcall
  | cancelTimer timerIndex =>
      simp only [RunOp, CancelTimer] at hcall
      split at hcall
      · exact cancelTimerInLoop_spares h hcall
      · cases hcall
  | remoteNewTimer timer request => exact remoteNewTimer_spares h hcall
  | remoteRunInLoop timer => exact remoteRunInLoop_spares h hcall
  | remoteCancelTimer timerIndex =>
      simp only [RunOp, RemoteCancelTimer] at hcall
      split at hcall
      · cases hcall
        exact h.spares rfl rfl (by simp) (fun i hi _ => hi) (fun i hi => hi)
      · cases hcall

theorem runFunctor_spares (h : OneShot queue own)
    (hcall : RunFunctor clock queue = Except.ok (next, es)) :
    Spares queue next own := by
  unfold RunFunctor at hcall
  split at hcall
  · cases hcall
  · rename_i timer rest hpending
    have htaken : Spares queue { queue with pendingFunctors_ := rest } own := by
      refine h.spares rfl rfl ?_ (fun i hi _ => hi) (fun i hi => hi)
      intro b hb
      rw [hpending, queuedTimers_add]
      rw [List.mem_append] at hb ⊢
      exact hb.imp_right (List.mem_cons_of_mem _)
    refine htaken.trans (addTimerInLoop_spares htaken.oneShot ?_ hcall)
    intro s hs
    exact h.inside timer s (by simp [hpending]) hs
  · rename_i timerIndex rest hpending
    have htaken : Spares queue { queue with pendingFunctors_ := rest } own := by
      refine h.spares rfl rfl ?_ (fun i hi _ => hi) (fun i hi => hi)
      rw [hpending, queuedTimers_cancel]
      exact fun b hb => hb
    exact htaken.trans (cancelTimerInLoop_spares htaken.oneShot hcall)

/-!
# Expired timers
-/

theorem getExpired_spares (h : OneShot queue own) (now : Timestamp)
    (timerfd : Timerfd) (readings : Nat) :
    Spares queue
      (GetExpired { queue with timerfd_ := timerfd, readings := readings }
        now).2 own :=
  h.spares rfl rfl (fun _ hb => hb)
    (fun _ hi _ => (OrderedSet.mem_eraseBefore.mp hi).1) (fun _ hi => hi)

theorem restartOrDelete_spares {now : Timestamp} {i : TimerIndex}
    (h : OneShot queue own)
    (hcall : RestartOrDelete clock queue now i = Except.ok (next, es)) :
    Spares queue next own := by
  unfold RestartOrDelete at hcall
  split at hcall
  · cases hcall
  · rename_i t ht
    split at hcall
    · rename_i hrepeated
      have hother : t.sequence_ ∉ own := by
        intro hmem
        rw [h.once _ t ht hmem] at hrepeated
        cases hrepeated
      have hsame : (t.Restart now).sequence_ ∉ own := by
        rwa [Timer.restart_sequence]
      have hrestart : OneShot { queue with
          heap := Function.update queue.heap i.timer_
            (some (t.Restart now)) } own :=
        h.of_update rfl hsame (Nat.le_refl _) (fun b hb => Or.inr hb)
      have hadded := addTimerInLoop_spares hrestart ?_ hcall
      · exact ⟨hadded.oneShot, hadded.mem, hadded.issued⟩
      · intro s hs
        rcases (liveAt_new rfl).mp hs with ⟨_, rfl⟩ | ⟨hne, _⟩
        · exact hsame
        · exact absurd rfl hne
    · exact delete_spares h hcall

theorem rearm_spares (h : OneShot queue own) :
    Spares queue (Rearm clock queue).1 own := by
  rcases rearm_frame clock queue with ⟨timerfd, readings, es, hrearm, _⟩
  rw [hrearm]
  exact h.spares rfl rfl (fun b hb => hb) (fun i hi _ => hi) (fun i hi => hi)

theorem timerExpires_spares (h : OneShot queue own)
    (hcall : TimerExpires queue = Except.ok (next, es)) :
    Spares queue next own := by
  unfold TimerExpires at hcall
  split at hcall
  · cases hcall
    exact h.spares rfl rfl (fun b hb => hb) (fun i hi _ => hi)
      (fun i hi => hi)
  · cases hcall

end Clock
end TimerQueue
end Reactor
end Wethands
