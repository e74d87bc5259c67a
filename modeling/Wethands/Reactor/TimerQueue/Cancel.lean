import Wethands.Reactor.TimerQueue.Batch

/-!
# Cancelled timers

The caller keeps the first index of its timer, and the set is searched for it
by expiration and sequence.  A cancel reaches the timer when it is in the set
under that expiration.  It misses a timer whose `AddTimerInLoop` is still
queued, and a repeating timer that has been restarted since.
-/

namespace Wethands
namespace Reactor

open Foundation Utils

namespace TimerQueue

/-- An input that executes `CancelTimerInLoop` outside of `HandleRead`. -/
def ExecutesCancel (queue : TimerQueue) (timerIndex : TimerIndex)
    (i : Input) : Prop :=
  i = Input.op (Op.cancelTimer timerIndex) ∨
    i = Input.runFunctor ∧ exists rest,
      queue.pendingFunctors_ = Functor.cancelTimerInLoop timerIndex :: rest

def StaysCancelled (clock : Nat -> Timestamp) (queue : TimerQueue)
    (s : Nat) : Prop :=
  forall inputs next tr,
    (QueueMachine clock).Run queue inputs = some (next, tr) ->
    (forall i, i ∈ next.timers_ -> i.sequence_ ≠ s) ∧
      forall e, e ∈ tr -> e.Touches ≠ some s

/-- The timer has been added, and its expiration is still the index's. -/
structure UpToDate (queue : TimerQueue) (timerIndex : TimerIndex) : Prop where
  added : Functor.addTimerInLoop timerIndex.timer_ ∉ queue.pendingFunctors_
  expiration : exists t, queue.heap timerIndex.timer_ = some t ∧
    t.expiration_ = timerIndex.expiration_

section Clock

variable {clock : Nat -> Timestamp}

/-!
# A timer that was found
-/

def Gone (queue : TimerQueue) (s : Nat) : Prop :=
  s ≤ queue.count_ ∧ forall a, ¬LiveAt queue a s

theorem Gone.staysCancelled {queue : TimerQueue} {s : Nat}
    (h : Sound queue []) (hgone : Gone queue s) :
    StaysCancelled clock queue s := by
  intro inputs next tr hrun
  rcases run_keeps h hrun with ⟨hsound, honward⟩
  constructor
  · rintro i hi rfl
    rcases hsound.1.index i hi with ⟨t, ht, heq⟩
    have hlive : LiveAt next i.timer_ i.sequence_ :=
      ⟨t, ht, by rw [heq]; rfl⟩
    rcases honward.live _ _ hlive with hold | hnew
    · exact hgone.2 _ hold
    · exact Nat.not_lt.mpr hgone.1 hnew
  · intro e he htouches
    rcases honward.touched e s he htouches with ⟨a, hold⟩ | hnew
    · exact hgone.2 a hold
    · exact Nat.not_lt.mpr hgone.1 hnew

theorem mem_queuedTimers {functors : List Functor} {a : Address} :
    a ∈ QueuedTimers functors <-> Functor.addTimerInLoop a ∈ functors := by
  induction functors with
  | nil => simp
  | cons functor rest ih =>
      cases functor with
      | addTimerInLoop timer => simp [ih]
      | cancelTimerInLoop timerIndex => simp [ih]

theorem mem_timers_of_issued {queue : TimerQueue} {i : TimerIndex}
    (h : Sound queue []) (hissued : i ∈ queue.issued)
    (hlive : LiveAt queue i.timer_ i.sequence_)
    (hadded : Functor.addTimerInLoop i.timer_ ∉ queue.pendingFunctors_) :
    exists j, j ∈ queue.timers_ ∧ j.timer_ = i.timer_ ∧
      j.sequence_ = i.sequence_ := by
  rcases hlive with ⟨t, ht, hseq⟩
  have howner : i.timer_ ∈ Owners queue [] :=
    (h.1.live _).mpr (by rw [ht]; rfl)
  rcases mem_owners.mp howner with hout | ⟨j, hj, hsame⟩
  · simp only [Outside, List.nil_append, List.mem_append,
      mem_queuedTimers] at hout
    rcases hout with hflight | hqueued
    · exact absurd ⟨t, ht, hseq⟩ (h.2.flight i _ hissued hflight)
    · exact absurd hqueued hadded
  · refine ⟨j, hj, hsame, ?_⟩
    rcases h.1.index j hj with ⟨u, hu, heq⟩
    rw [hsame, ht] at hu
    cases hu
    rw [heq, ← hseq]
    rfl

/-- The expiration decides whether the index of an added timer finds it. -/
theorem mem_timers_of_upToDate {queue : TimerQueue} {i : TimerIndex}
    (h : Sound queue []) (hissued : i ∈ queue.issued)
    (hlive : LiveAt queue i.timer_ i.sequence_)
    (hupToDate : UpToDate queue i) : i ∈ queue.timers_ := by
  rcases mem_timers_of_issued h hissued hlive hupToDate.added with
    ⟨j, hj, hsame, hseq⟩
  rcases hupToDate.expiration with ⟨t, ht, hexpiration⟩
  rcases h.1.index j hj with ⟨u, hu, heq⟩
  rw [hsame, ht] at hu
  cases hu
  have hji : j = i := by
    cases i
    cases j
    simp only [IndexOf, TimerIndex.mk.injEq] at *
    exact ⟨hsame, heq.2.1.trans hexpiration, hseq⟩
  rwa [hji] at hj

theorem gone_of_found {queue next : TimerQueue} {i : TimerIndex}
    {es : List Event} (h : Sound queue [])
    (hlive : LiveAt queue i.timer_ i.sequence_) (hi : i ∈ queue.timers_)
    (hcall : CancelTimerInLoop queue i = Except.ok (next, es)) :
    Gone next i.sequence_ := by
  rcases cancelTimerInLoop_eq_ok hcall with
    ⟨_, ⟨hfind, _⟩ | ⟨found, hfind, rfl⟩⟩
  · exact absurd (equivalent_iff.mpr ⟨rfl, rfl⟩)
      (OrderedSet.find_eq_none.mp hfind i hi)
  · refine ⟨h.1.sequence_le _ _ hlive, ?_⟩
    intro a ha
    rcases (liveAt_delete rfl).mp ha with ⟨hne, hold⟩
    exact hne (h.1.sequence_inj _ _ _ hold hlive)

/-!
# A timer that is still queued
-/

theorem addTimerInLoop_ok (clock : Nat -> Timestamp) {queue : TimerQueue}
    {a : Address} {t : Timer} {hands : List Address}
    (h : Sound queue (a :: hands))
    (ht : queue.heap a = some t) :
    exists next es, AddTimerInLoop clock queue a = Except.ok (next, es) ∧
      Event.inserted (IndexOf a t) ∈ es := by
  unfold AddTimerInLoop
  simp only [ht, assert_eq_ok, insert_eq_true]
  exact ⟨_, _, ⟨h.1.find_eq_none ht, rfl⟩, by simp⟩

theorem delete_ok {queue : TimerQueue} {a : Address} {t : Timer}
    (ht : queue.heap a = some t) :
    Delete queue a = Except.ok
      ({ queue with heap := Function.update queue.heap a none }, []) := by
  simp [Delete, ht]

theorem cancelTimerInLoop_ok {queue : TimerQueue} {i : TimerIndex}
    {hands : List Address} (h : Sound queue hands)
    (hi : Circulates queue i) :
    exists next es, CancelTimerInLoop queue i = Except.ok (next, es) := by
  unfold CancelTimerInLoop
  cases hfind : queue.timers_.Find i with
  | none => exact ⟨_, _, rfl⟩
  | some found =>
      have hfound := find_of_circulates h hi hfind
      subst hfound
      rcases h.1.index found (OrderedSet.find_eq_some hfind).1 with ⟨t, ht, _⟩
      simp only [then_eq_ok]
      exact ⟨_, _, _, _, _, rfl, delete_ok ht, rfl⟩

structure Waits (queue : TimerQueue) (a : Address) (t : Timer) : Prop where
  sound : Sound queue []
  heap : queue.heap a = some t
  queued : Functor.addTimerInLoop a ∈ queue.pendingFunctors_

theorem Waits.runFunctor (clock : Nat -> Timestamp) {queue : TimerQueue}
    {a : Address} {t : Timer} {functor : Functor} {rest : List Functor}
    (h : Waits queue a t)
    (hpending : queue.pendingFunctors_ = functor :: rest) :
    exists next es,
      RunFunctor clock queue = Except.ok (next, es) ∧
      (Event.inserted (IndexOf a t) ∈ es ∨
        Waits next a t ∧ next.pendingFunctors_ = rest) := by
  have hqueued := h.queued
  rw [hpending] at hqueued
  cases functor with
  | addTimerInLoop timer =>
      have htaken := h.sound.takeAdd hpending
      rcases htaken.1.hand_live (List.mem_singleton.mpr rfl) with ⟨u, hu⟩
      rcases addTimerInLoop_ok clock htaken hu with
        ⟨next, es, hcall, hinserted⟩
      refine ⟨next, es, by simpa [RunFunctor, hpending] using hcall, ?_⟩
      rcases List.mem_cons.mp hqueued with heq | hrest
      · cases heq
        have hsame : some u = some t := hu.symm.trans h.heap
        cases hsame
        exact Or.inl hinserted
      · apply Or.inr
        rcases addTimerInLoop_eq_ok hcall with ⟨_, _, _, _, _, _, hnext, _, _⟩
        have hkept := addTimerInLoop_keeps htaken hcall
        have hsteady : next.pendingFunctors_ = rest := by rw [hnext]
        refine ⟨⟨hkept.1, ?_, by rwa [hsteady]⟩, hsteady⟩
        rw [addTimerInLoop_heap hcall]
        exact h.heap
  | cancelTimerInLoop timerIndex =>
      rcases h.sound.takeCancel hpending with ⟨htaken, hcirculates⟩
      rcases cancelTimerInLoop_ok htaken hcirculates with ⟨next, es, hcall⟩
      refine ⟨next, es, by simpa [RunFunctor, hpending] using hcall, ?_⟩
      have hrest : Functor.addTimerInLoop a ∈ rest := by
        simpa using hqueued
      have hkept := cancelTimerInLoop_keeps htaken hcirculates hcall
      apply Or.inr
      rcases cancelTimerInLoop_eq_ok hcall with
        ⟨_, ⟨_, rfl⟩ | ⟨found, hfind, rfl⟩⟩
      · exact ⟨⟨hkept.1, h.heap, hrest⟩, rfl⟩
      · refine ⟨⟨hkept.1, ?_, hrest⟩, rfl⟩
        -- What is found in the set is not waiting in the queue.
        have hfound := find_of_circulates htaken hcirculates hfind
        subst hfound
        have hne : a ≠ found.timer_ := by
          rintro rfl
          apply h.sound.1.not_outside (OrderedSet.find_eq_some hfind).1
          simp only [Outside, List.mem_append, mem_queuedTimers]
          exact Or.inr h.queued
        exact (Function.update_of_ne hne _ _).trans h.heap

theorem Waits.exists_run_inserting {queue : TimerQueue} {a : Address}
    {t : Timer} (h : Waits queue a t) :
    exists inputs next tr,
      (QueueMachine clock).Run queue inputs = some (next, tr) ∧
      Event.inserted (IndexOf a t) ∈ tr := by
  generalize hpending : queue.pendingFunctors_ = functors
  induction functors generalizing queue with
  | nil =>
      have hqueued := h.queued
      rw [hpending] at hqueued
      cases hqueued
  | cons functor rest ih =>
      rcases h.runFunctor clock hpending with
        ⟨mid, es, hcall, hcase⟩
      have hstep := Machine.run_singleton (M := QueueMachine clock)
        (i := Input.runFunctor) (answer_eq_some.mpr hcall)
      rcases hcase with hinserted | ⟨hwaits, hrest⟩
      · exact ⟨_, mid, es, hstep, hinserted⟩
      · rcases ih hwaits hrest with ⟨inputs, next, tr, hrun, hinserted⟩
        exact ⟨_, next, es ++ tr, Machine.run_append hstep hrun,
          List.mem_append.mpr (Or.inr hinserted)⟩

/-!
# Which cancels take effect
-/

theorem executesCancel_call {queue next : TimerQueue} {idx : TimerIndex}
    {i : Input} {es : List Event} (h : Sound queue [])
    (hcancel : ExecutesCancel queue idx i)
    (hstep : (QueueMachine clock).Step queue i = some (next, es)) :
    exists start, Sound start [] ∧ CancelTimerInLoop start idx =
      Except.ok (next, es) ∧ Circulates start idx ∧
      start.heap = queue.heap ∧ start.timers_ = queue.timers_ ∧
      forall a, Functor.addTimerInLoop a ∈ queue.pendingFunctors_ ->
        Functor.addTimerInLoop a ∈ start.pendingFunctors_ := by
  have hcall := answer_eq_some.mp hstep
  rcases hcancel with rfl | ⟨rfl, rest, hpending⟩
  · simp only [Perform, RunOp, CancelTimer] at hcall
    split at hcall
    · exact ⟨queue, h, hcall, ‹_›, rfl, rfl, fun a ha => ha⟩
    · cases hcall
  · simp only [Perform, RunFunctor, hpending] at hcall
    rcases h.takeCancel hpending with ⟨htaken, hcirculates⟩
    refine ⟨_, htaken, hcall, hcirculates, rfl, rfl, ?_⟩
    intro a ha
    simpa [hpending] using ha

theorem staysCancelled_of_upToDate {start next : TimerQueue}
    {idx : TimerIndex} {es : List Event} (h : Sound start [])
    (hlive : LiveAt start idx.timer_ idx.sequence_)
    (hidx : idx ∈ start.timers_) (hcirculates : Circulates start idx)
    (hcall : CancelTimerInLoop start idx = Except.ok (next, es)) :
    StaysCancelled clock next idx.sequence_ :=
  (gone_of_found h hlive hidx hcall).staysCancelled
    (cancelTimerInLoop_keeps h hcirculates hcall).1

/-- The cancel finds nothing, and the set keeps the timer. -/
theorem cancelTimerInLoop_misses {start next : TimerQueue}
    {idx : TimerIndex} {es : List Event} (h : Sound start [])
    (hcirculates : Circulates start idx) (hidx : idx ∉ start.timers_)
    (hcall : CancelTimerInLoop start idx = Except.ok (next, es)) :
    next = start := by
  rcases cancelTimerInLoop_eq_ok hcall with
    ⟨_, ⟨_, hnext⟩ | ⟨found, hfind, _⟩⟩
  · exact hnext
  · have hfound := find_of_circulates h hcirculates hfind
    subst hfound
    exact absurd (OrderedSet.find_eq_some hfind).1 hidx

/--
A cancel of a live timer that is executed outside of `HandleRead` lasts exactly
when the timer has been added and has not changed its expiration since its
index was handed out.
-/
theorem staysCancelled_iff {inputs : List Input} {queue next : TimerQueue}
    {tr es : List Event} {idx : TimerIndex} {i : Input}
    (hrun : (QueueMachine clock).Run Init inputs = some (queue, tr))
    (hissued : idx ∈ queue.issued)
    (hlive : LiveAt queue idx.timer_ idx.sequence_)
    (hcancel : ExecutesCancel queue idx i)
    (hstep : (QueueMachine clock).Step queue i = some (next, es)) :
    StaysCancelled clock next idx.sequence_ <-> UpToDate queue idx := by
  have h := reached_sound hrun
  rcases executesCancel_call h hcancel hstep with
    ⟨start, hstart, hcall, hcirculates, hheap, htimers, hpending⟩
  constructor
  · intro hstays
    have hadded : Functor.addTimerInLoop idx.timer_ ∉
        queue.pendingFunctors_ := by
      intro hqueued
      have hidx : idx ∉ start.timers_ := by
        intro hidx
        apply hstart.1.not_outside hidx
        simp only [Outside, List.mem_append, mem_queuedTimers]
        exact Or.inr (hpending _ hqueued)
      have hsame := cancelTimerInLoop_misses hstart hcirculates hidx hcall
      subst hsame
      rcases hlive with ⟨t, ht, hseq⟩
      have hwaits : Waits next idx.timer_ t :=
        ⟨hstart, by rw [hheap, ht], hpending _ hqueued⟩
      rcases hwaits.exists_run_inserting with
        ⟨more, last, tail, hmore, hinserted⟩
      exact (hstays more last tail hmore).2 _ hinserted
        (by simp [Event.Touches, IndexOf, hseq])
    refine ⟨hadded, ?_⟩
    rcases mem_timers_of_issued h hissued hlive hadded with
      ⟨j, hj, hsame, hseq⟩
    rcases h.1.index j hj with ⟨t, ht, heq⟩
    rw [hsame] at ht
    refine ⟨t, ht, ?_⟩
    by_contra hne
    have hidx : idx ∉ start.timers_ := by
      intro hidx
      rw [htimers] at hidx
      have hji := h.1.index_of_timer hidx hj hsame
      apply hne
      rw [← hji, heq]
      rfl
    have hnext := cancelTimerInLoop_misses hstart hcirculates hidx hcall
    subst hnext
    exact (hstays [] next [] rfl).1 j (by rw [htimers]; exact hj) hseq
  · intro hupToDate
    have hidx := mem_timers_of_upToDate h hissued hlive hupToDate
    rw [← htimers] at hidx
    exact staysCancelled_of_upToDate hstart
      ((liveAt_of_heap_eq hheap).mpr hlive) hidx hcirculates hcall

/-!
# A repeating timer after its first firing

The timer was added for 1000000, ran, and went back under 2000000.  The cancel
with the index that `AddTimer` returned finds nothing.
-/

def OneSecondClock (n : Nat) : Timestamp :=
  if n < 3 then 0 else 1000000

theorem second_nonneg (_ : true = true) : (0 : Int) ≤ 1000000 := by
  decide

def EverySecond : Request :=
  Request.runEvery
    { positive := true, micros := 1000000, micros_nonneg := second_nonneg }

def FirstIndex : TimerIndex where
  timer_ := 1
  expiration_ := 1000000
  sequence_ := 1

theorem cancelAfterFiring_counterexample :
    ¬ forall (clock : Nat -> Timestamp) inputs queue tr idx i next es,
      (QueueMachine clock).Run Init inputs = some (queue, tr) ->
      idx ∈ queue.issued -> LiveAt queue idx.timer_ idx.sequence_ ->
      ExecutesCancel queue idx i ->
      (QueueMachine clock).Step queue i = some (next, es) ->
      StaysCancelled clock next idx.sequence_ := by
  intro hclaim
  have hstays := hclaim OneSecondClock
    [Input.op (Op.addTimer 1 EverySecond), Input.timerExpires,
      Input.handleRead []] _ _ FirstIndex
    (Input.op (Op.cancelTimer FirstIndex)) _ _ rfl (by decide)
    ⟨_, rfl, rfl⟩ (Or.inl rfl) rfl
  exact (hstays [] _ [] rfl).1
    { timer_ := 1, expiration_ := 2000000, sequence_ := 1 }
    (List.mem_singleton.mpr rfl) rfl

theorem staysCancelled_before_firing :
    exists queue next tr es,
      (QueueMachine OneSecondClock).Run Init
        [Input.op (Op.addTimer 1 EverySecond)] = some (queue, tr) ∧
      (QueueMachine OneSecondClock).Step queue
        (Input.op (Op.cancelTimer FirstIndex)) = some (next, es) ∧
      StaysCancelled OneSecondClock next 1 := by
  refine ⟨_, _, _, _, rfl, rfl, ?_⟩
  exact (@staysCancelled_iff OneSecondClock
    [Input.op (Op.addTimer 1 EverySecond)] _ _ _ _ FirstIndex
    (Input.op (Op.cancelTimer FirstIndex)) rfl (by decide) ⟨_, rfl, rfl⟩
    (Or.inl rfl) rfl).mpr ⟨by decide, _, rfl, rfl⟩

end Clock
end TimerQueue
end Reactor
end Wethands
