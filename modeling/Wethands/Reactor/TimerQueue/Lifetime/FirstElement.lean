import Wethands.Reactor.TimerQueue.Lifetime.Steps

/-!
# Reads of the first timer

`AddTimerInLoop` compares with the element at `timers_.begin()` before it asks
whether there is one.  The machine here takes the steps of the timer queue and
emits, for every time that `AddTimerInLoop` or the end of `HandleRead`
dereferences an iterator from `begin`, the element that it points to, or
nothing at the end of the set.
-/

namespace Wethands
namespace Reactor

open Foundation Utils

namespace TimerQueue

namespace Lifetime

/-- The timer that a step of the loop thread hands to `AddTimerInLoop`. -/
def Added? (world : World) : Input -> Option TimerIndex
  | Input.loopRunInLoop =>
      match world.phase, world.adding with
      | Phase.serving, some (Adding.constructed timer) => some timer
      | _, _ => none
  | Input.runFunctor =>
      match world.functors with
      | Functor.addTimerInLoop timer :: _ => some timer
      | _ => none
  | Input.finishTimer =>
      match world.batch with
      | some ⟨_, some timer, _⟩ =>
          if EndsWithCallback world.queue timer = true then none
          else some timer
      | _ => none
  | _ => none

/-- The new timer is read, and then the first one is, if there is one or not. -/
def AddReads (queue : TimerQueue) (timer : TimerIndex) :
    List (Option TimerIndex) :=
  if Valid queue timer then [queue.timers_.elems.head?] else []

/-- At its end `HandleRead` asks first. -/
def RearmReads (queue : TimerQueue) : List (Option TimerIndex) :=
  if queue.timers_.elems = [] then [] else [queue.timers_.elems.head?]

/--
`CancelTimerInLoop` dereferences no iterator.  `GetExpired` copies from
`begin()` on only where the range is not empty, and then the set is not.
-/
def Reads (world : World) (i : Input) : List (Option TimerIndex) :=
  match Added? world i with
  | some timer => AddReads world.queue timer
  | none =>
      match i with
      | Input.finishRead => RearmReads world.queue
      | _ => []

def BeginMachine (clock : Nat -> Timestamp) :
    Machine World Input (Option TimerIndex) where
  Step world i :=
    ((LifetimeMachine clock).Step world i).map (fun last =>
      (last.1, Reads world i))

/-- The step gets to the comparison of `AddTimerInLoop`. -/
def Compares (world : World) (i : Input) : Prop :=
  exists timer, timer ∈ Added? world i ∧ Valid world.queue timer

instance (world : World) (i : Input) : Decidable (Compares world i) :=
  inferInstanceAs (Decidable (exists timer, timer ∈ Added? world i ∧ _))

def HasFirst (world : World) (i : Input) : Prop :=
  Compares world i -> world.queue.timers_.elems ≠ []

instance (world : World) (i : Input) : Decidable (HasFirst world i) :=
  inferInstanceAs (Decidable (_ -> _))

/-!
# One step
-/

section Clock

variable {clock : Nat -> Timestamp} {world next : World} {i : Input}
  {timer : TimerIndex}

theorem beginMachine_step {es : List (Option TimerIndex)}
    (hstep : (BeginMachine clock).Step world i = some (next, es)) :
    es = Reads world i ∧ world.phase ≠ Phase.aborted ∧
      exists es', Perform clock world i = some (next, es') := by
  rcases Option.map_eq_some_iff.mp hstep with ⟨⟨last, es'⟩, hlast, heq⟩
  cases heq
  simp only [LifetimeMachine] at hlast
  split at hlast
  · cases hlast
  · exact ⟨rfl, ‹_›, es', hlast⟩

theorem addReads_found_iff {queue : TimerQueue} :
    (forall found, found ∈ AddReads queue timer -> found ≠ none) <->
      (Valid queue timer -> queue.timers_.elems ≠ []) := by
  unfold AddReads
  split
  · rename_i hvalid
    simp [hvalid, List.head?_eq_none_iff]
  · rename_i hinvalid
    simp [hinvalid]

theorem rearmReads_found {queue : TimerQueue} :
    forall found, found ∈ RearmReads queue -> found ≠ none := by
  unfold RearmReads
  split
  · simp
  · rename_i hne
    simpa [List.head?_eq_none_iff] using hne

/-- `AddTimerInLoop` is the only code that may read behind the last element. -/
theorem reads_found_iff :
    (forall found, found ∈ Reads world i -> found ≠ none) <->
      HasFirst world i := by
  unfold HasFirst Compares Reads
  cases hadded : Added? world i with
  | some timer =>
      simpa using addReads_found_iff
  | none =>
      simp only [reduceCtorEq, Option.mem_def, false_and, exists_false,
        false_imp_iff, iff_true]
      split
      · exact rearmReads_found
      · simp

/-!
# As long as nothing is compared, nothing is added
-/

/-- There is no timer in the set or in the batch. -/
def Vacant (world : World) : Prop :=
  world.queue.timers_.elems = [] ∧ Held world.batch = []

def LeavesVacant (result : Result) : Prop :=
  forall next es, result = some (next, es) -> Vacant next

theorem leavesVacant_follow {e : Event} {result : Result} (h : Vacant world)
    (hresult : Valid world.queue timer -> LeavesVacant result) :
    LeavesVacant (Follow world timer e result) :=
  brings_follow h hresult

theorem leavesVacant_addTimerInLoop (h : Vacant world)
    (hinvalid : ¬Valid world.queue timer) :
    LeavesVacant (AddTimerInLoop clock world timer) :=
  leavesVacant_follow h (fun hvalid => absurd hvalid hinvalid)

theorem leavesVacant_readSequence (h : Vacant world) :
    LeavesVacant (ReadSequence world timer) := by
  refine leavesVacant_follow h (fun _ => ?_)
  intro next es hnext
  rcases Option.map_eq_some_iff.mp hnext with ⟨object, _, heq⟩
  cases heq
  exact h

theorem leavesVacant_cancelTimerInLoop (h : Vacant world) :
    LeavesVacant (CancelTimerInLoop world timer) := by
  unfold CancelTimerInLoop
  split
  · rename_i queue tr hcall
    apply brings_some
    rcases cancelTimerInLoop_eq_ok hcall with
      ⟨_, ⟨_, rfl⟩ | ⟨found, hfind, _⟩⟩
    · exact h
    · have hmem := (OrderedSet.find_eq_some hfind).1
      rw [OrderedSet.mem_def, h.1] at hmem
      cases hmem
  · exact brings_some h

theorem newTimer_vacant {made : World} {a : Address} {request : Request}
    (h : Vacant world)
    (hmade : NewTimer clock world a request = some (made, timer)) :
    Vacant made := by
  rcases newTimer_eq_some hmade with ⟨queue, tr, object, hcall, _, rfl, _⟩
  rcases newTimer_eq_ok hcall with ⟨t, readings, _, _, _, rfl⟩
  exact h

theorem leavesVacant_perform (h : Vacant world) (hnot : ¬Compares world i) :
    LeavesVacant (Perform clock world i) := by
  have hadded : forall timer, timer ∈ Added? world i ->
      ¬Valid world.queue timer :=
    fun timer htimer hvalid => hnot ⟨timer, htimer, hvalid⟩
  cases i with
  | remoteNewTimer a request =>
      show LeavesVacant (RemoteNewTimer clock world a request)
      unfold RemoteNewTimer
      split
      · exact brings_none
      · intro next es hnext
        rcases Option.map_eq_some_iff.mp hnext with ⟨⟨made, _⟩, hmade, heq⟩
        have hvacant := newTimer_vacant h hmade
        cases heq
        exact hvacant
  | remoteRunInLoop timer =>
      exact brings_if fun _ => brings_some h
  | remoteReadSequence timer =>
      exact brings_if fun _ => leavesVacant_readSequence h
  | remoteCancelTimer timerIndex =>
      exact brings_if fun _ => brings_some h
  | loopNewTimer a request =>
      refine brings_if fun _ => ?_
      intro next es hnext
      rcases Option.map_eq_some_iff.mp hnext with ⟨⟨made, _⟩, hmade, heq⟩
      have hvacant := newTimer_vacant h hmade
      cases heq
      exact hvacant
  | loopRunInLoop =>
      show LeavesVacant (LoopRunInLoop clock world)
      unfold LoopRunInLoop
      split
      · rename_i timer hphase hadding
        exact leavesVacant_addTimerInLoop h
          (hadded timer (by simp [Added?, hphase, hadding]))
      · exact brings_none
  | loopReadSequence =>
      show LeavesVacant (LoopReadSequence world)
      unfold LoopReadSequence
      split
      · exact leavesVacant_readSequence h
      · exact brings_none
  | loopCancelTimer timerIndex =>
      exact brings_if fun _ => leavesVacant_cancelTimerInLoop h
  | runFunctor =>
      refine brings_if fun _ => ?_
      split
      · exact brings_none
      · rename_i timer rest hfunctors
        exact leavesVacant_addTimerInLoop h
          (hadded timer (by simp [Added?, hfunctors]))
      · exact leavesVacant_cancelTimerInLoop h
  | handleRead =>
      refine brings_if fun _ => brings_some ?_
      simp [Vacant, Held, GetExpired, OrderedSet.Before,
        OrderedSet.EraseBefore, h.1]
  | runTimer =>
      show LeavesVacant (RunTimer world)
      unfold RunTimer
      split
      · rename_i hbatch
        have hheld := h.2
        simp [hbatch, Held] at hheld
      · exact brings_none
  | finishTimer =>
      show LeavesVacant (FinishTimer clock world)
      unfold FinishTimer
      split
      · rename_i hbatch
        have hheld := h.2
        simp [hbatch, Held] at hheld
      · exact brings_none
  | finishRead =>
      show LeavesVacant (FinishRead clock world)
      unfold FinishRead
      split
      · refine brings_if fun _ => brings_some ?_
        rcases rearm_frame clock world.queue with ⟨_, _, _, hrearm, _⟩
        rw [hrearm]
        exact ⟨h.1, rfl⟩
      · exact brings_none
  | destroy =>
      exact brings_if fun _ => brings_some ⟨rfl, h.2⟩
  | destroyNext =>
      show LeavesVacant (DestroyNext world)
      unfold DestroyNext
      split
      · refine leavesVacant_follow h (fun _ => ?_)
        intro next es hnext
        rcases inQueue_eq_some hnext with ⟨queue, tr, hcall, rfl, _⟩
        rw [(delete_eq_ok hcall).2]
        exact h
      · exact brings_none
  | destroyEnd =>
      show LeavesVacant (DestroyEnd world)
      unfold DestroyEnd
      split
      · exact brings_some h
      · exact brings_none

/-!
# Runs
-/

/--
Each dereferenced iterator points to a timer in exactly the runs that add no
timer to an empty set.  The set starts out empty, so from the start these are
the runs that add no timer at all.
-/
theorem first_read_iff {before inputs : List Input} {start last : World}
    {earlier tr : List (Option TimerIndex)}
    (hstart : (BeginMachine clock).Run Init before = some (start, earlier))
    (hrun : (BeginMachine clock).Run start inputs = some (last, tr)) :
    ((forall found, found ∈ tr -> found ≠ none) <->
      (BeginMachine clock).Guarded HasFirst start inputs) ∧
    ((forall found, found ∈ earlier -> found ≠ none) <->
      (BeginMachine clock).Guarded (fun world i => ¬Compares world i)
        Init before) := by
  have hstep : forall s i t es,
      (BeginMachine clock).Step s i = some (t, es) ->
      ((forall found, found ∈ es -> found ≠ none) <-> HasFirst s i) := by
    intro s i t es hone
    rw [(beginMachine_step hone).1]
    exact reads_found_iff
  refine ⟨Machine.events_iff_guarded hstep hrun, ?_⟩
  rw [Machine.events_iff_guarded hstep hstart]
  apply Machine.Guarded.congr (I := Vacant) (G := fun _ _ => True)
  · intro world i hvacant _
    simp [HasFirst, hvacant.1]
  · intro world i next es hvacant _ hnot hone
    rcases (beginMachine_step hone).2.2 with ⟨es', hperform⟩
    exact leavesVacant_perform hvacant hnot next es' hperform
  · exact ⟨rfl, rfl⟩
  · exact Machine.guarded_of_forall (fun _ _ => trivial) _ _

/-!
# The first timer and the second one
-/

def SecondsClock (n : Nat) : Timestamp :=
  1000000 * n

def AddAt15 (timer : Address) : List Input :=
  [Input.loopNewTimer timer (Request.runAt 15), Input.loopRunInLoop,
    Input.loopReadSequence]

theorem first_read_counterexample :
    ¬ forall (clock : Nat -> Timestamp) inputs world tr,
      (BeginMachine clock).Run Init inputs = some (world, tr) ->
      forall found, found ∈ tr -> found ≠ none := by
  intro hclaim
  exact hclaim SecondsClock (AddAt15 1) _ [none] rfl none
    List.mem_cons_self rfl

theorem first_read_iff_second :
    exists start last,
      (BeginMachine SecondsClock).Run Init (AddAt15 1) =
        some (start, [none]) ∧
      (BeginMachine SecondsClock).Run start (AddAt15 2) =
        some (last, [some ⟨1, 15, 1⟩]) ∧
      (BeginMachine SecondsClock).Guarded HasFirst start (AddAt15 2) ∧
      ¬(BeginMachine SecondsClock).Guarded
        (fun world i => ¬Compares world i) Init (AddAt15 1) := by
  refine ⟨_, _, rfl, rfl, ?_⟩
  have hiff := @first_read_iff SecondsClock (AddAt15 1) (AddAt15 2) _ _
    [none] [some ⟨1, 15, 1⟩] rfl rfl
  constructor
  · exact hiff.1.mp (by simp)
  · intro hguard
    exact hiff.2.mpr hguard none List.mem_cons_self rfl

end Clock
end Lifetime
end TimerQueue
end Reactor
end Wethands
