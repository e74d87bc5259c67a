import Wethands.Reactor.TimerQueue.Lifetime.Steps

/-!
# Timers are freed once

A run keeps what its steps keep: the timers that are gone are those whose
deletion the trace shows, and no step follows a pointer to one of them.
-/

namespace Wethands
namespace Reactor

open Foundation Utils

namespace TimerQueue

namespace Lifetime

def FreedOnce (tr : List Event) : Prop :=
  forall s, Event.reached s ∈ tr -> tr.count (Event.deleted s) = 1

theorem Clean.count_le {tr : List Event} (h : Clean tr) (s : Nat) :
    tr.count (Event.deleted s) ≤ 1 := by
  by_cases hmem : Event.deleted s ∈ tr
  · rcases List.mem_iff_append.mp hmem with ⟨before, after, hsplit⟩
    have hbefore : Event.deleted s ∉ before := by
      intro hearlier
      rcases List.mem_iff_append.mp hearlier with ⟨first, mid, rfl⟩
      apply (h s first (mid ++ Event.deleted s :: after) (by simp [hsplit])).2
      simp
    have hafter := (h s before after hsplit).2
    rw [hsplit, List.count_append, List.count_cons_self,
      List.count_eq_zero.mpr hbefore, List.count_eq_zero.mpr hafter]
  · rw [List.count_eq_zero.mpr hmem]
    exact Nat.zero_le 1

structure Unharmed (world : World) (tr : List Event) : Prop where
  sound : world.Sound
  running : world.phase ≠ Phase.aborted
  buried : forall s, Event.deleted s ∈ tr ->
    s ≤ world.queue.count_ ∧ forall a, ¬LiveAt world.queue a s
  clean : Clean tr
  arrived : forall s, Event.reached s ∈ tr ->
    Event.deleted s ∈ tr ∨ s ∈ Arrived world
  issued : forall i, i ∈ world.queue.issued ->
    Event.issued i.sequence_ i ∈ tr
  cancelled : CancelsOwn tr

theorem unharmed_init : Unharmed Init [] where
  sound := intact_init
  running := by simp [Init]
  buried := by simp
  clean := by
    intro s before after hsplit
    simp at hsplit
  arrived := by simp
  issued := by simp [Init, TimerQueue.Init]
  cancelled := by
    intro i s before after hsplit
    simp at hsplit

theorem Unharmed.advances {world next : World} {tr es : List Event}
    (h : Unharmed world tr) (hstep : Advances world next es) :
    Unharmed next (tr ++ es) where
  sound := hstep.sound
  running := hstep.running
  buried := by
    intro s hmem
    rcases List.mem_append.mp hmem with hold | hnew
    · rcases h.buried s hold with ⟨hle, hgone⟩
      refine ⟨Nat.le_trans hle hstep.count_le, fun a ha => ?_⟩
      rcases hstep.live a s ha with hlive | hlater
      · exact hgone a hlive
      · omega
    · rcases hstep.followed s (Or.inr hnew) with ⟨a, ha⟩
      have hle := h.sound.sound.1.sequence_le a s ha
      exact ⟨Nat.le_trans hle hstep.count_le, hstep.gone s hnew⟩
  clean := by
    intro s before after hsplit
    rcases split_append hsplit with
      ⟨mid, hfirst, rfl⟩ | ⟨mid, _, hsecond⟩
    · -- The step comes behind the deletion and finds nothing to follow.
      have hmid := h.clean s before mid hfirst
      have hgone := (h.buried s (by simp [hfirst])).2
      constructor
      · intro hmem
        rcases List.mem_append.mp hmem with hold | hnew
        · exact hmid.1 hold
        · rcases hstep.followed s (Or.inl hnew) with ⟨a, ha⟩
          exact hgone a ha
      · intro hmem
        rcases List.mem_append.mp hmem with hold | hnew
        · exact hmid.2 hold
        · rcases hstep.followed s (Or.inr hnew) with ⟨a, ha⟩
          exact hgone a ha
    · exact hstep.clean s mid after hsecond
  arrived := by
    intro s hmem
    have hcase : Event.deleted s ∈ tr ∨ Event.deleted s ∈ es ∨
        s ∈ Arrived next := by
      rcases List.mem_append.mp hmem with hold | hnew
      · rcases h.arrived s hold with hdeleted | harrived
        · exact Or.inl hdeleted
        · exact Or.inr (hstep.arrived s (Or.inr harrived))
      · exact Or.inr (hstep.arrived s (Or.inl hnew))
    rcases hcase with hold | hnew | harrived
    · exact Or.inl (List.mem_append.mpr (Or.inl hold))
    · exact Or.inl (List.mem_append.mpr (Or.inr hnew))
    · exact Or.inr harrived
  issued := by
    intro i hi
    rcases hstep.issued i hi with hold | hnew
    · exact List.mem_append.mpr (Or.inl (h.issued i hold))
    · exact List.mem_append.mpr (Or.inr hnew)
  cancelled := by
    intro i s before after hsplit
    rcases split_append hsplit with
      ⟨mid, hfirst, _⟩ | ⟨mid, rfl, hsecond⟩
    · exact h.cancelled i s before mid hfirst
    · rcases hstep.cancelled i s (by simp [hsecond]) with ⟨hissued, rfl⟩
      exact List.mem_append.mpr (Or.inl (h.issued i hissued))

theorem Unharmed.freedOnce {world : World} {tr : List Event}
    (h : Unharmed world tr) (hempty : Arrived world = []) : FreedOnce tr := by
  intro s hreached
  have hdeleted : Event.deleted s ∈ tr := by
    rcases h.arrived s hreached with hmem | harrived
    · exact hmem
    · rw [hempty] at harrived
      cases harrived
  have hpos : 0 < tr.count (Event.deleted s) := List.count_pos_iff.mpr hdeleted
  have hle := h.clean.count_le s
  omega

/-!
# The set behind the destructor
-/

def Cleared (world : World) : Prop :=
  world.phase = Phase.serving ∨ world.phase = Phase.aborted ∨
    world.queue.timers_.elems = [] ∧ world.batch = none

section Clock

variable {clock : Nat -> Timestamp} {world mid next : World}
  {es : List Event} {timer : TimerIndex}

theorem Cleared.of_same (h : Cleared world) (hphase : next.phase = world.phase)
    (htimers : next.queue.timers_ = world.queue.timers_)
    (hbatch : next.batch = world.batch) : Cleared next := by
  unfold Cleared
  rw [hphase, htimers, hbatch]
  exact h

theorem Cleared.empty (h : Cleared world)
    (hserving : world.phase ≠ Phase.serving)
    (haborted : world.phase ≠ Phase.aborted) :
    world.queue.timers_.elems = [] ∧ world.batch = none := by
  rcases h with hphase | hphase | hempty
  · exact absurd hphase hserving
  · exact absurd hphase haborted
  · exact hempty

def Clears (result : Result) : Prop :=
  forall next es, result = some (next, es) -> Cleared next

theorem clears_follow {e : Event} {result : Result} (h : Clears result) :
    Clears (Follow world timer e result) :=
  brings_follow (Or.inr (Or.inl rfl)) (fun _ => h)

theorem clears_touch {call : Call TimerQueue TimerQueue.Event}
    (hphase : mid.phase = Phase.serving) :
    Clears (Touch world timer (InQueue mid call es)) := by
  apply clears_follow
  intro next es' hnext
  rcases inQueue_eq_some hnext with ⟨queue, tr, _, rfl, _⟩
  exact Or.inl hphase

theorem clears_readSequence (h : Cleared world) :
    Clears (ReadSequence world timer) := by
  apply clears_follow
  intro next es hnext
  rcases Option.map_eq_some_iff.mp hnext with ⟨object, _, heq⟩
  cases heq
  exact h.of_same rfl rfl rfl

theorem clears_cancelTimerInLoop (hphase : world.phase = Phase.serving) :
    Clears (CancelTimerInLoop world timer) := by
  unfold CancelTimerInLoop
  split
  · exact brings_some (Or.inl hphase)
  · exact brings_some (Or.inr (Or.inl rfl))

theorem clears_remoteNewTimer {a : Address} {request : Request}
    (h : Cleared world) : Clears (RemoteNewTimer clock world a request) := by
  unfold RemoteNewTimer
  split
  · exact brings_none
  · intro next es hnext
    rcases Option.map_eq_some_iff.mp hnext with ⟨⟨made, i⟩, hmade, heq⟩
    rcases newTimer_eq_some hmade with ⟨queue, tr, object, hcall, _, rfl, _⟩
    rcases newTimer_eq_ok hcall with ⟨t, readings, _, _, _, rfl⟩
    cases heq
    exact h.of_same rfl rfl rfl

theorem clears_loopNewTimer {a : Address} {request : Request} :
    Clears (LoopNewTimer clock world a request) := by
  unfold LoopNewTimer
  split
  · rename_i hfree
    intro next es hnext
    rcases Option.map_eq_some_iff.mp hnext with ⟨⟨made, i⟩, hmade, heq⟩
    rcases newTimer_eq_some hmade with ⟨queue, tr, object, _, _, rfl, _⟩
    cases heq
    exact Or.inl hfree.1
  · exact brings_none

theorem clears_runFunctor : Clears (RunFunctor clock world) := by
  unfold RunFunctor
  split
  · rename_i hidle
    split
    · exact brings_none
    · exact clears_touch hidle.1.1
    · exact clears_cancelTimerInLoop hidle.1.1
  · exact brings_none

theorem clears_handleRead : Clears (HandleRead clock world) := by
  unfold HandleRead
  split
  · rename_i hidle
    exact brings_some (Or.inl hidle.1.1)
  · exact brings_none

theorem clears_runTimer : Clears (RunTimer world) := by
  unfold RunTimer
  split
  · split
    · rename_i hfree
      exact clears_follow (brings_some (Or.inl hfree.1))
    · exact brings_none
  · exact brings_none

theorem clears_finishTimer : Clears (FinishTimer clock world) := by
  unfold FinishTimer
  split
  · split
    · rename_i hfree
      exact clears_touch hfree.1
    · exact brings_none
  · exact brings_none

theorem clears_finishRead : Clears (FinishRead clock world) := by
  unfold FinishRead
  split
  · split
    · rename_i hfree
      exact brings_some (Or.inl hfree.1)
    · exact brings_none
  · exact brings_none

theorem clears_destroy : Clears (Destroy world) := by
  unfold Destroy
  split
  · rename_i hidle
    exact brings_some (Or.inr (Or.inr ⟨rfl, hidle.2⟩))
  · exact brings_none

theorem clears_destroyNext (h : Cleared world) :
    Clears (DestroyNext world) := by
  unfold DestroyNext
  split
  · rename_i timer left hphase
    have hempty := h.empty (by simp [hphase]) (by simp [hphase])
    apply clears_follow
    intro next es hnext
    rcases inQueue_eq_some hnext with ⟨queue, tr, hcall, rfl, _⟩
    rw [(delete_eq_ok hcall).2]
    exact Or.inr (Or.inr hempty)
  · exact brings_none

theorem clears_destroyEnd (h : Cleared world) : Clears (DestroyEnd world) := by
  unfold DestroyEnd
  split
  · rename_i hphase
    have hempty := h.empty (by simp [hphase]) (by simp [hphase])
    exact brings_some (Or.inr (Or.inr hempty))
  · exact brings_none

theorem clears_perform (h : Cleared world) (i : Input) :
    Clears (Perform clock world i) := by
  cases i with
  | remoteNewTimer timer request => exact clears_remoteNewTimer h
  | remoteRunInLoop timer =>
      show Clears (RemoteRunInLoop world timer)
      unfold RemoteRunInLoop
      split
      · exact brings_some (h.of_same rfl rfl rfl)
      · exact brings_none
  | remoteReadSequence timer =>
      show Clears (RemoteReadSequence world timer)
      unfold RemoteReadSequence
      split
      · exact clears_readSequence (h.of_same rfl rfl rfl)
      · exact brings_none
  | remoteCancelTimer timerIndex =>
      show Clears (RemoteCancelTimer world timerIndex)
      unfold RemoteCancelTimer
      split
      · exact brings_some (h.of_same rfl rfl rfl)
      · exact brings_none
  | loopNewTimer timer request => exact clears_loopNewTimer
  | loopRunInLoop =>
      show Clears (LoopRunInLoop clock world)
      unfold LoopRunInLoop
      split
      · rename_i timer hphase _
        exact clears_touch hphase
      · exact brings_none
  | loopReadSequence =>
      show Clears (LoopReadSequence world)
      unfold LoopReadSequence
      split
      · exact clears_readSequence (h.of_same rfl rfl rfl)
      · exact brings_none
  | loopCancelTimer timerIndex =>
      show Clears (LoopCancelTimer world timerIndex)
      unfold LoopCancelTimer
      split
      · rename_i hfree
        exact clears_cancelTimerInLoop hfree.1.1
      · exact brings_none
  | runFunctor => exact clears_runFunctor
  | handleRead => exact clears_handleRead
  | runTimer => exact clears_runTimer
  | finishTimer => exact clears_finishTimer
  | finishRead => exact clears_finishRead
  | destroy => exact clears_destroy
  | destroyNext => exact clears_destroyNext h
  | destroyEnd => exact clears_destroyEnd h

theorem Cleared.arrived_eq_nil (h : Cleared world)
    (hphase : world.phase = Phase.destroyed) : Arrived world = [] := by
  have hempty := h.empty (by simp [hphase]) (by simp [hphase])
  simp [Arrived, Held, Left, hempty.1, hempty.2, hphase]

/-!
# Whole runs
-/

/--
The loop deletes no timer that a thread in `AddTimer` has still to read.  Then
nothing is done to a timer behind its deletion, a cancellation deletes the
timer that its index was issued for, and what has reached the loop is deleted
once by the end of the destructor.
-/
theorem freed_once {inputs : List Input} {tr : List Event}
    (hrun : (LifetimeMachine clock).Run Init inputs = some (world, tr))
    (hguard : (LifetimeMachine clock).Guarded ReadFirst Init inputs) :
    Clean tr ∧ CancelsOwn tr ∧ world.phase ≠ Phase.aborted ∧
      (world.phase = Phase.destroyed -> FreedOnce tr) := by
  have hlast : Unharmed world ([] ++ tr) ∧ Cleared world :=
    Machine.run_invariant_of_guard
      (I := fun world tr => Unharmed world tr ∧ Cleared world)
      (fun world tr i next es hinv hread hstep => by
        have hperform : Perform clock world i = some (next, es) := by
          have hwhole : (if world.phase = Phase.aborted then none
              else Perform clock world i) = some (next, es) := hstep
          rwa [if_neg hinv.1.running] at hwhole
        have hadvances :=
          perform_advances hinv.1.sound hinv.1.running hread hperform
        exact ⟨hinv.1.advances hadvances,
          clears_perform hinv.2 i next es hperform⟩)
      ⟨unharmed_init, Or.inl rfl⟩ hguard hrun
  rcases hlast with ⟨hunharmed, hcleared⟩
  rw [List.nil_append] at hunharmed
  refine ⟨hunharmed.clean, hunharmed.cancelled, hunharmed.running, ?_⟩
  intro hphase
  exact hunharmed.freedOnce (hcleared.arrived_eq_nil hphase)

end Clock

/-!
# Two runs

Another thread adds a timer for one second.  In the first run it comes back to
its `AddTimer` when the timer has run and is gone.  In the second it has its
index by then, the callback adds a repeating timer, and the index is cancelled
after the timer has gone.
-/

def AfterOneSecond : Request :=
  Request.runAfter
    { positive := true, micros := 1000000, micros_nonneg := second_nonneg }

def LateRead : List Input :=
  [Input.remoteNewTimer 1 AfterOneSecond, Input.remoteRunInLoop FirstIndex,
    Input.runFunctor, Input.handleRead, Input.runTimer, Input.finishTimer,
    Input.remoteReadSequence FirstIndex]

def EarlyRead : List Input :=
  [Input.remoteNewTimer 1 AfterOneSecond, Input.remoteRunInLoop FirstIndex,
    Input.remoteReadSequence FirstIndex, Input.runFunctor, Input.handleRead,
    Input.runTimer, Input.loopNewTimer 2 EverySecond, Input.loopRunInLoop,
    Input.loopReadSequence, Input.finishTimer, Input.finishRead,
    Input.remoteCancelTimer FirstIndex, Input.runFunctor, Input.destroy,
    Input.destroyNext, Input.destroyEnd]

def SecondIndex : TimerIndex where
  timer_ := 2
  expiration_ := 2000000
  sequence_ := 2

def EarlyTrace : List Event :=
  [Event.constructed 1, Event.touched 1, Event.issued 1 FirstIndex,
    Event.touched 1, Event.reached 1, Event.touched 1, Event.constructed 2,
    Event.touched 2, Event.reached 2, Event.touched 2,
    Event.issued 2 SecondIndex, Event.touched 1, Event.deleted 1,
    Event.cancelled FirstIndex none, Event.deleted 2]

theorem freed_once_of_earlyRead :
    exists world,
      (LifetimeMachine OneSecondClock).Run Init EarlyRead =
        some (world, EarlyTrace) ∧
      (LifetimeMachine OneSecondClock).Guarded ReadFirst Init EarlyRead ∧
      Clean EarlyTrace ∧ CancelsOwn EarlyTrace ∧
      world.phase = Phase.destroyed ∧ FreedOnce EarlyTrace := by
  have heval : ((LifetimeMachine OneSecondClock).Run Init EarlyRead).map
      (fun last => (last.1.phase, last.2)) =
      some (Phase.destroyed, EarlyTrace) := by
    decide +kernel
  rcases (LifetimeMachine OneSecondClock).exists_run
    (fun world => world.phase) heval with ⟨world, hrun, hphase⟩
  have hguard : (LifetimeMachine OneSecondClock).Guarded ReadFirst Init
      EarlyRead := by
    decide +kernel
  rcases freed_once hrun hguard with ⟨hclean, hcancels, _, hfreed⟩
  exact ⟨world, hrun, hguard, hclean, hcancels, hphase, hfreed hphase⟩

theorem freed_once_counterexample :
    ¬ forall (clock : Nat -> Timestamp) inputs world tr,
      (LifetimeMachine clock).Run Init inputs = some (world, tr) ->
      Clean tr ∧ CancelsOwn tr ∧
        (world.phase = Phase.destroyed -> FreedOnce tr) := by
  intro hclaim
  have heval : ((LifetimeMachine OneSecondClock).Run Init LateRead).map
      (fun last => (last.1.phase, last.2)) =
      some (Phase.aborted,
        [Event.constructed 1, Event.touched 1, Event.reached 1,
          Event.touched 1, Event.touched 1, Event.deleted 1,
          Event.touched 1]) := by
    decide +kernel
  rcases (LifetimeMachine OneSecondClock).exists_run
    (fun world => world.phase) heval with ⟨world, hrun, _⟩
  have hclean := (hclaim OneSecondClock LateRead world _ hrun).1
  have hafter := hclean 1
    [Event.constructed 1, Event.touched 1, Event.reached 1, Event.touched 1,
      Event.touched 1] [Event.touched 1] rfl
  exact hafter.1 List.mem_cons_self

end Lifetime
end TimerQueue
end Reactor
end Wethands
