import Wethands.Reactor.EventLoop.Model

/-!
# Wake-ups of the event loop

`QueueInLoop` wakes the loop only when another thread calls it.  A functor
pushed by a channel callback is swapped out later in the same iteration, but a
functor pushed by a running functor is left for the next `Poll` without a
wake-up.
-/

namespace Wethands
namespace Reactor

open Foundation

namespace EventLoop

variable {ThreadId Functor : Type}

/-- A waiting functor has a wake-up that is written or about to be written. -/
def Notified (loop : EventLoop ThreadId Functor) : Prop :=
  loop.pendingFunctors_ ≠ [] ->
    0 < loop.eventfd_ ∨ exists tid, loop.callers tid = Caller.pushed

def WakeupInvariant (loop : EventLoop ThreadId Functor) : Prop :=
  match loop.phase with
  | Phase.dispatch _ => True
  | _ => Notified loop

def NotByFunctor : Event Functor -> Prop
  | Event.pushed push => push.source ≠ Source.functor
  | _ => True

instance (e : Event Functor) : Decidable (NotByFunctor e) := by
  cases e <;> unfold NotByFunctor <;> infer_instance

theorem wakeupInvariant_of_notified {loop : EventLoop ThreadId Functor}
    (h : Notified loop) : WakeupInvariant loop := by
  unfold WakeupInvariant
  split
  · trivial
  · exact h

theorem notified_of_wakeupInvariant {loop : EventLoop ThreadId Functor}
    (h : WakeupInvariant loop)
    (hphase : forall active, loop.phase ≠ Phase.dispatch active) :
    Notified loop := by
  unfold WakeupInvariant at h
  split at h
  · exact absurd ‹_› (hphase _)
  · exact h

theorem wakeupInvariant_setPhase {loop : EventLoop ThreadId Functor}
    (h : WakeupInvariant loop)
    (hphase : forall active, loop.phase ≠ Phase.dispatch active)
    (phase : Phase Functor) :
    WakeupInvariant { loop with phase := phase } := by
  have hnotified : Notified loop := notified_of_wakeupInvariant h hphase
  exact wakeupInvariant_of_notified hnotified

theorem notified_of_pending_nil {loop : EventLoop ThreadId Functor}
    (h : loop.pendingFunctors_ = []) : Notified loop :=
  fun hne => absurd h hne

variable [DecidableEq ThreadId]

/-- The caller owes its wake-up until it writes the eventfd. -/
theorem notified_pushBack_pushed (loop : EventLoop ThreadId Functor)
    (tid : ThreadId) (cb : Functor) :
    Notified (SetCaller (PushBack loop cb) tid Caller.pushed) := by
  intro _
  exact Or.inr ⟨tid, by simp [SetCaller]⟩

theorem notified_wakeup (loop : EventLoop ThreadId Functor) (tid : ThreadId)
    (caller : Caller) : Notified (SetCaller (Wakeup loop) tid caller) := by
  intro _
  exact Or.inl (by simp [SetCaller, Wakeup])

theorem notified_setCaller_quitting {loop : EventLoop ThreadId Functor}
    {tid : ThreadId} (houtside : loop.callers tid = Caller.outside)
    (h : Notified loop) :
    Notified (SetCaller { loop with quit_ := true } tid Caller.quitting) := by
  intro hne
  rcases h hne with hpos | ⟨owner, howner⟩
  · exact Or.inl hpos
  · apply Or.inr
    exists owner
    have hother : owner ≠ tid := by
      intro heq
      rw [heq, houtside] at howner
      cases howner
    simpa [SetCaller, hother] using howner

theorem wakeupInvariant_step {loop next : EventLoop ThreadId Functor}
    {es : List (Event Functor)}
    (hinv : WakeupInvariant loop)
    (hallowed : forall e, e ∈ es -> NotByFunctor e)
    (hstep : Transition loop next es) :
    WakeupInvariant next := by
  cases hstep with
  | loop hphase hquit =>
      exact wakeupInvariant_setPhase hinv (by simp [hphase]) _
  | returned hphase hquit =>
      exact wakeupInvariant_setPhase hinv (by simp [hphase]) _
  | polled hphase hquit =>
      exact wakeupInvariant_setPhase hinv (by simp [hphase]) _
  | pollReturns active hphase hactive => trivial
  | handleEventfdRead hphase => trivial
  | swap hphase =>
      -- The drain starts with an empty queue, so nothing can be waiting.
      apply wakeupInvariant_of_notified
      exact notified_of_pending_nil rfl
  | callFunctor func rest hphase =>
      exact wakeupInvariant_setPhase hinv (by simp [hphase]) _
  | functorReturns rest hphase =>
      exact wakeupInvariant_setPhase hinv (by simp [hphase]) _
  | drained hphase =>
      exact wakeupInvariant_setPhase hinv (by simp [hphase]) _
  | queueInLoop cb source hsource =>
      have hnot : source ≠ Source.functor :=
        hallowed _ (List.mem_singleton.mpr rfl)
      unfold LoopThreadSource at hsource
      split at hsource
      · simp [WakeupInvariant, PushBack, *]
      · cases hsource
        exact absurd rfl hnot
      · cases hsource
  | quit => exact hinv
  | remoteQueueInLoop tid cb houtside =>
      exact wakeupInvariant_of_notified (notified_pushBack_pushed loop tid cb)
  | remoteQuit tid houtside =>
      by_cases hdispatch : exists active, loop.phase = Phase.dispatch active
      · rcases hdispatch with ⟨active, hphase⟩
        simp [WakeupInvariant, SetCaller, hphase]
      · apply wakeupInvariant_of_notified
        apply notified_setCaller_quitting houtside
        exact notified_of_wakeupInvariant hinv
          (fun active hphase => hdispatch ⟨active, hphase⟩)
  | remoteWakeup tid hcalling =>
      exact wakeupInvariant_of_notified
        (notified_wakeup loop tid Caller.outside)

/-!
# The lost wake-up

A functor that another thread queued pushes a second functor while it runs, as
`SendInLoop` does with the high water mark callback.  The loop then enters
`Poll` with that functor pending and nothing to wake it.
-/

def LostWakeupRun : List (Input Unit Nat) :=
  [Input.loop, Input.testQuit,
   Input.remoteQueueInLoop () 0, Input.remoteWakeup (),
   Input.pollReturns true, Input.handleEventfdRead, Input.swap,
   Input.callFunctor, Input.queueInLoop 1, Input.functorReturns,
   Input.drained, Input.testQuit]

theorem lostWakeup_counterexample :
    ¬ forall (inputs : List (Input Unit Nat)) (loop : EventLoop Unit Nat) tr,
      (LoopMachine Unit Nat).Run (Init Unit Nat) inputs = some (loop, tr) ->
      loop.phase = Phase.poll -> Notified loop := by
  intro hclaim
  have hlost := hclaim LostWakeupRun _ _ rfl rfl
  rcases hlost (by decide) with hpos | ⟨tid, htid⟩
  · exact absurd hpos (by decide)
  · cases tid
    exact absurd htid (by decide)

/--
While no functor run by the drain phase calls `QueueInLoop`, the loop never
waits in `Poll` for a functor whose wake-up is neither written nor owed.
-/
theorem notified_in_poll
    {inputs : List (Input ThreadId Functor)}
    {loop : EventLoop ThreadId Functor} {tr : List (Event Functor)}
    (hrun : (LoopMachine ThreadId Functor).Run (Init ThreadId Functor) inputs =
      some (loop, tr))
    (hallowed : forall e, e ∈ tr -> NotByFunctor e)
    (hpoll : loop.phase = Phase.poll) :
    Notified loop := by
  have hinv : WakeupInvariant loop :=
    Machine.run_invariant_of_events (I := fun loop _ => WakeupInvariant loop)
      (A := NotByFunctor) (p := [])
      (fun s _ i t es hs hes hone =>
        wakeupInvariant_step hs hes (step_transition hone))
      (wakeupInvariant_of_notified (notified_of_pending_nil rfl))
      hallowed hrun
  exact notified_of_wakeupInvariant hinv (by simp [hpoll])

theorem notified_in_poll_remote :
    exists loop tr,
      (LoopMachine Unit Nat).Run (Init Unit Nat)
        [Input.loop, Input.testQuit, Input.remoteQueueInLoop () 0] =
        some (loop, tr) ∧
      loop.pendingFunctors_ = [0] ∧ Notified loop := by
  refine ⟨_, _, rfl, rfl, ?_⟩
  exact @notified_in_poll Unit Nat _
    [Input.loop, Input.testQuit, Input.remoteQueueInLoop () 0] _ _ rfl
    (by decide) rfl

end EventLoop
end Reactor
end Wethands
