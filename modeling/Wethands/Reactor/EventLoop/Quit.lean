import Wethands.Reactor.EventLoop.Order

/-!
# Functors and the end of the loop

`Loop()` looks at `quit_` between two iterations only.  A functor that is
queued behind the swap of the iteration in which `Quit()` is called stays in
`pendingFunctors_` for ever.
-/

namespace Wethands
namespace Reactor

open Foundation

namespace EventLoop

variable {ThreadId Functor : Type}

/-- The loop thread still has to swap before it looks at `quit_`. -/
def Phase.BeforeSwap : Phase Functor -> Prop
  | Phase.constructed | Phase.poll | Phase.dispatch _ => True
  | Phase.test | Phase.drain _ _ | Phase.returned => False

theorem executions_append (first second : List (Event Functor)) :
    Executions (first ++ second) = Executions first ++ Executions second :=
  List.filterMap_append

theorem executions_executed (execution : Execution Functor) :
    Executions [Event.executed execution] = [execution] := rfl

variable [DecidableEq ThreadId]

/-- A batch is called to its end, whatever `quit_` is. -/
theorem drain_returns (functors : List Functor)
    (loop : EventLoop ThreadId Functor) (hquit : loop.quit_ = true)
    (hphase : loop.phase = Phase.drain functors false) :
    exists rest last tr,
      (LoopMachine ThreadId Functor).Run loop rest = some (last, tr) ∧
      last.phase = Phase.returned ∧
      (Executions tr).length = functors.length := by
  induction functors generalizing loop with
  | nil =>
      refine ⟨[Input.drained, Input.testQuit],
        { loop with phase := Phase.returned }, [Event.returned], ?_, rfl, rfl⟩
      simp [Machine.Run, LoopMachine, Step, hphase, hquit]
  | cons func functors ih =>
      let mid := { loop with phase := Phase.drain functors false }
      have hfirst : (LoopMachine ThreadId Functor).Run loop
          [Input.callFunctor, Input.functorReturns] =
          some (mid, [Event.executed ⟨func, loop.drains⟩]) := by
        simp [Machine.Run, LoopMachine, Step, hphase, mid]
      rcases ih mid hquit rfl with ⟨rest, last, tr, hrun, hreturned, hlength⟩
      refine ⟨_, last, _, Machine.run_append hfirst hrun, hreturned, ?_⟩
      rw [executions_append, List.length_append, hlength, executions_executed,
        List.length_singleton, List.length_cons, Nat.add_comm]

/-- A loop that is past its swap can return with no more calls than certain. -/
theorem loop_returns {loop : EventLoop ThreadId Functor}
    (hquit : loop.quit_ = true) (hpast : ¬loop.phase.BeforeSwap) :
    exists rest last tr,
      (LoopMachine ThreadId Functor).Run loop rest = some (last, tr) ∧
      last.phase = Phase.returned ∧
      (Executions tr).length = (Unstarted loop.phase).length := by
  cases hphase : loop.phase with
  | constructed | poll | dispatch =>
      exact absurd (by rw [hphase]; trivial) hpast
  | returned => exact ⟨[], loop, [], rfl, hphase, rfl⟩
  | test =>
      refine ⟨[Input.testQuit], { loop with phase := Phase.returned },
        [Event.returned], ?_, rfl, rfl⟩
      simp [Machine.Run, LoopMachine, Step, hphase, hquit]
  | drain functors running =>
      cases running with
      | false => exact drain_returns functors loop hquit hphase
      | true =>
          let mid := { loop with phase := Phase.drain functors false }
          have hfirst : (LoopMachine ThreadId Functor).Run loop
              [Input.functorReturns] = some (mid, []) := by
            simp [Machine.Run, LoopMachine, Step, hphase, mid]
          rcases drain_returns functors mid hquit rfl with
            ⟨rest, last, tr, hrun, hreturned, hlength⟩
          exact ⟨_, last, _, Machine.run_append hfirst hrun, hreturned,
            hlength⟩

end EventLoop
end Reactor
end Wethands
