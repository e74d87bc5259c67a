import Wethands.Net.Connector.Attempt
import Wethands.Net.Connector.Finished

/-!
# A connector that makes no attempt

Its connection is made, or was closed, and no retry waits in the timer queue.
Only `Restart` wakes it up: what the loop does on its own account leaves it as
it is.
-/

namespace Wethands
namespace Net

open Foundation Utils Reactor

namespace Connector

/-- No attempt is being made, and none is to come. -/
structure Dormant (world : World) : Prop where
  resting : world.connector.connecting_ = false
  control : world.control = Control.outside
  started : ¬StartPending world.started world.functors
  quiet : forall i, ¬Waits world.queue world.retries world.batch i

variable {world next : World}

theorem Tidy.newConnection (h : Tidy world)
    (hcontrol : world.control ≠ Control.outside) :
    Yields (NewConnection world)
      (fun next _ => Tidy next ∧ Dormant next) := by
  rcases h.inside hcontrol with ⟨hidle, hstarted, hquiet⟩
  refine yields_ok.mpr ⟨h.moves hstarted hquiet ?_, ?_⟩
  · refine ⟨_, _, _, rfl, rfl, rfl, Idle.shape ?_ _⟩
    exact hidle
  · exact ⟨hidle.1.1, rfl, hstarted, hquiet⟩

theorem Dormant.orderly (h : Dormant world) (htidy : Tidy world) :
    Orderly world Input.restart := by
  have hidle := htidy.shape.idle h.resting
  refine ⟨h.started, ?_, hidle.2 true, hidle.2 false⟩
  exact fun i hi hown => h.quiet i ⟨hown, Or.inr hi⟩

theorem Dormant.queued (h : Dormant world) (htidy : Tidy world)
    (hqueued : Queued world next) : Dormant next := by
  rcases hqueued with ⟨queue, batch, rfl, hspared⟩
  have hwaits := (htidy.timers.spared hspared).2
  exact ⟨h.resting, h.control, h.started, fun i hi => h.quiet i (hwaits i hi)⟩

theorem Dormant.dispatched (h : Dormant world) (dispatch : Dispatch) :
    Dormant { world with dispatch := dispatch } :=
  ⟨h.resting, h.control, h.started, h.quiet⟩

theorem Dormant.outside (h : Dormant world) {control : Control}
    {call : Call World Event} {Q : World -> List Event -> Prop}
    (hcontrol : control ≠ Control.outside) :
    Yields (When (world.control = control) call) Q := by
  apply yields_when
  intro hplace
  exact absurd (hplace.symm.trans h.control) hcontrol

theorem Dormant.stopInLoop (h : Dormant world) (htidy : Tidy world) :
    Yields (StopInLoop world) (fun next _ => Dormant next) := by
  refine (stopInLoop_spec htidy.timers htidy.shape).yields.mono
    (fun next es hnext => ?_)
  rcases hnext with ⟨_, _, queue, dispatch, rfl, _, _, hnone⟩
  refine ⟨h.resting, h.control, h.started, ?_⟩
  intro i hwaits
  rcases hwaits with ⟨hown, htimers | hmem⟩
  · exact hnone i htimers hown
  · exact h.quiet i ⟨hown, Or.inr hmem⟩

theorem Dormant.stop (h : Dormant world) (htidy : Tidy world) :
    Yields (Stop world) (fun next _ => Dormant next) := by
  apply Yields.in_turn
  let mid := { world with connector := { world.connector with stop_ := true } }
  have hmid : Dormant mid := ⟨h.resting, h.control, h.started, h.quiet⟩
  have htidy' : Tidy mid := htidy.setStop
  exact (hmid.stopInLoop htidy').mono (fun _ _ hnext => yields_ok.mpr hnext)

theorem Dormant.runFunctor (h : Dormant world) (htidy : Tidy world) :
    Yields (RunFunctor world) (fun next _ => Dormant next) := by
  apply yields_when
  intro _
  split
  · exact yields_error
  · rename_i rest hfunctors
    refine absurd (Or.inr ?_) h.started
    rw [hfunctors]
    exact List.mem_cons_self
  · rename_i rest hfunctors
    have htaken : Dormant { world with functors := rest } :=
      ⟨h.resting, h.control,
        fun hpending => h.started (startPending_of_cons hfunctors hpending),
        h.quiet⟩
    exact htaken.stopInLoop (htidy.takeStop hfunctors)

theorem Dormant.handleEvent (h : Dormant world) (htidy : Tidy world)
    (revents : BitVec 32) (isError : Nat) (isSelfConnect : Bool) :
    Yields (HandleEvent world revents isError isSelfConnect)
      (fun next _ => Dormant next) := by
  have hidle := htidy.shape.idle h.resting
  unfold HandleEvent
  split
  · exact yields_error
  · rename_i hdispatch
    exact absurd hdispatch (hidle.2 true)
  · exact yields_error

theorem Dormant.resume (h : Dormant world) :
    Yields (Resume world) (fun next _ => Dormant next) := by
  unfold Resume
  split
  · exact yields_ok.mpr (h.dispatched Dispatch.idle)
  · exact yields_error

theorem Dormant.runTimer (h : Dormant world) (htidy : Tidy world) :
    Yields (RunTimer world) (fun next _ => Dormant next) := by
  refine (runTimer_spec htidy.timers).yields.mono (fun next es hnext => ?_)
  rcases hnext with ⟨_, mid, hqueued, rfl | ⟨⟨i, hi⟩, _⟩⟩
  · exact h.queued htidy hqueued
  · exact absurd hi (h.quiet i)

section Clock

variable {clock : Nat -> Timestamp}

/-- The loop does not wake a dormant connector up. -/
theorem perform_dormant {i : Input} (htidy : Tidy world) (h : Dormant world)
    (hinner : i.Inner = true) :
    Yields (Perform clock world i) (fun next _ => Dormant next) := by
  have hqueue : forall {call : Call World Event},
      Ensures call (fun next es => es = [] ∧ Queued world next) ->
      Yields call (fun next _ => Dormant next) := by
    intro call hcall
    exact hcall.yields.mono (fun _ _ hnext => h.queued htidy hnext.2)
  cases i with
  | start | restart | stop | remoteStart | remoteStop | remoteRunInLoop
  | newConnection => cases hinner
  | runFunctor => exact h.runFunctor htidy
  | startInLoop => exact h.outside (by decide)
  | attempt savedErrno => exact h.outside (by decide)
  | runAfter timer => exact h.outside (by decide)
  | poll =>
      apply yields_when
      exact fun _ => yields_ok.mpr (h.dispatched _)
  | handleEvent revents isError isSelfConnect =>
      apply yields_when
      exact fun _ => h.handleEvent htidy revents isError isSelfConnect
  | resume => exact yields_when (fun _ => h.resume)
  | timers op => exact hqueue (timers_spec htidy.timers)
  | runTimerFunctor =>
      apply yields_when
      exact fun hdraining =>
        hqueue (runTimerFunctor_spec htidy.timers hdraining.2.2)
  | timerExpires => exact hqueue (timerExpires_spec htidy.timers)
  | handleRead =>
      exact yields_when (fun _ => hqueue (handleRead_spec htidy.timers))
  | runTimer => exact yields_when (fun _ => h.runTimer htidy)
  | restartOrDelete =>
      exact yields_when (fun _ => hqueue (restartOrDelete_spec htidy.timers))
  | rearm => exact yields_when (fun _ => hqueue (rearm_spec htidy.timers))

end Clock
end Connector
end Net
end Wethands
