import Wethands.Reactor.TimerQueue.Batch

/-!
# The timer queue does no harm

In a sound queue no call fails an assertion or follows a pointer to a timer
that has been deleted.
-/

namespace Wethands
namespace Reactor

open Foundation Utils

namespace TimerQueue

/-- The calls that do no harm, whatever they hand back. -/
def Harmless (call : Call TimerQueue Event) : Prop :=
  Ensures call (fun _ _ => True)

theorem harmless_ok {next : TimerQueue} {es : List Event} :
    Harmless (Except.ok (next, es)) := trivial

theorem harmless_then {call : Call TimerQueue Event}
    {second : TimerQueue -> Call TimerQueue Event} (hcall : Harmless call)
    (hsecond : forall mid es, call = Except.ok (mid, es) ->
      Harmless (second mid)) :
    Harmless (Then call second) :=
  Ensures.in_turn (hcall.of_ok hsecond)

section Clock

variable {clock : Nat -> Timestamp} {queue : TimerQueue} {a : Address}
  {hands : List Address}

theorem addTimerInLoop_harmless (h : Sound queue (a :: hands)) :
    Harmless (AddTimerInLoop clock queue a) := by
  rcases h.1.hand_live List.mem_cons_self with ⟨t, ht⟩
  simp only [AddTimerInLoop, ht]
  exact Ensures.assert (insert_eq_true.mpr (h.1.find_eq_none ht)) harmless_ok

theorem delete_harmless (hlive : exists t, queue.heap a = some t) :
    Harmless (queue.Delete a) := by
  rcases hlive with ⟨t, ht⟩
  simp only [Delete, ht]
  exact harmless_ok

theorem cancelTimerInLoop_harmless {i : TimerIndex} (h : Sound queue hands)
    (hi : Circulates queue i) : Harmless (CancelTimerInLoop queue i) := by
  unfold CancelTimerInLoop
  split
  · exact harmless_ok
  · rename_i found hfind
    refine harmless_then harmless_ok (fun mid es hmid => ?_)
    cases hmid
    apply delete_harmless
    rcases h.1.index found (OrderedSet.find_eq_some hfind).1 with ⟨t, ht, _⟩
    rw [find_of_circulates h hi hfind] at ht
    exact ⟨t, ht⟩

theorem newTimer_harmless {request : Request} :
    Harmless (NewTimer clock queue a request) := by
  unfold NewTimer
  split
  · exact ensures_impossible
  · exact harmless_ok

theorem issue_harmless (hlive : exists t, queue.heap a = some t) :
    Harmless (Issue queue a) := by
  rcases hlive with ⟨t, ht⟩
  simp only [Issue, ht]
  exact harmless_ok

theorem addTimer_harmless {request : Request} (h : Sound queue hands) :
    Harmless (AddTimer clock queue a request) := by
  refine harmless_then newTimer_harmless (fun made _ hnew => ?_)
  have hmade := newTimer_keeps h hnew
  refine harmless_then (addTimerInLoop_harmless hmade.1)
    (fun added _ hadd => issue_harmless ?_)
  rw [addTimerInLoop_heap hadd]
  exact hmade.1.1.hand_live List.mem_cons_self

theorem runOp_harmless {op : Op} (h : Sound queue hands) :
    Harmless (RunOp clock queue op) := by
  cases op with
  | addTimer timer request => exact addTimer_harmless h
  | cancelTimer timerIndex =>
      simp only [RunOp, CancelTimer]
      split
      · exact cancelTimerInLoop_harmless h ‹_›
      · exact ensures_impossible
  | remoteNewTimer timer request =>
      exact harmless_then newTimer_harmless (fun _ _ _ => harmless_ok)
  | remoteRunInLoop timer =>
      simp only [RunOp, RemoteRunInLoop]
      split
      · rename_i hmem
        refine harmless_then (issue_harmless ?_) (fun _ _ _ => harmless_ok)
        have howner : timer ∈ Owners queue hands :=
          mem_owners.mpr (Or.inl (by simp [Outside, hmem]))
        exact Option.isSome_iff_exists.mp ((h.1.live timer).mp howner)
      · exact ensures_impossible
  | remoteCancelTimer timerIndex =>
      simp only [RunOp, RemoteCancelTimer]
      split
      · exact harmless_ok
      · exact ensures_impossible

theorem runFunctor_harmless (h : Sound queue []) :
    Harmless (RunFunctor clock queue) := by
  unfold RunFunctor
  split
  · exact ensures_impossible
  · rename_i timer rest hpending
    exact addTimerInLoop_harmless (h.takeAdd hpending)
  · rename_i timerIndex rest hpending
    rcases h.takeCancel hpending with ⟨htaken, hcirculates⟩
    exact cancelTimerInLoop_harmless htaken hcirculates

theorem restartOrDelete_harmless {now : Timestamp} {i : TimerIndex}
    (h : Sound queue (i.timer_ :: hands)) :
    Harmless (RestartOrDelete clock queue now i) := by
  rcases h.1.hand_live List.mem_cons_self with ⟨t, ht⟩
  simp only [RestartOrDelete, ht]
  split
  · exact addTimerInLoop_harmless (restart_keeps h ht now).1
  · exact delete_harmless ⟨t, ht⟩

theorem runScript_harmless {script : List Op} (h : Sound queue hands) :
    Harmless (RunScript clock queue script) := by
  induction script generalizing queue with
  | nil => exact harmless_ok
  | cons op rest ih =>
      refine harmless_then (runOp_harmless h) (fun mid es hop => ?_)
      exact ih (runOp_keeps h hop).1

theorem runTimer_harmless {i : TimerIndex} {script : List Op}
    (h : Sound queue hands) (hlive : LiveAt queue i.timer_ i.sequence_) :
    Harmless (RunTimer clock queue i script) := by
  rcases hlive with ⟨t, ht, _⟩
  simp only [RunTimer, ht]
  refine harmless_then harmless_ok (fun mid es hran => ?_)
  cases hran
  exact runScript_harmless h

theorem runExpired_harmless {now : Timestamp} {batch : List TimerIndex}
    {scripts : List (List Op)} (h : HoldsBatch queue batch hands) :
    Harmless (RunExpired clock now batch scripts queue) := by
  induction batch generalizing queue scripts with
  | nil => exact harmless_ok
  | cons i batch ih =>
      have hlive : LiveAt queue i.timer_ i.sequence_ :=
        h.live i List.mem_cons_self
      refine harmless_then (runTimer_harmless h.sound hlive)
        (fun ran _ hrun => ?_)
      have hran := runTimer_holdsBatch h List.mem_cons_self hrun
      refine harmless_then (restartOrDelete_harmless hran.sound)
        (fun restarted _ hrestart => ?_)
      exact ih (restartOrDelete_holdsBatch hran hrestart)

theorem handleRead_harmless {scripts : List (List Op)}
    (h : Sound queue []) : Harmless (HandleRead clock queue scripts) :=
  harmless_then (runExpired_harmless (h.holdsBatch _ _ _))
    (fun _ _ _ => harmless_ok)

theorem timerExpires_harmless : Harmless (TimerExpires queue) := by
  unfold TimerExpires
  split
  · exact harmless_ok
  · exact ensures_impossible

end Clock
end TimerQueue
end Reactor
end Wethands
