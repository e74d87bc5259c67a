import Wethands.Net.Connector.Dispatch

/-!
# Behind `StopInLoop`

While `stop_` is set, a connector whose `StopInLoop` has run goes nowhere.  No
call but `Restart` takes the flag back.
-/

namespace Wethands
namespace Net

open Foundation Utils Reactor

namespace Connector

structure Finished (world : World) : Prop where
  stop : world.connector.stop_ = true
  channel : world.connector.socketChannel_ = none
  resting : world.connector.connecting_ = false
  control : world.control = Control.outside

/-- What a step leaves of `stop_`, and of a connector that is finished. -/
structure Respects (world next : World) (es : List Event) : Prop where
  stop : next.connector.stop_ = world.connector.stop_
  finished : Finished world ∨
      Event.stopInLoop ∈ es ∧ world.connector.stop_ = true ->
    Finished next ∧ Event.connect ∉ es ∧ Event.newConnection ∉ es

variable {world next : World} {es : List Event}

theorem respects_same (hconnector : next.connector = world.connector)
    (hcontrol : next.control = world.control)
    (hes : es = [] ∨ exists alive, es = [Event.resumed alive]) :
    Respects world next es := by
  have hnone : Event.connect ∉ es ∧ Event.newConnection ∉ es ∧
      Event.stopInLoop ∉ es := by
    rcases hes with rfl | ⟨alive, rfl⟩ <;> simp
  refine ⟨by rw [hconnector], ?_⟩
  rintro (hfinished | ⟨hmem, _⟩)
  · refine ⟨⟨?_, ?_, ?_, ?_⟩, hnone.1, hnone.2.1⟩
    · rw [hconnector]
      exact hfinished.stop
    · rw [hconnector]
      exact hfinished.channel
    · rw [hconnector]
      exact hfinished.resting
    · rw [hcontrol]
      exact hfinished.control
  · exact absurd hmem hnone.2.2

theorem respects_unfinished (hnot : ¬Finished world)
    (hstop : next.connector.stop_ = world.connector.stop_)
    (hes : Event.stopInLoop ∉ es) : Respects world next es := by
  refine ⟨hstop, ?_⟩
  rintro (hfinished | ⟨hmem, _⟩)
  · exact absurd hfinished hnot
  · exact absurd hmem hes

/-!
# Calls within the connector
-/

theorem resetChannel_yields (channel : Option Channel) :
    Yields (ResetChannel world channel) (fun next es => es = [] ∧
      exists dispatch, next = { world with
        connector := { world.connector with socketChannel_ := channel }
        dispatch := dispatch }) := by
  unfold ResetChannel
  split
  · exact yields_ok.mpr ⟨rfl, _, rfl⟩
  · apply Yields.assert
    exact fun _ => yields_ok.mpr ⟨rfl, _, rfl⟩

theorem registerForConnecting_yields :
    Yields (RegisterForConnecting world) (fun next es => es = [] ∧
      exists channel, next = { world with
        connector := { world.connector with socketChannel_ := channel } }) := by
  unfold RegisterForConnecting
  apply Yields.assert
  intro _
  split
  · exact yields_error
  · apply Yields.assert
    exact fun _ => yields_ok.mpr ⟨rfl, _, rfl⟩

theorem clearConnecting_yields :
    Yields (ClearConnecting world) (fun next es => es = [] ∧
      exists channel, next = { world with
        connector := { world.connector with
          socketChannel_ := channel
          connecting_ := false } }) := by
  unfold ClearConnecting
  split
  · split
    · exact yields_error
    · apply Yields.assert
      intro _
      apply Yields.in_turn
      refine (unregisterForConnecting_yields world).mono
        (fun mid es hmid => ?_)
      rcases hmid with ⟨rfl, channel, rfl⟩
      exact yields_ok.mpr ⟨rfl, some channel, rfl⟩
  · rename_i hnot
    refine yields_ok.mpr ⟨rfl, world.connector.socketChannel_, ?_⟩
    have hfalse : world.connector.connecting_ = false := by simpa using hnot
    rw [← hfalse]

theorem respects_startInLoop {mid : World}
    (hconnector : mid.connector = world.connector) :
    Yields (StartInLoop mid) (Respects world) := by
  unfold StartInLoop
  split
  · rename_i hstop
    rw [yields_ok]
    refine ⟨by rw [hconnector], ?_⟩
    rintro (hfinished | ⟨hmem, _⟩)
    · refine ⟨⟨hstop, ?_, ?_, rfl⟩, by simp, by simp⟩
      · rw [hconnector]
        exact hfinished.channel
      · rw [hconnector]
        exact hfinished.resting
    · simp at hmem
  · rename_i hstop
    rw [yields_ok]
    rw [hconnector] at hstop
    apply respects_unfinished
    · exact fun hfinished => hstop hfinished.stop
    · rw [hconnector]
    · simp

theorem stopInLoop_yields (houtside : world.control = Control.outside) :
    Yields (StopInLoop world) (fun next es => es = [Event.stopInLoop] ∧
      next.connector.stop_ = world.connector.stop_ ∧
      (world.connector.stop_ = true -> Finished next)) := by
  apply Yields.in_turn
  refine clearConnecting_yields.mono (fun w1 es hw1 => ?_)
  rcases hw1 with ⟨rfl, channel, rfl⟩
  apply Yields.in_turn
  apply yields_onQueue
  intro queue
  apply Yields.in_turn
  refine (resetChannel_yields none).mono (fun w3 es hw3 => ?_)
  rcases hw3 with ⟨rfl, dispatch, rfl⟩
  rw [yields_ok]
  exact ⟨rfl, rfl, fun hset => ⟨hset, rfl, rfl, houtside⟩⟩

theorem attempt_yields (savedErrno : Nat) :
    Yields (Attempt world savedErrno) (fun next es =>
      next.connector.stop_ = world.connector.stop_ ∧
        es = [Event.connect]) := by
  apply Yields.assert
  intro _
  apply Yields.in_turn
  refine (resetChannel_yields _).mono (fun w1 es hw1 => ?_)
  rcases hw1 with ⟨rfl, dispatch, rfl⟩
  apply Yields.in_turn
  rw [yields_ok]
  split
  · apply Yields.in_turn
    refine registerForConnecting_yields.mono (fun w2 es hw2 => ?_)
    rcases hw2 with ⟨rfl, channel, rfl⟩
    exact yields_ok.mpr ⟨rfl, rfl⟩
  · split
    · refine (retry_yields _).mono ?_
      intro next es hanswer
      rcases hanswer with ⟨rfl, rfl | rfl⟩
      · exact ⟨rfl, rfl⟩
      · exact ⟨rfl, rfl⟩
    · refine (resetChannel_yields _).mono (fun w2 es hw2 => ?_)
      rcases hw2 with ⟨rfl, dispatch, rfl⟩
      exact ⟨rfl, rfl⟩

theorem handleWrite_keeps_stop (isError : Nat) (isSelfConnect : Bool) :
    Yields (HandleWrite world isError isSelfConnect) (fun next es =>
      next.connector.stop_ = world.connector.stop_ ∧ es = []) := by
  apply Yields.in_turn
  refine (unregisterForConnecting_yields world).mono ?_
  intro mid es hanswer
  rcases hanswer with ⟨rfl, channel, rfl⟩
  dsimp only
  apply Yields.only_if
  intro _
  have hretry : Yields (Retry { world with connector := { world.connector with
      socketChannel_ := some channel
      connecting_ := false } }) (fun next es =>
        next.connector.stop_ = world.connector.stop_ ∧ [] ++ es = []) := by
    refine (retry_yields _).mono ?_
    intro next es hanswer
    rcases hanswer with ⟨rfl, rfl | rfl⟩
    · exact ⟨rfl, rfl⟩
    · exact ⟨rfl, rfl⟩
  split
  · split
    · exact hretry
    · split
      · exact yields_ok.mpr ⟨rfl, rfl⟩
      · exact yields_ok.mpr ⟨rfl, rfl⟩
  · exact hretry

theorem handleWrite_none (hnone : world.connector.socketChannel_ = none)
    (isError : Nat) (isSelfConnect : Bool) :
    HandleWrite world isError isSelfConnect =
      Except.error Failure.assertion := by
  simp [HandleWrite, UnregisterForConnecting, Then, hnone]

/-!
# Steps
-/

def Input.Inner : Input -> Bool
  | start | restart | stop | remoteStart | remoteStop | remoteRunInLoop
  | newConnection => false
  | _ => true

theorem respects_onQueue {mid : World} (hconnector : mid.connector =
      world.connector) (hcontrol : mid.control = world.control)
    (call : Call TimerQueue TimerQueue.Event) :
    Yields (OnQueue mid call) (Respects world) := by
  apply yields_onQueue
  exact fun queue => respects_same hconnector hcontrol (Or.inl rfl)

theorem respects_runFunctor : Yields (RunFunctor world) (Respects world) := by
  apply yields_when
  intro hboth
  rcases hboth with ⟨houtside, _⟩
  split
  · exact yields_error
  · exact respects_startInLoop rfl
  · rename_i rest _
    have hsame : { world with functors := rest }.control = Control.outside :=
      houtside
    refine (stopInLoop_yields hsame).mono (fun next es hnext => ?_)
    rcases hnext with ⟨rfl, hstop, hfinished⟩
    refine ⟨hstop, fun hbefore => ⟨hfinished ?_, by simp, by simp⟩⟩
    rcases hbefore with hdone | ⟨_, hset⟩
    · exact hdone.stop
    · exact hset

theorem respects_handleEvent (revents : BitVec 32) (isError : Nat)
    (isSelfConnect : Bool) :
    Yields (HandleEvent world revents isError isSelfConnect)
      (Respects world) := by
  unfold HandleEvent
  split
  · exact yields_error
  · dsimp only
    split
    · by_cases hnone : world.connector.socketChannel_ = none
      · have hfails := @handleWrite_none { world with
          dispatch := Dispatch.handling true } hnone isError isSelfConnect
        rw [hfails]
        exact yields_error
      · refine (handleWrite_keeps_stop _ _).mono (fun next es hnext => ?_)
        rcases hnext with ⟨hstop, rfl⟩
        apply respects_unfinished
        · exact fun hfinished => hnone hfinished.channel
        · exact hstop
        · simp
    · exact yields_ok.mpr (respects_same rfl rfl (Or.inl rfl))
  · exact yields_error

section Clock

variable {clock : Nat -> Timestamp}

theorem respects_handleRead :
    Yields (HandleRead clock world) (Respects world) := by
  unfold HandleRead
  split
  · exact yields_error
  · exact yields_ok.mpr (respects_same rfl rfl (Or.inl rfl))

theorem respects_runTimer : Yields (RunTimer world) (Respects world) := by
  unfold RunTimer
  split
  · split
    · exact yields_error
    · dsimp only
      split
      · exact respects_startInLoop rfl
      · exact yields_ok.mpr (respects_same rfl rfl (Or.inl rfl))
  · exact yields_error

theorem respects_batch :
    Yields (RestartOrDelete clock world) (Respects world) ∧
      Yields (Rearm clock world) (Respects world) := by
  unfold RestartOrDelete Rearm
  constructor
  · split
    · apply respects_onQueue <;> rfl
    · exact yields_error
  · split
    · apply respects_onQueue <;> rfl
    · exact yields_error

theorem respects_inside {control : Control} {call : Call World Event}
    (hcontrol : control ≠ Control.outside)
    (h : Yields call (fun next es =>
      next.connector.stop_ = world.connector.stop_ ∧
        Event.stopInLoop ∉ es)) :
    Yields (When (world.control = control) call) (Respects world) := by
  apply yields_when
  intro hplace
  refine h.mono (fun next es hnext => ?_)
  apply respects_unfinished _ hnext.1 hnext.2
  intro hfinished
  exact hcontrol (hplace.symm.trans hfinished.control)

theorem runAfter_yields (timer : Address) :
    Yields (RunAfter clock world timer) (fun next es =>
      next.connector.stop_ = world.connector.stop_ ∧
        Event.stopInLoop ∉ es) := by
  apply Yields.in_turn
  apply yields_onQueue
  intro queue
  dsimp only
  split
  · exact yields_error
  · exact yields_ok.mpr ⟨rfl, by simp⟩

theorem perform_respects {i : Input} (hinner : i.Inner = true) :
    Yields (Perform clock world i) (Respects world) := by
  cases i with
  | start | restart | stop | remoteStart | remoteStop | remoteRunInLoop
  | newConnection => cases hinner
  | runFunctor => exact respects_runFunctor
  | startInLoop => exact yields_when (fun _ => respects_startInLoop rfl)
  | attempt savedErrno =>
      apply respects_inside (by decide)
      refine (attempt_yields savedErrno).mono (fun next es hnext => ?_)
      rw [hnext.2]
      exact ⟨hnext.1, by decide⟩
  | runAfter timer => exact respects_inside (by decide) (runAfter_yields timer)
  | poll =>
      apply yields_when
      exact fun _ => yields_ok.mpr (respects_same rfl rfl (Or.inl rfl))
  | handleEvent revents isError isSelfConnect =>
      exact yields_when (fun _ => respects_handleEvent _ _ _)
  | resume =>
      apply yields_when
      intro _
      unfold Resume
      split
      · exact yields_ok.mpr (respects_same rfl rfl (Or.inr ⟨_, rfl⟩))
      · exact yields_error
  | timers op => exact respects_onQueue rfl rfl _
  | runTimerFunctor =>
      exact yields_when (fun _ => respects_onQueue rfl rfl _)
  | timerExpires => exact respects_onQueue rfl rfl _
  | handleRead => exact yields_when (fun _ => respects_handleRead)
  | runTimer => exact yields_when (fun _ => respects_runTimer)
  | restartOrDelete => exact yields_when (fun _ => respects_batch.1)
  | rearm => exact yields_when (fun _ => respects_batch.2)

end Clock

end Connector
end Net
end Wethands
