import Wethands.Net.Connector.Model

/-!
# The channel of a connector and its event

Only a call of the user on the loop thread replaces a channel whose event is
among the active ones, or is being handled.
-/

namespace Wethands
namespace Net

open Foundation Utils Reactor

namespace Connector

variable {world : World}

structure Touches (dispatch : Dispatch) (next : World) (es : List Event) :
    Prop where
  dispatch : next.dispatch = dispatch ∨ next.dispatch = dispatch.Destroyed
  unresumed : forall alive, Event.resumed alive ∉ es

theorem Touches.refl (world : World) : Touches world.dispatch world [] :=
  ⟨Or.inl rfl, by simp⟩

theorem destroyed_destroyed (dispatch : Dispatch) :
    dispatch.Destroyed.Destroyed = dispatch.Destroyed := by
  cases dispatch <;> rfl

theorem handling_destroyed (dispatch : Dispatch) :
    dispatch.Destroyed.Handling = dispatch.Handling := by
  cases dispatch <;> rfl

theorem Touches.trans {dispatch : Dispatch} {mid next : World}
    {es es' : List Event} (first : Touches dispatch mid es)
    (second : Touches mid.dispatch next es') :
    Touches dispatch next (es ++ es') where
  dispatch := by
    rcases second.dispatch with hsecond | hsecond
    · rw [hsecond]
      exact first.dispatch
    · rcases first.dispatch with hfirst | hfirst
      · rw [hsecond, hfirst]
        exact Or.inr rfl
      · rw [hsecond, hfirst, destroyed_destroyed]
        exact Or.inr rfl
  unresumed := by
    intro alive hmem
    rcases List.mem_append.mp hmem with hfirst | hsecond
    · exact first.unresumed alive hfirst
    · exact second.unresumed alive hsecond

theorem Touches.handling {dispatch : Dispatch} {next : World}
    {es : List Event} (h : Touches dispatch next es) :
    next.dispatch.Handling = dispatch.Handling := by
  rcases h.dispatch with hdispatch | hdispatch
  · rw [hdispatch]
  · rw [hdispatch, handling_destroyed]

theorem Touches.in_turn {dispatch : Dispatch} {call : Call World Event}
    {second : World -> Call World Event}
    (hcall : Yields call (Touches dispatch))
    (hsecond : forall mid, Yields (second mid) (Touches mid.dispatch)) :
    Yields (Then call second) (Touches dispatch) :=
  Yields.in_turn (hcall.mono (fun mid _ hmid =>
    (hsecond mid).mono (fun _ _ hnext => hmid.trans hnext)))

theorem yields_when {p : Prop} [Decidable p] {call : Call World Event}
    {Q : World -> List Event -> Prop} (h : p -> Yields call Q) :
    Yields (When p call) Q :=
  Yields.only_if h

theorem yields_onQueue {call : Call TimerQueue TimerQueue.Event}
    {Q : World -> List Event -> Prop}
    (h : forall queue, Q { world with queue := queue } []) :
    Yields (OnQueue world call) Q := by
  unfold OnQueue
  split
  · exact yields_error
  · exact yields_ok.mpr (h _)

/-!
# One lemma for each operation
-/

theorem resetChannel_touches (world : World) (channel : Option Channel) :
    Yields (ResetChannel world channel) (Touches world.dispatch) := by
  unfold ResetChannel
  split
  · exact yields_ok.mpr ⟨Or.inl rfl, by simp⟩
  · exact Yields.assert (fun _ => yields_ok.mpr ⟨Or.inr rfl, by simp⟩)

theorem registerForConnecting_touches (world : World) :
    Yields (RegisterForConnecting world) (Touches world.dispatch) := by
  unfold RegisterForConnecting
  refine Yields.assert (fun _ => ?_)
  split
  · exact yields_error
  · exact Yields.assert (fun _ => yields_ok.mpr ⟨Or.inl rfl, by simp⟩)

theorem unregisterForConnecting_yields (world : World) :
    Yields (UnregisterForConnecting world) (fun next es =>
      es = [] ∧ exists channel, next = { world with
        connector := { world.connector with
          socketChannel_ := some channel } }) := by
  unfold UnregisterForConnecting
  split
  · exact yields_error
  · refine Yields.assert (fun _ => ?_)
    split
    · split
      · exact yields_error
      · exact yields_ok.mpr ⟨rfl, _, rfl⟩
    · exact yields_error

theorem clearConnecting_touches (world : World) :
    Yields (ClearConnecting world) (Touches world.dispatch) := by
  unfold ClearConnecting
  split
  · split
    · exact yields_error
    · refine Yields.assert (fun _ => Touches.in_turn ?_ ?_)
      · refine (unregisterForConnecting_yields world).mono ?_
        intro next es hanswer
        rcases hanswer with ⟨rfl, channel, rfl⟩
        exact ⟨Or.inl rfl, by simp⟩
      · exact fun mid => yields_ok.mpr ⟨Or.inl rfl, by simp⟩
  · exact yields_ok.mpr (Touches.refl world)

theorem startInLoop_touches (world : World) :
    Yields (StartInLoop world) (Touches world.dispatch) := by
  unfold StartInLoop
  split <;> exact yields_ok.mpr ⟨Or.inl rfl, by simp⟩

theorem retry_yields (world : World) :
    Yields (Retry world) (fun next es => es = [] ∧
      (next = { world with control := Control.outside } ∨
        next = { world with control := Control.retry })) := by
  unfold Retry
  split
  · exact yields_ok.mpr ⟨rfl, Or.inl rfl⟩
  · exact yields_ok.mpr ⟨rfl, Or.inr rfl⟩

theorem attempt_touches (world : World) (savedErrno : Nat) :
    Yields (Attempt world savedErrno) (Touches world.dispatch) := by
  unfold Attempt
  refine Yields.assert (fun _ => ?_)
  refine Touches.in_turn (resetChannel_touches _ _) (fun mid => ?_)
  refine Touches.in_turn (yields_ok.mpr ⟨Or.inl rfl, by simp⟩)
    (fun mid => ?_)
  split
  · exact Touches.in_turn (registerForConnecting_touches mid)
      (fun last => yields_ok.mpr ⟨Or.inl rfl, by simp⟩)
  · split
    · refine (retry_yields mid).mono ?_
      intro next es hanswer
      rcases hanswer with ⟨rfl, rfl | rfl⟩
      · exact ⟨Or.inl rfl, by simp⟩
      · exact ⟨Or.inl rfl, by simp⟩
    · exact resetChannel_touches _ none

theorem handleWrite_yields (world : World) (isError : Nat)
    (isSelfConnect : Bool) (hcontrol : world.control = Control.outside) :
    Yields (HandleWrite world isError isSelfConnect) (fun next es =>
      es = [] ∧ next.dispatch = world.dispatch ∧
        next.batch = world.batch ∧ next.control ≠ Control.restart ∧
        next.control ≠ Control.startInLoop) := by
  unfold HandleWrite
  refine Yields.in_turn ((unregisterForConnecting_yields world).mono ?_)
  intro mid es hanswer
  rcases hanswer with ⟨rfl, channel, rfl⟩
  dsimp only
  have hretry : forall world' : World, world'.dispatch = world.dispatch ->
      world'.batch = world.batch -> Yields (Retry world') (fun next es' =>
        [] ++ es' = [] ∧ next.dispatch = world.dispatch ∧
          next.batch = world.batch ∧ next.control ≠ Control.restart ∧
          next.control ≠ Control.startInLoop) := by
    intro world' hdispatch hbatch
    refine (retry_yields world').mono ?_
    intro next es hanswer
    rcases hanswer with ⟨rfl, rfl | rfl⟩
    · exact ⟨rfl, hdispatch, hbatch, by simp, by simp⟩
    · exact ⟨rfl, hdispatch, hbatch, by simp, by simp⟩
  split
  · split
    · split
      · exact hretry _ rfl rfl
      · split
        · exact yields_ok.mpr ⟨rfl, rfl, rfl, by simp, by simp⟩
        · exact yields_ok.mpr
            ⟨rfl, rfl, rfl, by simp [hcontrol], by simp [hcontrol]⟩
    · exact hretry _ rfl rfl
  · exact yields_error

theorem cancelRetry_touches (world : World) :
    Yields (CancelRetry world) (Touches world.dispatch) :=
  yields_onQueue (fun _ => ⟨Or.inl rfl, by simp⟩)

theorem restart_touches (world : World) :
    Yields (Restart world) (Touches world.dispatch) := by
  refine Touches.in_turn (yields_ok.mpr ⟨Or.inl rfl, by simp⟩)
    (fun mid => ?_)
  exact Touches.in_turn (clearConnecting_touches mid)
    (fun last => cancelRetry_touches _)

theorem stopInLoop_touches (world : World) :
    Yields (StopInLoop world) (Touches world.dispatch) := by
  refine Touches.in_turn (clearConnecting_touches _) (fun mid => ?_)
  refine Touches.in_turn (cancelRetry_touches mid) (fun next => ?_)
  exact Touches.in_turn (resetChannel_touches next none)
    (fun last => yields_ok.mpr ⟨Or.inl rfl, by simp⟩)

theorem stop_touches (world : World) :
    Yields (Stop world) (Touches world.dispatch) :=
  Touches.in_turn (stopInLoop_touches _)
    (fun last => yields_ok.mpr ⟨Or.inl rfl, by simp⟩)

/-!
# Steps
-/

def Passes (world next : World) : Prop :=
  next.dispatch = world.dispatch ∧
    next.connector.socketChannel_ = world.connector.socketChannel_

structure Untouched (world next : World) (es : List Event) : Prop where
  passes : Passes world next
  socket : next.connector.socket_ = world.connector.socket_
  connecting : next.connector.connecting_ = world.connector.connecting_
  control : next.control = Control.handleWrite ->
    world.control = Control.handleWrite
  unresumed : forall alive, Event.resumed alive ∉ es
  unstopped : Event.stopInLoop ∉ es

theorem startInLoop_untouched {world mid : World}
    (hconnector : mid.connector = world.connector)
    (hdispatch : mid.dispatch = world.dispatch) :
    Yields (StartInLoop mid) (Untouched world) := by
  unfold StartInLoop
  rw [hconnector]
  split <;> refine yields_ok.mpr
    ⟨⟨hdispatch, ?_⟩, ?_, ?_, by simp, by simp, by simp⟩
  all_goals rw [← hconnector]

theorem onQueue_untouched {world mid : World}
    {call : Call TimerQueue TimerQueue.Event}
    (hconnector : mid.connector = world.connector)
    (hdispatch : mid.dispatch = world.dispatch)
    (hcontrol : mid.control = world.control) :
    Yields (OnQueue mid call) (Untouched world) := by
  refine yields_onQueue (fun queue => ?_)
  refine ⟨⟨hdispatch, ?_⟩, ?_, ?_, fun h => hcontrol ▸ h, by simp, by simp⟩
  all_goals rw [← hconnector]

section Clock

variable (clock : Nat -> Timestamp)

theorem runAfter_passes (world : World) (timer : Address) :
    Yields (RunAfter clock world timer) (fun next es => es = [] ∧
      Passes world next ∧ next.batch = world.batch ∧
      next.control = Control.outside) := by
  refine Yields.in_turn (yields_onQueue (fun queue => ?_))
  dsimp only
  split
  · exact yields_error
  · exact yields_ok.mpr ⟨rfl, ⟨rfl, rfl⟩, rfl, rfl⟩

def Input.Passive : Input -> Bool
  | restart => false
  | stop => false
  | runFunctor => false
  | attempt _ => false
  | poll => false
  | handleEvent _ _ _ => false
  | resume => false
  | _ => true

def Input.Distant : Input -> Bool
  | newConnection => false
  | i => i.Passive

theorem perform_untouched {world : World} {i : Input}
    (hdistant : i.Distant = true) :
    Yields (Perform clock world i) (Untouched world) := by
  have hsame : forall next : World, forall es,
      next.connector = world.connector -> next.dispatch = world.dispatch ->
      next.control = world.control ->
      (forall alive, Event.resumed alive ∉ es) -> Event.stopInLoop ∉ es ->
      Untouched world next es := by
    intro next es hconnector hdispatch hcontrol hunresumed hunstopped
    refine ⟨⟨hdispatch, ?_⟩, ?_, ?_, fun h => hcontrol ▸ h, hunresumed,
      hunstopped⟩
    all_goals rw [hconnector]
  cases i with
  | start => exact yields_when (fun _ => startInLoop_untouched rfl rfl)
  | remoteStart =>
      exact yields_when (fun _ =>
        yields_ok.mpr (hsame _ _ rfl rfl rfl (by simp) (by simp)))
  | remoteStop =>
      exact yields_ok.mpr
        ⟨⟨rfl, rfl⟩, rfl, rfl, fun h => h, by simp, by simp⟩
  | remoteRunInLoop =>
      exact yields_when (fun _ =>
        yields_ok.mpr (hsame _ _ rfl rfl rfl (by simp) (by simp)))
  | startInLoop => exact yields_when (fun _ => startInLoop_untouched rfl rfl)
  | runAfter timer =>
      refine yields_when (fun _ => Yields.in_turn (yields_onQueue ?_))
      intro queue
      dsimp only
      split
      · exact yields_error
      · exact yields_ok.mpr
          ⟨⟨rfl, rfl⟩, rfl, rfl, by simp, by simp, by simp⟩
  | timers op => exact onQueue_untouched rfl rfl rfl
  | runTimerFunctor =>
      exact yields_when (fun _ => onQueue_untouched rfl rfl rfl)
  | timerExpires => exact onQueue_untouched rfl rfl rfl
  | handleRead =>
      refine yields_when (fun _ => ?_)
      unfold HandleRead
      split
      · exact yields_error
      · exact yields_ok.mpr (hsame _ _ rfl rfl rfl (by simp) (by simp))
  | runTimer =>
      refine yields_when (fun _ => ?_)
      unfold RunTimer
      split
      · split
        · exact yields_error
        · dsimp only
          split
          · exact startInLoop_untouched rfl rfl
          · exact yields_ok.mpr (hsame _ _ rfl rfl rfl (by simp) (by simp))
      · exact yields_error
  | restartOrDelete =>
      refine yields_when (fun _ => ?_)
      unfold RestartOrDelete
      split
      · exact onQueue_untouched rfl rfl rfl
      · exact yields_error
  | rearm =>
      refine yields_when (fun _ => ?_)
      unfold Rearm
      split
      · exact onQueue_untouched rfl rfl rfl
      · exact yields_error
  | _ => cases hdistant

theorem perform_passes (world : World) {i : Input}
    (hpassive : i.Passive = true) :
    Yields (Perform clock world i) (fun next es =>
      Passes world next ∧ forall alive, Event.resumed alive ∉ es) := by
  by_cases hdistant : i.Distant = true
  · exact (perform_untouched clock hdistant).mono
      (fun next es hnext => ⟨hnext.passes, hnext.unresumed⟩)
  · cases i with
    | newConnection =>
        exact yields_when (fun _ => yields_ok.mpr ⟨⟨rfl, rfl⟩, by simp⟩)
    | _ => exact absurd hpassive hdistant

/-!
# The channel among the active ones
-/

def Waiting (world : World) : Prop :=
  world.dispatch = Dispatch.ahead true ∧ world.connector.Registered = true

theorem stopInLoop_registered (h : world.connector.Registered = true)
    {Q : World -> List Event -> Prop} : Yields (StopInLoop world) Q := by
  have hchannel : exists channel,
      world.connector.socketChannel_ = some channel ∧
        channel.registeredToPoller = true := by
    cases hchannel : world.connector.socketChannel_ with
    | none => simp [Registered, hchannel] at h
    | some channel =>
        exact ⟨channel, rfl, by simpa [Registered, hchannel] using h⟩
  rcases hchannel with ⟨channel, hchannel, hregistered⟩
  apply Yields.in_turn
  unfold ClearConnecting
  dsimp only
  split
  · rw [hchannel]
    refine Yields.assert (fun _ => ?_)
    -- The socket is gone, so the poller refuses its descriptor.
    simp only [UnregisterForConnecting, Assert, hregistered,
      if_true, Bool.false_eq_true, if_false, Then]
    exact yields_error
  · refine yields_ok.mpr (Yields.in_turn (yields_onQueue (fun queue => ?_)))
    apply Yields.in_turn
    unfold ResetChannel
    dsimp only
    rw [hchannel]
    refine Yields.assert (fun hnot => ?_)
    rw [hregistered] at hnot
    cases hnot

theorem poll_waiting (world : World) :
    Yields (Perform clock world Input.poll) (fun next _ => Waiting next) :=
  yields_when (fun hpoll => yields_ok.mpr ⟨rfl, hpoll.2⟩)

/-- Only `Restart` takes it away before it is handled. -/
theorem perform_waiting (h : Waiting world) {i : Input}
    (hrestart : i ≠ Input.restart)
    (hhandle : forall revents isError isSelfConnect,
      i ≠ Input.handleEvent revents isError isSelfConnect) :
    Yields (Perform clock world i) (fun next _ => Waiting next) := by
  have hbusy : ¬Draining world := by simp [Draining, h.1]
  by_cases hpassive : i.Passive = true
  · refine (perform_passes clock world hpassive).mono ?_
    intro next es hanswer
    rcases hanswer with ⟨hpasses, _⟩
    refine ⟨hpasses.1.trans h.1, ?_⟩
    rw [Registered, hpasses.2]
    exact h.2
  · cases i with
    | restart => exact absurd rfl hrestart
    | stop =>
        refine yields_when (fun _ => Yields.in_turn ?_)
        apply stopInLoop_registered
        exact h.2
    | runFunctor => exact yields_when (fun hidle => absurd hidle hbusy)
    | attempt savedErrno =>
        refine yields_when (fun _ => Yields.assert (fun hnot => ?_))
        have hregistered : world.connector.Registered = false := hnot
        rw [h.2] at hregistered
        cases hregistered
    | poll => exact yields_when (fun hidle => absurd hidle.1 hbusy)
    | handleEvent revents isError isSelfConnect =>
        exact absurd rfl (hhandle revents isError isSelfConnect)
    | resume =>
        refine yields_when (fun _ => ?_)
        rw [Resume, h.1]
        exact yields_error
    | _ => exact absurd rfl hpassive

/-!
# The channel that is being handled
-/

/-- The user does not call the connector back while its channel is handled. -/
def LeftAlone (world : World) : Input -> Prop
  | Input.start => world.dispatch.Handling = false
  | Input.restart => world.dispatch.Handling = false
  | Input.stop => world.dispatch.Handling = false
  | _ => True

instance (world : World) (i : Input) : Decidable (LeftAlone world i) := by
  unfold LeftAlone
  split <;> infer_instance

/-- Nothing is about to replace the channel that is being handled. -/
def Undisturbed (world : World) : Prop :=
  world.dispatch.Handling = true ->
    world.dispatch = Dispatch.handling true ∧ world.batch = none ∧
      world.control ≠ Control.restart ∧ world.control ≠ Control.startInLoop

def Returns (next : World) (es : List Event) : Prop :=
  Undisturbed next ∧ forall alive, Event.resumed alive ∈ es -> alive = true

theorem Undisturbed.same {next : World} {es : List Event}
    (h : Undisturbed world) (hdispatch : next.dispatch = world.dispatch)
    (hbatch : next.batch = world.batch)
    (hcontrol : next.control = world.control ∨
      next.control = Control.outside)
    (hes : forall alive, Event.resumed alive ∉ es) : Returns next es := by
  refine ⟨?_, fun alive hmem => absurd hmem (hes alive)⟩
  intro hhandling
  rw [hdispatch] at hhandling ⊢
  rcases h hhandling with ⟨halive, hnone, hrestart, hstart⟩
  refine ⟨halive, hbatch.trans hnone, ?_⟩
  rcases hcontrol with hsame | houtside
  · rw [hsame]
    exact ⟨hrestart, hstart⟩
  · simp [houtside]

theorem returns_of_handling {next : World} {es : List Event}
    (hhandling : next.dispatch.Handling = false)
    (hes : forall alive, Event.resumed alive ∉ es) : Returns next es := by
  refine ⟨?_, fun alive hmem => absurd hmem (hes alive)⟩
  intro h
  rw [hhandling] at h
  cases h

theorem perform_handling (h : Undisturbed world)
    (hhandling : world.dispatch.Handling = true) {i : Input}
    (hcalm : LeftAlone world i) :
    Yields (Perform clock world i) Returns := by
  rcases h hhandling with ⟨hdispatch, hbatch, hrestart, hstart⟩
  have hbusy : ¬Draining world := by simp [Draining, hdispatch]
  cases i with
  | start =>
      rw [LeftAlone, hhandling] at hcalm
      cases hcalm
  | restart =>
      rw [LeftAlone, hhandling] at hcalm
      cases hcalm
  | stop =>
      rw [LeftAlone, hhandling] at hcalm
      cases hcalm
  | remoteStart =>
      exact yields_when (fun _ => yields_ok.mpr
        (h.same rfl rfl (Or.inl rfl) (by simp)))
  | remoteStop => exact yields_ok.mpr (h.same rfl rfl (Or.inl rfl) (by simp))
  | remoteRunInLoop =>
      exact yields_when (fun _ => yields_ok.mpr
        (h.same rfl rfl (Or.inl rfl) (by simp)))
  | runFunctor => exact yields_when (fun hidle => absurd hidle hbusy)
  | startInLoop =>
      exact yields_when (fun hcontrol => absurd hcontrol hrestart)
  | attempt savedErrno =>
      exact yields_when (fun hcontrol => absurd hcontrol hstart)
  | newConnection =>
      exact yields_when (fun _ => yields_ok.mpr
        (h.same rfl rfl (Or.inr rfl) (by simp)))
  | runAfter timer =>
      refine yields_when (fun _ => ?_)
      refine (runAfter_passes clock world timer).mono ?_
      intro next es hanswer
      rcases hanswer with ⟨rfl, hpasses, hnext, hcontrol⟩
      exact h.same hpasses.1 hnext (Or.inr hcontrol) (by simp)
  | poll => exact yields_when (fun hidle => absurd hidle.1 hbusy)
  | handleEvent revents isError isSelfConnect =>
      refine yields_when (fun _ => ?_)
      rw [HandleEvent, hdispatch]
      exact yields_error
  | resume =>
      refine yields_when (fun _ => ?_)
      rw [Resume, hdispatch]
      refine yields_ok.mpr ⟨?_, by simp⟩
      simp [Undisturbed, Dispatch.Handling]
  | timers op =>
      exact yields_onQueue (fun _ => h.same rfl rfl (Or.inl rfl) (by simp))
  | runTimerFunctor => exact yields_when (fun hidle => absurd hidle hbusy)
  | timerExpires =>
      exact yields_onQueue (fun _ => h.same rfl rfl (Or.inl rfl) (by simp))
  | handleRead =>
      refine yields_when (fun hidle => ?_)
      rw [hhandling] at hidle
      cases hidle.2
  | runTimer =>
      refine yields_when (fun _ => ?_)
      rw [RunTimer, hbatch]
      exact yields_error
  | restartOrDelete =>
      refine yields_when (fun _ => ?_)
      rw [RestartOrDelete, hbatch]
      exact yields_error
  | rearm =>
      refine yields_when (fun _ => ?_)
      rw [Rearm, hbatch]
      exact yields_error

theorem perform_outside (hhandling : world.dispatch.Handling = false)
    (i : Input) : Yields (Perform clock world i) Returns := by
  have htouches : forall {next : World} {es : List Event},
      Touches world.dispatch next es -> Returns next es := by
    intro next es h
    exact returns_of_handling (h.handling.trans hhandling) h.unresumed
  by_cases hpassive : i.Passive = true
  · refine (perform_passes clock world hpassive).mono ?_
    intro next es hanswer
    rcases hanswer with ⟨hpasses, hes⟩
    refine returns_of_handling ?_ hes
    rw [hpasses.1]
    exact hhandling
  · cases i with
    | restart =>
        exact yields_when (fun _ =>
          (restart_touches world).mono (fun _ _ => htouches))
    | stop =>
        exact yields_when (fun _ =>
          (stop_touches world).mono (fun _ _ => htouches))
    | runFunctor =>
        refine yields_when (fun _ => ?_)
        split
        · exact yields_error
        · exact (startInLoop_touches _).mono (fun _ _ => htouches)
        · exact (stopInLoop_touches _).mono (fun _ _ => htouches)
    | attempt savedErrno =>
        exact yields_when (fun _ =>
          (attempt_touches world savedErrno).mono (fun _ _ => htouches))
    | poll =>
        exact yields_when (fun _ => yields_ok.mpr
          (returns_of_handling rfl (by simp)))
    | handleEvent revents isError isSelfConnect =>
        refine yields_when (fun hidle => ?_)
        unfold HandleEvent
        split
        · exact yields_error
        · dsimp only
          split
          · refine Yields.mono (handleWrite_yields _ isError isSelfConnect ?_)
              ?_
            · exact hidle.1
            · intro next es hanswer
              rcases hanswer with ⟨rfl, hdispatch, hbatch, hrestart, hstart⟩
              exact ⟨fun _ => ⟨hdispatch, hbatch.trans hidle.2, hrestart,
                hstart⟩, by simp⟩
          · refine yields_ok.mpr ⟨fun _ => ⟨rfl, hidle.2, ?_, ?_⟩, by simp⟩
            · simp [hidle.1]
            · simp [hidle.1]
        · exact yields_error
    | resume =>
        refine yields_when (fun _ => ?_)
        unfold Resume
        split
        · rename_i alive hdispatch
          simp [hdispatch, Dispatch.Handling] at hhandling
        · exact yields_error
    | _ => exact absurd rfl hpassive

/-- Control always comes back to a channel that still exists. -/
theorem resumed_alive {newConnectionCallback : Bool} {inputs : List Input}
    {tr : List Event}
    (hrun : (ConnectorMachine clock).Run (Init newConnectionCallback) inputs =
      some (world, tr))
    (hguard : (ConnectorMachine clock).Guarded LeftAlone
      (Init newConnectionCallback) inputs) :
    forall alive, Event.resumed alive ∈ tr -> alive = true := by
  have hlast := Machine.run_invariant_of_guard
    (I := fun world tr => Undisturbed world ∧
      forall alive, Event.resumed alive ∈ tr -> alive = true) (p := [])
    (fun s tr i t es hinv hcalm hstep => by
      have hnext : Returns t es := by
        by_cases hhandling : s.dispatch.Handling = true
        · exact perform_handling clock hinv.1 hhandling hcalm t es
            (answer_eq_some.mp hstep)
        · exact perform_outside clock (Bool.eq_false_iff.mpr hhandling) i t es
            (answer_eq_some.mp hstep)
      refine ⟨hnext.1, fun alive hmem => ?_⟩
      rcases List.mem_append.mp hmem with hold | hnew
      · exact hinv.2 alive hold
      · exact hnext.2 alive hnew)
    ⟨by simp [Undisturbed, Init, Dispatch.Handling], by simp⟩ hguard hrun
  rw [List.nil_append] at hlast
  exact hlast.2

end Clock

end Connector
end Net
end Wethands
