import Wethands.Net.Connector.Retries

/-!
# What each operation does

A connector rests, with its channel unregistered, or waits for its channel to
become writable.  From these two shapes every operation is described once, with
everything that it changes.
-/

namespace Wethands
namespace Net

open Foundation Utils Reactor

namespace Connector

open TimerQueue (HoldsBatch)

/-- The connector is not connecting and nothing is registered. -/
def Resting (connector : Connector) : Prop :=
  connector.connecting_ = false ∧
    (connector.socketChannel_ = none ∨
      connector.socketChannel_ = some Channel.New)

def Idle (connector : Connector) (dispatch : Dispatch) : Prop :=
  Resting connector ∧ forall alive, dispatch ≠ Dispatch.ahead alive

def Connecting (connector : Connector) : Prop :=
  connector.connecting_ = true ∧ connector.socket_ = true ∧
    connector.socketChannel_ = some Channel.New.EnableWriting

structure Shape (connector : Connector) (control : Control)
    (dispatch : Dispatch) : Prop where
  channel : Resting connector ∨ Connecting connector
  control : control ≠ Control.outside -> connector.connecting_ = false
  ahead : forall alive, dispatch = Dispatch.ahead alive ->
    alive = true ∧ connector.connecting_ = true

variable {connector : Connector} {control : Control} {dispatch : Dispatch}
  {world : World}

theorem Idle.shape (h : Idle connector dispatch) (control : Control) :
    Shape connector control dispatch where
  channel := Or.inl h.1
  control := fun _ => h.1.1
  ahead := fun alive hahead => absurd hahead (h.2 alive)

theorem Shape.idle (h : Shape connector control dispatch)
    (hnot : connector.connecting_ = false) : Idle connector dispatch := by
  constructor
  · rcases h.channel with hresting | hconnecting
    · exact hresting
    · rw [hconnecting.1] at hnot
      cases hnot
  · intro alive hahead
    rw [(h.ahead alive hahead).2] at hnot
    cases hnot

theorem Resting.unregistered (h : Resting connector) :
    connector.Registered = false := by
  rcases h.2 with hchannel | hchannel
  · simp [Registered, hchannel]
  · simp [Registered, hchannel, Channel.New]

theorem unregisterForConnecting_spec
    (hchannel : world.connector.socketChannel_ =
      some Channel.New.EnableWriting) :
    Ensures (UnregisterForConnecting world) (fun next es =>
      es = [] ∧ next = { world with connector := { world.connector with
        socketChannel_ := some Channel.New } }) := by
  unfold UnregisterForConnecting
  rw [hchannel]
  apply Ensures.assert rfl
  split
  · exact ⟨rfl, rfl⟩
  · exact ensures_sysFatal

theorem resetChannel_spec {channel : Option Channel}
    (h : Idle world.connector world.dispatch) :
    Ensures (ResetChannel world channel) (fun next es =>
      es = [] ∧ exists dispatch,
        (forall alive, dispatch ≠ Dispatch.ahead alive) ∧
        next = { world with
          connector := { world.connector with socketChannel_ := channel }
          dispatch := dispatch }) := by
  unfold ResetChannel
  split
  · exact ⟨rfl, _, h.2, rfl⟩
  · rename_i old hold
    have hunregistered : old.registeredToPoller = false := by
      simpa [Registered, hold] using h.1.unregistered
    refine Ensures.assert hunregistered ⟨rfl, _, ?_, rfl⟩
    intro alive
    have hnot := h.2
    cases hdispatch : world.dispatch with
    | idle => simp [Dispatch.Destroyed]
    | ahead alive => exact absurd hdispatch (hnot alive)
    | handling alive => simp [Dispatch.Destroyed]

/--
What the code of the connector changes, apart from its timers: the channel, the
place of control and what is left to be done with the event.
-/
def Moves (world next : World) : Prop :=
  exists connector control dispatch,
    next = { world with
      connector := connector
      control := control
      dispatch := dispatch } ∧
    connector.timerIdx_ = world.connector.timerIdx_ ∧
    connector.stop_ = world.connector.stop_ ∧
    Shape connector control dispatch

theorem Idle.moves (h : Idle world.connector world.dispatch)
    (control : Control) : Moves world { world with control := control } :=
  ⟨_, _, _, rfl, rfl, rfl, h.shape control⟩

/-!
# Within the code of the connector
-/

theorem startInLoop_eq (world : World) : StartInLoop world =
    Except.ok ({ world with control :=
      if world.connector.stop_ = true then Control.outside
      else Control.startInLoop }, []) := by
  unfold StartInLoop
  split <;> rfl

theorem retry_eq (world : World) : Retry world =
    Except.ok ({ world with control :=
      if world.connector.stop_ = true then Control.outside
      else Control.retry }, []) := by
  unfold Retry
  split <;> rfl

theorem attempt_spec {savedErrno : Nat}
    (h : Idle world.connector world.dispatch) :
    Ensures (Attempt world savedErrno) (fun next es =>
      es = [Event.connect] ∧ Moves world next) := by
  refine Ensures.assert h.1.unregistered (Ensures.in_turn ?_)
  refine Ensures.mono (resetChannel_spec h) (fun mid es hmid => ?_)
  rcases hmid with ⟨rfl, dispatch, hnot, rfl⟩
  apply Ensures.in_turn
  rw [ensures_ok]
  have hidle : Idle { world.connector with
      socket_ := true
      socketChannel_ := some Channel.New } dispatch :=
    ⟨⟨h.1.1, Or.inr rfl⟩, hnot⟩
  split
  · refine Ensures.in_turn (Ensures.assert rfl (Ensures.assert rfl ?_))
    refine ⟨rfl, _, _, _, rfl, rfl, rfl, Or.inr ⟨rfl, rfl, rfl⟩, by simp, ?_⟩
    exact fun alive hahead => absurd hahead (hnot alive)
  · split
    · rw [retry_eq]
      exact ⟨rfl, _, _, _, rfl, rfl, rfl, hidle.shape _⟩
    · refine Ensures.mono (resetChannel_spec ?_) (fun next es hnext => ?_)
      · exact ⟨⟨h.1.1, Or.inr rfl⟩, hnot⟩
      · rcases hnext with ⟨rfl, dispatch', hnot', rfl⟩
        refine ⟨rfl, _, _, _, rfl, rfl, rfl, Idle.shape ?_ _⟩
        exact ⟨⟨h.1.1, Or.inl rfl⟩, hnot'⟩

theorem handleWrite_spec {isError : Nat} {isSelfConnect : Bool}
    (hconnecting : Connecting world.connector)
    (hnot : forall alive, world.dispatch ≠ Dispatch.ahead alive) :
    Ensures (HandleWrite world isError isSelfConnect) (fun next es =>
      es = [] ∧ Moves world next ∧
        (next.control = Control.handleWrite ∧ isError = 0 ∧
            isSelfConnect = false ∧
            world.connector.newConnectionCallback_ = true ∨
          next.control = world.control ∨
          next.control = if world.connector.stop_ = true then Control.outside
            else Control.retry)) := by
  apply Ensures.in_turn
  refine Ensures.mono (unregisterForConnecting_spec hconnecting.2.2)
    (fun mid es hmid => ?_)
  rcases hmid with ⟨rfl, rfl⟩
  have hidle : Idle { world.connector with
      socketChannel_ := some Channel.New
      connecting_ := false } world.dispatch :=
    ⟨⟨rfl, Or.inr rfl⟩, hnot⟩
  dsimp only
  rw [if_pos hconnecting.2.1, retry_eq]
  split
  · rename_i herror
    split
    · exact ⟨rfl, ⟨_, _, _, rfl, rfl, rfl, hidle.shape _⟩, Or.inr (Or.inr rfl)⟩
    · rename_i hself
      split
      · rename_i hcallback
        exact ⟨rfl, ⟨_, _, _, rfl, rfl, rfl, hidle.shape _⟩,
          Or.inl ⟨rfl, herror, by simpa using hself, hcallback⟩⟩
      · exact ⟨rfl, ⟨_, _, _, rfl, rfl, rfl, hidle.shape _⟩,
          Or.inr (Or.inl rfl)⟩
  · exact ⟨rfl, ⟨_, _, _, rfl, rfl, rfl, hidle.shape _⟩, Or.inr (Or.inr rfl)⟩

/-- A registered channel whose socket has been closed ends the process. -/
theorem clearConnecting_spec {Q : World -> List Event -> Prop}
    (h : Resting world.connector ∨ world.connector.connecting_ = true ∧
      world.connector.socketChannel_ = some Channel.New.EnableWriting)
    (hresting : Resting world.connector -> Q world [])
    (hconnecting : Connecting world.connector ->
      Q { world with connector := { world.connector with
        socketChannel_ := some Channel.New
        connecting_ := false } } []) :
    Ensures (ClearConnecting world) Q := by
  unfold ClearConnecting
  rcases h with hrest | ⟨htrue, hchannel⟩
  · rw [hrest.1]
    exact hresting hrest
  · rw [if_pos htrue, hchannel]
    refine Ensures.assert ⟨by decide, rfl⟩ (Ensures.in_turn ?_)
    unfold UnregisterForConnecting
    rw [hchannel]
    apply Ensures.assert rfl
    split
    · rename_i hsocket
      exact hconnecting ⟨htrue, hsocket, hchannel⟩
    · exact ensures_sysFatal

theorem ensures_when {p : Prop} [Decidable p] {call : Call World Event}
    {Q : World -> List Event -> Prop} (h : p -> Ensures call Q) :
    Ensures (When p call) Q := by
  unfold When
  split
  · exact h ‹_›
  · exact ensures_impossible

theorem ensures_onQueue {call : Call TimerQueue TimerQueue.Event}
    {Q : World -> List Event -> Prop}
    (h : Ensures call (fun queue _ => Q { world with queue := queue } [])) :
    Ensures (OnQueue world call) Q := by
  rcases call with failure | ⟨queue, es⟩
  · exact h
  · exact h

/-!
# Calls of the user
-/

def TimersOf (world : World) : Prop :=
  Timers world.queue world.retries world.batch world.connector.timerIdx_

def NoRetry (queue : TimerQueue) (retries : List Nat) : Prop :=
  forall i, i ∈ queue.timers_ -> i.sequence_ ∉ retries

theorem restart_spec (htimers : TimersOf world)
    (hshape : Shape world.connector world.control world.dispatch) :
    Ensures (Restart world) (fun next es =>
      es = [Event.restart] ∧ exists connector queue,
        next = { world with
          connector := connector
          queue := queue
          control := Control.restart } ∧
        Resting connector ∧
        Timers queue world.retries world.batch connector.timerIdx_ ∧
        NoRetry queue world.retries) := by
  have hcancel : forall connector, Resting connector ->
      connector.timerIdx_ = world.connector.timerIdx_ ->
      Ensures (CancelRetry { world with
        connector := { connector with
          retryDelay_ := kInitRetryDelay
          stop_ := false }
        control := Control.restart }) (fun next es =>
          es = [] ∧ exists connector queue,
            next = { world with
              connector := connector
              queue := queue
              control := Control.restart } ∧
            Resting connector ∧
            Timers queue world.retries world.batch connector.timerIdx_ ∧
            NoRetry queue world.retries) := by
    intro connector hresting hidx
    apply ensures_onQueue
    have htimers' := htimers
    rw [TimersOf, ← hidx] at htimers'
    refine Ensures.mono (cancel_spec htimers') (fun queue _ hqueue => ?_)
    exact ⟨rfl, _, _, rfl, hresting, hqueue.1, hqueue.2⟩
  refine Ensures.in_turn (Ensures.in_turn ?_)
  refine clearConnecting_spec (hshape.channel.imp_right ?_) ?_ ?_
  · exact fun hconnecting => ⟨hconnecting.1, hconnecting.2.2⟩
  · intro hresting
    refine Ensures.mono (hcancel _ hresting rfl) (fun next es hnext => ?_)
    rcases hnext with ⟨rfl, hnext⟩
    exact ⟨rfl, hnext⟩
  · intro _
    refine Ensures.mono (hcancel _ ⟨rfl, Or.inr rfl⟩ rfl)
      (fun next es hnext => ?_)
    rcases hnext with ⟨rfl, hnext⟩
    exact ⟨rfl, hnext⟩

theorem stopInLoop_spec (htimers : TimersOf world)
    (hshape : Shape world.connector world.control world.dispatch) :
    Ensures (StopInLoop world) (fun next es =>
      es = [Event.stopInLoop] ∧ world.connector.connecting_ = false ∧
        exists queue dispatch,
          next = { world with
            connector := { world.connector with
              socket_ := false
              socketChannel_ := none }
            queue := queue
            dispatch := dispatch } ∧
          (forall alive, dispatch ≠ Dispatch.ahead alive) ∧
          Timers queue world.retries world.batch world.connector.timerIdx_ ∧
          NoRetry queue world.retries) := by
  refine Ensures.in_turn (clearConnecting_spec ?_ ?_ ?_)
  · apply hshape.channel.imp_right
    exact fun hconnecting => ⟨hconnecting.1, hconnecting.2.2⟩
  · intro hresting
    refine Ensures.in_turn (ensures_onQueue ?_)
    refine Ensures.mono (cancel_spec htimers) (fun queue _ hqueue => ?_)
    apply Ensures.in_turn
    refine Ensures.mono (resetChannel_spec ?_) (fun next es hnext => ?_)
    · exact hshape.idle hresting.1
    · rcases hnext with ⟨rfl, dispatch, hnot, rfl⟩
      exact ⟨rfl, hresting.1, queue, dispatch, rfl, hnot, hqueue.1, hqueue.2⟩
  · intro hconnecting
    cases hconnecting.2.1

/-!
# Timers
-/

def Queued (world next : World) : Prop :=
  exists queue batch, next = { world with queue := queue, batch := batch } ∧
    Spared world.queue queue world.retries world.batch batch

theorem runTimer_spec (h : TimersOf world) :
    Ensures (RunTimer world) (fun next es =>
      es = [] ∧ exists mid, Queued world mid ∧
        (next = mid ∨
          (exists i, Waits world.queue world.retries world.batch i) ∧
          (forall i, ¬Waits mid.queue mid.retries mid.batch i) ∧
          next = { mid with control :=
            if mid.connector.stop_ = true then Control.outside
            else Control.startInLoop })) := by
  unfold RunTimer
  split
  · rename_i now i rest hbatch
    have hheld : HoldsBatch world.queue (i :: rest) [] := by
      simpa [Held, hbatch] using h.held
    rcases hheld.live i List.mem_cons_self with ⟨t, ht, _⟩
    rw [ht]
    have hrest : forall j, j ∈ rest -> j ∈ Rest world.batch := by
      intro j hj
      rw [hbatch]
      exact List.mem_cons_of_mem _ hj
    have hmid : Queued world { world with
        batch := some { now := now, running := some i, rest := rest } } := by
      refine ⟨_, _, rfl, TimerQueue.Spares.refl h.oneShot, hheld, ?_⟩
      exact fun j hj => Or.inr (hrest j hj)
    dsimp only
    split
    · rename_i hretry
      rw [startInLoop_eq]
      refine ⟨rfl, _, hmid, Or.inr ⟨⟨i, hretry, ?_⟩, ?_, rfl⟩⟩
      · rw [hbatch]
        exact Or.inr List.mem_cons_self
      · -- The retry that runs was the only one.
        have hnodup : i.timer_ ∉ TimerQueue.Owners world.queue
            (rest.map TimerIndex.timer_) := by
          have hgood := hheld.sound.1
          simpa using hgood.not_mem_of_hand
        intro j hboth
        rcases hboth with ⟨hown, hj⟩
        have hi : Waits world.queue world.retries world.batch i :=
          ⟨hretry, Or.inr (by rw [hbatch]; exact List.mem_cons_self)⟩
        have hsame : j = i := by
          rw [h.only i hi]
          exact h.only j ⟨hown, hj.imp_right (hrest j)⟩
        subst hsame
        apply hnodup
        rcases hj with htimers | hmem
        · exact TimerQueue.mem_owners_of_mem htimers
        · exact List.mem_append.mpr
            (Or.inl (List.mem_map.mpr ⟨j, hmem, rfl⟩))
    · exact ⟨rfl, _, hmid, Or.inl rfl⟩
  · exact ensures_impossible

section Clock

variable {clock : Nat -> Timestamp}

theorem runAfter_moves {timer : Address} (h : TimersOf world)
    (hnone : forall i, ¬Waits world.queue world.retries world.batch i) :
    Ensures (RunAfter clock world timer) (fun next es =>
      es = [] ∧ exists timerIdx retryDelay queue retries,
        next = { world with
          connector := { world.connector with
            timerIdx_ := timerIdx
            retryDelay_ := retryDelay }
          queue := queue
          retries := retries
          control := Control.outside } ∧
        Timers queue retries world.batch timerIdx) := by
  refine Ensures.in_turn (ensures_onQueue ?_)
  refine Ensures.mono (runAfter_spec h hnone) (fun queue _ hqueue => ?_)
  rcases hqueue with ⟨i, rest, hissued, htimers⟩
  dsimp only
  rw [hissued]
  exact ⟨rfl, _, _, _, _, rfl, htimers⟩

theorem onQueue_spec {call : Call TimerQueue TimerQueue.Event}
    (hharmless : TimerQueue.Harmless call)
    (hcall : forall next es, call = Except.ok (next, es) ->
      TimerQueue.Spares world.queue next world.retries ∧
        HoldsBatch next (Held world.batch) []) :
    Ensures (OnQueue world call) (fun next es =>
      es = [] ∧ Queued world next) := by
  refine ensures_onQueue (hharmless.of_ok (fun next es hnext => ?_))
  rcases hcall next es hnext with ⟨hspares, hheld⟩
  exact ⟨rfl, _, _, rfl, hspares, hheld, fun i hi => Or.inr hi⟩

theorem handleRead_spec (h : TimersOf world) :
    Ensures (HandleRead clock world) (fun next es =>
      es = [] ∧ Queued world next) := by
  unfold HandleRead
  split
  · exact ensures_impossible
  · rename_i hbatch
    have hsound : TimerQueue.Sound world.queue [] := by
      simpa [Held, hbatch] using h.held.sound
    refine ⟨rfl, _, _, rfl, ?_, ?_, ?_⟩
    · exact TimerQueue.getExpired_spares h.oneShot _ _ _
    · exact hsound.holdsBatch _ _ _
    · exact fun i hi => Or.inl (OrderedSet.mem_before.mp hi).1

theorem restartOrDelete_spec (h : TimersOf world) :
    Ensures (RestartOrDelete clock world) (fun next es =>
      es = [] ∧ Queued world next) := by
  unfold RestartOrDelete
  split
  · rename_i now i rest hbatch
    have hheld : HoldsBatch world.queue (i :: rest) [] := by
      simpa [Held, hbatch] using h.held
    have hsound : TimerQueue.Sound world.queue
        (i.timer_ :: (rest.map TimerIndex.timer_ ++ [])) := hheld.sound
    refine ensures_onQueue
      ((TimerQueue.restartOrDelete_harmless hsound).of_ok ?_)
    intro next es hcall
    refine ⟨rfl, _, _, rfl, ?_, ?_, ?_⟩
    · exact TimerQueue.restartOrDelete_spares h.oneShot hcall
    · exact TimerQueue.restartOrDelete_holdsBatch hheld hcall
    · intro j hj
      rw [hbatch]
      exact Or.inr hj
  · exact ensures_impossible

theorem rearm_spec (h : TimersOf world) :
    Ensures (Rearm clock world) (fun next es =>
      es = [] ∧ Queued world next) := by
  unfold Rearm
  split
  · rename_i now hbatch
    have hsound : TimerQueue.Sound world.queue [] := by
      simpa [Held, hbatch] using h.held.sound
    have hspares : TimerQueue.Spares world.queue
        (TimerQueue.Rearm clock world.queue).1 world.retries :=
      TimerQueue.rearm_spares h.oneShot
    rcases TimerQueue.rearm_frame clock world.queue with
      ⟨timerfd, readings, es, hrearm, _⟩
    rw [hrearm] at hspares ⊢
    refine ⟨rfl, _, _, rfl, hspares, ?_, ?_⟩
    · exact ⟨hsound.set_timerfd _ _, by simp [Held]⟩
    · exact fun i hi => absurd hi List.not_mem_nil
  · exact ensures_impossible

theorem timers_spec {op : TimerQueue.Op} (h : TimersOf world) :
    Ensures (OnQueue world (TimerQueue.RunOp clock world.queue op))
      (fun next es => es = [] ∧ Queued world next) := by
  apply onQueue_spec (TimerQueue.runOp_harmless h.held.sound)
  exact fun next es hcall => ⟨TimerQueue.runOp_spares h.oneShot hcall,
    runOp_holdsBatch h.held hcall⟩

theorem runTimerFunctor_spec (h : TimersOf world)
    (hbatch : world.batch = none) :
    Ensures (OnQueue world (TimerQueue.RunFunctor clock world.queue))
      (fun next es => es = [] ∧ Queued world next) := by
  have hsound : TimerQueue.Sound world.queue [] := by
    simpa [Held, hbatch] using h.held.sound
  apply onQueue_spec (TimerQueue.runFunctor_harmless hsound)
  intro next es hcall
  refine ⟨TimerQueue.runFunctor_spares h.oneShot hcall, ?_⟩
  rw [hbatch]
  exact ⟨(TimerQueue.runFunctor_keeps hsound hcall).1, by simp [Held]⟩

theorem timerExpires_spec (h : TimersOf world) :
    Ensures (OnQueue world (TimerQueue.TimerExpires world.queue))
      (fun next es => es = [] ∧ Queued world next) := by
  apply onQueue_spec TimerQueue.timerExpires_harmless
  intro next es hcall
  refine ⟨TimerQueue.timerExpires_spares h.oneShot hcall, ?_⟩
  unfold TimerQueue.TimerExpires at hcall
  split at hcall
  · cases hcall
    exact ⟨h.held.sound.set_timerfd _ _, h.held.live⟩
  · cases hcall

end Clock
end Connector
end Net
end Wethands
