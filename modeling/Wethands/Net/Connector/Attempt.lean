import Wethands.Net.Connector.Steps

/-!
# One attempt at a time

A connector is connecting, or waits for one retry, or does neither.  What can
break this is a retry that `Restart` does not reach, because it is in the batch
of expired timers that is running or because `Start` is still queued.
-/

namespace Wethands
namespace Net

open Foundation Utils Reactor

namespace Connector

variable {world : World}

/-- `Start` has not run `StartInLoop` yet. -/
def StartPending (started : Bool) (functors : List Functor) : Prop :=
  started = false ∨ Functor.startInLoop ∈ functors

instance (started : Bool) (functors : List Functor) :
    Decidable (StartPending started functors) :=
  inferInstanceAs (Decidable (_ ∨ _))

structure Tidy (world : World) : Prop where
  timers : TimersOf world
  shape : Shape world.connector world.control world.dispatch
  quiet : world.connector.connecting_ = true ∨
      world.control ≠ Control.outside ∨
      StartPending world.started world.functors ->
    forall i, ¬Waits world.queue world.retries world.batch i
  once : world.functors.count Functor.startInLoop ≤ 1
  fresh : world.started = false -> Functor.startInLoop ∉ world.functors
  unstarted : StartPending world.started world.functors ->
    world.connector.connecting_ = false ∧ world.control = Control.outside

/--
`Restart` is only called after `Start` has run, while no expired retry waits
for the rest of its batch, and while no event of the channel waits for the
other channels.
-/
def Orderly (world : World) (i : Input) : Prop :=
  match i with
  | Input.restart =>
      ¬StartPending world.started world.functors ∧
        (forall i, i ∈ Rest world.batch -> i.sequence_ ∉ world.retries) ∧
        world.dispatch ≠ Dispatch.ahead true ∧
        world.dispatch ≠ Dispatch.ahead false
  | _ => True

instance (world : World) (i : Input) : Decidable (Orderly world i) := by
  unfold Orderly
  split <;> infer_instance

theorem tidy_init (newConnectionCallback : Bool) :
    Tidy (Init newConnectionCallback) where
  timers := timers_init
  shape := Idle.shape ⟨⟨rfl, Or.inl rfl⟩, by simp [Init]⟩ _
  quiet := by simp [Init, Waits]
  once := by simp [Init]
  fresh := by simp [Init]
  unstarted := fun _ => ⟨rfl, rfl⟩

/-!
# What keeps a connector tidy
-/

theorem Tidy.moves {next : World} (h : Tidy world)
    (hstarted : ¬StartPending world.started world.functors)
    (hnone : forall i, ¬Waits world.queue world.retries world.batch i)
    (hmoves : Moves world next) : Tidy next := by
  rcases hmoves with ⟨connector, control, dispatch, rfl, hidx, _, hshape⟩
  refine ⟨?_, hshape, fun _ => hnone, h.once, h.fresh, ?_⟩
  · have htimers := h.timers
    rwa [TimersOf, ← hidx] at htimers
  · exact fun hpending => absurd hpending hstarted

theorem Tidy.queued {next : World} (h : Tidy world)
    (hqueued : Queued world next) : Tidy next := by
  rcases hqueued with ⟨queue, batch, rfl, hspared⟩
  rcases h.timers.spared hspared with ⟨htimers, hwaits⟩
  refine ⟨htimers, h.shape, ?_, h.once, h.fresh, h.unstarted⟩
  exact fun hbusy i hi => h.quiet hbusy i (hwaits i hi)

theorem Tidy.inside (h : Tidy world)
    (hcontrol : world.control ≠ Control.outside) :
    Idle world.connector world.dispatch ∧
      ¬StartPending world.started world.functors ∧
      forall i, ¬Waits world.queue world.retries world.batch i := by
  refine ⟨h.shape.idle (h.shape.control hcontrol), ?_, ?_⟩
  · exact fun hpending => hcontrol (h.unstarted hpending).2
  · exact h.quiet (Or.inr (Or.inl hcontrol))

/-!
# Every step
-/

theorem Tidy.restart (h : Tidy world)
    (horderly : Orderly world Input.restart) :
    Ensures (Restart world) (fun next _ => Tidy next) := by
  rcases horderly with ⟨hstarted, hrest, hahead, hgone⟩
  refine Ensures.mono (restart_spec h.timers h.shape) (fun next es hnext => ?_)
  rcases hnext with ⟨_, connector, queue, rfl, hresting, htimers, hnone⟩
  refine ⟨htimers, Idle.shape ⟨hresting, ?_⟩ _, ?_, h.once, h.fresh, ?_⟩
  · intro alive
    cases alive with
    | true => exact hahead
    | false => exact hgone
  · intro _ i hboth
    rcases hboth with ⟨hown, htimers | hmem⟩
    · exact hnone i htimers hown
    · exact hrest i hmem hown
  · exact fun hpending => absurd hpending hstarted

theorem Tidy.stopInLoop (h : Tidy world) :
    Ensures (StopInLoop world) (fun next _ => Tidy next) := by
  refine Ensures.mono (stopInLoop_spec h.timers h.shape)
    (fun next es hnext => ?_)
  rcases hnext with ⟨_, hresting, queue, dispatch, rfl, hnot, htimers, hnone⟩
  refine ⟨htimers, Idle.shape ?_ _, ?_, h.once, h.fresh, h.unstarted⟩
  · exact ⟨⟨hresting, Or.inl rfl⟩, hnot⟩
  · intro hbusy i hpair
    rcases hpair with ⟨hown, htimers | hmem⟩
    · exact hnone i htimers hown
    · exact h.quiet hbusy i ⟨hown, Or.inr hmem⟩

theorem Tidy.start {functors : List Functor} (h : Tidy world)
    (hpending : StartPending world.started world.functors)
    (hnot : Functor.startInLoop ∉ functors) :
    Ensures (StartInLoop { world with
      functors := functors
      started := true }) (fun next _ => Tidy next) := by
  have hresting := h.unstarted hpending
  have hnone := h.quiet (Or.inr (Or.inr hpending))
  have hstarted : ¬StartPending true functors := by
    rintro (hfalse | hmem)
    · cases hfalse
    · exact hnot hmem
  have htidy : Tidy { world with functors := functors, started := true } := by
    refine ⟨h.timers, h.shape, fun _ => hnone, ?_, fun _ => hnot, ?_⟩
    · rw [List.count_eq_zero_of_not_mem hnot]
      exact Nat.zero_le 1
    · exact fun hstill => absurd hstill hstarted
  rw [startInLoop_eq]
  exact htidy.moves hstarted hnone ((htidy.shape.idle hresting.1).moves _)

theorem Tidy.started_of_mem (h : Tidy world)
    (hmem : Functor.startInLoop ∈ world.functors) : world.started = true := by
  cases hfresh : world.started with
  | false => exact absurd hmem (h.fresh hfresh)
  | true => rfl

theorem startPending_of_cons {functor : Functor} {rest : List Functor}
    (hfunctors : world.functors = functor :: rest)
    (hpending : StartPending world.started rest) :
    StartPending world.started world.functors := by
  refine hpending.imp_right (fun hmem => ?_)
  rw [hfunctors]
  exact List.mem_cons_of_mem _ hmem

theorem Tidy.takeStop {rest : List Functor} (h : Tidy world)
    (hfunctors : world.functors = Functor.stopInLoop :: rest) :
    Tidy { world with functors := rest } := by
  refine ⟨h.timers, h.shape, ?_, ?_, ?_, ?_⟩
  · exact fun hbusy => h.quiet (hbusy.imp_right
      (fun hrest => hrest.imp_right (startPending_of_cons hfunctors)))
  · have honce := h.once
    rw [hfunctors] at honce
    simpa using honce
  · intro hfresh hmem
    apply h.fresh hfresh
    rw [hfunctors]
    exact List.mem_cons_of_mem _ hmem
  · exact fun hrest => h.unstarted (startPending_of_cons hfunctors hrest)

theorem Tidy.runFunctor (h : Tidy world) :
    Ensures (RunFunctor world) (fun next _ => Tidy next) := by
  refine ensures_when (fun _ => ?_)
  split
  · exact ensures_impossible
  · rename_i rest hfunctors
    have hmem : Functor.startInLoop ∈ world.functors := by
      rw [hfunctors]
      exact List.mem_cons_self
    have hnot : Functor.startInLoop ∉ rest := by
      have honce := h.once
      rw [hfunctors, List.count_cons_self] at honce
      exact List.count_eq_zero.mp (by omega)
    have hstart := h.start (Or.inr hmem) hnot
    rwa [← h.started_of_mem hmem] at hstart
  · exact (h.takeStop ‹_›).stopInLoop

theorem Tidy.remoteStart (h : Tidy world) (hfresh : world.started = false) :
    Tidy { world with
      started := true
      functors := world.functors ++ [Functor.startInLoop] } := by
  have hpending : StartPending world.started world.functors := Or.inl hfresh
  refine ⟨h.timers, h.shape, ?_, ?_, ?_, fun _ => h.unstarted hpending⟩
  · exact fun _ => h.quiet (Or.inr (Or.inr hpending))
  · dsimp only
    rw [List.count_append, List.count_eq_zero_of_not_mem (h.fresh hfresh)]
    decide
  · intro hfalse
    cases hfalse

theorem Tidy.remoteRunInLoop {stopping : Nat} (h : Tidy world) :
    Tidy { world with
      functors := world.functors ++ [Functor.stopInLoop]
      stopping := stopping } := by
  have hmem : Functor.startInLoop ∈ world.functors ++ [Functor.stopInLoop] <->
      Functor.startInLoop ∈ world.functors := by simp
  refine ⟨h.timers, h.shape, ?_, ?_, ?_, ?_⟩
  · exact fun hbusy => h.quiet (hbusy.imp_right
      (fun hrest => hrest.imp_right (fun hstart => hstart.imp_right hmem.mp)))
  · simpa using h.once
  · exact fun hfresh hin => h.fresh hfresh (hmem.mp hin)
  · exact fun hstart => h.unstarted (hstart.imp_right hmem.mp)

theorem Tidy.poll (h : Tidy world) :
    Ensures (Poll world) (fun next _ => Tidy next) := by
  apply ensures_when
  intro hboth
  rcases hboth with ⟨⟨houtside, _, _⟩, hregistered⟩
  have hconnecting : Connecting world.connector := by
    rcases h.shape.channel with hresting | hconnecting
    · rw [hresting.unregistered] at hregistered
      cases hregistered
    · exact hconnecting
  refine ⟨h.timers, ⟨Or.inr hconnecting, ?_, ?_⟩, h.quiet, h.once, h.fresh,
    h.unstarted⟩
  · exact fun hcontrol => absurd houtside hcontrol
  · intro alive hahead
    cases hahead
    exact ⟨rfl, hconnecting.1⟩

theorem Tidy.connecting (h : Tidy world) {alive : Bool}
    (hdispatch : world.dispatch = Dispatch.ahead alive) :
    Connecting world.connector ∧
      ¬StartPending world.started world.functors ∧
      forall i, ¬Waits world.queue world.retries world.batch i := by
  have htrue := (h.shape.ahead alive hdispatch).2
  refine ⟨?_, ?_, h.quiet (Or.inl htrue)⟩
  · rcases h.shape.channel with hresting | hconnecting
    · rw [hresting.1] at htrue
      cases htrue
    · exact hconnecting
  · intro hpending
    rw [(h.unstarted hpending).1] at htrue
    cases htrue

theorem Tidy.handleEvent {revents : BitVec 32} {isError : Nat}
    {isSelfConnect : Bool} (h : Tidy world)
    (houtside : world.control = Control.outside) :
    Ensures (HandleEvent world revents isError isSelfConnect)
      (fun next _ => Tidy next) := by
  unfold HandleEvent
  split
  · rename_i hdispatch
    cases (h.shape.ahead false hdispatch).1
  · rename_i hdispatch
    rcases h.connecting hdispatch with ⟨hconnecting, hstarted, hnone⟩
    have hmoves : Moves world
        { world with dispatch := Dispatch.handling true } := by
      refine ⟨_, _, _, rfl, rfl, rfl, Or.inr hconnecting, ?_, by simp⟩
      exact fun hcontrol => absurd houtside hcontrol
    have htidy := h.moves hstarted hnone hmoves
    dsimp only
    split
    · refine Ensures.mono (handleWrite_spec hconnecting (by simp)) ?_
      exact fun next _ hnext => htidy.moves hstarted hnone hnext.2.1
    · exact htidy
  · exact ensures_impossible

theorem Tidy.resume (h : Tidy world) :
    Ensures (Resume world) (fun next _ => Tidy next) := by
  unfold Resume
  split
  · exact ⟨h.timers, ⟨h.shape.channel, h.shape.control, by simp⟩, h.quiet,
      h.once, h.fresh, h.unstarted⟩
  · exact ensures_impossible

theorem Tidy.runTimer (h : Tidy world) :
    Ensures (RunTimer world) (fun next _ => Tidy next) := by
  refine Ensures.mono (runTimer_spec h.timers) (fun next es hnext => ?_)
  rcases hnext with ⟨_, mid, hqueued, rfl | ⟨⟨i, hi⟩, hnone, rfl⟩⟩
  · exact h.queued hqueued
  · have hquiet : ¬(world.connector.connecting_ = true ∨
        world.control ≠ Control.outside ∨
        StartPending world.started world.functors) :=
      fun hbusy => h.quiet hbusy i hi
    simp only [not_or, Bool.not_eq_true] at hquiet
    have htidy := h.queued hqueued
    rcases hqueued with ⟨queue, batch, rfl, _⟩
    exact htidy.moves hquiet.2.2 hnone
      ((htidy.shape.idle hquiet.1).moves _)

theorem Tidy.setStop {stopping : Nat} (h : Tidy world) :
    Tidy { world with
      connector := { world.connector with stop_ := true }
      stopping := stopping } :=
  ⟨h.timers, ⟨h.shape.channel, h.shape.control, h.shape.ahead⟩, h.quiet,
    h.once, h.fresh, h.unstarted⟩

section Clock

variable {clock : Nat -> Timestamp}

theorem Tidy.runAfter {timer : Address} (h : Tidy world)
    (hcontrol : world.control = Control.retry) :
    Ensures (RunAfter clock world timer) (fun next _ => Tidy next) := by
  rcases h.inside (by simp [hcontrol]) with ⟨hidle, hstarted, hnone⟩
  refine Ensures.mono (runAfter_moves h.timers hnone) (fun next es hnext => ?_)
  rcases hnext with ⟨_, timerIdx, retryDelay, queue, retries, rfl, htimers⟩
  refine ⟨htimers, Idle.shape ?_ _, ?_, h.once, h.fresh, ?_⟩
  · exact hidle
  · rintro (hconnecting | hout | hpending)
    · rw [hidle.1.1] at hconnecting
      cases hconnecting
    · exact absurd rfl hout
    · exact absurd hpending hstarted
  · exact fun hpending => absurd hpending hstarted

theorem perform_spec {i : Input} (h : Tidy world) (horderly : Orderly world i) :
    Ensures (Perform clock world i) (fun next _ => Tidy next) := by
  cases i with
  | start =>
      apply ensures_when
      intro hpair
      rcases hpair with ⟨_, hfresh⟩
      exact h.start (Or.inl hfresh) (h.fresh hfresh)
  | restart => exact ensures_when (fun _ => h.restart horderly)
  | stop =>
      refine ensures_when (fun _ => Ensures.in_turn ?_)
      exact Ensures.mono h.setStop.stopInLoop (fun next _ hnext => hnext)
  | remoteStart => exact ensures_when (fun hfresh => h.remoteStart hfresh)
  | remoteStop => exact h.setStop
  | remoteRunInLoop => exact ensures_when (fun _ => h.remoteRunInLoop)
  | runFunctor => exact h.runFunctor
  | startInLoop =>
      refine ensures_when (fun hcontrol => ?_)
      rcases h.inside (by simp [hcontrol]) with ⟨hidle, hstarted, hnone⟩
      rw [startInLoop_eq]
      exact h.moves hstarted hnone (hidle.moves _)
  | attempt savedErrno =>
      refine ensures_when (fun hcontrol => ?_)
      rcases h.inside (by simp [hcontrol]) with ⟨hidle, hstarted, hnone⟩
      exact Ensures.mono (attempt_spec hidle)
        (fun next _ hnext => h.moves hstarted hnone hnext.2)
  | newConnection =>
      refine ensures_when (fun hcontrol => ?_)
      rcases h.inside (by simp [hcontrol]) with ⟨hidle, hstarted, hnone⟩
      refine h.moves hstarted hnone ⟨_, _, _, rfl, rfl, rfl, Idle.shape ?_ _⟩
      exact hidle
  | runAfter timer => exact ensures_when (fun hcontrol => h.runAfter hcontrol)
  | poll => exact h.poll
  | handleEvent revents isError isSelfConnect =>
      exact ensures_when (fun hboth => h.handleEvent hboth.1)
  | resume => exact ensures_when (fun _ => h.resume)
  | timers op =>
      exact (timers_spec h.timers).mono (fun _ _ hnext => h.queued hnext.2)
  | runTimerFunctor =>
      refine ensures_when (fun hdraining => ?_)
      exact (runTimerFunctor_spec h.timers hdraining.2.2).mono
        (fun _ _ hnext => h.queued hnext.2)
  | timerExpires =>
      exact (timerExpires_spec h.timers).mono
        (fun _ _ hnext => h.queued hnext.2)
  | handleRead =>
      exact ensures_when (fun _ => (handleRead_spec h.timers).mono
        (fun _ _ hnext => h.queued hnext.2))
  | runTimer => exact ensures_when (fun _ => h.runTimer)
  | restartOrDelete =>
      exact ensures_when (fun _ => (restartOrDelete_spec h.timers).mono
        (fun _ _ hnext => h.queued hnext.2))
  | rearm =>
      exact ensures_when (fun _ => (rearm_spec h.timers).mono
        (fun _ _ hnext => h.queued hnext.2))

/-!
# Runs
-/

theorem run_tidy {newConnectionCallback : Bool} {inputs : List Input}
    {tr : List Event}
    (hrun : (ConnectorMachine clock).Run (Init newConnectionCallback) inputs =
      some (world, tr))
    (hguard : (ConnectorMachine clock).Guarded Orderly
      (Init newConnectionCallback) inputs) :
    Tidy world :=
  Machine.run_invariant_of_guard (I := fun world _ => Tidy world) (p := [])
    (fun _ _ _ _ _ htidy horderly hstep =>
      (ensures_iff.mp (perform_spec htidy horderly)).2 _ _
        (answer_eq_some.mp hstep))
    (tidy_init newConnectionCallback) hguard hrun

def PendingRetries (world : World) : List TimerIndex :=
  (world.queue.timers_.elems ++ Rest world.batch).filter
    (fun i => decide (i.sequence_ ∈ world.retries))

theorem mem_pendingRetries {i : TimerIndex} :
    i ∈ PendingRetries world <->
      Waits world.queue world.retries world.batch i := by
  rw [PendingRetries, List.mem_filter, List.mem_append, decide_eq_true_iff]
  exact and_comm

theorem nodup_pendingRetries (h : Tidy world) :
    (PendingRetries world).Nodup := by
  have hrest : (Rest world.batch).Sublist (Held world.batch ++ []) := by
    rw [List.append_nil]
    cases world.batch with
    | none => exact List.Sublist.refl _
    | some batch => exact List.sublist_append_right _ _
  have hhands := hrest.map TimerIndex.timer_
  rw [List.map_append] at hhands
  have hall := hhands.append ((List.sublist_append_right
    (TimerQueue.QueuedTimers world.queue.pendingFunctors_)
    (world.queue.timers_.elems.map TimerIndex.timer_)).trans
      (List.sublist_append_right world.queue.inFlight _))
  have hnodup := h.timers.held.sound.1.nodup.sublist hall
  rw [← List.map_append] at hnodup
  exact ((List.perm_append_comm.nodup_iff).mp hnodup.of_map).filter _

/--
While the condition is met: the flag tells that the channel is registered for
writing, an attempt never begins while a channel is registered, at most one
retry is to come and none while the connector is connecting, and no step fails
an assertion or reaches a destroyed object.
-/
theorem one_attempt_at_a_time {newConnectionCallback : Bool}
    {inputs : List Input} {tr : List Event}
    (hrun : (ConnectorMachine clock).Run (Init newConnectionCallback) inputs =
      some (world, tr))
    (hguard : (ConnectorMachine clock).Guarded Orderly
      (Init newConnectionCallback) inputs) :
    (world.connector.connecting_ = true <-> exists channel,
        world.connector.socketChannel_ = some channel ∧
          channel.registeredToPoller = true ∧ channel.IsWriting = true) ∧
      (world.control = Control.startInLoop ->
        world.connector.Registered = false) ∧
      (PendingRetries world).length ≤ 1 ∧
      (world.connector.connecting_ = true -> PendingRetries world = []) ∧
      forall i, Orderly world i ->
        Perform clock world i ≠ Except.error Failure.assertion ∧
          Perform clock world i ≠ Except.error Failure.danglingPointer := by
  have htidy := run_tidy hrun hguard
  refine ⟨?_, ?_, ?_, ?_, ?_⟩
  · rcases htidy.shape.channel with hresting | hconnecting
    · rw [hresting.1]
      refine ⟨(by simp), ?_⟩
      intro hexists
      rcases hexists with ⟨channel, hchannel, hregistered, _⟩
      have hnot := hresting.unregistered
      rw [Registered, hchannel, Option.any_some, hregistered] at hnot
      cases hnot
    · rw [hconnecting.1, hconnecting.2.2]
      exact ⟨fun _ => ⟨_, rfl, rfl, Channel.isWriting_enableWriting _⟩,
        fun _ => rfl⟩
  · intro hcontrol
    exact (htidy.inside (by simp [hcontrol])).1.1.unregistered
  · have hsame : forall i, i ∈ PendingRetries world ->
        i = world.connector.timerIdx_ :=
      fun i hi => htidy.timers.only i (mem_pendingRetries.mp hi)
    have hnodup := nodup_pendingRetries htidy
    rw [List.eq_replicate_of_mem hsame] at hnodup
    exact List.nodup_replicate.mp hnodup
  · intro hconnecting
    refine List.eq_nil_iff_forall_not_mem.mpr (fun i hi => ?_)
    exact htidy.quiet (Or.inl hconnecting) i (mem_pendingRetries.mp hi)
  · intro i horderly
    have hspec : Ensures (Perform clock world i) (fun next _ => Tidy next) :=
      perform_spec htidy horderly
    have hharmless := (ensures_iff.mp hspec).1
    constructor
    · exact fun hcall => (hharmless _ hcall).1 rfl
    · exact fun hcall => (hharmless _ hcall).2 rfl

def LateClock (reading : Nat) : Timestamp :=
  [100, 101, 102, 110, 1000200, 1000201, 1000202, 1000203].getD reading 3000300

/--
A timer of the user restarts the connector three seconds after the start, with
the second retry behind it in the same batch of expired timers.
-/
def LateRestart : List Input :=
  [Input.start, Input.attempt ECONNREFUSED, Input.runAfter 1,
    Input.timers (TimerQueue.Op.addTimer 2
      (TimerQueue.Request.runAfter (Delay 3))),
    Input.timerExpires, Input.handleRead, Input.runTimer,
    Input.attempt ECONNREFUSED, Input.runAfter 3, Input.restartOrDelete,
    Input.rearm,
    Input.timerExpires, Input.handleRead, Input.runTimer, Input.restart,
    Input.startInLoop, Input.attempt EINPROGRESS, Input.restartOrDelete,
    Input.runTimer]

theorem attempt_while_registered :
    exists inputs world tr,
      (ConnectorMachine LateClock).Run (Init true) inputs = some (world, tr) ∧
        world.connector.Registered = true ∧
        world.control = Control.startInLoop ∧
        Perform LateClock world (Input.attempt EINPROGRESS) =
          Except.error Failure.assertion := by
  have heval : ((ConnectorMachine LateClock).Run (Init true) LateRestart).map
      (fun last => ((last.1.connector.Registered, last.1.control), last.2)) =
      some ((true, Control.startInLoop), [Event.connect, Event.connect,
        Event.restart, Event.connect]) := by
    decide +kernel
  rcases (ConnectorMachine LateClock).exists_run
    (fun world => (world.connector.Registered, world.control)) heval with
    ⟨world, hrun, hlast⟩
  rcases Prod.mk.inj hlast with ⟨hregistered, hcontrol⟩
  refine ⟨LateRestart, world, _, hrun, hregistered, hcontrol, ?_⟩
  have hsame : Registered { world.connector with socket_ := true } = true :=
    hregistered
  simp only [Perform, When, if_pos hcontrol, Attempt, Assert, hsame]
  rfl

/-- A connector that is refused once and restarted before it tries again. -/
theorem one_attempt_at_a_time_of_restart :
    exists world tr,
      (ConnectorMachine LateClock).Run (Init true) [Input.start,
        Input.attempt ECONNREFUSED, Input.runAfter 1, Input.restart,
        Input.startInLoop, Input.attempt EINPROGRESS] = some (world, tr) ∧
      world.connector.connecting_ = true ∧ PendingRetries world = [] := by
  have heval : ((ConnectorMachine LateClock).Run (Init true) [Input.start,
      Input.attempt ECONNREFUSED, Input.runAfter 1, Input.restart,
      Input.startInLoop, Input.attempt EINPROGRESS]).map
      (fun last => (last.1.connector.connecting_, last.2)) =
      some (true, [Event.connect, Event.restart, Event.connect]) := by
    decide +kernel
  rcases (ConnectorMachine LateClock).exists_run
    (fun world => world.connector.connecting_) heval with
    ⟨world, hrun, hconnecting⟩
  have hone := one_attempt_at_a_time hrun (by decide +kernel)
  exact ⟨world, _, hrun, hconnecting, hone.2.2.2.1 hconnecting⟩

end Clock
end Connector
end Net
end Wethands
