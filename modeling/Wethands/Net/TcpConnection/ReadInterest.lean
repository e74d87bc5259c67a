import Wethands.Net.TcpConnection.Model

/-!
# Interest in reading

`ConnectionEstablished` turns the interest on and leaves the flag `reading_`
alone.  Starting and stopping to read ask both, find that they do not agree,
and do nothing.
-/

namespace Wethands
namespace Net

open Foundation

namespace TcpConnection

variable {ThreadId : Type}

structure ReadsUnflagged (conn : TcpConnection) : Prop where
  isOpen : conn.state_ = States.kConnected ∨
    conn.state_ = States.kDisconnecting
  flag : conn.reading_ = false
  interest : conn.socketChannel_.IsReading = true

def StaysUnflagged (call : Call (World ThreadId) Event) : Prop :=
  Yields call (fun next es =>
    Event.handleClose ∉ es -> ReadsUnflagged next.conn)

theorem staysUnflagged_ok {next : World ThreadId} {es : List Event}
    (h : ReadsUnflagged next.conn) :
    StaysUnflagged (Except.ok (next, es)) :=
  yields_ok.mpr fun _ => h

theorem staysUnflagged_error (failure : Failure) :
    StaysUnflagged (Except.error failure : Call (World ThreadId) Event) :=
  yields_error

theorem staysUnflagged_then {mid : World ThreadId} {es : List Event}
    {second : World ThreadId -> Call (World ThreadId) Event}
    (h : StaysUnflagged (second mid)) :
    StaysUnflagged (Then (Except.ok (mid, es)) second) := by
  intro next all hcall hopen
  rcases then_ok_eq_ok.mp hcall with ⟨es', hsecond, rfl⟩
  exact h next es' hsecond
    (fun hmem => hopen (List.mem_append_right es hmem))

variable {world : World ThreadId}

/-!
# The parts of the functions
-/

theorem ReadsUnflagged.disconnecting (h : ReadsUnflagged world.conn) :
    ReadsUnflagged
      { world.conn with state_ := States.kDisconnecting } :=
  ⟨Or.inr rfl, h.flag, h.interest⟩

theorem ReadsUnflagged.appendRemaining (h : ReadsUnflagged world.conn)
    (remaining : List Byte) :
    ReadsUnflagged (AppendRemaining world remaining).conn := by
  have hreading : forall channel : Reactor.Channel,
      channel.IsReading = true ->
        (if channel.IsWriting then channel
          else channel.EnableWriting).IsReading = true := by
    intro channel hread
    split
    · exact hread
    · rw [Reactor.Channel.isReading_enableWriting, hread]
  unfold AppendRemaining QueueInLoop
  dsimp only
  split
  all_goals exact ⟨h.isOpen, h.flag, hreading _ h.interest⟩

theorem staysUnflagged_sendInLoop (h : ReadsUnflagged world.conn)
    (data : List Byte) (result : WriteResult) :
    StaysUnflagged (SendInLoop world data result) := by
  unfold SendInLoop
  split
  · exact staysUnflagged_ok h
  · split
    · apply staysUnflagged_then
      cases result with
      | wrote n =>
          simp only [DirectWrite]
          split
          · split
            · exact staysUnflagged_then (staysUnflagged_ok h)
            · exact staysUnflagged_ok (h.appendRemaining _)
          · exact staysUnflagged_error _
      | failed errno =>
          cases errno with
          | other => exact staysUnflagged_error _
          | EPIPE | EINTR | EWOULDBLOCK =>
              exact staysUnflagged_ok (h.appendRemaining _)
    · exact staysUnflagged_ok (h.appendRemaining _)

theorem stopReadInLoop_eq (h : ReadsUnflagged world.conn) :
    StopReadInLoop world = world := by
  unfold StopReadInLoop
  apply if_neg
  intro hboth
  rcases hboth with ⟨hflag, _⟩
  rw [h.flag] at hflag
  cases hflag

theorem startReadInLoop_eq (h : ReadsUnflagged world.conn) :
    StartReadInLoop world = world := by
  unfold StartReadInLoop
  apply if_neg
  intro hpair
  rcases hpair with ⟨_, hinterest⟩
  rw [h.interest] at hinterest
  cases hinterest

theorem staysUnflagged_shutdownInLoop (h : ReadsUnflagged world.conn) :
    StaysUnflagged (ShutdownInLoop world) := by
  unfold ShutdownInLoop
  split <;> exact staysUnflagged_ok h

theorem staysUnflagged_handleWriteCompleted (h : ReadsUnflagged world.conn) :
    StaysUnflagged (HandleWriteCompleted world) := by
  unfold HandleWriteCompleted
  split
  · exact staysUnflagged_shutdownInLoop h
  · exact staysUnflagged_ok h

theorem staysUnflagged_handleClose :
    StaysUnflagged (HandleClose world) := by
  intro next es hcall hnoclose
  exact absurd (handleClose_closes world next es hcall) hnoclose

theorem staysUnflagged_forceCloseInLoop (h : ReadsUnflagged world.conn) :
    StaysUnflagged (ForceCloseInLoop world) := by
  unfold ForceCloseInLoop
  split
  · exact staysUnflagged_handleClose
  · exact staysUnflagged_ok h

theorem staysUnflagged_connectionEstablished
    (h : ReadsUnflagged world.conn) :
    StaysUnflagged (ConnectionEstablished world) := by
  apply Yields.assert
  intro hstate
  rcases h.isOpen with hopen | hopen <;> cases hopen.symm.trans hstate

theorem staysUnflagged_connectionDestroyed (h : ReadsUnflagged world.conn) :
    StaysUnflagged (ConnectionDestroyed world) := by
  apply Yields.assert
  intro hstate
  rcases h.isOpen with hopen | hopen <;> cases hopen.symm.trans hstate

theorem staysUnflagged_handleRead (h : ReadsUnflagged world.conn)
    (result : ReadResult) : StaysUnflagged (HandleRead world result) := by
  cases result with
  | failed => exact staysUnflagged_ok h
  | received bytes =>
      simp only [HandleRead]
      split
      · exact staysUnflagged_error _
      · split
        · exact staysUnflagged_handleClose
        · split
          · exact staysUnflagged_ok ⟨h.isOpen, h.flag, h.interest⟩
          · exact staysUnflagged_ok ⟨h.isOpen, h.flag, h.interest⟩

theorem ReadsUnflagged.setOutput (h : ReadsUnflagged world.conn)
    (outputBuffer_ : Buffer) :
    ReadsUnflagged (SetOutput world outputBuffer_).conn := by
  constructor
  · exact h.isOpen
  · exact h.flag
  · unfold SetOutput
    dsimp only
    split
    · rw [Reactor.Channel.isReading_disableWriting, h.interest]
    · exact h.interest

theorem staysUnflagged_handleWritten (h : ReadsUnflagged world.conn) :
    StaysUnflagged (HandleWritten world) := by
  unfold HandleWritten
  split
  · split
    · exact staysUnflagged_ok h
    · exact staysUnflagged_handleWriteCompleted h
  · exact staysUnflagged_ok h

theorem staysUnflagged_handleWrite (h : ReadsUnflagged world.conn)
    (result : WriteResult) : StaysUnflagged (HandleWrite world result) := by
  cases result with
  | failed errno => exact staysUnflagged_ok h
  | wrote n =>
      simp only [HandleWrite]
      split
      · exact staysUnflagged_ok h
      · split
        · split
          · split
            · exact staysUnflagged_error _
            · exact staysUnflagged_then
                (staysUnflagged_handleWritten (h.setOutput _))
          · exact staysUnflagged_ok h
        · exact staysUnflagged_error _

/-!
# One step
-/

theorem staysUnflagged_callApi (h : ReadsUnflagged world.conn) (api : Api) :
    StaysUnflagged (CallApi world api) := by
  cases api with
  | send data result =>
      simp only [CallApi, Send]
      split
      · exact staysUnflagged_ok h
      · exact staysUnflagged_sendInLoop h data result
  | shutdown =>
      simp only [CallApi, Shutdown]
      split
      · exact staysUnflagged_then (staysUnflagged_then
          (staysUnflagged_shutdownInLoop h.disconnecting))
      · exact staysUnflagged_ok h
  | forceClose =>
      simp only [CallApi, ForceClose]
      split
      · exact staysUnflagged_then
          (staysUnflagged_forceCloseInLoop h.disconnecting)
      · exact staysUnflagged_ok h
  | startRead =>
      simp only [CallApi, startReadInLoop_eq h]
      exact staysUnflagged_ok h
  | stopRead =>
      simp only [CallApi, stopReadInLoop_eq h]
      exact staysUnflagged_ok h
  | setWriteCompleteCallback set =>
      exact staysUnflagged_ok ⟨h.isOpen, h.flag, h.interest⟩
  | setMessageCallback set =>
      exact staysUnflagged_ok ⟨h.isOpen, h.flag, h.interest⟩
  | setHighWaterMarkCallback set =>
      exact staysUnflagged_ok ⟨h.isOpen, h.flag, h.interest⟩
  | setHighWaterMark highWaterMark =>
      exact staysUnflagged_ok ⟨h.isOpen, h.flag, h.interest⟩
  | retrieve len =>
      simp only [CallApi]
      split
      · exact staysUnflagged_error _
      · exact staysUnflagged_ok ⟨h.isOpen, h.flag, h.interest⟩

theorem staysUnflagged_runFunctor (h : ReadsUnflagged world.conn)
    (result : WriteResult) : StaysUnflagged (RunFunctor world result) := by
  unfold RunFunctor
  split
  · exact staysUnflagged_error _
  · rename_i functor rest hfunctors
    have htaken : ReadsUnflagged
        ({ world with pendingFunctors_ := rest } : World ThreadId).conn := h
    cases functor with
    | connectionEstablished =>
        exact staysUnflagged_connectionEstablished htaken
    | sendInLoop data => exact staysUnflagged_sendInLoop htaken data result
    | startReadInLoop =>
        simp only [startReadInLoop_eq htaken]
        exact staysUnflagged_ok h
    | stopReadInLoop =>
        simp only [stopReadInLoop_eq htaken]
        exact staysUnflagged_ok h
    | shutdownInLoop => exact staysUnflagged_shutdownInLoop htaken
    | forceCloseInLoop => exact staysUnflagged_forceCloseInLoop htaken
    | highWaterMarkCallback bytes => exact staysUnflagged_ok h
    | connectionDestroyed => exact staysUnflagged_connectionDestroyed htaken

theorem staysUnflagged_return (h : ReadsUnflagged world.conn) :
    StaysUnflagged (Return world) := by
  unfold Return
  split
  · exact staysUnflagged_error _
  · exact staysUnflagged_ok h
  · apply staysUnflagged_handleWriteCompleted
    exact h

theorem staysUnflagged_onEvent {call : Call (World ThreadId) Event}
    (h : StaysUnflagged call) : StaysUnflagged (OnEvent world call) :=
  Yields.only_if fun _ => Yields.only_if fun _ => h

section Threads

variable [DecidableEq ThreadId]

theorem staysUnflagged_remoteCall (h : ReadsUnflagged world.conn)
    (tid : ThreadId) (api : RemoteApi) :
    StaysUnflagged (RemoteCall world tid api) := by
  cases api with
  | send data | shutdown | forceClose =>
      simp only [RemoteCall]
      split <;> exact staysUnflagged_ok h
  | startRead | stopRead => exact staysUnflagged_ok h

theorem staysUnflagged_remoteNext (h : ReadsUnflagged world.conn)
    (tid : ThreadId) : StaysUnflagged (RemoteNext world tid) := by
  unfold RemoteNext
  split
  · exact staysUnflagged_error _
  · exact staysUnflagged_ok h
  · exact staysUnflagged_ok h.disconnecting
  · exact staysUnflagged_ok h
  · exact staysUnflagged_ok h.disconnecting
  · exact staysUnflagged_ok h

theorem staysUnflagged_perform (h : ReadsUnflagged world.conn)
    (i : Input ThreadId) : StaysUnflagged (Perform world i) := by
  cases i with
  | api api => exact staysUnflagged_callApi h api
  | returns => exact staysUnflagged_return h
  | runFunctor result =>
      exact Yields.only_if fun _ => staysUnflagged_runFunctor h result
  | handleRead result =>
      exact staysUnflagged_onEvent (staysUnflagged_handleRead h result)
  | handleWrite result =>
      exact staysUnflagged_onEvent (staysUnflagged_handleWrite h result)
  | handleClose => exact staysUnflagged_onEvent staysUnflagged_handleClose
  | handleError => exact staysUnflagged_onEvent (staysUnflagged_ok h)
  | removeConnectionInLoop =>
      simp only [Perform, RemoveConnectionInLoop]
      split
      · exact staysUnflagged_error _
      · exact staysUnflagged_ok h
  | remoteCall tid api =>
      exact Yields.only_if fun _ => staysUnflagged_remoteCall h tid api
  | remoteNext tid => exact staysUnflagged_remoteNext h tid

/-!
# Runs
-/

/-- The flag tells the interest, and the two functions change both. -/
structure ReadsAsTold (world : World ThreadId) : Prop where
  agrees : world.conn.reading_ = world.conn.socketChannel_.IsReading
  stops : (StopReadInLoop world).conn.socketChannel_.IsReading = false
  starts : (StartReadInLoop world).conn.socketChannel_.IsReading = true
  stop_leaves_writing :
    (StopReadInLoop world).conn.socketChannel_.IsWriting =
      world.conn.socketChannel_.IsWriting
  start_leaves_writing :
    (StartReadInLoop world).conn.socketChannel_.IsWriting =
      world.conn.socketChannel_.IsWriting

theorem readsUnflagged_established {closeCallback : CloseCallback}
    {world : World ThreadId} {es : List Event} (result : WriteResult)
    (h : Perform (Init ThreadId closeCallback) (Input.runFunctor result) =
      Except.ok (world, es)) : ReadsUnflagged world.conn := by
  have hperform : Perform (Init ThreadId closeCallback)
      (Input.runFunctor result) =
        ConnectionEstablished { Init ThreadId closeCallback with
          pendingFunctors_ := [] } := rfl
  rw [hperform] at h
  rcases assert_eq_ok.mp h with ⟨_, hstored⟩
  rcases then_eq_ok.mp hstored with ⟨mid, es1, es2, hstore, hinvoke, _⟩
  cases hstore
  cases hinvoke
  exact ⟨Or.inl rfl, rfl, Reactor.Channel.isReading_enableReading _⟩

theorem readsUnflagged_of_run {closeCallback : CloseCallback}
    {result : WriteResult} {inputs : List (Input ThreadId)}
    {world : World ThreadId} {tr : List Event}
    (hrun : (ConnectionMachine ThreadId).Run (Init ThreadId closeCallback)
      (Input.runFunctor result :: inputs) = some (world, tr))
    (hopen : Event.handleClose ∉ tr) : ReadsUnflagged world.conn := by
  rcases Machine.run_cons_eq_some.mp hrun with
    ⟨mid, es, tail, hfirst, hrest, rfl⟩
  have hstart : ReadsUnflagged mid.conn :=
    readsUnflagged_established result (answer_eq_some.mp hfirst)
  refine Machine.run_invariant_of_events (p := [])
    (I := fun world _ => ReadsUnflagged world.conn)
    (A := fun e => e ≠ Event.handleClose) ?_ hstart ?_ hrest
  · intro world _ i next es hinv hallowed hstep
    exact staysUnflagged_perform hinv i next es (answer_eq_some.mp hstep)
      (fun hmem => hallowed _ hmem rfl)
  · rintro e he rfl
    exact hopen (List.mem_append_right es he)

/--
On every run that begins with `ConnectionEstablished`, and up to `HandleClose`,
the flag is wrong and stopping to read does nothing.
-/
theorem never_reads_as_told {closeCallback : CloseCallback}
    {result : WriteResult} {inputs : List (Input ThreadId)}
    {world : World ThreadId} {tr : List Event}
    (hrun : (ConnectionMachine ThreadId).Run (Init ThreadId closeCallback)
      (Input.runFunctor result :: inputs) = some (world, tr))
    (hopen : Event.handleClose ∉ tr) :
    ¬ReadsAsTold world ∧
      world.conn.reading_ ≠ world.conn.socketChannel_.IsReading ∧
      (StopReadInLoop world).conn.socketChannel_.IsReading = true := by
  have hreads := readsUnflagged_of_run hrun hopen
  have hne : world.conn.reading_ ≠ world.conn.socketChannel_.IsReading := by
    rw [hreads.flag, hreads.interest]
    decide
  refine ⟨fun htold => hne htold.agrees, hne, ?_⟩
  rw [stopReadInLoop_eq hreads, hreads.interest]

end Threads

def EstablishedThenStop : List (Input Unit) :=
  [Input.runFunctor (WriteResult.wrote 0), Input.returns,
    Input.api Api.stopRead]

def EstablishedTrace : List Event :=
  [Event.stored States.kConnecting States.kConnected,
    Event.called (Callback.connection States.kConnected)]

theorem establishedThenStop_run :
    ((ConnectionMachine Unit).Run (Init Unit CloseCallback.sameLoop)
      EstablishedThenStop).map (fun last =>
        ((last.1.stack, last.1.conn.reading_,
          last.1.conn.socketChannel_.IsReading), last.2)) =
      some (([], false, true), EstablishedTrace) := by
  decide +kernel

theorem never_reads_as_told_stop :
    exists world, (ConnectionMachine Unit).Run
        (Init Unit CloseCallback.sameLoop) EstablishedThenStop =
          some (world, EstablishedTrace) ∧ ¬ReadsAsTold world := by
  rcases (ConnectionMachine Unit).exists_run
    (fun world => (world.stack, world.conn.reading_,
      world.conn.socketChannel_.IsReading)) establishedThenStop_run with
    ⟨world, hworld, _⟩
  exact ⟨world, hworld, (never_reads_as_told hworld (by decide)).1⟩

theorem reads_as_told_counterexample :
    ¬ forall closeCallback result (inputs : List (Input Unit)) world tr,
      (ConnectionMachine Unit).Run (Init Unit closeCallback)
        (Input.runFunctor result :: inputs) = some (world, tr) ->
      Event.handleClose ∉ tr -> world.stack = [] -> ReadsAsTold world := by
  intro hclaim
  rcases (ConnectionMachine Unit).exists_run
    (fun world => (world.stack, world.conn.reading_,
      world.conn.socketChannel_.IsReading)) establishedThenStop_run with
    ⟨world, hworld, hlast⟩
  simp only [Prod.mk.injEq] at hlast
  have htold := hclaim _ _ _ world _ hworld (by decide) hlast.1
  have hagrees := htold.agrees
  rw [hlast.2.1, hlast.2.2] at hagrees
  cases hagrees

end TcpConnection
end Net
end Wethands
