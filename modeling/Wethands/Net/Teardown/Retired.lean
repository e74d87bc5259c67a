import Wethands.Net.Ownership.Dispatch
import Wethands.Net.TcpConnection.Core

/-!
# A connection that has been through `ConnectionDestroyed`

It is `kDisconnected` and its channel is as it was made.  Only a store of
`kDisconnecting` and a start of reading would change that.
-/

namespace Wethands
namespace Net

open Foundation Reactor

namespace Teardown

open TcpConnection (World Functor Frame Caller Callback CloseCallback States
  ReadResult WriteResult Api RemoteApi)
open Ownership (Owned Act Branch Closes Effect RunBranch)

variable {ThreadId : Type} {world : World ThreadId}

structure Retired (world : World ThreadId) : Prop where
  disconnected : world.conn.state_ = States.kDisconnected
  channel : world.conn.socketChannel_ = Channel.New

def Rests (world : World ThreadId)
    (call : Call (World ThreadId) TcpConnection.Event) : Prop :=
  Retired world -> Yields call (fun next _ => Retired next)

theorem Retired.of_conn {next : World ThreadId} (h : Retired world)
    (hstate : next.conn.state_ = world.conn.state_)
    (hchannel : next.conn.socketChannel_ = world.conn.socketChannel_) :
    Retired next where
  disconnected := hstate.trans h.disconnected
  channel := hchannel.trans h.channel

theorem Retired.not_connected (h : Retired world) :
    world.conn.state_ ≠ States.kConnected := by
  simp [h.disconnected]

theorem Retired.not_leaving (h : Retired world) :
    world.conn.state_ ≠ States.kDisconnecting := by
  simp [h.disconnected]

theorem Retired.not_open (h : Retired world) :
    ¬(world.conn.state_ = States.kConnected ∨
      world.conn.state_ = States.kDisconnecting) := by
  simp [h.disconnected]

theorem retired_connectionDestroyed (world : World ThreadId) :
    Yields (TcpConnection.ConnectionDestroyed world)
      (fun next _ => Retired next) := by
  refine (Ownership.connectionDestroyed_yields world).mono ?_
  intro next es hanswer
  rcases hanswer with ⟨hstate, rfl, _⟩
  exact ⟨hstate, rfl⟩

/-!
# What the functions of a retired connection do
-/

theorem rests_sendInLoop (world : World ThreadId) (data : List Byte)
    (result : WriteResult) :
    Rests world (TcpConnection.SendInLoop world data result) := by
  intro h
  rw [TcpConnection.SendInLoop, if_pos h.not_connected]
  exact yields_ok.mpr h

theorem rests_send (world : World ThreadId) (data : List Byte)
    (result : WriteResult) :
    Rests world (TcpConnection.Send world data result) := by
  intro h
  rw [TcpConnection.Send, if_pos h.not_connected]
  exact yields_ok.mpr h

theorem rests_shutdownInLoop (world : World ThreadId) :
    Rests world (TcpConnection.ShutdownInLoop world) := by
  intro h
  rw [TcpConnection.ShutdownInLoop, if_neg (fun hopen =>
    h.not_connected hopen.1)]
  exact yields_ok.mpr h

theorem rests_shutdown (world : World ThreadId) :
    Rests world (TcpConnection.Shutdown world) := by
  intro h
  rw [TcpConnection.Shutdown, if_neg h.not_connected]
  exact yields_ok.mpr h

theorem rests_handleClose (world : World ThreadId) :
    Rests world (TcpConnection.HandleClose world) := by
  intro h
  exact Yields.assert (fun hopen => absurd hopen h.not_open)

theorem rests_forceCloseInLoop (world : World ThreadId) :
    Rests world (TcpConnection.ForceCloseInLoop world) := by
  intro h
  rw [TcpConnection.ForceCloseInLoop, if_neg h.not_open]
  exact yields_ok.mpr h

theorem rests_connectionEstablished (world : World ThreadId) :
    Rests world (TcpConnection.ConnectionEstablished world) := by
  intro h
  refine Yields.assert (fun hnew => ?_)
  rw [h.disconnected] at hnew
  cases hnew

theorem rests_invoke (world : World ThreadId) (callback : Callback)
    (frame : Frame) :
    Rests world (TcpConnection.Invoke world callback frame) :=
  fun h => yields_ok.mpr ⟨h.disconnected, h.channel⟩

theorem rests_stopReadInLoop (world : World ThreadId) :
    Rests world (Except.ok (TcpConnection.StopReadInLoop world, [])) := by
  intro h
  have hoff : world.conn.socketChannel_.IsReading = false := by
    rw [h.channel]
    rfl
  simp [TcpConnection.StopReadInLoop, hoff, h]

theorem rests_startReadInLoop (hreading : world.conn.reading_ = true) :
    Rests world (Except.ok (TcpConnection.StartReadInLoop world, [])) := by
  intro h
  simp [TcpConnection.StartReadInLoop, hreading, h]

theorem rests_handleRead (world : World ThreadId) (result : ReadResult) :
    Rests world (TcpConnection.HandleRead world result) := by
  intro h
  unfold TcpConnection.HandleRead
  split
  · exact yields_ok.mpr h
  · split
    · exact yields_error
    · dsimp only
      have hfilled : forall inputBuffer_ : Buffer, Retired { world with
          conn := { world.conn with inputBuffer_ := inputBuffer_ } } :=
        fun _ => h.of_conn rfl rfl
      split
      · exact rests_handleClose _ (hfilled _)
      · split
        · exact rests_invoke _ _ _ (hfilled _)
        · exact yields_ok.mpr (hfilled _)

theorem rests_handleWrite (world : World ThreadId) (result : WriteResult) :
    Rests world (TcpConnection.HandleWrite world result) := by
  intro h
  have hoff : world.conn.socketChannel_.IsWriting = false := by
    rw [h.channel]
    rfl
  cases result with
  | failed errno => exact yields_ok.mpr h
  | wrote n =>
      simp only [TcpConnection.HandleWrite, hoff, if_true]
      exact yields_ok.mpr h

theorem rests_return (world : World ThreadId) :
    Rests world (TcpConnection.Return world) := by
  intro h
  unfold TcpConnection.Return
  split
  · exact yields_error
  · exact yields_ok.mpr (h.of_conn rfl rfl)
  · unfold TcpConnection.HandleWriteCompleted
    rw [if_neg h.not_leaving]
    exact yields_ok.mpr (h.of_conn rfl rfl)

theorem rests_runBranch (world : World ThreadId) (read : ReadResult)
    (write : WriteResult) (branch : Branch) :
    Rests world (RunBranch world read write branch) := by
  cases branch with
  | read => exact rests_handleRead world read
  | write => exact rests_handleWrite world write
  | error => exact fun h => yields_ok.mpr h
  | close => exact rests_handleClose world

theorem rests_callApi {api : Api} (hforce : api ≠ Api.forceClose)
    (hstart : api = Api.startRead -> world.conn.reading_ = true) :
    Rests world (TcpConnection.CallApi world api) := by
  intro h
  cases api with
  | send data result => exact rests_send world data result h
  | shutdown => exact rests_shutdown world h
  | forceClose => exact absurd rfl hforce
  | startRead => exact rests_startReadInLoop (hstart rfl) h
  | stopRead => exact rests_stopReadInLoop world h
  | setWriteCompleteCallback set => exact yields_ok.mpr (h.of_conn rfl rfl)
  | setMessageCallback set => exact yields_ok.mpr (h.of_conn rfl rfl)
  | setHighWaterMarkCallback set => exact yields_ok.mpr (h.of_conn rfl rfl)
  | setHighWaterMark highWaterMark =>
      exact yields_ok.mpr (h.of_conn rfl rfl)
  | retrieve len =>
      unfold TcpConnection.CallApi
      dsimp only
      split
      · exact yields_error
      · exact yields_ok.mpr (h.of_conn rfl rfl)

theorem rests_runFunctor {functor : Functor} {rest : List Functor}
    (hfunctors : world.pendingFunctors_ = functor :: rest)
    (result : WriteResult)
    (hstart : functor = Functor.startReadInLoop ->
      world.conn.reading_ = true) :
    Rests world (TcpConnection.RunFunctor world result) := by
  intro h
  have htaken : Retired { world with pendingFunctors_ := rest } :=
    h.of_conn rfl rfl
  unfold TcpConnection.RunFunctor
  rw [hfunctors]
  cases functor with
  | connectionEstablished => exact rests_connectionEstablished _ htaken
  | sendInLoop data => exact rests_sendInLoop _ data result htaken
  | startReadInLoop =>
      have hreading : ({ world with pendingFunctors_ := rest } :
          World ThreadId).conn.reading_ = true := hstart rfl
      exact rests_startReadInLoop hreading htaken
  | stopReadInLoop => exact rests_stopReadInLoop _ htaken
  | shutdownInLoop => exact rests_shutdownInLoop _ htaken
  | forceCloseInLoop => exact rests_forceCloseInLoop _ htaken
  | highWaterMarkCallback bytes => exact rests_invoke _ _ _ htaken
  | connectionDestroyed => exact retired_connectionDestroyed _

section Threads

variable [DecidableEq ThreadId]

theorem rests_remoteCall (world : World ThreadId) (tid : ThreadId)
    (api : RemoteApi) :
    Rests world (TcpConnection.RemoteCall world tid api) := by
  intro h
  unfold TcpConnection.RemoteCall
  split
  · split <;> exact yields_ok.mpr (h.of_conn rfl rfl)
  · split <;> exact yields_ok.mpr (h.of_conn rfl rfl)
  · split <;> exact yields_ok.mpr (h.of_conn rfl rfl)
  · exact yields_ok.mpr (h.of_conn rfl rfl)
  · exact yields_ok.mpr (h.of_conn rfl rfl)

theorem rests_remoteNext {tid : ThreadId}
    (hcaller : ¬(world.callers tid = Caller.shuttingDown ∨
      world.callers tid = Caller.forceClosing)) :
    Rests world (TcpConnection.RemoteNext world tid) := by
  intro h
  unfold TcpConnection.RemoteNext
  split
  · exact yields_error
  · exact yields_ok.mpr (h.of_conn rfl rfl)
  · exact absurd (Or.inl ‹_›) hcaller
  · exact yields_ok.mpr (h.of_conn rfl rfl)
  · exact absurd (Or.inr ‹_›) hcaller
  · exact yields_ok.mpr (h.of_conn rfl rfl)

end Threads

/-!
# The close that an owner on the same loop is told of
-/

def Finishes (world : World ThreadId)
    (call : Call (World ThreadId) TcpConnection.Event) : Prop :=
  world.conn.closeCallback_ = CloseCallback.sameLoop ->
    Yields call (fun next es => Closes es -> Retired next)

theorem finishes_of_effect {call : Call (World ThreadId) TcpConnection.Event}
    (h : Yields call (Effect False world)) : Finishes world call :=
  fun _ => h.mono (fun _ _ heffect hcloses => (heffect.closes hcloses).elim)

theorem finishes_handleClose (world : World ThreadId) :
    Finishes world (TcpConnection.HandleClose world) := by
  intro hsame
  refine Yields.assert (fun _ => ?_)
  refine Yields.in_turn (yields_ok.mpr ?_)
  refine Yields.in_turn (yields_ok.mpr ?_)
  unfold TcpConnection.InvokeCloseCallback
  refine Yields.in_turn (yields_ok.mpr ?_)
  simp only [TcpConnection.SetChannel, hsame]
  exact (retired_connectionDestroyed _).mono (fun _ _ h _ => h)

theorem finishes_forceCloseInLoop (world : World ThreadId) :
    Finishes world (TcpConnection.ForceCloseInLoop world) := by
  intro hsame
  unfold TcpConnection.ForceCloseInLoop
  split
  · exact finishes_handleClose world hsame
  · exact yields_ok.mpr (by simp [Closes])

theorem finishes_forceClose (world : World ThreadId) :
    Finishes world (TcpConnection.ForceClose world) := by
  intro hsame
  unfold TcpConnection.ForceClose
  split
  · have hlater : Finishes { world with
        conn := { world.conn with state_ := States.kDisconnecting } } _ :=
      finishes_forceCloseInLoop _
    refine Yields.in_turn (yields_ok.mpr ((hlater hsame).mono ?_))
    intro next es hnext hcloses
    apply hnext
    simpa [Closes] using hcloses
  · exact yields_ok.mpr (by simp [Closes])

theorem finishes_handleRead (world : World ThreadId) (result : ReadResult) :
    Finishes world (TcpConnection.HandleRead world result) := by
  intro hsame
  unfold TcpConnection.HandleRead
  split
  · exact yields_ok.mpr (by simp [Closes])
  · split
    · exact yields_error
    · dsimp only
      split
      · exact finishes_handleClose _ hsame
      · split
        · exact yields_ok.mpr (by simp [Closes])
        · exact yields_ok.mpr (by simp [Closes])

theorem finishes_runBranch (world : World ThreadId) (read : ReadResult)
    (write : WriteResult) (branch : Branch) :
    Finishes world (RunBranch world read write branch) := by
  cases branch with
  | read => exact finishes_handleRead world read
  | write =>
      exact finishes_of_effect ((Ownership.handleWrite_quiet world write).mono
        (fun _ _ h => h.toEffect))
  | error => exact fun _ => yields_ok.mpr (by simp [Closes])
  | close => exact finishes_handleClose world

theorem finishes_callApi (world : World ThreadId) (api : Api) :
    Finishes world (TcpConnection.CallApi world api) := by
  by_cases hforce : api = Api.forceClose
  · subst hforce
    exact finishes_forceClose world
  · refine finishes_of_effect ((Ownership.callApi_effect world api).mono ?_)
    exact fun _ _ h => h.mono hforce

theorem finishes_runFunctor {functor : Functor} {rest : List Functor}
    (hfunctors : world.pendingFunctors_ = functor :: rest)
    (result : WriteResult) :
    Finishes world (TcpConnection.RunFunctor world result) := by
  intro hsame
  unfold TcpConnection.RunFunctor
  rw [hfunctors]
  cases functor with
  | connectionEstablished =>
      exact finishes_of_effect ((Ownership.connectionEstablished_quiet _).mono
        (fun _ _ h => h.toEffect)) hsame
  | sendInLoop data =>
      exact finishes_of_effect ((Ownership.sendInLoop_quiet _ data
        result).mono (fun _ _ h => h.toEffect)) hsame
  | startReadInLoop => exact yields_ok.mpr (by simp [Closes])
  | stopReadInLoop => exact yields_ok.mpr (by simp [Closes])
  | shutdownInLoop =>
      exact finishes_of_effect ((Ownership.shutdownInLoop_quiet _).mono
        (fun _ _ h => h.toEffect)) hsame
  | forceCloseInLoop => exact finishes_forceCloseInLoop _ hsame
  | highWaterMarkCallback bytes =>
      exact yields_ok.mpr (by simp [Closes])
  | connectionDestroyed =>
      exact (retired_connectionDestroyed _).mono (fun _ _ h _ => h)

end Teardown
end Net
end Wethands
