import Mathlib.Logic.Function.Basic
import Wethands.Foundation.Machine
import Wethands.Net.Buffer
import Wethands.Reactor.Channel

/-!
# A connection and its loop

One connection, the functors that are queued for it, the callbacks of the user
that are running on the loop thread, and the calls that other threads are in
the middle of.  A callback may call the connection again before it returns.
What the kernel answers and what the user does are inputs of the run.
-/

namespace Wethands
namespace Net

open Foundation Reactor

namespace TcpConnection

inductive States where
  | kConnecting
  | kConnected
  | kDisconnecting
  | kDisconnected
deriving DecidableEq

/-- The enumerator as an integer. -/
def States.Value : States -> Nat
  | kConnecting => 0
  | kConnected => 1
  | kDisconnecting => 2
  | kDisconnected => 3

inductive Errno where
  | EPIPE
  | EINTR
  | EWOULDBLOCK
  | other
deriving DecidableEq

inductive WriteResult where
  | wrote (n : Nat)
  | failed (errno : Errno)
deriving DecidableEq

inductive ReadResult where
  | received (bytes : List Byte)
  | failed

/--
Who gets the close notice: `TcpClient`, or a `TcpServer` on the loop of the
connection, destroys it at once; a `TcpServer` on another loop removes it there
and queues `ConnectionDestroyed`.
-/
inductive CloseCallback where
  | sameLoop
  | otherLoop
deriving DecidableEq

inductive Callback where
  | connection (state_ : States)
  | message
  | writeComplete
  | highWaterMark (bytes : Nat)
  | close
deriving DecidableEq

inductive Functor where
  | connectionEstablished
  | sendInLoop (data : List Byte)
  | startReadInLoop
  | stopReadInLoop
  | shutdownInLoop
  | forceCloseInLoop
  | highWaterMarkCallback (bytes : Nat)
  | connectionDestroyed
deriving DecidableEq

/-- What is left to do when a callback returns. -/
inductive Frame where
  | callback
  | writeCompleteOfHandleWrite
deriving DecidableEq

/-- How far another thread is in a call of the connection. -/
inductive Caller where
  | outside
  | sending (data : List Byte)
  | shuttingDown
  | shutdownStored
  | forceClosing
  | forceCloseStored
deriving DecidableEq

/-- `shutdown` is a `Shutdown` that found the connection connected. -/
inductive Event where
  | shutdown
  | stored (old new : States)
  | sendInLoop (data : List Byte)
  | directWrite (len : Nat) (result : WriteResult) (complete : Bool)
  | accepted (bytes : List Byte)
  | shutdownInLoop
  | shutdownWrite
  | handleClose
  | called (callback : Callback)
deriving DecidableEq

end TcpConnection

open TcpConnection

/--
The callbacks that may be empty are given by whether they are set.  Names,
addresses, the context and the descriptor play no part.
-/
structure TcpConnection where
  state_ : States
  reading_ : Bool
  socketChannel_ : Channel
  inputBuffer_ : Buffer
  outputBuffer_ : Buffer
  highWaterMark_ : Nat
  writeCompleteCallback_ : Bool
  messageCallback_ : Bool
  highWaterMarkCallback_ : Bool
  closeCallback_ : CloseCallback

namespace TcpConnection

/--
`removals` counts the `RemoveConnectionInLoop` functors that are queued in the
loop of the server.
-/
structure World (ThreadId : Type) where
  conn : TcpConnection
  pendingFunctors_ : List Functor
  stack : List Frame
  callers : ThreadId -> Caller
  removals : Nat

def New (closeCallback : CloseCallback) : TcpConnection where
  state_ := States.kConnecting
  reading_ := false
  socketChannel_ := Channel.New
  inputBuffer_ := Buffer.New Buffer.kInitialSize
  outputBuffer_ := Buffer.New Buffer.kInitialSize
  highWaterMark_ := 64 * 1024 * 1024
  writeCompleteCallback_ := false
  messageCallback_ := true
  highWaterMarkCallback_ := false
  closeCallback_ := closeCallback

/-- The owner queues `ConnectionEstablished` for a new connection. -/
def Init (ThreadId : Type) (closeCallback : CloseCallback) :
    World ThreadId where
  conn := New closeCallback
  pendingFunctors_ := [Functor.connectionEstablished]
  stack := []
  callers := fun _ => Caller.outside
  removals := 0

variable {ThreadId : Type}

/-!
# Parts of the functions
-/

def Store (world : World ThreadId) (state_ : States) :
    Call (World ThreadId) Event :=
  Except.ok ({ world with conn := { world.conn with state_ := state_ } },
    [Event.stored world.conn.state_ state_])

def SetChannel (world : World ThreadId) (socketChannel_ : Channel) :
    World ThreadId :=
  { world with conn := { world.conn with socketChannel_ := socketChannel_ } }

def Invoke (world : World ThreadId) (callback : Callback) (frame : Frame) :
    Call (World ThreadId) Event :=
  Except.ok ({ world with stack := frame :: world.stack },
    [Event.called callback])

def QueueInLoop (world : World ThreadId) (functor : Functor) :
    World ThreadId :=
  { world with pendingFunctors_ := world.pendingFunctors_ ++ [functor] }

/-!
# Sending
-/

/-- What remains goes into the output buffer, for `HandleWrite`. -/
def AppendRemaining (world : World ThreadId) (remaining : List Byte) :
    World ThreadId :=
  let oldBytes := world.conn.outputBuffer_.ReadableBytes
  let marked :=
    if world.conn.highWaterMark_ ≤ oldBytes + remaining.length ∧
        oldBytes < world.conn.highWaterMark_ ∧
        world.conn.highWaterMarkCallback_ = true then
      QueueInLoop world
        (Functor.highWaterMarkCallback (oldBytes + remaining.length))
    else world
  let socketChannel_ := world.conn.socketChannel_
  { marked with
    conn := { marked.conn with
      outputBuffer_ := world.conn.outputBuffer_.Append remaining
      socketChannel_ :=
        if socketChannel_.IsWriting then socketChannel_
        else socketChannel_.EnableWriting } }

def DirectWrite (world : World ThreadId) (data : List Byte) :
    WriteResult -> Call (World ThreadId) Event
  | WriteResult.wrote n =>
      if n ≤ data.length then
        let es := [Event.accepted (data.take n)]
        if data.length - n = 0 ∧
            world.conn.writeCompleteCallback_ = true then
          Then (Except.ok (world, es)) (fun world =>
            Invoke world Callback.writeComplete Frame.callback)
        else Except.ok (AppendRemaining world (data.drop n), es)
      else Except.error Failure.impossible
  | WriteResult.failed Errno.other => Except.error Failure.sysFatal
  | WriteResult.failed _ => Except.ok (AppendRemaining world data, [])

def SendInLoop (world : World ThreadId) (data : List Byte)
    (result : WriteResult) : Call (World ThreadId) Event :=
  if world.conn.state_ ≠ States.kConnected then Except.ok (world, [])
  else if world.conn.socketChannel_.IsWriting = false ∧
      world.conn.outputBuffer_.ReadableBytes = 0 then
    Then
      (Except.ok (world, [Event.sendInLoop data,
        Event.directWrite data.length result
          world.conn.writeCompleteCallback_]))
      (fun world => DirectWrite world data result)
  else
    Except.ok (AppendRemaining world data, [Event.sendInLoop data])

/-- `Send` on the loop thread. -/
def Send (world : World ThreadId) (data : List Byte)
    (result : WriteResult) : Call (World ThreadId) Event :=
  if world.conn.state_ ≠ States.kConnected then Except.ok (world, [])
  else SendInLoop world data result

/-!
# Reading on and off
-/

def StartReadInLoop (world : World ThreadId) : World ThreadId :=
  if world.conn.reading_ = false ∧
      world.conn.socketChannel_.IsReading = false then
    { world with
      conn := { world.conn with
        socketChannel_ := world.conn.socketChannel_.EnableReading
        reading_ := true } }
  else world

def StopReadInLoop (world : World ThreadId) : World ThreadId :=
  if world.conn.reading_ = true ∧
      world.conn.socketChannel_.IsReading = true then
    { world with
      conn := { world.conn with
        socketChannel_ := world.conn.socketChannel_.DisableReading
        reading_ := false } }
  else world

/-!
# Closing
-/

/-- Unless data is waiting, the writing side is closed. -/
def ShutdownInLoop (world : World ThreadId) :
    Call (World ThreadId) Event :=
  if world.conn.state_ = States.kConnected ∧
      world.conn.socketChannel_.IsWriting = false then
    Except.ok (world, [Event.shutdownInLoop, Event.shutdownWrite])
  else Except.ok (world, [Event.shutdownInLoop])

/-- `Shutdown` on the loop thread. -/
def Shutdown (world : World ThreadId) : Call (World ThreadId) Event :=
  if world.conn.state_ = States.kConnected then
    Then (Except.ok (world, [Event.shutdown])) (fun world =>
      Then (Store world States.kDisconnecting) ShutdownInLoop)
  else Except.ok (world, [])

def ConnectionDestroyed (world : World ThreadId) :
    Call (World ThreadId) Event :=
  Assert (world.conn.state_ = States.kDisconnected)
    (match world.conn.socketChannel_.DisableAll.RemoveFromPoller with
    | Except.error failure => Except.error failure
    | Except.ok socketChannel_ =>
        Invoke (SetChannel world socketChannel_)
          (Callback.connection world.conn.state_) Frame.callback)

def InvokeCloseCallback (world : World ThreadId) :
    Call (World ThreadId) Event :=
  Then (Except.ok (world, [Event.called Callback.close])) (fun world =>
    match world.conn.closeCallback_ with
    | CloseCallback.sameLoop => ConnectionDestroyed world
    | CloseCallback.otherLoop =>
        Except.ok ({ world with removals := world.removals + 1 }, []))

def HandleClose (world : World ThreadId) : Call (World ThreadId) Event :=
  Assert (world.conn.state_ = States.kConnected ∨
      world.conn.state_ = States.kDisconnecting)
    (Then (Except.ok
        (SetChannel world world.conn.socketChannel_.DisableAll,
          [Event.handleClose])) (fun world =>
      Then (Store world States.kDisconnected) InvokeCloseCallback))

theorem handleClose_closes (world : World ThreadId) :
    Yields (HandleClose world) (fun _ es => Event.handleClose ∈ es) := by
  refine Yields.assert (fun _ => Yields.in_turn (yields_ok.mpr ?_))
  intro next es _
  simp

def ForceCloseInLoop (world : World ThreadId) :
    Call (World ThreadId) Event :=
  if world.conn.state_ = States.kConnected ∨
      world.conn.state_ = States.kDisconnecting then HandleClose world
  else Except.ok (world, [])

/-- The condition of `ForceClose`: its right operand is a constant. -/
def MayForceClose (world : World ThreadId) : Prop :=
  world.conn.state_ = States.kConnected ∨ States.kDisconnecting.Value ≠ 0

instance (world : World ThreadId) : Decidable (MayForceClose world) :=
  inferInstanceAs (Decidable (_ ∨ _))

/-- `ForceClose` on the loop thread. -/
def ForceClose (world : World ThreadId) : Call (World ThreadId) Event :=
  if MayForceClose world then
    Then (Store world States.kDisconnecting) ForceCloseInLoop
  else Except.ok (world, [])

def RemoveConnectionInLoop (world : World ThreadId) :
    Call (World ThreadId) Event :=
  match world.removals with
  | 0 => Except.error Failure.impossible
  | removals + 1 =>
      Except.ok (QueueInLoop { world with removals := removals }
        Functor.connectionDestroyed, [])

/-!
# Events of the loop
-/

def ConnectionEstablished (world : World ThreadId) :
    Call (World ThreadId) Event :=
  Assert (world.conn.state_ = States.kConnecting)
    (Then (Store
        (SetChannel world world.conn.socketChannel_.EnableReading)
        States.kConnected) (fun world =>
      Invoke world (Callback.connection world.conn.state_) Frame.callback))

/-- An empty read is the end of the stream. -/
def HandleRead (world : World ThreadId) :
    ReadResult -> Call (World ThreadId) Event
  | ReadResult.failed => Except.ok (world, [])
  | ReadResult.received bytes =>
      match world.conn.inputBuffer_.ReadFd bytes with
      | Except.error failure => Except.error failure
      | Except.ok inputBuffer_ =>
          let world := { world with
            conn := { world.conn with inputBuffer_ := inputBuffer_ } }
          if bytes = [] then HandleClose world
          else if world.conn.messageCallback_ = true then
            Invoke world Callback.message Frame.callback
          else Except.ok (world, [])

/-- What `HandleWrite` does after its callback. -/
def HandleWriteCompleted (world : World ThreadId) :
    Call (World ThreadId) Event :=
  if world.conn.state_ = States.kDisconnecting then ShutdownInLoop world
  else Except.ok (world, [])

def SetOutput (world : World ThreadId) (outputBuffer_ : Buffer) :
    World ThreadId :=
  { world with
    conn := { world.conn with
      outputBuffer_ := outputBuffer_
      socketChannel_ :=
        if outputBuffer_.ReadableBytes = 0 then
          world.conn.socketChannel_.DisableWriting
        else world.conn.socketChannel_ } }

/-- What `HandleWrite` does when bytes have left the buffer. -/
def HandleWritten (world : World ThreadId) : Call (World ThreadId) Event :=
  if world.conn.outputBuffer_.ReadableBytes = 0 then
    if world.conn.writeCompleteCallback_ = true then
      Invoke world Callback.writeComplete Frame.writeCompleteOfHandleWrite
    else HandleWriteCompleted world
  else Except.ok (world, [])

def HandleWrite (world : World ThreadId) :
    WriteResult -> Call (World ThreadId) Event
  | WriteResult.failed _ => Except.ok (world, [])
  | WriteResult.wrote n =>
      if world.conn.socketChannel_.IsWriting = false then
        Except.ok (world, [])
      else if n ≤ world.conn.outputBuffer_.ReadableBytes then
        if 0 < n then
          match world.conn.outputBuffer_.Retrieve n with
          | Except.error failure => Except.error failure
          | Except.ok outputBuffer_ =>
              Then (Except.ok (SetOutput world outputBuffer_,
                [Event.accepted (world.conn.outputBuffer_.Readable.take n)]))
                HandleWritten
        else Except.ok (world, [])
      else Except.error Failure.impossible

/-!
# Runs
-/

inductive Api where
  | send (data : List Byte) (result : WriteResult)
  | shutdown
  | forceClose
  | startRead
  | stopRead
  | setWriteCompleteCallback (set : Bool)
  | setMessageCallback (set : Bool)
  | setHighWaterMarkCallback (set : Bool)
  | setHighWaterMark (highWaterMark : Nat)
  | retrieve (len : Nat)

inductive RemoteApi where
  | send (data : List Byte)
  | shutdown
  | forceClose
  | startRead
  | stopRead

inductive Input (ThreadId : Type) where
  | api (api : Api)
  | returns
  | runFunctor (result : WriteResult)
  | handleRead (result : ReadResult)
  | handleWrite (result : WriteResult)
  | handleClose
  | handleError
  | removeConnectionInLoop
  | remoteCall (tid : ThreadId) (api : RemoteApi)
  | remoteNext (tid : ThreadId)

def CallApi (world : World ThreadId) : Api -> Call (World ThreadId) Event
  | Api.send data result => Send world data result
  | Api.shutdown => Shutdown world
  | Api.forceClose => ForceClose world
  | Api.startRead => Except.ok (StartReadInLoop world, [])
  | Api.stopRead => Except.ok (StopReadInLoop world, [])
  | Api.setWriteCompleteCallback set =>
      Except.ok ({ world with
        conn := { world.conn with writeCompleteCallback_ := set } }, [])
  | Api.setMessageCallback set =>
      Except.ok ({ world with
        conn := { world.conn with messageCallback_ := set } }, [])
  | Api.setHighWaterMarkCallback set =>
      Except.ok ({ world with
        conn := { world.conn with highWaterMarkCallback_ := set } }, [])
  | Api.setHighWaterMark highWaterMark =>
      Except.ok ({ world with
        conn := { world.conn with highWaterMark_ := highWaterMark } }, [])
  | Api.retrieve len =>
      match world.conn.inputBuffer_.Retrieve len with
      | Except.error failure => Except.error failure
      | Except.ok inputBuffer_ =>
          Except.ok ({ world with
            conn := { world.conn with inputBuffer_ := inputBuffer_ } }, [])

def Return (world : World ThreadId) : Call (World ThreadId) Event :=
  match world.stack with
  | [] => Except.error Failure.impossible
  | Frame.callback :: rest => Except.ok ({ world with stack := rest }, [])
  | Frame.writeCompleteOfHandleWrite :: rest =>
      HandleWriteCompleted { world with stack := rest }

def RunFunctor (world : World ThreadId) (result : WriteResult) :
    Call (World ThreadId) Event :=
  match world.pendingFunctors_ with
  | [] => Except.error Failure.impossible
  | functor :: rest =>
      let world := { world with pendingFunctors_ := rest }
      match functor with
      | Functor.connectionEstablished => ConnectionEstablished world
      | Functor.sendInLoop data => SendInLoop world data result
      | Functor.startReadInLoop => Except.ok (StartReadInLoop world, [])
      | Functor.stopReadInLoop => Except.ok (StopReadInLoop world, [])
      | Functor.shutdownInLoop => ShutdownInLoop world
      | Functor.forceCloseInLoop => ForceCloseInLoop world
      | Functor.highWaterMarkCallback bytes =>
          Invoke world (Callback.highWaterMark bytes) Frame.callback
      | Functor.connectionDestroyed => ConnectionDestroyed world

/-- The loop itself only goes on when no callback is running. -/
def InLoop (world : World ThreadId) (call : Call (World ThreadId) Event) :
    Call (World ThreadId) Event :=
  if world.stack = [] then call else Except.error Failure.impossible

/-- The poller only reports channels that are registered with it. -/
def OnEvent (world : World ThreadId) (call : Call (World ThreadId) Event) :
    Call (World ThreadId) Event :=
  InLoop world
    (if world.conn.socketChannel_.registeredToPoller = true then call
    else Except.error Failure.impossible)

section Threads

variable [DecidableEq ThreadId]

def SetCaller (world : World ThreadId) (tid : ThreadId) (caller : Caller) :
    World ThreadId :=
  { world with callers := Function.update world.callers tid caller }

/-- The check at the start of a call, or all of a call without one. -/
def RemoteCall (world : World ThreadId) (tid : ThreadId) :
    RemoteApi -> Call (World ThreadId) Event
  | RemoteApi.send data =>
      if world.conn.state_ ≠ States.kConnected then Except.ok (world, [])
      else Except.ok (SetCaller world tid (Caller.sending data), [])
  | RemoteApi.shutdown =>
      if world.conn.state_ = States.kConnected then
        Except.ok (SetCaller world tid Caller.shuttingDown, [Event.shutdown])
      else Except.ok (world, [])
  | RemoteApi.forceClose =>
      if MayForceClose world then
        Except.ok (SetCaller world tid Caller.forceClosing, [])
      else Except.ok (world, [])
  | RemoteApi.startRead =>
      Except.ok (QueueInLoop world Functor.startReadInLoop, [])
  | RemoteApi.stopRead =>
      Except.ok (QueueInLoop world Functor.stopReadInLoop, [])

/-- The next store or push of a call that another thread is in. -/
def RemoteNext (world : World ThreadId) (tid : ThreadId) :
    Call (World ThreadId) Event :=
  match world.callers tid with
  | Caller.outside => Except.error Failure.impossible
  | Caller.sending data =>
      Except.ok (QueueInLoop (SetCaller world tid Caller.outside)
        (Functor.sendInLoop data), [])
  | Caller.shuttingDown =>
      Store (SetCaller world tid Caller.shutdownStored) States.kDisconnecting
  | Caller.shutdownStored =>
      Except.ok (QueueInLoop (SetCaller world tid Caller.outside)
        Functor.shutdownInLoop, [])
  | Caller.forceClosing =>
      Store (SetCaller world tid Caller.forceCloseStored)
        States.kDisconnecting
  | Caller.forceCloseStored =>
      Except.ok (QueueInLoop (SetCaller world tid Caller.outside)
        Functor.forceCloseInLoop, [])

def Perform (world : World ThreadId) :
    Input ThreadId -> Call (World ThreadId) Event
  | Input.api api => CallApi world api
  | Input.returns => Return world
  | Input.runFunctor result => InLoop world (RunFunctor world result)
  | Input.handleRead result => OnEvent world (HandleRead world result)
  | Input.handleWrite result => OnEvent world (HandleWrite world result)
  | Input.handleClose => OnEvent world (HandleClose world)
  | Input.handleError => OnEvent world (Except.ok (world, []))
  | Input.removeConnectionInLoop => RemoveConnectionInLoop world
  | Input.remoteCall tid api =>
      if world.callers tid = Caller.outside then RemoteCall world tid api
      else Except.error Failure.impossible
  | Input.remoteNext tid => RemoteNext world tid

def ConnectionMachine (ThreadId : Type) [DecidableEq ThreadId] :
    Machine (World ThreadId) (Input ThreadId) Event where
  Step world i := Answer (Perform world i)

end Threads
end TcpConnection
end Net
end Wethands
