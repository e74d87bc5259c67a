import Mathlib.Tactic.Positivity
import Wethands.Reactor.Channel
import Wethands.Reactor.TimerQueue.Model

/-!
# The connector

A connector on its loop, with the timer queue of that loop.  Each step is what
the loop thread does between two places where another thread can be seen: the
test of `stop_` in `StartInLoop` and in `Retry` ends a step, and so does the
start of each timer callback.  User code runs between the steps.
-/

namespace Wethands
namespace Net

open Foundation Utils Reactor

/-- `socket_` tells whether there is a socket, which then is open. -/
structure Connector where
  socket_ : Bool
  socketChannel_ : Option Channel
  connecting_ : Bool
  retryDelay_ : Nat
  stop_ : Bool
  timerIdx_ : TimerIndex
  newConnectionCallback_ : Bool
deriving DecidableEq

namespace Connector

def kInitRetryDelay : Nat := 1

def kMaxRetryDelay : Nat := 30

def New (newConnectionCallback : Bool) : Connector where
  socket_ := false
  socketChannel_ := none
  connecting_ := false
  retryDelay_ := kInitRetryDelay
  stop_ := false
  timerIdx_ := TimerIndex.Default
  newConnectionCallback_ := newConnectionCallback

def Registered (connector : Connector) : Bool :=
  connector.socketChannel_.any Channel.registeredToPoller

/-!
# Error numbers of `connect`
-/

def EINTR : Nat := 4

def EAGAIN : Nat := 11

def EADDRINUSE : Nat := 98

def EADDRNOTAVAIL : Nat := 99

def ENETUNREACH : Nat := 101

def EISCONN : Nat := 106

def ECONNREFUSED : Nat := 111

def EINPROGRESS : Nat := 115

/-- The connection is there, or the socket becomes writable later. -/
def Pending (savedErrno : Nat) : Prop :=
  savedErrno ∈ [0, EINPROGRESS, EINTR, EISCONN]

/-- A later attempt may succeed. -/
def Temporary (savedErrno : Nat) : Prop :=
  savedErrno ∈ [EAGAIN, ENETUNREACH, EADDRINUSE, EADDRNOTAVAIL, ECONNREFUSED]

instance (savedErrno : Nat) : Decidable (Pending savedErrno) :=
  inferInstanceAs (Decidable (_ ∈ _))

instance (savedErrno : Nat) : Decidable (Temporary savedErrno) :=
  inferInstanceAs (Decidable (_ ∈ _))

def Delay (seconds : Nat) : Seconds where
  positive := decide (0 < seconds)
  micros := seconds * 1000000
  micros_nonneg := by
    intro _
    positivity

/-!
# The loop around the connector
-/

/--
Where the loop thread is within the code of the connector: `restart` is in
front of `StartInLoop`, `startInLoop` and `retry` are behind the tests of
`stop_`, and `handleWrite` is in front of the callback.
-/
inductive Control where
  | outside
  | restart
  | startInLoop
  | handleWrite
  | retry
deriving DecidableEq

/--
The event of the channel among those that `Poll` returned last, with whether
the channel that it was returned for still exists.
-/
inductive Dispatch where
  | idle
  | ahead (alive : Bool)
  | handling (alive : Bool)
deriving DecidableEq

def Dispatch.Handling : Dispatch -> Bool
  | handling _ => true
  | _ => false

def Dispatch.Destroyed : Dispatch -> Dispatch
  | idle => idle
  | ahead _ => ahead false
  | handling _ => handling false

/-- `HandleRead` of the timer queue, between two of its callbacks. -/
structure Batch where
  now : Timestamp
  running : Option TimerIndex
  rest : List TimerIndex
deriving DecidableEq

inductive Functor where
  | startInLoop
  | stopInLoop
deriving DecidableEq

inductive Event where
  | restart
  | connect
  | newConnection
  | stopInLoop
  | stopReturned
  | resumed (alive : Bool)
deriving DecidableEq

/--
`retries` holds the numbers of the timers whose callback is `StartInLoop`, and
`stopping` counts the threads that have set `stop_` in `Stop` and have not
queued `StopInLoop` yet.
-/
structure World where
  connector : Connector
  queue : TimerQueue
  retries : List Nat
  control : Control
  dispatch : Dispatch
  batch : Option Batch
  functors : List Functor
  started : Bool
  stopping : Nat

def Init (newConnectionCallback : Bool) : World where
  connector := New newConnectionCallback
  queue := TimerQueue.Init
  retries := []
  control := Control.outside
  dispatch := Dispatch.idle
  batch := none
  functors := []
  started := false
  stopping := 0

def OnQueue (world : World) (call : Call TimerQueue TimerQueue.Event) :
    Call World Event :=
  match call with
  | Except.error failure => Except.error failure
  | Except.ok (queue, _) => Except.ok ({ world with queue := queue }, [])

/-!
# The channel
-/

/-- `socketChannel_.reset`: the destructor asserts that it is unregistered. -/
def ResetChannel (world : World) (channel : Option Channel) :
    Call World Event :=
  match world.connector.socketChannel_ with
  | none =>
      Except.ok ({ world with
        connector := { world.connector with socketChannel_ := channel } }, [])
  | some old =>
      Assert (old.registeredToPoller = false)
        (Except.ok ({ world with
          connector := { world.connector with socketChannel_ := channel }
          dispatch := world.dispatch.Destroyed }, []))

def RegisterForConnecting (world : World) : Call World Event :=
  Assert (world.connector.socket_ = true)
    (match world.connector.socketChannel_ with
    | none => Except.error Failure.assertion
    | some channel =>
        Assert (channel.registeredToPoller = false)
          (Except.ok ({ world with
            connector := { world.connector with
              socketChannel_ := some channel.EnableWriting } }, [])))

def UnregisterForConnecting (world : World) : Call World Event :=
  match world.connector.socketChannel_ with
  | none => Except.error Failure.assertion
  | some channel =>
      Assert (channel.registeredToPoller = true)
        (if world.connector.socket_ then
          match channel.DisableWriting.RemoveFromPoller with
          | Except.error failure => Except.error failure
          | Except.ok channel =>
              Except.ok ({ world with
                connector := { world.connector with
                  socketChannel_ := some channel } }, [])
        else Except.error Failure.sysFatal)

/-- The block that `Restart` and `StopInLoop` have in common. -/
def ClearConnecting (world : World) : Call World Event :=
  if world.connector.connecting_ then
    match world.connector.socketChannel_ with
    | none => Except.error Failure.assertion
    | some channel =>
        Assert (channel.IsWriting = true ∧ channel.registeredToPoller = true)
          (Then (UnregisterForConnecting world) (fun world =>
            Except.ok ({ world with
              connector := { world.connector with
                connecting_ := false } }, [])))
  else Except.ok (world, [])

/-!
# Attempts
-/

/-- `StartInLoop` up to the test of `stop_`. -/
def StartInLoop (world : World) : Call World Event :=
  if world.connector.stop_ then
    Except.ok ({ world with control := Control.outside }, [])
  else Except.ok ({ world with control := Control.startInLoop }, [])

/-- `Retry` up to the test of `stop_`. -/
def Retry (world : World) : Call World Event :=
  if world.connector.stop_ then
    Except.ok ({ world with control := Control.outside }, [])
  else Except.ok ({ world with control := Control.retry }, [])

/-- The rest of `StartInLoop`, with the error number of `connect`. -/
def Attempt (world : World) (savedErrno : Nat) : Call World Event :=
  let world := { world with
    connector := { world.connector with socket_ := true } }
  Assert (world.connector.Registered = false)
    (Then (ResetChannel world (some Channel.New)) (fun world =>
    Then (Except.ok (world, [Event.connect])) (fun world =>
      if Pending savedErrno then
        Then (RegisterForConnecting world) (fun world =>
          Except.ok ({ world with
            connector := { world.connector with connecting_ := true }
            control := Control.outside }, []))
      else if Temporary savedErrno then Retry world
      else
        ResetChannel { world with
          connector := { world.connector with socket_ := false }
          control := Control.outside } none)))

/-- `HandleWrite` up to the call of `newConnectionCallback_`. -/
def HandleWrite (world : World) (isError : Nat) (isSelfConnect : Bool) :
    Call World Event :=
  Then (UnregisterForConnecting world) (fun world =>
    let world := { world with
      connector := { world.connector with connecting_ := false } }
    -- `ErrorCode` and `IsSelfConnect` are asked of the socket.
    if world.connector.socket_ then
      if isError = 0 then
        if isSelfConnect then Retry world
        else if world.connector.newConnectionCallback_ then
          Except.ok ({ world with control := Control.handleWrite }, [])
        else Except.ok (world, [])
      else Retry world
    else Except.error Failure.danglingPointer)

def NewConnection (world : World) : Call World Event :=
  Except.ok ({ world with
    connector := { world.connector with socket_ := false }
    control := Control.outside }, [Event.newConnection])

section Clock

variable (clock : Nat -> Timestamp)

/-- The rest of `Retry`; `timer` is where the timer is allocated. -/
def RunAfter (world : World) (timer : Address) : Call World Event :=
  Then (OnQueue world (TimerQueue.AddTimer clock world.queue timer
      (TimerQueue.Request.runAfter (Delay world.connector.retryDelay_))))
    (fun world =>
      match world.queue.issued with
      | [] => Except.error Failure.impossible
      | timerIdx :: _ =>
          Except.ok ({ world with
            connector := { world.connector with
              timerIdx_ := timerIdx
              retryDelay_ :=
                if world.connector.retryDelay_ * 2 > kMaxRetryDelay then
                  kMaxRetryDelay
                else world.connector.retryDelay_ * 2 }
            retries := timerIdx.sequence_ :: world.retries
            control := Control.outside }, []))

def CancelRetry (world : World) : Call World Event :=
  OnQueue world
    (TimerQueue.CancelTimerInLoop world.queue world.connector.timerIdx_)

/-!
# Calls of the user
-/

/-- `Restart` up to the call of `StartInLoop`. -/
def Restart (world : World) : Call World Event :=
  Then (Except.ok (world, [Event.restart])) (fun world =>
    Then (ClearConnecting world) (fun world =>
      CancelRetry { world with
        connector := { world.connector with
          retryDelay_ := kInitRetryDelay
          stop_ := false }
        control := Control.restart }))

def StopInLoop (world : World) : Call World Event :=
  Then (ClearConnecting { world with
      connector := { world.connector with socket_ := false } }) (fun world =>
    Then (CancelRetry world) (fun world =>
      Then (ResetChannel world none) (fun world =>
        Except.ok (world, [Event.stopInLoop]))))

/-- `Stop` on the loop thread. -/
def Stop (world : World) : Call World Event :=
  Then (StopInLoop { world with
      connector := { world.connector with stop_ := true } }) (fun world =>
    Except.ok (world, [Event.stopReturned]))

/-!
# Steps
-/

/--
`timers` is what user code and other threads do to the timer queue, and
`runTimerFunctor` runs what they have queued for it.
-/
inductive Input where
  | start
  | restart
  | stop
  | remoteStart
  | remoteStop
  | remoteRunInLoop
  | runFunctor
  | startInLoop
  | attempt (savedErrno : Nat)
  | newConnection
  | runAfter (timer : Address)
  | poll
  | handleEvent (revents : BitVec 32) (isError : Nat) (isSelfConnect : Bool)
  | resume
  | timers (op : TimerQueue.Op)
  | runTimerFunctor
  | timerExpires
  | handleRead
  | runTimer
  | restartOrDelete
  | rearm

def When (p : Prop) [Decidable p] (call : Call World Event) :
    Call World Event :=
  if p then call else Except.error Failure.impossible

/-- Control is in the loop, behind the active channels. -/
def Draining (world : World) : Prop :=
  world.control = Control.outside ∧ world.dispatch = Dispatch.idle ∧
    world.batch = none

instance (world : World) : Decidable (Draining world) :=
  inferInstanceAs (Decidable (_ ∧ _ ∧ _))

def RunFunctor (world : World) : Call World Event :=
  When (Draining world)
    (match world.functors with
    | [] => Except.error Failure.impossible
    | Functor.startInLoop :: rest =>
        StartInLoop { world with functors := rest }
    | Functor.stopInLoop :: rest => StopInLoop { world with functors := rest })

/-- The channel is among the active ones only while it is registered. -/
def Poll (world : World) : Call World Event :=
  When (Draining world ∧ world.connector.Registered = true)
    (Except.ok ({ world with dispatch := Dispatch.ahead true }, []))

/-- The channel of a connector has no callback but `HandleWrite`. -/
def HandleEvent (world : World) (revents : BitVec 32) (isError : Nat)
    (isSelfConnect : Bool) : Call World Event :=
  match world.dispatch with
  | Dispatch.ahead false => Except.error Failure.danglingPointer
  | Dispatch.ahead true =>
      let world := { world with dispatch := Dispatch.handling true }
      if revents &&& Channel.EPOLLOUT ≠ 0 then
        HandleWrite world isError isSelfConnect
      else Except.ok (world, [])
  | _ => Except.error Failure.impossible

/-- Control comes back to `Channel::HandleEvent`. -/
def Resume (world : World) : Call World Event :=
  match world.dispatch with
  | Dispatch.handling alive =>
      Except.ok ({ world with dispatch := Dispatch.idle },
        [Event.resumed alive])
  | _ => Except.error Failure.impossible

/-- `TimerQueue::HandleRead` takes the expired timers out of the queue. -/
def HandleRead (world : World) : Call World Event :=
  match world.batch with
  | some _ => Except.error Failure.impossible
  | none =>
      let now := clock world.queue.readings
      let expired := TimerQueue.GetExpired
        { world.queue with
          timerfd_ := TimerQueue.ReadTimerfd world.queue.timerfd_
          readings := world.queue.readings + 1 } now
      Except.ok ({ world with
        queue := expired.2
        batch := some { now := now, running := none, rest := expired.1 } }, [])

def RunTimer (world : World) : Call World Event :=
  match world.batch with
  | some ⟨now, none, timerIndex :: rest⟩ =>
      match world.queue.heap timerIndex.timer_ with
      | none => Except.error Failure.danglingPointer
      | some _ =>
          let world := { world with
            batch := some { now := now, running := some timerIndex
                            rest := rest } }
          if timerIndex.sequence_ ∈ world.retries then StartInLoop world
          else Except.ok (world, [])
  | _ => Except.error Failure.impossible

def RestartOrDelete (world : World) : Call World Event :=
  match world.batch with
  | some ⟨now, some timerIndex, rest⟩ =>
      OnQueue { world with
          batch := some { now := now, running := none, rest := rest } }
        (TimerQueue.RestartOrDelete clock world.queue now timerIndex)
  | _ => Except.error Failure.impossible

def Rearm (world : World) : Call World Event :=
  match world.batch with
  | some ⟨_, none, []⟩ =>
      OnQueue { world with batch := none }
        (Except.ok (TimerQueue.Rearm clock world.queue))
  | _ => Except.error Failure.impossible

def Perform (world : World) : Input -> Call World Event
  | Input.start =>
      When (world.control = Control.outside ∧ world.started = false)
        (StartInLoop { world with started := true })
  | Input.restart => When (world.control = Control.outside) (Restart world)
  | Input.stop => When (world.control = Control.outside) (Stop world)
  | Input.remoteStart =>
      When (world.started = false)
        (Except.ok ({ world with
          started := true
          functors := world.functors ++ [Functor.startInLoop] }, []))
  | Input.remoteStop =>
      Except.ok ({ world with
        connector := { world.connector with stop_ := true }
        stopping := world.stopping + 1 }, [])
  | Input.remoteRunInLoop =>
      When (0 < world.stopping)
        (Except.ok ({ world with
          functors := world.functors ++ [Functor.stopInLoop]
          stopping := world.stopping - 1 }, [Event.stopReturned]))
  | Input.runFunctor => RunFunctor world
  | Input.startInLoop =>
      When (world.control = Control.restart) (StartInLoop world)
  | Input.attempt savedErrno =>
      When (world.control = Control.startInLoop) (Attempt world savedErrno)
  | Input.newConnection =>
      When (world.control = Control.handleWrite) (NewConnection world)
  | Input.runAfter timer =>
      When (world.control = Control.retry) (RunAfter clock world timer)
  | Input.poll => Poll world
  | Input.handleEvent revents isError isSelfConnect =>
      When (world.control = Control.outside ∧ world.batch = none)
        (HandleEvent world revents isError isSelfConnect)
  | Input.resume => When (world.control = Control.outside) (Resume world)
  | Input.timers op => OnQueue world (TimerQueue.RunOp clock world.queue op)
  | Input.runTimerFunctor =>
      When (Draining world)
        (OnQueue world (TimerQueue.RunFunctor clock world.queue))
  | Input.timerExpires => OnQueue world (TimerQueue.TimerExpires world.queue)
  | Input.handleRead =>
      When (world.control = Control.outside ∧
          world.dispatch.Handling = false)
        (HandleRead clock world)
  | Input.runTimer => When (world.control = Control.outside) (RunTimer world)
  | Input.restartOrDelete =>
      When (world.control = Control.outside) (RestartOrDelete clock world)
  | Input.rearm => When (world.control = Control.outside) (Rearm clock world)

def ConnectorMachine : Machine World Input Event where
  Step world i := Answer (Perform clock world i)

end Clock
end Connector
end Net
end Wethands
