import Wethands.Net.TcpConnection.Model

/-!
# Who keeps a connection

A connection lives as long as somebody holds a `TcpConnectionPtr` to it: the
server or the client that made it, user code, the arguments of a running
callback, and the functors that were bound with one.  `SendInLoop` is the only
functor that is bound with a raw pointer.
-/

namespace Wethands
namespace Net

open Foundation Reactor

namespace Ownership

open TcpConnection (World Functor Frame Caller Callback CloseCallback States
  ReadResult WriteResult Api RemoteApi)

def Holds : Functor -> Bool
  | Functor.sendInLoop _ => false
  | _ => true

/-- The tests of `Channel::HandleEvent`, in their order. -/
inductive Branch where
  | read
  | write
  | error
  | close
deriving DecidableEq

def Branch.Mask : Branch -> BitVec 32
  | read => Channel.EPOLLIN ||| Channel.EPOLLPRI ||| Channel.EPOLLRDHUP
  | write => Channel.EPOLLOUT
  | error => Channel.EPOLLERR
  | close => Channel.EPOLLHUP

/--
The event of the channel among the active ones of the loop: it waits for the
channels before it, or `HandleEvent` is running and has the tests `left` to
make.
-/
inductive Dispatch where
  | idle
  | ahead (revents : BitVec 32)
  | handling (revents : BitVec 32) (left : List Branch)
deriving DecidableEq

/--
The vector of functors that the loop has taken: how many of them are still at
the head of the queue of the model, and those that have run.
-/
structure Drain where
  left : Nat
  ran : List Functor
deriving DecidableEq

inductive Event where
  | conn (event : TcpConnection.Event)
  | executed (functor : Functor)
  | resumed
  | destroyed
deriving DecidableEq

/--
`listed` tells whether the owner still has the connection, `users` are the
pointers that user code holds, with the thread that holds each, and `served`
counts the removals that have run in the vector of the loop of the server.
-/
structure Owned (ThreadId : Type) where
  world : World ThreadId
  listed : Bool
  users : List ThreadId
  dispatch : Dispatch
  drain : Option Drain
  served : Nat

variable {ThreadId : Type}

/--
A new connection.  An owner on the loop of the connection runs
`ConnectionEstablished` at once.
-/
def Init (ThreadId : Type) (closeCallback : CloseCallback) :
    Owned ThreadId where
  world := TcpConnection.Init ThreadId closeCallback
  listed := true
  users := []
  dispatch := Dispatch.idle
  drain :=
    match closeCallback with
    | CloseCallback.sameLoop => some { left := 1, ran := [] }
    | CloseCallback.otherLoop => none
  served := 0

/-- The functors of the vector that have run are still there. -/
def Ran (drain : Option Drain) : List Functor :=
  match drain with
  | none => []
  | some drain => drain.ran

def References (owned : Owned ThreadId) : Nat :=
  owned.listed.toNat + owned.users.length + owned.world.stack.length +
    owned.world.pendingFunctors_.countP Holds +
    (Ran owned.drain).countP Holds + owned.world.removals + owned.served

/-!
# Life and death
-/

def Alive (owned : Owned ThreadId) (call : Call (Owned ThreadId) Event) :
    Call (Owned ThreadId) Event :=
  if 0 < References owned then call
  else Except.error Failure.danglingPointer

def Destructible (owned : Owned ThreadId) : Prop :=
  owned.world.conn.state_ = States.kDisconnected ∧
    owned.world.conn.socketChannel_.registeredToPoller = false

instance (owned : Owned ThreadId) : Decidable (Destructible owned) :=
  inferInstanceAs (Decidable (_ ∧ _))

def Settle (before : Owned ThreadId) (call : Call (Owned ThreadId) Event) :
    Call (Owned ThreadId) Event :=
  match call with
  | Except.error failure => Except.error failure
  | Except.ok (after, es) =>
      if 0 < References before ∧ References after = 0 then
        Assert (Destructible after) (Except.ok (after, es ++ [Event.destroyed]))
      else Except.ok (after, es)

def Within (owned : Owned ThreadId)
    (call : Call (World ThreadId) TcpConnection.Event) :
    Call (Owned ThreadId) Event :=
  match call with
  | Except.error failure => Except.error failure
  | Except.ok (world, es) =>
      Except.ok ({ owned with
        world := world
        listed := owned.listed && !decide (
          TcpConnection.Event.called Callback.close ∈ es ∧
            owned.world.conn.closeCallback_ = CloseCallback.sameLoop) },
        es.map Event.conn)

/-- A step that can only be taken in some situation. -/
def When (p : Prop) [Decidable p] (call : Call (Owned ThreadId) Event) :
    Call (Owned ThreadId) Event :=
  if p then call else Except.error Failure.impossible

/-!
# The loop of the connection
-/

def Free (owned : Owned ThreadId) : Prop :=
  owned.world.stack = [] ∧ owned.dispatch = Dispatch.idle ∧
    owned.drain = none

instance (owned : Owned ThreadId) : Decidable (Free owned) :=
  inferInstanceAs (Decidable (_ ∧ _ ∧ _))

/-- What epoll may report for an interest. -/
def Reports (revents events : BitVec 32) : Prop :=
  revents &&& ~~~(events ||| Channel.EPOLLERR ||| Channel.EPOLLHUP) = 0

instance (revents events : BitVec 32) : Decidable (Reports revents events) :=
  inferInstanceAs (Decidable (_ = _))

/-- The channel is among those that `Poll` returns. -/
def Poll (owned : Owned ThreadId) (revents : BitVec 32) :
    Call (Owned ThreadId) Event :=
  When (Free owned ∧
      owned.world.conn.socketChannel_.registeredToPoller = true ∧
      Reports revents owned.world.conn.socketChannel_.events_)
    (Except.ok ({ owned with dispatch := Dispatch.ahead revents }, []))

def RunBranch (world : World ThreadId) (read : ReadResult)
    (write : WriteResult) : Branch ->
    Call (World ThreadId) TcpConnection.Event
  | Branch.read => TcpConnection.HandleRead world read
  | Branch.write => TcpConnection.HandleWrite world write
  | Branch.error => Except.ok (world, [])
  | Branch.close => TcpConnection.HandleClose world

/-- One test of `HandleEvent`, with the callback behind it. -/
def Test (owned : Owned ThreadId) (revents : BitVec 32) (branch : Branch)
    (left : List Branch) (read : ReadResult) (write : WriteResult) :
    Call (Owned ThreadId) Event :=
  let owned := { owned with dispatch := Dispatch.handling revents left }
  if revents &&& branch.Mask ≠ 0 then
    Within owned (RunBranch owned.world read write branch)
  else Except.ok (owned, [])

/-- The loop calls `HandleEvent`, which makes its first test. -/
def HandleEvent (owned : Owned ThreadId) (read : ReadResult)
    (write : WriteResult) : Call (Owned ThreadId) Event :=
  match owned.dispatch with
  | Dispatch.ahead revents =>
      Alive owned (Test owned revents Branch.read
        [Branch.write, Branch.error, Branch.close] read write)
  | _ => Except.error Failure.impossible

/-- Control is back in `HandleEvent`, which goes on or comes to its end. -/
def Resume (owned : Owned ThreadId) (read : ReadResult)
    (write : WriteResult) : Call (Owned ThreadId) Event :=
  match owned.dispatch with
  | Dispatch.handling revents left =>
      Alive owned (Then (Except.ok (owned, [Event.resumed])) (fun owned =>
        match left with
        | [] => Except.ok ({ owned with dispatch := Dispatch.idle }, [])
        | branch :: left => Test owned revents branch left read write))
  | _ => Except.error Failure.impossible

def Swap (owned : Owned ThreadId) : Call (Owned ThreadId) Event :=
  When (Free owned)
    (Except.ok ({ owned with drain := some {
      left := owned.world.pendingFunctors_.length, ran := [] } }, []))

def RunFunctor (owned : Owned ThreadId) (result : WriteResult) :
    Call (Owned ThreadId) Event :=
  match owned.drain, owned.world.pendingFunctors_ with
  | some ⟨left + 1, ran⟩, functor :: _ =>
      Alive owned
        (Then (Except.ok ({ owned with
            drain := some { left := left, ran := functor :: ran } },
            [Event.executed functor])) (fun owned =>
          Within owned (TcpConnection.RunFunctor owned.world result)))
  | _, _ => Except.error Failure.impossible

def Drained (owned : Owned ThreadId) : Call (Owned ThreadId) Event :=
  match owned.drain with
  | some ⟨0, _⟩ => Except.ok ({ owned with drain := none }, [])
  | _ => Except.error Failure.impossible

/--
A callback returns, and with it goes its argument.  `HandleWrite` goes on to
read the state.
-/
def Return (owned : Owned ThreadId) : Call (Owned ThreadId) Event :=
  match owned.world.stack with
  | [] => Except.error Failure.impossible
  | frame :: rest =>
      let left := { owned with world := { owned.world with stack := rest } }
      if frame = Frame.writeCompleteOfHandleWrite ∧ References left = 0 then
        Assert (Destructible left) (Except.error Failure.danglingPointer)
      else Within owned (TcpConnection.Return owned.world)

/-!
# The other loop of the server
-/

def RemoveConnectionInLoop (owned : Owned ThreadId) :
    Call (Owned ThreadId) Event :=
  Then (Within owned (TcpConnection.RemoveConnectionInLoop owned.world))
    (fun owned => Except.ok ({ owned with
      listed := false
      served := owned.served + 1 }, []))

def ServerDrained (owned : Owned ThreadId) : Call (Owned ThreadId) Event :=
  When (0 < owned.served) (Except.ok ({ owned with served := 0 }, []))

/-!
# Runs
-/

def Reachable (owned : Owned ThreadId) : Prop :=
  owned.users ≠ [] ∨ owned.world.stack ≠ []

instance (owned : Owned ThreadId) : Decidable (Reachable owned) :=
  inferInstanceAs (Decidable (¬_ ∨ ¬_))

inductive Input (ThreadId : Type) where
  | api (api : Api)
  | returns
  | keep (tid : ThreadId)
  | drop (tid : ThreadId)
  | poll (revents : BitVec 32)
  | handleEvent (read : ReadResult) (write : WriteResult)
  | resume (read : ReadResult) (write : WriteResult)
  | swap
  | runFunctor (result : WriteResult)
  | drained
  | removeConnectionInLoop
  | serverDrained
  | remoteCall (tid : ThreadId) (api : RemoteApi)
  | remoteNext (tid : ThreadId)

section Threads

variable [DecidableEq ThreadId]

/-- A thread keeps its pointer while it is in a call. -/
def Act (owned : Owned ThreadId) :
    Input ThreadId -> Call (Owned ThreadId) Event
  | Input.api api =>
      When (Reachable owned)
        (Within owned (TcpConnection.CallApi owned.world api))
  | Input.returns => Return owned
  | Input.keep tid =>
      When (Reachable owned)
        (Except.ok ({ owned with users := tid :: owned.users }, []))
  | Input.drop tid =>
      When (tid ∈ owned.users ∧ owned.world.callers tid = Caller.outside)
        (Except.ok ({ owned with users := owned.users.erase tid }, []))
  | Input.poll revents => Poll owned revents
  | Input.handleEvent read write =>
      When (owned.world.stack = []) (HandleEvent owned read write)
  | Input.resume read write =>
      When (owned.world.stack = []) (Resume owned read write)
  | Input.swap => Swap owned
  | Input.runFunctor result =>
      When (owned.world.stack = []) (RunFunctor owned result)
  | Input.drained => When (owned.world.stack = []) (Drained owned)
  | Input.removeConnectionInLoop => RemoveConnectionInLoop owned
  | Input.serverDrained => ServerDrained owned
  | Input.remoteCall tid api =>
      When (tid ∈ owned.users ∧ owned.world.callers tid = Caller.outside)
        (Within owned (TcpConnection.RemoteCall owned.world tid api))
  | Input.remoteNext tid =>
      Within owned (TcpConnection.RemoteNext owned.world tid)

def Perform (owned : Owned ThreadId) (i : Input ThreadId) :
    Call (Owned ThreadId) Event :=
  Settle owned (Act owned i)

def OwnedMachine (ThreadId : Type) [DecidableEq ThreadId] :
    Machine (Owned ThreadId) (Input ThreadId) Event where
  Step owned i := Answer (Perform owned i)

end Threads
end Ownership
end Net
end Wethands
