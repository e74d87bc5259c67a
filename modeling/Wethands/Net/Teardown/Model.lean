import Wethands.Net.Ownership.Model

/-!
# A server with its connections

`TcpServer` keeps the connections that it has made, on its own loop or on those
of its thread pool.  Its destructor sees to `ConnectionDestroyed` for those that
are still listed, lets go of them, and then the loops of the pool quit.  Parts
on different threads move in any order; what two connections of one loop do is
not kept apart either.
-/

namespace Wethands
namespace Net

open Foundation Reactor

namespace Teardown

open TcpConnection (World Functor Frame Caller Callback CloseCallback States
  WriteResult Api)
open Ownership (Owned Act References Destructible Free Within)

/--
A connection as the server sees it.  `loop_` is its loop in the thread pool, if
it is on one, `visited` tells whether the destructor has come to it, and `ended`
whether its loop is gone.
-/
structure Member (ThreadId : Type) where
  owned : Owned ThreadId
  loop_ : Option Nat
  visited : Bool
  ended : Bool

/-- `aborted` is the end of a process in which an assertion has failed. -/
inductive Phase where
  | serving
  | destroying
  | destroyed
  | aborted
deriving DecidableEq

structure Server (ThreadId : Type) where
  phase : Phase
  conns : List (Member ThreadId)

/--
A call of `ConnectionDestroyed` with the state that it finds, and the end of a
connection with what it leaves.
-/
inductive Event where
  | connection (conn : Nat) (event : Ownership.Event)
  | connectionDestroyed (conn : Nat) (state_ : States)
  | destroyed (conn : Nat) (state_ : States) (registeredToPoller : Bool)
deriving DecidableEq

inductive Input (ThreadId : Type) where
  | newConnection (loop_ : Option Nat)
  | connection (conn : Nat) (input : Ownership.Input ThreadId)
  | destroy
  | visit (conn : Nat)
  | release (conn : Nat)
  | leave
  | loopEnds (loop_ : Nat)
  | discard (conn : Nat)

variable {ThreadId : Type}

abbrev Result (ThreadId : Type) := Option (Server ThreadId × List Event)

def Init (ThreadId : Type) : Server ThreadId where
  phase := Phase.serving
  conns := []

def NewMember (ThreadId : Type) (loop_ : Option Nat) : Member ThreadId where
  owned := Ownership.Init ThreadId
    (match loop_ with
    | none => CloseCallback.sameLoop
    | some _ => CloseCallback.otherLoop)
  loop_ := loop_
  visited := false
  ended := false

def DestroyedEvent (conn : Nat) (owned : Owned ThreadId) : Event :=
  Event.destroyed conn owned.world.conn.state_
    owned.world.conn.socketChannel_.registeredToPoller

/--
A connection has made a step.  With the last pointer to it goes the connection,
and its destructor and that of its channel make their assertions.
-/
def Settle (server : Server ThreadId) (conn : Nat)
    (before after : Member ThreadId) (es : List Event) :
    Server ThreadId × List Event :=
  let conns := server.conns.set conn after
  if 0 < References before.owned ∧ References after.owned = 0 then
    ({ conns := conns
       phase :=
        if Destructible after.owned then server.phase else Phase.aborted },
      es ++ [DestroyedEvent conn after.owned])
  else ({ server with conns := conns }, es)

/-!
# Steps of a connection
-/

def OnLoop : Ownership.Input ThreadId -> Bool
  | Ownership.Input.api _ => true
  | Ownership.Input.returns => true
  | Ownership.Input.poll _ => true
  | Ownership.Input.handleEvent _ _ => true
  | Ownership.Input.resume _ _ => true
  | Ownership.Input.swap => true
  | Ownership.Input.runFunctor _ => true
  | Ownership.Input.drained => true
  | _ => false

def TellsServer (es : List Ownership.Event) : Prop :=
  Ownership.Event.conn (TcpConnection.Event.called Callback.close) ∈ es

instance (es : List Ownership.Event) : Decidable (TellsServer es) :=
  inferInstanceAs (Decidable (_ ∈ es))

/-- A functor is queued in a loop that is gone. -/
def QueuesTooLate (member : Member ThreadId) (next : Owned ThreadId) : Prop :=
  member.ended = true ∧ member.owned.world.pendingFunctors_.length <
    next.world.pendingFunctors_.length

instance (member : Member ThreadId) (next : Owned ThreadId) :
    Decidable (QueuesTooLate member next) :=
  inferInstanceAs (Decidable (_ ∧ _))

/--
What the functors of the server find: its loop is busy with the destructor, or
`this` is gone.
-/
def InServer (phase : Phase) (call : Call (Owned ThreadId) Ownership.Event) :
    Call (Owned ThreadId) Ownership.Event :=
  match phase with
  | Phase.serving => call
  | Phase.destroyed => Except.error Failure.danglingPointer
  | _ => Except.error Failure.impossible

section Threads

variable [DecidableEq ThreadId]

def ActMember (phase : Phase) (member : Member ThreadId)
    (i : Ownership.Input ThreadId) :
    Call (Owned ThreadId) Ownership.Event :=
  if member.ended = true ∧ OnLoop i = true then
    Except.error Failure.impossible
  else
    match i with
    | Ownership.Input.removeConnectionInLoop =>
        InServer phase (Act member.owned i)
    | _ => Act member.owned i

/-- Pointers to a server or a loop that is gone are not to be followed. -/
def FollowMember (phase : Phase) (member : Member ThreadId)
    (i : Ownership.Input ThreadId) :
    Call (Owned ThreadId) Ownership.Event :=
  match ActMember phase member i with
  | Except.error failure => Except.error failure
  | Except.ok (next, es) =>
      if phase = Phase.destroyed ∧ TellsServer es ∨
          QueuesTooLate member next then
        Except.error Failure.danglingPointer
      else Except.ok (next, es)

end Threads

/-- The functor that runs is `ConnectionDestroyed`. -/
def Executes (owned : Owned ThreadId) : Ownership.Input ThreadId -> Bool
  | Ownership.Input.runFunctor _ =>
      owned.world.pendingFunctors_.head? = some Functor.connectionDestroyed
  | _ => false

def CalledEvent (conn : Nat) (owned : Owned ThreadId) : Event :=
  Event.connectionDestroyed conn owned.world.conn.state_

/--
The calls of `ConnectionDestroyed` in a step: the functor itself, and the call
that an owner on the same loop makes when it is told of the close.  The latter
finds the state that it leaves.
-/
def Calls (conn : Nat) (owned next : Owned ThreadId)
    (i : Ownership.Input ThreadId) (es : List Ownership.Event) :
    List Event :=
  (if Executes owned i = true then [CalledEvent conn owned] else []) ++
    (if TellsServer es ∧
        owned.world.conn.closeCallback_ = CloseCallback.sameLoop then
      [CalledEvent conn next] else [])

/-- What was called when an assertion of a step fails, if it is of interest. -/
def Fails (conn : Nat) (owned : Owned ThreadId)
    (i : Ownership.Input ThreadId) : List Event :=
  match i with
  | Ownership.Input.returns => [DestroyedEvent conn owned]
  | _ => if Executes owned i = true then [CalledEvent conn owned] else []

section Threads

variable [DecidableEq ThreadId]

def StepConnection (server : Server ThreadId) (conn : Nat)
    (i : Ownership.Input ThreadId) : Result ThreadId :=
  match server.conns[conn]? with
  | none => none
  | some member =>
      match FollowMember server.phase member i with
      | Except.ok (next, es) =>
          some (Settle server conn member { member with owned := next }
            (es.map (Event.connection conn) ++
              Calls conn member.owned next i es))
      | Except.error Failure.assertion =>
          match Fails conn member.owned i with
          | [] => none
          | es => some ({ server with phase := Phase.aborted }, es)
      | Except.error _ => none

end Threads

/-!
# The server
-/

def NewConnection (server : Server ThreadId) (loop_ : Option Nat) :
    Result ThreadId :=
  if server.phase = Phase.serving then
    some ({ server with
      conns := server.conns ++ [NewMember ThreadId loop_] }, [])
  else none

def Destroy (server : Server ThreadId) : Result ThreadId :=
  if server.phase = Phase.serving then
    some ({ server with phase := Phase.destroying }, [])
  else none

/-- `RunInLoop` of `ConnectionDestroyed`. -/
def RunInLoop (member : Member ThreadId) :
    Call (Owned ThreadId) Ownership.Event :=
  match member.loop_ with
  | none =>
      Within member.owned
        (TcpConnection.ConnectionDestroyed member.owned.world)
  | some _ =>
      Except.ok ({ member.owned with
        world := TcpConnection.QueueInLoop member.owned.world
          Functor.connectionDestroyed }, [])

def Visit (server : Server ThreadId) (conn : Nat) : Result ThreadId :=
  match server.conns[conn]? with
  | none => none
  | some member =>
      if server.phase = Phase.destroying ∧ member.owned.listed = true ∧
          member.visited = false then
        let called :=
          if member.loop_ = none then [CalledEvent conn member.owned] else []
        match RunInLoop member with
        | Except.ok (next, es) =>
            some (Settle server conn member
              { member with owned := next, visited := true }
              (called ++ es.map (Event.connection conn)))
        | Except.error _ =>
            some ({ server with phase := Phase.aborted }, called)
      else none

/-- The loop is over, and an element of `connections_` goes. -/
def Release (server : Server ThreadId) (conn : Nat) : Result ThreadId :=
  match server.conns[conn]? with
  | none => none
  | some member =>
      if server.phase = Phase.destroying ∧ member.owned.listed = true ∧
          forall other, other ∈ server.conns ->
            other.owned.listed = true -> other.visited = true then
        some (Settle server conn member
          { member with owned := { member.owned with listed := false } } [])
      else none

/-- All of `connections_` is gone. -/
def Cleared (server : Server ThreadId) : Prop :=
  forall member, member ∈ server.conns -> member.owned.listed = false

instance (server : Server ThreadId) : Decidable (Cleared server) :=
  inferInstanceAs (Decidable (forall member, member ∈ server.conns -> _))

def Leave (server : Server ThreadId) : Result ThreadId :=
  if server.phase = Phase.destroying ∧ Cleared server then
    some ({ server with phase := Phase.destroyed }, [])
  else none

/--
A loop of the thread pool has been told to quit and comes to its test of
`quit_`.  User code may keep the thread pool for longer than the server.
-/
def LoopEnds (server : Server ThreadId) (loop_ : Nat) : Result ThreadId :=
  if server.phase ≠ Phase.serving ∧ Cleared server ∧
      forall member, member ∈ server.conns ->
        member.loop_ = some loop_ -> Free member.owned then
    some ({ server with
      conns := server.conns.map (fun member =>
        if member.loop_ = some loop_ then { member with ended := true }
        else member) }, [])
  else none

/-- The functors that a loop has left behind go with it. -/
def Discard (server : Server ThreadId) (conn : Nat) : Result ThreadId :=
  match server.conns[conn]? with
  | none => none
  | some member =>
      if member.ended = true then
        some (Settle server conn member { member with
          owned := { member.owned with
            world := { member.owned.world with pendingFunctors_ := [] } } } [])
      else none

section Threads

variable [DecidableEq ThreadId]

def Perform (server : Server ThreadId) : Input ThreadId -> Result ThreadId
  | Input.newConnection loop_ => NewConnection server loop_
  | Input.connection conn input => StepConnection server conn input
  | Input.destroy => Destroy server
  | Input.visit conn => Visit server conn
  | Input.release conn => Release server conn
  | Input.leave => Leave server
  | Input.loopEnds loop_ => LoopEnds server loop_
  | Input.discard conn => Discard server conn

def TeardownMachine (ThreadId : Type) [DecidableEq ThreadId] :
    Machine (Server ThreadId) (Input ThreadId) Event where
  Step server i :=
    if server.phase = Phase.aborted then none else Perform server i

end Threads
end Teardown
end Net
end Wethands
