import Wethands.Net.TcpClient
import Wethands.Net.Teardown.Model

/-!
# A client with its connections

The client gives `this` as a plain pointer to `newConnectionCallback_` of its
connector and to `closeCallback_` of each connection.  Its destructor has an
empty body: `connection_` goes first, and then the connector, whose destructor
calls `Stop`.  User code may keep a connection for longer than the client.
-/

namespace Wethands
namespace Net

open Foundation Utils Reactor

namespace TcpClient

open TcpConnection (Callback CloseCallback States WriteResult)
open Ownership (Owned Act References Destructible Within)

namespace Owner

/-- `aborted` is the end of a process that has gone wrong. -/
inductive Phase where
  | living
  | destroyed
  | aborted
deriving DecidableEq

/--
A call of `Disconnect` with what it finds in `connection_`, a callback that is
bound to the client and is called or goes on, with whether there still is a
client, and the end of a connection with what it leaves.
-/
inductive Event where
  | client (event : TcpClient.Event)
  | connection (conn : Nat) (event : Ownership.Event)
  | disconnect (conn : Option Nat)
  | callback (alive : Bool)
  | destroyed (conn : Nat) (state_ : States) (registeredToPoller : Bool)
deriving DecidableEq

inductive Input (ThreadId : Type) where
  | connect
  | disconnect
  | stop
  | setAutoRetry (on : Bool)
  | getConnection (tid : ThreadId)
  | newConnection
  | testRetry
  | destroy
  | connector (i : Connector.Input)
  | connection (conn : Nat) (i : Ownership.Input ThreadId)

end Owner

/-- A pointer to a connection is its place in `conns`. -/
structure Owner (ThreadId : Type) where
  client : TcpClient
  phase : Owner.Phase
  conns : List (Owned ThreadId)

namespace Owner

variable {ThreadId : Type}

abbrev Result (ThreadId : Type) := Option (Owner ThreadId × List Event)

def Init (ThreadId : Type) : Owner ThreadId where
  client := TcpClient.Init
  phase := Phase.living
  conns := []

def DestroyedEvent (conn : Nat) (owned : Owned ThreadId) : Event :=
  Event.destroyed conn owned.world.conn.state_
    owned.world.conn.socketChannel_.registeredToPoller

/--
A connection has made a step.  With the last pointer to it goes the connection,
and its destructor and that of its channel make their assertions.
-/
def Settle (owner : Owner ThreadId) (conn : Nat)
    (before after : Owned ThreadId) (es : List Event) :
    Owner ThreadId × List Event :=
  let conns := owner.conns.set conn after
  if 0 < References before ∧ References after = 0 then
    ({ owner with
        conns := conns
        phase := if Destructible after then owner.phase else Phase.aborted },
      es ++ [DestroyedEvent conn after])
  else ({ owner with conns := conns }, es)

/-- The pointer in `connection_` goes; the caller sets what comes then. -/
def Release (owner : Owner ThreadId) : Owner ThreadId × List Event :=
  match owner.client.connection_ with
  | none => (owner, [])
  | some conn =>
      match owner.conns[conn]? with
      | none => (owner, [])
      | some owned =>
          Settle owner conn owned { owned with listed := false } []

def Next (first : Owner ThreadId × List Event)
    (second : Owner ThreadId -> Result ThreadId) : Result ThreadId :=
  if first.1.phase = Phase.aborted then some first
  else
    match second first.1 with
    | none => none
    | some (last, es) => some (last, first.2 ++ es)

/-- A member function of the client. -/
def OnClient (owner : Owner ThreadId) (call : Call TcpClient TcpClient.Event) :
    Result ThreadId :=
  match call with
  | Except.error _ => none
  | Except.ok (client, es) =>
      some ({ owner with client := client }, es.map Event.client)

/-- A callback that is bound to the client follows the pointer to it. -/
def OfClient (owner : Owner ThreadId)
    (step : Owner ThreadId -> Result ThreadId) : Result ThreadId :=
  if owner.phase = Phase.living then
    Next (owner, [Event.callback true]) step
  else some ({ owner with phase := Phase.aborted }, [Event.callback false])

/-!
# Member functions
-/

def Callable (owner : Owner ThreadId) : Prop :=
  owner.phase = Phase.living ∧
    owner.client.world.control = Connector.Control.outside

instance (owner : Owner ThreadId) : Decidable (Callable owner) :=
  inferInstanceAs (Decidable (_ ∧ _))

def When (p : Prop) [Decidable p] (step : Result ThreadId) : Result ThreadId :=
  if p then step else none

def Disconnect (owner : Owner ThreadId) : Result ThreadId :=
  match owner.client.connection_ with
  | none =>
      some ({ owner with phase := Phase.aborted }, [Event.disconnect none])
  | some conn =>
      match owner.conns[conn]? with
      | none => none
      | some owned =>
          match Within owned (TcpConnection.Shutdown owned.world) with
          | Except.error _ => none
          | Except.ok (next, es) =>
              some (Settle owner conn owned next
                (Event.disconnect (some conn) ::
                  es.map (Event.connection conn)))

/-- `Connection`, whose answer a thread keeps. -/
def Connection (owner : Owner ThreadId) (tid : ThreadId) : Result ThreadId :=
  match owner.client.connection_ with
  | none => some (owner, [])
  | some conn =>
      match owner.conns[conn]? with
      | none => none
      | some owned =>
          some ({ owner with
            conns := owner.conns.set conn
              { owned with users := tid :: owned.users } }, [])

/-- The connection that `NewConnection` makes, within its callback. -/
def Established (ThreadId : Type) : Call (Owned ThreadId) Ownership.Event :=
  Ownership.RunFunctor (Ownership.Init ThreadId CloseCallback.sameLoop)
    (WriteResult.wrote 0)

/-- Storing to `connection_` lets go of what was there. -/
def NewConnection (owner : Owner ThreadId) : Result ThreadId :=
  match Established ThreadId with
  | Except.error _ => none
  | Except.ok (owned, es) =>
      Next (Release owner) (fun owner =>
        match OnClient owner owner.client.NewConnection with
        | none => none
        | some (next, told) =>
            some ({ next with conns := next.conns ++ [owned] },
              told ++ es.map (Event.connection owner.client.count_)))

/--
The connection `conn` has called `closeCallback_`, and the owner that it tells
has let go of it.  If `connection_` is another one, that one goes.
-/
def HandleClose (owner : Owner ThreadId) (conn : Nat)
    (before after : Owned ThreadId) (es : List Event) : Result ThreadId :=
  let released :=
    if owner.client.connection_ = some conn then (owner, [])
    else Release owner
  Next released (fun owner =>
    Next (Settle owner conn before after es) (fun owner =>
      OnClient owner (owner.client.HandleClose conn)))

/-- The destructor; that of the connector calls `Stop`. -/
def Destroy (owner : Owner ThreadId) : Result ThreadId :=
  Next (Release owner) (fun owner =>
    OnClient { owner with phase := Phase.destroyed }
      (OnConnector { owner.client with connection_ := none }
        (Connector.Stop owner.client.world)))

/-!
# Steps
-/

/-- Only a server has a loop that is not that of the connection. -/
def OfServer : Ownership.Input ThreadId -> Bool
  | Ownership.Input.removeConnectionInLoop => true
  | Ownership.Input.serverDrained => true
  | _ => false

section Threads

variable [DecidableEq ThreadId]

def StepConnection (owner : Owner ThreadId) (conn : Nat)
    (i : Ownership.Input ThreadId) : Result ThreadId :=
  match owner.conns[conn]? with
  | none => none
  | some owned =>
      match Act owned i with
      | Except.ok (next, es) =>
          if Teardown.TellsServer es then
            OfClient owner (fun owner => HandleClose owner conn owned next
              (es.map (Event.connection conn)))
          else
            some (Settle owner conn owned next (es.map (Event.connection conn)))
      | Except.error Failure.assertion =>
          match i with
          | Ownership.Input.returns =>
              some ({ owner with phase := Phase.aborted },
                [DestroyedEvent conn owned])
          | _ => none
      | Except.error _ => none

variable (clock : Nat -> Timestamp)

/--
The loop thread is not in the code of the connector while it runs that of a
connection.  A retry that comes up behind the destructor finds no connector,
and in the model it finds `stop_`.
-/
def Perform (owner : Owner ThreadId) : Input ThreadId -> Result ThreadId
  | Input.connect =>
      When (Callable owner ∧ owner.client.world.started = false)
        (OnClient owner owner.client.Connect)
  | Input.disconnect => When (Callable owner) owner.Disconnect
  | Input.stop => When (Callable owner) (OnClient owner owner.client.Stop)
  | Input.setAutoRetry on =>
      When (owner.phase = Phase.living)
        (some ({ owner with client := { owner.client with retry_ := on } }, []))
  | Input.getConnection tid => When (Callable owner) (owner.Connection tid)
  | Input.newConnection =>
      When (owner.client.world.control = Connector.Control.handleWrite)
        (OfClient owner NewConnection)
  | Input.testRetry =>
      When (owner.client.world.control = Connector.Control.outside ∧
          0 < owner.client.closing)
        (OfClient owner (fun owner => OnClient owner owner.client.TestRetry))
  | Input.destroy => When (Callable owner) owner.Destroy
  | Input.connector i =>
      OnClient owner
        (TcpClient.Perform clock owner.client (TcpClient.Input.connector i))
  | Input.connection conn i =>
      When (OfServer i = false ∧ (Teardown.OnLoop i = true ->
          owner.client.world.control = Connector.Control.outside))
        (StepConnection owner conn i)

def OwnerMachine : Machine (Owner ThreadId) (Input ThreadId) Event where
  Step owner i :=
    if owner.phase = Phase.aborted then none else Perform clock owner i

end Threads
end Owner
end TcpClient
end Net
end Wethands
