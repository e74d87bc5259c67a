import Wethands.Net.Connector.Dispatch
import Wethands.Net.Ownership.Notice

/-!
# The active channels of a loop

A loop with its connections, its connectors and its other channels.  `Poll`
returns any of those that are registered; then `Loop` handles one after the
other.  Between and within these calls the parts move in any order, which allows
more runs than a single thread has.
-/

namespace Wethands
namespace Net

open Foundation Utils Reactor

namespace ActiveChannels

open Ownership (Owned)
open TcpConnection (Callback CloseCallback States ReadResult WriteResult)

/--
Whose channel it is; `other` are those for wakeups, timers and accepting, and
those that the user has made.
-/
inductive Source (ι κ : Type) where
  | connection (i : ι)
  | connector (k : κ)
  | other (fd : Nat)
deriving DecidableEq

inductive Event (ι κ : Type) where
  | connection (i : ι) (event : Ownership.Event)
  | connector (k : κ) (event : Connector.Event)
  | handleEvent (source : Source ι κ)
deriving DecidableEq

/--
`registered` are the other channels that are registered, and `abandoned` the
connections whose owner is gone.  `activeChannels_` are the channels that are
still to be handled, `current` is the one whose `HandleEvent` is running,
`removed` are those that have been taken from the poller or destroyed since
`Poll`, and `told` the connections that have told their user of their end.
-/
structure Loop (ThreadId ι κ : Type) where
  connections : ι -> Owned ThreadId
  connectors : κ -> Connector.World
  registered : List Nat
  abandoned : List ι
  activeChannels_ : List (Source ι κ)
  current : Option (Source ι κ)
  removed : List (Source ι κ)
  told : List ι

variable {ThreadId ι κ : Type}

def Init (ThreadId : Type) (closeCallback : ι -> CloseCallback)
    (newConnectionCallback : κ -> Bool) : Loop ThreadId ι κ where
  connections := fun i => Ownership.Init ThreadId (closeCallback i)
  connectors := fun k => Connector.Init (newConnectionCallback k)
  registered := []
  abandoned := []
  activeChannels_ := []
  current := none
  removed := []
  told := []

/-- The channel of the connection has been taken away, or destroyed. -/
def Gone (before after : Owned ThreadId) : Prop :=
  (Ownership.Registered before ∧ ¬Ownership.Registered after) ∨
    (0 < Ownership.References before ∧ Ownership.References after = 0)

instance (owned : Owned ThreadId) : Decidable (Ownership.Registered owned) :=
  inferInstanceAs (Decidable (_ = _))

instance (before after : Owned ThreadId) : Decidable (Gone before after) :=
  inferInstanceAs (Decidable ((_ ∧ _) ∨ (_ ∧ _)))

instance (es : List Ownership.Event) : Decidable (Ownership.Told es) :=
  inferInstanceAs (Decidable (_ ∈ _))

/-- The code of the owner runs: it is told of the close, or removes. -/
def ReachesOwner (owned next : Owned ThreadId)
    (es : List Ownership.Event) : Prop :=
  Ownership.Event.conn (TcpConnection.Event.called Callback.close) ∈ es ∨
    owned.served < next.served

instance (owned next : Owned ThreadId) (es : List Ownership.Event) :
    Decidable (ReachesOwner owned next es) :=
  inferInstanceAs (Decidable (_ ∈ es ∨ _))

/-- The channel of the connector has been taken away, or destroyed. -/
def Lost (before after : Connector.World) : Prop :=
  (before.connector.Registered = true ∧ after.connector.Registered = false) ∨
    (before.dispatch = Connector.Dispatch.ahead true ∧
      after.dispatch = Connector.Dispatch.ahead false)

instance (before after : Connector.World) : Decidable (Lost before after) :=
  inferInstanceAs (Decidable ((_ ∧ _) ∨ (_ ∧ _)))

/-!
# Steps
-/

section Sources

variable [DecidableEq ThreadId] [DecidableEq ι] [DecidableEq κ]

def Moved (loop : Loop ThreadId ι κ) (i : ι) (next : Owned ThreadId)
    (es : List Ownership.Event) : Loop ThreadId ι κ :=
  { loop with
    connections := Function.update loop.connections i next
    removed :=
      if Gone (loop.connections i) next then
        Source.connection i :: loop.removed
      else loop.removed
    told := if Ownership.Told es then i :: loop.told else loop.told }

/-- An owner that is gone must not be called any more. -/
def Move (loop : Loop ThreadId ι κ) (i : ι)
    (call : Call (Owned ThreadId) Ownership.Event) :
    Call (Loop ThreadId ι κ) (Event ι κ) :=
  match call with
  | Except.error failure => Except.error failure
  | Except.ok (next, es) =>
      if i ∈ loop.abandoned ∧ ReachesOwner (loop.connections i) next es then
        Except.error Failure.danglingPointer
      else
        Except.ok (Moved loop i next es, es.map (Event.connection i))

def OnConnection (loop : Loop ThreadId ι κ) (i : ι)
    (input : Ownership.Input ThreadId) :
    Call (Loop ThreadId ι κ) (Event ι κ) :=
  Move loop i (Ownership.Perform (loop.connections i) input)

/--
The destructor of the owner lets go of a connection.  A server on another loop
queues `ConnectionDestroyed` first; a server on this loop calls it, and its
assertion fails for a connection that is not closed.
-/
def Release (owned : Owned ThreadId) : Call (Owned ThreadId) Ownership.Event :=
  let left := { owned with listed := false }
  match owned.world.conn.closeCallback_ with
  | CloseCallback.sameLoop => Except.ok (left, [])
  | CloseCallback.otherLoop =>
      Except.ok ({ left with
        world := TcpConnection.QueueInLoop owned.world
          TcpConnection.Functor.connectionDestroyed }, [])

def DestroyOwner (loop : Loop ThreadId ι κ) (i : ι) :
    Call (Loop ThreadId ι κ) (Event ι κ) :=
  if (loop.connections i).listed = true then
    Then (Move loop i (Ownership.Settle (loop.connections i)
        (Release (loop.connections i))))
      (fun loop => Except.ok ({ loop with
        abandoned := i :: loop.abandoned }, []))
  else Except.error Failure.impossible

variable (clock : Nat -> Timestamp)

def OnConnector (loop : Loop ThreadId ι κ) (k : κ)
    (input : Connector.Input) : Call (Loop ThreadId ι κ) (Event ι κ) :=
  match Connector.Perform clock (loop.connectors k) input with
  | Except.error failure => Except.error failure
  | Except.ok (next, es) =>
      Except.ok ({ loop with
        connectors := Function.update loop.connectors k next
        removed :=
          if Lost (loop.connectors k) next then
            Source.connector k :: loop.removed
          else loop.removed }, es.map (Event.connector k))

def UpdateRevents (loop : Loop ThreadId ι κ) (revents : BitVec 32) :
    Source ι κ -> Call (Loop ThreadId ι κ) (Event ι κ)
  | Source.connection i =>
      OnConnection loop i (Ownership.Input.poll revents)
  | Source.connector k => OnConnector clock loop k Connector.Input.poll
  | Source.other fd =>
      if fd ∈ loop.registered then Except.ok (loop, [])
      else Except.error Failure.impossible

/-- `Poll` appends what it reports; epoll reports a channel once. -/
def Poll (loop : Loop ThreadId ι κ) : List (Source ι κ × BitVec 32) ->
    Call (Loop ThreadId ι κ) (Event ι κ)
  | [] => Except.ok (loop, [])
  | (source, revents) :: rest =>
      if source ∈ loop.activeChannels_ then Except.error Failure.impossible
      else
        Then (UpdateRevents clock { loop with
          activeChannels_ := loop.activeChannels_ ++ [source] } revents
          source) (fun loop => Poll loop rest)

def RegisterToPoller (loop : Loop ThreadId ι κ) (fd : Nat) :
    Call (Loop ThreadId ι κ) (Event ι κ) :=
  if fd ∈ loop.registered then Except.ok (loop, [])
  else Except.ok ({ loop with registered := fd :: loop.registered }, [])

/--
Another channel goes: a listening one with its server, one of the user at any
time.
-/
def RemoveFromPoller (loop : Loop ThreadId ι κ) (fd : Nat) :
    Call (Loop ThreadId ι κ) (Event ι κ) :=
  if fd ∈ loop.registered then
    Except.ok ({ loop with
      registered := loop.registered.filter (fun other => other ≠ fd)
      removed := Source.other fd :: loop.removed }, [])
  else Except.error Failure.sysFatal

inductive Input (ThreadId ι κ : Type) where
  | poll (ready : List (Source ι κ × BitVec 32))
  | handleEvent (read : ReadResult) (write : WriteResult)
      (revents : BitVec 32) (isError : Nat) (isSelfConnect : Bool)
  | resume (read : ReadResult) (write : WriteResult)
  | connection (i : ι) (input : Ownership.Input ThreadId)
  | connector (k : κ) (input : Connector.Input)
  | destroyOwner (i : ι)
  | registerToPoller (fd : Nat)
  | removeFromPoller (fd : Nat)

/-- What only the loop does to a connection. -/
def OfLoop : Ownership.Input ThreadId -> Bool
  | Ownership.Input.poll _ => true
  | Ownership.Input.handleEvent _ _ => true
  | Ownership.Input.resume _ _ => true
  | _ => false

def OfLoopConnector : Connector.Input -> Bool
  | Connector.Input.poll => true
  | Connector.Input.handleEvent _ _ _ => true
  | Connector.Input.resume => true
  | _ => false

/-- The loop calls `HandleEvent` of the next channel. -/
def HandleEvent (loop : Loop ThreadId ι κ) (read : ReadResult)
    (write : WriteResult) (revents : BitVec 32) (isError : Nat)
    (isSelfConnect : Bool) : Call (Loop ThreadId ι κ) (Event ι κ) :=
  match loop.activeChannels_, loop.current with
  | source :: rest, none =>
      Then (Except.ok ({ loop with
          activeChannels_ := rest
          current := some source }, [Event.handleEvent source]))
        (fun loop =>
          match source with
          | Source.connection i =>
              OnConnection loop i (Ownership.Input.handleEvent read write)
          | Source.connector k =>
              OnConnector clock loop k
                (Connector.Input.handleEvent revents isError isSelfConnect)
          | Source.other _ => Except.ok (loop, []))
  | _, _ => Except.error Failure.impossible

/-- Control comes back to the `HandleEvent` that is running. -/
def Resume (loop : Loop ThreadId ι κ) (read : ReadResult)
    (write : WriteResult) : Call (Loop ThreadId ι κ) (Event ι κ) :=
  match loop.current with
  | none => Except.error Failure.impossible
  | some (Source.connection i) =>
      Then (OnConnection loop i (Ownership.Input.resume read write))
        (fun loop => Except.ok ({ loop with
          current :=
            if (loop.connections i).dispatch = Ownership.Dispatch.idle then
              none
            else loop.current }, []))
  | some (Source.connector k) =>
      Then (OnConnector clock loop k Connector.Input.resume) (fun loop =>
        Except.ok ({ loop with current := none }, []))
  | some (Source.other _) => Except.ok ({ loop with current := none }, [])

def Perform (loop : Loop ThreadId ι κ) :
    Input ThreadId ι κ -> Call (Loop ThreadId ι κ) (Event ι κ)
  | Input.poll ready =>
      if loop.activeChannels_ = [] ∧ loop.current = none then
        Poll clock { loop with removed := [] } ready
      else Except.error Failure.impossible
  | Input.handleEvent read write revents isError isSelfConnect =>
      HandleEvent clock loop read write revents isError isSelfConnect
  | Input.resume read write => Resume clock loop read write
  | Input.connection i input =>
      if OfLoop input = false then OnConnection loop i input
      else Except.error Failure.impossible
  | Input.connector k input =>
      if OfLoopConnector input = false then OnConnector clock loop k input
      else Except.error Failure.impossible
  | Input.destroyOwner i => DestroyOwner loop i
  | Input.registerToPoller fd => RegisterToPoller loop fd
  | Input.removeFromPoller fd => RemoveFromPoller loop fd

def LoopMachine : Machine (Loop ThreadId ι κ) (Input ThreadId ι κ)
    (Event ι κ) where
  Step loop i := Answer (Perform clock loop i)

end Sources
end ActiveChannels
end Net
end Wethands
