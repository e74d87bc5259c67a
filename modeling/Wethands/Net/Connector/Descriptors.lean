import Wethands.Foundation.Flow
import Wethands.Net.Connector.Model
import Wethands.Reactor.Poller

/-!
# A connector and its descriptors

The socket owns a descriptor, its channel only has the number, and the kernel
has the interest list.  What the connector does to them is written out here in
the order of the source; all else is taken from the connector on its loop.
-/

namespace Wethands
namespace Net

open Foundation Utils Reactor

namespace Connector

/-- Whose the entries of the interest list are. -/
inductive Owner where
  | connector
  | other
deriving DecidableEq

/--
`sockfd_` is the descriptor of `socket_` and `fd_` that of `socketChannel_`,
each as long as there is one.
-/
structure Site where
  world : World
  alive : Bool
  sockfd_ : Int
  fd_ : Int
  channels_ : Int -> Option Owner
  epoll : Poller.Epoll Owner

namespace Site

/--
A call of `epoll_ctl` for `socketChannel_`: the descriptor, whether it is open,
that of `socket_`, and whether the call fails, which is fatal.
-/
inductive Event where
  | connector (event : Connector.Event)
  | epollCtl (fd : Int) (isOpen : Bool) (socket : Option Int) (fatal : Bool)
deriving DecidableEq

/-- What the kernel does: the number of a new socket, and whether another
thread is given the number of a socket that has just been closed. -/
structure Kernel where
  sockfd : Int
  reused : Bool
deriving DecidableEq

def Init (newConnectionCallback : Bool) (isOpen : Int -> Bool) : Site where
  world := Connector.Init newConnectionCallback
  alive := true
  sockfd_ := 0
  fd_ := 0
  channels_ := fun _ => none
  epoll := { isOpen := isOpen, interests := fun _ => none }

/-- The descriptor that `socket_` owns. -/
def Socket (site : Site) : Option Int :=
  if site.world.connector.socket_ then some site.sockfd_ else none

/-- The poller of the loop, as `socketChannel_` sees it. -/
def PollerOf (site : Site) (channel : Channel) : Poller Owner where
  channels := fun _ => channel
  channels_ := site.channels_
  epoll := site.epoll

/-!
# Descriptors
-/

def Opened (epoll : Poller.Epoll Owner) (fd : Int) : Poller.Epoll Owner :=
  { epoll with isOpen := Function.update epoll.isOpen fd true }

/-- The kernel drops the entry of a descriptor that is closed. -/
def Closed (epoll : Poller.Epoll Owner) (fd : Int) : Poller.Epoll Owner where
  isOpen := Function.update epoll.isOpen fd false
  interests := Function.update epoll.interests fd none

/-- `socket_.reset`: the old socket is closed behind the new one. -/
def ResetSocket (site : Site) (sockfd : Option Int) : Site :=
  let epoll := match sockfd with
    | none => site.epoll
    | some fd => Opened site.epoll fd
  { site with
    world := { site.world with
      connector := { site.world.connector with socket_ := sockfd.isSome } }
    sockfd_ := sockfd.getD site.sockfd_
    epoll := match site.Socket with
      | none => epoll
      | some old => Closed epoll old }

def Reuse (site : Site) (reused : Bool) (fd : Int) : Site :=
  if reused then { site with epoll := Opened site.epoll fd } else site

/-- What the connector does apart from its descriptors. -/
def Lift (site : Site) (call : Call World Connector.Event) :
    Flow Site Event :=
  match call with
  | Except.error failure => (Except.error failure, [])
  | Except.ok (world, es) =>
      (Except.ok { site with world := world }, es.map Event.connector)

/-- A request of `socketChannel_` to the poller. -/
def CallChannel (site : Site) (request : Poller.Request) : Flow Site Event :=
  match site.world.connector.socketChannel_ with
  | none => (Except.error Failure.danglingPointer, [])
  | some channel =>
      let epollCtl := Event.epollCtl site.fd_ (site.epoll.isOpen site.fd_)
        site.Socket
      match Poller.CallChannel (fun _ => site.fd_) (site.PollerOf channel)
          Owner.connector request with
      | Except.error Failure.sysFatal =>
          (Except.error Failure.sysFatal, [epollCtl true])
      | Except.error failure => (Except.error failure, [])
      | Except.ok (poller, _) =>
          (Except.ok { site with
            world := { site.world with
              connector := { site.world.connector with
                socketChannel_ := some (poller.channels Owner.connector) } }
            channels_ := poller.channels_
            epoll := poller.epoll }, [epollCtl false])

/-!
# Functions of the connector
-/

def RegisterForConnecting (site : Site) : Flow Site Event :=
  Flow.Assert (site.world.connector.socket_ = true)
    (match site.world.connector.socketChannel_ with
    | none => (Except.error Failure.assertion, [])
    | some channel =>
        Flow.Assert (channel.registeredToPoller = false)
          (CallChannel site Poller.Request.enableWriting))

def UnregisterForConnecting (site : Site) : Flow Site Event :=
  match site.world.connector.socketChannel_ with
  | none => (Except.error Failure.assertion, [])
  | some channel =>
      Flow.Assert (channel.registeredToPoller = true)
        (Flow.Then (CallChannel site Poller.Request.disableWriting)
          (fun site => CallChannel site Poller.Request.removeFromPoller))

/-- The block that `Restart` and `StopInLoop` have in common. -/
def ClearConnecting (site : Site) : Flow Site Event :=
  if site.world.connector.connecting_ then
    match site.world.connector.socketChannel_ with
    | none => (Except.error Failure.assertion, [])
    | some channel =>
        Flow.Assert
          (channel.IsWriting = true ∧ channel.registeredToPoller = true)
          (Flow.Then (UnregisterForConnecting site) (fun site =>
            (Except.ok { site with
              world := { site.world with
                connector := { site.world.connector with
                  connecting_ := false } } }, [])))
  else (Except.ok site, [])

/-- `socketChannel_.reset` with a channel for the descriptor of `socket_`. -/
def NewChannel (site : Site) : Flow Site Event :=
  Lift { site with fd_ := site.sockfd_ }
    (ResetChannel site.world (some Channel.New))

/-- The rest of `StartInLoop`, with the error number of `connect`. -/
def Attempt (site : Site) (sockfd : Int) (savedErrno : Nat) :
    Flow Site Event :=
  if site.epoll.isOpen sockfd = false then
    let site := ResetSocket site (some sockfd)
    Flow.Assert (site.world.connector.Registered = false)
      (Flow.Then (NewChannel site) (fun site =>
      Flow.Then (Except.ok site, [Event.connector Connector.Event.connect])
        (fun site =>
          if Pending savedErrno then
            Flow.Then (RegisterForConnecting site) (fun site =>
              (Except.ok { site with
                world := { site.world with
                  connector := { site.world.connector with
                    connecting_ := true }
                  control := Control.outside } }, []))
          else if Temporary savedErrno then
            Lift site (Connector.Retry site.world)
          else
            let site := ResetSocket { site with
              world := { site.world with control := Control.outside } } none
            Lift site (ResetChannel site.world none))))
  else (Except.error Failure.impossible, [])

/-- `HandleWrite` up to the call of `newConnectionCallback_`. -/
def HandleWrite (site : Site) (isError : Nat) (isSelfConnect : Bool) :
    Flow Site Event :=
  Flow.Then (UnregisterForConnecting site) (fun site =>
    let site := { site with
      world := { site.world with
        connector := { site.world.connector with connecting_ := false } } }
    -- `ErrorCode` and `IsSelfConnect` are asked of the socket.
    if site.world.connector.socket_ then
      if isError = 0 then
        if isSelfConnect then Lift site (Connector.Retry site.world)
        else if site.world.connector.newConnectionCallback_ then
          (Except.ok { site with
            world := { site.world with control := Control.handleWrite } }, [])
        else (Except.ok site, [])
      else Lift site (Connector.Retry site.world)
    else (Except.error Failure.danglingPointer, []))

/-- `Restart` up to the call of `StartInLoop`. -/
def Restart (site : Site) : Flow Site Event :=
  Flow.Then (Except.ok site, [Event.connector Connector.Event.restart])
    (fun site =>
    Flow.Then (ClearConnecting site) (fun site =>
      Lift site (CancelRetry { site.world with
        connector := { site.world.connector with
          retryDelay_ := kInitRetryDelay
          stop_ := false }
        control := Control.restart })))

def StopInLoop (site : Site) (reused : Bool) : Flow Site Event :=
  Flow.Then
    (ClearConnecting (Reuse (ResetSocket site none) reused site.sockfd_))
    (fun site =>
    Flow.Then (Lift site (CancelRetry site.world)) (fun site =>
      Flow.Then (Lift site (ResetChannel site.world none)) (fun site =>
        (Except.ok site, [Event.connector Connector.Event.stopInLoop]))))

/-- `Stop` on the loop thread. -/
def Stop (site : Site) (reused : Bool) : Flow Site Event :=
  Flow.Then
    (StopInLoop { site with
      world := { site.world with
        connector := { site.world.connector with stop_ := true } } } reused)
    (fun site =>
      (Except.ok site, [Event.connector Connector.Event.stopReturned]))

def Destroy (site : Site) (reused : Bool) : Flow Site Event :=
  Flow.Then (Stop site reused) (fun site =>
    Flow.Then (Lift site (ResetChannel site.world none)) (fun site =>
      (Except.ok { ResetSocket site none with alive := false }, [])))

/-!
# Steps
-/

/-- The other channels of the loop have `registered`. -/
inductive Input where
  | connector (i : Connector.Input) (kernel : Kernel)
  | destroy (kernel : Kernel)
  | opened (fd : Int)
  | closed (fd : Int)
  | registered (fd : Int) (events : Option (BitVec 32))

def When (p : Prop) [Decidable p] (flow : Flow Site Event) :
    Flow Site Event :=
  if p then flow else (Except.error Failure.impossible, [])

def RunFunctor (site : Site) (reused : Bool) : Flow Site Event :=
  When (Draining site.world)
    (match site.world.functors with
    | [] => (Except.error Failure.impossible, [])
    | Functor.startInLoop :: rest =>
        Lift site (Connector.StartInLoop { site.world with functors := rest })
    | Functor.stopInLoop :: rest =>
        StopInLoop { site with
          world := { site.world with functors := rest } } reused)

def HandleEvent (site : Site) (revents : BitVec 32) (isError : Nat)
    (isSelfConnect : Bool) : Flow Site Event :=
  match site.world.dispatch with
  | Dispatch.ahead false => (Except.error Failure.danglingPointer, [])
  | Dispatch.ahead true =>
      let site := { site with
        world := { site.world with dispatch := Dispatch.handling true } }
      if revents &&& Channel.EPOLLOUT ≠ 0 then
        HandleWrite site isError isSelfConnect
      else (Except.ok site, [])
  | _ => (Except.error Failure.impossible, [])

section Clock

variable (clock : Nat -> Timestamp)

def Act (site : Site) (i : Connector.Input) (kernel : Kernel) :
    Flow Site Event :=
  match i with
  | Connector.Input.restart =>
      When (site.world.control = Control.outside) (Restart site)
  | Connector.Input.stop =>
      When (site.world.control = Control.outside) (Stop site kernel.reused)
  | Connector.Input.runFunctor => RunFunctor site kernel.reused
  | Connector.Input.attempt savedErrno =>
      When (site.world.control = Control.startInLoop)
        (Attempt site kernel.sockfd savedErrno)
  | Connector.Input.handleEvent revents isError isSelfConnect =>
      When (site.world.control = Control.outside ∧ site.world.batch = none)
        (HandleEvent site revents isError isSelfConnect)
  | i => Lift site (Connector.Perform clock site.world i)

/-- Nobody else uses or closes the descriptor that `socket_` owns. -/
def Perform (site : Site) : Input -> Flow Site Event
  | Input.connector i kernel =>
      When (site.alive = true) (Act clock site i kernel)
  | Input.destroy kernel =>
      When (site.alive = true ∧ site.world.control = Control.outside)
        (Destroy site kernel.reused)
  | Input.opened fd =>
      When (site.epoll.isOpen fd = false)
        (Except.ok { site with epoll := Opened site.epoll fd }, [])
  | Input.closed fd =>
      When (site.epoll.isOpen fd = true ∧ site.Socket ≠ some fd)
        (Except.ok { site with epoll := Closed site.epoll fd }, [])
  | Input.registered fd events =>
      When (site.epoll.isOpen fd = true ∧ site.Socket ≠ some fd)
        (Except.ok { site with
          channels_ := Function.update site.channels_ fd
            (events.map (fun _ => Owner.other))
          epoll := { site.epoll with
            interests := Function.update site.epoll.interests fd
              (events.map (fun events_ =>
                { events := events_, ptr := Owner.other })) } }, [])

def SiteMachine : Machine Site Input Event where
  Step site i := Answer (Perform clock site i).Finish

end Clock
end Site
end Connector
end Net
end Wethands
