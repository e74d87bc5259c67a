import Wethands.Net.Connector.Descriptors
import Wethands.Net.Connector.Finished
import Wethands.Net.Connector.Steps

/-!
# The descriptor of the channel

A connector is free, with nothing registered, or watched, with its channel
registered for the open descriptor of `socket_`.  Each operation is described
from these two, with every `epoll_ctl` that it makes.
-/

namespace Wethands
namespace Net

open Foundation Utils Reactor

namespace Connector
namespace Site

variable {site next : Site} {epoll : Poller.Epoll Owner}

/-!
# The kernel
-/

/-- A closed descriptor has no entry. -/
def Tight (epoll : Poller.Epoll Owner) : Prop :=
  forall fd, epoll.isOpen fd = false -> epoll.interests fd = none

def Foreign (epoll : Poller.Epoll Owner) : Prop :=
  forall fd entry, epoll.interests fd = some entry ->
    entry.ptr = Owner.other

theorem Tight.opened (h : Tight epoll) (fd : Int) :
    Tight (Opened epoll fd) := by
  intro fd' hclosed
  apply h
  by_cases hsame : fd' = fd
  · simp [Opened, hsame] at hclosed
  · simpa [Opened, hsame] using hclosed

theorem Tight.closed (h : Tight epoll) (fd : Int) :
    Tight (Closed epoll fd) := by
  intro fd' hclosed
  by_cases hsame : fd' = fd
  · simp [Closed, hsame]
  · simp only [Closed, Function.update_of_ne hsame] at hclosed ⊢
    exact h fd' hclosed

theorem Foreign.closed (h : Foreign epoll) (fd : Int) :
    Foreign (Closed epoll fd) := by
  intro fd' entry hentry
  by_cases hsame : fd' = fd
  · simp [Closed, hsame] at hentry
  · simp only [Closed, Function.update_of_ne hsame] at hentry
    exact h fd' entry hentry

/-!
# Where the channel is
-/

structure Owned (site : Site) : Prop where
  tight : Tight site.epoll
  opened : forall fd, site.Socket = some fd -> site.epoll.isOpen fd = true

structure Free (site : Site) : Prop extends Owned site where
  resting : Resting site.world.connector
  unregistered : forall fd, site.Socket = some fd ->
    site.epoll.interests fd = none
  foreign : Foreign site.epoll

structure Watched (site : Site) : Prop extends Owned site where
  connecting : Connecting site.world.connector
  same : site.sockfd_ = site.fd_
  entry : site.epoll.interests site.fd_ =
    some { events := Channel.kWriteEvent, ptr := Owner.connector }
  foreign : Foreign (Closed site.epoll site.fd_)

structure Held (site : Site) : Prop where
  state : Free site ∨ Watched site
  control : site.world.control = Control.handleWrite -> Free site

theorem Free.held (h : Free site) : Held site :=
  ⟨Or.inl h, fun _ => h⟩

theorem held_init (newConnectionCallback : Bool) (isOpen : Int -> Bool) :
    Held (Init newConnectionCallback isOpen) := by
  apply Free.held
  refine ⟨⟨fun _ _ => rfl, ?_⟩, ⟨rfl, Or.inl rfl⟩, fun _ _ => rfl, ?_⟩
  · intro fd hfd
    cases hfd
  · intro fd entry hentry
    cases hentry

theorem Watched.socket (h : Watched site) : site.Socket = some site.fd_ := by
  rw [Socket, if_pos h.connecting.2.1, h.same]

theorem Watched.isOpen (h : Watched site) :
    site.epoll.isOpen site.fd_ = true :=
  h.opened site.fd_ h.socket

theorem Watched.registered (h : Watched site) :
    site.world.connector.Registered = true := by
  rw [Registered, h.connecting.2.2]
  rfl

/-!
# The socket
-/

theorem socket_resetSocket (site : Site) (sockfd : Option Int) :
    (ResetSocket site sockfd).Socket = sockfd := by
  cases sockfd <;> rfl

theorem Free.resetSocket_none (h : Free site) :
    Free (ResetSocket site none) := by
  have hnone : forall fd, (ResetSocket site none).Socket ≠ some fd := by
    intro fd hfd
    rw [socket_resetSocket] at hfd
    cases hfd
  refine ⟨⟨?_, fun fd hfd => absurd hfd (hnone fd)⟩, h.resting,
    fun fd hfd => absurd hfd (hnone fd), ?_⟩
  · cases hsocket : site.Socket with
    | none => simpa [ResetSocket, hsocket] using h.tight
    | some old => simpa [ResetSocket, hsocket] using h.tight.closed old
  · cases hsocket : site.Socket with
    | none => simpa [ResetSocket, hsocket] using h.foreign
    | some old => simpa [ResetSocket, hsocket] using h.foreign.closed old

theorem Free.resetSocket_some {sockfd : Int} (h : Free site)
    (hfresh : site.epoll.isOpen sockfd = false) :
    Free (ResetSocket site (some sockfd)) := by
  have hopened := h.tight.opened sockfd
  have hforeign : Foreign (Opened site.epoll sockfd) := h.foreign
  have hentry := h.tight sockfd hfresh
  have hsome : forall fd, (ResetSocket site (some sockfd)).Socket = some fd ->
      fd = sockfd := by
    intro fd hfd
    rw [socket_resetSocket] at hfd
    cases hfd
    rfl
  cases hsocket : site.Socket with
  | none =>
      refine ⟨⟨?_, fun fd hfd => ?_⟩, h.resting, fun fd hfd => ?_, ?_⟩
      · simpa [ResetSocket, hsocket] using hopened
      · rw [hsome fd hfd]
        simp [ResetSocket, hsocket, Opened]
      · rw [hsome fd hfd]
        simpa [ResetSocket, hsocket, Opened] using hentry
      · simpa [ResetSocket, hsocket] using hforeign
  | some old =>
      have hdifferent : sockfd ≠ old := by
        rintro rfl
        rw [h.opened sockfd hsocket] at hfresh
        cases hfresh
      refine ⟨⟨?_, fun fd hfd => ?_⟩, h.resting, fun fd hfd => ?_, ?_⟩
      · simpa [ResetSocket, hsocket] using hopened.closed old
      · rw [hsome fd hfd]
        simp [ResetSocket, hsocket, Opened, Closed, hdifferent]
      · rw [hsome fd hfd]
        simpa [ResetSocket, hsocket, Opened, Closed, hdifferent] using hentry
      · simpa [ResetSocket, hsocket] using hforeign.closed old

theorem Free.opened_fd (h : Free site) (fd : Int) :
    Free { site with epoll := Opened site.epoll fd } := by
  refine ⟨⟨h.tight.opened fd, fun fd' hsocket => ?_⟩, h.resting,
    h.unregistered, h.foreign⟩
  have hopen := h.opened fd' hsocket
  by_cases hsame : fd' = fd
  · simp [Opened, hsame]
  · simpa [Opened, hsame] using hopen

theorem Free.moved (h : Free site) (hepoll : next.epoll = site.epoll)
    (hsockfd : next.sockfd_ = site.sockfd_)
    (hsocket : next.world.connector.socket_ = true ->
      site.world.connector.socket_ = true)
    (hresting : Resting next.world.connector) : Free next := by
  have howned : forall fd, next.Socket = some fd -> site.Socket = some fd := by
    intro fd hfd
    unfold Socket at hfd ⊢
    split at hfd
    · rename_i htrue
      rwa [if_pos (hsocket htrue), ← hsockfd]
    · cases hfd
  refine ⟨⟨?_, fun fd hfd => ?_⟩, hresting, fun fd hfd => ?_, ?_⟩
  · rw [hepoll]
    exact h.tight
  · rw [hepoll]
    exact h.opened fd (howned fd hfd)
  · rw [hepoll]
    exact h.unregistered fd (howned fd hfd)
  · rw [hepoll]
    exact h.foreign

theorem Watched.moved {world : World} (h : Watched site)
    (hsocket : world.connector.socket_ = site.world.connector.socket_)
    (hchannel : world.connector.socketChannel_ =
      site.world.connector.socketChannel_)
    (hconnecting : world.connector.connecting_ =
      site.world.connector.connecting_) :
    Watched { site with world := world } := by
  have howned : { site with world := world : Site }.Socket = site.Socket := by
    simp only [Socket, hsocket]
  refine ⟨⟨h.tight, ?_⟩, ?_, h.same, h.entry, h.foreign⟩
  · rw [howned]
    exact h.opened
  · exact ⟨hconnecting.trans h.connecting.1, hsocket.trans h.connecting.2.1,
      hchannel.trans h.connecting.2.2⟩

theorem state_moved {world : World} (h : Free site ∨ Watched site)
    (hsocket : world.connector.socket_ = site.world.connector.socket_)
    (hchannel : world.connector.socketChannel_ =
      site.world.connector.socketChannel_)
    (hconnecting : world.connector.connecting_ =
      site.world.connector.connecting_) :
    Free { site with world := world } ∨
      Watched { site with world := world } := by
  rcases h with hfree | hwatched
  · refine Or.inl (hfree.moved rfl rfl (fun htrue => ?_) ?_)
    · exact hsocket.symm.trans htrue
    · exact ⟨hconnecting.trans hfree.resting.1, hchannel ▸ hfree.resting.2⟩
  · exact Or.inr (hwatched.moved hsocket hchannel hconnecting)

/-!
# The requests of the channel
-/

/-- A call of `epoll_ctl` for an open descriptor that is that of `socket_`. -/
def Event.Sound : Event -> Prop
  | Event.connector _ => True
  | Event.epollCtl fd isOpen socket fatal =>
      isOpen = true ∧ socket = some fd ∧ fatal = false

instance (e : Event) : Decidable e.Sound := by
  unfold Event.Sound
  split <;> infer_instance

theorem registerForConnecting_eq
    (hsocket : site.world.connector.socket_ = true)
    (hchannel : site.world.connector.socketChannel_ = some Channel.New)
    (hopen : site.epoll.isOpen site.fd_ = true)
    (hnone : site.epoll.interests site.fd_ = none) :
    RegisterForConnecting site = (Except.ok { site with
      world := { site.world with
        connector := { site.world.connector with
          socketChannel_ := some Channel.New.EnableWriting } }
      channels_ :=
        Function.update site.channels_ site.fd_ (some Owner.connector)
      epoll := { site.epoll with
        interests := Function.update site.epoll.interests site.fd_
          (some { events := Channel.kWriteEvent, ptr := Owner.connector }) } },
      [Event.epollCtl site.fd_ true site.Socket false]) := by
  simp [RegisterForConnecting, Flow.Assert, hsocket, hchannel, CallChannel,
    PollerOf, Poller.CallChannel, Poller.EnableWriting, Poller.Adjust,
    Poller.RegisterToPoller, Poller.UpdateChannel, Poller.Control,
    Poller.EpollCtl, Poller.SetChannel, Then, hopen, hnone, Channel.New,
    Channel.EnableWriting, Channel.RegisterToPoller, Channel.kNoneEvent]

theorem unregisterForConnecting_eq {entry : Poller.Interest Owner}
    (hchannel : site.world.connector.socketChannel_ =
      some Channel.New.EnableWriting)
    (hopen : site.epoll.isOpen site.fd_ = true)
    (hentry : site.epoll.interests site.fd_ = some entry) :
    UnregisterForConnecting site = (Except.ok { site with
      world := { site.world with
        connector := { site.world.connector with
          socketChannel_ := some Channel.New } }
      channels_ := Function.update site.channels_ site.fd_ none
      epoll := { site.epoll with
        interests := Function.update site.epoll.interests site.fd_ none } },
      [Event.epollCtl site.fd_ true site.Socket false,
        Event.epollCtl site.fd_ true site.Socket false]) := by
  have hregistered : Channel.New.EnableWriting.registeredToPoller = true := rfl
  have hevents : Channel.New.EnableWriting.events_ &&& ~~~Channel.kWriteEvent =
      Channel.kNoneEvent := by decide
  have hdisable : CallChannel site Poller.Request.disableWriting =
      (Except.ok { site with
        world := { site.world with
          connector := { site.world.connector with
            socketChannel_ := some
              { events_ := Channel.kNoneEvent, registeredToPoller := true } } }
        channels_ :=
          Function.update site.channels_ site.fd_ (some Owner.connector)
        epoll := { site.epoll with
          interests := Function.update site.epoll.interests site.fd_ (some
            { events := Channel.kNoneEvent, ptr := Owner.connector }) } },
        [Event.epollCtl site.fd_ true site.Socket false]) := by
    simp [CallChannel, hchannel, PollerOf, Poller.CallChannel,
      Poller.DisableWriting, Poller.Adjust, Poller.RegisterToPoller,
      Poller.UpdateChannel, Poller.Control, Poller.EpollCtl,
      Poller.SetChannel, Then, hopen, hentry, hregistered, hevents,
      Channel.RegisterToPoller]
  rw [UnregisterForConnecting, hchannel]
  dsimp only
  rw [Flow.Assert, if_pos hregistered, hdisable]
  simp [Flow.Then, CallChannel, PollerOf, Poller.CallChannel,
    Poller.RemoveFromPoller, Poller.RemoveChannel, Poller.Control,
    Poller.EpollCtl, Poller.SetChannel, Then, Foundation.Assert, hopen,
    Socket, Channel.New]

theorem unregisterForConnecting_refused
    (hchannel : site.world.connector.socketChannel_ =
      some Channel.New.EnableWriting)
    (hnone : site.epoll.interests site.fd_ = none) :
    UnregisterForConnecting site = (Except.error Failure.sysFatal,
      [Event.epollCtl site.fd_ (site.epoll.isOpen site.fd_) site.Socket
        true]) := by
  have hregistered : Channel.New.EnableWriting.registeredToPoller = true := rfl
  have hrefused : CallChannel site Poller.Request.disableWriting =
      (Except.error Failure.sysFatal,
        [Event.epollCtl site.fd_ (site.epoll.isOpen site.fd_) site.Socket
          true]) := by
    cases hopen : site.epoll.isOpen site.fd_ <;>
      simp [CallChannel, hchannel, PollerOf, Poller.CallChannel,
        Poller.DisableWriting, Poller.Adjust, Poller.RegisterToPoller,
        Poller.UpdateChannel, Poller.Control, Poller.EpollCtl,
        Poller.SetChannel, Then, hopen, hnone, hregistered]
  rw [UnregisterForConnecting, hchannel]
  dsimp only
  rw [Flow.Assert, if_pos hregistered, hrefused]
  rfl

theorem Watched.released (h : Watched site)
    {channels_ : Int -> Option Owner} : Free { site with
      world := { site.world with
        connector := { site.world.connector with
          socketChannel_ := some Channel.New
          connecting_ := false } }
      channels_ := channels_
      epoll := { site.epoll with
        interests :=
          Function.update site.epoll.interests site.fd_ none } } := by
  refine ⟨⟨?_, h.opened⟩, ⟨rfl, Or.inr rfl⟩, ?_, h.foreign⟩
  · intro fd hclosed
    by_cases hsame : fd = site.fd_
    · simp [hsame]
    · simpa [hsame] using h.tight fd hclosed
  · intro fd hfd
    have hsame : site.Socket = some fd := hfd
    rw [h.socket] at hsame
    cases hsame
    simp

/-!
# What each operation does
-/

/-- `StopInLoop` has not come to its end. -/
def Quiet (es : List Event) : Prop :=
  Event.connector Connector.Event.stopInLoop ∉ es

theorem meets_lift {call : Call World Connector.Event}
    {Q : Site -> List Event -> Prop}
    (h : Yields call (fun world es =>
      Q { site with world := world } (es.map Event.connector))) :
    Flow.Meets (Lift site call) Event.Sound Q := by
  unfold Lift
  split
  · exact Flow.meets_error
  · rename_i world es
    apply Flow.meets_ok
    · intro e he
      rcases List.mem_map.mp he with ⟨_, _, rfl⟩
      trivial
    · exact h world es rfl

theorem retry_meets (h : Free site) :
    Flow.Meets (Lift site (Connector.Retry site.world)) Event.Sound
      (fun next es => Quiet es ∧ Free next ∧
        next.world.control ≠ Control.handleWrite) := by
  apply meets_lift
  rw [retry_eq]
  refine yields_ok.mpr ⟨by simp [Quiet], ?_, ?_⟩
  · exact h.moved rfl rfl (fun hsocket => hsocket) h.resting
  · dsimp only
    split <;> simp

theorem cancelRetry_meets {world : World} (h : Free site)
    (hresting : Resting world.connector)
    (hsocket : world.connector.socket_ = true ->
      site.world.connector.socket_ = true) :
    Flow.Meets (Lift site (CancelRetry world)) Event.Sound
      (fun next es => Quiet es ∧ Free next ∧
        next.world.connector = world.connector ∧
        next.world.control = world.control) :=
  meets_lift (yields_onQueue (fun _ =>
    ⟨by simp [Quiet], h.moved rfl rfl hsocket hresting, rfl, rfl⟩))

theorem unregisterForConnecting_meets (h : Free site ∨ Watched site) :
    Flow.Meets (UnregisterForConnecting site) Event.Sound
      (fun next es => Quiet es ∧
        Free { next with
          world := { next.world with
            connector := { next.world.connector with
              connecting_ := false } } } ∧
        next.world.control = site.world.control) := by
  rcases h with hfree | hwatched
  · -- The assertions exclude a connector at rest.
    unfold UnregisterForConnecting
    rcases hfree.resting.2 with hchannel | hchannel
    · rw [hchannel]
      exact Flow.meets_error
    · rw [hchannel]
      apply Flow.Meets.assert
      intro hregistered
      cases hregistered
  · have hsound : (Event.epollCtl site.fd_ true site.Socket false).Sound :=
      ⟨rfl, hwatched.socket, rfl⟩
    rw [unregisterForConnecting_eq hwatched.connecting.2.2 hwatched.isOpen
      hwatched.entry]
    apply Flow.meets_ok
    · simp [hsound]
    · exact ⟨by simp [Quiet], hwatched.released, rfl⟩

theorem clearConnecting_meets (h : Free site ∨ Watched site) :
    Flow.Meets (ClearConnecting site) Event.Sound
      (fun next es => Quiet es ∧ Free next) := by
  unfold ClearConnecting
  split
  · split
    · exact Flow.meets_error
    · apply Flow.Meets.assert
      intro _
      apply Flow.Meets.in_turn
      refine (unregisterForConnecting_meets h).mono ?_
      intro mid es hanswer
      rcases hanswer with ⟨hquiet, hfree, _⟩
      apply Flow.meets_ok (by simp)
      exact ⟨by simpa [Quiet] using hquiet, hfree⟩
  · rename_i hnot
    have hfree : Free site := by
      rcases h with hfree | hwatched
      · exact hfree
      · exact absurd hwatched.connecting.1 hnot
    exact Flow.meets_ok (by simp) ⟨by simp [Quiet], hfree⟩

theorem handleWrite_meets {isError : Nat} {isSelfConnect : Bool}
    (h : Free site ∨ Watched site) :
    Flow.Meets (HandleWrite site isError isSelfConnect) Event.Sound
      (fun next es => Quiet es ∧ Free next) := by
  apply Flow.Meets.in_turn
  refine (unregisterForConnecting_meets h).mono ?_
  intro mid es hanswer
  rcases hanswer with ⟨hquiet, hfree, _⟩
  have hquiet_append : forall es', Quiet es' -> Quiet (es ++ es') := by
    intro es' hes'
    simp only [Quiet, List.mem_append, not_or]
    exact ⟨hquiet, hes'⟩
  have hretry := (retry_meets hfree).mono
    (R := fun next es' => Quiet (es ++ es') ∧ Free next)
    (fun next es' hnext => ⟨hquiet_append es' hnext.1, hnext.2.1⟩)
  have hnil : Quiet [] := by simp [Quiet]
  apply Flow.Meets.only_if
  intro _
  split
  · split
    · exact hretry
    · split
      · apply Flow.meets_ok (by simp)
        refine ⟨hquiet_append [] hnil, ?_⟩
        exact hfree.moved rfl rfl (fun hsocket => hsocket) hfree.resting
      · exact Flow.meets_ok (by simp) ⟨hquiet_append [] hnil, hfree⟩
  · exact hretry

theorem Quiet.append {es es' : List Event} (h : Quiet es) (h' : Quiet es') :
    Quiet (es ++ es') := by
  simp only [Quiet, List.mem_append, not_or]
  exact ⟨h, h'⟩

theorem newChannel_meets (h : Free site) :
    Flow.Meets (NewChannel site) Event.Sound (fun next es =>
      Quiet es ∧ Free next ∧ next.fd_ = next.sockfd_ ∧
        next.world.connector = { site.world.connector with
          socketChannel_ := some Channel.New }) := by
  apply meets_lift
  refine (resetChannel_yields (some Channel.New)).mono ?_
  intro world es hanswer
  rcases hanswer with ⟨rfl, dispatch, rfl⟩
  refine ⟨by simp [Quiet], ?_, rfl, rfl⟩
  exact h.moved rfl rfl (fun hsocket => hsocket) ⟨h.resting.1, Or.inr rfl⟩

theorem registerForConnecting_meets (h : Free site)
    (hsame : site.fd_ = site.sockfd_)
    (hsocket : site.world.connector.socket_ = true)
    (hchannel : site.world.connector.socketChannel_ = some Channel.New) :
    Flow.Meets (RegisterForConnecting site) Event.Sound (fun next es =>
      Quiet es ∧ Watched { next with
        world := { next.world with
          connector := { next.world.connector with connecting_ := true }
          control := Control.outside } }) := by
  have howned : site.Socket = some site.fd_ := by
    rw [Socket, if_pos hsocket, hsame]
  have hopen := h.opened site.fd_ howned
  have hsound : (Event.epollCtl site.fd_ true site.Socket false).Sound :=
    ⟨rfl, howned, rfl⟩
  rw [registerForConnecting_eq hsocket hchannel hopen
    (h.unregistered site.fd_ howned)]
  apply Flow.meets_ok (by simp [hsound])
  refine ⟨by simp [Quiet], ⟨?_, h.opened⟩, ⟨rfl, hsocket, rfl⟩, hsame.symm,
    by simp, ?_⟩
  · intro fd hclosed
    by_cases hfd : fd = site.fd_
    · rw [hfd] at hclosed
      exact absurd hclosed (by simp [hopen])
    · simpa [hfd] using h.tight fd hclosed
  · intro fd entry hentry
    by_cases hfd : fd = site.fd_
    · simp [Closed, hfd] at hentry
    · exact h.foreign fd entry (by simpa [Closed, hfd] using hentry)

theorem attempt_meets {sockfd : Int} {savedErrno : Nat}
    (h : Free site ∨ Watched site) :
    Flow.Meets (Attempt site sockfd savedErrno) Event.Sound
      (fun next es => Quiet es ∧ (Free next ∨ Watched next) ∧
        next.world.control ≠ Control.handleWrite) := by
  apply Flow.Meets.only_if
  intro hfresh
  apply Flow.Meets.assert
  intro hunregistered
  have hfree : Free site := by
    rcases h with hfree | hwatched
    · exact hfree
    · have hregistered := hwatched.registered
      have hfalse : site.world.connector.Registered = false := hunregistered
      rw [hregistered] at hfalse
      cases hfalse
  apply Flow.Meets.in_turn
  refine (newChannel_meets (hfree.resetSocket_some hfresh)).mono ?_
  intro mid es hanswer
  rcases hanswer with ⟨hquiet, hmid, hsame, hconnector⟩
  apply Flow.Meets.in_turn
  apply Flow.meets_ok (by simp [Event.Sound])
  have hconnect :
      Quiet (es ++ [Event.connector Connector.Event.connect]) :=
    hquiet.append (by simp [Quiet])
  split
  · apply Flow.Meets.in_turn
    refine (registerForConnecting_meets hmid hsame ?_ ?_).mono ?_
    · rw [hconnector]
      rfl
    · rw [hconnector]
    · intro next es' hanswer
      rcases hanswer with ⟨hquiet', hwatched⟩
      apply Flow.meets_ok (by simp)
      refine ⟨?_, Or.inr hwatched, by simp⟩
      simpa using hconnect.append hquiet'
  · split
    · refine (retry_meets hmid).mono ?_
      intro next es' hanswer
      rcases hanswer with ⟨hquiet', hnext, hcontrol⟩
      refine ⟨?_, Or.inl hnext, hcontrol⟩
      simpa using hconnect.append hquiet'
    · have hclosed : Free (ResetSocket { mid with
          world := { mid.world with control := Control.outside } } none) :=
        Free.resetSocket_none
          (hmid.moved rfl rfl (fun hsocket => hsocket) hmid.resting)
      apply meets_lift
      refine (resetChannel_yields none).mono ?_
      intro world es' hanswer
      rcases hanswer with ⟨rfl, dispatch, rfl⟩
      refine ⟨by simpa using hconnect, Or.inl ?_, by simp [ResetSocket]⟩
      exact hclosed.moved rfl rfl (fun hsocket => hsocket)
        ⟨hclosed.resting.1, Or.inl rfl⟩

theorem restart_meets (h : Free site ∨ Watched site) :
    Flow.Meets (Restart site) Event.Sound
      (fun next es => Quiet es ∧ Free next) := by
  apply Flow.Meets.in_turn
  apply Flow.meets_ok (by simp [Event.Sound])
  apply Flow.Meets.in_turn
  refine (clearConnecting_meets h).mono ?_
  intro mid es hanswer
  rcases hanswer with ⟨hquiet, hfree⟩
  refine (cancelRetry_meets hfree ?_ ?_).mono ?_
  · exact hfree.resting
  · exact fun hsocket => hsocket
  · intro next es' hanswer
    rcases hanswer with ⟨hquiet', hnext, _⟩
    refine ⟨?_, hnext⟩
    exact Quiet.append (by simp [Quiet]) (hquiet.append hquiet')

/-!
# What `StopInLoop` does
-/

/-- What `Stop` is to leave. -/
structure Vacated (site : Site) : Prop where
  socket : site.world.connector.socket_ = false
  connecting : site.world.connector.connecting_ = false
  unregistered : site.world.connector.Registered = false
  foreign : Foreign site.epoll

structure Emptied (site : Site) : Prop extends Free site where
  socket : site.world.connector.socket_ = false
  channel : site.world.connector.socketChannel_ = none

theorem Emptied.vacated (h : Emptied site) : Vacated site :=
  ⟨h.socket, h.resting.1, h.resting.unregistered, h.foreign⟩

/-- `StopInLoop` behind `socket_.reset()`. -/
def SocketGone (site : Site) (reused : Bool) : Site :=
  Reuse (ResetSocket site none) reused site.sockfd_

theorem socketGone_world (site : Site) (reused : Bool) :
    (SocketGone site reused).world =
      { site.world with
        connector := { site.world.connector with socket_ := false } } := by
  unfold SocketGone Reuse
  split <;> rfl

theorem socketGone_fd (site : Site) (reused : Bool) :
    (SocketGone site reused).fd_ = site.fd_ := by
  unfold SocketGone Reuse
  split <;> rfl

theorem Free.socketGone (h : Free site) (reused : Bool) :
    Free (SocketGone site reused) := by
  unfold SocketGone Reuse
  split
  · exact h.resetSocket_none.opened_fd site.sockfd_
  · exact h.resetSocket_none

theorem stopInLoop_meets {reused : Bool} (h : Free site) :
    Flow.Meets (StopInLoop site reused) Event.Sound
      (fun next _ => Emptied next) := by
  have hgone := h.socketGone reused
  have hsocket : (SocketGone site reused).world.connector.socket_ = false := by
    rw [socketGone_world]
  have hclear : ClearConnecting (SocketGone site reused) =
      (Except.ok (SocketGone site reused), []) := by
    rw [ClearConnecting, hgone.resting.1]
    rfl
  apply Flow.Meets.in_turn
  show Flow.Meets (ClearConnecting (SocketGone site reused)) _ _
  rw [hclear]
  apply Flow.meets_ok (by simp)
  apply Flow.Meets.in_turn
  refine (cancelRetry_meets hgone hgone.resting (fun htrue => htrue)).mono ?_
  intro mid es hanswer
  rcases hanswer with ⟨_, hmid, hconnector, _⟩
  apply Flow.Meets.in_turn
  apply meets_lift
  refine (resetChannel_yields none).mono ?_
  intro world es' hanswer
  rcases hanswer with ⟨rfl, dispatch, rfl⟩
  apply Flow.meets_ok (by simp [Event.Sound])
  have hfalse : mid.world.connector.socket_ = false := by
    rw [hconnector, hsocket]
  refine ⟨?_, hfalse, rfl⟩
  exact hmid.moved rfl rfl (fun htrue => htrue) ⟨hmid.resting.1, Or.inl rfl⟩

theorem stop_meets {reused : Bool} (h : Free site) :
    Flow.Meets (Stop site reused) Event.Sound
      (fun next _ => Emptied next) := by
  apply Flow.Meets.in_turn
  have hfree : Free { site with
      world := { site.world with
        connector := { site.world.connector with stop_ := true } } } :=
    h.moved rfl rfl (fun hsocket => hsocket) h.resting
  refine (stopInLoop_meets hfree).mono ?_
  intro next es hnext
  exact Flow.meets_ok (by simp [Event.Sound]) hnext

theorem destroy_meets {reused : Bool} (h : Free site) :
    Flow.Meets (Destroy site reused) Event.Sound
      (fun next _ => Emptied next) := by
  apply Flow.Meets.in_turn
  refine (stop_meets h).mono ?_
  intro mid es hmid
  apply Flow.Meets.in_turn
  apply meets_lift
  refine (resetChannel_yields none).mono ?_
  intro world es' hanswer
  rcases hanswer with ⟨rfl, dispatch, rfl⟩
  apply Flow.meets_ok (by simp)
  refine ⟨?_, rfl, rfl⟩
  have hlast : Free { mid with
      world := { mid.world with
        connector := { mid.world.connector with socketChannel_ := none }
        dispatch := dispatch } } :=
    hmid.moved rfl rfl (fun htrue => htrue) ⟨hmid.resting.1, Or.inl rfl⟩
  exact hlast.resetSocket_none.moved rfl rfl (fun htrue => htrue)
    hlast.resting

theorem Watched.epoll_socketGone (h : Watched site) (reused : Bool) :
    (SocketGone site reused).epoll.isOpen site.fd_ = reused ∧
      (SocketGone site reused).epoll.interests site.fd_ = none := by
  have hclosed : (ResetSocket site none).epoll =
      Closed site.epoll site.fd_ := by
    simp [ResetSocket, h.socket]
  cases reused with
  | false => simp [SocketGone, Reuse, hclosed, Closed]
  | true => simp [SocketGone, Reuse, hclosed, Opened, Closed, h.same]

theorem stopInLoop_refused {reused : Bool} (h : Watched site) :
    StopInLoop site reused = (Except.error Failure.sysFatal,
      [Event.epollCtl site.fd_ reused none true]) := by
  have hworld := socketGone_world site reused
  have hfd := socketGone_fd site reused
  rcases h.epoll_socketGone reused with ⟨hopen, hnone⟩
  have hconnecting :
      (SocketGone site reused).world.connector.connecting_ = true := by
    rw [hworld]
    exact h.connecting.1
  have hchannel : (SocketGone site reused).world.connector.socketChannel_ =
      some Channel.New.EnableWriting := by
    rw [hworld]
    exact h.connecting.2.2
  have hsocket : (SocketGone site reused).Socket = none := by
    rw [Socket, hworld]
    rfl
  have hrefused := unregisterForConnecting_refused hchannel
    (by rw [hfd]; exact hnone)
  rw [hfd, hopen, hsocket] at hrefused
  have hclear : ClearConnecting (SocketGone site reused) =
      (Except.error Failure.sysFatal,
        [Event.epollCtl site.fd_ reused none true]) := by
    rw [ClearConnecting, if_pos hconnecting, hchannel]
    dsimp only
    rw [Flow.Assert, if_pos ⟨by decide, rfl⟩, hrefused]
    rfl
  show Flow.Then (ClearConnecting (SocketGone site reused)) _ = _
  rw [hclear]
  rfl

theorem stop_refused {reused : Bool} (h : Watched site) :
    Stop site reused = (Except.error Failure.sysFatal,
      [Event.epollCtl site.fd_ reused none true]) := by
  have hset : Watched { site with
      world := { site.world with
        connector := { site.world.connector with stop_ := true } } } :=
    h.moved rfl rfl rfl
  rw [Stop, stopInLoop_refused hset]
  rfl

end Site
end Connector
end Net
end Wethands
