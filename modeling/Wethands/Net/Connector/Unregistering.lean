import Wethands.Net.Connector.Attempt
import Wethands.Net.Connector.Watched

/-!
# Descriptors are unregistered before they are closed

Only `StopInLoop` closes the socket of a connector that is connecting before
it unregisters the channel.
-/

namespace Wethands
namespace Net

open Foundation Utils Reactor

namespace Connector
namespace Site

variable {site next : Site} {epoll : Poller.Epoll Owner}

/-!
# Steps
-/

structure Leaves (world next : World) (es : List Connector.Event) : Prop where
  socket : next.connector.socket_ = world.connector.socket_
  channel : next.connector.socketChannel_ = world.connector.socketChannel_
  connecting : next.connector.connecting_ = world.connector.connecting_
  control : next.control = Control.handleWrite ->
    world.control = Control.handleWrite
  quiet : Connector.Event.stopInLoop ∉ es

theorem Leaves.held {world : World} {es : List Connector.Event}
    (h : Leaves site.world world es) (hheld : Held site) :
    Held { site with world := world } := by
  have hstate : (Free site ∨ Watched site) ->
      Free { site with world := world } ∨
        Watched { site with world := world } :=
    fun hsite => state_moved hsite h.socket h.channel h.connecting
  refine ⟨hstate hheld.state, fun hcontrol => ?_⟩
  have hfree := hheld.control (h.control hcontrol)
  rcases hstate (Or.inl hfree) with hmoved | hwatched
  · exact hmoved
  · have hfalse := h.connecting.symm.trans hwatched.connecting.1
    rw [hfree.resting.1] at hfalse
    cases hfalse

theorem Leaves.of_untouched {world next : World}
    {es : List Connector.Event} (h : Untouched world next es) :
    Leaves world next es :=
  ⟨h.socket, h.passes.2, h.connecting, h.control, h.unstopped⟩

def Apart : Connector.Input -> Bool
  | Connector.Input.poll => true
  | Connector.Input.resume => true
  | i => i.Distant

section Clock

variable {clock : Nat -> Timestamp}

theorem perform_leaves {world : World} {i : Connector.Input}
    (hapart : Apart i = true) :
    Yields (Connector.Perform clock world i) (Leaves world) := by
  by_cases hdistant : i.Distant = true
  · exact (perform_untouched clock hdistant).mono
      (fun _ _ hnext => Leaves.of_untouched hnext)
  · cases i with
    | poll =>
        refine yields_when (fun _ => yields_ok.mpr ?_)
        exact ⟨rfl, rfl, rfl, fun h => h, by simp⟩
    | resume =>
        refine yields_when (fun _ => ?_)
        unfold Resume
        split
        · exact yields_ok.mpr ⟨rfl, rfl, rfl, fun h => h, by simp⟩
        · exact yields_error
    | _ => exact absurd hapart hdistant

end Clock

theorem Held.others {channels_ : Int -> Option Owner} (h : Held site)
    (htight : Tight epoll)
    (hsame : forall fd, site.Socket = some fd ->
      epoll.isOpen fd = site.epoll.isOpen fd ∧
        epoll.interests fd = site.epoll.interests fd)
    (hentry : forall fd entry, epoll.interests fd = some entry ->
      site.epoll.interests fd = some entry ∨ entry.ptr = Owner.other) :
    Held { site with channels_ := channels_, epoll := epoll } := by
  have hopened : Owned site -> forall fd, site.Socket = some fd ->
      epoll.isOpen fd = true := by
    intro howned fd hfd
    rw [(hsame fd hfd).1]
    exact howned.opened fd hfd
  have hfree : Free site ->
      Free { site with channels_ := channels_, epoll := epoll } := by
    intro hsite
    refine ⟨⟨htight, hopened hsite.toOwned⟩, hsite.resting, ?_, ?_⟩
    · intro fd hfd
      exact (hsame fd hfd).2.trans (hsite.unregistered fd hfd)
    · intro fd entry hfd
      rcases hentry fd entry hfd with hbefore | hother
      · exact hsite.foreign fd entry hbefore
      · exact hother
  refine ⟨h.state.imp hfree (fun hsite => ?_),
    fun hcontrol => hfree (h.control hcontrol)⟩
  refine ⟨⟨htight, hopened hsite.toOwned⟩, hsite.connecting, hsite.same,
    (hsame _ hsite.socket).2.trans hsite.entry, ?_⟩
  intro fd entry hfd
  by_cases hown : fd = site.fd_
  · simp [Closed, hown] at hfd
  · have hlater : epoll.interests fd = some entry := by
      simpa [Closed, hown] using hfd
    rcases hentry fd entry hlater with hbefore | hother
    · exact hsite.foreign fd entry (by simpa [Closed, hown] using hbefore)
    · exact hother

theorem Held.owned (h : Held site) : Owned site := by
  rcases h.state with hfree | hwatched
  · exact hfree.toOwned
  · exact hwatched.toOwned

theorem Held.opened_fd (h : Held site) {fd : Int}
    (hclosed : site.epoll.isOpen fd = false) :
    Held { site with epoll := Opened site.epoll fd } := by
  apply h.others (h.owned.tight.opened fd)
  · intro own hown
    have hopen := h.owned.opened own hown
    have hdifferent : own ≠ fd := by
      rintro rfl
      rw [hopen] at hclosed
      cases hclosed
    exact ⟨by simp [Opened, hdifferent], rfl⟩
  · exact fun _ _ hentry => Or.inl hentry

theorem Held.closed_fd (h : Held site) {fd : Int}
    (hnot : site.Socket ≠ some fd) :
    Held { site with epoll := Closed site.epoll fd } := by
  apply h.others (h.owned.tight.closed fd)
  · intro own hown
    have hdifferent : own ≠ fd := by
      rintro rfl
      exact hnot hown
    constructor
    · simp [Closed, hdifferent]
    · simp [Closed, hdifferent]
  · intro fd' entry hentry
    by_cases hsame : fd' = fd
    · simp [Closed, hsame] at hentry
    · exact Or.inl (by simpa [Closed, hsame] using hentry)

theorem Held.registered_fd {fd : Int} {events : Option (BitVec 32)}
    {channels_ : Int -> Option Owner} (h : Held site)
    (hopen : site.epoll.isOpen fd = true) (hnot : site.Socket ≠ some fd) :
    Held { site with
      channels_ := channels_
      epoll := { site.epoll with
        interests := Function.update site.epoll.interests fd
          (events.map (fun events_ =>
            { events := events_, ptr := Owner.other })) } } := by
  apply h.others
  · intro fd' hclosed
    have hdifferent : fd' ≠ fd := by
      rintro rfl
      have hfalse : site.epoll.isOpen fd' = false := hclosed
      rw [hopen] at hfalse
      cases hfalse
    simpa [hdifferent] using h.owned.tight fd' hclosed
  · intro own hown
    have hdifferent : own ≠ fd := by
      rintro rfl
      exact hnot hown
    exact ⟨rfl, by simp [hdifferent]⟩
  · intro fd' entry hentry
    by_cases hsame : fd' = fd
    · have hown : events.map (fun events_ =>
          { events := events_, ptr := Owner.other }) = some entry := by
        simpa [hsame] using hentry
      rcases Option.map_eq_some_iff.mp hown with ⟨_, _, rfl⟩
      exact Or.inr rfl
    · exact Or.inl (by simpa [hsame] using hentry)

/-!
# What holds in every reached state
-/

/-- `StopInLoop` is executed: by `Stop`, from the queue or on destruction. -/
def RunsStopInLoop (site : Site) : Input -> Prop
  | Input.connector Connector.Input.stop _ =>
      site.world.control = Control.outside
  | Input.connector Connector.Input.runFunctor _ =>
      Draining site.world ∧
        site.world.functors.head? = some Functor.stopInLoop
  | Input.destroy _ => site.world.control = Control.outside
  | _ => False

instance (site : Site) (i : Input) : Decidable (RunsStopInLoop site i) := by
  unfold RunsStopInLoop
  split <;> infer_instance

def StopsConnecting (site : Site) (i : Input) : Prop :=
  site.alive = true ∧ site.world.connector.connecting_ = true ∧
    RunsStopInLoop site i

instance (site : Site) (i : Input) : Decidable (StopsConnecting site i) :=
  inferInstanceAs (Decidable (_ ∧ _))

/-- Where `StopInLoop` comes to its end, nothing is left of an attempt. -/
def Remains (next : Site) (es : List Event) : Prop :=
  Held next ∧
    (Event.connector Connector.Event.stopInLoop ∈ es -> Vacated next)

theorem Held.remains {es : List Event} (h : Held next) (hquiet : Quiet es) :
    Remains next es :=
  ⟨h, fun hmem => absurd hmem hquiet⟩

theorem Emptied.remains {es : List Event} (h : Emptied next) :
    Remains next es :=
  ⟨h.toFree.held, fun _ => h.vacated⟩

theorem Held.free (h : Held site)
    (hnot : site.world.connector.connecting_ = false) : Free site := by
  rcases h.state with hfree | hwatched
  · exact hfree
  · rw [hwatched.connecting.1] at hnot
    cases hnot

theorem Held.watched (h : Held site)
    (hconnecting : site.world.connector.connecting_ = true) :
    Watched site := by
  rcases h.state with hfree | hwatched
  · rw [hfree.resting.1] at hconnecting
    cases hconnecting
  · exact hwatched

theorem meets_when {p : Prop} [Decidable p] {flow : Flow Site Event}
    {Q : Site -> List Event -> Prop}
    (h : p -> Flow.Meets flow Event.Sound Q) :
    Flow.Meets (When p flow) Event.Sound Q :=
  Flow.Meets.only_if h

theorem runFunctor_meets {reused : Bool} (h : Held site)
    (hnot : Draining site.world ->
      site.world.functors.head? = some Functor.stopInLoop ->
      site.world.connector.connecting_ = false) :
    Flow.Meets (RunFunctor site reused) Event.Sound Remains := by
  apply meets_when
  intro hdraining
  split
  · exact Flow.meets_error
  · rename_i rest hfunctors
    have hstart : Yields (Connector.StartInLoop
        { site.world with functors := rest }) (Untouched site.world) :=
      startInLoop_untouched rfl rfl
    apply meets_lift
    refine hstart.mono ?_
    intro world es huntouched
    have hleaves := Leaves.of_untouched huntouched
    refine (hleaves.held h).remains ?_
    simpa [Quiet] using hleaves.quiet
  · rename_i rest hfunctors
    have hfree := h.free (hnot hdraining (by rw [hfunctors]; rfl))
    have htaken : Free { site with
        world := { site.world with functors := rest } } :=
      hfree.moved rfl rfl (fun hsocket => hsocket) hfree.resting
    exact (stopInLoop_meets htaken).mono
      (fun next es hnext => hnext.remains)

theorem handleEvent_meets {revents : BitVec 32} {isError : Nat}
    {isSelfConnect : Bool} (h : Held site) :
    Flow.Meets (HandleEvent site revents isError isSelfConnect) Event.Sound
      Remains := by
  have hsame : forall dispatch, Held { site with
      world := { site.world with dispatch := dispatch } } := by
    intro dispatch
    have hleaves : Leaves site.world
        { site.world with dispatch := dispatch } [] :=
      ⟨rfl, rfl, rfl, fun hcontrol => hcontrol, by simp⟩
    exact hleaves.held h
  unfold HandleEvent
  split
  · exact Flow.meets_error
  · dsimp only
    split
    · refine (handleWrite_meets (hsame _).state).mono ?_
      exact fun next es hnext => hnext.2.held.remains hnext.1
    · apply Flow.meets_ok (by simp)
      exact (hsame _).remains (by simp [Quiet])
  · exact Flow.meets_error

section Clock

variable {clock : Nat -> Timestamp}

theorem act_apart {i : Connector.Input} {kernel : Kernel}
    (hapart : Apart i = true) : Act clock site i kernel =
      Lift site (Connector.Perform clock site.world i) := by
  cases i <;> first | rfl | cases hapart

theorem act_meets {i : Connector.Input} {kernel : Kernel} (h : Held site)
    (hnot : RunsStopInLoop site (Input.connector i kernel) ->
      site.world.connector.connecting_ = false) :
    Flow.Meets (Act clock site i kernel) Event.Sound Remains := by
  by_cases hapart : Apart i = true
  · rw [act_apart hapart]
    apply meets_lift
    refine (perform_leaves hapart).mono ?_
    intro world es hleaves
    refine (hleaves.held h).remains ?_
    simpa [Quiet] using hleaves.quiet
  · cases i with
    | restart =>
        refine meets_when (fun _ => (restart_meets h.state).mono ?_)
        exact fun next es hnext => hnext.2.held.remains hnext.1
    | stop =>
        refine meets_when (fun houtside => ?_)
        refine (stop_meets (h.free (hnot houtside))).mono ?_
        exact fun next es hnext => hnext.remains
    | runFunctor =>
        exact runFunctor_meets h (fun hdraining hhead =>
          hnot ⟨hdraining, hhead⟩)
    | attempt savedErrno =>
        refine meets_when (fun _ => (attempt_meets h.state).mono ?_)
        intro next es hanswer
        rcases hanswer with ⟨hquiet, hstate, hcontrol⟩
        refine Held.remains ⟨hstate, ?_⟩ hquiet
        exact fun hhandle => absurd hhandle hcontrol
    | newConnection =>
        apply meets_lift
        refine yields_when (fun hcontrol => yields_ok.mpr ?_)
        have hfree := h.control hcontrol
        refine Held.remains (Free.held ?_) (by simp [Quiet])
        refine hfree.moved rfl rfl ?_ hfree.resting
        intro hsocket
        cases hsocket
    | handleEvent revents isError isSelfConnect =>
        exact meets_when (fun _ => handleEvent_meets h)
    | _ => exact absurd rfl hapart

theorem perform_meets {i : Input} (h : Held site)
    (hnot : ¬StopsConnecting site i) :
    Flow.Meets (Perform clock site i) Event.Sound Remains := by
  have hresting : site.alive = true -> RunsStopInLoop site i ->
      site.world.connector.connecting_ = false := by
    intro halive hruns
    rw [← Bool.not_eq_true]
    exact fun hconnecting => hnot ⟨halive, hconnecting, hruns⟩
  cases i with
  | connector i kernel =>
      exact meets_when (fun halive => act_meets h (hresting halive))
  | destroy kernel =>
      refine meets_when (fun hboth => ?_)
      have hfree := h.free (hresting hboth.1 hboth.2)
      exact (destroy_meets hfree).mono
        (fun next es hnext => hnext.remains)
  | opened fd =>
      refine meets_when (fun hclosed => Flow.meets_ok (by simp) ?_)
      exact (h.opened_fd hclosed).remains (by simp [Quiet])
  | closed fd =>
      refine meets_when (fun hboth => Flow.meets_ok (by simp) ?_)
      exact (h.closed_fd hboth.2).remains (by simp [Quiet])
  | registered fd events =>
      refine meets_when (fun hboth => Flow.meets_ok (by simp) ?_)
      exact (h.registered_fd hboth.1 hboth.2).remains (by simp [Quiet])

theorem perform_refused (clock : Nat -> Timestamp) {i : Input} (h : Held site)
    (hstops : StopsConnecting site i) :
    exists reused, Perform clock site i = (Except.error Failure.sysFatal,
      [Event.epollCtl site.fd_ reused none true]) := by
  rcases hstops with ⟨halive, hconnecting, hruns⟩
  have hwatched := h.watched hconnecting
  unfold RunsStopInLoop at hruns
  split at hruns
  · rename_i kernel
    refine ⟨kernel.reused, ?_⟩
    rw [← stop_refused hwatched]
    simp [Perform, Act, When, halive, hruns]
  · rename_i kernel
    rcases hruns with ⟨hdraining, hhead⟩
    rcases List.head?_eq_some_iff.mp hhead with ⟨rest, hfunctors⟩
    have htaken : Watched { site with
        world := { site.world with functors := rest } } :=
      hwatched.moved rfl rfl rfl
    refine ⟨kernel.reused, ?_⟩
    rw [← stopInLoop_refused htaken]
    simp [Perform, Act, When, RunFunctor, halive, hdraining, hfunctors]
  · rename_i kernel
    have hdestroy : Destroy site kernel.reused =
        (Except.error Failure.sysFatal,
          [Event.epollCtl site.fd_ kernel.reused none true]) := by
      rw [Destroy, stop_refused hwatched]
      rfl
    refine ⟨kernel.reused, ?_⟩
    rw [← hdestroy]
    simp [Perform, When, halive, hruns]
  · exact absurd hruns (fun hfalse => hfalse)

theorem not_stopsConnecting {i : Input} {es : List Event} (h : Held site)
    (hstep : (SiteMachine clock).Step site i = some (next, es)) :
    ¬StopsConnecting site i := by
  intro hstops
  rcases perform_refused clock h hstops with ⟨reused, hrefused⟩
  have hfinish : (Perform clock site i).Finish = Except.ok (next, es) :=
    answer_eq_some.mp hstep
  rw [hrefused] at hfinish
  cases hfinish

theorem perform_of_step {i : Input} {es : List Event}
    (hstep : (SiteMachine clock).Step site i = some (next, es)) :
    Perform clock site i = (Except.ok next, es) := by
  have hfinish : (Perform clock site i).Finish = Except.ok (next, es) :=
    answer_eq_some.mp hstep
  generalize Perform clock site i = flow at hfinish ⊢
  rcases flow with ⟨failure | last, es'⟩
  · cases hfinish
  · cases hfinish
    rfl

theorem Held.step {i : Input} {es : List Event} (h : Held site)
    (hstep : (SiteMachine clock).Step site i = some (next, es)) :
    Held next := by
  have hmeets : Flow.Meets (Perform clock site i) Event.Sound Remains :=
    perform_meets h (not_stopsConnecting h hstep)
  rw [perform_of_step hstep] at hmeets
  exact (hmeets.last next rfl).1

/--
Every `epoll_ctl` of a step is for a descriptor that is open and that of
`socket_`, none is fatal, and where `StopInLoop` has run nothing is left.
-/
def UnregistersFirst (clock : Nat -> Timestamp) (site : Site) (i : Input) :
    Prop :=
  (forall e, e ∈ (Perform clock site i).2 -> e.Sound) ∧
    forall next, (Perform clock site i).1 = Except.ok next ->
      Event.connector Connector.Event.stopInLoop ∈ (Perform clock site i).2 ->
      Vacated next

theorem unregistersFirst_iff_of_held {i : Input} (h : Held site) :
    UnregistersFirst clock site i <-> ¬StopsConnecting site i := by
  constructor
  · intro hfirst hstops
    rcases perform_refused clock h hstops with ⟨reused, hrefused⟩
    rw [UnregistersFirst, hrefused] at hfirst
    have hsound := hfirst.1 _ (List.mem_singleton_self _)
    cases hsound.2.1
  · intro hnot
    have hmeets : Flow.Meets (Perform clock site i) Event.Sound Remains :=
      perform_meets h hnot
    exact ⟨hmeets.emitted, fun next hnext => (hmeets.last next hnext).2⟩

/--
In a run from the start descriptors are unregistered before they are closed
exactly as long as no connector that is connecting executes `StopInLoop`.
-/
theorem unregistersFirst_iff (newConnectionCallback : Bool)
    (isOpen : Int -> Bool) (inputs : List Input) :
    (SiteMachine clock).Guarded (UnregistersFirst clock)
        (Init newConnectionCallback isOpen) inputs <->
      (SiteMachine clock).Guarded (fun site i => ¬StopsConnecting site i)
        (Init newConnectionCallback isOpen) inputs :=
  Machine.Guarded.congr (I := Held) (G := fun _ _ => True)
    (fun _ _ hheld _ => unregistersFirst_iff_of_held hheld)
    (fun _ _ _ _ hheld _ _ hstep => hheld.step hstep)
    (held_init newConnectionCallback isOpen)
    (Machine.guarded_of_forall (fun _ _ => trivial) _ inputs)

end Clock

/-- `Stop` is called while the connection is being made. -/
theorem stop_closes_first :
    exists inputs site tr kernel,
      (SiteMachine LateClock).Run (Init true (fun _ => false)) inputs =
        some (site, tr) ∧
      (Perform LateClock site
        (Input.connector Connector.Input.stop kernel)).2 =
          [Event.epollCtl 5 false none true] ∧
      ¬UnregistersFirst LateClock site
        (Input.connector Connector.Input.stop kernel) := by
  have heval : ((SiteMachine LateClock).Run (Init true (fun _ => false))
      [Input.connector Connector.Input.start ⟨5, false⟩,
        Input.connector (Connector.Input.attempt EINPROGRESS)
          ⟨5, false⟩]).map
      (fun last => ((Perform LateClock last.1
        (Input.connector Connector.Input.stop ⟨5, false⟩)).2, last.2)) =
      some ([Event.epollCtl 5 false none true],
        [Event.connector Connector.Event.connect,
          Event.epollCtl 5 true (some 5) false]) := by
    decide +kernel
  rcases (SiteMachine LateClock).exists_run
    (fun site => (Perform LateClock site
      (Input.connector Connector.Input.stop ⟨5, false⟩)).2) heval with
    ⟨site, hrun, hstop⟩
  refine ⟨_, site, _, _, hrun, hstop, ?_⟩
  intro hboth
  rcases hboth with ⟨hsound, _⟩
  have hrefused := hsound (Event.epollCtl 5 false none true)
    (by rw [hstop]; exact List.mem_singleton_self _)
  exact absurd hrefused (by decide)

end Site
end Connector
end Net
end Wethands
