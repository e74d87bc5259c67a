import Wethands.Net.Connector.Unregistering

/-!
# The descriptors below the connector

Without descriptors the poller is only said to refuse a channel whose socket is
closed.  The kernel bears this out: with its descriptors a connector does what
it does without them, also where the process ends.
-/

namespace Wethands
namespace Net

open Foundation Utils Reactor

namespace Connector
namespace Site

variable {site next : Site}

def Event.OfConnector : Event -> Option Connector.Event
  | Event.connector event => some event
  | Event.epollCtl _ _ _ _ => none

def Above (flow : Flow Site Event) : Call World Connector.Event :=
  match flow with
  | (Except.error failure, _) => Except.error failure
  | (Except.ok site, es) =>
      Except.ok (site.world, es.filterMap Event.OfConnector)

/-!
# Rules
-/

theorem above_then {first : Flow Site Event}
    {second : Site -> Flow Site Event} {call : Call World Connector.Event}
    {rest : World -> Call World Connector.Event}
    (hfirst : Above first = call)
    (hsecond : forall mid, first.1 = Except.ok mid ->
      Above (second mid) = rest mid.world) :
    Above (Flow.Then first second) = Then call rest := by
  subst hfirst
  rcases first with ⟨failure | mid, es⟩
  · rfl
  · have hrest := hsecond mid rfl
    unfold Flow.Then Then
    simp only [Above]
    rw [← hrest]
    rcases second mid with ⟨failure | last, es'⟩
    · rfl
    · simp [Above, List.filterMap_append]

theorem above_assert {p : Prop} [Decidable p] {flow : Flow Site Event}
    {call : Call World Connector.Event} (h : p -> Above flow = call) :
    Above (Flow.Assert p flow) = Assert p call := by
  unfold Flow.Assert Assert
  split
  · exact h ‹p›
  · rfl

theorem above_when {p : Prop} [Decidable p] {flow : Flow Site Event}
    {call : Call World Connector.Event} (h : p -> Above flow = call) :
    Above (When p flow) = Connector.When p call := by
  unfold When Connector.When
  split
  · exact h ‹p›
  · rfl

theorem above_lift (call : Call World Connector.Event) :
    Above (Lift site call) = call := by
  rcases call with failure | ⟨world, es⟩
  · rfl
  · simp [Lift, Above, List.filterMap_map, Function.comp_def,
      Event.OfConnector]

/-!
# Functions of the connector
-/

theorem unregisterForConnecting_above (h : Free site ∨ Watched site) :
    Above (UnregisterForConnecting site) =
      Connector.UnregisterForConnecting site.world := by
  rcases h with hfree | hwatched
  · unfold UnregisterForConnecting Connector.UnregisterForConnecting
    rcases hfree.resting.2 with hchannel | hchannel
    · rw [hchannel]
      rfl
    · rw [hchannel]
      rfl
  · rw [unregisterForConnecting_eq hwatched.connecting.2.2 hwatched.isOpen
      hwatched.entry]
    unfold Connector.UnregisterForConnecting
    rw [hwatched.connecting.2.2, hwatched.connecting.2.1]
    rfl

theorem unregisterForConnecting_above_refused
    (hchannel : site.world.connector.socketChannel_ =
      some Channel.New.EnableWriting)
    (hsocket : site.world.connector.socket_ = false)
    (hnone : site.epoll.interests site.fd_ = none) :
    Above (UnregisterForConnecting site) =
      Connector.UnregisterForConnecting site.world := by
  rw [unregisterForConnecting_refused hchannel hnone]
  unfold Connector.UnregisterForConnecting
  rw [hchannel, hsocket]
  rfl

theorem clearConnecting_above
    (hunregister : site.world.connector.connecting_ = true ->
      Above (UnregisterForConnecting site) =
        Connector.UnregisterForConnecting site.world) :
    Above (ClearConnecting site) =
      Connector.ClearConnecting site.world := by
  unfold ClearConnecting Connector.ClearConnecting
  split
  · rename_i hconnecting
    cases site.world.connector.socketChannel_ with
    | none => rfl
    | some channel =>
        apply above_assert
        intro _
        apply above_then (hunregister hconnecting)
        exact fun _ _ => rfl
  · rfl

theorem newChannel_above (site : Site) :
    Above (NewChannel site) = ResetChannel site.world (some Channel.New) :=
  above_lift _

theorem registerForConnecting_above (h : Free site)
    (hsame : site.fd_ = site.sockfd_)
    (hsocket : site.world.connector.socket_ = true)
    (hchannel : site.world.connector.socketChannel_ = some Channel.New) :
    Above (RegisterForConnecting site) =
      Connector.RegisterForConnecting site.world := by
  have howned : site.Socket = some site.fd_ := by
    rw [Socket, if_pos hsocket, hsame]
  rw [registerForConnecting_eq hsocket hchannel (h.opened _ howned)
    (h.unregistered _ howned)]
  unfold Connector.RegisterForConnecting
  rw [hsocket, hchannel]
  rfl

theorem attempt_above {sockfd : Int} {savedErrno : Nat}
    (h : Free site ∨ Watched site)
    (hfresh : site.epoll.isOpen sockfd = false) :
    Above (Attempt site sockfd savedErrno) =
      Connector.Attempt site.world savedErrno := by
  unfold Attempt Connector.Attempt
  rw [if_pos hfresh]
  apply above_assert
  intro hunregistered
  have hfree : Free site := by
    rcases h with hfree | hwatched
    · exact hfree
    · have hfalse : site.world.connector.Registered = false := hunregistered
      rw [hwatched.registered] at hfalse
      cases hfalse
  have hmeets := newChannel_meets (hfree.resetSocket_some hfresh)
  apply above_then (newChannel_above _)
  intro mid hmid
  rcases hmeets.last mid hmid with ⟨_, hnew, hsame, hconnector⟩
  apply above_then rfl
  intro _ heq
  cases heq
  split
  · apply above_then (registerForConnecting_above hnew hsame ?_ ?_)
    · exact fun _ _ => rfl
    · rw [hconnector]
      rfl
    · rw [hconnector]
  · split
    · exact above_lift _
    · exact above_lift _

theorem handleWrite_above {isError : Nat} {isSelfConnect : Bool}
    (h : Free site ∨ Watched site) :
    Above (HandleWrite site isError isSelfConnect) =
      Connector.HandleWrite site.world isError isSelfConnect := by
  apply above_then (unregisterForConnecting_above h)
  intro mid _
  dsimp only
  split
  · split
    · split
      · exact above_lift _
      · split <;> rfl
    · exact above_lift _
  · rfl

theorem restart_above (h : Free site ∨ Watched site) :
    Above (Restart site) = Connector.Restart site.world := by
  apply above_then rfl
  intro _ heq
  cases heq
  apply above_then
    (clearConnecting_above (fun _ => unregisterForConnecting_above h))
  exact fun _ _ => above_lift _

theorem stopInLoop_above {reused : Bool} (h : Free site ∨ Watched site) :
    Above (StopInLoop site reused) = Connector.StopInLoop site.world := by
  have hworld := socketGone_world site reused
  have hclear : Above (ClearConnecting (SocketGone site reused)) =
      Connector.ClearConnecting (SocketGone site reused).world := by
    apply clearConnecting_above
    intro hconnecting
    rcases h with hfree | hwatched
    · exact unregisterForConnecting_above (Or.inl (hfree.socketGone reused))
    · apply unregisterForConnecting_above_refused
      · rw [hworld]
        exact hwatched.connecting.2.2
      · rw [hworld]
      · rw [socketGone_fd]
        exact (hwatched.epoll_socketGone reused).2
  rw [hworld] at hclear
  apply above_then hclear
  intro mid _
  apply above_then (above_lift _)
  intro mid' _
  apply above_then (above_lift _)
  exact fun _ _ => rfl

theorem stop_above {reused : Bool} (h : Free site ∨ Watched site) :
    Above (Stop site reused) = Connector.Stop site.world := by
  have hset : Free { site with
      world := { site.world with
        connector := { site.world.connector with stop_ := true } } } ∨
      Watched { site with
        world := { site.world with
          connector := { site.world.connector with stop_ := true } } } :=
    state_moved h rfl rfl rfl
  apply above_then (stopInLoop_above hset)
  exact fun _ _ => rfl

theorem runFunctor_above {reused : Bool} (h : Free site ∨ Watched site) :
    Above (RunFunctor site reused) = Connector.RunFunctor site.world := by
  apply above_when
  intro _
  cases hfunctors : site.world.functors with
  | nil => rfl
  | cons functor rest =>
      cases functor with
      | startInLoop => exact above_lift _
      | stopInLoop => exact stopInLoop_above (state_moved h rfl rfl rfl)

theorem handleEvent_above {revents : BitVec 32} {isError : Nat}
    {isSelfConnect : Bool} (h : Free site ∨ Watched site) :
    Above (HandleEvent site revents isError isSelfConnect) =
      Connector.HandleEvent site.world revents isError isSelfConnect := by
  unfold HandleEvent Connector.HandleEvent
  cases site.world.dispatch with
  | idle => rfl
  | handling alive => rfl
  | ahead alive =>
      cases alive with
      | false => rfl
      | true =>
          dsimp only
          split
          · exact handleWrite_above (state_moved h rfl rfl rfl)
          · rfl

/-!
# Steps and runs
-/

section Clock

variable {clock : Nat -> Timestamp}

def Fresh (site : Site) : Input -> Prop
  | Input.connector (Connector.Input.attempt _) kernel =>
      site.epoll.isOpen kernel.sockfd = false
  | _ => True

theorem act_above {i : Connector.Input} {kernel : Kernel} (h : Held site)
    (hfresh : Fresh site (Input.connector i kernel)) :
    Above (Act clock site i kernel) =
      Connector.Perform clock site.world i := by
  by_cases hapart : Apart i = true
  · rw [act_apart hapart]
    exact above_lift _
  · cases i with
    | restart => exact above_when (fun _ => restart_above h.state)
    | stop => exact above_when (fun _ => stop_above h.state)
    | runFunctor => exact runFunctor_above h.state
    | attempt savedErrno =>
        exact above_when (fun _ => attempt_above h.state hfresh)
    | newConnection => exact above_lift _
    | handleEvent revents isError isSelfConnect =>
        exact above_when (fun _ => handleEvent_above h.state)
    | _ => exact absurd rfl hapart

/-- For the connector its destruction is a last `Stop`. -/
def Input.OfConnector : Input -> Option Connector.Input
  | Input.connector i _ => some i
  | Input.destroy _ => some Connector.Input.stop
  | _ => none

theorem emptied_world (h : Emptied site) :
    { site.world with
      connector := { site.world.connector with
        socket_ := false
        socketChannel_ := none } } = site.world := by
  rw [← h.socket, ← h.channel]

theorem destroy_above {reused : Bool} (h : Held site) :
    Above (Destroy site reused) = Connector.Stop site.world := by
  have hlast : Above (Destroy site reused) =
      Then (Connector.Stop site.world)
        (fun world => Except.ok (world, [])) := by
    apply above_then (stop_above h.state)
    intro mid hmid
    have hemptied : Emptied mid := by
      rcases h.state with hfree | hwatched
      · exact (stop_meets hfree).last mid hmid
      · rw [stop_refused hwatched] at hmid
        cases hmid
    rw [ResetChannel, hemptied.channel]
    show Except.ok ({ mid.world with
      connector := { mid.world.connector with
        socket_ := false
        socketChannel_ := none } }, []) = _
    rw [emptied_world hemptied]
  rw [hlast]
  rcases Connector.Stop site.world with failure | ⟨world, es⟩
  · rfl
  · simp [Then]

theorem when_eq_ok {p : Prop} [Decidable p] {flow : Flow Site Event}
    {es : List Event} (h : When p flow = (Except.ok next, es)) :
    p ∧ flow = (Except.ok next, es) := by
  unfold When at h
  split at h
  · exact ⟨‹p›, h⟩
  · cases h

theorem step_above {i : Input} {es : List Event} (h : Held site)
    (hstep : (SiteMachine clock).Step site i = some (next, es)) :
    match i.OfConnector with
    | none => next.world = site.world ∧ es = []
    | some j => (ConnectorMachine clock).Step site.world j =
        some (next.world, es.filterMap Event.OfConnector) := by
  have hperform := perform_of_step hstep
  cases i with
  | connector i kernel =>
      have hact := (when_eq_ok hperform).2
      have hfresh : Fresh site (Input.connector i kernel) := by
        unfold Fresh
        split
        · rename_i heq
          cases heq
          have hattempt := (when_eq_ok hact).2
          unfold Attempt at hattempt
          split at hattempt
          · assumption
          · cases hattempt
        · trivial
      have habove : Above (Act clock site i kernel) =
          Connector.Perform clock site.world i := act_above h hfresh
      rw [hact] at habove
      exact answer_eq_some.mpr habove.symm
  | destroy kernel =>
      rcases when_eq_ok hperform with ⟨⟨_, houtside⟩, hdestroy⟩
      have habove : Above (Destroy site kernel.reused) =
          Connector.Stop site.world := destroy_above h
      rw [hdestroy] at habove
      apply answer_eq_some.mpr
      show Connector.When (site.world.control = Control.outside) _ = _
      rw [Connector.When, if_pos houtside]
      exact habove.symm
  | opened fd =>
      have hopened := (when_eq_ok hperform).2
      cases hopened
      exact ⟨rfl, rfl⟩
  | closed fd =>
      have hclosed := (when_eq_ok hperform).2
      cases hclosed
      exact ⟨rfl, rfl⟩
  | registered fd events =>
      have hregistered := (when_eq_ok hperform).2
      cases hregistered
      exact ⟨rfl, rfl⟩

/-- Every run with the descriptors is one of the connector without them. -/
theorem run_above {inputs : List Input} {tr : List Event} (h : Held site)
    (hrun : (SiteMachine clock).Run site inputs = some (next, tr)) :
    (ConnectorMachine clock).Run site.world
        (inputs.filterMap Input.OfConnector) =
      some (next.world, tr.filterMap Event.OfConnector) := by
  induction inputs generalizing site tr with
  | nil =>
      cases hrun
      rfl
  | cons i rest ih =>
      rcases Machine.run_cons_eq_some.mp hrun with
        ⟨mid, es, tail, hstep, hrest, rfl⟩
      have hlater := ih (h.step hstep) hrest
      have habove := step_above h hstep
      rw [List.filterMap_append]
      cases hinput : i.OfConnector with
      | none =>
          rw [hinput] at habove
          rcases habove with ⟨hworld, rfl⟩
          rw [List.filterMap_cons_none hinput, ← hworld]
          exact hlater
      | some j =>
          rw [hinput] at habove
          rw [List.filterMap_cons_some hinput]
          exact Machine.run_cons_eq_some.mpr
            ⟨mid.world, _, _, habove, hlater, rfl⟩

end Clock
end Site
end Connector
end Net
end Wethands
