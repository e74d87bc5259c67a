import Wethands.Net.Connector.Dispatch
import Wethands.Net.Ownership.Dispatch

/-!
# Coming back to a channel

An owner on another loop keeps the connection until the functors of this loop
run.  An owner on the same loop lets go while the event is being handled, and
then it is for user code to hold on.
-/

namespace Wethands
namespace Net

open Foundation Utils Reactor

namespace Ownership

open TcpConnection (World Functor Frame Caller Callback CloseCallback States
  ReadResult WriteResult Api RemoteApi)

variable {ThreadId : Type} {owned next : Owned ThreadId}

def HolderQueued (owned : Owned ThreadId) : Prop :=
  exists functor, functor ∈ owned.world.pendingFunctors_ ∧
    Holds functor = true

instance (owned : Owned ThreadId) : Decidable (HolderQueued owned) :=
  decidable_of_iff (owned.world.pendingFunctors_.any Holds = true)
    (by simp [HolderQueued])

def HeldWithout (owned : Owned ThreadId) : Input ThreadId -> Prop
  | Input.returns =>
      1 < owned.world.stack.length ∨ owned.users ≠ [] ∨ HolderQueued owned
  | Input.drop _ =>
      owned.world.stack ≠ [] ∨ 1 < owned.users.length ∨ HolderQueued owned
  | _ => True

instance (owned : Owned ThreadId) (i : Input ThreadId) :
    Decidable (HeldWithout owned i) := by
  apply Input.casesOn (motive := fun i => Decidable (HeldWithout owned i)) i
  all_goals intros; dsimp only [HeldWithout]; infer_instance

/--
The close notice has made the owner on the same loop let go, and the event is
still being handled.
-/
def LetGo (owned : Owned ThreadId) : Prop :=
  owned.dispatch.Handling = true ∧
    owned.world.conn.closeCallback_ = CloseCallback.sameLoop ∧
    owned.listed = false

instance (owned : Owned ThreadId) : Decidable (LetGo owned) :=
  inferInstanceAs (Decidable (_ ∧ _ ∧ _))

def Retained (owned : Owned ThreadId) (i : Input ThreadId) : Prop :=
  LetGo owned -> HeldWithout owned i

instance (owned : Owned ThreadId) (i : Input ThreadId) :
    Decidable (Retained owned i) :=
  inferInstanceAs (Decidable (_ -> _))

structure Handled (owned : Owned ThreadId) : Prop where
  alive : owned.dispatch.Handling = true -> 0 < References owned
  registered :
    owned.world.conn.closeCallback_ = CloseCallback.otherLoop ->
      owned.dispatch ≠ Dispatch.idle -> Registered owned

theorem handled_init (closeCallback : CloseCallback) :
    Handled (Init ThreadId closeCallback) where
  alive := by simp [Init, Dispatch.Handling]
  registered := by simp [Init]

theorem one_le_holders (h : HolderQueued owned) :
    1 ≤ owned.world.pendingFunctors_.countP Holds :=
  List.countP_pos_iff.mpr h

theorem busy_of_handling (h : owned.dispatch.Handling = true) :
    owned.dispatch ≠ Dispatch.idle := by
  intro hidle
  rw [hidle] at h
  cases h

section Threads

variable [DecidableEq ThreadId] {tr : List Event}

theorem released_lt (hsound : Sound owned tr) (h : Handled owned)
    (hhandling : owned.dispatch.Handling = true)
    (hsame : owned.world.conn.closeCallback_ = CloseCallback.sameLoop)
    {i : Input ThreadId} (hretained : Retained owned i) :
    Yields (Act owned i) (fun _ _ => Released owned i < References owned) := by
  have halive := h.alive hhandling
  have hheld : owned.listed = true ∨ HeldWithout owned i := by
    cases hlisted : owned.listed with
    | true => exact Or.inl rfl
    | false => exact Or.inr (hretained ⟨hhandling, hsame, hlisted⟩)
  cases i with
  | returns =>
      refine yields_return (fun frame rest hstack next es _ => ?_)
      simp only [Released, References, hstack, List.length_cons]
      rcases hheld with hlisted | hlong | husers | hqueued
      · simp only [hlisted, Bool.toNat_true]
        omega
      · rw [hstack, List.length_cons] at hlong
        omega
      · have hlength := List.length_pos_iff.mpr husers
        omega
      · have hcount := one_le_holders hqueued
        omega
  | drop tid =>
      refine yields_when (fun hdrop => yields_ok.mpr ?_)
      have hlength := List.length_pos_of_mem hdrop.1
      simp only [Released, References]
      rcases hheld with hlisted | hstack | husers | hqueued
      · simp only [hlisted, Bool.toNat_true]
        omega
      · have hframes := List.length_pos_iff.mpr hstack
        omega
      · omega
      · have hcount := one_le_holders hqueued
        omega
  | drained =>
      have hdrain := hsound.exclusive (busy_of_handling hhandling)
      refine yields_when (fun _ => yields_drained (fun ran hsome => ?_))
      rw [hdrain] at hsome
      cases hsome
  | serverDrained =>
      refine yields_when (fun hserves => ?_)
      have hserved := (hsound.unasked hsame).2
      omega
  | _ => exact fun _ _ _ => halive

theorem act_alive (hsound : Sound owned tr) (h : Handled owned)
    (hsame : owned.world.conn.closeCallback_ = CloseCallback.sameLoop)
    {i : Input ThreadId} (hretained : Retained owned i) :
    Yields (Act owned i) (fun next _ =>
      next.dispatch.Handling = true -> 0 < References next) := by
  intro next es hact hnext
  have hcounted := (act_change hsound.tracked i next es hact).counted
  by_cases hhandling : owned.dispatch.Handling = true
  · have hlt := released_lt hsound h hhandling hsame hretained next es hact
    omega
  · have hmoved := act_dispatch owned i next es hact
    cases i with
    | handleEvent read write =>
        have halive := hmoved.1
        simp only [Released] at hcounted
        omega
    | poll revents =>
        rw [hmoved.2.1] at hnext
        cases hnext
    | resume read write => exact absurd hmoved.1 hhandling
    | _ =>
        have hsame : next.dispatch = owned.dispatch := hmoved
        rw [hsame] at hnext
        exact absurd hnext hhandling

theorem act_polled (hsound : Sound owned tr) (h : Handled owned)
    (hother : owned.world.conn.closeCallback_ = CloseCallback.otherLoop)
    (i : Input ThreadId) :
    Yields (Act owned i) (fun next _ =>
      next.dispatch ≠ Dispatch.idle -> Registered next) := by
  intro next es hact hbusy
  by_cases hidle : owned.dispatch = Dispatch.idle
  · have hmoved := act_dispatch owned i next es hact
    cases i with
    | poll revents =>
        rw [Registered, hmoved.2.2.2.2]
        exact hmoved.2.2.1
    | handleEvent read write =>
        rcases hmoved.2 with ⟨revents, hahead, _⟩
        rw [hidle] at hahead
        cases hahead
    | resume read write =>
        have hhandling := hmoved.1
        rw [hidle] at hhandling
        cases hhandling
    | _ =>
        have hsame : next.dispatch = owned.dispatch := hmoved
        exact absurd (hsame.trans hidle) hbusy
  · refine act_registered (h.registered hother hidle)
      (hsound.exclusive hidle) ?_ next es hact
    intro hsame
    rw [hother] at hsame
    cases hsame

theorem perform_owner (htracked : Tracked owned) (i : Input ThreadId) :
    Yields (Perform owned i) (fun next _ =>
      next.world.conn.closeCallback_ = owned.world.conn.closeCallback_) :=
  perform_of_act ((act_change htracked i).mono (fun _ _ h => h.owner))

theorem perform_handled (hsound : Sound owned tr) (h : Handled owned)
    {i : Input ThreadId} (hretained : Retained owned i) :
    Yields (Perform owned i) (fun next _ => Handled next) := by
  intro next es hperform
  have howner := perform_owner hsound.tracked i next es hperform
  cases hcallback : owned.world.conn.closeCallback_ with
  | sameLoop =>
      constructor
      · exact perform_of_act (act_alive hsound h hcallback hretained)
          next es hperform
      · intro hother
        rw [howner, hcallback] at hother
        cases hother
  | otherLoop =>
      have hpolled := perform_of_act (act_polled hsound h hcallback i)
        next es hperform
      refine ⟨fun hhandling => ?_, fun _ => hpolled⟩
      have hregistered := hpolled (busy_of_handling hhandling)
      by_contra hdead
      have hunregistered :=
        (perform_sound hsound i next es hperform).unregistered (by omega)
      rw [Registered, hunregistered] at hregistered
      cases hregistered

end Threads

/--
A channel is still there when control comes back to its `HandleEvent`.  For a
connection whose owner lets go on the same loop, this is when something else
holds it until then; for a connector, when its callback does not call it.
-/
theorem channel_outlives_handleEvent [DecidableEq ThreadId]
    {closeCallback : CloseCallback} {inputs : List (Input ThreadId)}
    {tr : List Event}
    (hrun : (OwnedMachine ThreadId).Run (Init ThreadId closeCallback) inputs =
      some (owned, tr))
    (hguard : (OwnedMachine ThreadId).Guarded Retained
      (Init ThreadId closeCallback) inputs)
    {clock : Nat -> Timestamp} {newConnectionCallback : Bool}
    {connectorInputs : List Connector.Input} {world : Connector.World}
    {connectorTr : List Connector.Event}
    (hconnector : (Connector.ConnectorMachine clock).Run
      (Connector.Init newConnectionCallback) connectorInputs =
        some (world, connectorTr))
    (hconnectorGuard : (Connector.ConnectorMachine clock).Guarded
      Connector.LeftAlone (Connector.Init newConnectionCallback)
      connectorInputs) :
    (owned.dispatch.Handling = true ->
      0 < References owned ∧ Event.destroyed ∉ tr) ∧
    forall alive, Connector.Event.resumed alive ∈ connectorTr ->
      alive = true := by
  refine ⟨?_, Connector.resumed_alive clock hconnector hconnectorGuard⟩
  have hlast := Machine.run_invariant_of_guard
    (I := fun owned tr => Sound owned tr ∧ Handled owned) (p := [])
    (fun s tr i t es hinv hretained hstep =>
      ⟨perform_sound hinv.1 i t es (answer_eq_some.mp hstep),
        perform_handled hinv.1 hinv.2 hretained t es
          (answer_eq_some.mp hstep)⟩)
    ⟨sound_init closeCallback, handled_init closeCallback⟩ hguard hrun
  rw [List.nil_append] at hlast
  rcases hlast with ⟨hsound, hhandled⟩
  intro hhandling
  have halive := hhandled.alive hhandling
  refine ⟨halive, fun hdestroyed => ?_⟩
  have hdead := hsound.destroyed.mp hdestroyed
  omega

def StartAndEnd : List Event :=
  [Event.executed Functor.connectionEstablished,
    Event.conn (TcpConnection.Event.stored States.kConnecting
      States.kConnected),
    Event.conn (TcpConnection.Event.called
      (Callback.connection States.kConnected)),
    Event.conn TcpConnection.Event.handleClose,
    Event.conn (TcpConnection.Event.stored States.kConnected
      States.kDisconnected),
    Event.conn (TcpConnection.Event.called Callback.close),
    Event.conn (TcpConnection.Event.called
      (Callback.connection States.kDisconnected))]

/-- User code keeps a pointer, and the new connection is just taken over. -/
theorem channel_outlives_handleEvent_of_keep :
    exists owned tr world connectorTr,
      (OwnedMachine Unit).Run (Init Unit CloseCallback.sameLoop)
        [Input.runFunctor (WriteResult.wrote 0), Input.keep (),
          Input.returns, Input.drained, Input.poll Channel.EPOLLIN,
          Input.handleEvent (ReadResult.received []) (WriteResult.wrote 0),
          Input.returns] = some (owned, tr) ∧
      (Connector.ConnectorMachine (fun _ => 0)).Run (Connector.Init true)
        [Connector.Input.start,
          Connector.Input.attempt Connector.EINPROGRESS,
          Connector.Input.poll,
          Connector.Input.handleEvent Channel.EPOLLOUT 0 false,
          Connector.Input.newConnection, Connector.Input.resume] =
        some (world, connectorTr) ∧
      owned.dispatch.Handling = true ∧ owned.listed = false ∧
      0 < References owned ∧
      forall alive, Connector.Event.resumed alive ∈ connectorTr ->
        alive = true := by
  have heval : ((OwnedMachine Unit).Run (Init Unit CloseCallback.sameLoop)
      [Input.runFunctor (WriteResult.wrote 0), Input.keep (),
        Input.returns, Input.drained, Input.poll Channel.EPOLLIN,
        Input.handleEvent (ReadResult.received []) (WriteResult.wrote 0),
        Input.returns]).map
      (fun last => ((last.1.dispatch.Handling, last.1.listed), last.2)) =
      some ((true, false), StartAndEnd) := by
    decide +kernel
  rcases (OwnedMachine Unit).exists_run
    (fun owned => (owned.dispatch.Handling, owned.listed)) heval with
    ⟨owned, hrun, hlast⟩
  rcases Prod.mk.inj hlast with ⟨hhandling, hlisted⟩
  have hconnectorEval : ((Connector.ConnectorMachine (fun _ => 0)).Run
      (Connector.Init true) [Connector.Input.start,
        Connector.Input.attempt Connector.EINPROGRESS,
        Connector.Input.poll,
        Connector.Input.handleEvent Channel.EPOLLOUT 0 false,
        Connector.Input.newConnection, Connector.Input.resume]).map
      (fun last => (last.1.dispatch, last.2)) =
      some (Connector.Dispatch.idle, [Connector.Event.connect,
        Connector.Event.newConnection, Connector.Event.resumed true]) := by
    decide +kernel
  rcases (Connector.ConnectorMachine (fun _ => 0)).exists_run
    (fun world => world.dispatch) hconnectorEval with
    ⟨world, hconnector, _⟩
  have houtlives := channel_outlives_handleEvent hrun (by decide +kernel)
    hconnector (by decide +kernel)
  exact ⟨owned, _, world, _, hrun, hconnector, hhandling, hlisted,
    (houtlives.1 hhandling).1, houtlives.2⟩

/--
Nobody else holds a connection that its peer closes; and a connector is
restarted by the callback of a new connection.
-/
theorem channel_destroyed_in_handleEvent :
    (exists inputs owned tr,
      (OwnedMachine Unit).Run (Init Unit CloseCallback.sameLoop) inputs =
        some (owned, tr) ∧
      owned.dispatch.Handling = true ∧ Event.destroyed ∈ tr ∧
      Perform owned (Input.resume ReadResult.failed (WriteResult.wrote 0)) =
        Except.error Failure.danglingPointer) ∧
    exists inputs world tr,
      (Connector.ConnectorMachine (fun _ => 0)).Run (Connector.Init true)
        inputs = some (world, tr) ∧
      Connector.Event.resumed false ∈ tr := by
  constructor
  · have heval : ((OwnedMachine Unit).Run (Init Unit CloseCallback.sameLoop)
        [Input.runFunctor (WriteResult.wrote 0), Input.returns,
          Input.drained, Input.poll Channel.EPOLLIN,
          Input.handleEvent (ReadResult.received []) (WriteResult.wrote 0),
          Input.returns]).map
        (fun last => ((last.1.dispatch, last.1.world.stack,
          References last.1), last.2)) =
        some ((Dispatch.handling Channel.EPOLLIN
          [Branch.write, Branch.error, Branch.close], [], 0),
          StartAndEnd ++ [Event.destroyed]) := by
      decide +kernel
    rcases (OwnedMachine Unit).exists_run (fun owned =>
      (owned.dispatch, owned.world.stack, References owned)) heval with
      ⟨owned, hrun, hlast⟩
    simp only [Prod.mk.injEq] at hlast
    rcases hlast with ⟨hdispatch, hstack, hdead⟩
    refine ⟨_, owned, _, hrun, by simp [hdispatch, Dispatch.Handling],
      by simp, ?_⟩
    simp only [Perform, Act, When, if_pos hstack, Resume, hdispatch, Alive,
      hdead]
    rfl
  · have heval : ((Connector.ConnectorMachine (fun _ => 0)).Run
        (Connector.Init true) [Connector.Input.start,
          Connector.Input.attempt Connector.EINPROGRESS,
          Connector.Input.poll,
          Connector.Input.handleEvent Channel.EPOLLOUT 0 false,
          Connector.Input.newConnection, Connector.Input.restart,
          Connector.Input.startInLoop,
          Connector.Input.attempt Connector.EINPROGRESS,
          Connector.Input.resume]).map
        (fun last => (last.1.dispatch, last.2)) =
        some (Connector.Dispatch.idle, [Connector.Event.connect,
          Connector.Event.newConnection, Connector.Event.restart,
          Connector.Event.connect, Connector.Event.resumed false]) := by
      decide +kernel
    rcases (Connector.ConnectorMachine (fun _ => 0)).exists_run
      (fun world => world.dispatch) heval with ⟨world, hrun, _⟩
    exact ⟨_, world, _, hrun, by decide⟩

end Ownership
end Net
end Wethands
