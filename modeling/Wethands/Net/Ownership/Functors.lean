import Wethands.Net.Ownership.References

/-!
# Functors and the life of their connection

A functor that was bound with a `TcpConnectionPtr` keeps the connection, so only
a `SendInLoop` can be left when the last reference goes.
-/

namespace Wethands
namespace Net

open Foundation Reactor

namespace Ownership

open TcpConnection (World Functor Frame Caller Callback CloseCallback States
  ReadResult WriteResult Api RemoteApi)

variable {ThreadId : Type} {owned : Owned ThreadId}

def SendQueued (owned : Owned ThreadId) : Prop :=
  exists functor, functor ∈ owned.world.pendingFunctors_ ∧
    Holds functor = false

instance (owned : Owned ThreadId) : Decidable (SendQueued owned) :=
  decidable_of_iff
    (owned.world.pendingFunctors_.any (fun functor => !Holds functor) = true)
    (by simp [SendQueued])

def GivesUp (owned : Owned ThreadId) (i : Input ThreadId) : Prop :=
  0 < References owned ∧ References owned ≤ Released owned i

instance (owned : Owned ThreadId) (i : Input ThreadId) :
    Decidable (GivesUp owned i) :=
  inferInstanceAs (Decidable (_ ∧ _))

/-- The last reference only goes while no `SendInLoop` is queued. -/
def SendsDone (owned : Owned ThreadId) (i : Input ThreadId) : Prop :=
  GivesUp owned i -> ¬SendQueued owned

instance (owned : Owned ThreadId) (i : Input ThreadId) :
    Decidable (SendsDone owned i) :=
  inferInstanceAs (Decidable (_ -> _))

def Kept (owned : Owned ThreadId) : Prop :=
  References owned = 0 -> owned.world.pendingFunctors_ = []

theorem handleWriteCompleted_world (world : World ThreadId) :
    Yields (TcpConnection.HandleWriteCompleted world)
      (fun next _ => next = world) := by
  unfold TcpConnection.HandleWriteCompleted
  split
  · unfold TcpConnection.ShutdownInLoop
    split <;> exact yields_ok.mpr rfl
  · exact yields_ok.mpr rfl

theorem return_functors (world : World ThreadId) :
    Yields (TcpConnection.Return world)
      (fun next _ => next.pendingFunctors_ = world.pendingFunctors_) := by
  unfold TcpConnection.Return
  split
  · exact yields_error
  · exact yields_ok.mpr rfl
  · refine (handleWriteCompleted_world _).mono ?_
    rintro next _ rfl
    rfl

theorem within_functors {functors : List Functor}
    {call : Call (World ThreadId) TcpConnection.Event}
    (hcall : Yields call (fun next _ => next.pendingFunctors_ = functors)) :
    Yields (Within owned call)
      (fun next _ => next.world.pendingFunctors_ = functors) := by
  unfold Within
  split
  · exact yields_error
  · have hsame := yields_ok.mp hcall
    exact yields_ok.mpr hsame

section Threads

variable [DecidableEq ThreadId]

theorem act_functors {i : Input ThreadId} (h : 0 < Released owned i) :
    Yields (Act owned i) (fun next _ =>
      next.world.pendingFunctors_ = owned.world.pendingFunctors_) := by
  cases i with
  | returns =>
      exact yields_return
        (fun _ _ _ => within_functors (return_functors owned.world))
  | drop tid => exact yields_when (fun _ => yields_ok.mpr rfl)
  | drained =>
      exact yields_when (fun _ => yields_drained (fun _ _ => rfl))
  | serverDrained => exact yields_when (fun _ => yields_ok.mpr rfl)
  | _ => exact absurd h (Nat.lt_irrefl 0)

theorem perform_kept {tr : List Event} {i : Input ThreadId}
    (hsound : Sound owned tr) (h : Kept owned) (hdone : SendsDone owned i) :
    Yields (Perform owned i) (fun next _ => Kept next) := by
  apply perform_of_act
  intro next es hact hnone
  by_cases hdead : References owned = 0
  · have hstays := act_dead hdead hsound.tracked i next es hact
    rw [hstays.1]
    exact h hdead
  · have hcounted := (act_change hsound.tracked i next es hact).counted
    have hempty := hnone
    simp only [References, Nat.add_eq_zero_iff, List.countP_eq_zero]
      at hempty
    rw [act_functors (by omega) next es hact] at hempty ⊢
    have hnot := hdone ⟨by omega, by omega⟩
    refine List.eq_nil_iff_forall_not_mem.mpr (fun functor hmem => hnot ?_)
    exact ⟨functor, hmem,
      Bool.eq_false_iff.mpr (hempty.1.1.1.2 functor hmem)⟩

/--
When the last reference never goes while a `SendInLoop` is queued, a functor
that waits for the loop has its connection.
-/
theorem functors_keep_connection {closeCallback : CloseCallback}
    {inputs : List (Input ThreadId)} {tr : List Event}
    (hrun : (OwnedMachine ThreadId).Run (Init ThreadId closeCallback) inputs =
      some (owned, tr))
    (hguard : (OwnedMachine ThreadId).Guarded SendsDone
      (Init ThreadId closeCallback) inputs) :
    forall functor, functor ∈ owned.world.pendingFunctors_ ->
      0 < References owned ∧ Event.destroyed ∉ tr := by
  have hinit : Kept (Init ThreadId closeCallback) := by
    simp [Kept, References, Init]
  have hlast := Machine.run_invariant_of_guard
    (I := fun owned tr => Sound owned tr ∧ Kept owned) (p := [])
    (fun s tr i t es hinv hdone hstep =>
      ⟨perform_sound hinv.1 i t es (answer_eq_some.mp hstep),
        perform_kept hinv.1 hinv.2 hdone t es (answer_eq_some.mp hstep)⟩)
    ⟨sound_init closeCallback, hinit⟩ hguard hrun
  rw [List.nil_append] at hlast
  rcases hlast with ⟨hsound, hkept⟩
  intro functor hmem
  have hlives : References owned ≠ 0 := by
    intro hdead
    rw [hkept hdead] at hmem
    exact List.not_mem_nil hmem
  exact ⟨by omega, fun hdestroyed => hlives (hsound.destroyed.mp hdestroyed)⟩

end Threads

def Established : List (Input Unit) :=
  [Input.runFunctor (WriteResult.wrote 0), Input.keep (), Input.returns,
    Input.drained]

def PeerCloses : List (Input Unit) :=
  [Input.poll Channel.EPOLLIN,
    Input.handleEvent (ReadResult.received []) (WriteResult.wrote 0),
    Input.returns,
    Input.resume ReadResult.failed (WriteResult.wrote 0),
    Input.resume ReadResult.failed (WriteResult.wrote 0),
    Input.resume ReadResult.failed (WriteResult.wrote 0),
    Input.resume ReadResult.failed (WriteResult.wrote 0)]

def NoticeOfClose : List Event :=
  [Event.conn TcpConnection.Event.handleClose,
    Event.conn (TcpConnection.Event.stored States.kConnected
      States.kDisconnected),
    Event.conn (TcpConnection.Event.called Callback.close),
    Event.conn (TcpConnection.Event.called
      (Callback.connection States.kDisconnected)),
    Event.resumed, Event.resumed, Event.resumed, Event.resumed]

def NoticeOfStart : List Event :=
  [Event.executed Functor.connectionEstablished,
    Event.conn (TcpConnection.Event.stored States.kConnecting
      States.kConnected),
    Event.conn (TcpConnection.Event.called
      (Callback.connection States.kConnected))]

/-- The other thread asks for a stop and lets go at once. -/
theorem functors_keep_connection_of_stopRead :
    exists owned tr,
      (OwnedMachine Unit).Run (Init Unit CloseCallback.sameLoop)
        (Established ++ PeerCloses ++
          [Input.remoteCall () RemoteApi.stopRead, Input.drop ()]) =
        some (owned, tr) ∧
      owned.world.pendingFunctors_ = [Functor.stopReadInLoop] ∧
      owned.users = [] ∧ 0 < References owned ∧ Event.destroyed ∉ tr := by
  have heval : ((OwnedMachine Unit).Run (Init Unit CloseCallback.sameLoop)
      (Established ++ PeerCloses ++
        [Input.remoteCall () RemoteApi.stopRead, Input.drop ()])).map
      (fun last =>
        ((last.1.world.pendingFunctors_, last.1.users), last.2)) =
      some (([Functor.stopReadInLoop], []),
        NoticeOfStart ++ NoticeOfClose) := by
    decide +kernel
  rcases (OwnedMachine Unit).exists_run
    (fun owned => (owned.world.pendingFunctors_, owned.users)) heval with
    ⟨owned, hrun, hlast⟩
  rcases Prod.mk.inj hlast with ⟨hfunctors, husers⟩
  have hkeeps := functors_keep_connection hrun (by decide +kernel)
  exact ⟨owned, _, hrun, hfunctors, husers,
    hkeeps Functor.stopReadInLoop (by simp [hfunctors])⟩

/-- The other thread is in `Send` when the connection is closed. -/
theorem send_outlives_connection :
    exists inputs owned tr,
      (OwnedMachine Unit).Run (Init Unit CloseCallback.sameLoop) inputs =
        some (owned, tr) ∧
      Functor.sendInLoop [1] ∈ owned.world.pendingFunctors_ ∧
      Event.destroyed ∈ tr ∧
      Perform owned (Input.runFunctor (WriteResult.wrote 1)) =
        Except.error Failure.danglingPointer := by
  have heval : ((OwnedMachine Unit).Run (Init Unit CloseCallback.sameLoop)
      (Established ++ [Input.remoteCall () (RemoteApi.send [1])] ++
        PeerCloses ++ [Input.remoteNext (), Input.drop (),
          Input.swap])).map
      (fun last => ((last.1.world.pendingFunctors_, last.1.drain,
        last.1.world.stack, References last.1), last.2)) =
      some (([Functor.sendInLoop [1]], some { left := 1, ran := [] }, [], 0),
        NoticeOfStart ++ NoticeOfClose ++ [Event.destroyed]) := by
    decide +kernel
  rcases (OwnedMachine Unit).exists_run
    (fun owned => (owned.world.pendingFunctors_, owned.drain,
      owned.world.stack, References owned)) heval with ⟨owned, hrun, hlast⟩
  simp only [Prod.mk.injEq] at hlast
  rcases hlast with ⟨hfunctors, hdrain, hstack, hdead⟩
  refine ⟨_, owned, _, hrun, by simp [hfunctors], by simp, ?_⟩
  simp only [Perform, Act, When, if_pos hstack, RunFunctor, hdrain,
    hfunctors, Alive, hdead]
  rfl

end Ownership
end Net
end Wethands
