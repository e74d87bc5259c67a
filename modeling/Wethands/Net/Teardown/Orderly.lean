import Wethands.Net.Teardown.Accounted
import Wethands.Net.Teardown.Model

/-!
# Destroying a server in order

The assertions of `ConnectionDestroyed`, `~TcpConnection` and `~Channel` hold
when the destructor of the server finds only closed connections, no loop leaves
`ConnectionDestroyed` behind, and nobody touches a connection that is closed.
-/

namespace Wethands
namespace Net

open Foundation Reactor

namespace Teardown

open TcpConnection (World Functor Frame Callback CloseCallback States
  ReadResult WriteResult View)
open Ownership (Owned Act References Destructible Within Popped)

variable {ThreadId : Type}

def Proper : Event -> Prop
  | Event.connection _ _ => True
  | Event.connectionDestroyed _ state_ => state_ = States.kDisconnected
  | Event.destroyed _ state_ registeredToPoller =>
      state_ = States.kDisconnected ∧ registeredToPoller = false

def Orderly (server : Server ThreadId) : Input ThreadId -> Prop
  | Input.connection conn input =>
      forall member, member ∈ server.conns[conn]? ->
        ¬Reopens member.owned input ∧ ¬ReadsAgain member.owned input
  | Input.visit conn =>
      forall member, member ∈ server.conns[conn]? ->
        member.owned.world.conn.state_ = States.kDisconnected
  | Input.loopEnds loop_ =>
      forall member, member ∈ server.conns -> member.loop_ = some loop_ ->
        Functor.connectionDestroyed ∉ member.owned.world.pendingFunctors_
  | _ => True

instance (server : Server ThreadId) (i : Input ThreadId) :
    Decidable (Orderly server i) := by
  unfold Orderly
  split <;> infer_instance

/-!
# One connection
-/

structure Sound (member : Member ThreadId) : Prop where
  settled : Settled (View member.owned.world)
  accounted : Accounted member.visited member.owned
  ended : member.ended = true -> Retired member.owned.world

theorem Retired.settled {world : World ThreadId} (h : Retired world) :
    Settled (View world) :=
  settled_of_disconnected h.disconnected

theorem sound_newMember (loop_ : Option Nat) :
    Sound (NewMember ThreadId loop_) where
  settled := by
    rintro (hremovals | hfunctors)
    · cases hremovals
    · simp [NewMember, Ownership.Init, TcpConnection.Init, View] at hfunctors
  accounted := Or.inl ⟨rfl, rfl⟩
  ended := by
    intro hended
    cases hended

theorem Retired.destructible {owned : Owned ThreadId}
    (h : Retired owned.world) : Destructible owned :=
  ⟨h.disconnected, by rw [h.channel]; rfl⟩

theorem proper_destroyed {owned : Owned ThreadId} (conn : Nat)
    (h : Destructible owned) : Proper (DestroyedEvent conn owned) := h

theorem Sound.executes {member : Member ThreadId} (h : Sound member)
    {i : Ownership.Input ThreadId}
    (hexecutes : Executes member.owned i = true) :
    member.owned.world.conn.state_ = States.kDisconnected := by
  unfold Executes at hexecutes
  split at hexecutes
  · have hhead := of_decide_eq_true hexecutes
    exact h.settled (Or.inr (List.mem_of_head? hhead))
  · cases hexecutes

theorem connectionDestroyed_ok {world : World ThreadId}
    (h : world.conn.state_ = States.kDisconnected) :
    exists next es, TcpConnection.ConnectionDestroyed world =
      Except.ok (next, es) := by
  rw [TcpConnection.ConnectionDestroyed, Assert, if_pos h,
    Channel.removeFromPoller_disableAll]
  exact ⟨_, _, rfl⟩

section Threads

variable [DecidableEq ThreadId]

theorem actMember_cases (phase : Phase) (member : Member ThreadId)
    (i : Ownership.Input ThreadId) :
    ActMember phase member i = Act member.owned i ∨
      ActMember phase member i = Except.error Failure.danglingPointer ∨
      ActMember phase member i = Except.error Failure.impossible := by
  unfold ActMember
  split
  · exact Or.inr (Or.inr rfl)
  · split
    · cases phase with
      | serving => exact Or.inl rfl
      | destroyed => exact Or.inr (Or.inl rfl)
      | _ => exact Or.inr (Or.inr rfl)
    · exact Or.inl rfl

theorem act_of_followMember {phase : Phase} {member : Member ThreadId}
    {i : Ownership.Input ThreadId} {next : Owned ThreadId}
    {es : List Ownership.Event}
    (h : FollowMember phase member i = Except.ok (next, es)) :
    Act member.owned i = Except.ok (next, es) := by
  unfold FollowMember at h
  split at h
  · cases h
  · rename_i next' es' hact
    split at h
    · cases h
    · cases h
      rcases actMember_cases phase member i with heq | heq | heq
      · rw [← heq]
        exact hact
      · rw [heq] at hact
        cases hact
      · rw [heq] at hact
        cases hact

theorem act_of_assertion {phase : Phase} {member : Member ThreadId}
    {i : Ownership.Input ThreadId}
    (h : FollowMember phase member i = Except.error Failure.assertion) :
    Act member.owned i = Except.error Failure.assertion := by
  unfold FollowMember at h
  split at h
  · rename_i failure hact
    cases h
    rcases actMember_cases phase member i with heq | heq | heq
    · rw [← heq]
      exact hact
    · rw [heq] at hact
      cases hact
    · rw [heq] at hact
      cases hact
  · split at h <;> cases h

theorem Sound.act {member : Member ThreadId} (h : Sound member)
    {i : Ownership.Input ThreadId} (hreopens : ¬Reopens member.owned i)
    (hagain : ¬ReadsAgain member.owned i) :
    Yields (Act member.owned i) (fun next _ =>
      Sound { member with owned := next }) := by
  intro next es hact
  rcases act_follows hreopens next es hact with ⟨tr, hpath⟩
  refine ⟨settled_path h.settled hpath, ?_, fun hended => ?_⟩
  · exact act_accounted h.accounted hreopens hagain next es hact
  · exact act_rests (h.ended hended) hreopens hagain next es hact

/-!
# The assertions
-/

omit [DecidableEq ThreadId] in
theorem within_assertion {owned : Owned ThreadId}
    {call : Call (World ThreadId) TcpConnection.Event}
    (h : Within owned call = Except.error Failure.assertion) :
    call = Except.error Failure.assertion := by
  unfold Within at h
  split at h
  · cases h
    rfl
  · cases h

omit [DecidableEq ThreadId] in
theorem return_asserts_nothing (world : World ThreadId) :
    TcpConnection.Return world ≠ Except.error Failure.assertion := by
  intro h
  unfold TcpConnection.Return at h
  split at h
  · cases h
  · cases h
  · unfold TcpConnection.HandleWriteCompleted at h
    split at h
    · unfold TcpConnection.ShutdownInLoop at h
      split at h <;> cases h
    · cases h

omit [DecidableEq ThreadId] in
/-- The last callback of a sound connection takes it in the right state. -/
theorem Sound.return {member : Member ThreadId} (h : Sound member) :
    Ownership.Return member.owned ≠ Except.error Failure.assertion := by
  intro hreturn
  unfold Ownership.Return at hreturn
  split at hreturn
  · cases hreturn
  · rename_i frame rest hstack
    dsimp only at hreturn
    split at hreturn
    · rename_i hlast
      have hpopped : Accounted member.visited
          (Popped member.owned rest) := by
        rcases h.accounted with hlisted | hqueued | hretired
        · exact Or.inl hlisted
        · exact Or.inr (Or.inl hqueued)
        · exact Or.inr (Or.inr (hretired.of_conn rfl rfl))
      have hdestructible : Destructible (Popped member.owned rest) :=
        (retired_of_last hpopped hlast.2).destructible
      unfold Popped at hdestructible
      rw [Assert, if_pos hdestructible] at hreturn
      cases hreturn
    · exact return_asserts_nothing _ (within_assertion hreturn)

omit [DecidableEq ThreadId] in
theorem Sound.runFunctor {member : Member ThreadId} (h : Sound member)
    {result : WriteResult}
    (hexecutes : Executes member.owned
      (Ownership.Input.runFunctor result) = true) :
    Ownership.RunFunctor member.owned result ≠
      Except.error Failure.assertion := by
  intro hrun
  have hstate := h.executes hexecutes
  have hhead : member.owned.world.pendingFunctors_.head? =
      some Functor.connectionDestroyed := of_decide_eq_true hexecutes
  unfold Ownership.RunFunctor at hrun
  split at hrun
  · rename_i left ran functor rest hdrain hfunctors
    rw [hfunctors, List.head?_cons, Option.some.injEq] at hhead
    subst hhead
    have htaken : ({ member.owned.world with
        pendingFunctors_ := rest } : World ThreadId).conn.state_ =
          States.kDisconnected := hstate
    rcases connectionDestroyed_ok htaken with ⟨next, es, hcall⟩
    simp only [Ownership.Alive, TcpConnection.RunFunctor, hfunctors, hcall,
      Then, Within] at hrun
    split at hrun <;> cases hrun
  · cases hrun

theorem Sound.asserts {member : Member ThreadId} (h : Sound member)
    {conn : Nat} {i : Ownership.Input ThreadId}
    (hfails : Fails conn member.owned i ≠ []) :
    Act member.owned i ≠ Except.error Failure.assertion := by
  intro hact
  cases i with
  | returns => exact h.return hact
  | runFunctor result =>
      have hexecutes : Executes member.owned
          (Ownership.Input.runFunctor result) = true := by
        by_contra hnot
        exact hfails (if_neg hnot)
      rw [Act, Ownership.When] at hact
      split at hact
      · exact h.runFunctor hexecutes hact
      · cases hact
  | _ => exact hfails rfl

/-!
# The server
-/

structure Intact (server : Server ThreadId) (tr : List Event) : Prop where
  sound : forall member, member ∈ server.conns -> Sound member
  running : server.phase ≠ Phase.aborted
  proper : forall e, e ∈ tr -> Proper e

omit [DecidableEq ThreadId] in
theorem Intact.quiet {server next : Server ThreadId} {tr : List Event}
    (h : Intact server tr)
    (hsound : forall member, member ∈ next.conns -> Sound member)
    (hrunning : next.phase ≠ Phase.aborted) : Intact next (tr ++ []) := by
  rw [List.append_nil]
  exact ⟨hsound, hrunning, h.proper⟩

omit [DecidableEq ThreadId] in
theorem Intact.settle {server next : Server ThreadId} {tr es es' : List Event}
    (h : Intact server tr) {conn : Nat} {before after : Member ThreadId}
    (hafter : Sound after) (hes : forall e, e ∈ es -> Proper e)
    (hsettle : Settle server conn before after es = (next, es')) :
    Intact next (tr ++ es') := by
  have hsound : forall member, member ∈ server.conns.set conn after ->
      Sound member := by
    intro member hmem
    rcases List.mem_or_eq_of_mem_set hmem with hold | rfl
    · exact h.sound member hold
    · exact hafter
  have hproper : forall e, e ∈ tr ++ es -> Proper e := by
    intro e he
    rcases List.mem_append.mp he with hold | hnew
    · exact h.proper e hold
    · exact hes e hnew
  unfold Settle at hsettle
  dsimp only at hsettle
  split at hsettle
  · rename_i hlast
    have hdestructible :=
      (retired_of_last hafter.accounted hlast.2).destructible
    cases hsettle
    refine ⟨hsound, ?_, ?_⟩
    · rw [if_pos hdestructible]
      exact h.running
    · intro e he
      rw [← List.append_assoc] at he
      rcases List.mem_append.mp he with hmem | hmem
      · exact hproper e hmem
      · rw [List.mem_singleton.mp hmem]
        exact proper_destroyed conn hdestructible
  · cases hsettle
    exact ⟨hsound, h.running, hproper⟩

omit [DecidableEq ThreadId] in
theorem proper_map (conn : Nat) (es : List Ownership.Event) :
    forall e, e ∈ es.map (Event.connection conn) -> Proper e := by
  intro e he
  rcases List.mem_map.mp he with ⟨event, _, rfl⟩
  trivial

theorem Sound.calls {member : Member ThreadId} (h : Sound member)
    (conn : Nat) {i : Ownership.Input ThreadId} {next : Owned ThreadId}
    {es : List Ownership.Event}
    (hact : Act member.owned i = Except.ok (next, es)) :
    forall e, e ∈ Calls conn member.owned next i es -> Proper e := by
  intro e he
  unfold Calls at he
  rcases List.mem_append.mp he with hmem | hmem
  · split at hmem
    · rename_i hexecutes
      rw [List.mem_singleton.mp hmem]
      exact h.executes hexecutes
    · cases hmem
  · split at hmem
    · rename_i htold
      rw [List.mem_singleton.mp hmem]
      exact (act_ends htold.2 i next es hact htold.1).disconnected
    · cases hmem

theorem Intact.stepConnection {server next : Server ThreadId}
    {tr es : List Event} (h : Intact server tr) {conn : Nat}
    {i : Ownership.Input ThreadId}
    (horderly : Orderly server (Input.connection conn i))
    (hstep : StepConnection server conn i = some (next, es)) :
    Intact next (tr ++ es) := by
  unfold StepConnection at hstep
  split at hstep
  · cases hstep
  · rename_i member hmember
    have hsound := h.sound member (List.mem_of_getElem? hmember)
    rcases horderly member hmember with ⟨hreopens, hagain⟩
    split at hstep
    · rename_i owned es' hfollow
      have hact := act_of_followMember hfollow
      refine h.settle (hsound.act hreopens hagain owned es' hact) ?_
        (Option.some.inj hstep)
      intro e he
      rcases List.mem_append.mp he with hmem | hmem
      · exact proper_map conn es' e hmem
      · exact hsound.calls conn hact e hmem
    · rename_i hfollow
      have hact := act_of_assertion hfollow
      split at hstep
      · cases hstep
      · rename_i hfails
        exact absurd hact (hsound.asserts (fun hnil => hfails hnil))
    · cases hstep

omit [DecidableEq ThreadId] in
theorem Sound.visited {member : Member ThreadId} (h : Sound member)
    (hclosed : member.owned.world.conn.state_ = States.kDisconnected) :
    exists next es, RunInLoop member = Except.ok (next, es) ∧
      Sound { member with owned := next, visited := true } := by
  unfold RunInLoop
  split
  · rcases connectionDestroyed_ok hclosed with ⟨world, es, hcall⟩
    have hretired := retired_connectionDestroyed _ world es hcall
    rw [hcall, Within]
    refine ⟨_, _, rfl, hretired.settled, Or.inr (Or.inr hretired), ?_⟩
    exact fun _ => hretired
  · refine ⟨_, _, rfl, settled_of_disconnected hclosed, ?_, ?_⟩
    · exact Or.inr (Or.inl (by simp [TcpConnection.QueueInLoop]))
    · exact fun hended => (h.ended hended).of_conn rfl rfl

omit [DecidableEq ThreadId] in
theorem Intact.visit {server next : Server ThreadId} {tr es : List Event}
    (h : Intact server tr) {conn : Nat}
    (horderly : Orderly server (Input.visit conn))
    (hstep : Visit server conn = some (next, es)) :
    Intact next (tr ++ es) := by
  unfold Visit at hstep
  split at hstep
  · cases hstep
  · rename_i member hmember
    have hclosed := horderly member hmember
    rcases (h.sound member (List.mem_of_getElem? hmember)).visited hclosed
      with ⟨owned, es', hrun, hsound⟩
    split at hstep
    · simp only [hrun] at hstep
      refine h.settle hsound ?_ (Option.some.inj hstep)
      intro e he
      rcases List.mem_append.mp he with hmem | hmem
      · split at hmem
        · rw [List.mem_singleton.mp hmem]
          exact hclosed
        · cases hmem
      · exact proper_map conn es' e hmem
    · cases hstep

omit [DecidableEq ThreadId] in
theorem Intact.release {server next : Server ThreadId} {tr es : List Event}
    (h : Intact server tr) {conn : Nat}
    (hstep : Release server conn = some (next, es)) :
    Intact next (tr ++ es) := by
  unfold Release at hstep
  split at hstep
  · cases hstep
  · rename_i member hmember
    have hmem := List.mem_of_getElem? hmember
    have hsound := h.sound member hmem
    split at hstep
    · rename_i hrelease
      have hvisited := hrelease.2.2 member hmem hrelease.2.1
      have hreleased : Sound { member with
          owned := { member.owned with listed := false } } := by
        refine ⟨hsound.settled, Or.inr ?_, hsound.ended⟩
        rcases hsound.accounted with ⟨_, hnot⟩ | hrest
        · rw [hvisited] at hnot
          cases hnot
        · exact hrest
      exact h.settle hreleased (by simp) (Option.some.inj hstep)
    · cases hstep

omit [DecidableEq ThreadId] in
/-- A loop that leaves no `ConnectionDestroyed` behind has done its work. -/
theorem Intact.loopEnds {server next : Server ThreadId} {tr es : List Event}
    (h : Intact server tr) {loop_ : Nat}
    (horderly : Orderly server (Input.loopEnds loop_))
    (hstep : LoopEnds server loop_ = some (next, es)) :
    Intact next (tr ++ es) := by
  unfold LoopEnds at hstep
  split at hstep
  · rename_i hends
    cases hstep
    refine h.quiet (fun member hmem => ?_) h.running
    rcases List.mem_map.mp hmem with ⟨before, hbefore, rfl⟩
    have hsound := h.sound before hbefore
    split
    · rename_i hloop
      refine ⟨hsound.settled, hsound.accounted, fun _ => ?_⟩
      rcases hsound.accounted with ⟨hlisted, _⟩ | hqueued | hretired
      · rw [hends.2.1 before hbefore] at hlisted
        cases hlisted
      · exact absurd hqueued (horderly before hbefore hloop)
      · exact hretired
    · exact hsound
  · cases hstep

omit [DecidableEq ThreadId] in
theorem Intact.discard {server next : Server ThreadId} {tr es : List Event}
    (h : Intact server tr) {conn : Nat}
    (hstep : Discard server conn = some (next, es)) :
    Intact next (tr ++ es) := by
  unfold Discard at hstep
  split at hstep
  · cases hstep
  · rename_i member hmember
    have hsound := h.sound member (List.mem_of_getElem? hmember)
    split at hstep
    · rename_i hended
      have hretired : Retired { member.owned.world with
          pendingFunctors_ := [] } := (hsound.ended hended).of_conn rfl rfl
      have hdiscarded : Sound { member with
          owned := { member.owned with
            world := { member.owned.world with pendingFunctors_ := [] } } } :=
        ⟨hretired.settled, Or.inr (Or.inr hretired), fun _ => hretired⟩
      exact h.settle hdiscarded (by simp) (Option.some.inj hstep)
    · cases hstep

theorem Intact.perform {server next : Server ThreadId} {tr es : List Event}
    (h : Intact server tr) {i : Input ThreadId} (horderly : Orderly server i)
    (hstep : Perform server i = some (next, es)) :
    Intact next (tr ++ es) := by
  cases i with
  | newConnection loop_ =>
      rw [Perform, NewConnection] at hstep
      split at hstep
      · cases hstep
        refine h.quiet (fun member hmem => ?_) h.running
        rcases List.mem_append.mp hmem with hold | hnew
        · exact h.sound member hold
        · rw [List.mem_singleton.mp hnew]
          exact sound_newMember loop_
      · cases hstep
  | connection conn input => exact h.stepConnection horderly hstep
  | destroy =>
      rw [Perform, Destroy] at hstep
      split at hstep
      · cases hstep
        exact h.quiet h.sound (by simp)
      · cases hstep
  | visit conn => exact h.visit horderly hstep
  | release conn => exact h.release hstep
  | leave =>
      rw [Perform, Leave] at hstep
      split at hstep
      · cases hstep
        exact h.quiet h.sound (by simp)
      · cases hstep
  | loopEnds loop_ => exact h.loopEnds horderly hstep
  | discard conn => exact h.discard hstep

/--
In an orderly run `ConnectionDestroyed` is only called for connections that are
`kDisconnected`, and those that come to their end are so and are unregistered.
-/
theorem destroyed_properly {inputs : List (Input ThreadId)}
    {server : Server ThreadId} {tr : List Event}
    (hrun : (TeardownMachine ThreadId).Run (Init ThreadId) inputs =
      some (server, tr))
    (hguard : (TeardownMachine ThreadId).Guarded Orderly (Init ThreadId)
      inputs) :
    (forall e, e ∈ tr -> Proper e) ∧ server.phase ≠ Phase.aborted := by
  have hinit : Intact (Init ThreadId) [] :=
    ⟨by simp [Init], by simp [Init], by simp⟩
  have hlast : Intact server ([] ++ tr) :=
    Machine.run_invariant_of_guard (I := Intact)
      (fun server tr i next es hinv horderly hstep => by
        have hperform : Perform server i = some (next, es) := by
          have hwhole : (if server.phase = Phase.aborted then none
              else Perform server i) = some (next, es) := hstep
          rwa [if_neg hinv.running] at hwhole
        exact hinv.perform horderly hperform)
      hinit hguard hrun
  exact ⟨hlast.proper, hlast.running⟩

end Threads

/-!
# Two runs

The peer of a connection on a loop of the pool closes, the server removes the
connection and is destroyed, and the loop still runs `ConnectionDestroyed`.
And a server is destroyed with a connection that is open.
-/

def RemoteConnectionEnds : List (Input Unit) :=
  [Input.newConnection (some 0)] ++
    [Ownership.Input.swap,
      Ownership.Input.runFunctor (WriteResult.wrote 0),
      Ownership.Input.returns, Ownership.Input.drained,
      Ownership.Input.poll Channel.EPOLLIN,
      Ownership.Input.handleEvent (ReadResult.received [])
        (WriteResult.wrote 0),
      Ownership.Input.resume ReadResult.failed (WriteResult.wrote 0),
      Ownership.Input.resume ReadResult.failed (WriteResult.wrote 0),
      Ownership.Input.resume ReadResult.failed (WriteResult.wrote 0),
      Ownership.Input.resume ReadResult.failed (WriteResult.wrote 0),
      Ownership.Input.removeConnectionInLoop,
      Ownership.Input.serverDrained].map (Input.connection 0) ++
    [Input.destroy] ++
    [Ownership.Input.swap,
      Ownership.Input.runFunctor (WriteResult.wrote 0),
      Ownership.Input.returns,
      Ownership.Input.drained].map (Input.connection 0) ++
    [Input.loopEnds 0, Input.leave]

def RemoteConnectionTrace : List Event :=
  [Ownership.Event.executed Functor.connectionEstablished,
    Ownership.Event.conn (TcpConnection.Event.stored States.kConnecting
      States.kConnected),
    Ownership.Event.conn (TcpConnection.Event.called
      (Callback.connection States.kConnected)),
    Ownership.Event.conn TcpConnection.Event.handleClose,
    Ownership.Event.conn (TcpConnection.Event.stored States.kConnected
      States.kDisconnected),
    Ownership.Event.conn (TcpConnection.Event.called Callback.close),
    Ownership.Event.resumed, Ownership.Event.resumed,
    Ownership.Event.resumed, Ownership.Event.resumed,
    Ownership.Event.executed Functor.connectionDestroyed,
    Ownership.Event.conn (TcpConnection.Event.called
      (Callback.connection States.kDisconnected))].map (Event.connection 0) ++
    [Event.connectionDestroyed 0 States.kDisconnected,
      Event.destroyed 0 States.kDisconnected false]

theorem destroyed_properly_of_remove :
    exists server,
      (TeardownMachine Unit).Run (Init Unit) RemoteConnectionEnds =
        some (server, RemoteConnectionTrace) ∧
      (TeardownMachine Unit).Guarded Orderly (Init Unit)
        RemoteConnectionEnds ∧
      (forall e, e ∈ RemoteConnectionTrace -> Proper e) ∧
      server.phase ≠ Phase.aborted := by
  have heval : ((TeardownMachine Unit).Run (Init Unit)
      RemoteConnectionEnds).map (fun last => (last.1.phase, last.2)) =
      some (Phase.destroyed, RemoteConnectionTrace) := by
    decide +kernel
  rcases (TeardownMachine Unit).exists_run (fun server => server.phase)
    heval with ⟨server, hrun, _⟩
  have hguard : (TeardownMachine Unit).Guarded Orderly (Init Unit)
      RemoteConnectionEnds := by
    decide +kernel
  exact ⟨server, hrun, hguard, destroyed_properly hrun hguard⟩

theorem destroyed_properly_counterexample :
    ¬ forall (inputs : List (Input Unit)) server tr,
      (TeardownMachine Unit).Run (Init Unit) inputs = some (server, tr) ->
      forall e, e ∈ tr -> Proper e := by
  intro hclaim
  have heval : ((TeardownMachine Unit).Run (Init Unit)
      [Input.newConnection none,
        Input.connection 0
          (Ownership.Input.runFunctor (WriteResult.wrote 0)),
        Input.connection 0 Ownership.Input.returns,
        Input.connection 0 Ownership.Input.drained,
        Input.destroy, Input.visit 0]).map
      (fun last => (last.1.phase, last.2)) =
      some (Phase.aborted,
        [Event.connection 0
            (Ownership.Event.executed Functor.connectionEstablished),
          Event.connection 0 (Ownership.Event.conn
            (TcpConnection.Event.stored States.kConnecting
              States.kConnected)),
          Event.connection 0 (Ownership.Event.conn
            (TcpConnection.Event.called
              (Callback.connection States.kConnected))),
          Event.connectionDestroyed 0 States.kConnected]) := by
    decide +kernel
  rcases (TeardownMachine Unit).exists_run (fun server => server.phase)
    heval with ⟨server, hrun, _⟩
  have hproper := hclaim _ server _ hrun
    (Event.connectionDestroyed 0 States.kConnected) (by simp)
  cases hproper

end Teardown
end Net
end Wethands
