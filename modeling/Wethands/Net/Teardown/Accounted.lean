import Wethands.Net.Ownership.Notice
import Wethands.Net.Teardown.Retired

/-!
# Who sees to the end of a connection

Until a connection has been through `ConnectionDestroyed` it is listed by its
server, or the functor waits in its loop.  Where the functor or a removal waits,
the connection is `kDisconnected`.
-/

namespace Wethands
namespace Net

open Foundation Reactor

namespace Teardown

open TcpConnection (World Functor Frame Caller Callback CloseCallback States
  ReadResult WriteResult Api RemoteApi Core View Refines)
open Ownership (Owned Act Branch Closes Effect RunBranch Within Test Taken
  Popped References Holds Makes yields_when yields_return yields_handleEvent
  yields_resume yields_runFunctor yields_drained within_world act_world)

variable {ThreadId : Type} {owned : Owned ThreadId}

/-!
# The state
-/

def Settled (core : Core ThreadId) : Prop :=
  0 < core.removals ∨ Functor.connectionDestroyed ∈ core.functors ->
    core.state_ = States.kDisconnected

theorem Settled.move {core next : Core ThreadId} (h : Settled core)
    (hstate : core.state_ = States.kDisconnected ->
      next.state_ = States.kDisconnected)
    (hremovals : next.removals ≤ core.removals)
    (hfunctors : Functor.connectionDestroyed ∈ next.functors ->
      Functor.connectionDestroyed ∈ core.functors) : Settled next := by
  rintro (hpos | hmem)
  · exact hstate (h (Or.inl (by omega)))
  · exact hstate (h (Or.inr (hfunctors hmem)))

theorem settled_of_disconnected {core : Core ThreadId}
    (h : core.state_ = States.kDisconnected) : Settled core :=
  fun _ => h

section Threads

variable [DecidableEq ThreadId]

theorem settled_step {core next : Core ThreadId}
    {es : List TcpConnection.Event} (h : Settled core)
    (hstep : Core.Step false core next es) : Settled next := by
  have hsame : core.state_ = States.kDisconnected ->
      core.state_ = States.kDisconnected := fun hstate => hstate
  have hnone : forall state_, core.state_ = state_ ->
      state_ ≠ States.kDisconnected ->
      core.state_ = States.kDisconnected ->
      States.kDisconnecting = States.kDisconnected := by
    rintro state_ rfl hne hstate
    exact absurd hstate hne
  cases hstep with
  | called callback hplain => exact h
  | queued functor hplain =>
      refine h.move hsame (Nat.le_refl _) (fun hmem => ?_)
      rcases List.mem_append.mp hmem with hold | hnew
      · exact hold
      · rw [← List.mem_singleton.mp hnew] at hplain
        cases hplain
  | took functor rest hplain hfunctors =>
      refine h.move hsame (Nat.le_refl _) (fun hmem => ?_)
      rw [hfunctors]
      exact List.mem_cons_of_mem _ hmem
  | moved tid caller hplain => exact h
  | established hstate =>
      refine h.move (fun hend => ?_) (Nat.le_refl _) (fun hmem => hmem)
      rw [hstate] at hend
      cases hend
  | sentAtOnce data hstate hidle => exact h
  | sentPart data n complete hstate hidle hle hrest => exact h
  | sentNothing data errno complete hstate hidle => exact h
  | sentLater data hstate hbusy => exact h
  | wrote n hwriting hpos hle => exact h
  | shutdown hstate =>
      exact h.move (hnone _ hstate (by decide)) (Nat.le_refl _)
        (fun hmem => hmem)
  | shutdownAfterWrite hstate => exact h
  | tookShutdown rest hfunctors =>
      refine h.move hsame (Nat.le_refl _) (fun hmem => ?_)
      rw [hfunctors]
      exact List.mem_cons_of_mem _ hmem
  | shutdownChecked tid hstate => exact h
  | shutdownStored tid hcaller hreopen =>
      have hopen : core.state_ ≠ States.kDisconnected := by
        simpa using hreopen
      exact h.move (hnone _ rfl hopen) (Nat.le_refl _) (fun hmem => hmem)
  | shutdownQueued tid hcaller =>
      refine h.move hsame (Nat.le_refl _) (fun hmem => ?_)
      simpa using hmem
  | forceClose hreopen =>
      have hopen : core.state_ ≠ States.kDisconnected := by
        simpa using hreopen
      exact h.move (hnone _ rfl hopen) (Nat.le_refl _) (fun hmem => hmem)
  | closed hstate => exact settled_of_disconnected rfl
  | closedHere hstate => exact settled_of_disconnected rfl
  | removed removals hremovals =>
      have hpos : 0 < core.removals := by omega
      exact settled_of_disconnected (h (Or.inl hpos))
  | destroyed rest hstate hfunctors => exact settled_of_disconnected hstate

theorem settled_path {core next : Core ThreadId}
    {es : List TcpConnection.Event} (h : Settled core)
    (hpath : Path (Core.Step false) core next es) : Settled next :=
  Path.invariant (I := fun core _ => Settled core) (A := fun _ => True)
    (p := []) (fun _ _ _ _ hinv _ hstep => settled_step hinv hstep) h
    (fun _ _ => trivial) hpath

end Threads

/-!
# The inputs in question
-/

/-- The input stores `kDisconnecting` over `kDisconnected`. -/
def Reopens (owned : Owned ThreadId) (i : Ownership.Input ThreadId) : Prop :=
  owned.world.conn.state_ = States.kDisconnected ∧
    match i with
    | Ownership.Input.api Api.forceClose => True
    | Ownership.Input.remoteNext tid =>
        owned.world.callers tid = Caller.shuttingDown ∨
          owned.world.callers tid = Caller.forceClosing
    | _ => False

instance (owned : Owned ThreadId) (i : Ownership.Input ThreadId) :
    Decidable (Reopens owned i) := by
  apply Ownership.Input.casesOn (motive := fun i => Decidable (Reopens owned i))
    i
  case api =>
    intro call
    apply Api.casesOn
      (motive := fun call => Decidable (Reopens owned
        (Ownership.Input.api call))) call
    all_goals intros; dsimp only [Reopens]; infer_instance
  all_goals intros; dsimp only [Reopens]; infer_instance

/-- `StartReadInLoop` registers the channel of a retired connection. -/
def ReadsAgain (owned : Owned ThreadId) (i : Ownership.Input ThreadId) :
    Prop :=
  Ownership.StartsRead owned i = true ∧
    owned.world.conn.state_ = States.kDisconnected ∧
    owned.world.conn.socketChannel_.registeredToPoller = false ∧
    owned.world.conn.reading_ = false

instance (owned : Owned ThreadId) (i : Ownership.Input ThreadId) :
    Decidable (ReadsAgain owned i) :=
  inferInstanceAs (Decidable (_ ∧ _ ∧ _ ∧ _))

theorem Retired.reading (h : Retired owned.world)
    {i : Ownership.Input ThreadId} (hagain : ¬ReadsAgain owned i)
    (hstarts : Ownership.StartsRead owned i = true) :
    owned.world.conn.reading_ = true := by
  by_contra hreading
  rw [Bool.not_eq_true] at hreading
  exact hagain ⟨hstarts, h.disconnected, by rw [h.channel]; rfl, hreading⟩

section Threads

variable [DecidableEq ThreadId]

/-!
# Steps of the state
-/

def Follows (owned next : Owned ThreadId) : Prop :=
  exists es, Path (Core.Step false) (View owned.world) (View next.world) es

theorem makes_refines {i : Ownership.Input ThreadId}
    {call : Call (World ThreadId) TcpConnection.Event}
    (h : ¬Reopens owned i) (hmakes : Makes owned i call) :
    Refines false owned.world call := by
  have hbranch : forall (read : ReadResult) (write : WriteResult)
      (branch : Branch), Refines false owned.world
        (RunBranch owned.world read write branch) := by
    intro read write branch
    cases branch with
    | read => exact TcpConnection.refines_handleRead owned.world read
    | write => exact TcpConnection.refines_handleWrite owned.world write
    | error => exact TcpConnection.refines_silent rfl
    | close => exact TcpConnection.refines_handleClose owned.world
  cases hmakes with
  | api api =>
      apply TcpConnection.refines_callApi
      right
      intro hreopens
      apply h
      constructor
      · exact hreopens.1
      · cases api with
        | forceClose => trivial
        | _ => exact hreopens.2.elim
  | returns hstack => exact TcpConnection.refines_return owned.world
  | handleEvent read write branch => exact hbranch read write branch
  | resume read write branch => exact hbranch read write branch
  | runFunctor result hdrain hfunctors =>
      exact TcpConnection.refines_runFunctor owned.world result
  | removeConnectionInLoop =>
      exact TcpConnection.refines_removeConnectionInLoop owned.world
  | remoteCall tid api =>
      exact TcpConnection.refines_remoteCall owned.world tid api
  | remoteNext tid =>
      apply TcpConnection.refines_remoteNext
      right
      intro hreopens
      exact h hreopens

theorem act_follows {i : Ownership.Input ThreadId} (h : ¬Reopens owned i) :
    Yields (Act owned i) (fun next _ => Follows owned next) :=
  act_world (P := fun world _ => exists es,
      Path (Core.Step false) (View owned.world) (View world) es)
    ⟨[], Path.nil _⟩
    (fun _ hmakes next es hcall =>
      ⟨es, makes_refines h hmakes next es hcall⟩)

/-!
# Steps of a retired connection
-/

omit [DecidableEq ThreadId] in
theorem rests_api {api : Api}
    (hreopens : ¬Reopens owned (Ownership.Input.api api))
    (hagain : ¬ReadsAgain owned (Ownership.Input.api api)) :
    Rests owned.world (TcpConnection.CallApi owned.world api) := by
  intro h
  refine rests_callApi ?_ ?_ h
  · rintro rfl
    exact hreopens ⟨h.disconnected, trivial⟩
  · rintro rfl
    exact h.reading hagain rfl

omit [DecidableEq ThreadId] in
theorem rests_functor {result : WriteResult} {functor : Functor}
    {rest : List Functor}
    (hfunctors : owned.world.pendingFunctors_ = functor :: rest)
    (hagain : ¬ReadsAgain owned (Ownership.Input.runFunctor result)) :
    Rests owned.world (TcpConnection.RunFunctor owned.world result) := by
  intro h
  refine rests_runFunctor hfunctors result ?_ h
  rintro rfl
  exact h.reading hagain (by simp [Ownership.StartsRead, hfunctors])

theorem rests_next {tid : ThreadId}
    (hreopens : ¬Reopens owned (Ownership.Input.remoteNext tid)) :
    Rests owned.world (TcpConnection.RemoteNext owned.world tid) := by
  intro h
  exact rests_remoteNext
    (fun hcaller => hreopens ⟨h.disconnected, hcaller⟩) h

theorem makes_rests {i : Ownership.Input ThreadId}
    {call : Call (World ThreadId) TcpConnection.Event}
    (hreopens : ¬Reopens owned i) (hagain : ¬ReadsAgain owned i)
    (hmakes : Makes owned i call) : Rests owned.world call := by
  cases hmakes with
  | api api => exact rests_api hreopens hagain
  | returns hstack => exact rests_return owned.world
  | handleEvent read write branch =>
      exact rests_runBranch owned.world read write branch
  | resume read write branch =>
      exact rests_runBranch owned.world read write branch
  | runFunctor result hdrain hfunctors => exact rests_functor hfunctors hagain
  | removeConnectionInLoop =>
      intro h
      unfold TcpConnection.RemoveConnectionInLoop
      split
      · exact yields_error
      · exact yields_ok.mpr (h.of_conn rfl rfl)
  | remoteCall tid api => exact rests_remoteCall owned.world tid api
  | remoteNext tid => exact rests_next hreopens

theorem act_rests {i : Ownership.Input ThreadId} (h : Retired owned.world)
    (hreopens : ¬Reopens owned i) (hagain : ¬ReadsAgain owned i) :
    Yields (Act owned i) (fun next _ => Retired next.world) :=
  act_world (P := fun next _ => Retired next) h
    (fun _ hmakes => makes_rests hreopens hagain hmakes h)

/-!
# Steps of a connection that is accounted for
-/

/--
The destructor has yet to come to the connection, or `ConnectionDestroyed`
waits in its loop, or has run.
-/
def Accounted (visited : Bool) (owned : Owned ThreadId) : Prop :=
  owned.listed = true ∧ visited = false ∨
    Functor.connectionDestroyed ∈ owned.world.pendingFunctors_ ∨
    Retired owned.world

variable {visited : Bool}

omit [DecidableEq ThreadId] in
theorem within_accounted (h : Accounted visited owned)
    {call : Call (World ThreadId) TcpConnection.Event}
    (hfunctors : Yields call (fun next _ => exists more,
      next.pendingFunctors_ = owned.world.pendingFunctors_ ++ more))
    (hfinishes : Finishes owned.world call)
    (hrests : Rests owned.world call) :
    Yields (Within owned call) (fun next _ => Accounted visited next) := by
  unfold Within
  split
  · exact yields_error
  · rename_i world es
    refine yields_ok.mpr ?_
    rcases h with ⟨hlisted, hvisited⟩ | hqueued | hretired
    · by_cases hgone : TcpConnection.Event.called Callback.close ∈ es ∧
          owned.world.conn.closeCallback_ = CloseCallback.sameLoop
      · exact Or.inr (Or.inr (yields_ok.mp (hfinishes hgone.2) hgone.1))
      · refine Or.inl ⟨?_, hvisited⟩
        simp [hlisted, decide_eq_false hgone]
    · rcases yields_ok.mp hfunctors with ⟨more, hmore⟩
      refine Or.inr (Or.inl ?_)
      rw [hmore]
      exact List.mem_append.mpr (Or.inl hqueued)
    · exact Or.inr (Or.inr (yields_ok.mp (hrests hretired)))

omit [DecidableEq ThreadId] in
theorem test_accounted (h : Accounted visited owned) (revents : BitVec 32)
    (branch : Branch) (left : List Branch) (read : ReadResult)
    (write : WriteResult) :
    Yields (Test owned revents branch left read write)
      (fun next _ => Accounted visited next) := by
  unfold Test
  dsimp only
  split
  · have htested : Accounted visited { owned with
        dispatch := Ownership.Dispatch.handling revents left } := h
    refine within_accounted htested ?_
      (finishes_runBranch _ read write branch)
      (rests_runBranch _ read write branch)
    exact (Ownership.runBranch_effect _ read write branch).mono
      (fun _ _ heffect => heffect.functors)
  · exact yields_ok.mpr h

omit [DecidableEq ThreadId] in
theorem functor_accounted (h : Accounted visited owned) {left : Nat}
    {ran : List Functor} {functor : Functor} {rest : List Functor}
    (hfunctors : owned.world.pendingFunctors_ = functor :: rest)
    {result : WriteResult}
    (hagain : ¬ReadsAgain owned (Ownership.Input.runFunctor result)) :
    Yields (Within (Taken owned left ran functor rest)
        (TcpConnection.RunFunctor owned.world result))
      (fun next _ => Accounted visited next) := by
  by_cases hdestroyed : functor = Functor.connectionDestroyed
  · have hcall : Yields (TcpConnection.RunFunctor owned.world result)
        (fun next _ => Retired next) := by
      rw [Ownership.runFunctor_connectionDestroyed hfunctors hdestroyed left
        ran]
      exact retired_connectionDestroyed _
    exact (within_world hcall).mono (fun _ _ hnext => Or.inr (Or.inr hnext))
  · have htaken : Accounted visited (Taken owned left ran functor rest) := by
      rcases h with hlisted | hqueued | hretired
      · exact Or.inl hlisted
      · refine Or.inr (Or.inl ?_)
        rw [hfunctors] at hqueued
        rcases List.mem_cons.mp hqueued with heq | hmem
        · exact absurd heq.symm hdestroyed
        · exact hmem
      · exact Or.inr (Or.inr (hretired.of_conn rfl rfl))
    refine within_accounted htaken ?_ (finishes_runFunctor hfunctors result)
      ?_
    · exact (Ownership.runFunctor_effect hfunctors result hdestroyed).mono
        (fun _ _ heffect => heffect.functors)
    · intro hretired
      exact rests_functor hfunctors hagain (hretired.of_conn rfl rfl)

theorem remoteCall_functors (world : World ThreadId) (tid : ThreadId)
    (api : RemoteApi) :
    Yields (TcpConnection.RemoteCall world tid api) (fun next es =>
      (exists more, next.pendingFunctors_ = world.pendingFunctors_ ++ more) ∧
        ¬Closes es) := by
  have hnone : exists more,
      world.pendingFunctors_ = world.pendingFunctors_ ++ more :=
    ⟨[], (List.append_nil _).symm⟩
  unfold TcpConnection.RemoteCall
  split
  · split <;> exact yields_ok.mpr ⟨hnone, by simp [Closes]⟩
  · split <;> exact yields_ok.mpr ⟨hnone, by simp [Closes]⟩
  · split <;> exact yields_ok.mpr ⟨hnone, by simp [Closes]⟩
  · exact yields_ok.mpr ⟨⟨_, rfl⟩, by simp [Closes]⟩
  · exact yields_ok.mpr ⟨⟨_, rfl⟩, by simp [Closes]⟩

theorem remoteNext_functors (world : World ThreadId) (tid : ThreadId) :
    Yields (TcpConnection.RemoteNext world tid) (fun next es =>
      (exists more, next.pendingFunctors_ = world.pendingFunctors_ ++ more) ∧
        ¬Closes es) := by
  have hnone : exists more,
      world.pendingFunctors_ = world.pendingFunctors_ ++ more :=
    ⟨[], (List.append_nil _).symm⟩
  unfold TcpConnection.RemoteNext
  split
  · exact yields_error
  · exact yields_ok.mpr ⟨⟨_, rfl⟩, by simp [Closes]⟩
  · exact yields_ok.mpr ⟨hnone, by simp [Closes]⟩
  · exact yields_ok.mpr ⟨⟨_, rfl⟩, by simp [Closes]⟩
  · exact yields_ok.mpr ⟨hnone, by simp [Closes]⟩
  · exact yields_ok.mpr ⟨⟨_, rfl⟩, by simp [Closes]⟩

theorem act_accounted {i : Ownership.Input ThreadId}
    (h : Accounted visited owned) (hreopens : ¬Reopens owned i)
    (hagain : ¬ReadsAgain owned i) :
    Yields (Act owned i) (fun next _ => Accounted visited next) := by
  cases i with
  | api api =>
      refine yields_when (fun _ => within_accounted h ?_
        (finishes_callApi owned.world api) (rests_api hreopens hagain))
      exact (Ownership.callApi_effect owned.world api).mono
        (fun _ _ heffect => heffect.functors)
  | returns =>
      refine yields_return (fun frame rest hstack => ?_)
      have heffect := Ownership.return_effect hstack
      have hpopped : Accounted visited (Popped owned rest) := by
        rcases h with hlisted | hqueued | hretired
        · exact Or.inl hlisted
        · exact Or.inr (Or.inl hqueued)
        · exact Or.inr (Or.inr (hretired.of_conn rfl rfl))
      refine within_accounted hpopped
        (heffect.mono (fun _ _ hnext => hnext.functors))
        (finishes_of_effect heffect) ?_
      exact fun hretired => rests_return _ (hretired.of_conn rfl rfl)
  | keep tid => exact yields_when (fun _ => yields_ok.mpr h)
  | drop tid => exact yields_when (fun _ => yields_ok.mpr h)
  | poll revents => exact yields_when (fun _ => yields_ok.mpr h)
  | handleEvent read write =>
      exact yields_when (fun _ => yields_handleEvent
        (fun _ _ _ => test_accounted h _ _ _ read write))
  | resume read write =>
      refine yields_when (fun _ => yields_resume ?_ ?_)
      · exact fun _ _ _ => h
      · exact fun _ _ _ _ _ => test_accounted h _ _ _ read write
  | swap => exact yields_when (fun _ => yields_ok.mpr h)
  | runFunctor result =>
      refine yields_when (fun _ => yields_runFunctor ?_)
      exact fun _ _ _ _ _ hfunctors _ => functor_accounted h hfunctors hagain
  | drained =>
      exact yields_when (fun _ => yields_drained (fun _ _ => h))
  | removeConnectionInLoop =>
      rw [Act, Ownership.RemoveConnectionInLoop]
      refine Yields.in_turn (Yields.mono (within_world
        (P := fun world _ =>
          Functor.connectionDestroyed ∈ world.pendingFunctors_) ?_)
        (fun _ _ hnext => yields_ok.mpr (Or.inr (Or.inl hnext))))
      unfold TcpConnection.RemoveConnectionInLoop
      split
      · exact yields_error
      · exact yields_ok.mpr (by simp [TcpConnection.QueueInLoop])
  | serverDrained => exact yields_when (fun _ => yields_ok.mpr h)
  | remoteCall tid api =>
      have hcall := remoteCall_functors owned.world tid api
      refine yields_when (fun _ => within_accounted h
        (hcall.mono (fun _ _ hnext => hnext.1)) ?_
        (rests_remoteCall owned.world tid api))
      exact fun _ => hcall.mono
        (fun _ _ hnext hcloses => absurd hcloses hnext.2)
  | remoteNext tid =>
      have hcall := remoteNext_functors owned.world tid
      refine within_accounted h (hcall.mono (fun _ _ hnext => hnext.1)) ?_
        (rests_next hreopens)
      exact fun _ => hcall.mono
        (fun _ _ hnext hcloses => absurd hcloses hnext.2)

/-!
# The close of a connection with an owner on the same loop
-/

def Ends (next : Owned ThreadId) (es : List Ownership.Event) : Prop :=
  Ownership.Event.conn (TcpConnection.Event.called Callback.close) ∈ es ->
    Retired next.world

theorem makes_ends {i : Ownership.Input ThreadId}
    {call : Call (World ThreadId) TcpConnection.Event}
    (hsame : owned.world.conn.closeCallback_ = CloseCallback.sameLoop)
    (hmakes : Makes owned i call) :
    Yields call (fun next es => Closes es -> Retired next) := by
  cases hmakes with
  | api api => exact finishes_callApi owned.world api hsame
  | returns hstack =>
      exact finishes_of_effect (Ownership.return_effect hstack) hsame
  | handleEvent read write branch =>
      exact finishes_runBranch owned.world read write branch hsame
  | resume read write branch =>
      exact finishes_runBranch owned.world read write branch hsame
  | runFunctor result hdrain hfunctors =>
      exact finishes_runFunctor hfunctors result hsame
  | removeConnectionInLoop =>
      unfold TcpConnection.RemoveConnectionInLoop
      split
      · exact yields_error
      · exact yields_ok.mpr (by simp [Closes])
  | remoteCall tid api =>
      exact (remoteCall_functors owned.world tid api).mono
        (fun _ _ hnext hcloses => absurd hcloses hnext.2)
  | remoteNext tid =>
      exact (remoteNext_functors owned.world tid).mono
        (fun _ _ hnext hcloses => absurd hcloses hnext.2)

theorem act_ends
    (hsame : owned.world.conn.closeCallback_ = CloseCallback.sameLoop)
    (i : Ownership.Input ThreadId) : Yields (Act owned i) Ends := by
  have hcalls : Yields (Act owned i) (fun next es =>
      Closes (es.filterMap Ownership.Event.OfConnection) ->
        Retired next.world) :=
    act_world (P := fun next es => Closes es -> Retired next) (by simp [Closes])
      (fun _ hmakes => makes_ends hsame hmakes)
  refine hcalls.mono (fun next es hnext hmem => hnext ?_)
  exact List.mem_filterMap.mpr ⟨_, hmem, rfl⟩

/-!
# The last reference
-/

omit [DecidableEq ThreadId] in
/-- Nobody is left to see to the end of a connection that nobody holds. -/
theorem retired_of_last (h : Accounted visited owned)
    (hlast : References owned = 0) : Retired owned.world := by
  simp only [References, Nat.add_eq_zero_iff] at hlast
  rcases h with ⟨hlisted, _⟩ | hqueued | hretired
  · simp [hlisted] at hlast
  · have hcount : 0 < owned.world.pendingFunctors_.countP Holds :=
      List.countP_pos_iff.mpr ⟨_, hqueued, rfl⟩
    omega
  · exact hretired

end Threads
end Teardown
end Net
end Wethands
