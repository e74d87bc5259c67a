import Wethands.Net.Ownership.Effect

/-!
# The reference count over a run

Only a few steps give references back.  The connection is destroyed by the step
that gives the last one back, and nothing touches it afterwards, unless a
functor is left that does not hold it.
-/

namespace Wethands
namespace Net

open Foundation Reactor

namespace Ownership

open TcpConnection (World Functor Frame Caller Callback CloseCallback States
  ReadResult WriteResult Api RemoteApi)

variable {ThreadId : Type} {closing : Prop} {owned next : Owned ThreadId}

def Released (owned : Owned ThreadId) : Input ThreadId -> Nat
  | Input.returns => 1
  | Input.drop _ => 1
  | Input.drained => (Ran owned.drain).countP Holds
  | Input.serverDrained => owned.served
  | _ => 0

def Tracked (owned : Owned ThreadId) : Prop :=
  forall tid, owned.world.callers tid ≠ Caller.outside -> tid ∈ owned.users

def Exclusive (owned : Owned ThreadId) : Prop :=
  owned.dispatch ≠ Dispatch.idle -> owned.drain = none

/-- An owner on the same loop asks no other loop to remove the connection. -/
def Unasked (owned : Owned ThreadId) : Prop :=
  owned.world.conn.closeCallback_ = CloseCallback.sameLoop ->
    owned.world.removals = 0 ∧ owned.served = 0

structure Change (owned next : Owned ThreadId) (es : List Event)
    (released : Nat) : Prop where
  counted : References owned ≤ References next + released
  tracked : Tracked owned -> Tracked next
  exclusive : Exclusive owned -> Exclusive next
  unasked : Unasked owned -> Unasked next
  owner : next.world.conn.closeCallback_ = owned.world.conn.closeCallback_
  undestroyed : Event.destroyed ∉ es

theorem Change.trans {mid : Owned ThreadId} {es es' : List Event}
    {released : Nat} (first : Change owned mid es released)
    (second : Change mid next es' 0) :
    Change owned next (es ++ es') released where
  counted := Nat.le_trans first.counted
    (Nat.add_le_add_right second.counted released)
  tracked := fun h => second.tracked (first.tracked h)
  exclusive := fun h => second.exclusive (first.exclusive h)
  unasked := fun h => second.unasked (first.unasked h)
  owner := second.owner.trans first.owner
  undestroyed := by
    rw [List.mem_append, not_or]
    exact ⟨first.undestroyed, second.undestroyed⟩

theorem Change.within
    {call : Call (World ThreadId) TcpConnection.Event}
    (hcall : Yields call (Effect closing owned.world)) :
    Yields (Within owned call) (fun next es => Change owned next es 0) := by
  unfold Within
  split
  · exact yields_error
  · rename_i world es
    have heffect := yields_ok.mp hcall
    rcases heffect.functors with ⟨more, hfunctors⟩
    have hlisted := Bool.toNat_le owned.listed
    have hstack := heffect.stack
    have hremovals := heffect.removals
    refine yields_ok.mpr ⟨?_, ?_, fun h => h, ?_, heffect.owner, by simp⟩
    · simp only [References, hfunctors, List.countP_append]
      by_cases hgone : TcpConnection.Event.called Callback.close ∈ es ∧
          owned.world.conn.closeCallback_ = CloseCallback.sameLoop
      · rcases heffect.closed hgone.1 with hgrown | ⟨hother, _⟩
        · omega
        · simp [hgone.2] at hother
      · rw [decide_eq_false hgone, Bool.not_false, Bool.and_true]
        omega
    · intro htracked tid hcaller
      exact htracked tid (heffect.callers ▸ hcaller)
    · intro hunasked hsame
      have howner : owned.world.conn.closeCallback_ =
          CloseCallback.sameLoop := heffect.owner ▸ hsame
      exact ⟨(heffect.unasked howner).trans (hunasked howner).1,
        (hunasked howner).2⟩

theorem Change.idle {owned next : Owned ThreadId} {released : Nat}
    (hcounted : References owned ≤ References next + released)
    (hworld : next.world = owned.world)
    (htracked : Tracked owned -> Tracked next)
    (hexclusive : Exclusive owned -> Exclusive next)
    (hserved : owned.served = 0 -> next.served = 0) :
    Change owned next [] released where
  counted := hcounted
  tracked := htracked
  exclusive := hexclusive
  unasked := by
    intro h hsame
    rw [hworld] at hsame ⊢
    exact ⟨(h hsame).1, hserved (h hsame).2⟩
  owner := by rw [hworld]
  undestroyed := by simp

/-!
# One lemma for each step
-/

theorem yields_when {p : Prop} [Decidable p]
    {call : Call (Owned ThreadId) Event}
    {Q : Owned ThreadId -> List Event -> Prop} (h : p -> Yields call Q) :
    Yields (When p call) Q :=
  Yields.only_if h

theorem yields_alive {call : Call (Owned ThreadId) Event}
    {Q : Owned ThreadId -> List Event -> Prop}
    (h : 0 < References owned -> Yields call Q) :
    Yields (Alive owned call) Q :=
  Yields.only_if h

theorem yields_settle {before : Owned ThreadId}
    {call : Call (Owned ThreadId) Event}
    {Q : Owned ThreadId -> List Event -> Prop}
    (h : Yields call (fun after es =>
      if 0 < References before ∧ References after = 0 then
        Destructible after -> Q after (es ++ [Event.destroyed])
      else Q after es)) :
    Yields (Settle before call) Q := by
  unfold Settle
  split
  · exact yields_error
  · have hafter := yields_ok.mp h
    split
    · rename_i hlast
      rw [if_pos hlast] at hafter
      exact Yields.assert (fun hdestructible =>
        yields_ok.mpr (hafter hdestructible))
    · rename_i hlast
      rw [if_neg hlast] at hafter
      exact yields_ok.mpr hafter

def Popped (owned : Owned ThreadId) (rest : List Frame) : Owned ThreadId :=
  { owned with world := { owned.world with stack := rest } }

def Taken (owned : Owned ThreadId) (left : Nat) (ran : List Functor)
    (functor : Functor) (rest : List Functor) : Owned ThreadId :=
  { owned with
    world := { owned.world with pendingFunctors_ := rest }
    drain := some { left := left, ran := functor :: ran } }

theorem runFunctor_connectionDestroyed {functor : Functor}
    {rest : List Functor}
    (hfunctors : owned.world.pendingFunctors_ = functor :: rest)
    (hdestroyed : functor = Functor.connectionDestroyed) (left : Nat)
    (ran : List Functor) (result : WriteResult) :
    TcpConnection.RunFunctor owned.world result =
      TcpConnection.ConnectionDestroyed
        (Taken owned left ran functor rest).world := by
  rw [TcpConnection.RunFunctor, hfunctors, hdestroyed]
  rfl

section Rules

variable {Q : Owned ThreadId -> List Event -> Prop}

theorem yields_return
    (h : forall frame rest, owned.world.stack = frame :: rest ->
      Yields (Within (Popped owned rest)
        (TcpConnection.Return owned.world)) Q) :
    Yields (Return owned) Q := by
  unfold Return
  split
  · exact yields_error
  · rename_i frame rest hstack
    dsimp only
    split
    · exact Yields.assert (fun _ => yields_error)
    · exact h frame rest hstack

theorem yields_handleEvent {read : ReadResult} {write : WriteResult}
    (h : forall revents, owned.dispatch = Dispatch.ahead revents ->
      0 < References owned ->
      Yields (Test owned revents Branch.read
        [Branch.write, Branch.error, Branch.close] read write) Q) :
    Yields (HandleEvent owned read write) Q := by
  unfold HandleEvent
  split
  · rename_i revents hdispatch
    exact yields_alive (fun halive => h revents hdispatch halive)
  · exact yields_error

theorem yields_resume {read : ReadResult} {write : WriteResult}
    (hend : forall revents, 0 < References owned ->
      owned.dispatch = Dispatch.handling revents [] ->
      Q { owned with dispatch := Dispatch.idle } [Event.resumed])
    (htest : forall revents branch left, 0 < References owned ->
      owned.dispatch = Dispatch.handling revents (branch :: left) ->
      Yields (Test owned revents branch left read write)
        (fun next es => Q next ([Event.resumed] ++ es))) :
    Yields (Resume owned read write) Q := by
  unfold Resume
  split
  · rename_i revents left hdispatch
    refine yields_alive (fun halive => Yields.in_turn (yields_ok.mpr ?_))
    cases left with
    | nil => exact yields_ok.mpr (hend revents halive hdispatch)
    | cons branch left => exact htest revents branch left halive hdispatch
  · exact yields_error

theorem yields_runFunctor {result : WriteResult}
    (h : forall left ran functor rest,
      owned.drain = some { left := left + 1, ran := ran } ->
      owned.world.pendingFunctors_ = functor :: rest ->
      0 < References owned ->
      Yields (Within (Taken owned left ran functor rest)
          (TcpConnection.RunFunctor owned.world result))
        (fun next es => Q next ([Event.executed functor] ++ es))) :
    Yields (RunFunctor owned result) Q := by
  unfold RunFunctor
  split
  · rename_i left ran functor rest hdrain hfunctors
    refine yields_alive (fun halive => Yields.in_turn (yields_ok.mpr ?_))
    exact h left ran functor rest hdrain hfunctors halive
  · exact yields_error

theorem yields_drained
    (h : forall ran, owned.drain = some { left := 0, ran := ran } ->
      Q { owned with drain := none } []) :
    Yields (Drained owned) Q := by
  unfold Drained
  split
  · rename_i ran hdrain
    exact yields_ok.mpr (h ran hdrain)
  · exact yields_error

end Rules

theorem poll_change (owned : Owned ThreadId) (revents : BitVec 32) :
    Yields (Poll owned revents) (fun next es => Change owned next es 0) := by
  refine yields_when (fun hpoll => yields_ok.mpr ?_)
  exact Change.idle (Nat.le_refl _) rfl (fun h => h)
    (fun _ _ => hpoll.1.2.2) (fun h => h)

theorem runBranch_effect (world : World ThreadId) (read : ReadResult)
    (write : WriteResult) (branch : Branch) :
    Yields (RunBranch world read write branch) (Effect True world) := by
  cases branch with
  | read =>
      refine (handleRead_spec world read).mono ?_
      rintro next es (hquiet | hreads)
      · exact hquiet.toEffect
      · exact hreads.toEffect.mono (fun _ => trivial)
  | write =>
      exact (handleWrite_quiet world write).mono (fun _ _ h => h.toEffect)
  | error => exact yields_ok.mpr (Effect.refl world)
  | close => exact (handleClose_quiet world).mono (fun _ _ h => h.toEffect)

theorem Change.dispatch {owned : Owned ThreadId} {dispatch : Dispatch}
    (hdispatch : owned.dispatch ≠ Dispatch.idle) :
    Change owned { owned with dispatch := dispatch } [] 0 :=
  Change.idle (Nat.le_refl _) rfl (fun h => h)
    (fun hexclusive _ => hexclusive hdispatch) (fun h => h)

theorem test_change {owned : Owned ThreadId}
    (hdispatch : owned.dispatch ≠ Dispatch.idle) (revents : BitVec 32)
    (branch : Branch) (left : List Branch) (read : ReadResult)
    (write : WriteResult) :
    Yields (Test owned revents branch left read write)
      (fun next es => Change owned next es 0) := by
  unfold Test
  dsimp only
  split
  · refine (Change.within (runBranch_effect _ read write branch)).mono ?_
    exact fun next es hnext => (Change.dispatch hdispatch).trans hnext
  · exact yields_ok.mpr (Change.dispatch hdispatch)

theorem handleEvent_change (owned : Owned ThreadId) (read : ReadResult)
    (write : WriteResult) :
    Yields (HandleEvent owned read write)
      (fun next es => Change owned next es 0) :=
  yields_handleEvent (fun revents hdispatch _ =>
    test_change (by simp [hdispatch]) revents Branch.read
      [Branch.write, Branch.error, Branch.close] read write)

theorem Change.event {owned : Owned ThreadId} {e : Event}
    (h : e ≠ Event.destroyed) : Change owned owned [e] 0 where
  counted := Nat.le_refl _
  tracked := fun h => h
  exclusive := fun h => h
  unasked := fun h => h
  owner := rfl
  undestroyed := by simpa using Ne.symm h

theorem resume_change (owned : Owned ThreadId) (read : ReadResult)
    (write : WriteResult) :
    Yields (Resume owned read write)
      (fun next es => Change owned next es 0) := by
  have hresumed : Change owned owned [Event.resumed] 0 :=
    Change.event (by decide)
  apply yields_resume
  · intro revents _ hdispatch
    exact hresumed.trans (Change.dispatch (by simp [hdispatch]))
  · intro revents branch left _ hdispatch
    exact (test_change (by simp [hdispatch]) revents branch left read
      write).mono (fun next es hnext => hresumed.trans hnext)

theorem swap_change (owned : Owned ThreadId) :
    Yields (Swap owned) (fun next es => Change owned next es 0) := by
  refine yields_when (fun hfree => yields_ok.mpr ?_)
  refine Change.idle ?_ rfl (fun h => h) ?_ (fun h => h)
  · simp [References, Ran, hfree.2.2]
  · exact fun _ hbusy => absurd hfree.2.1 hbusy

theorem connectionDestroyed_change (owned : Owned ThreadId) :
    Yields (Within owned (TcpConnection.ConnectionDestroyed owned.world))
      (fun next es => Change owned next es 0) := by
  unfold Within
  split
  · exact yields_error
  · rename_i world es hcall
    rcases connectionDestroyed_yields owned.world world es hcall with
      ⟨_, rfl, rfl⟩
    refine yields_ok.mpr ⟨?_, fun h => h, fun h => h, fun h => h, rfl,
      by simp⟩
    simp [References]

theorem Change.taken {left : Nat} {ran : List Functor} {functor : Functor}
    {rest : List Functor}
    (hdrain : owned.drain = some { left := left + 1, ran := ran })
    (hfunctors : owned.world.pendingFunctors_ = functor :: rest) :
    Change owned (Taken owned left ran functor rest)
      [Event.executed functor] 0 := by
  refine ⟨?_, fun h => h, ?_, fun h => h, rfl, by simp⟩
  · simp only [Taken, References, Ran, hdrain, hfunctors, List.countP_cons]
    omega
  · intro hexclusive hbusy
    have hnone := hexclusive hbusy
    simp [hdrain] at hnone

theorem runFunctor_change (owned : Owned ThreadId) (result : WriteResult) :
    Yields (RunFunctor owned result)
      (fun next es => Change owned next es 0) := by
  apply yields_runFunctor
  intro left ran functor rest hdrain hfunctors _
  refine Yields.mono ?_
    (fun next es hnext => (Change.taken hdrain hfunctors).trans hnext)
  by_cases hdestroyed : functor = Functor.connectionDestroyed
  · rw [runFunctor_connectionDestroyed hfunctors hdestroyed left ran]
    exact connectionDestroyed_change _
  · exact Change.within (runFunctor_effect hfunctors result hdestroyed)

theorem drained_change (owned : Owned ThreadId) :
    Yields (Drained owned) (fun next es =>
      Change owned next es ((Ran owned.drain).countP Holds)) := by
  refine yields_drained (fun ran hdrain => Change.idle ?_ rfl (fun h => h)
    (fun _ _ => rfl) (fun h => h))
  simp only [References, Ran, List.countP_nil]
  omega

theorem return_effect {frame : Frame} {rest : List Frame}
    (hstack : owned.world.stack = frame :: rest) :
    Yields (TcpConnection.Return owned.world)
      (Effect False (Popped owned rest).world) :=
  (return_quiet hstack).mono (fun _ _ h => h.toEffect)

theorem return_change (owned : Owned ThreadId) :
    Yields (Return owned) (fun next es => Change owned next es 1) := by
  refine yields_return (fun frame rest hstack => ?_)
  have hpopped : Change owned (Popped owned rest) [] 1 := by
    refine ⟨?_, fun h => h, fun h => h, fun h => h, rfl, by simp⟩
    simp only [Popped, References, hstack, List.length_cons]
    omega
  exact (Change.within (return_effect hstack)).mono
    (fun next es hnext => hpopped.trans hnext)

theorem removeConnectionInLoop_change (owned : Owned ThreadId) :
    Yields (RemoveConnectionInLoop owned)
      (fun next es => Change owned next es 0) := by
  unfold RemoveConnectionInLoop TcpConnection.RemoveConnectionInLoop
  cases hremovals : owned.world.removals with
  | zero => exact yields_error
  | succ removals =>
      have hlisted := Bool.toNat_le owned.listed
      refine yields_ok.mpr ⟨?_, fun h => h, fun h => h, ?_, rfl, by simp⟩
      · simp [References, TcpConnection.QueueInLoop, hremovals, Holds]
        omega
      · intro hunasked hsame
        have hnone := (hunasked hsame).1
        simp [hremovals] at hnone

theorem serverDrained_change (owned : Owned ThreadId) :
    Yields (ServerDrained owned)
      (fun next es => Change owned next es owned.served) := by
  refine yields_when (fun _ => yields_ok.mpr ?_)
  refine Change.idle ?_ rfl (fun h => h) (fun h => h) (fun _ => rfl)
  simp only [References]
  omega

/-- `destroyed` marks the end of the references. -/
structure Sound (owned : Owned ThreadId) (tr : List Event) : Prop where
  tracked : Tracked owned
  exclusive : Exclusive owned
  unasked : Unasked owned
  destroyed : Event.destroyed ∈ tr <-> References owned = 0
  unregistered : References owned = 0 ->
    owned.world.conn.socketChannel_.registeredToPoller = false

theorem sound_init (closeCallback : CloseCallback) :
    Sound (Init ThreadId closeCallback) [] where
  tracked := by simp [Tracked, Init, TcpConnection.Init]
  exclusive := by simp [Exclusive, Init]
  unasked := by simp [Unasked, Init, TcpConnection.Init]
  destroyed := by simp [References, Init]
  unregistered := by simp [References, Init]

section Threads

variable [DecidableEq ThreadId]

theorem Change.remote {world : World ThreadId} {tid : ThreadId}
    {es : List TcpConnection.Event} (htid : tid ∈ owned.users)
    (hfunctors : exists more,
      world.pendingFunctors_ = owned.world.pendingFunctors_ ++ more)
    (hstack : world.stack = owned.world.stack)
    (hremovals : world.removals = owned.world.removals)
    (hcallers : forall tid', tid' ≠ tid ->
      world.callers tid' = owned.world.callers tid')
    (howner : world.conn.closeCallback_ = owned.world.conn.closeCallback_)
    (hcloses : ¬Closes es) :
    Yields (Within owned (Except.ok (world, es)))
      (fun next es => Change owned next es 0) := by
  rcases hfunctors with ⟨more, hfunctors⟩
  have hkept : ¬(TcpConnection.Event.called Callback.close ∈ es ∧
      owned.world.conn.closeCallback_ = CloseCallback.sameLoop) :=
    fun hgone => hcloses hgone.1
  refine yields_ok.mpr ⟨?_, ?_, fun h => h, ?_, howner, by simp⟩
  · simp only [References, hfunctors, hstack, hremovals,
      List.countP_append, decide_eq_false hkept, Bool.not_false,
      Bool.and_true]
    omega
  · intro htracked tid' hcaller
    by_cases hsame : tid' = tid
    · exact hsame ▸ htid
    · exact htracked tid' (hcallers tid' hsame ▸ hcaller)
  · intro hunasked hsame
    exact ⟨hremovals.trans (hunasked (howner ▸ hsame)).1,
      (hunasked (howner ▸ hsame)).2⟩

theorem remoteCall_change {tid : ThreadId} (htid : tid ∈ owned.users)
    (api : RemoteApi) :
    Yields (Within owned (TcpConnection.RemoteCall owned.world tid api))
      (fun next es => Change owned next es 0) := by
  have hcaller : forall caller es, ¬Closes es ->
      Yields (Within owned (Except.ok
          (TcpConnection.SetCaller owned.world tid caller, es)))
        (fun next es => Change owned next es 0) := by
    intro caller es hcloses
    refine Change.remote htid ⟨[], by simp [TcpConnection.SetCaller]⟩ rfl
      rfl ?_ rfl hcloses
    intro tid' hother
    simp [TcpConnection.SetCaller, hother]
  have hcall : forall functor, Yields (Within owned (Except.ok
        (TcpConnection.QueueInLoop owned.world functor, [])))
      (fun next es => Change owned next es 0) :=
    fun functor => Change.remote htid ⟨[functor], rfl⟩ rfl rfl
      (fun _ _ => rfl) rfl (by simp [Closes])
  have hnothing : Yields (Within owned (Except.ok (owned.world, [])))
      (fun next es => Change owned next es 0) := by
    have hsame : Yields (Except.ok (owned.world, []))
        (Effect False owned.world) := yields_ok.mpr (Effect.refl owned.world)
    exact Change.within hsame
  unfold TcpConnection.RemoteCall
  cases api with
  | send data =>
      dsimp only
      split
      · exact hnothing
      · exact hcaller _ _ (by simp [Closes])
  | shutdown =>
      dsimp only
      split
      · exact hcaller _ _ (by simp [Closes])
      · exact hnothing
  | forceClose =>
      dsimp only
      split
      · exact hcaller _ _ (by simp [Closes])
      · exact hnothing
  | startRead => exact hcall _
  | stopRead => exact hcall _

theorem remoteNext_change (htracked : Tracked owned) (tid : ThreadId) :
    Yields (Within owned (TcpConnection.RemoteNext owned.world tid))
      (fun next es => Change owned next es 0) := by
  have hother : forall (world : World ThreadId) caller tid', tid' ≠ tid ->
      Function.update world.callers tid caller tid' =
        world.callers tid' :=
    fun _ _ _ h => Function.update_of_ne h _ _
  by_cases hcaller : owned.world.callers tid = Caller.outside
  · rw [TcpConnection.RemoteNext, hcaller]
    exact yields_error
  · have htid := htracked tid hcaller
    unfold TcpConnection.RemoteNext
    split
    · exact yields_error
    · exact Change.remote htid ⟨_, rfl⟩ rfl rfl (hother _ _) rfl
        (by simp [Closes])
    · exact Change.remote htid ⟨[], by simp [TcpConnection.SetCaller]⟩ rfl
        rfl (hother _ _) rfl (by simp [Closes])
    · exact Change.remote htid ⟨_, rfl⟩ rfl rfl (hother _ _) rfl
        (by simp [Closes])
    · exact Change.remote htid ⟨[], by simp [TcpConnection.SetCaller]⟩ rfl
        rfl (hother _ _) rfl (by simp [Closes])
    · exact Change.remote htid ⟨_, rfl⟩ rfl rfl (hother _ _) rfl
        (by simp [Closes])

theorem act_change (htracked : Tracked owned) (i : Input ThreadId) :
    Yields (Act owned i)
      (fun next es => Change owned next es (Released owned i)) := by
  cases i with
  | api api =>
      exact yields_when (fun _ => Change.within (callApi_effect _ api))
  | returns => exact return_change owned
  | keep tid =>
      refine yields_when (fun _ => yields_ok.mpr (Change.idle ?_ rfl ?_
        (fun h => h) (fun h => h)))
      · simp only [References, List.length_cons]
        omega
      · exact fun htracked tid' hcaller =>
          List.mem_cons_of_mem _ (htracked tid' hcaller)
  | drop tid =>
      refine yields_when (fun hdrop => yields_ok.mpr (Change.idle ?_ rfl ?_
        (fun h => h) (fun h => h)))
      · have hlength := List.length_erase_of_mem hdrop.1
        simp only [References, Released, hlength]
        omega
      · intro htracked tid' hcaller
        have hne : tid' ≠ tid := fun hsame => hcaller (hsame ▸ hdrop.2)
        exact (List.mem_erase_of_ne hne).mpr (htracked tid' hcaller)
  | poll revents => exact poll_change owned revents
  | handleEvent read write =>
      exact yields_when (fun _ => handleEvent_change owned read write)
  | resume read write =>
      exact yields_when (fun _ => resume_change owned read write)
  | swap => exact swap_change owned
  | runFunctor result =>
      exact yields_when (fun _ => runFunctor_change owned result)
  | drained => exact yields_when (fun _ => drained_change owned)
  | removeConnectionInLoop => exact removeConnectionInLoop_change owned
  | serverDrained => exact serverDrained_change owned
  | remoteCall tid api =>
      exact yields_when (fun hcall => remoteCall_change hcall.1 api)
  | remoteNext tid => exact remoteNext_change htracked tid

/-!
# After the last reference
-/

/-- Nobody is left who could do anything to the connection. -/
theorem act_dead (hdead : References owned = 0) (htracked : Tracked owned)
    (i : Input ThreadId) :
    Yields (Act owned i) (fun next _ =>
      next.world = owned.world ∧ References next = 0) := by
  have hreferences := hdead
  simp only [References, Nat.add_eq_zero_iff, List.length_eq_zero_iff] at hdead
  rcases hdead with
    ⟨⟨⟨⟨⟨⟨hlisted, husers⟩, hstack⟩, hfunctors⟩, hran⟩, hremovals⟩, hserved⟩
  have hunreachable : ¬Reachable owned := by simp [Reachable, husers, hstack]
  have halive : ¬0 < References owned := by omega
  cases i with
  | api api => exact yields_when (fun hreach => absurd hreach hunreachable)
  | returns =>
      rw [Act, Return, hstack]
      exact yields_error
  | keep tid => exact yields_when (fun hreach => absurd hreach hunreachable)
  | drop tid =>
      refine yields_when (fun hdrop => ?_)
      simp [husers] at hdrop
  | poll revents =>
      exact yields_when (fun _ => yields_ok.mpr ⟨rfl, hreferences⟩)
  | handleEvent read write =>
      exact yields_when (fun _ =>
        yields_handleEvent (fun _ _ h => absurd h halive))
  | resume read write =>
      exact yields_when (fun _ => yields_resume
        (fun _ h => absurd h halive) (fun _ _ _ h => absurd h halive))
  | swap =>
      refine yields_when (fun _ => yields_ok.mpr ⟨rfl, ?_⟩)
      simp [References, Ran, hlisted, husers, hstack, hfunctors, hremovals,
        hserved]
  | runFunctor result =>
      exact yields_when (fun _ =>
        yields_runFunctor (fun _ _ _ _ _ _ h => absurd h halive))
  | drained =>
      refine yields_when (fun _ => yields_drained (fun _ _ => ⟨rfl, ?_⟩))
      simp [References, Ran, hlisted, husers, hstack, hfunctors, hremovals,
        hserved]
  | removeConnectionInLoop =>
      rw [Act, RemoveConnectionInLoop, TcpConnection.RemoveConnectionInLoop,
        hremovals]
      exact yields_error
  | serverDrained =>
      refine yields_when (fun hserves => ?_)
      simp [hserved] at hserves
  | remoteCall tid api =>
      refine yields_when (fun hcall => ?_)
      simp [husers] at hcall
  | remoteNext tid =>
      have houtside : owned.world.callers tid = Caller.outside := by
        by_contra hcaller
        have htid := htracked tid hcaller
        simp [husers] at htid
      rw [Act, TcpConnection.RemoteNext, houtside]
      exact yields_error

theorem perform_of_act {P : Owned ThreadId -> Prop} {i : Input ThreadId}
    (h : Yields (Act owned i) (fun next _ => P next)) :
    Yields (Perform owned i) (fun next _ => P next) := by
  refine yields_settle (h.mono (fun next es hnext => ?_))
  split
  · exact fun _ => hnext
  · exact hnext

theorem perform_sound {tr : List Event} (h : Sound owned tr)
    (i : Input ThreadId) :
    Yields (Perform owned i) (fun next es => Sound next (tr ++ es)) := by
  apply yields_settle
  intro next es hact
  have hchange := act_change h.tracked i next es hact
  by_cases hdead : References owned = 0
  · have hstays := act_dead hdead h.tracked i next es hact
    rw [if_neg (by omega)]
    refine ⟨hchange.tracked h.tracked, hchange.exclusive h.exclusive,
      hchange.unasked h.unasked, ?_, ?_⟩
    · have hdestroyed := h.destroyed.mpr hdead
      simp [hdestroyed, hstays.2]
    · exact fun _ => hstays.1 ▸ h.unregistered hdead
  · have hnot : Event.destroyed ∉ tr := fun hmem =>
      hdead (h.destroyed.mp hmem)
    split
    · rename_i hlast
      intro hdestructible
      refine ⟨hchange.tracked h.tracked, hchange.exclusive h.exclusive,
        hchange.unasked h.unasked, ?_, fun _ => hdestructible.2⟩
      simp [hlast.2]
    · rename_i hlast
      have hleft : References next ≠ 0 := by omega
      refine ⟨hchange.tracked h.tracked, hchange.exclusive h.exclusive,
        hchange.unasked h.unasked, ?_, fun hzero => absurd hzero hleft⟩
      simp [hnot, hchange.undestroyed, hleft]

end Threads

end Ownership
end Net
end Wethands
