import Wethands.Net.Teardown.Orderly
import Wethands.Net.TcpConnection.Terminal

/-!
# A connection with an owner on the same loop

When it calls its owner, `ConnectionDestroyed` has run before the call is over,
and the owner has let go of it.  Nothing but the owner decides when it does,
and a connection that the owner has let go of does not call it again.
-/

namespace Wethands
namespace Net

open Foundation Reactor

namespace Teardown

open TcpConnection (World Functor Frame Callback CloseCallback States
  ReadResult WriteResult Api Core View Refines)
open Ownership (Owned Act Branch References Destructible Within Test Tracked
  yields_when yields_return yields_handleEvent yields_resume yields_runFunctor
  yields_drained)

variable {ThreadId : Type} {owned : Owned ThreadId}

/-!
# What the owner is told
-/

def Lists (owned next : Owned ThreadId) (es : List Ownership.Event) : Prop :=
  next.listed = (owned.listed && !decide (TellsServer es))

theorem lists_refl (owned : Owned ThreadId) : Lists owned owned [] := by
  simp [Lists, TellsServer]

theorem Lists.after {mid next : Owned ThreadId} {e : Ownership.Event}
    {es : List Ownership.Event} (h : Lists mid next es)
    (hlisted : mid.listed = owned.listed)
    (he : e ≠ Ownership.Event.conn
      (TcpConnection.Event.called Callback.close)) :
    Lists owned next ([e] ++ es) := by
  have htells : TellsServer ([e] ++ es) <-> TellsServer es := by
    simp [TellsServer, Ne.symm he]
  rw [Lists, ← hlisted, decide_eq_decide.mpr htells]
  exact h

theorem within_lists
    (hsame : owned.world.conn.closeCallback_ = CloseCallback.sameLoop)
    (call : Call (World ThreadId) TcpConnection.Event) :
    Yields (Within owned call) (Lists owned) := by
  unfold Within
  split
  · exact yields_error
  · refine yields_ok.mpr ?_
    simp [Lists, TellsServer, hsame]

theorem test_lists
    (hsame : owned.world.conn.closeCallback_ = CloseCallback.sameLoop)
    (revents : BitVec 32) (branch : Branch) (left : List Branch)
    (read : ReadResult) (write : WriteResult) :
    Yields (Test owned revents branch left read write) (Lists owned) := by
  have htaken : ({ owned with
      dispatch := Ownership.Dispatch.handling revents left } :
      Owned ThreadId).world.conn.closeCallback_ = CloseCallback.sameLoop :=
    hsame
  unfold Test
  dsimp only
  split
  · exact within_lists htaken _
  · exact yields_ok.mpr (lists_refl _)

section Threads

variable [DecidableEq ThreadId]

theorem act_lists
    (hsame : owned.world.conn.closeCallback_ = CloseCallback.sameLoop)
    {i : Ownership.Input ThreadId}
    (hserver : i ≠ Ownership.Input.removeConnectionInLoop) :
    Yields (Act owned i) (Lists owned) := by
  have hidle : forall (p : Prop) [Decidable p] (next : Owned ThreadId),
      next.listed = owned.listed ->
      Yields (Ownership.When p (Except.ok (next, []))) (Lists owned) := by
    intro p _ next hlisted
    apply yields_when
    intro _
    refine yields_ok.mpr ?_
    simp [Lists, TellsServer, hlisted]
  cases i with
  | api api => exact yields_when (fun _ => within_lists hsame _)
  | returns => exact yields_return (fun _ _ _ => within_lists hsame _)
  | keep tid => exact hidle _ _ rfl
  | drop tid => exact hidle _ _ rfl
  | poll revents => exact hidle _ _ rfl
  | handleEvent read write =>
      exact yields_when (fun _ => yields_handleEvent
        (fun _ _ _ => test_lists hsame _ _ _ read write))
  | resume read write =>
      refine yields_when (fun _ => yields_resume ?_ ?_)
      · exact fun _ _ _ => (lists_refl owned).after rfl (by simp)
      · intro revents branch left _ _
        exact (test_lists hsame revents branch left read write).mono
          (fun _ _ hnext => hnext.after rfl (by simp))
  | swap => exact hidle _ _ rfl
  | runFunctor result =>
      refine yields_when (fun _ => yields_runFunctor ?_)
      intro left ran functor rest _ _ _
      have htaken : (Ownership.Taken owned left ran functor rest
          ).world.conn.closeCallback_ = CloseCallback.sameLoop := hsame
      exact (within_lists htaken _).mono
        (fun _ _ hnext => Lists.after hnext rfl (by simp))
  | drained =>
      exact yields_when (fun _ => yields_drained (fun _ _ => lists_refl _))
  | removeConnectionInLoop => exact absurd rfl hserver
  | serverDrained => exact hidle _ _ rfl
  | remoteCall tid api => exact yields_when (fun _ => within_lists hsame _)
  | remoteNext tid => exact within_lists hsame _

/-!
# Who may tell it
-/

theorem silent_step {core next : Core ThreadId}
    {es : List TcpConnection.Event}
    (h : core.state_ = States.kDisconnected)
    (hstep : Core.Step false core next es) :
    next.state_ = States.kDisconnected ∧ TcpConnection.CloseNotice ∉ es := by
  have hnot : forall {state_}, core.state_ = state_ ->
      state_ ≠ States.kDisconnected -> False := by
    rintro state_ rfl hne
    exact hne h
  cases hstep with
  | called callback hplain =>
      refine ⟨h, ?_⟩
      rw [List.mem_singleton, TcpConnection.CloseNotice]
      intro heq
      cases heq
      cases hplain
  | established hstate => exact (hnot hstate (by decide)).elim
  | sentAtOnce data hstate hidle => exact (hnot hstate (by decide)).elim
  | sentPart data n complete hstate hidle hle hrest =>
      exact (hnot hstate (by decide)).elim
  | sentNothing data errno complete hstate hidle =>
      exact (hnot hstate (by decide)).elim
  | sentLater data hstate hbusy => exact (hnot hstate (by decide)).elim
  | shutdown hstate => exact (hnot hstate (by decide)).elim
  | shutdownAfterWrite hstate => exact (hnot hstate (by decide)).elim
  | shutdownChecked tid hstate => exact (hnot hstate (by decide)).elim
  | shutdownStored tid hcaller hreopen => simp [h] at hreopen
  | forceClose hreopen => simp [h] at hreopen
  | closed hstate | closedHere hstate =>
      rcases hstate with hconnected | hleaving
      · exact (hnot hconnected (by decide)).elim
      · exact (hnot hleaving (by decide)).elim
  | tookShutdown rest hfunctors =>
      refine ⟨h, ?_⟩
      unfold Core.ShutdownEvents
      split <;> simp [TcpConnection.CloseNotice]
  | queued functor hplain => exact ⟨h, by simp⟩
  | took functor rest hplain hfunctors => exact ⟨h, by simp⟩
  | moved tid caller hplain => exact ⟨h, by simp⟩
  | wrote n hwriting hpos hle =>
      exact ⟨h, by simp [TcpConnection.CloseNotice]⟩
  | shutdownQueued tid hcaller => exact ⟨h, by simp⟩
  | removed removals hremovals => exact ⟨h, by simp⟩
  | destroyed rest hstate hfunctors =>
      exact ⟨h, by simp [TcpConnection.CloseNotice]⟩

theorem silent_path {core next : Core ThreadId}
    {es : List TcpConnection.Event}
    (h : core.state_ = States.kDisconnected)
    (hpath : Path (Core.Step false) core next es) :
    TcpConnection.CloseNotice ∉ es := by
  have hlast := Path.invariant (I := fun core tr =>
      core.state_ = States.kDisconnected ∧ TcpConnection.CloseNotice ∉ tr)
    (A := fun _ => True) (p := []) (fun mid tr last es hinv _ hstep => by
      have hnext := silent_step hinv.1 hstep
      rw [List.mem_append, not_or]
      exact ⟨hnext.1, hinv.2, hnext.2⟩)
    ⟨h, by simp⟩ (fun _ _ => trivial) hpath
  exact hlast.2

/-- A connection that is `kDisconnected` does not call its owner. -/
theorem act_silent {i : Ownership.Input ThreadId} (h : ¬Reopens owned i)
    (hstate : owned.world.conn.state_ = States.kDisconnected) :
    Yields (Act owned i) (fun _ es => ¬TellsServer es) := by
  have hpath : Yields (Act owned i) (fun next es =>
      Path (Core.Step false) (View owned.world) (View next.world)
        (es.filterMap Ownership.Event.OfConnection)) :=
    Ownership.act_world (P := fun next es =>
      Path (Core.Step false) (View owned.world) (View next) es) (Path.nil _)
      (fun _ hmakes => makes_refines h hmakes)
  intro next es hact htells
  refine silent_path hstate (hpath next es hact) ?_
  exact List.mem_filterMap.mpr ⟨_, htells, rfl⟩

/-!
# A connection that is kept
-/

def Member.Own (owned : Owned ThreadId) : Member ThreadId where
  owned := owned
  loop_ := none
  visited := false
  ended := false

structure Kept (owned : Owned ThreadId) : Prop where
  sound : Sound (Member.Own owned)
  owner : owned.world.conn.closeCallback_ = CloseCallback.sameLoop
  tracked : Tracked owned

structure Keeps (owned next : Owned ThreadId) (es : List Ownership.Event) :
    Prop where
  kept : Kept next
  lists : Lists owned next es
  tells : TellsServer es -> owned.listed = true

omit [DecidableEq ThreadId] in
theorem kept_init :
    Kept (Ownership.Init ThreadId CloseCallback.sameLoop) where
  sound := sound_newMember none
  owner := rfl
  tracked := fun _ hcaller => absurd rfl hcaller

omit [DecidableEq ThreadId] in
/-- The owner has let go of a connection only when it was closed. -/
theorem Kept.closed (h : Kept owned) (hlisted : owned.listed = false) :
    owned.world.conn.state_ = States.kDisconnected := by
  rcases h.sound.accounted with ⟨hkept, _⟩ | hqueued | hretired
  · rw [Member.Own, hlisted] at hkept
    cases hkept
  · exact h.sound.settled (Or.inr hqueued)
  · exact hretired.disconnected

omit [DecidableEq ThreadId] in
theorem Kept.destructible (h : Kept owned) (hlast : References owned = 0) :
    Destructible owned :=
  (retired_of_last h.sound.accounted hlast).destructible

omit [DecidableEq ThreadId] in
theorem Kept.keep (h : Kept owned) (tid : ThreadId) :
    Kept { owned with users := tid :: owned.users } where
  sound := ⟨h.sound.settled, h.sound.accounted, h.sound.ended⟩
  owner := h.owner
  tracked := fun tid' hcaller =>
    List.mem_cons_of_mem _ (h.tracked tid' hcaller)

theorem Kept.act (h : Kept owned) {i : Ownership.Input ThreadId}
    (hserver : i ≠ Ownership.Input.removeConnectionInLoop)
    (hreopens : ¬Reopens owned i) (hagain : ¬ReadsAgain owned i) :
    Yields (Act owned i) (Keeps owned) := by
  intro next es hact
  have hsound : Yields (Act owned i) (fun next _ => Sound (Member.Own next)) :=
    h.sound.act hreopens hagain
  have hchange := Ownership.act_change h.tracked i next es hact
  refine ⟨⟨hsound next es hact, ?_, hchange.tracked h.tracked⟩, ?_, ?_⟩
  · exact hchange.owner.trans h.owner
  · exact act_lists h.owner hserver next es hact
  · intro htells
    by_contra hlisted
    rw [Bool.not_eq_true] at hlisted
    exact act_silent hreopens (h.closed hlisted) next es hact htells

theorem Kept.shutdown (h : Kept owned) :
    Yields (Within owned (TcpConnection.Shutdown owned.world))
      (fun next es => Keeps owned next es ∧ ¬TellsServer es) := by
  have hreopens : ¬Reopens owned (Ownership.Input.api Api.shutdown) :=
    fun hreopens => hreopens.2
  have heffect := Ownership.callApi_effect owned.world Api.shutdown
  intro next es hcall
  have hchange := Ownership.Change.within heffect next es hcall
  have hpath := Ownership.within_world (P := fun next es =>
    Path (Core.Step false) (View owned.world) (View next) es)
    (makes_refines hreopens (Ownership.Makes.api Api.shutdown)) next es hcall
  have haccounted := within_accounted h.sound.accounted
    (heffect.mono (fun _ _ hnext => hnext.functors))
    (finishes_callApi owned.world Api.shutdown)
    (rests_shutdown owned.world) next es hcall
  have hsilent : ¬TellsServer es := by
    intro htells
    have hcloses := Ownership.within_world
      (heffect.mono (fun _ _ hnext => hnext.closes)) next es hcall
    cases hcloses (List.mem_filterMap.mpr ⟨_, htells, rfl⟩)
  refine ⟨⟨⟨⟨?_, haccounted, ?_⟩, ?_, hchange.tracked h.tracked⟩, ?_, ?_⟩,
    hsilent⟩
  · exact settled_path h.sound.settled hpath
  · intro hended
    cases hended
  · exact hchange.owner.trans h.owner
  · exact within_lists h.owner _ next es hcall
  · exact fun htells => absurd htells hsilent

end Threads
end Teardown
end Net
end Wethands
