import Wethands.Net.TcpConnection.Stream

/-!
# Shutting down

`Shutdown` stores `kDisconnecting` before `ShutdownInLoop` runs, and
`ShutdownInLoop` only closes the writing side of a connection that is still
`kConnected`.  So the writing side is never closed, neither at once nor after
the last byte has been written.
-/

namespace Wethands
namespace Net

open Foundation

namespace TcpConnection

def ClosedWritingOnce (tr : List Event) : Prop :=
  exists before after,
    tr = before ++ Event.shutdownWrite :: after ∧
    Event.shutdownWrite ∉ before ∧ Event.shutdownWrite ∉ after ∧
    Accepted after = []

def States.Leaving : States -> Prop
  | States.kDisconnecting => True
  | States.kDisconnected => True
  | _ => False

section Core

variable {ThreadId : Type}

/-- By the time `ShutdownInLoop` runs, the connection is not connected. -/
structure ShutdownInvariant (core : Core ThreadId) (tr : List Event) :
    Prop where
  never : Event.shutdownWrite ∉ tr
  queued : Functor.shutdownInLoop ∈ core.functors -> core.state_.Leaving
  checked : forall tid, core.callers tid = Caller.shuttingDown ->
    core.state_ ≠ States.kConnecting
  stored : forall tid, core.callers tid = Caller.shutdownStored ->
    core.state_.Leaving

theorem ShutdownInvariant.move {core next : Core ThreadId}
    {tr es : List Event} (h : ShutdownInvariant core tr)
    (hnever : Event.shutdownWrite ∉ es)
    (hleaving : core.state_.Leaving -> next.state_.Leaving)
    (hconnecting : core.state_ ≠ States.kConnecting ->
      next.state_ ≠ States.kConnecting)
    (hfunctors : Functor.shutdownInLoop ∈ next.functors ->
      Functor.shutdownInLoop ∈ core.functors)
    (hcallers : forall tid, (next.callers tid).Plain = false ->
      next.callers tid = core.callers tid) :
    ShutdownInvariant next (tr ++ es) where
  never := by
    intro hmem
    rcases List.mem_append.mp hmem with hold | hnew
    · exact h.never hold
    · exact hnever hnew
  queued := fun hmem => hleaving (h.queued (hfunctors hmem))
  checked := by
    intro tid hcaller
    have hsame := hcallers tid (by rw [hcaller]; rfl)
    exact hconnecting (h.checked tid (by rw [← hsame, hcaller]))
  stored := by
    intro tid hcaller
    have hsame := hcallers tid (by rw [hcaller]; rfl)
    exact hleaving (h.stored tid (by rw [← hsame, hcaller]))

theorem ShutdownInvariant.not_connecting {core : Core ThreadId}
    {tr : List Event} (h : ShutdownInvariant core tr)
    (hstate : core.state_ = States.kConnecting) (tid : ThreadId) :
    (core.callers tid).Plain = true := by
  cases hcaller : core.callers tid with
  | outside => rfl
  | sending data => rfl
  | shuttingDown => exact absurd hstate (h.checked tid hcaller)
  | shutdownStored =>
      have hleaving := h.stored tid hcaller
      rw [hstate] at hleaving
      cases hleaving
  | forceClosing => rfl
  | forceCloseStored => rfl

variable [DecidableEq ThreadId]

theorem update_of_plain {callers : ThreadId -> Caller} {tid other : ThreadId}
    {caller : Caller} (hplain : caller.Plain = true)
    (hother : (Function.update callers tid caller other).Plain = false) :
    Function.update callers tid caller other = callers other := by
  by_cases hsame : other = tid
  · rw [hsame, Function.update_self, hplain] at hother
    cases hother
  · exact Function.update_of_ne hsame _ _

theorem shutdownInvariant_step {core next : Core ThreadId}
    {tr es : List Event} (hinv : ShutdownInvariant core tr)
    (hstep : Core.Step true core next es) :
    ShutdownInvariant next (tr ++ es) := by
  cases hstep with
  | called callback hplain =>
      exact hinv.move (by simp) id id id (fun _ _ => rfl)
  | queued functor hplain =>
      refine hinv.move (by simp) id id ?_ (fun _ _ => rfl)
      intro hmem
      rcases List.mem_append.mp hmem with hold | hnew
      · exact hold
      · rw [← List.mem_singleton.mp hnew] at hplain
        cases hplain
  | took functor rest hplain hfunctors =>
      refine hinv.move (by simp) id id ?_ (fun _ _ => rfl)
      intro hmem
      rw [hfunctors]
      exact List.mem_cons_of_mem _ hmem
  | moved tid caller hplain =>
      exact hinv.move (by simp) id id id (fun _ => update_of_plain hplain)
  | established hstate =>
      refine ⟨?_, ?_, ?_, ?_⟩
      · have hnever := hinv.never
        simp [hnever]
      · intro hmem
        have hleaving := hinv.queued hmem
        rw [hstate] at hleaving
        cases hleaving
      · simp
      · intro tid hcaller
        have hplain := hinv.not_connecting hstate tid
        simp only at hcaller
        rw [hcaller] at hplain
        cases hplain
  | sentAtOnce data hstate hidle =>
      exact hinv.move (by simp) id id id (fun _ _ => rfl)
  | sentPart data n complete hstate hidle hle hrest =>
      exact hinv.move (by simp) id id id (fun _ _ => rfl)
  | sentNothing data errno complete hstate hidle =>
      exact hinv.move (by simp) id id id (fun _ _ => rfl)
  | sentLater data hstate hbusy =>
      exact hinv.move (by simp) id id id (fun _ _ => rfl)
  | wrote n hwriting hpos hle =>
      exact hinv.move (by simp) id id id (fun _ _ => rfl)
  | shutdown hstate =>
      exact hinv.move (by simp) (fun _ => trivial) (by simp) id
        (fun _ _ => rfl)
  | shutdownAfterWrite hstate =>
      exact hinv.move (by simp) id id id (fun _ _ => rfl)
  | tookShutdown rest hfunctors =>
      -- The functor finds the connection no longer connected.
      have hleaving : core.state_.Leaving :=
        hinv.queued (by rw [hfunctors]; exact List.mem_cons_self ..)
      have hstate : core.state_ ≠ States.kConnected := by
        intro hconnected
        rw [hconnected] at hleaving
        cases hleaving
      refine hinv.move ?_ id id ?_ (fun _ _ => rfl)
      · simp [Core.ShutdownEvents, hstate]
      · intro hmem
        rw [hfunctors]
        exact List.mem_cons_of_mem _ hmem
  | shutdownChecked tid hstate =>
      refine ⟨?_, hinv.queued, ?_, ?_⟩
      · have hnever := hinv.never
        simp [hnever]
      · intro other _
        simp [hstate]
      · intro other hother
        by_cases hsame : other = tid
        · subst hsame
          simp at hother
        · simp only [Function.update_of_ne hsame] at hother
          exact hinv.stored other hother
  | shutdownStored tid hcaller hreopen =>
      refine ⟨?_, fun _ => trivial, fun _ _ => by simp, fun _ _ => trivial⟩
      have hnever := hinv.never
      simp [hnever]
  | shutdownQueued tid hcaller =>
      have hleaving := hinv.stored tid hcaller
      have hmoved : ShutdownInvariant
          { core with
            callers := Function.update core.callers tid Caller.outside }
          (tr ++ []) :=
        hinv.move (by simp) id id id (fun _ => update_of_plain rfl)
      exact ⟨hmoved.never, fun _ => hleaving, hmoved.checked, hmoved.stored⟩
  | forceClose hreopen =>
      exact hinv.move (by simp) (fun _ => trivial) (by simp) id
        (fun _ _ => rfl)
  | closed hstate =>
      exact hinv.move (by simp) (fun _ => trivial) (by simp) id
        (fun _ _ => rfl)
  | closedHere hstate =>
      exact hinv.move (by simp) (fun _ => trivial) (by simp) id
        (fun _ _ => rfl)
  | removed removals hremovals =>
      refine hinv.move (by simp) id id ?_ (fun _ _ => rfl)
      intro hmem
      simpa using hmem
  | destroyed rest hstate hfunctors =>
      refine hinv.move (by simp) id id ?_ (fun _ _ => rfl)
      intro hmem
      rw [hfunctors]
      exact List.mem_cons_of_mem _ hmem

theorem shutdownWrite_not_mem {closeCallback : CloseCallback}
    {inputs : List (Input ThreadId)} {world : World ThreadId}
    {tr : List Event}
    (hrun : (ConnectionMachine ThreadId).Run (Init ThreadId closeCallback)
      inputs = some (world, tr)) :
    Event.shutdownWrite ∉ tr := by
  have hinit : ShutdownInvariant (View (Init ThreadId closeCallback)) [] :=
    ⟨by simp, by simp [View, Init], by simp [View, Init],
      by simp [View, Init]⟩
  have hinv : ShutdownInvariant (View world) ([] ++ tr) :=
    Path.invariant (I := ShutdownInvariant) (A := fun _ => True)
      (fun core tr next es hinv _ hstep => shutdownInvariant_step hinv hstep)
      hinit (fun _ _ => trivial) (run_refines hrun)
  exact hinv.never

/--
`Shutdown` was called on a connected connection, `ShutdownInLoop` has run and
nothing waits to be written: the writing side is still open, in every run.
-/
theorem shutdown_never_closes {closeCallback : CloseCallback}
    {inputs : List (Input ThreadId)} {world : World ThreadId}
    {tr : List Event}
    (hrun : (ConnectionMachine ThreadId).Run (Init ThreadId closeCallback)
      inputs = some (world, tr)) :
    Event.shutdown ∈ tr -> Event.handleClose ∉ tr ->
      Event.shutdownInLoop ∈ tr ->
      world.conn.socketChannel_.IsWriting = false ->
      ¬ClosedWritingOnce tr := by
  intro _ _ _ _ hexists
  rcases hexists with ⟨before, after, htr, _, _, _⟩
  apply shutdownWrite_not_mem hrun
  rw [htr]
  simp

end Core

/-!
# Shutting down an idle connection
-/

def IdleShutdown : List (Input Unit) :=
  [Input.runFunctor (WriteResult.wrote 0), Input.returns,
    Input.api Api.shutdown]

def IdleShutdownTrace : List Event :=
  [Event.stored States.kConnecting States.kConnected,
    Event.called (Callback.connection States.kConnected),
    Event.shutdown, Event.stored States.kConnected States.kDisconnecting,
    Event.shutdownInLoop]

theorem idleShutdown_run :
    exists world,
      (ConnectionMachine Unit).Run (Init Unit CloseCallback.sameLoop)
        IdleShutdown = some (world, IdleShutdownTrace) ∧
      world.conn.socketChannel_.IsWriting = false := by
  apply (ConnectionMachine Unit).exists_run
    (fun world => world.conn.socketChannel_.IsWriting)
  decide +kernel

theorem shutdown_counterexample :
    ¬ forall closeCallback (inputs : List (Input Unit)) world tr,
      (ConnectionMachine Unit).Run (Init Unit closeCallback) inputs =
        some (world, tr) ->
      Event.shutdown ∈ tr -> Event.handleClose ∉ tr ->
      Event.shutdownInLoop ∈ tr ->
      world.conn.socketChannel_.IsWriting = false ->
      ClosedWritingOnce tr := by
  intro hclaim
  rcases idleShutdown_run with ⟨world, hworld, hidle⟩
  rcases hclaim _ _ world _ hworld (by decide) (by decide) (by decide)
    hidle with ⟨before, after, heq, _, _, _⟩
  have hmem : Event.shutdownWrite ∈ IdleShutdownTrace := by
    rw [heq]
    simp
  exact absurd hmem (by decide)

theorem shutdown_never_closes_idle :
    exists world,
      (ConnectionMachine Unit).Run (Init Unit CloseCallback.sameLoop)
        IdleShutdown = some (world, IdleShutdownTrace) ∧
      ¬ClosedWritingOnce IdleShutdownTrace := by
  rcases idleShutdown_run with ⟨world, hworld, hidle⟩
  exact ⟨world, hworld,
    shutdown_never_closes hworld (by decide) (by decide) (by decide) hidle⟩

end TcpConnection
end Net
end Wethands
