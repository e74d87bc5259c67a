import Wethands.Net.TcpConnection.Core

/-!
# Interest in writing

The channel is to be registered for writability exactly while the output buffer
holds bytes.  A direct write can break this in one way: it leaves nothing for
the buffer, no callback makes `SendInLoop` return, and the interest is set all
the same.
-/

namespace Wethands
namespace Net

open Foundation

namespace TcpConnection

/--
A direct write leaves bytes for the buffer, or is complete and has a callback
to report to.
-/
def Event.NeedsInterest : Event -> Prop
  | Event.directWrite len (WriteResult.wrote n) complete =>
      n < len ∨ complete = true
  | Event.directWrite len (WriteResult.failed _) _ => 0 < len
  | _ => True

instance (e : Event) : Decidable e.NeedsInterest := by
  unfold Event.NeedsInterest
  split <;> infer_instance

section Core

variable {ThreadId : Type}

/-- Until the connection is closed, interest and output go together. -/
def InterestInvariant (core : Core ThreadId) (tr : List Event) : Prop :=
  Event.handleClose ∉ tr ->
    core.state_ ≠ States.kDisconnected ∧
      (core.writing = true <-> core.output ≠ [])

theorem InterestInvariant.before {core : Core ThreadId}
    {tr es : List Event} (h : InterestInvariant core tr)
    (hopen : Event.handleClose ∉ tr ++ es) :
    core.state_ ≠ States.kDisconnected ∧
      (core.writing = true <-> core.output ≠ []) :=
  h (fun hmem => hopen (List.mem_append.mpr (Or.inl hmem)))

theorem not_idle {core : Core ThreadId}
    (hinterest : core.writing = true <-> core.output ≠ [])
    (hbusy : ¬(core.writing = false ∧ core.output = [])) :
    core.output ≠ [] := by
  intro hempty
  apply hbusy
  refine ⟨?_, hempty⟩
  rw [← Bool.not_eq_true]
  exact fun hwriting => hinterest.mp hwriting hempty

variable [DecidableEq ThreadId]

theorem interestInvariant_step {core next : Core ThreadId}
    {tr es : List Event} (hinv : InterestInvariant core tr)
    (hallowed : forall e, e ∈ es -> e.NeedsInterest)
    (hstep : Core.Step true core next es) :
    InterestInvariant next (tr ++ es) := by
  intro hopen
  have hbefore := hinv.before hopen
  cases hstep with
  | called callback hplain => exact hbefore
  | queued functor hplain => exact hbefore
  | took functor rest hplain hfunctors => exact hbefore
  | moved tid caller hplain => exact hbefore
  | established hstate => exact ⟨by simp, hbefore.2⟩
  | sentAtOnce data hstate hidle => exact hbefore
  | sentPart data n complete hstate hidle hle hrest =>
      refine ⟨hbefore.1, ?_⟩
      have hneeds : n < data.length ∨ complete = true :=
        hallowed _ (List.mem_cons_of_mem _ (List.mem_cons_self ..))
      have hshort : n < data.length := by
        rcases hrest with hlt | hunset
        · exact hlt
        · rcases hneeds with hlt | hset
          · exact hlt
          · rw [hunset] at hset
            cases hset
      have hne : data.drop n ≠ [] := by
        rw [Ne, List.drop_eq_nil_iff]
        omega
      simp [hne]
  | sentNothing data errno complete hstate hidle =>
      refine ⟨hbefore.1, ?_⟩
      have hpos : 0 < data.length :=
        hallowed _ (List.mem_cons_of_mem _ (List.mem_cons_self ..))
      simp [List.length_pos_iff.mp hpos]
  | sentLater data hstate hbusy =>
      refine ⟨hbefore.1, ?_⟩
      simp [not_idle hbefore.2 hbusy]
  | wrote n hwriting hpos hle =>
      exact ⟨hbefore.1, decide_eq_true_iff⟩
  | shutdown hstate => exact ⟨by simp, hbefore.2⟩
  | shutdownAfterWrite hstate => exact hbefore
  | tookShutdown rest hfunctors => exact hbefore
  | shutdownChecked tid hstate => exact hbefore
  | shutdownStored tid hcaller hreopen => exact ⟨by simp, hbefore.2⟩
  | shutdownQueued tid hcaller => exact hbefore
  | forceClose hreopen => exact ⟨by simp, hbefore.2⟩
  | closed hstate => exact absurd (by simp) hopen
  | closedHere hstate => exact absurd (by simp) hopen
  | removed removals hremovals => exact hbefore
  | destroyed rest hstate hfunctors => exact absurd hstate hbefore.1

/--
While every direct write leaves bytes for the buffer or has a callback to
report to, the channel is interested in writing exactly when bytes wait.
-/
theorem isWriting_iff_pending {closeCallback : CloseCallback}
    {inputs : List (Input ThreadId)} {world : World ThreadId}
    {tr : List Event}
    (hrun : (ConnectionMachine ThreadId).Run (Init ThreadId closeCallback)
      inputs = some (world, tr))
    (hallowed : forall e, e ∈ tr -> e.NeedsInterest)
    (hopen : Event.handleClose ∉ tr) :
    world.conn.socketChannel_.IsWriting = true <->
      0 < world.conn.outputBuffer_.ReadableBytes := by
  have hinit : InterestInvariant (View (Init ThreadId closeCallback)) [] := by
    intro _
    have hempty := Buffer.readable_new Buffer.kInitialSize
    simp [View, Init, New, hempty]
  have hinv : InterestInvariant (View world) ([] ++ tr) :=
    Path.invariant (I := InterestInvariant) (A := Event.NeedsInterest)
      (fun core tr next es hinv hes hstep =>
        interestInvariant_step hinv hes hstep)
      hinit hallowed (run_refines hrun)
  rw [← Buffer.length_readable, List.length_pos_iff]
  exact (hinv hopen).2

end Core

/-!
# A complete write without a callback

The socket takes the only byte at once and no `writeCompleteCallback_` is set.
The channel is registered for writability with an empty buffer.
-/

def CompleteRun : List (Input Unit) :=
  [Input.runFunctor (WriteResult.wrote 0), Input.returns,
    Input.api (Api.send [1] (WriteResult.wrote 1))]

def CompleteTrace : List Event :=
  [Event.stored States.kConnecting States.kConnected,
    Event.called (Callback.connection States.kConnected),
    Event.sendInLoop [1], Event.directWrite 1 (WriteResult.wrote 1) false,
    Event.accepted [1]]

theorem isWriting_counterexample :
    ¬ forall closeCallback (inputs : List (Input Unit)) world tr,
      (ConnectionMachine Unit).Run (Init Unit closeCallback) inputs =
        some (world, tr) ->
      Event.handleClose ∉ tr -> world.stack = [] ->
      (world.conn.socketChannel_.IsWriting = true <->
        0 < world.conn.outputBuffer_.ReadableBytes) := by
  intro hclaim
  have hrun : ((ConnectionMachine Unit).Run
      (Init Unit CloseCallback.sameLoop) CompleteRun).map
        (fun last => ((last.1.stack, last.1.conn.socketChannel_.IsWriting,
          last.1.conn.outputBuffer_.ReadableBytes), last.2)) =
      some (([], true, 0), CompleteTrace) := by
    decide +kernel
  rcases (ConnectionMachine Unit).exists_run
    (fun world => (world.stack, world.conn.socketChannel_.IsWriting,
      world.conn.outputBuffer_.ReadableBytes)) hrun with
    ⟨world, hworld, hlast⟩
  simp only [Prod.mk.injEq] at hlast
  have hiff := hclaim _ _ world _ hworld (by decide) hlast.1
  rw [hlast.2.1, hlast.2.2] at hiff
  exact absurd (hiff.mp rfl) (Nat.lt_irrefl 0)

def ShortRun : List (Input Unit) :=
  [Input.runFunctor (WriteResult.wrote 0), Input.returns,
    Input.api (Api.send [1, 2] (WriteResult.wrote 1))]

def ShortTrace : List Event :=
  [Event.stored States.kConnecting States.kConnected,
    Event.called (Callback.connection States.kConnected),
    Event.sendInLoop [1, 2], Event.directWrite 2 (WriteResult.wrote 1) false,
    Event.accepted [1]]

theorem isWriting_iff_pending_short :
    exists world,
      (ConnectionMachine Unit).Run (Init Unit CloseCallback.sameLoop)
        ShortRun = some (world, ShortTrace) ∧
      (world.conn.socketChannel_.IsWriting = true <->
        0 < world.conn.outputBuffer_.ReadableBytes) := by
  have hrun : ((ConnectionMachine Unit).Run
      (Init Unit CloseCallback.sameLoop) ShortRun).map
        (fun last => (last.1.conn.state_, last.2)) =
      some (States.kConnected, ShortTrace) := by
    decide +kernel
  rcases (ConnectionMachine Unit).exists_run
    (fun world => world.conn.state_) hrun with ⟨world, hworld, _⟩
  exact ⟨world, hworld,
    isWriting_iff_pending hworld (by decide) (by decide)⟩

end TcpConnection
end Net
end Wethands
