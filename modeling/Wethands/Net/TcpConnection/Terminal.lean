import Wethands.Net.TcpConnection.Core

/-!
# The end of a connection

A connection that is `kDisconnected` stays so, tells its owner once and its user
once.  The only way out is a store of `kDisconnecting`: the condition of
`ForceClose` is always true, and a `Shutdown` of another thread may have made
its check before the connection was closed.
-/

namespace Wethands
namespace Net

open Foundation

namespace TcpConnection

def CloseNotice : Event :=
  Event.called Callback.close

def DisconnectNotice : Event :=
  Event.called (Callback.connection States.kDisconnected)

structure StaysDisconnected (tr : List Event) : Prop where
  terminal : forall new, Event.stored States.kDisconnected new ∉ tr
  close_le : tr.count CloseNotice ≤ 1
  disconnect_le : tr.count DisconnectNotice ≤ 1

section Core

variable {ThreadId : Type}

/-- Each close notice becomes one disconnect notice, on the way or delivered. -/
structure TerminalInvariant (core : Core ThreadId) (tr : List Event) :
    Prop where
  terminal : forall new, Event.stored States.kDisconnected new ∉ tr
  closed : tr.count CloseNotice =
    if core.state_ = States.kDisconnected then 1 else 0
  owed : tr.count DisconnectNotice +
    core.functors.count Functor.connectionDestroyed + core.removals =
      tr.count CloseNotice

theorem TerminalInvariant.staysDisconnected {core : Core ThreadId}
    {tr : List Event} (h : TerminalInvariant core tr) :
    StaysDisconnected tr := by
  have hclosed : tr.count CloseNotice ≤ 1 := by
    rw [h.closed]
    split <;> omega
  have howed := h.owed
  exact ⟨h.terminal, hclosed, by omega⟩

theorem TerminalInvariant.move {core next : Core ThreadId}
    {tr es : List Event} (h : TerminalInvariant core tr)
    (hterminal : forall new, Event.stored States.kDisconnected new ∉ es)
    (hclose : es.count CloseNotice = 0)
    (hdisconnect : es.count DisconnectNotice = 0)
    (hstate : next.state_ = States.kDisconnected <->
      core.state_ = States.kDisconnected)
    (hfunctors : next.functors.count Functor.connectionDestroyed =
      core.functors.count Functor.connectionDestroyed)
    (hremovals : next.removals = core.removals) :
    TerminalInvariant next (tr ++ es) where
  terminal := by
    intro new hmem
    rcases List.mem_append.mp hmem with hold | hnew
    · exact h.terminal new hold
    · exact hterminal new hnew
  closed := by
    rw [List.count_append, hclose, h.closed]
    simp only [hstate, Nat.add_zero]
  owed := by
    have howed := h.owed
    rw [List.count_append, List.count_append, hclose, hdisconnect, hfunctors,
      hremovals]
    omega

theorem TerminalInvariant.close {core next : Core ThreadId}
    {tr es : List Event} (n : Nat) (h : TerminalInvariant core tr)
    (hstate : core.state_ = States.kConnected ∨
      core.state_ = States.kDisconnecting)
    (hnext : next.state_ = States.kDisconnected)
    (hclose : es.count CloseNotice = 1)
    (hdisconnect : es.count DisconnectNotice = n)
    (hterminal : core.state_ ≠ States.kDisconnected ->
      forall new, Event.stored States.kDisconnected new ∉ es)
    (hdebt : n + next.functors.count Functor.connectionDestroyed +
        next.removals =
      core.functors.count Functor.connectionDestroyed + core.removals + 1) :
    TerminalInvariant next (tr ++ es) := by
  have hopen : core.state_ ≠ States.kDisconnected := by
    rcases hstate with hconnected | hleaving
    · simp [hconnected]
    · simp [hleaving]
  have hclosed := h.closed
  have howed := h.owed
  rw [if_neg hopen] at hclosed
  refine ⟨?_, ?_, ?_⟩
  · intro new hmem
    rcases List.mem_append.mp hmem with hold | hnew
    · exact h.terminal new hold
    · exact hterminal hopen new hnew
  · rw [List.count_append, hclosed, hclose, if_pos hnext]
  · rw [List.count_append, List.count_append, hclose, hdisconnect]
    omega

theorem count_functors_of_plain {functor : Functor}
    (hplain : functor.Plain = true) :
    [functor].count Functor.connectionDestroyed = 0 := by
  cases functor <;> first | rfl | cases hplain

variable [DecidableEq ThreadId]

theorem terminalInvariant_step {core next : Core ThreadId}
    {tr es : List Event} (hinv : TerminalInvariant core tr)
    (hstep : Core.Step false core next es) :
    TerminalInvariant next (tr ++ es) := by
  cases hstep with
  | called callback hplain =>
      refine hinv.move (by simp) ?_ ?_ Iff.rfl rfl rfl
      · cases callback <;> first | rfl | cases hplain
      · cases callback <;> first | rfl | cases hplain
  | queued functor hplain =>
      refine hinv.move (by simp) rfl rfl Iff.rfl ?_ rfl
      simp [count_functors_of_plain hplain]
  | took functor rest hplain hfunctors =>
      refine hinv.move (by simp) rfl rfl Iff.rfl ?_ rfl
      rw [hfunctors, ← List.singleton_append, List.count_append,
        count_functors_of_plain hplain, Nat.zero_add]
  | moved tid caller hplain =>
      exact hinv.move (by simp) rfl rfl Iff.rfl rfl rfl
  | established hstate =>
      exact hinv.move (by simp) rfl rfl (by simp [hstate]) rfl rfl
  | sentAtOnce data hstate hidle =>
      exact hinv.move (by simp) rfl rfl Iff.rfl rfl rfl
  | sentPart data n complete hstate hidle hle hrest =>
      exact hinv.move (by simp) rfl rfl Iff.rfl rfl rfl
  | sentNothing data errno complete hstate hidle =>
      exact hinv.move (by simp) rfl rfl Iff.rfl rfl rfl
  | sentLater data hstate hbusy =>
      exact hinv.move (by simp) rfl rfl Iff.rfl rfl rfl
  | wrote n hwriting hpos hle =>
      exact hinv.move (by simp) rfl rfl Iff.rfl rfl rfl
  | shutdown hstate =>
      exact hinv.move (by simp) rfl rfl (by simp [hstate]) rfl rfl
  | shutdownAfterWrite hstate =>
      exact hinv.move (by simp) rfl rfl Iff.rfl rfl rfl
  | tookShutdown rest hfunctors =>
      unfold Core.ShutdownEvents
      have hcount : rest.count Functor.connectionDestroyed =
          core.functors.count Functor.connectionDestroyed := by
        rw [hfunctors, List.count_cons_of_ne (by decide)]
      split
      · exact hinv.move (by simp) rfl rfl Iff.rfl hcount rfl
      · exact hinv.move (by simp) rfl rfl Iff.rfl hcount rfl
  | shutdownChecked tid hstate =>
      exact hinv.move (by simp) rfl rfl Iff.rfl rfl rfl
  | shutdownStored tid hcaller hreopen =>
      have hopen : core.state_ ≠ States.kDisconnected := by
        simpa using hreopen
      exact hinv.move (by simp [hopen.symm]) rfl rfl (by simp [hopen]) rfl rfl
  | shutdownQueued tid hcaller =>
      refine hinv.move (by simp) rfl rfl Iff.rfl ?_ rfl
      simp
  | forceClose hreopen =>
      have hopen : core.state_ ≠ States.kDisconnected := by
        simpa using hreopen
      exact hinv.move (by simp [hopen.symm]) rfl rfl (by simp [hopen]) rfl rfl
  | closed hstate =>
      apply hinv.close 0 hstate rfl rfl rfl
      · intro hopen new
        simp [hopen.symm]
      · dsimp only
        omega
  | closedHere hstate =>
      apply hinv.close 1 hstate rfl rfl rfl
      · intro hopen new
        simp [hopen.symm]
      · dsimp only
        omega
  | removed removals hremovals =>
      have howed := hinv.owed
      refine ⟨by simpa using hinv.terminal, by simpa using hinv.closed, ?_⟩
      simp only [List.append_nil, List.count_append,
        List.count_singleton_self]
      omega
  | destroyed rest hstate hfunctors =>
      have howed := hinv.owed
      rw [hfunctors, List.count_cons_self] at howed
      have hclose : (tr ++ [DisconnectNotice]).count CloseNotice =
          tr.count CloseNotice := List.count_append
      have hdisconnect : (tr ++ [DisconnectNotice]).count DisconnectNotice =
          tr.count DisconnectNotice + 1 := by
        rw [List.count_append, List.count_singleton_self]
      refine ⟨?_, hclose.trans hinv.closed, ?_⟩
      · intro new
        simp [hinv.terminal new]
      · refine Eq.trans ?_ hclose.symm
        refine Eq.trans ?_ howed
        change (tr ++ [DisconnectNotice]).count DisconnectNotice + _ + _ = _
        rw [hdisconnect]
        dsimp only
        omega

/-!
# Runs
-/

/-- No input of the run stores `kDisconnecting` over `kDisconnected`. -/
def NeverReopened (world : World ThreadId) (inputs : List (Input ThreadId)) :
    Prop :=
  (ConnectionMachine ThreadId).Guarded
    (fun world i => ¬Reopens world i) world inputs

theorem stored_of_reopens {world next : World ThreadId}
    {i : Input ThreadId} {es : List Event} (h : Reopens world i)
    (hstep : (ConnectionMachine ThreadId).Step world i = some (next, es)) :
    Event.stored States.kDisconnected States.kDisconnecting ∈ es := by
  have hcall := answer_eq_some.mp hstep
  rcases h with ⟨hstate, hkind⟩
  cases i with
  | api api =>
      cases api with
      | forceClose =>
          have hmay : MayForceClose world := Or.inr (by decide)
          simp only [Perform, CallApi, ForceClose, if_pos hmay] at hcall
          rcases then_ok_eq_ok.mp hcall with ⟨es', _, rfl⟩
          simp [hstate]
      | _ => cases hkind
  | remoteNext tid =>
      rcases hkind with hcaller | hcaller
      · simp only [Perform, RemoteNext, hcaller] at hcall
        cases hcall
        simp [SetCaller, hstate]
      · simp only [Perform, RemoteNext, hcaller] at hcall
        cases hcall
        simp [SetCaller, hstate]
  | _ => cases hkind

theorem neverReopened_of_terminal {inputs : List (Input ThreadId)}
    {world next : World ThreadId} {tr : List Event}
    (hrun : (ConnectionMachine ThreadId).Run world inputs = some (next, tr))
    (hterminal : forall new, Event.stored States.kDisconnected new ∉ tr) :
    NeverReopened world inputs := by
  induction inputs generalizing world tr with
  | nil => trivial
  | cons i rest ih =>
      rcases Machine.run_cons_eq_some.mp hrun with
        ⟨mid, es, tail, hone, hrest, rfl⟩
      refine (Machine.guarded_cons hone).mpr ⟨?_, ih hrest ?_⟩
      · intro hreopens
        exact hterminal _
          (List.mem_append.mpr (Or.inl (stored_of_reopens hreopens hone)))
      · intro new hmem
        exact hterminal new (List.mem_append.mpr (Or.inr hmem))

/--
A connection stays disconnected, and tells so once, exactly in the runs in which
no `ForceClose`, and no late store of another thread, finds it disconnected.
-/
theorem staysDisconnected_iff {closeCallback : CloseCallback}
    {inputs : List (Input ThreadId)} {world : World ThreadId}
    {tr : List Event}
    (hrun : (ConnectionMachine ThreadId).Run (Init ThreadId closeCallback)
      inputs = some (world, tr)) :
    StaysDisconnected tr <->
      NeverReopened (Init ThreadId closeCallback) inputs := by
  constructor
  · intro hstays
    exact neverReopened_of_terminal hrun hstays.terminal
  · intro hnever
    have hinit : TerminalInvariant (View (Init ThreadId closeCallback)) [] :=
      ⟨by simp, by simp [View, Init, New], by simp [View, Init]⟩
    have hpath : Path (Core.Step false) (View (Init ThreadId closeCallback))
        (View world) tr :=
      Path.of_guarded_run
        (fun world i next es hguard hstep =>
          refines_perform (Or.inr hguard) next es (answer_eq_some.mp hstep))
        hnever hrun
    have hinv : TerminalInvariant (View world) ([] ++ tr) :=
      Path.invariant (I := TerminalInvariant) (A := fun _ => True)
        (fun core tr next es hinv _ hstep => terminalInvariant_step hinv hstep)
        hinit (fun _ _ => trivial) hpath
    exact hinv.staysDisconnected

end Core

/-!
# A close that is forced too late

The peer has closed the connection.  `ForceClose` is called all the same, and
the connection is closed and destroyed a second time.
-/

def LateForceClose : List (Input Unit) :=
  [Input.runFunctor (WriteResult.wrote 0), Input.returns,
    Input.handleRead (ReadResult.received []), Input.returns,
    Input.api Api.forceClose]

def LateForceCloseTrace : List Event :=
  [Event.stored States.kConnecting States.kConnected,
    Event.called (Callback.connection States.kConnected),
    Event.handleClose, Event.stored States.kConnected States.kDisconnected,
    CloseNotice, DisconnectNotice,
    Event.stored States.kDisconnected States.kDisconnecting,
    Event.handleClose,
    Event.stored States.kDisconnecting States.kDisconnected,
    CloseNotice, DisconnectNotice]

theorem staysDisconnected_counterexample :
    ¬ forall closeCallback (inputs : List (Input Unit)) world tr,
      (ConnectionMachine Unit).Run (Init Unit closeCallback) inputs =
        some (world, tr) ->
      StaysDisconnected tr := by
  intro hclaim
  have hrun : ((ConnectionMachine Unit).Run
      (Init Unit CloseCallback.sameLoop) LateForceClose).map
        (fun last => (last.1.conn.state_, last.2)) =
      some (States.kDisconnected, LateForceCloseTrace) := by
    decide +kernel
  rcases (ConnectionMachine Unit).exists_run
    (fun world => world.conn.state_) hrun with ⟨world, hworld, _⟩
  exact absurd (hclaim _ _ world _ hworld).close_le (by decide)

def PeerCloses : List (Input Unit) :=
  [Input.runFunctor (WriteResult.wrote 0), Input.returns,
    Input.handleRead (ReadResult.received [])]

def PeerClosesTrace : List Event :=
  [Event.stored States.kConnecting States.kConnected,
    Event.called (Callback.connection States.kConnected),
    Event.handleClose, Event.stored States.kConnected States.kDisconnected,
    CloseNotice, DisconnectNotice]

theorem staysDisconnected_peer_closes :
    exists world,
      (ConnectionMachine Unit).Run (Init Unit CloseCallback.sameLoop)
        PeerCloses = some (world, PeerClosesTrace) ∧
      NeverReopened (Init Unit CloseCallback.sameLoop) PeerCloses := by
  have hrun : ((ConnectionMachine Unit).Run
      (Init Unit CloseCallback.sameLoop) PeerCloses).map
        (fun last => (last.1.conn.state_, last.2)) =
      some (States.kDisconnected, PeerClosesTrace) := by
    decide +kernel
  rcases (ConnectionMachine Unit).exists_run
    (fun world => world.conn.state_) hrun with ⟨world, hworld, _⟩
  refine ⟨world, hworld, (staysDisconnected_iff hworld).mp ?_⟩
  exact ⟨by simp [PeerClosesTrace, CloseNotice, DisconnectNotice],
    by decide, by decide⟩

end TcpConnection
end Net
end Wethands
