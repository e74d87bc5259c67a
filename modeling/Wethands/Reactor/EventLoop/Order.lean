import Wethands.Reactor.EventLoop.Model

/-!
# Functors run once and in the order of their pushes

The pushes recorded so far split into those already executed, the batch that
the drain phase has swapped out and not started, and the ones still pending.
-/

namespace Wethands
namespace Reactor

open Foundation

namespace EventLoop

variable {ThreadId Functor : Type}

def Event.Push? : Event Functor -> Option (Push Functor)
  | Event.pushed push => some push
  | _ => none

def Event.Execution? : Event Functor -> Option (Execution Functor)
  | Event.executed execution => some execution
  | _ => none

def Pushes (tr : List (Event Functor)) : List (Push Functor) :=
  tr.filterMap Event.Push?

def Executions (tr : List (Event Functor)) : List (Execution Functor) :=
  tr.filterMap Event.Execution?

def Unstarted : Phase Functor -> List Functor
  | Phase.drain functors _ => functors
  | _ => []

/-- The call that a push is owed: one by the first drain started after it. -/
def Push.Owed (push : Push Functor) : Execution Functor :=
  { functor := push.functor, drain := push.drains + 1 }

structure Split (loop : EventLoop ThreadId Functor)
    (tr : List (Event Functor)) (done batch waiting : List (Push Functor)) :
    Prop where
  pushes : Pushes tr = done ++ batch ++ waiting
  executions : Executions tr = done.map Push.Owed
  batch_functors : batch.map Push.functor = Unstarted loop.phase
  batch_drains : forall p, p ∈ batch -> p.drains + 1 = loop.drains
  waiting_functors : waiting.map Push.functor = loop.pendingFunctors_
  waiting_drains : forall p, p ∈ waiting -> p.drains = loop.drains

def OrderInvariant (loop : EventLoop ThreadId Functor)
    (tr : List (Event Functor)) : Prop :=
  exists done batch waiting, Split loop tr done batch waiting

theorem orderInvariant_init :
    OrderInvariant (Init ThreadId Functor) ([] : List (Event Functor)) :=
  ⟨[], [], [], by constructor <;> simp [Pushes, Executions, Unstarted, Init]⟩

theorem split_of_silent {loop next : EventLoop ThreadId Functor}
    {tr es : List (Event Functor)} {done batch waiting : List (Push Functor)}
    (h : Split loop tr done batch waiting)
    (hpush : Pushes es = []) (hexec : Executions es = [])
    (hphase : Unstarted next.phase = Unstarted loop.phase)
    (hpending : next.pendingFunctors_ = loop.pendingFunctors_)
    (hdrains : next.drains = loop.drains) :
    Split next (tr ++ es) done batch waiting where
  pushes := by
    have hnone : es.filterMap Event.Push? = [] := hpush
    simpa [Pushes, List.filterMap_append, hnone] using h.pushes
  executions := by
    simpa [Executions, List.filterMap_append,
      show es.filterMap Event.Execution? = [] from hexec] using h.executions
  batch_functors := by rw [hphase]; exact h.batch_functors
  batch_drains := by rw [hdrains]; exact h.batch_drains
  waiting_functors := by rw [hpending]; exact h.waiting_functors
  waiting_drains := by rw [hdrains]; exact h.waiting_drains

theorem split_pushBack {loop next : EventLoop ThreadId Functor}
    {tr : List (Event Functor)} {done batch waiting : List (Push Functor)}
    {push : Push Functor}
    (h : Split loop tr done batch waiting)
    (hdrains : push.drains = loop.drains)
    (hphase : next.phase = loop.phase)
    (hpending : next.pendingFunctors_ =
      loop.pendingFunctors_ ++ [push.functor])
    (hnext : next.drains = loop.drains) :
    Split next (tr ++ [Event.pushed push]) done batch (waiting ++ [push]) where
  pushes := by
    have hp := h.pushes
    unfold Pushes at hp ⊢
    rw [List.filterMap_append, hp]
    simp [Event.Push?]
  executions := by
    have hx := h.executions
    unfold Executions at hx ⊢
    rw [List.filterMap_append, hx]
    simp [Event.Execution?]
  batch_functors := by rw [hphase]; exact h.batch_functors
  batch_drains := by rw [hnext]; exact h.batch_drains
  waiting_functors := by simp [hpending, h.waiting_functors]
  waiting_drains := by
    intro p hp
    rw [hnext]
    rcases List.mem_append.mp hp with hold | hnew
    · exact h.waiting_drains p hold
    · rw [List.mem_singleton.mp hnew]
      exact hdrains

variable [DecidableEq ThreadId]

theorem orderInvariant_step {loop next : EventLoop ThreadId Functor}
    {tr es : List (Event Functor)}
    (hinv : OrderInvariant loop tr) (hstep : Transition loop next es) :
    OrderInvariant next (tr ++ es) := by
  rcases hinv with ⟨done, batch, waiting, h⟩
  cases hstep with
  | loop hphase hquit =>
      exact ⟨done, batch, waiting,
        split_of_silent h rfl rfl (by simp [Unstarted, hphase]) rfl rfl⟩
  | returned hphase hquit =>
      exact ⟨done, batch, waiting,
        split_of_silent h rfl rfl (by simp [Unstarted, hphase]) rfl rfl⟩
  | polled hphase hquit =>
      exact ⟨done, batch, waiting,
        split_of_silent h rfl rfl (by simp [Unstarted, hphase]) rfl rfl⟩
  | pollReturns active hphase hactive =>
      exact ⟨done, batch, waiting,
        split_of_silent h rfl rfl (by simp [Unstarted, hphase]) rfl rfl⟩
  | handleEventfdRead hphase =>
      exact ⟨done, batch, waiting,
        split_of_silent h rfl rfl (by simp [Unstarted, hphase]) rfl rfl⟩
  | swap hphase =>
      -- The dispatch phase has no batch, so the pending pushes become it.
      have hbatch : batch = [] := by
        have hfunctors := h.batch_functors
        rw [hphase] at hfunctors
        exact List.map_eq_nil_iff.mp hfunctors
      subst hbatch
      refine ⟨done, waiting, [], ?_, ?_, ?_, ?_, rfl, ?_⟩
      · simpa [Pushes] using h.pushes
      · simpa [Executions] using h.executions
      · exact h.waiting_functors
      · intro p hp
        rw [h.waiting_drains p hp]
      · intro p hp
        cases hp
  | callFunctor func rest hphase =>
      have hfunctors := h.batch_functors
      rw [hphase] at hfunctors
      rcases List.map_eq_cons_iff.mp hfunctors with
        ⟨first, others, rfl, hfirst, hothers⟩
      have hdrain : first.drains + 1 = loop.drains :=
        h.batch_drains first (List.mem_cons.mpr (Or.inl rfl))
      refine ⟨done ++ [first], others, waiting, ?_, ?_, hothers, ?_,
        h.waiting_functors, h.waiting_drains⟩
      · have hp := h.pushes
        unfold Pushes at hp ⊢
        rw [List.filterMap_append, hp]
        simp [Event.Push?]
      · have hx := h.executions
        unfold Executions at hx ⊢
        rw [List.filterMap_append, hx]
        simp [Event.Execution?, Push.Owed, hfirst, hdrain]
      · intro p hp
        exact h.batch_drains p (List.mem_cons.mpr (Or.inr hp))
  | functorReturns rest hphase =>
      exact ⟨done, batch, waiting,
        split_of_silent h rfl rfl (by simp [Unstarted, hphase]) rfl rfl⟩
  | drained hphase =>
      exact ⟨done, batch, waiting,
        split_of_silent h rfl rfl (by simp [Unstarted, hphase]) rfl rfl⟩
  | queueInLoop cb source hsource =>
      exact ⟨done, batch, waiting ++ [_],
        split_pushBack h rfl rfl rfl rfl⟩
  | quit =>
      exact ⟨done, batch, waiting, split_of_silent h rfl rfl rfl rfl rfl⟩
  | remoteQueueInLoop tid cb houtside =>
      exact ⟨done, batch, waiting ++ [_],
        split_pushBack h rfl rfl rfl rfl⟩
  | remoteQuit tid houtside =>
      exact ⟨done, batch, waiting, split_of_silent h rfl rfl rfl rfl rfl⟩
  | remoteWakeup tid hcalling =>
      exact ⟨done, batch, waiting, split_of_silent h rfl rfl rfl rfl rfl⟩

theorem orderInvariant_run
    {inputs : List (Input ThreadId Functor)}
    {loop : EventLoop ThreadId Functor} {tr : List (Event Functor)}
    (hrun : (LoopMachine ThreadId Functor).Run (Init ThreadId Functor) inputs =
      some (loop, tr)) :
    OrderInvariant loop tr :=
  Machine.run_invariant (I := OrderInvariant) (p := [])
    (fun _ _ _ _ _ hinv hone => orderInvariant_step hinv (step_transition hone))
    orderInvariant_init hrun

/-!
# What the split says about a run
-/

omit [DecidableEq ThreadId] in
theorem executions_prefix_pushes {loop : EventLoop ThreadId Functor}
    {tr : List (Event Functor)} {done batch waiting : List (Push Functor)}
    (h : Split loop tr done batch waiting) :
    (Executions tr).map Execution.functor <+: (Pushes tr).map Push.functor := by
  rw [h.executions, h.pushes]
  exists (batch ++ waiting).map Push.functor
  simp [Push.Owed, Function.comp_def]

omit [DecidableEq ThreadId] in
theorem execution_eq_owed {loop : EventLoop ThreadId Functor}
    {tr : List (Event Functor)} {done batch waiting : List (Push Functor)}
    (h : Split loop tr done batch waiting) {k : Nat} {p : Push Functor}
    {x : Execution Functor}
    (hp : (Pushes tr)[k]? = some p) (hx : (Executions tr)[k]? = some x) :
    x = p.Owed := by
  rw [h.executions, List.getElem?_map] at hx
  rcases Option.map_eq_some_iff.mp hx with ⟨q, hq, rfl⟩
  have hlt : k < done.length := (List.getElem?_eq_some_iff.mp hq).1
  rw [h.pushes, List.append_assoc, List.getElem?_append_left hlt, hq] at hp
  cases hp
  rfl

omit [DecidableEq ThreadId] in
/-- Between drains only the pushes made since the last swap are left. -/
theorem executed_of_earlier_push {loop : EventLoop ThreadId Functor}
    {tr : List (Event Functor)} {done batch waiting : List (Push Functor)}
    (h : Split loop tr done batch waiting)
    (hempty : Unstarted loop.phase = []) {k : Nat} {p : Push Functor}
    (hp : (Pushes tr)[k]? = some p) (hearlier : p.drains < loop.drains) :
    k < (Executions tr).length := by
  have hbatch : batch = [] := by
    have hfunctors := h.batch_functors
    rw [hempty] at hfunctors
    exact List.map_eq_nil_iff.mp hfunctors
  subst hbatch
  rw [h.executions, List.length_map]
  by_contra hge
  rw [h.pushes, List.append_nil,
    List.getElem?_append_right (Nat.le_of_not_lt hge)] at hp
  have hsame := h.waiting_drains p (List.mem_of_getElem? hp)
  omega

/--
Every functor is called once, in the order of the pushes, by the first drain
that starts after its push, so one pushed during a drain waits for the next.
Nothing else is lost: what has not been called is in the drain's batch or in
`pendingFunctors_`, and a finished drain leaves only later pushes behind.
-/
theorem functors_run_once_in_order
    {inputs : List (Input ThreadId Functor)}
    {loop : EventLoop ThreadId Functor} {tr : List (Event Functor)}
    (hrun : (LoopMachine ThreadId Functor).Run (Init ThreadId Functor) inputs =
      some (loop, tr)) :
    (Executions tr).map Execution.functor <+: (Pushes tr).map Push.functor ∧
    (forall (k : Nat) (p : Push Functor) (x : Execution Functor),
      (Pushes tr)[k]? = some p -> (Executions tr)[k]? = some x ->
        x.functor = p.functor ∧ x.drain = p.drains + 1) ∧
    (Pushes tr).map Push.functor =
      (Executions tr).map Execution.functor ++ Unstarted loop.phase ++
        loop.pendingFunctors_ ∧
    (Unstarted loop.phase = [] ->
      forall (k : Nat) (p : Push Functor),
        (Pushes tr)[k]? = some p -> p.drains < loop.drains ->
          k < (Executions tr).length) := by
  rcases orderInvariant_run hrun with ⟨done, batch, waiting, h⟩
  refine ⟨executions_prefix_pushes h, ?_, ?_, ?_⟩
  · intro k p x hp hx
    rw [execution_eq_owed h hp hx]
    exact ⟨rfl, rfl⟩
  · rw [h.pushes, h.executions, ← h.batch_functors, ← h.waiting_functors]
    simp [Push.Owed, Function.comp_def]
  · intro hempty k p hp hearlier
    exact executed_of_earlier_push h hempty hp hearlier

/--
A functor pushed by another thread pushes one itself while it runs; the second
one is called by the second drain.
-/
theorem functors_run_once_in_order_nested :
    exists loop tr,
      (LoopMachine Unit Nat).Run (Init Unit Nat)
        [Input.loop, Input.testQuit, Input.remoteQueueInLoop () 0,
         Input.pollReturns false, Input.swap, Input.callFunctor,
         Input.queueInLoop 1, Input.functorReturns, Input.drained,
         Input.testQuit, Input.pollReturns false, Input.swap,
         Input.callFunctor] = some (loop, tr) ∧
      Executions tr = [⟨0, 1⟩, ⟨1, 2⟩] ∧
      (Executions tr).map Execution.functor <+:
        (Pushes tr).map Push.functor := by
  refine ⟨_, _, rfl, rfl, ?_⟩
  exact (@functors_run_once_in_order Unit Nat _
    [Input.loop, Input.testQuit, Input.remoteQueueInLoop () 0,
     Input.pollReturns false, Input.swap, Input.callFunctor,
     Input.queueInLoop 1, Input.functorReturns, Input.drained,
     Input.testQuit, Input.pollReturns false, Input.swap,
     Input.callFunctor] _ _ rfl).1

end EventLoop
end Reactor
end Wethands
