import Mathlib.Algebra.GroupWithZero.Nat
import Mathlib.Data.List.Basic

/-!
# Machines and their runs

A machine reads one input at a time and answers with its next state and the
events it emitted.  An input that is impossible in a state, or that ends the
process, has no answer.  The induction over a run is packaged here once, so
that every module only proves what one step preserves.
-/

namespace Wethands
namespace Foundation

structure Machine (State Input Event : Type) where
  Step : State -> Input -> Option (State × List Event)

namespace Machine

variable {State Input Event : Type} {M : Machine State Input Event}

def Run (M : Machine State Input Event) :
    State -> List Input -> Option (State × List Event)
  | s, [] => some (s, [])
  | s, i :: rest =>
      match M.Step s i with
      | none => none
      | some (mid, es) =>
          match M.Run mid rest with
          | none => none
          | some (t, tr) => some (t, es ++ tr)

@[simp] theorem run_nil (s : State) : M.Run s [] = some (s, []) := rfl

theorem run_cons_eq_some {s t : State} {i : Input} {rest : List Input}
    {tr : List Event} :
    M.Run s (i :: rest) = some (t, tr) <->
      exists mid es tr', M.Step s i = some (mid, es) ∧
        M.Run mid rest = some (t, tr') ∧ tr = es ++ tr' := by
  constructor
  · intro h
    rw [Run] at h
    cases hstep : M.Step s i with
    | none => simp [hstep] at h
    | some first =>
        rcases first with ⟨mid, es⟩
        cases hrun : M.Run mid rest with
        | none => simp [hstep, hrun] at h
        | some last =>
            rcases last with ⟨u, tr'⟩
            simp only [hstep, hrun, Option.some.injEq, Prod.mk.injEq] at h
            rcases h with ⟨rfl, rfl⟩
            exact ⟨mid, es, tr', rfl, hrun, rfl⟩
  · intro hexists
    rcases hexists with ⟨mid, es, tr', hstep, hrun, rfl⟩
    simp [Run, hstep, hrun]

theorem run_cons_without {s t : State} {i : Input} {rest : List Input}
    {tr : List Event} {e : Event}
    (hrun : M.Run s (i :: rest) = some (t, tr)) (hnever : e ∉ tr) :
    exists mid es tail, M.Step s i = some (mid, es) ∧
      M.Run mid rest = some (t, tail) ∧ tr = es ++ tail ∧ e ∉ es ∧
      e ∉ tail := by
  rcases run_cons_eq_some.mp hrun with ⟨mid, es, tail, hone, hrest, rfl⟩
  rw [List.mem_append, not_or] at hnever
  exact ⟨mid, es, tail, hone, hrest, rfl, hnever.1, hnever.2⟩

theorem run_append {s mid t : State} {first second : List Input}
    {tr tr' : List Event}
    (hfirst : M.Run s first = some (mid, tr))
    (hsecond : M.Run mid second = some (t, tr')) :
    M.Run s (first ++ second) = some (t, tr ++ tr') := by
  induction first generalizing s tr with
  | nil =>
      simp only [run_nil, Option.some.injEq, Prod.mk.injEq] at hfirst
      rcases hfirst with ⟨rfl, rfl⟩
      simpa using hsecond
  | cons i rest ih =>
      rcases run_cons_eq_some.mp hfirst with
        ⟨next, es, tail, hstep, hrest, rfl⟩
      rw [List.cons_append, List.append_assoc]
      exact run_cons_eq_some.mpr
        ⟨next, es, tail ++ tr', hstep, ih hrest, rfl⟩

theorem run_singleton {s t : State} {i : Input} {es : List Event}
    (h : M.Step s i = some (t, es)) : M.Run s [i] = some (t, es) := by
  simp [Run, h]

def Guarded (M : Machine State Input Event) (P : State -> Input -> Prop) :
    State -> List Input -> Prop
  | _, [] => True
  | s, i :: rest =>
      P s i ∧ match M.Step s i with
      | none => True
      | some (mid, _) => M.Guarded P mid rest

instance decidableGuarded (M : Machine State Input Event)
    (P : State -> Input -> Prop) [hP : forall s i, Decidable (P s i)]
    (s : State) : (inputs : List Input) -> Decidable (M.Guarded P s inputs)
  | [] => isTrue trivial
  | i :: rest =>
      match hstep : M.Step s i with
      | none =>
          decidable_of_iff (P s i) (by simp [Guarded, hstep])
      | some (mid, _) =>
          have : Decidable (M.Guarded P mid rest) :=
            decidableGuarded M P mid rest
          decidable_of_iff (P s i ∧ M.Guarded P mid rest)
            (by simp [Guarded, hstep])

theorem guarded_cons {P : State -> Input -> Prop} {s mid : State} {i : Input}
    {rest : List Input} {es : List Event} (h : M.Step s i = some (mid, es)) :
    M.Guarded P s (i :: rest) <-> P s i ∧ M.Guarded P mid rest := by
  simp [Guarded, h]

theorem guarded_of_mem {P : State -> Input -> Prop} {inputs : List Input}
    (h : forall s i, i ∈ inputs -> P s i) (s : State) :
    M.Guarded P s inputs := by
  induction inputs generalizing s with
  | nil => trivial
  | cons i rest ih =>
      refine ⟨h s i List.mem_cons_self, ?_⟩
      cases M.Step s i with
      | none => trivial
      | some answer =>
          exact ih (fun s j hj => h s j (List.mem_cons_of_mem i hj)) answer.1

theorem guarded_of_forall {P : State -> Input -> Prop}
    (h : forall s i, P s i) (s : State) (inputs : List Input) :
    M.Guarded P s inputs :=
  guarded_of_mem (fun s i _ => h s i) s

theorem Guarded.and {P Q : State -> Input -> Prop} {s : State}
    {inputs : List Input} (hP : M.Guarded P s inputs)
    (hQ : M.Guarded Q s inputs) :
    M.Guarded (fun s i => P s i ∧ Q s i) s inputs := by
  induction inputs generalizing s with
  | nil => trivial
  | cons i rest ih =>
      refine ⟨⟨hP.1, hQ.1⟩, ?_⟩
      have hrestP := hP.2
      have hrestQ := hQ.2
      cases hstep : M.Step s i with
      | none => trivial
      | some answer =>
          rw [hstep] at hrestP hrestQ
          exact ih hrestP hrestQ

theorem Guarded.behind {P : State -> Input -> Prop} {s t : State}
    {first rest : List Input} {tr : List Event}
    (h : M.Guarded P s (first ++ rest)) (hrun : M.Run s first = some (t, tr)) :
    M.Guarded P t rest := by
  induction first generalizing s tr with
  | nil =>
      cases hrun
      exact h
  | cons i first ih =>
      rcases run_cons_eq_some.mp hrun with ⟨mid, es, tail, hone, hfirst, _⟩
      exact ih ((guarded_cons hone).mp h).2 hfirst

theorem Guarded.congr {I : State -> Prop} {G P Q : State -> Input -> Prop}
    (hagree : forall s i, I s -> G s i -> (P s i <-> Q s i))
    (hstep : forall s i t es,
      I s -> G s i -> Q s i -> M.Step s i = some (t, es) -> I t)
    {s : State} {inputs : List Input} (hstart : I s)
    (hguard : M.Guarded G s inputs) :
    M.Guarded P s inputs <-> M.Guarded Q s inputs := by
  induction inputs generalizing s with
  | nil => exact Iff.rfl
  | cons i rest ih =>
      have hrest := hguard.2
      rw [Guarded, Guarded, hagree s i hstart hguard.1]
      refine and_congr_right fun hi => ?_
      cases hone : M.Step s i with
      | none => exact Iff.rfl
      | some answer =>
          rw [hone] at hrest
          exact ih (hstep s i answer.1 answer.2 hstart hguard.1 hi hone) hrest

theorem guarded_congr {P Q : State -> Input -> Prop}
    (h : forall s i, P s i <-> Q s i) (s : State) (inputs : List Input) :
    M.Guarded P s inputs <-> M.Guarded Q s inputs :=
  Guarded.congr (I := fun _ => True) (G := fun _ _ => True)
    (fun s i _ _ => h s i) (fun _ _ _ _ _ _ _ _ => trivial) trivial
    (guarded_of_forall (fun _ _ => trivial) s inputs)

/-- What the events of a step say of its input, those of a run say of all. -/
theorem events_iff_guarded {A : Event -> Prop} {P : State -> Input -> Prop}
    (hstep : forall s i t es, M.Step s i = some (t, es) ->
      ((forall e, e ∈ es -> A e) <-> P s i))
    {inputs : List Input} {s t : State} {tr : List Event}
    (hrun : M.Run s inputs = some (t, tr)) :
    (forall e, e ∈ tr -> A e) <-> M.Guarded P s inputs := by
  induction inputs generalizing s tr with
  | nil =>
      cases hrun
      simp [Guarded]
  | cons i rest ih =>
      rcases run_cons_eq_some.mp hrun with ⟨mid, es, tail, hone, hrest, rfl⟩
      rw [guarded_cons hone, ← hstep s i mid es hone, ← ih hrest]
      simp only [List.mem_append, or_imp, forall_and]

theorem exists_run (M : Machine State Input Event) {β : Type}
    (f : State -> β) {s : State} {inputs : List Input} {b : β}
    {tr : List Event}
    (h : (M.Run s inputs).map (fun last => (f last.1, last.2)) =
      some (b, tr)) :
    exists t, M.Run s inputs = some (t, tr) ∧ f t = b := by
  rcases Option.map_eq_some_iff.mp h with ⟨⟨t, tr'⟩, hrun, heq⟩
  cases heq
  exact ⟨t, hrun, rfl⟩

/-!
# Invariants

An invariant speaks about the state and about everything that has been emitted
on the way to it.  The guarded rule asks the steps to keep the invariant only
on runs whose events all satisfy a condition.
-/

theorem run_invariant_of_guard {I : State -> List Event -> Prop}
    {P : State -> Input -> Prop}
    (hstep : forall s tr i t es,
      I s tr -> P s i -> M.Step s i = some (t, es) -> I t (tr ++ es))
    {inputs : List Input} {s t : State} {p tr : List Event}
    (hstart : I s p) (hguard : M.Guarded P s inputs)
    (hrun : M.Run s inputs = some (t, tr)) :
    I t (p ++ tr) := by
  induction inputs generalizing s p tr with
  | nil =>
      simp only [run_nil, Option.some.injEq, Prod.mk.injEq] at hrun
      rcases hrun with ⟨rfl, rfl⟩
      simpa using hstart
  | cons i rest ih =>
      rcases run_cons_eq_some.mp hrun with ⟨mid, es, tail, hone, hrest, rfl⟩
      rcases (guarded_cons hone).mp hguard with ⟨hinput, hlater⟩
      rw [← List.append_assoc]
      exact ih (hstep s p i mid es hstart hinput hone) hlater hrest

theorem run_invariant_of_events {I : State -> List Event -> Prop}
    {A : Event -> Prop}
    (hstep : forall s tr i t es,
      I s tr -> (forall e, e ∈ es -> A e) ->
      M.Step s i = some (t, es) -> I t (tr ++ es))
    {inputs : List Input} {s t : State} {p tr : List Event}
    (hstart : I s p)
    (hallowed : forall e, e ∈ tr -> A e)
    (hrun : M.Run s inputs = some (t, tr)) :
    I t (p ++ tr) := by
  have hone : forall s i t es, M.Step s i = some (t, es) ->
      ((forall e, e ∈ es -> A e) <->
        exists t es, M.Step s i = some (t, es) ∧ forall e, e ∈ es -> A e) := by
    intro s i t es hs
    constructor
    · intro hes
      exact ⟨t, es, hs, hes⟩
    · rintro ⟨t', es', hs', hes⟩
      rw [hs] at hs'
      cases hs'
      exact hes
  refine run_invariant_of_guard ?_ hstart
    ((events_iff_guarded hone hrun).mp hallowed) hrun
  intro s tr i t es hinv hinput hs
  exact hstep s tr i t es hinv ((hone s i t es hs).mpr hinput) hs

theorem run_invariant {I : State -> List Event -> Prop}
    (hstep : forall s tr i t es,
      I s tr -> M.Step s i = some (t, es) -> I t (tr ++ es))
    {inputs : List Input} {s t : State} {p tr : List Event}
    (hstart : I s p)
    (hrun : M.Run s inputs = some (t, tr)) :
    I t (p ++ tr) :=
  run_invariant_of_events (A := fun _ => True)
    (fun s tr i t es hinv _ hone => hstep s tr i t es hinv hone)
    hstart (fun _ _ => trivial) hrun

/-!
# Machines that do not get stuck

Here the invariant also speaks about the inputs that have been read.
-/

/-- When every step from an invariant state is possible, every run is. -/
theorem exists_run_of_step {I : State -> List Input -> Prop}
    (hstep : forall s p i, I s p ->
      exists t es, M.Step s i = some (t, es) ∧ I t (p ++ [i]))
    {s : State} {p : List Input} (hstart : I s p) (inputs : List Input) :
    exists t tr, M.Run s inputs = some (t, tr) ∧ I t (p ++ inputs) := by
  induction inputs generalizing s p with
  | nil => exact ⟨s, [], rfl, by simpa using hstart⟩
  | cons i rest ih =>
      rcases hstep s p i hstart with ⟨mid, es, hone, hmid⟩
      rcases ih hmid with ⟨t, tr, hrest, hlast⟩
      refine ⟨t, es ++ tr, ?_, ?_⟩
      · exact run_cons_eq_some.mpr ⟨mid, es, tr, hone, hrest, rfl⟩
      · rwa [List.append_assoc] at hlast

theorem guarded_of_invariant {I : State -> Prop} {P : State -> Input -> Prop}
    (hstep : forall s i t es, I s -> M.Step s i = some (t, es) -> I t)
    (hmeets : forall s i, I s -> P s i)
    {s : State} (hstart : I s) (inputs : List Input) :
    M.Guarded P s inputs := by
  refine (Guarded.congr (I := I) (G := fun _ _ => True)
    (Q := fun _ _ => True) ?_ ?_ hstart ?_).mpr ?_
  · exact fun s i hs _ => iff_true_intro (hmeets s i hs)
  · exact fun s i t es hs _ _ hone => hstep s i t es hs hone
  · exact guarded_of_forall (fun _ _ => trivial) s inputs
  · exact guarded_of_forall (fun _ _ => trivial) s inputs

/-!
# The past of a run
-/

def Recorded (M : Machine State Input Event) :
    Machine (State × List Event) Input Event where
  Step s i :=
    (M.Step s.1 i).map (fun last => ((last.1, s.2 ++ last.2), last.2))

theorem recorded_step {s t : State × List Event} {i : Input}
    {es : List Event} :
    M.Recorded.Step s i = some (t, es) <->
      M.Step s.1 i = some (t.1, es) ∧ t.2 = s.2 ++ es := by
  rcases t with ⟨t, tr⟩
  constructor
  · intro hstep
    rcases Option.map_eq_some_iff.mp hstep with ⟨⟨last, es'⟩, hlast, heq⟩
    cases heq
    exact ⟨hlast, rfl⟩
  · intro hboth
    rcases hboth with ⟨hstep, rfl⟩
    exact Option.map_eq_some_iff.mpr ⟨(t, es), hstep, rfl⟩

/-!
# Refinement
-/

variable {Abstract : Type} {N : Machine Abstract Input Event}

/--
Related states that both answer an input which meets the condition, with the
same events, do so all along a guarded run, which gets stuck nowhere.
-/
theorem run_simulates {P : State -> Input -> Prop}
    {R : State -> Abstract -> Prop}
    (hstep : forall s a i, R s a -> P s i ->
      exists t b es, M.Step s i = some (t, es) ∧ N.Step a i = some (b, es) ∧
        R t b)
    {inputs : List Input} {s : State} {a : Abstract} (hstart : R s a)
    (hguard : M.Guarded P s inputs) :
    exists t b tr, M.Run s inputs = some (t, tr) ∧
      N.Run a inputs = some (b, tr) ∧ R t b := by
  induction inputs generalizing s a with
  | nil => exact ⟨s, a, [], rfl, rfl, hstart⟩
  | cons i rest ih =>
      rcases hstep s a i hstart hguard.1 with
        ⟨mid, other, es, hone, habstract, hmid⟩
      have hrest : M.Guarded P mid rest := ((guarded_cons hone).mp hguard).2
      rcases ih hmid hrest with ⟨t, b, tr, hrun, hother, hlast⟩
      refine ⟨t, b, es ++ tr, ?_, ?_, hlast⟩
      · exact run_cons_eq_some.mpr ⟨mid, es, tr, hone, hrun, rfl⟩
      · exact run_cons_eq_some.mpr ⟨other, es, tr, habstract, hother, rfl⟩

theorem run_refines {P : State -> Input -> Prop} {f : State -> Abstract}
    (hstep : forall s i, P s i ->
      exists t es, M.Step s i = some (t, es) ∧
        N.Step (f s) i = some (f t, es))
    {inputs : List Input} {s : State} (hguard : M.Guarded P s inputs) :
    exists t tr, M.Run s inputs = some (t, tr) ∧
      N.Run (f s) inputs = some (f t, tr) := by
  have hboth := run_simulates (M := M) (N := N) (R := fun s a => a = f s)
    (fun s a i hrelated hmeets => by
      rcases hstep s i hmeets with ⟨t, es, hone, habstract⟩
      rw [hrelated]
      exact ⟨t, f t, es, hone, habstract, rfl⟩) rfl hguard
  rcases hboth with ⟨t, b, tr, hrun, hother, rfl⟩
  exact ⟨t, tr, hrun, hother⟩

/-- Each step stands for a run of another machine that emits the same. -/
theorem run_abstracts {AbstractInput : Type}
    {A : Machine Abstract AbstractInput Event}
    {R : State -> Abstract -> Prop}
    (hstep : forall s a i t es, R s a -> M.Step s i = some (t, es) ->
      exists inputs b, A.Run a inputs = some (b, es) ∧ R t b)
    {inputs : List Input} {s t : State} {a : Abstract} {tr : List Event}
    (hstart : R s a) (hrun : M.Run s inputs = some (t, tr)) :
    exists others b, A.Run a others = some (b, tr) ∧ R t b := by
  induction inputs generalizing s a tr with
  | nil =>
      cases hrun
      exact ⟨[], a, rfl, hstart⟩
  | cons i rest ih =>
      rcases run_cons_eq_some.mp hrun with ⟨mid, es, tail, hone, hrest, rfl⟩
      rcases hstep s a i mid es hstart hone with ⟨first, b, hfirst, hmid⟩
      rcases ih hmid hrest with ⟨second, c, hsecond, hlast⟩
      exact ⟨first ++ second, c, run_append hfirst hsecond, hlast⟩

theorem guarded_of_run {inputs : List Input} {s t : State} {tr : List Event}
    (hrun : M.Run s inputs = some (t, tr)) :
    M.Guarded (fun s i => exists answer, M.Step s i = some answer) s
      inputs := by
  induction inputs generalizing s tr with
  | nil => trivial
  | cons i rest ih =>
      rcases run_cons_eq_some.mp hrun with ⟨mid, es, tail, hone, hrest, _⟩
      exact (guarded_cons hone).mpr ⟨⟨(mid, es), hone⟩, ih hrest⟩

/-!
# What is seen of a run
-/

def Collect {Sight : Type} (M : Machine State Input Event)
    (see : State -> Input -> State × List Event -> List Sight) :
    State -> List Input -> List Sight
  | _, [] => []
  | s, i :: rest =>
      match M.Step s i with
      | none => []
      | some answer => see s i answer ++ M.Collect see answer.1 rest

/-- An invariant that also speaks about what was seen of the steps so far. -/
theorem run_collects {Sight : Type}
    {I : List Sight -> State -> List Event -> Prop}
    {see : State -> Input -> State × List Event -> List Sight}
    (hstep : forall r s tr i t es, I r s tr -> M.Step s i = some (t, es) ->
      I (r ++ see s i (t, es)) t (tr ++ es))
    {inputs : List Input} {s t : State} {p tr : List Event} {r : List Sight}
    (hstart : I r s p) (hrun : M.Run s inputs = some (t, tr)) :
    I (r ++ M.Collect see s inputs) t (p ++ tr) := by
  induction inputs generalizing s p tr r with
  | nil =>
      cases hrun
      simpa [Collect] using hstart
  | cons i rest ih =>
      rcases run_cons_eq_some.mp hrun with ⟨mid, es, tail, hone, hrest, rfl⟩
      have hlast := ih (hstep r s p i mid es hstart hone) hrest
      rw [Collect, hone]
      rwa [List.append_assoc, List.append_assoc] at hlast

def Each {Sight : Type} (P : List Sight -> Sight -> Prop)
    (seen : List Sight) : Prop :=
  forall before sight after, seen = before ++ sight :: after ->
    P before sight

theorem each_nil {Sight : Type} {P : List Sight -> Sight -> Prop} :
    Each P [] := by
  intro before sight after hseen
  cases before <;> cases hseen

theorem Each.append_singleton {Sight : Type}
    {P : List Sight -> Sight -> Prop} {seen : List Sight} {sight : Sight}
    (h : Each P seen) (hlast : P seen sight) : Each P (seen ++ [sight]) := by
  intro before other after hseen
  rcases List.eq_nil_or_concat after with rfl | ⟨rest, last, rfl⟩
  · rcases List.append_inj' hseen rfl with ⟨rfl, hsame⟩
    cases hsame
    exact hlast
  · rw [List.concat_eq_append, ← List.cons_append, ← List.append_assoc]
      at hseen
    exact h before other rest (List.append_inj' hseen rfl).1

theorem collect_of_run {Read : Type} {reads : Input -> List Read}
    {inputs : List Input} {s t : State} {tr : List Event}
    (hrun : M.Run s inputs = some (t, tr)) :
    M.Collect (fun _ i _ => reads i) s inputs = inputs.flatMap reads := by
  induction inputs generalizing s tr with
  | nil => rfl
  | cons i rest ih =>
      rcases run_cons_eq_some.mp hrun with ⟨mid, es, tail, hone, hrest, rfl⟩
      rw [Collect, hone, List.flatMap_cons]
      exact congrArg (reads i ++ ·) (ih hrest)

theorem run_reads {Read : Type} {I : List Read -> State -> List Event -> Prop}
    {reads : Input -> List Read}
    (hstep : forall r s tr i t es, I r s tr -> M.Step s i = some (t, es) ->
      I (r ++ reads i) t (tr ++ es))
    {inputs : List Input} {s t : State} {p tr : List Event} {r : List Read}
    (hstart : I r s p) (hrun : M.Run s inputs = some (t, tr)) :
    I (r ++ inputs.flatMap reads) t (p ++ tr) := by
  have hlast : I (r ++ M.Collect (fun _ i _ => reads i) s inputs) t
      (p ++ tr) := run_collects hstep hstart hrun
  rwa [collect_of_run hrun] at hlast

theorem run_measured {I : Nat -> State -> List Event -> Prop}
    {cost : Input -> Nat}
    (hstep : forall n s tr i t es, I n s tr -> M.Step s i = some (t, es) ->
      I (n + cost i) t (tr ++ es))
    {inputs : List Input} {s t : State} {p tr : List Event} {n : Nat}
    (hstart : I n s p) (hrun : M.Run s inputs = some (t, tr)) :
    I (n + (inputs.map cost).sum) t (p ++ tr) := by
  have hlast : I (n + ([] ++ inputs.flatMap (fun i => [cost i])).sum) t
      (p ++ tr) := run_reads (I := fun costs => I (n + costs.sum)) ?_ hstart
    hrun
  · rw [List.map_eq_flatMap]
    exact hlast
  · intro costs s tr i t es hinv hone
    rw [List.sum_append, List.sum_singleton, ← Nat.add_assoc]
    exact hstep _ s tr i t es hinv hone

/-- What a state may measure is bounded by what the inputs of a run may add. -/
theorem run_bounded {B : Nat -> State -> Prop} {cost : Input -> Nat}
    (hstep : forall n s i t es, B n s -> M.Step s i = some (t, es) ->
      B (n + cost i) t)
    {inputs : List Input} {s t : State} {tr : List Event} {n : Nat}
    (hstart : B n s) (hrun : M.Run s inputs = some (t, tr)) :
    B (n + (inputs.map cost).sum) t := by
  induction inputs generalizing s tr n with
  | nil =>
      cases hrun
      exact hstart
  | cons i rest ih =>
      rcases run_cons_eq_some.mp hrun with ⟨mid, es, tail, hone, hrest, _⟩
      have hlast := ih (hstep n s i mid es hstart hone) hrest
      rwa [List.map_cons, List.sum_cons, ← Nat.add_assoc]

end Machine

/-!
# Places in a trace
-/

theorem split_append {Event : Type} {first second before after : List Event}
    {e : Event} (h : first ++ second = before ++ e :: after) :
    (exists mid, first = before ++ e :: mid ∧ after = mid ++ second) ∨
      exists mid, before = first ++ mid ∧ second = mid ++ e :: after := by
  rcases List.append_eq_append_iff.mp h with
    ⟨mid, hbefore, hsecond⟩ | ⟨mid, hfirst, hrest⟩
  · exact Or.inr ⟨mid, hbefore, hsecond⟩
  · cases mid with
    | nil =>
        apply Or.inr
        exact ⟨[], by simpa using hfirst.symm, hrest.symm⟩
    | cons head mid =>
        rw [List.cons_append] at hrest
        cases hrest
        exact Or.inl ⟨mid, hfirst, rfl⟩

/-- `e` has occurred, and `reset` has not occurred since. -/
def Since {Event : Type} (e reset : Event) (tr : List Event) : Prop :=
  exists before after, tr = before ++ e :: after ∧ reset ∉ after

theorem not_since_nil {Event : Type} {e reset : Event} :
    ¬Since e reset [] := by
  intro hexists
  rcases hexists with ⟨before, after, hsplit, _⟩
  simp at hsplit

theorem Since.append {Event : Type} {e reset : Event} {tr es : List Event}
    (h : Since e reset tr) (hes : reset ∉ es) : Since e reset (tr ++ es) := by
  rcases h with ⟨before, after, rfl, hafter⟩
  refine ⟨before, after ++ es, by simp, ?_⟩
  rw [List.mem_append, not_or]
  exact ⟨hafter, hes⟩

theorem since_append {Event : Type} {e reset : Event} {tr es : List Event}
    (h : Since e reset (tr ++ es)) :
    e ∈ es ∨ Since e reset tr ∧ reset ∉ es := by
  rcases h with ⟨before, after, hsplit, hreset⟩
  rcases split_append hsplit with ⟨mid, hfirst, rfl⟩ | ⟨mid, _, hsecond⟩
  · rw [List.mem_append, not_or] at hreset
    exact Or.inr ⟨⟨before, mid, hfirst, hreset.1⟩, hreset.2⟩
  · rw [hsecond]
    exact Or.inl (List.mem_append.mpr (Or.inr List.mem_cons_self))

end Foundation
end Wethands
