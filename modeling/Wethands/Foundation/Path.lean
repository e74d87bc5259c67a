import Wethands.Foundation.Machine

/-!
# Paths of an abstract model

An abstract model is a relation between a state, the next state and the events
in between.  A machine refines it through a view of its states when every step
of the machine is a path of the model, with the same events.
-/

namespace Wethands
namespace Foundation

variable {State Event : Type}

inductive Path (R : State -> State -> List Event -> Prop) :
    State -> State -> List Event -> Prop where
  | nil (s : State) : Path R s s []
  | cons {s mid t : State} {es tr : List Event} :
      R s mid es -> Path R mid t tr -> Path R s t (es ++ tr)

namespace Path

variable {R : State -> State -> List Event -> Prop}

theorem single {s t : State} {es : List Event} (h : R s t es) :
    Path R s t es := by
  have hpath := cons h (nil t)
  rwa [List.append_nil] at hpath

theorem append {s mid t : State} {es tr : List Event}
    (first : Path R s mid es) (second : Path R mid t tr) :
    Path R s t (es ++ tr) := by
  induction first with
  | nil s => exact second
  | cons hstep hrest ih =>
      rw [List.append_assoc]
      exact cons hstep (ih second)

theorem invariant {I : State -> List Event -> Prop} {A : Event -> Prop}
    (hstep : forall s tr t es,
      I s tr -> (forall e, e ∈ es -> A e) -> R s t es -> I t (tr ++ es))
    {s t : State} {p tr : List Event} (hstart : I s p)
    (hallowed : forall e, e ∈ tr -> A e) (h : Path R s t tr) :
    I t (p ++ tr) := by
  induction h generalizing p with
  | nil s => rwa [List.append_nil]
  | cons hone hrest ih =>
      rw [← List.append_assoc]
      apply ih
      · apply hstep _ _ _ _ hstart _ hone
        intro e he
        exact hallowed e (List.mem_append.mpr (Or.inl he))
      · intro e he
        exact hallowed e (List.mem_append.mpr (Or.inr he))

theorem of_guarded_run {Concrete Input : Type}
    {M : Machine Concrete Input Event} {P : Concrete -> Input -> Prop}
    {View : Concrete -> State}
    (hstep : forall c i c' es,
      P c i -> M.Step c i = some (c', es) -> Path R (View c) (View c') es)
    {inputs : List Input} {c c' : Concrete} {tr : List Event}
    (hguard : M.Guarded P c inputs)
    (hrun : M.Run c inputs = some (c', tr)) :
    Path R (View c) (View c') tr := by
  induction inputs generalizing c tr with
  | nil =>
      simp only [Machine.run_nil, Option.some.injEq, Prod.mk.injEq] at hrun
      rcases hrun with ⟨rfl, rfl⟩
      exact nil _
  | cons i rest ih =>
      rcases Machine.run_cons_eq_some.mp hrun with
        ⟨mid, es, tail, hone, hrest, rfl⟩
      rcases (Machine.guarded_cons hone).mp hguard with ⟨hinput, htail⟩
      exact (hstep c i mid es hinput hone).append (ih htail hrest)

theorem of_run {Concrete Input : Type} {M : Machine Concrete Input Event}
    {View : Concrete -> State}
    (hstep : forall c i c' es,
      M.Step c i = some (c', es) -> Path R (View c) (View c') es)
    {inputs : List Input} {c c' : Concrete} {tr : List Event}
    (hrun : M.Run c inputs = some (c', tr)) :
    Path R (View c) (View c') tr :=
  of_guarded_run (P := fun _ _ => True)
    (fun c i c' es _ hone => hstep c i c' es hone)
    (Machine.guarded_of_forall (fun _ _ => trivial) c inputs) hrun

end Path
end Foundation
end Wethands
