/-!
# Outcomes of member functions

The model follows the debug build, the default of the build script: a failed
`assert` ends the process.
-/

namespace Wethands
namespace Foundation

/--
Why a call does not come back.  `danglingPointer` is undefined behaviour, and
`impossible` marks an answer of the environment that does not occur.
-/
inductive Failure where
  | assertion
  | sysFatal
  | danglingPointer
  | impossible
deriving DecidableEq

abbrev Outcome (α : Type) := Except Failure α

def Answer {α : Type} : Outcome α -> Option α
  | Except.ok a => some a
  | Except.error _ => none

@[simp] theorem answer_eq_some {α : Type} {x : Outcome α} {a : α} :
    Answer x = some a <-> x = Except.ok a := by
  cases x <;> simp [Answer]

/-!
# Calls in sequence

A call hands back the state it leaves and the events it emitted.
-/

abbrev Call (State Event : Type) := Outcome (State × List Event)

variable {State Event : Type}

def Then (first : Call State Event) (second : State -> Call State Event) :
    Call State Event :=
  match first with
  | Except.error failure => Except.error failure
  | Except.ok (mid, es) =>
      match second mid with
      | Except.error failure => Except.error failure
      | Except.ok (last, es') => Except.ok (last, es ++ es')

theorem then_eq_ok {first : Call State Event}
    {second : State -> Call State Event} {last : State} {es : List Event} :
    Then first second = Except.ok (last, es) <->
      exists mid es1 es2, first = Except.ok (mid, es1) ∧
        second mid = Except.ok (last, es2) ∧ es = es1 ++ es2 := by
  constructor
  · intro h
    unfold Then at h
    split at h
    · cases h
    · rename_i mid es1
      split at h
      · cases h
      · rename_i last' es2 hsecond
        cases h
        exact ⟨mid, es1, es2, rfl, hsecond, rfl⟩
  · intro hexists
    rcases hexists with ⟨mid, es1, es2, hfirst, hsecond, rfl⟩
    simp [Then, hfirst, hsecond]

theorem then_ok_eq_ok {mid : State} {es : List Event}
    {second : State -> Call State Event} {last : State} {tr : List Event} :
    Then (Except.ok (mid, es)) second = Except.ok (last, tr) <->
      exists es', second mid = Except.ok (last, es') ∧ tr = es ++ es' := by
  rw [then_eq_ok]
  constructor
  · intro hparts
    rcases hparts with ⟨_, _, es', hfirst, hsecond, rfl⟩
    cases hfirst
    exact ⟨es', hsecond, rfl⟩
  · intro hsuch
    rcases hsuch with ⟨es', hsecond, rfl⟩
    exact ⟨mid, es, es', rfl, hsecond, rfl⟩

theorem then_ne_error {first : Call State Event}
    {second : State -> Call State Event} {failure : Failure}
    (hfirst : first ≠ Except.error failure)
    (hsecond : forall mid es, first = Except.ok (mid, es) ->
      second mid ≠ Except.error failure) :
    Then first second ≠ Except.error failure := by
  intro hcall
  rcases first with other | ⟨mid, es⟩
  · exact hfirst hcall
  · have hmid := hsecond mid es rfl
    unfold Then at hcall
    dsimp only at hcall
    cases hlast : second mid with
    | error other =>
        rw [hlast] at hcall hmid
        cases hcall
        exact hmid rfl
    | ok last =>
        rw [hlast] at hcall
        cases hcall

theorem then_returns {first : Call State Event}
    {second : State -> Call State Event}
    (hfirst : exists mid es, first = Except.ok (mid, es))
    (hsecond : forall mid es, first = Except.ok (mid, es) ->
      exists last es', second mid = Except.ok (last, es')) :
    exists last es, Then first second = Except.ok (last, es) := by
  rcases hfirst with ⟨mid, es, hmid⟩
  rcases hsecond mid es hmid with ⟨last, es', hlast⟩
  exact ⟨last, es ++ es', then_eq_ok.mpr ⟨mid, es, es', hmid, hlast, rfl⟩⟩

def Assert (p : Prop) [Decidable p] (call : Call State Event) :
    Call State Event :=
  if p then call else Except.error Failure.assertion

@[simp] theorem assert_eq_ok {p : Prop} [Decidable p]
    {call : Call State Event} {last : State} {es : List Event} :
    Assert p call = Except.ok (last, es) <->
      p ∧ call = Except.ok (last, es) := by
  unfold Assert
  split <;> simp_all

theorem assert_ne_error {p : Prop} [Decidable p] {call : Call State Event}
    {failure : Failure} (hcall : call ≠ Except.error failure)
    (hother : failure ≠ Failure.assertion) :
    Assert p call ≠ Except.error failure := by
  unfold Assert
  split
  · exact hcall
  · intro hfails
    cases hfails
    exact hother rfl

/-!
# What a call ensures

The process may end on purpose; a failed assertion or a dangling pointer is
excluded.
-/

def Failure.Harmless (failure : Failure) : Prop :=
  failure ≠ Failure.assertion ∧ failure ≠ Failure.danglingPointer

/-- The call does no harm, and what it hands back satisfies `Q`. -/
def Ensures (call : Call State Event) (Q : State -> List Event -> Prop) :
    Prop :=
  match call with
  | Except.error failure => failure.Harmless
  | Except.ok (last, es) => Q last es

variable {call : Call State Event} {Q : State -> List Event -> Prop}

theorem ensures_iff : Ensures call Q <->
    (forall failure, call = Except.error failure -> failure.Harmless) ∧
      forall last es, call = Except.ok (last, es) -> Q last es := by
  rcases call with failure | ⟨last, es⟩ <;> simp [Ensures]

@[simp] theorem ensures_ok {last : State} {es : List Event} :
    Ensures (Except.ok (last, es)) Q <-> Q last es := Iff.rfl

@[simp] theorem ensures_impossible :
    Ensures (Except.error Failure.impossible) Q :=
  ⟨by decide, by decide⟩

@[simp] theorem ensures_sysFatal :
    Ensures (Except.error Failure.sysFatal) Q :=
  ⟨by decide, by decide⟩

theorem Ensures.mono {R : State -> List Event -> Prop} (h : Ensures call Q)
    (himp : forall last es, Q last es -> R last es) : Ensures call R := by
  rw [ensures_iff] at h ⊢
  exact ⟨h.1, fun last es hcall => himp last es (h.2 last es hcall)⟩

theorem Ensures.and {R : State -> List Event -> Prop} (h : Ensures call Q)
    (hother : Ensures call R) :
    Ensures call (fun last es => Q last es ∧ R last es) := by
  rw [ensures_iff] at h hother ⊢
  exact ⟨h.1, fun last es hcall =>
    ⟨h.2 last es hcall, hother.2 last es hcall⟩⟩

theorem Ensures.of_ok {R : State -> List Event -> Prop} (h : Ensures call R)
    (hok : forall last es, call = Except.ok (last, es) -> Q last es) :
    Ensures call Q :=
  ensures_iff.mpr ⟨(ensures_iff.mp h).1, hok⟩

theorem Ensures.in_turn {second : State -> Call State Event}
    (h : Ensures call (fun mid es =>
      Ensures (second mid) (fun last es' => Q last (es ++ es')))) :
    Ensures (Then call second) Q := by
  rcases call with failure | ⟨mid, es⟩
  · exact h
  · unfold Then
    dsimp only
    rw [ensures_ok] at h
    cases hsecond : second mid with
    | error failure =>
        rw [hsecond] at h
        exact h
    | ok answer =>
        rw [hsecond] at h
        exact h

theorem Ensures.only_if {p : Prop} [Decidable p] (h : p -> Ensures call Q) :
    Ensures (if p then call else Except.error Failure.impossible) Q := by
  split
  · exact h ‹_›
  · exact ensures_impossible

theorem Ensures.assert {p : Prop} [Decidable p] (hp : p)
    (h : Ensures call Q) : Ensures (Assert p call) Q := by
  rwa [Assert, if_pos hp]

/-!
# What a call yields

Only answers count here; a call may fail in any way.
-/

def Yields (call : Call State Event) (Q : State -> List Event -> Prop) :
    Prop :=
  forall last es, call = Except.ok (last, es) -> Q last es

@[simp] theorem yields_ok {last : State} {es : List Event} :
    Yields (Except.ok (last, es)) Q <-> Q last es := by
  refine ⟨fun h => h last es rfl, ?_⟩
  intro h last' es' hcall
  cases hcall
  exact h

@[simp] theorem yields_error {failure : Failure} :
    Yields (Except.error failure : Call State Event) Q := by
  intro last es hcall
  cases hcall

theorem Ensures.yields (h : Ensures call Q) : Yields call Q :=
  (ensures_iff.mp h).2

theorem Yields.mono {R : State -> List Event -> Prop} (h : Yields call Q)
    (himp : forall last es, Q last es -> R last es) : Yields call R :=
  fun last es hcall => himp last es (h last es hcall)

theorem Yields.in_turn {second : State -> Call State Event}
    (h : Yields call (fun mid es =>
      Yields (second mid) (fun last es' => Q last (es ++ es')))) :
    Yields (Then call second) Q := by
  intro last es hcall
  rcases then_eq_ok.mp hcall with ⟨mid, es1, es2, hfirst, hsecond, rfl⟩
  exact h mid es1 hfirst last es2 hsecond

theorem Yields.only_if {p : Prop} [Decidable p] {failure : Failure}
    (h : p -> Yields call Q) :
    Yields (if p then call else Except.error failure) Q := by
  split
  · exact h ‹p›
  · exact yields_error

theorem Yields.assert {p : Prop} [Decidable p] (h : p -> Yields call Q) :
    Yields (Assert p call) Q :=
  Yields.only_if h

end Foundation
end Wethands
