import Wethands.Foundation.Outcome

/-!
# Flows

A flow is a call of which also the events before a failure are known.  What is
said of every event that is emitted then also covers a call that does not come
back.
-/

namespace Wethands
namespace Foundation

abbrev Flow (State Event : Type) := Outcome State × List Event

namespace Flow

variable {State Event : Type}

def Then (first : Flow State Event) (second : State -> Flow State Event) :
    Flow State Event :=
  match first with
  | (Except.error failure, es) => (Except.error failure, es)
  | (Except.ok mid, es) => ((second mid).1, es ++ (second mid).2)

def Assert (p : Prop) [Decidable p] (flow : Flow State Event) :
    Flow State Event :=
  if p then flow else (Except.error Failure.assertion, [])

def Finish : Flow State Event -> Call State Event
  | (Except.error failure, _) => Except.error failure
  | (Except.ok last, es) => Except.ok (last, es)

variable {first flow : Flow State Event} {second : State -> Flow State Event}

/-!
# What a flow meets
-/

/-- Every event is allowed, and what is handed back satisfies `Q`. -/
structure Meets (flow : Flow State Event) (A : Event -> Prop)
    (Q : State -> List Event -> Prop) : Prop where
  emitted : forall e, e ∈ flow.2 -> A e
  last : forall last, flow.1 = Except.ok last -> Q last flow.2

variable {A : Event -> Prop} {Q : State -> List Event -> Prop}

theorem meets_ok {last : State} {es : List Event}
    (hemitted : forall e, e ∈ es -> A e) (hlast : Q last es) :
    Meets (Except.ok last, es) A Q := by
  refine ⟨hemitted, ?_⟩
  intro last' heq
  cases heq
  exact hlast

theorem meets_error {failure : Failure} :
    Meets (Except.error failure, []) A Q := by
  refine ⟨by simp, ?_⟩
  intro last heq
  cases heq

theorem Meets.mono {R : State -> List Event -> Prop} (h : Meets flow A Q)
    (himp : forall last es, Q last es -> R last es) : Meets flow A R :=
  ⟨h.emitted, fun last hlast => himp last _ (h.last last hlast)⟩

theorem Meets.in_turn
    (h : Meets first A (fun mid es =>
      Meets (second mid) A (fun last es' => Q last (es ++ es')))) :
    Meets (Then first second) A Q := by
  rcases first with ⟨failure | mid, es⟩
  · refine ⟨h.emitted, ?_⟩
    intro last heq
    cases heq
  · have hsecond := h.last mid rfl
    refine ⟨?_, fun last hlast => hsecond.last last hlast⟩
    intro e he
    rcases List.mem_append.mp he with hfirst | hlater
    · exact h.emitted e hfirst
    · exact hsecond.emitted e hlater

theorem Meets.assert {p : Prop} [Decidable p] (h : p -> Meets flow A Q) :
    Meets (Assert p flow) A Q := by
  unfold Assert
  split
  · exact h ‹p›
  · exact meets_error

theorem Meets.only_if {p : Prop} [Decidable p] {failure : Failure}
    (h : p -> Meets flow A Q) :
    Meets (if p then flow else (Except.error failure, [])) A Q := by
  split
  · exact h ‹p›
  · exact meets_error

end Flow
end Foundation
end Wethands
