import Mathlib.Data.List.Basic

/-!
# Readers of a growing text

A reader takes one item after another off the front of a text, until it has to
wait for more text or halts.  It decides on the text that is there: more text
behind it changes neither what was taken nor the reason to halt.
-/

namespace Wethands
namespace Foundation

inductive Progress (State Symbol Halt : Type) where
  | take (next : State) (rest : List Symbol)
  | wait
  | halt (why : Halt)

structure Reader (State Symbol Halt : Type) where
  Next : State -> List Symbol -> Progress State Symbol Halt
  take_shorter : forall {s text next rest},
    Next s text = Progress.take next rest -> rest.length < text.length
  take_append : forall {s text next rest} (more : List Symbol),
    Next s text = Progress.take next rest ->
    Next s (text ++ more) = Progress.take next (rest ++ more)
  halt_append : forall {s text why} (more : List Symbol),
    Next s text = Progress.halt why -> Next s (text ++ more) = Progress.halt why

variable {State Symbol Halt : Type} {R : Reader State Symbol Halt}

inductive Reads (R : Reader State Symbol Halt) :
    State -> List Symbol -> State -> List Symbol -> Option Halt -> Prop where
  | wait {s : State} {text : List Symbol} :
      R.Next s text = Progress.wait -> Reads R s text s text none
  | halt {s : State} {text : List Symbol} {why : Halt} :
      R.Next s text = Progress.halt why -> Reads R s text s text (some why)
  | take {s next last : State} {text rest left : List Symbol}
      {why : Option Halt} :
      R.Next s text = Progress.take next rest ->
      Reads R next rest last left why -> Reads R s text last left why

namespace Reads

theorem exists_reads (R : Reader State Symbol Halt) (s : State)
    (text : List Symbol) :
    exists last left why, Reads R s text last left why := by
  cases hnext : R.Next s text with
  | take next rest =>
      have hshorter : rest.length < text.length := R.take_shorter hnext
      rcases exists_reads R next rest with ⟨last, left, why, hrest⟩
      exact ⟨last, left, why, take hnext hrest⟩
  | wait => exact ⟨s, text, none, wait hnext⟩
  | halt why => exact ⟨s, text, some why, halt hnext⟩
termination_by text.length

theorem take_iff {s next last : State} {text rest left : List Symbol}
    {why : Option Halt} (hnext : R.Next s text = Progress.take next rest) :
    Reads R s text last left why <-> Reads R next rest last left why := by
  constructor
  · intro h
    cases h with
    | wait hwait => rw [hnext] at hwait; cases hwait
    | halt hhalt => rw [hnext] at hhalt; cases hhalt
    | take htake hrest =>
        rw [hnext] at htake
        cases htake
        exact hrest
  · exact take hnext

theorem unique {s last last' : State} {text left left' : List Symbol}
    {why why' : Option Halt} (first : Reads R s text last left why)
    (second : Reads R s text last' left' why') :
    last = last' ∧ left = left' ∧ why = why' := by
  induction first with
  | wait hwait =>
      cases second with
      | wait _ => exact ⟨rfl, rfl, rfl⟩
      | halt hhalt => rw [hwait] at hhalt; cases hhalt
      | take htake _ => rw [hwait] at htake; cases htake
  | halt hhalt =>
      cases second with
      | wait hwait => rw [hhalt] at hwait; cases hwait
      | halt hother =>
          rw [hhalt] at hother
          cases hother
          exact ⟨rfl, rfl, rfl⟩
      | take htake _ => rw [hhalt] at htake; cases htake
  | take htake _ ih => exact ih ((take_iff htake).mp second)

/-- A reader that waits goes on, when there is more text, where it stopped. -/
theorem append_of_wait {s mid last : State} {text left rest : List Symbol}
    {why : Option Halt} (more : List Symbol)
    (h : Reads R s text mid left none) :
    Reads R s (text ++ more) last rest why <->
      Reads R mid (left ++ more) last rest why := by
  generalize hwhy : (none : Option Halt) = waits at h
  induction h with
  | wait _ => exact Iff.rfl
  | halt _ => cases hwhy
  | take htake _ ih =>
      rw [take_iff (R.take_append more htake)]
      exact ih hwhy

theorem append_of_halt {s last : State} {text left : List Symbol} {why : Halt}
    (more : List Symbol) (h : Reads R s text last left (some why)) :
    Reads R s (text ++ more) last (left ++ more) (some why) := by
  generalize hwhy : some why = halts at h
  induction h with
  | wait _ => cases hwhy
  | halt hhalt =>
      cases hwhy
      exact halt (R.halt_append more hhalt)
  | take htake _ ih => exact take (R.take_append more htake) (ih hwhy)

end Reads
end Foundation
end Wethands
