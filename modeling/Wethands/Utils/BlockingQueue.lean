import Wethands.Thread.Sections

/-!
# The blocking queue

`Put`, `Take` and `Size` are the calls of a monitor over a queue.  Its results
are about the runs of the code, step by step.
-/

namespace Wethands
namespace Utils
namespace BlockingQueue

open Foundation
open Thread

/-- The calls that do not wait have a condition of their own, `never`. -/
inductive Cond where
  | notEmpty_
  | never
deriving DecidableEq

inductive Request (T : Type) where
  | put (x : T)
  | take
  | size
deriving DecidableEq

inductive Event (T : Type) where
  | put (x : T)
  | taken (x : T)
  | size (n : Nat)
deriving DecidableEq

variable {T : Type}

def Put (queue_ : List T) (x : T) : Verdict (List T) Cond (Event T) :=
  Verdict.ends (queue_ ++ [x]) (Event.put x) (Monitor.Notify Cond.notEmpty_)

def Take (queue_ : List T) : Verdict (List T) Cond (Event T) :=
  match queue_ with
  | [] => Verdict.waits Cond.notEmpty_
  | x :: queue_ => Verdict.ends queue_ (Event.taken x) (fun _ => Signal.quiet)

def Size (queue_ : List T) : Verdict (List T) Cond (Event T) :=
  Verdict.ends queue_ (Event.size queue_.length) (fun _ => Signal.quiet)

def Section (request : Request T) (queue_ : List T) :
    Verdict (List T) Cond (Event T) :=
  match request with
  | Request.put x => Put queue_ x
  | Request.take => Take queue_
  | Request.size => Size queue_

def WaitsOn : Request T -> Cond
  | Request.take => Cond.notEmpty_
  | _ => Cond.never

theorem empty_of_waits {request : Request T} {queue_ : List T} {cond : Cond}
    (h : Section request queue_ = Verdict.waits cond) :
    request = Request.take ∧ queue_ = [] ∧ cond = Cond.notEmpty_ := by
  cases request with
  | put x => cases h
  | take =>
      cases queue_ with
      | nil =>
          cases h
          exact ⟨rfl, rfl, rfl⟩
      | cons x rest => cases h
  | size => cases h

theorem section_waits_on (request : Request T) (queue_ : List T)
    (cond : Cond) (h : Section request queue_ = Verdict.waits cond) :
    cond = WaitsOn request := by
  rcases empty_of_waits h with ⟨rfl, _, rfl⟩
  rfl

def QueueMonitor (T : Type) :
    Monitor (List T) (Request T) Cond (Event T) where
  Section := Section
  WaitsOn := WaitsOn
  waits_on := section_waits_on

def Conds : List Cond := [Cond.notEmpty_]

/-!
# A queue of one thread
-/

/-- What a queue that only one thread uses may answer. -/
def Replay (xs : List T) : List (Event T) -> List T -> Prop
  | [], ys => ys = xs
  | Event.put x :: tr, ys => Replay (xs ++ [x]) tr ys
  | Event.taken x :: tr, ys => exists rest, xs = x :: rest ∧ Replay rest tr ys
  | Event.size n :: tr, ys => n = xs.length ∧ Replay xs tr ys

theorem replay_append {xs ys zs : List T} {tr tr' : List (Event T)}
    (h : Replay xs tr ys) (h' : Replay ys tr' zs) :
    Replay xs (tr ++ tr') zs := by
  induction tr generalizing xs with
  | nil =>
      cases h
      exact h'
  | cons event tr ih =>
      cases event with
      | put x => exact ih h
      | taken x =>
          rcases h with ⟨rest, heq, hrest⟩
          exact ⟨rest, heq, ih hrest⟩
      | size n => exact ⟨h.1, ih h.2⟩

inductive Ends (queue_ : List T) : Request T -> List T -> Event T ->
    (Cond -> Signal) -> Prop where
  | put (x : T) :
      Ends queue_ (Request.put x) (queue_ ++ [x]) (Event.put x)
        (Monitor.Notify Cond.notEmpty_)
  | taken (x : T) (rest : List T) : queue_ = x :: rest ->
      Ends queue_ Request.take rest (Event.taken x) (fun _ => Signal.quiet)
  | size :
      Ends queue_ Request.size queue_ (Event.size queue_.length)
        (fun _ => Signal.quiet)

theorem section_ends {request : Request T} {queue_ next : List T}
    {event : Event T} {signals : Cond -> Signal}
    (h : (QueueMonitor T).Section request queue_ =
      Verdict.ends next event signals) :
    Ends queue_ request next event signals := by
  cases request with
  | put x =>
      cases h
      exact Ends.put x
  | take =>
      cases queue_ with
      | nil => cases h
      | cons x rest =>
          cases h
          exact Ends.taken x next rfl
  | size =>
      cases h
      exact Ends.size

theorem conds_complete : Condition.Complete (QueueMonitor T) Conds := by
  intro request queue_ next event signals hends cond hloud
  cases section_ends hends with
  | put x =>
      by_cases hcond : cond = Cond.notEmpty_
      · exact List.mem_singleton.mpr hcond
      · exact absurd (if_neg hcond) hloud
  | taken | size => exact absurd rfl hloud

theorem replay_kept :
    (QueueMonitor T).KeptBySections (fun queue_ tr => Replay [] tr queue_) := by
  intro request queue_ next event signals tr hreplay hends
  refine replay_append hreplay ?_
  cases section_ends hends with
  | put x => exact rfl
  | taken x _ heq => exact ⟨next, heq, rfl⟩
  | size => exact ⟨rfl, rfl⟩

/-- The elements are what a sleeping `Take` waits for. -/
theorem counts_notEmpty : (QueueMonitor T).Counts Cond.notEmpty_
    (fun _ => True) List.length where
  waits request queue_ _ hwaits := by
    rw [(empty_of_waits hwaits).2.1]
    rfl
  takes request queue_ next event signals _ hends hown := by
    cases section_ends hends with
    | put | size => cases hown
    | taken x _ heq =>
        rw [heq]
        exact Nat.le_refl _
  makes request queue_ next event signals _ hends := by
    cases section_ends hends with
    | put x =>
        refine Or.inr ⟨?_, by decide⟩
        exact Nat.le_of_eq List.length_append
    | taken x _ heq =>
        rw [heq]
        exact Or.inl (Nat.le_succ _)
    | size => exact Or.inl (Nat.le_refl _)

/-!
# Runs
-/

section Threads

variable {ThreadId : Type} [DecidableEq ThreadId]

abbrev Queue (ThreadId T : Type) : Type :=
  Condition.Shared ThreadId (List T) (Request T) Cond (Event T)

abbrev Input (ThreadId T : Type) : Type :=
  Condition.Input ThreadId (Request T) Cond

def New (ThreadId T : Type) : Queue ThreadId T :=
  Condition.Init ThreadId (Request T) Cond (Event T) []

def QueueMachine (ThreadId T : Type) [DecidableEq ThreadId] :
    Machine (Queue ThreadId T) (Input ThreadId T) (Event T) :=
  Condition.SharedMachine (QueueMonitor T) Conds ThreadId

structure Sound (state : Monitor.State ThreadId (List T) (Request T) Cond)
    (tr : List (Event T)) : Prop where
  orderly : Monitor.Orderly (QueueMonitor T) state
  replay : Replay [] tr state.data
  notEmpty : Monitor.NoLostSignal Cond.notEmpty_ List.length state
  takes : forall s, s ∈ state.sleepers -> s.cond = Cond.notEmpty_

theorem sound_run {inputs : List (Monitor.Input ThreadId (Request T) Cond)}
    {state : Monitor.State ThreadId (List T) (Request T) Cond}
    {tr : List (Event T)}
    (hrun : (Monitor.MonitorMachine (QueueMonitor T) ThreadId).Run
      (Monitor.Init ThreadId (Request T) Cond []) inputs =
        some (state, tr)) : Sound state tr := by
  refine Machine.run_invariant (I := Sound) (p := []) ?_ ?_ hrun
  · intro state tr i next es h hstep
    have hone := Monitor.perform_transition i _ _ (answer_eq_some.mp hstep)
    exact {
      orderly := Monitor.orderly_step h.orderly hone
      replay := Monitor.data_invariant replay_kept h.replay hone
      notEmpty := Monitor.no_lost_signal_step counts_notEmpty trivial
        h.orderly h.notEmpty hone
      takes := Monitor.sleepers_step
        (fun _ _ _ hwaits => (empty_of_waits hwaits).2.2) h.takes hone }
  · constructor
    case orderly => exact Monitor.orderly_init _
    case replay => exact rfl
    case notEmpty =>
      intro hsleeps
      rcases hsleeps with ⟨s, hs, _⟩
      cases hs
    case takes =>
      intro s hs
      cases hs

/--
The calls answer like a queue of one thread in the order of their ends, and
when all threads in the queue are asleep, there is nothing to take.
-/
theorem answers_in_turn {inputs : List (Input ThreadId T)}
    {queue : Queue ThreadId T} {tr : List (Event T)}
    (hrun : (QueueMachine ThreadId T).Run (New ThreadId T) inputs =
      some (queue, tr)) :
    (exists xs, Replay [] tr xs ∧
      ((forall tid request event signals left, queue.places tid ≠
        Condition.Place.notify request event signals left) ->
        queue.data = xs)) ∧
    ((forall tid, (queue.places tid).Inside? ≠ none ->
        exists request cond,
          queue.places tid = Condition.Place.asleep request cond) ->
      queue.waiters ≠ [] -> queue.data = []) := by
  rcases Condition.run_matches conds_complete hrun with
    ⟨others, state, hother, hmatches⟩
  have hsound := sound_run hother
  constructor
  · refine ⟨state.data, hsound.replay, fun hquiet => ?_⟩
    rcases hmatches.signalled with ⟨hdata, _, _⟩ |
      ⟨tid, request, event, signals, left, chosen, hnotifying⟩
    · exact hdata.symm
    · exact absurd hnotifying.place (hquiet tid request event signals left)
  · intro hasleep hwaiters
    rcases hmatches.blocked hasleep with ⟨hdata, hsleepers, hblocked⟩
    rcases List.exists_mem_of_ne_nil _ hwaiters with ⟨s, hs⟩
    rw [← hsleepers] at hs
    have hsleeps : Monitor.SleepsOn state Cond.notEmpty_ :=
      ⟨s, hs, hsound.takes s hs⟩
    have hlength := hsound.notEmpty hsleeps
    rw [Monitor.pending_eq_zero hsound.orderly Cond.notEmpty_ hblocked]
      at hlength
    rw [← hdata]
    exact List.length_eq_zero_iff.mp (Nat.le_zero.mp hlength)

end Threads

/--
A consumer sleeps, and the element that wakes it is taken by another one, so
that it goes back to sleep.
-/
theorem answers_in_turn_of_two_consumers :
    exists queue tr, (QueueMachine Nat Nat).Run (New Nat Nat)
        [Condition.Input.call 0 Request.take, Condition.Input.next 0,
          Condition.Input.next 0, Condition.Input.next 0,
          Condition.Input.next 0, Condition.Input.next 0,
          Condition.Input.call 1 (Request.put 7), Condition.Input.next 1,
          Condition.Input.call 2 Request.take, Condition.Input.next 1,
          Condition.Input.next 1,
          Condition.Input.notify 1 [⟨0, Cond.notEmpty_⟩],
          Condition.Input.next 1, Condition.Input.next 1,
          Condition.Input.next 1, Condition.Input.next 2,
          Condition.Input.next 2, Condition.Input.next 2,
          Condition.Input.notify 2 [], Condition.Input.next 2,
          Condition.Input.next 2, Condition.Input.next 2,
          Condition.Input.next 0, Condition.Input.next 0,
          Condition.Input.next 0, Condition.Input.next 0,
          Condition.Input.next 0] = some (queue, tr) ∧
      tr = [Event.put 7, Event.taken 7] ∧
      queue.waiters = [⟨0, Cond.notEmpty_⟩] ∧
      exists xs, Replay [] tr xs := by
  have heval : ((QueueMachine Nat Nat).Run (New Nat Nat)
      [Condition.Input.call 0 Request.take, Condition.Input.next 0,
        Condition.Input.next 0, Condition.Input.next 0,
        Condition.Input.next 0, Condition.Input.next 0,
        Condition.Input.call 1 (Request.put 7), Condition.Input.next 1,
        Condition.Input.call 2 Request.take, Condition.Input.next 1,
        Condition.Input.next 1,
        Condition.Input.notify 1 [⟨0, Cond.notEmpty_⟩],
        Condition.Input.next 1, Condition.Input.next 1,
        Condition.Input.next 1, Condition.Input.next 2,
        Condition.Input.next 2, Condition.Input.next 2,
        Condition.Input.notify 2 [], Condition.Input.next 2,
        Condition.Input.next 2, Condition.Input.next 2,
        Condition.Input.next 0, Condition.Input.next 0,
        Condition.Input.next 0, Condition.Input.next 0,
        Condition.Input.next 0]).map (fun last => (last.1.waiters, last.2)) =
      some ([⟨0, Cond.notEmpty_⟩], [Event.put 7, Event.taken 7]) := by
    decide +kernel
  rcases (QueueMachine Nat Nat).exists_run (fun queue => queue.waiters) heval
    with ⟨queue, hrun, hwaiters⟩
  rcases (answers_in_turn hrun).1 with ⟨xs, hreplay, _⟩
  exact ⟨queue, _, hrun, rfl, hwaiters, xs, hreplay⟩

end BlockingQueue
end Utils
end Wethands
