import Wethands.Thread.Progress
import Wethands.Utils.BoundedBlockingQueue

/-!
# Threads in a bounded blocking queue

The mutex and both conditions, step by step, over the slots of the circular
queue: nobody waits but a `Put` for a full queue and a `Take` for an empty one.
-/

namespace Wethands
namespace Utils
namespace BoundedBlockingQueue

open Foundation
open Thread

variable {T : Type}

def Conds : List Cond := [Cond.notEmpty_, Cond.notFull_]

theorem conds_complete : Condition.Complete (QueueMonitor T) Conds := by
  intro _ _ _ _ _ _ cond _
  cases cond <;> decide

theorem section_never_fails {queue_ : CircularQueue T} {xs : List T}
    (h : queue_.Holds xs) :
    Condition.NeverFails (QueueMonitor T) queue_ := by
  intro request failure hfails
  cases request with
  | put x =>
      rcases put_spec h x with ⟨_, hwaits⟩ | ⟨next, hput, _⟩
      · cases hwaits.symm.trans hfails
      · cases hput.symm.trans hfails
  | take =>
      rcases take_spec h with ⟨_, hwaits⟩ | ⟨front, rest, next, _, htake, _⟩
      · cases hwaits.symm.trans hfails
      · cases htake.symm.trans hfails

section Threads

variable {ThreadId : Type} [DecidableEq ThreadId] {capacity : Nat}

abbrev Queue (ThreadId T : Type) : Type :=
  Condition.Shared ThreadId (CircularQueue T) (Request T) Cond (Event T)

def New (ThreadId T : Type) (maxSize : Nat) : Queue ThreadId T :=
  Condition.Init ThreadId (Request T) Cond (Event T)
    (CircularQueue.New T maxSize)

def ThreadsMachine (ThreadId T : Type) [DecidableEq ThreadId] :
    Machine (Queue ThreadId T) (Condition.Input ThreadId (Request T) Cond)
      (Event T) :=
  Condition.SharedMachine (QueueMonitor T) Conds ThreadId

variable {queue : Queue ThreadId T}
  {inputs : List (Condition.Input ThreadId (Request T) Cond)}
  {tr : List (Event T)}

def Settled (queue : Queue ThreadId T) : Prop :=
  forall tid request event signals left,
    queue.places tid ≠ Condition.Place.notify request event signals left

/-- What a thread in the queue waits for. -/
def WaitsFor (queue : Queue ThreadId T) (tid : ThreadId) : Prop :=
  (exists x, queue.places tid =
    Condition.Place.asleep (Request.put x) Cond.notFull_ ∧
      queue.data.Full = true) ∨
  (queue.places tid =
    Condition.Place.asleep Request.take Cond.notEmpty_ ∧
      queue.data.Empty = true)

theorem run_sound (hcapacity : 1 ≤ capacity)
    (hrun : (ThreadsMachine ThreadId T).Run (New ThreadId T capacity) inputs =
      some (queue, tr)) :
    exists state, Condition.Matches (QueueMonitor T) queue state ∧
      Sound capacity state tr := by
  rcases Condition.run_matches conds_complete hrun with
    ⟨others, state, hother, hmatches⟩
  exact ⟨state, hmatches, sound_run hcapacity hother⟩

theorem run_holds (hcapacity : 1 ≤ capacity)
    (hrun : (ThreadsMachine ThreadId T).Run (New ThreadId T capacity) inputs =
      some (queue, tr)) :
    exists xs, queue.data.Holds xs ∧ queue.data.capacity = capacity ∧
      (Settled queue -> Puts tr = Takes tr ++ xs) := by
  rcases run_sound hcapacity hrun with ⟨state, hmatches, hsound⟩
  rcases hmatches.signalled with ⟨hdata, _, _⟩ |
    ⟨tid, request, event, signals, left, chosen, hnotifying⟩
  · rcases hsound.ordered with ⟨xs, hholds, hsame, hputs⟩
    rw [← hdata]
    exact ⟨xs, hholds, hsame, fun _ => hputs⟩
  · rcases ordered_kept capacity request state.data queue.data event signals
      tr hsound.ordered hnotifying.ends with ⟨xs, hholds, hsame, _⟩
    refine ⟨xs, hholds, hsame, fun hsettled => ?_⟩
    exact absurd hnotifying.place (hsettled tid request event signals left)

theorem waitsFor_of_asleep {state : State ThreadId T}
    (hmatches : Condition.Matches (QueueMonitor T) queue state)
    (hsound : Sound capacity state tr)
    (hasleep : forall tid, (queue.places tid).Inside? ≠ none ->
      exists request cond,
        queue.places tid = Condition.Place.asleep request cond)
    {tid : ThreadId} {request : Request T} {cond : Cond}
    (hplace : queue.places tid = Condition.Place.asleep request cond) :
    WaitsFor queue tid := by
  rcases hmatches.blocked hasleep with ⟨hdata, hsleepers, hblocked⟩
  have hmem : { tid := tid, cond := cond } ∈ state.sleepers := by
    rw [hsleepers]
    exact (hmatches.waiting tid cond).mpr ⟨request, hplace⟩
  have hcond : WaitsOn request = cond := by
    rcases hsound.orderly.placed _ (List.mem_append_left _ hmem) with
      ⟨asked, hcall, hwaits⟩
    rw [hmatches.calls tid, hplace] at hcall
    cases hcall
    exact hwaits
  have hsleeps : Monitor.SleepsOn state cond := ⟨_, hmem, rfl⟩
  have hnone := Monitor.pending_eq_zero hsound.orderly cond hblocked
  rcases hsound.ordered with ⟨xs, hholds, _, _⟩
  subst hcond
  cases request with
  | put x =>
      have hroom : state.data.capacity - state.data.size_ ≤
          Monitor.Pending state Cond.notFull_ := hsound.notFull hsleeps
      have hnone : Monitor.Pending state Cond.notFull_ = 0 := hnone
      rw [hnone] at hroom
      refine Or.inl ⟨x, hplace, ?_⟩
      have hsize := hholds.size
      have hle := hholds.size_le
      rw [← hdata, CircularQueue.Full, decide_eq_true_iff]
      omega
  | take =>
      have hwork : state.data.size_ ≤
          Monitor.Pending state Cond.notEmpty_ := hsound.notEmpty hsleeps
      have hnone : Monitor.Pending state Cond.notEmpty_ = 0 := hnone
      rw [hnone] at hwork
      refine Or.inr ⟨hplace, ?_⟩
      rw [← hdata]
      exact decide_eq_true (Nat.le_zero.mp hwork)

/--
Elements are taken in the order in which they were put, the queue never holds
more than its capacity, and no access of any thread is out of bounds.  As long
as somebody in the queue could do something, some thread goes on.
-/
theorem nobody_waits_in_vain (hcapacity : 1 ≤ capacity)
    (hrun : (ThreadsMachine ThreadId T).Run (New ThreadId T capacity) inputs =
      some (queue, tr)) :
    (exists xs, queue.data.Holds xs ∧ xs.length ≤ capacity ∧
      (Settled queue -> Puts tr = Takes tr ++ xs)) ∧
    Takes tr <+: Puts tr ∧
    (forall i failure,
      Condition.Perform (QueueMonitor T) Conds queue i =
        Except.error failure -> failure = Failure.impossible) ∧
    ((exists tid, Condition.Moves (QueueMonitor T) Conds queue tid) ∨
      forall tid, queue.places tid = Condition.Place.outside ∨
        WaitsFor queue tid) := by
  rcases run_sound hcapacity hrun with ⟨state, hmatches, hsound⟩
  rcases run_holds hcapacity hrun with ⟨xs, hholds, hsame, hputs⟩
  refine ⟨⟨xs, hholds, hsame ▸ hholds.size_le, hputs⟩, ?_, ?_, ?_⟩
  · rcases hsound.ordered with ⟨ys, _, _, hputs⟩
    exact ⟨ys, hputs.symm⟩
  · intro i failure hfails
    rcases Condition.perform_fails hmatches.disciplined hfails with
      himpossible | ⟨tid, request, _, _, hsection⟩
    · exact himpossible
    · exact absurd hsection (section_never_fails hholds _ _)
  · by_cases hawake : exists tid,
        queue.places tid ≠ Condition.Place.outside ∧
          forall request cond,
            queue.places tid ≠ Condition.Place.asleep request cond
    · rcases hawake with ⟨tid, hinside, hup⟩
      exact Or.inl (Condition.inside_moves hmatches.disciplined
        (section_never_fails hholds) hinside hup)
    · have hplaces : forall tid,
          queue.places tid = Condition.Place.outside ∨
            exists request cond,
              queue.places tid = Condition.Place.asleep request cond := by
        intro tid
        by_contra hnot
        rw [not_or] at hnot
        exact hawake ⟨tid, hnot.1, fun request cond hplace =>
          hnot.2 ⟨request, cond, hplace⟩⟩
      refine Or.inr (fun tid => (hplaces tid).imp_right ?_)
      intro hasleep
      rcases hasleep with ⟨request, cond, hplace⟩
      refine waitsFor_of_asleep hmatches hsound (fun other hinside => ?_)
        hplace
      refine (hplaces other).resolve_left (fun hout => hinside ?_)
      rw [hout]
      rfl

end Threads

/-- A producer sleeps in front of a queue with one slot, which is full. -/
def OneSlot : List (Condition.Input Nat (Request Nat) Cond) :=
  Condition.Input.call 0 (Request.put 7) ::
    List.replicate 3 (Condition.Input.next 0) ++
    [Condition.Input.notify 0 [], Condition.Input.notify 0 []] ++
    List.replicate 3 (Condition.Input.next 0) ++
    Condition.Input.call 1 (Request.put 8) ::
    List.replicate 5 (Condition.Input.next 1)

theorem nobody_waits_in_vain_of_one_slot :
    exists queue tr,
      (ThreadsMachine Nat Nat).Run (New Nat Nat 1) OneSlot =
        some (queue, tr) ∧
      tr = [Event.put 7] ∧ queue.waiters = [⟨1, Cond.notFull_⟩] ∧
      ((exists tid, Condition.Moves (QueueMonitor Nat) Conds queue tid) ∨
        forall tid, queue.places tid = Condition.Place.outside ∨
          WaitsFor queue tid) := by
  have heval : ((ThreadsMachine Nat Nat).Run (New Nat Nat 1) OneSlot).map
      (fun last => (last.1.waiters, last.2)) =
      some ([⟨1, Cond.notFull_⟩], [Event.put 7]) := by
    decide +kernel
  rcases (ThreadsMachine Nat Nat).exists_run (fun queue => queue.waiters)
    heval with ⟨queue, hrun, hwaiters⟩
  exact ⟨queue, _, hrun, rfl, hwaiters,
    (nobody_waits_in_vain (Nat.le_refl 1) hrun).2.2.2⟩

end BoundedBlockingQueue
end Utils
end Wethands
