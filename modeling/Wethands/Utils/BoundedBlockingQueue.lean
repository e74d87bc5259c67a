import Wethands.Foundation.Monitor
import Wethands.Utils.CircularQueue

/-!
# The bounded blocking queue

`Put` and `Take` are the calls of a monitor over a circular queue.
-/

namespace Wethands
namespace Utils

open Foundation

/-!
# Put and Take
-/

namespace BoundedBlockingQueue

inductive Cond where
  | notEmpty_
  | notFull_
deriving DecidableEq

inductive Request (T : Type) where
  | put (x : T)
  | take
deriving DecidableEq

/-- In the order of the lock: what was put and what a `Take` returns. -/
inductive Event (T : Type) where
  | put (x : T)
  | taken (front : T)
deriving DecidableEq

variable {T : Type}

/-- The assertion behind the loop repeats its test. -/
def Put (queue_ : CircularQueue T) (x : T) :
    Verdict (CircularQueue T) Cond (Event T) :=
  if queue_.Full then Verdict.waits Cond.notFull_
  else
    match queue_.PushBack x with
    | Except.error failure => Verdict.fails failure
    | Except.ok queue_ =>
        Verdict.ends queue_ (Event.put x) (Monitor.Notify Cond.notEmpty_)

def Take (queue_ : CircularQueue T) :
    Verdict (CircularQueue T) Cond (Event T) :=
  if queue_.Empty then Verdict.waits Cond.notEmpty_
  else
    match queue_.Front with
    | none => Verdict.fails Failure.danglingPointer
    | some front =>
        match queue_.PopFront with
        | Except.error failure => Verdict.fails failure
        | Except.ok queue_ =>
            Verdict.ends queue_ (Event.taken front)
              (Monitor.Notify Cond.notFull_)

def Section (request : Request T) (queue_ : CircularQueue T) :
    Verdict (CircularQueue T) Cond (Event T) :=
  match request with
  | Request.put x => Put queue_ x
  | Request.take => Take queue_

def WaitsOn : Request T -> Cond
  | Request.put _ => Cond.notFull_
  | Request.take => Cond.notEmpty_

theorem section_waits_on (request : Request T) (queue_ : CircularQueue T)
    (cond : Cond) (h : Section request queue_ = Verdict.waits cond) :
    cond = WaitsOn request := by
  cases request with
  | put x =>
      change Put queue_ x = Verdict.waits cond at h
      unfold Put at h
      split at h
      · cases h
        rfl
      · split at h <;> cases h
  | take =>
      change Take queue_ = Verdict.waits cond at h
      unfold Take at h
      split at h
      · cases h
        rfl
      · split at h
        · cases h
        · split at h <;> cases h

def QueueMonitor (T : Type) :
    Monitor (CircularQueue T) (Request T) Cond (Event T) where
  Section := Section
  WaitsOn := WaitsOn
  waits_on := section_waits_on

/-!
# What the calls do
-/

def PutOf : Event T -> Option T
  | Event.put x => some x
  | Event.taken _ => none

def TakenOf : Event T -> Option T
  | Event.put _ => none
  | Event.taken front => some front

def Puts (tr : List (Event T)) : List T := tr.filterMap PutOf

def Takes (tr : List (Event T)) : List T := tr.filterMap TakenOf

def Ordered (capacity : Nat) (queue_ : CircularQueue T)
    (tr : List (Event T)) : Prop :=
  exists xs, queue_.Holds xs ∧ queue_.capacity = capacity ∧
    Puts tr = Takes tr ++ xs

theorem put_spec {queue_ : CircularQueue T} {xs : List T}
    (h : queue_.Holds xs) (x : T) :
    xs.length = queue_.capacity ∧
        Put queue_ x = Verdict.waits Cond.notFull_ ∨
      exists next, Put queue_ x =
          Verdict.ends next (Event.put x) (Monitor.Notify Cond.notEmpty_) ∧
        xs.length < queue_.capacity ∧ next.Holds (xs ++ [x]) ∧
        next.capacity = queue_.capacity := by
  cases hfull : queue_.Full with
  | true =>
      apply Or.inl
      exact ⟨(CircularQueue.full_iff h).mp hfull, by rw [Put, if_pos hfull]⟩
  | false =>
      apply Or.inr
      rcases CircularQueue.holds_pushBack h hfull x with
        ⟨next, hpush, hholds, hcapacity⟩
      have hless := CircularQueue.length_lt h hfull
      exact ⟨next, by simp [Put, hfull, hpush], hless, hholds, hcapacity⟩

theorem take_spec {queue_ : CircularQueue T} {xs : List T}
    (h : queue_.Holds xs) :
    xs = [] ∧ Take queue_ = Verdict.waits Cond.notEmpty_ ∨
      exists front rest next, xs = front :: rest ∧
        Take queue_ = Verdict.ends next (Event.taken front)
          (Monitor.Notify Cond.notFull_) ∧
        next.Holds rest ∧ next.capacity = queue_.capacity := by
  cases xs with
  | nil =>
      have hempty := (CircularQueue.empty_iff h).mpr rfl
      exact Or.inl ⟨rfl, by rw [Take, if_pos hempty]⟩
  | cons front rest =>
      have hempty : queue_.Empty = false := by
        rw [Bool.eq_false_iff]
        intro hempty
        cases (CircularQueue.empty_iff h).mp hempty
      have hfront := CircularQueue.front_eq h
      rcases CircularQueue.holds_popFront h with
        ⟨next, hpop, hholds, hcapacity⟩
      refine Or.inr ⟨front, rest, next, rfl, ?_, hholds, hcapacity⟩
      simp [Take, hempty, hfront, hpop]

theorem ordered_new {capacity : Nat} (h : 0 < capacity) :
    Ordered capacity (CircularQueue.New T capacity) [] :=
  ⟨[], CircularQueue.holds_new h, rfl, rfl⟩

theorem ordered_kept (capacity : Nat) :
    (QueueMonitor T).KeptBySections (Ordered capacity) := by
  intro request queue_ next event signals tr hordered hends
  rcases hordered with ⟨xs, hholds, hcapacity, hputs⟩
  cases request with
  | put x =>
      rcases put_spec hholds x with ⟨_, hwaits⟩ | ⟨last, hput, _, hlast, hsame⟩
      · cases hwaits.symm.trans hends
      · cases hput.symm.trans hends
        refine ⟨xs ++ [x], hlast, hsame.trans hcapacity, ?_⟩
        rw [Puts, Takes] at hputs ⊢
        simp [List.filterMap_append, hputs, PutOf, TakenOf]
  | take =>
      rcases take_spec hholds with
        ⟨_, hwaits⟩ | ⟨front, rest, last, rfl, htake, hlast, hsame⟩
      · cases hwaits.symm.trans hends
      · cases htake.symm.trans hends
        refine ⟨rest, hlast, hsame.trans hcapacity, ?_⟩
        rw [Puts, Takes] at hputs ⊢
        simp [List.filterMap_append, hputs, PutOf, TakenOf]

/-!
# Signals
-/

def Held (queue_ : CircularQueue T) : Prop := exists xs, queue_.Holds xs

theorem counts_notEmpty : (QueueMonitor T).Counts Cond.notEmpty_ Held
    CircularQueue.size_ where
  waits request queue_ hheld hwaits := by
    rcases hheld with ⟨xs, h⟩
    cases request with
    | put x =>
        have hcond : Cond.notEmpty_ = Cond.notFull_ :=
          (QueueMonitor T).waits_on _ queue_ _ hwaits
        cases hcond
    | take =>
        rcases take_spec h with ⟨rfl, _⟩ | ⟨front, rest, last, _, htake, _⟩
        · exact h.size
        · cases htake.symm.trans hwaits
  takes request queue_ next event signals hheld hends hown := by
    rcases hheld with ⟨xs, h⟩
    cases request with
    | put x => cases hown
    | take =>
        rcases take_spec h with
          ⟨_, hwaits⟩ | ⟨front, rest, last, rfl, htake, hlast, _⟩
        · cases hwaits.symm.trans hends
        · cases htake.symm.trans hends
          rw [hlast.size, h.size, List.length_cons]
          exact Nat.le_refl _
  makes request queue_ next event signals hheld hends := by
    rcases hheld with ⟨xs, h⟩
    cases request with
    | put x =>
        rcases put_spec h x with ⟨_, hwaits⟩ | ⟨last, hput, _, hlast, _⟩
        · cases hwaits.symm.trans hends
        · cases hput.symm.trans hends
          refine Or.inr ⟨?_, by decide⟩
          rw [hlast.size, h.size, List.length_append, List.length_singleton]
    | take =>
        rcases take_spec h with
          ⟨_, hwaits⟩ | ⟨front, rest, last, rfl, htake, hlast, _⟩
        · cases hwaits.symm.trans hends
        · cases htake.symm.trans hends
          apply Or.inl
          rw [hlast.size, h.size, List.length_cons]
          exact Nat.le_succ _

theorem counts_notFull : (QueueMonitor T).Counts Cond.notFull_ Held
    (fun queue_ => queue_.capacity - queue_.size_) where
  waits request queue_ hheld hwaits := by
    rcases hheld with ⟨xs, h⟩
    cases request with
    | put x =>
        rcases put_spec h x with ⟨hfull, _⟩ | ⟨last, hput, _, _, _⟩
        · rw [h.size, hfull, Nat.sub_self]
        · cases hput.symm.trans hwaits
    | take =>
        have hcond : Cond.notFull_ = Cond.notEmpty_ :=
          (QueueMonitor T).waits_on _ queue_ _ hwaits
        cases hcond
  takes request queue_ next event signals hheld hends hown := by
    rcases hheld with ⟨xs, h⟩
    cases request with
    | put x =>
        rcases put_spec h x with ⟨_, hwaits⟩ | ⟨last, hput, _, hlast, hsame⟩
        · cases hwaits.symm.trans hends
        · cases hput.symm.trans hends
          rw [hlast.size, h.size, hsame, List.length_append,
            List.length_singleton]
          omega
    | take => cases hown
  makes request queue_ next event signals hheld hends := by
    rcases hheld with ⟨xs, h⟩
    cases request with
    | put x =>
        rcases put_spec h x with ⟨_, hwaits⟩ | ⟨last, hput, _, hlast, hsame⟩
        · cases hwaits.symm.trans hends
        · cases hput.symm.trans hends
          apply Or.inl
          rw [hlast.size, h.size, hsame, List.length_append]
          omega
    | take =>
        rcases take_spec h with
          ⟨_, hwaits⟩ | ⟨front, rest, last, rfl, htake, hlast, hsame⟩
        · cases hwaits.symm.trans hends
        · cases htake.symm.trans hends
          refine Or.inr ⟨?_, by decide⟩
          rw [hlast.size, h.size, hsame, List.length_cons]
          omega

/-!
# Runs
-/

section Threads

variable {ThreadId : Type} [DecidableEq ThreadId] {capacity : Nat}

abbrev State (ThreadId T : Type) : Type :=
  Monitor.State ThreadId (CircularQueue T) (Request T) Cond

abbrev Input (ThreadId T : Type) : Type :=
  Monitor.Input ThreadId (Request T) Cond

def Init (ThreadId T : Type) (maxSize : Nat) : State ThreadId T :=
  Monitor.Init ThreadId (Request T) Cond (CircularQueue.New T maxSize)

def QueueMachine (ThreadId T : Type) [DecidableEq ThreadId] :
    Machine (State ThreadId T) (Input ThreadId T) (Event T) :=
  Monitor.MonitorMachine (QueueMonitor T) ThreadId

structure Sound (capacity : Nat) (state : State ThreadId T)
    (tr : List (Event T)) : Prop where
  orderly : Monitor.Orderly (QueueMonitor T) state
  ordered : Ordered capacity state.data tr
  notEmpty : Monitor.NoLostSignal Cond.notEmpty_ CircularQueue.size_ state
  notFull : Monitor.NoLostSignal Cond.notFull_
    (fun queue_ => queue_.capacity - queue_.size_) state

omit [DecidableEq ThreadId] in
theorem sound_init (h : 0 < capacity) :
    Sound capacity (Init ThreadId T capacity) [] where
  orderly := Monitor.orderly_init _
  ordered := ordered_new h
  notEmpty := fun hsleeps => by
    rcases hsleeps with ⟨s, hs, _⟩
    cases hs
  notFull := fun hsleeps => by
    rcases hsleeps with ⟨s, hs, _⟩
    cases hs

theorem sound_step {state next : State ThreadId T} {tr es : List (Event T)}
    (h : Sound capacity state tr)
    (hstep : Monitor.Transition (QueueMonitor T) state next es) :
    Sound capacity next (tr ++ es) := by
  have hheld : Held state.data := by
    rcases h.ordered with ⟨xs, hholds, _⟩
    exact ⟨xs, hholds⟩
  exact {
    orderly := Monitor.orderly_step h.orderly hstep
    ordered := Monitor.data_invariant (ordered_kept capacity) h.ordered hstep
    notEmpty := Monitor.no_lost_signal_step counts_notEmpty hheld h.orderly
      h.notEmpty hstep
    notFull := Monitor.no_lost_signal_step counts_notFull hheld h.orderly
      h.notFull hstep }

theorem sound_run {inputs : List (Input ThreadId T)}
    {state : State ThreadId T} {tr : List (Event T)} (h : 0 < capacity)
    (hrun : (QueueMachine ThreadId T).Run (Init ThreadId T capacity) inputs =
      some (state, tr)) : Sound capacity state tr :=
  Machine.run_invariant (I := Sound capacity) (p := [])
    (fun _ _ i _ _ hsound hstep => sound_step hsound
      (Monitor.perform_transition i _ _ (answer_eq_some.mp hstep)))
    (sound_init h) hrun

def Stuck (state : State ThreadId T) : Prop :=
  (forall tid, state.calls tid ≠ none -> Monitor.Blocked state tid) ∧
    (Monitor.SleepsOn state Cond.notEmpty_ ∧ state.data.Empty = false ∨
      Monitor.SleepsOn state Cond.notFull_ ∧ state.data.Full = false)

omit [DecidableEq ThreadId] in
theorem not_stuck {state : State ThreadId T} {tr : List (Event T)}
    (h : Sound capacity state tr) : ¬Stuck state := by
  intro hboth
  rcases hboth with ⟨hblocked, hsleeper⟩
  rcases h.ordered with ⟨xs, hholds, _, _⟩
  rcases hsleeper with ⟨hsleeps, hempty⟩ | ⟨hsleeps, hfull⟩
  · have hwork := h.notEmpty hsleeps
    rw [Monitor.pending_eq_zero h.orderly Cond.notEmpty_ hblocked] at hwork
    have hzero : state.data.Empty = true :=
      decide_eq_true (Nat.le_zero.mp hwork)
    rw [hzero] at hempty
    cases hempty
  · have hwork := h.notFull hsleeps
    rw [Monitor.pending_eq_zero h.orderly Cond.notFull_ hblocked] at hwork
    have hroom : state.data.capacity - state.data.size_ = 0 :=
      Nat.le_zero.mp hwork
    have hsize := hholds.size
    have hle := hholds.size_le
    have hsame : state.data.Full = true := by
      rw [CircularQueue.Full, decide_eq_true_iff]
      omega
    rw [hsame] at hfull
    cases hfull

/--
Elements are taken in the order in which they were put, the queue never holds
more than its capacity, and no run gets stuck.
-/
theorem taken_in_order {inputs : List (Input ThreadId T)}
    {state : State ThreadId T} {tr : List (Event T)} (hcapacity : 1 ≤ capacity)
    (hrun : (QueueMachine ThreadId T).Run (Init ThreadId T capacity) inputs =
      some (state, tr)) :
    Takes tr <+: Puts tr ∧ state.data.size_ ≤ capacity ∧ ¬Stuck state := by
  have hsound := sound_run hcapacity hrun
  rcases hsound.ordered with ⟨xs, hholds, hsame, hputs⟩
  refine ⟨⟨xs, hputs.symm⟩, ?_, not_stuck hsound⟩
  rw [hholds.size, ← hsame]
  exact hholds.size_le

end Threads

/--
A consumer sleeps, and the element that wakes it is taken by another one, so
that it goes back to sleep.
-/
theorem taken_in_order_of_two_consumers :
    exists state tr, (QueueMachine Nat Nat).Run (Init Nat Nat 1)
        [Monitor.Input.call 0 Request.take, Monitor.Input.enter 0 [],
          Monitor.Input.call 1 (Request.put 7),
          Monitor.Input.enter 1 [⟨0, Cond.notEmpty_⟩],
          Monitor.Input.call 2 Request.take, Monitor.Input.enter 2 [],
          Monitor.Input.enter 0 []] = some (state, tr) ∧
      tr = [Event.put 7, Event.taken 7] ∧
      state.sleepers = [⟨0, Cond.notEmpty_⟩] ∧
      Takes tr <+: Puts tr ∧ state.data.size_ ≤ 1 ∧ ¬Stuck state := by
  have heval : ((QueueMachine Nat Nat).Run (Init Nat Nat 1)
      [Monitor.Input.call 0 Request.take, Monitor.Input.enter 0 [],
        Monitor.Input.call 1 (Request.put 7),
        Monitor.Input.enter 1 [⟨0, Cond.notEmpty_⟩],
        Monitor.Input.call 2 Request.take, Monitor.Input.enter 2 [],
        Monitor.Input.enter 0 []]).map
      (fun last => (last.1.sleepers, last.2)) =
      some ([⟨0, Cond.notEmpty_⟩], [Event.put 7, Event.taken 7]) := by
    decide +kernel
  rcases (QueueMachine Nat Nat).exists_run (fun state => state.sleepers) heval
    with ⟨state, hrun, hsleepers⟩
  exact ⟨state, _, hrun, rfl, hsleepers,
    taken_in_order (Nat.le_refl 1) hrun⟩

end BoundedBlockingQueue
end Utils
end Wethands
