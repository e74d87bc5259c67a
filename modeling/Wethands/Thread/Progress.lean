import Mathlib.Data.List.Dedup
import Wethands.Thread.Sections

/-!
# Threads that can go on

The thread that has the mutex is never stuck, and no thread is stuck that could
take it.
-/

namespace Wethands
namespace Thread

open Foundation

namespace Condition

variable {ThreadId Data Request Cond Event : Type}

def Input.GoesOn : Input ThreadId Request Cond -> Option ThreadId
  | call _ _ | spurious _ => none
  | next tid | notify tid _ => some tid

/-- The code under the lock holds its own assertions. -/
def NeverFails (M : Monitor Data Request Cond Event) (data : Data) : Prop :=
  forall request failure, M.Section request data ≠ Verdict.fails failure

theorem outside_of_inside {place : Place Request Cond Event}
    (h : place.Inside? = none) : place = Place.outside := by
  cases place <;> first | rfl | cases h

section Steps

variable [DecidableEq ThreadId] [DecidableEq Cond]
  {M : Monitor Data Request Cond Event} {conds : List Cond}
  {shared : Shared ThreadId Data Request Cond Event}

theorem exists_answers (signals : Cond -> Signal)
    (sleepers : List (Monitor.Sleeper ThreadId Cond)) :
    exists chosen, Monitor.Answers signals sleepers chosen := by
  have hmem : forall s,
      s ∈ (sleepers.filter
        (fun s => decide (signals s.cond ≠ Signal.quiet))).dedup <->
        s ∈ sleepers ∧ signals s.cond ≠ Signal.quiet := by
    intro s
    rw [List.mem_dedup, List.mem_filter, decide_eq_true_iff]
  refine ⟨_, List.nodup_dedup _, fun s hs => (hmem s).mp hs, ?_⟩
  intro s hs
  constructor
  · intro hone
    exact ⟨s, (hmem s).mpr ⟨hs, by simp [hone]⟩, rfl⟩
  · intro hall
    exact (hmem s).mpr ⟨hs, by simp [hall]⟩

def Moves (M : Monitor Data Request Cond Event) (conds : List Cond)
    (shared : Shared ThreadId Data Request Cond Event) (tid : ThreadId) :
    Prop :=
  exists i next es, Input.GoesOn i = some tid ∧
    Perform M conds shared i = Except.ok (next, es)

theorem moves_next {tid : ThreadId}
    {next : Shared ThreadId Data Request Cond Event} {es : List Event}
    (h : Next M conds shared tid = Except.ok (next, es)) :
    Moves M conds shared tid :=
  ⟨Input.next tid, next, es, rfl, h⟩

/-- Whoever has the mutex goes on. -/
theorem owner_moves (h : Disciplined shared)
    (hnever : NeverFails M shared.data)
    {tid : ThreadId} (howns : (shared.places tid).Owns = true) :
    Moves M conds shared tid := by
  have hrelease := h.release_ok howns
  cases hplace : shared.places tid with
  | outside | lock request | asleep request cond | awake request =>
      rw [hplace] at howns
      cases howns
  | assign request | reassign request | unlock request =>
      apply moves_next
      rw [Next, hplace]
  | body request =>
      cases hsection : M.Section request shared.data with
      | waits cond =>
          apply moves_next
          rw [Next, hplace]
          dsimp only
          rw [Body, hsection]
      | ends data event signals =>
          apply moves_next
          rw [Next, hplace]
          dsimp only
          rw [Body, hsection]
      | fails failure => exact absurd hsection (hnever _ _)
  | wait request cond =>
      have hholds : shared.lock_.LockedByThisThread tid = true := by
        refine beq_iff_eq.mpr ((h.holder tid).mp ?_)
        rw [hplace]
        rfl
      apply moves_next
      rw [Next, hplace]
      dsimp only
      rw [Assert, if_pos hholds]
  | sleep request cond =>
      apply moves_next
      rw [Next, hplace]
      dsimp only
      rw [CondWait, hrelease]
  | notify request event signals left =>
      cases left with
      | nil =>
          apply moves_next
          rw [Next, hplace]
      | cons cond left =>
          rcases exists_answers (Only signals cond) shared.waiters with
            ⟨chosen, hanswers⟩
          have hnotify : exists next es,
              NotifyNext shared tid chosen = Except.ok (next, es) := by
            rw [NotifyNext, hplace]
            exact ⟨_, _, if_pos hanswers⟩
          rcases hnotify with ⟨next, es, hnext⟩
          exact ⟨Input.notify tid chosen, next, es, rfl, hnext⟩
  | release request =>
      apply moves_next
      rw [Next, hplace]
      dsimp only
      rw [Unlock, hrelease]

/-- A thread that is not asleep goes on, or waits for one that does. -/
theorem inside_moves (h : Disciplined shared)
    (hnever : NeverFails M shared.data)
    {tid : ThreadId} (hinside : shared.places tid ≠ Place.outside)
    (hawake : forall request cond,
      shared.places tid ≠ Place.asleep request cond) :
    exists other, Moves M conds shared other := by
  cases hmutex : shared.lock_.mutex_ with
  | some other =>
      exact ⟨other, owner_moves h hnever ((h.owner other).mpr hmutex)⟩
  | none =>
      have hfree := h.free hmutex tid
      have hlock : forall place, exists next es,
          Lock shared tid place = Except.ok (next, es) := by
        intro place
        rw [Lock, MutexLock.Acquire, hmutex]
        exact ⟨_, _, rfl⟩
      refine ⟨tid, ?_⟩
      cases hplace : shared.places tid with
      | outside => exact absurd hplace hinside
      | asleep request cond => exact absurd hplace (hawake request cond)
      | lock request =>
          rcases hlock (Place.assign request) with ⟨next, es, hnext⟩
          apply moves_next
          rw [Next, hplace]
          exact hnext
      | awake request =>
          rcases hlock (Place.reassign request) with ⟨next, es, hnext⟩
          apply moves_next
          rw [Next, hplace]
          exact hnext
      | assign request | body request | wait request cond
      | sleep request cond | reassign request
      | notify request event signals left | unlock request
      | release request =>
          rw [hplace] at hfree
          cases hfree

/-!
# Where a thread comes from
-/

variable {next : Shared ThreadId Data Request Cond Event}
  {i : Input ThreadId Request Cond} {es : List Event}

omit [DecidableEq Cond] in
theorem asleep_update {places : ThreadId -> Place Request Cond Event}
    {tid other : ThreadId} {place : Place Request Cond Event}
    {request : Request} {cond : Cond}
    (hplace : place ≠ Place.asleep request cond)
    (h : Function.update places tid place other =
      Place.asleep request cond) :
    places other = Place.asleep request cond := by
  by_cases hother : other = tid
  · rw [hother, Function.update_self] at h
    exact absurd h hplace
  · rwa [Function.update_of_ne hother] at h

/-- A thread falls asleep in `pthread_cond_wait` only. -/
theorem asleep_step {tid : ThreadId} {request : Request} {cond : Cond}
    (hstep : Transition M conds shared i next es)
    (h : next.places tid = Place.asleep request cond) :
    shared.places tid = Place.asleep request cond ∨
      shared.places tid = Place.sleep request cond := by
  cases hstep with
  | call other asked hplace =>
      exact Or.inl (asleep_update (by simp) h)
  | goes other lock_ place hgoes =>
      refine Or.inl (asleep_update ?_ h)
      generalize shared.places other = current at hgoes
      cases hgoes <;> simp
  | sleeps other asked on hplace hmutex =>
      change Function.update shared.places other _ tid = _ at h
      by_cases hother : tid = other
      · subst hother
        rw [Function.update_self] at h
        cases h
        exact Or.inr hplace
      · rw [Function.update_of_ne hother] at h
        exact Or.inl h
  | ends other asked data event signals hplace hends =>
      exact Or.inl (asleep_update (by simp) h)
  | notifies other asked event signals on left chosen hplace hanswers =>
      exact Or.inl (asleep_update (by simp) (woken_eq_asleep.mp h).1)
  | leaves other asked event signals hplace =>
      exact Or.inl (asleep_update (by simp) h)
  | spurious sleeper hmem =>
      exact Or.inl (woken_eq_asleep.mp h).1

omit [DecidableEq Cond] in
theorem request_update {places : ThreadId -> Place Request Cond Event}
    {tid : ThreadId} {place : Place Request Cond Event}
    (hplace : place.Request? = (places tid).Request?) (other : ThreadId) :
    (Function.update places tid place other).Request? =
      (places other).Request? := by
  by_cases hother : other = tid
  · rw [hother, Function.update_self, hplace]
  · rw [Function.update_of_ne hother]

theorem request_step {tid : ThreadId} {request : Request}
    (hstep : Transition M conds shared i next es)
    (h : (shared.places tid).Request? = some request) :
    (next.places tid).Request? = some request ∨
      exists event signals,
        shared.places tid = Place.notify request event signals [] ∧
          es = [event] := by
  have hstays : forall {other : ThreadId} {place : Place Request Cond Event},
      place.Request? = (shared.places other).Request? ->
      (Function.update shared.places other place tid).Request? =
        some request :=
    fun hsame => (request_update hsame tid).trans h
  cases hstep with
  | call other asked hplace =>
      have hother : tid ≠ other := by
        rintro rfl
        rw [hplace] at h
        cases h
      refine Or.inl ?_
      show (Function.update shared.places other _ tid).Request? = _
      rw [Function.update_of_ne hother]
      exact h
  | goes other lock_ place hgoes =>
      refine Or.inl (hstays ?_)
      generalize shared.places other = current at hgoes
      cases hgoes <;> rfl
  | sleeps other asked on hplace hmutex =>
      refine Or.inl (hstays ?_)
      rw [hplace]
      rfl
  | ends other asked data event signals hplace hends =>
      refine Or.inl (hstays ?_)
      rw [hplace]
      rfl
  | notifies other asked event signals on left chosen hplace hanswers =>
      refine Or.inl ((request_woken _ _ tid).trans (hstays ?_))
      rw [hplace]
      rfl
  | leaves other asked event signals hplace =>
      by_cases hother : tid = other
      · subst hother
        rw [hplace] at h
        cases h
        exact Or.inr ⟨event, signals, hplace, rfl⟩
      · refine Or.inl ?_
        show (Function.update shared.places other _ tid).Request? = _
        rw [Function.update_of_ne hother]
        exact h
  | spurious sleeper hmem =>
      exact Or.inl ((request_woken _ shared.places tid).trans h)

end Steps
end Condition
end Thread
end Wethands
