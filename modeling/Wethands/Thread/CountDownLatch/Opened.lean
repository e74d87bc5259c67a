import Wethands.Thread.Sections

/-!
# An open latch

When `Wait` has returned, and no more threads count down than the latch counts,
all of them have left the latch, so that it may be destroyed.
-/

namespace Wethands
namespace Thread
namespace CountDownLatch

open Foundation
open Condition (Place)

variable {ThreadId : Type}

abbrev Latch (ThreadId : Type) : Type :=
  Condition.Shared ThreadId Int Request Cond Event

abbrev Input (ThreadId : Type) : Type :=
  Condition.Input ThreadId Request Cond

def New (ThreadId : Type) (count : Int) : Latch ThreadId :=
  Condition.Init ThreadId Request Cond Event count

def LatchMachine (ThreadId : Type) [DecidableEq ThreadId] :
    Machine (Latch ThreadId) (Input ThreadId) Event :=
  Condition.SharedMachine LatchMonitor Conds ThreadId

/-- How many calls of `CountDown` an input begins. -/
def CountsDown : Input ThreadId -> Nat
  | Condition.Input.call _ Request.countDown => 1
  | _ => 0

/-- A thread in `CountDown` that has not counted yet. -/
def Before : Place Request Cond Event -> Bool
  | Place.lock request | Place.assign request | Place.body request |
    Place.wait request _ | Place.sleep request _ | Place.asleep request _ |
    Place.awake request | Place.reassign request =>
      request = Request.countDown
  | Place.outside | Place.notify _ _ _ _ | Place.unlock _ |
    Place.release _ => false

theorem before_or_owns {place : Place Request Cond Event}
    (h : place.Inside? = some Request.countDown) :
    Before place = true ∨ place.Owns = true := by
  cases place with
  | outside => cases h
  | lock request | assign request | body request | wait request cond
  | sleep request cond | asleep request cond | awake request
  | reassign request =>
      cases h
      exact Or.inl rfl
  | notify request event signals left | unlock request | release request =>
      exact Or.inr rfl

theorem conds_complete : Condition.Complete LatchMonitor Conds :=
  fun _ _ _ _ _ _ cond _ => mem_conds cond

/-!
# How many have counted
-/

def Counted (count : Int) (begun : Nat) (latch : Latch ThreadId) : Prop :=
  exists before : List ThreadId, before.Nodup ∧
    (forall tid, tid ∈ before <-> Before (latch.places tid) = true) ∧
    (before.length : Int) + (count - latch.data) = begun

theorem counted_new (count : Int) :
    Counted count 0 (New ThreadId count) := by
  refine ⟨[], List.nodup_nil, ?_, ?_⟩
  · intro tid
    refine iff_of_false List.not_mem_nil ?_
    intro h
    cases h
  · show ((0 : Nat) : Int) + (count - count) = (0 : Nat)
    omega

section Steps

variable [DecidableEq ThreadId] {count : Int} {begun : Nat}
  {latch next : Latch ThreadId} {i : Input ThreadId} {es : List Event}

omit [DecidableEq ThreadId] in
theorem Counted.same (h : Counted count begun latch)
    (hdata : next.data = latch.data)
    (hplaces : forall tid,
      Before (next.places tid) = Before (latch.places tid)) :
    Counted count begun next := by
  rcases h with ⟨before, hnodup, hmem, hlength⟩
  refine ⟨before, hnodup, ?_, ?_⟩
  · intro tid
    rw [hplaces tid]
    exact hmem tid
  · rw [hdata]
    exact hlength

theorem before_update {places : ThreadId -> Place Request Cond Event}
    {tid : ThreadId} {place : Place Request Cond Event}
    (h : Before place = Before (places tid)) (other : ThreadId) :
    Before (Function.update places tid place other) =
      Before (places other) := by
  by_cases hother : other = tid
  · subst hother
    rw [Function.update_self, h]
  · rw [Function.update_of_ne hother]

theorem before_woken (tids : List ThreadId)
    (places : ThreadId -> Place Request Cond Event) (tid : ThreadId) :
    Before (Condition.Woken tids places tid) = Before (places tid) := by
  unfold Condition.Woken
  split
  · rename_i request cond hasleep
    rw [hasleep]
    split <;> rfl
  · rfl

theorem counted_call (h : Counted count begun latch) {tid : ThreadId}
    (request : Request) (hplace : latch.places tid = Place.outside) :
    Counted count (begun + CountsDown (Condition.Input.call tid request))
      (Condition.Move latch latch.lock_ tid (Place.lock request)) := by
  by_cases hrequest : request = Request.countDown
  · subst hrequest
    rcases h with ⟨before, hnodup, hmem, hlength⟩
    have hfresh : tid ∉ before := by
      rw [hmem tid, hplace]
      exact Bool.false_ne_true
    refine ⟨tid :: before, List.nodup_cons.mpr ⟨hfresh, hnodup⟩, ?_, ?_⟩
    · intro other
      rw [List.mem_cons, hmem other]
      show _ <-> Before (Function.update latch.places tid _ other) = true
      by_cases hother : other = tid
      · subst hother
        rw [Function.update_self]
        exact iff_of_true (Or.inl rfl) rfl
      · rw [Function.update_of_ne hother]
        exact or_iff_right hother
    · show ((tid :: before).length : Int) + (count - latch.data) =
        ((begun + 1 : Nat) : Int)
      rw [List.length_cons]
      omega
  · have hcost : CountsDown (Condition.Input.call tid request) = 0 := by
      cases request with
      | countDown => exact absurd rfl hrequest
      | wait | getCount => rfl
    rw [hcost]
    refine h.same rfl (before_update ?_)
    rw [hplace]
    exact decide_eq_false hrequest

theorem counted_ends (h : Counted count begun latch) {tid : ThreadId}
    {request : Request} {data : Int} {event : Event}
    {signals : Cond -> Signal}
    (hplace : latch.places tid = Place.body request)
    (hends : LatchMonitor.Section request latch.data =
      Verdict.ends data event signals) :
    Counted count begun
      { Condition.Move latch latch.lock_ tid
          (Place.notify request event signals Conds) with data := data } := by
  cases section_ends hends with
  | countedDown =>
      rcases h with ⟨before, hnodup, hmem, hlength⟩
      have hin : tid ∈ before := by
        rw [hmem tid, hplace]
        rfl
      refine ⟨before.erase tid, hnodup.erase tid, ?_, ?_⟩
      · intro other
        rw [hnodup.mem_erase_iff, hmem other]
        show _ <-> Before (Function.update latch.places tid _ other) = true
        by_cases hother : other = tid
        · subst hother
          rw [Function.update_self]
          exact iff_of_false (fun hboth => hboth.1 rfl) Bool.false_ne_true
        · rw [Function.update_of_ne hother]
          exact and_iff_right hother
      · have hpos := List.length_pos_of_mem hin
        rw [List.length_erase_of_mem hin]
        show _ + (count - (latch.data - 1)) = _
        omega
  | waited hopen | counted =>
      refine h.same rfl (before_update ?_)
      rw [hplace]
      rfl

theorem counted_step (h : Counted count begun latch)
    (hstep : Condition.Transition LatchMonitor Conds latch i next es) :
    Counted count (begun + CountsDown i) next := by
  cases hstep with
  | call tid request hplace => exact counted_call h request hplace
  | goes tid lock_ place hgoes =>
      refine h.same rfl (before_update ?_)
      generalize latch.places tid = current at hgoes
      cases hgoes <;> rfl
  | sleeps tid request cond hplace hmutex =>
      refine h.same rfl (before_update ?_)
      rw [hplace]
      rfl
  | ends tid request data event signals hplace hends =>
      exact counted_ends h hplace hends
  | notifies tid request event signals cond left chosen hplace hanswers =>
      refine h.same rfl (fun other => ?_)
      refine (before_woken _ _ other).trans (before_update ?_ other)
      rw [hplace]
      rfl
  | leaves tid request event signals hplace =>
      refine h.same rfl (before_update ?_)
      rw [hplace]
      rfl
  | spurious sleeper hmem =>
      exact h.same rfl (before_woken _ latch.places)

/-!
# When `Wait` has returned
-/

/-- No thread is in `CountDown`. -/
def Deserted (latch : Latch ThreadId) : Prop :=
  forall tid, (latch.places tid).Inside? ≠ some Request.countDown

omit [DecidableEq ThreadId] in
theorem Counted.none_before (h : Counted count begun latch)
    (hbegun : (begun : Int) ≤ count) (hopen : latch.data ≤ 0)
    (tid : ThreadId) : Before (latch.places tid) = false := by
  rcases h with ⟨before, _, hmem, hlength⟩
  have hnone : before = [] := by
    refine List.length_eq_zero_iff.mp ?_
    omega
  rw [Bool.eq_false_iff, Ne, ← hmem tid, hnone]
  exact List.not_mem_nil

theorem data_le (hstep :
    Condition.Transition LatchMonitor Conds latch i next es) :
    next.data ≤ latch.data := by
  cases hstep with
  | ends tid request data event signals hplace hends =>
      show data ≤ latch.data
      cases section_ends hends with
      | countedDown => omega
      | waited hopen | counted => exact Int.le_refl latch.data
  | call | goes | sleeps | notifies | leaves | spurious =>
      exact Int.le_refl latch.data

theorem Deserted.kept (h : Deserted latch) (hopen : latch.data ≤ 0)
    (hcounted : Counted count begun latch)
    (hbegun : ((begun + CountsDown i : Nat) : Int) ≤ count)
    (hstep : Condition.Transition LatchMonitor Conds latch i next es) :
    Deserted next := by
  intro tid hinside
  rcases Condition.inside_step hstep hinside with hbefore | rfl
  · exact h tid hbefore
  · rcases hcounted with ⟨before, _, _, hlength⟩
    change ((begun + 1 : Nat) : Int) ≤ count at hbegun
    omega

/-- When a `Wait` returns, it has the lock, so that nobody else is inside. -/
theorem deserted_leaves (hdisciplined : Condition.Disciplined latch)
    (hcounted : Counted count begun latch) (hbegun : (begun : Int) ≤ count)
    (hopen : latch.data ≤ 0) {tid : ThreadId} {signals : Cond -> Signal}
    (hplace : latch.places tid =
      Place.notify Request.wait Event.waited signals []) :
    Deserted (Condition.Move latch latch.lock_ tid
      (Place.unlock Request.wait)) := by
  intro other hinside
  have howns : (latch.places tid).Owns = true := by
    rw [hplace]
    rfl
  have hbefore : (latch.places other).Inside? = some Request.countDown := by
    refine Condition.inside_update (Or.inr ?_) hinside
    rw [hplace]
    rfl
  have hother : other ≠ tid := by
    rintro rfl
    rw [hplace] at hbefore
    cases hbefore
  rcases before_or_owns hbefore with htrue | htrue
  · rw [hcounted.none_before hbegun hopen other] at htrue
    cases htrue
  · rw [hdisciplined.alone howns hother] at htrue
    cases htrue

structure Opened (count : Int) (begun : Nat) (latch : Latch ThreadId)
    (tr : List Event) : Prop where
  matched : exists state, Condition.Matches LatchMonitor latch state
  counted : Counted count begun latch
  open_ : Event.waited ∈ tr -> latch.data ≤ 0
  deserted : (begun : Int) ≤ count -> Event.waited ∈ tr -> Deserted latch

omit [DecidableEq ThreadId] in
theorem waited_of_leaves {request : Request} {data next : Int}
    {signals : Cond -> Signal}
    (hends : LatchMonitor.Section request data =
      Verdict.ends next Event.waited signals) :
    request = Request.wait ∧ next ≤ 0 := by
  cases section_ends hends with
  | waited hopen => exact ⟨rfl, hopen⟩

theorem opened_step {tr : List Event} (h : Opened count begun latch tr)
    (hstep : (LatchMachine ThreadId).Step latch i = some (next, es)) :
    Opened count (begun + CountsDown i) next (tr ++ es) := by
  rcases h.matched with ⟨state, hmatches⟩
  have hone := Condition.perform_transition i _ _ (answer_eq_some.mp hstep)
  have hreturns : Event.waited ∈ es -> latch.data ≤ 0 ∧
      ((begun : Int) ≤ count -> Deserted next) := by
    intro hmem
    cases hone with
    | leaves tid request event signals hplace =>
        rcases List.mem_singleton.mp hmem with rfl
        rcases hmatches.notifying hplace with ⟨chosen, hnotifying⟩
        rcases waited_of_leaves hnotifying.ends with ⟨rfl, hopen⟩
        exact ⟨hopen, fun hbegun => deserted_leaves hmatches.disciplined
          h.counted hbegun hopen hplace⟩
    | call | goes | sleeps | ends | notifies | spurious => cases hmem
  constructor
  case matched =>
    rcases Condition.step_abstracts conds_complete hmatches hstep with
      ⟨others, last, _, hlast⟩
    exact ⟨last, hlast⟩
  case counted => exact counted_step h.counted hone
  case open_ =>
    intro hmem
    refine Int.le_trans (data_le hone) ?_
    rcases List.mem_append.mp hmem with hbefore | hnow
    · exact h.open_ hbefore
    · exact (hreturns hnow).1
  case deserted =>
    intro hbegun hmem
    have hless : (begun : Int) ≤ count := by omega
    rcases List.mem_append.mp hmem with hbefore | hnow
    · exact (h.deserted hless hbefore).kept (h.open_ hbefore) h.counted
        hbegun hone
    · exact (hreturns hnow).2 hless

theorem run_opened {inputs : List (Input ThreadId)} {tr : List Event}
    (hrun : (LatchMachine ThreadId).Run (New ThreadId count) inputs =
      some (latch, tr)) :
    Opened count (inputs.map CountsDown).sum latch tr := by
  have hstart : Opened count 0 (New ThreadId count) [] := by
    constructor
    case matched =>
      exact ⟨_, Condition.matches_init count⟩
    case counted => exact counted_new count
    case open_ =>
      intro hmem
      cases hmem
    case deserted =>
      intro _ hmem
      cases hmem
  have hlast := Machine.run_measured (I := Opened count)
    (fun _ _ _ _ _ _ h hstep => opened_step h hstep) hstart hrun
  rwa [Nat.zero_add, List.nil_append] at hlast

theorem run_awake {inputs : List (Input ThreadId)} {tr : List Event}
    (hrun : (LatchMachine ThreadId).Run (New ThreadId count) inputs =
      some (latch, tr)) (hopen : latch.data ≤ 0)
    (hquiet : forall tid request event signals left,
      latch.places tid ≠ Place.notify request event signals left)
    (tid : ThreadId) (request : Request) (cond : Cond) :
    latch.places tid ≠ Place.asleep request cond := by
  intro hasleep
  rcases Condition.run_matches conds_complete hrun with
    ⟨others, state, hother, hmatches⟩
  have hdeserted : state.data ≤ 0 ->
      ¬Monitor.SleepsOn state Cond.cond_ := by
    refine Machine.run_invariant
      (I := fun state _ => state.data ≤ 0 ->
        ¬Monitor.SleepsOn state Cond.cond_) (p := []) ?_ ?_ hother
    · intro state tr i next es hkept hstep
      refine Monitor.deserted_step (P := fun data => data ≤ 0) ?_ ?_ hkept
        (Monitor.perform_transition i _ _ (answer_eq_some.mp hstep))
      · intro request data hle hwaits
        have hpos := (count_pos_of_waits hwaits).2
        omega
      · intro request data data' event signals hends hle
        cases section_ends hends with
        | countedDown =>
            by_cases hzero : data - 1 = 0
            · exact Or.inr (if_pos hzero)
            · exact Or.inl (by omega)
        | waited hbefore => exact Or.inl hbefore
        | counted => exact Or.inl hle
    · intro _ hsleeps
      rcases hsleeps with ⟨s, hs, _⟩
      cases hs
  rcases hmatches.signalled with ⟨hdata, hsleepers, _⟩ |
    ⟨other, asked, event, signals, left, chosen, hnotifying⟩
  · rw [hdata, Monitor.SleepsOn, hsleepers] at hdeserted
    have hwaits := (hmatches.waiting tid cond).mpr ⟨request, hasleep⟩
    exact hdeserted hopen ⟨_, hwaits, by cases cond; rfl⟩
  · exact absurd hnotifying.place (hquiet other asked event signals left)

/--
`Wait` comes back when the count has been used up and misses no signal; if no
more threads count down than that, all of them have left the latch by then.
-/
theorem opens_for_all {inputs : List (Input ThreadId)} {tr : List Event}
    (hrun : (LatchMachine ThreadId).Run (New ThreadId count) inputs =
      some (latch, tr)) :
    (Event.waited ∈ tr -> latch.data ≤ 0) ∧
    (latch.data ≤ 0 ->
      (forall tid request event signals left,
        latch.places tid ≠ Place.notify request event signals left) ->
      forall tid request cond,
        latch.places tid ≠ Place.asleep request cond) ∧
    (((inputs.map CountsDown).sum : Int) ≤ count -> Event.waited ∈ tr ->
      forall tid,
        (latch.places tid).Inside? ≠ some Request.countDown) :=
  ⟨(run_opened hrun).open_, run_awake hrun, (run_opened hrun).deserted⟩

end Steps

/-- A thread goes to sleep, and the only one that counts wakes it. -/
theorem opens_for_all_of_one_count :
    exists latch tr,
      (LatchMachine Nat).Run (New Nat 1)
        [Condition.Input.call 0 Request.wait, Condition.Input.next 0,
          Condition.Input.next 0, Condition.Input.next 0,
          Condition.Input.next 0, Condition.Input.next 0,
          Condition.Input.call 1 Request.countDown, Condition.Input.next 1,
          Condition.Input.next 1, Condition.Input.next 1,
          Condition.Input.notify 1 [⟨0, Cond.cond_⟩], Condition.Input.next 1,
          Condition.Input.next 1, Condition.Input.next 1,
          Condition.Input.next 0, Condition.Input.next 0,
          Condition.Input.next 0, Condition.Input.notify 0 [],
          Condition.Input.next 0] = some (latch, tr) ∧
      tr = [Event.countedDown, Event.waited] ∧ latch.data ≤ 0 ∧
      forall tid,
        (latch.places tid).Inside? ≠ some Request.countDown := by
  have heval : ((LatchMachine Nat).Run (New Nat 1)
      [Condition.Input.call 0 Request.wait, Condition.Input.next 0,
        Condition.Input.next 0, Condition.Input.next 0,
        Condition.Input.next 0, Condition.Input.next 0,
        Condition.Input.call 1 Request.countDown, Condition.Input.next 1,
        Condition.Input.next 1, Condition.Input.next 1,
        Condition.Input.notify 1 [⟨0, Cond.cond_⟩], Condition.Input.next 1,
        Condition.Input.next 1, Condition.Input.next 1,
        Condition.Input.next 0, Condition.Input.next 0,
        Condition.Input.next 0, Condition.Input.notify 0 [],
        Condition.Input.next 0]).map (fun last => (last.1.data, last.2)) =
      some ((0 : Int), [Event.countedDown, Event.waited]) := by
    decide +kernel
  rcases (LatchMachine Nat).exists_run (fun latch => latch.data) heval with
    ⟨latch, hrun, _⟩
  have hopens := opens_for_all hrun
  exact ⟨latch, _, hrun, rfl, hopens.1 (by decide),
    hopens.2.2 (by decide) (by decide)⟩

end CountDownLatch
end Thread
end Wethands
