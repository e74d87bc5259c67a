import Mathlib.Data.List.Nodup
import Mathlib.Logic.Function.Basic
import Wethands.Foundation.Machine
import Wethands.Foundation.Outcome

/-!
# Monitors

A lock, the data under it, and its conditions.  A thread that has the lock runs
the critical section of its call: the section waits on a condition, and is run
again from the test of its loop when the thread has the lock back, or it comes
to its end and signals.  A signal is pending for a thread from the moment that
it is woken until it has the lock back.
-/

namespace Wethands
namespace Foundation

inductive Signal where
  | quiet
  | one
  | all
deriving DecidableEq

inductive Verdict (Data Cond Event : Type) where
  | waits (cond : Cond)
  | ends (data : Data) (event : Event) (signals : Cond -> Signal)
  | fails (failure : Failure)

/-- The section of a call waits on one condition only. -/
structure Monitor (Data Request Cond Event : Type) where
  Section : Request -> Data -> Verdict Data Cond Event
  WaitsOn : Request -> Cond
  waits_on : forall request data cond,
    Section request data = Verdict.waits cond -> cond = WaitsOn request

namespace Monitor

structure Sleeper (ThreadId Cond : Type) where
  tid : ThreadId
  cond : Cond
deriving DecidableEq

/-- `calls` tells in which call each thread is, asleep or not. -/
structure State (ThreadId Data Request Cond : Type) where
  data : Data
  calls : ThreadId -> Option Request
  sleepers : List (Sleeper ThreadId Cond)
  woken : List (Sleeper ThreadId Cond)

variable {ThreadId Data Request Cond Event : Type}

def Init (ThreadId Request Cond : Type) (data : Data) :
    State ThreadId Data Request Cond where
  data := data
  calls := fun _ => none
  sleepers := []
  woken := []

inductive Input (ThreadId Request Cond : Type) where
  | call (tid : ThreadId) (request : Request)
  | enter (tid : ThreadId) (chosen : List (Sleeper ThreadId Cond))
  | spurious (sleeper : Sleeper ThreadId Cond)

def Answers (signals : Cond -> Signal)
    (sleepers chosen : List (Sleeper ThreadId Cond)) : Prop :=
  chosen.Nodup ∧
    (forall s, s ∈ chosen -> s ∈ sleepers ∧ signals s.cond ≠ Signal.quiet) ∧
    forall s, s ∈ sleepers ->
      (signals s.cond = Signal.one -> exists t, t ∈ chosen ∧ t.cond = s.cond) ∧
        (signals s.cond = Signal.all -> s ∈ chosen)

instance [DecidableEq ThreadId] [DecidableEq Cond] (signals : Cond -> Signal)
    (sleepers chosen : List (Sleeper ThreadId Cond)) :
    Decidable (Answers signals sleepers chosen) :=
  inferInstanceAs (Decidable (_ ∧ _ ∧ _))

section Steps

variable [DecidableEq ThreadId] [DecidableEq Cond]

def Notify (cond : Cond) : Cond -> Signal :=
  fun other => if other = cond then Signal.one else Signal.quiet

def Leave (state : State ThreadId Data Request Cond) (tid : ThreadId)
    (data : Data) (chosen : List (Sleeper ThreadId Cond)) :
    State ThreadId Data Request Cond where
  data := data
  calls := Function.update state.calls tid none
  sleepers := state.sleepers.filter (fun s => decide (s ∉ chosen))
  woken := chosen ++ state.woken.filter (fun s => decide (s.tid ≠ tid))

def Sleep (state : State ThreadId Data Request Cond) (tid : ThreadId)
    (cond : Cond) : State ThreadId Data Request Cond :=
  { state with
    sleepers := { tid := tid, cond := cond } :: state.sleepers
    woken := state.woken.filter (fun s => decide (s.tid ≠ tid)) }

def Begin (state : State ThreadId Data Request Cond) (tid : ThreadId)
    (request : Request) : Call (State ThreadId Data Request Cond) Event :=
  match state.calls tid with
  | some _ => Except.error Failure.impossible
  | none =>
      Except.ok ({ state with
        calls := Function.update state.calls tid (some request) }, [])

def Enter (M : Monitor Data Request Cond Event)
    (state : State ThreadId Data Request Cond) (tid : ThreadId)
    (chosen : List (Sleeper ThreadId Cond)) :
    Call (State ThreadId Data Request Cond) Event :=
  match state.calls tid with
  | none => Except.error Failure.impossible
  | some request =>
      if tid ∈ state.sleepers.map Sleeper.tid then
        Except.error Failure.impossible
      else
        match M.Section request state.data with
        | Verdict.waits cond => Except.ok (Sleep state tid cond, [])
        | Verdict.ends data event signals =>
            if Answers signals state.sleepers chosen then
              Except.ok (Leave state tid data chosen, [event])
            else Except.error Failure.impossible
        | Verdict.fails failure => Except.error failure

def Spurious (state : State ThreadId Data Request Cond)
    (sleeper : Sleeper ThreadId Cond) :
    Call (State ThreadId Data Request Cond) Event :=
  if sleeper ∈ state.sleepers then
    Except.ok ({ state with
      sleepers := state.sleepers.erase sleeper
      woken := sleeper :: state.woken }, [])
  else Except.error Failure.impossible

def Perform (M : Monitor Data Request Cond Event)
    (state : State ThreadId Data Request Cond) :
    Input ThreadId Request Cond ->
      Call (State ThreadId Data Request Cond) Event
  | Input.call tid request => Begin state tid request
  | Input.enter tid chosen => Enter M state tid chosen
  | Input.spurious sleeper => Spurious state sleeper

def MonitorMachine (M : Monitor Data Request Cond Event)
    (ThreadId : Type) [DecidableEq ThreadId] :
    Machine (State ThreadId Data Request Cond)
      (Input ThreadId Request Cond) Event where
  Step state i := Answer (Perform M state i)

/-!
# What a step can do
-/

inductive Transition (M : Monitor Data Request Cond Event)
    (state : State ThreadId Data Request Cond) :
    State ThreadId Data Request Cond -> List Event -> Prop where
  | call (tid : ThreadId) (request : Request) :
      state.calls tid = none ->
      Transition M state
        { state with
          calls := Function.update state.calls tid (some request) } []
  | waits (tid : ThreadId) (request : Request) :
      state.calls tid = some request ->
      tid ∉ state.sleepers.map Sleeper.tid ->
      M.Section request state.data = Verdict.waits (M.WaitsOn request) ->
      Transition M state (Sleep state tid (M.WaitsOn request)) []
  | ends (tid : ThreadId) (request : Request) (data : Data) (event : Event)
      (signals : Cond -> Signal) (chosen : List (Sleeper ThreadId Cond)) :
      state.calls tid = some request ->
      tid ∉ state.sleepers.map Sleeper.tid ->
      M.Section request state.data = Verdict.ends data event signals ->
      Answers signals state.sleepers chosen ->
      Transition M state (Leave state tid data chosen) [event]
  | spurious (sleeper : Sleeper ThreadId Cond) :
      sleeper ∈ state.sleepers ->
      Transition M state
        { state with
          sleepers := state.sleepers.erase sleeper
          woken := sleeper :: state.woken } []

variable {M : Monitor Data Request Cond Event}
  {state : State ThreadId Data Request Cond}

theorem begin_transition {tid : ThreadId} {request : Request} :
    Yields (Begin state tid request) (Transition M state) := by
  unfold Begin
  split
  · exact yields_error
  · exact yields_ok.mpr (Transition.call tid request ‹_›)

theorem enter_waits {tid : ThreadId} {request : Request} {cond : Cond}
    (hcall : state.calls tid = some request)
    (hawake : tid ∉ state.sleepers.map Sleeper.tid)
    (hwaits : M.Section request state.data = Verdict.waits cond) :
    Enter M state tid [] = Except.ok (Sleep state tid cond, []) := by
  simp [Enter, hcall, hawake, hwaits]

theorem enter_ends {tid : ThreadId} {request : Request} {data : Data}
    {event : Event} {signals : Cond -> Signal}
    {chosen : List (Sleeper ThreadId Cond)}
    (hcall : state.calls tid = some request)
    (hawake : tid ∉ state.sleepers.map Sleeper.tid)
    (hends : M.Section request state.data = Verdict.ends data event signals)
    (hanswers : Answers signals state.sleepers chosen) :
    Enter M state tid chosen =
      Except.ok (Leave state tid data chosen, [event]) := by
  simp [Enter, hcall, hawake, hends, hanswers]

theorem enter_transition {tid : ThreadId}
    {chosen : List (Sleeper ThreadId Cond)} :
    Yields (Enter M state tid chosen) (Transition M state) := by
  unfold Enter
  split
  · exact yields_error
  · rename_i request hcall
    split
    · exact yields_error
    · rename_i hawake
      split
      · rename_i cond hwaits
        have hcond := M.waits_on request state.data cond hwaits
        subst hcond
        exact yields_ok.mpr (Transition.waits tid request hcall hawake hwaits)
      · rename_i data event signals hends
        exact Yields.only_if (fun hanswers => yields_ok.mpr
          (Transition.ends tid request data event signals chosen hcall hawake
            hends hanswers))
      · exact yields_error

theorem perform_transition (i : Input ThreadId Request Cond) :
    Yields (Perform M state i) (Transition M state) := by
  cases i with
  | call tid request => exact begin_transition
  | enter tid chosen => exact enter_transition
  | spurious sleeper =>
      exact Yields.only_if (fun hmem =>
        yields_ok.mpr (Transition.spurious sleeper hmem))

end Steps

/-!
# Invariants of the data
-/

variable [DecidableEq ThreadId] [DecidableEq Cond]
  {M : Monitor Data Request Cond Event}
  {state next : State ThreadId Data Request Cond} {es : List Event}

/-- What every section keeps of the data and of the events so far. -/
def KeptBySections (M : Monitor Data Request Cond Event)
    (I : Data -> List Event -> Prop) : Prop :=
  forall request data data' event signals tr, I data tr ->
    M.Section request data = Verdict.ends data' event signals ->
    I data' (tr ++ [event])

theorem data_invariant {I : Data -> List Event -> Prop}
    (hkept : KeptBySections M I) {tr : List Event} (h : I state.data tr)
    (hstep : Transition M state next es) : I next.data (tr ++ es) := by
  cases hstep with
  | call tid request hidle =>
      rw [List.append_nil]
      exact h
  | waits tid request hcall hawake hwaits =>
      rw [List.append_nil]
      exact h
  | ends tid request data event signals chosen hcall hawake hends hanswers =>
      exact hkept request state.data data event signals tr h hends
  | spurious sleeper hmem =>
      rw [List.append_nil]
      exact h

/-!
# Sleepers and signals

A thread that sleeps or has been woken is in a call that waits on the condition
it sleeps on.
-/

def Placed (M : Monitor Data Request Cond Event)
    (state : State ThreadId Data Request Cond) : Prop :=
  forall s, s ∈ state.sleepers ++ state.woken ->
    exists request, state.calls s.tid = some request ∧
      M.WaitsOn request = s.cond

def Distinct (state : State ThreadId Data Request Cond) : Prop :=
  ((state.sleepers ++ state.woken).map Sleeper.tid).Nodup

structure Orderly (M : Monitor Data Request Cond Event)
    (state : State ThreadId Data Request Cond) : Prop where
  placed : Placed M state
  distinct : Distinct state

omit [DecidableEq ThreadId] [DecidableEq Cond] in
theorem orderly_init (data : Data) :
    Orderly M (Init ThreadId Request Cond data) where
  placed := by
    intro s hs
    cases hs
  distinct := List.nodup_nil

omit [DecidableEq ThreadId] [DecidableEq Cond] in
theorem Orderly.nodup (h : Orderly M state) : state.sleepers.Nodup :=
  List.Nodup.of_append_left (List.Nodup.of_map Sleeper.tid h.distinct)

omit [DecidableEq ThreadId] [DecidableEq Cond] in
theorem Orderly.eq_of_tid (h : Orderly M state)
    {s t : Sleeper ThreadId Cond} (hs : s ∈ state.sleepers)
    (ht : t ∈ state.sleepers) (heq : s.tid = t.tid) : s = t := by
  have hnodup := h.distinct
  rw [Distinct, List.map_append] at hnodup
  exact List.inj_on_of_nodup_map hnodup.of_append_left hs ht heq

theorem chosen_append_perm {signals : Cond -> Signal}
    {sleepers chosen : List (Sleeper ThreadId Cond)} (hnodup : sleepers.Nodup)
    (h : Answers signals sleepers chosen) :
    (sleepers.filter (fun s => decide (s ∉ chosen)) ++ chosen).Perm
      sleepers := by
  have hchosen :
      chosen.Perm (sleepers.filter (fun s => decide (s ∈ chosen))) := by
    rw [List.perm_ext_iff_of_nodup h.1 (hnodup.filter _)]
    intro s
    rw [List.mem_filter, decide_eq_true_iff]
    exact ⟨fun hs => ⟨(h.2.1 s hs).1, hs⟩, fun hs => hs.2⟩
  have hparts := List.filter_append_perm
    (fun s => decide (s ∈ chosen)) sleepers
  refine List.Perm.trans (List.perm_append_comm.trans ?_) hparts
  refine (hchosen.append_right _).trans (List.Perm.of_eq ?_)
  simp

theorem spurious_perm {sleepers woken : List (Sleeper ThreadId Cond)}
    {sleeper : Sleeper ThreadId Cond} (h : sleeper ∈ sleepers) :
    (sleepers.erase sleeper ++ sleeper :: woken).Perm (sleepers ++ woken) :=
  List.perm_middle.trans ((List.perm_cons_erase h).symm.append_right woken)

theorem placed_step (h : Orderly M state)
    (hstep : Transition M state next es) : Placed M next := by
  cases hstep with
  | call tid request hidle =>
      intro s hs
      rcases h.placed s hs with ⟨other, hother, hcond⟩
      have hne : s.tid ≠ tid := by
        intro heq
        rw [heq, hidle] at hother
        cases hother
      refine ⟨other, ?_, hcond⟩
      show Function.update state.calls tid (some request) s.tid = some other
      rw [Function.update_of_ne hne, hother]
  | waits tid request hcall hawake hwaits =>
      intro s hs
      rcases List.mem_cons.mp hs with rfl | hold
      · exact ⟨request, hcall, rfl⟩
      · apply h.placed s
        rcases List.mem_append.mp hold with hsleeps | hwoken
        · exact List.mem_append_left _ hsleeps
        · exact List.mem_append_right _ (List.mem_filter.mp hwoken).1
  | ends tid request data event signals chosen hcall hawake hends hanswers =>
      intro s hs
      have hold : s ∈ state.sleepers ++ state.woken ∧ s.tid ≠ tid := by
        have hsleeper : s ∈ state.sleepers ->
            s ∈ state.sleepers ++ state.woken ∧ s.tid ≠ tid := by
          intro hmem
          refine ⟨List.mem_append_left _ hmem, fun heq => hawake ?_⟩
          exact heq ▸ List.mem_map_of_mem hmem
        rcases List.mem_append.mp hs with hsleeps | hrest
        · exact hsleeper (List.mem_filter.mp hsleeps).1
        · rcases List.mem_append.mp hrest with hchosen | hwoken
          · exact hsleeper (hanswers.2.1 s hchosen).1
          · have hboth := List.mem_filter.mp hwoken
            exact ⟨List.mem_append_right _ hboth.1,
              of_decide_eq_true hboth.2⟩
      rcases h.placed s hold.1 with ⟨other, hother, hcond⟩
      refine ⟨other, ?_, hcond⟩
      show Function.update state.calls tid none s.tid = some other
      rw [Function.update_of_ne hold.2, hother]
  | spurious sleeper hmem =>
      intro s hs
      apply h.placed s
      exact (spurious_perm hmem).subset hs

theorem distinct_step (h : Orderly M state)
    (hstep : Transition M state next es) : Distinct next := by
  cases hstep with
  | call tid request hidle => exact h.distinct
  | waits tid request hcall hawake hwaits =>
      have hsub : ((state.sleepers ++
          state.woken.filter (fun s => decide (s.tid ≠ tid))).map
            Sleeper.tid).Sublist
          ((state.sleepers ++ state.woken).map Sleeper.tid) :=
        (List.filter_sublist.append_left state.sleepers).map Sleeper.tid
      refine List.nodup_cons.mpr ⟨?_, h.distinct.sublist hsub⟩
      intro hmem
      rcases List.mem_map.mp hmem with ⟨s, hs, heq⟩
      rcases List.mem_append.mp hs with hsleeps | hwoken
      · exact hawake (List.mem_map.mpr ⟨s, hsleeps, heq⟩)
      · exact of_decide_eq_true (List.mem_filter.mp hwoken).2 heq
  | ends tid request data event signals chosen hcall hawake hends hanswers =>
      have hperm := (chosen_append_perm h.nodup hanswers).append_right
        (state.woken.filter (fun s => decide (s.tid ≠ tid)))
      have hsub : ((state.sleepers ++
          state.woken.filter (fun s => decide (s.tid ≠ tid))).map
            Sleeper.tid).Sublist
          ((state.sleepers ++ state.woken).map Sleeper.tid) :=
        (List.filter_sublist.append_left state.sleepers).map Sleeper.tid
      have hnodup := (hperm.map Sleeper.tid).nodup_iff.mpr
        (h.distinct.sublist hsub)
      rwa [List.append_assoc] at hnodup
  | spurious sleeper hmem =>
      exact ((spurious_perm hmem).map Sleeper.tid).nodup_iff.mpr h.distinct

theorem orderly_step (h : Orderly M state)
    (hstep : Transition M state next es) : Orderly M next :=
  ⟨placed_step h hstep, distinct_step h hstep⟩

/-!
# No lost signal

`work` measures what the sleepers of a condition are waiting for.  While one of
them sleeps, a signal is pending for every piece of work: a thread only goes to
sleep when there is none, whoever makes some signals, and a thread that has
been woken takes one when it has the lock.
-/

def Pending (state : State ThreadId Data Request Cond) (cond : Cond) : Nat :=
  state.woken.countP (fun s => decide (s.cond = cond))

def SleepsOn (state : State ThreadId Data Request Cond) (cond : Cond) : Prop :=
  exists s, s ∈ state.sleepers ∧ s.cond = cond

structure Counts (M : Monitor Data Request Cond Event) (cond : Cond)
    (I : Data -> Prop) (work : Data -> Nat) : Prop where
  waits : forall request data, I data ->
    M.Section request data = Verdict.waits cond -> work data = 0
  takes : forall request data data' event signals, I data ->
    M.Section request data = Verdict.ends data' event signals ->
    M.WaitsOn request = cond -> work data' ≤ work data - 1
  makes : forall request data data' event signals, I data ->
    M.Section request data = Verdict.ends data' event signals ->
    work data' ≤ work data ∨
      work data' ≤ work data + 1 ∧ signals cond ≠ Signal.quiet

def NoLostSignal (cond : Cond) (work : Data -> Nat)
    (state : State ThreadId Data Request Cond) : Prop :=
  SleepsOn state cond -> work state.data ≤ Pending state cond

theorem pending_le_succ (h : Orderly M state) (tid : ThreadId) (cond : Cond) :
    Pending state cond ≤
      (state.woken.filter (fun s => decide (s.tid ≠ tid))).countP
        (fun s => decide (s.cond = cond)) + 1 := by
  have hnodup : (state.woken.map Sleeper.tid).Nodup := by
    have hall := h.distinct
    rw [Distinct, List.map_append] at hall
    exact hall.of_append_right
  have hone : (state.woken.filter
      (fun s => !decide (s.tid ≠ tid))).length ≤ 1 := by
    have hcount := List.nodup_iff_count_le_one.mp hnodup tid
    rw [List.count, List.countP_map, List.countP_eq_length_filter] at hcount
    refine le_of_eq_of_le (congrArg List.length (List.filter_congr ?_)) hcount
    intro s _
    rw [Function.comp_apply, beq_eq_decide]
    simp
  have hparts := (List.filter_append_perm
    (fun s : Sleeper ThreadId Cond => decide (s.tid ≠ tid))
    state.woken).countP_eq (fun s => decide (s.cond = cond))
  rw [List.countP_append] at hparts
  have hother := List.countP_le_length
    (p := fun s : Sleeper ThreadId Cond => decide (s.cond = cond))
    (l := state.woken.filter (fun s => !decide (s.tid ≠ tid)))
  rw [Pending]
  omega

theorem pending_eq (h : Orderly M state) {tid : ThreadId} {request : Request}
    {cond : Cond} (hcall : state.calls tid = some request)
    (hother : M.WaitsOn request ≠ cond) :
    (state.woken.filter (fun s => decide (s.tid ≠ tid))).countP
      (fun s => decide (s.cond = cond)) = Pending state cond := by
  rw [Pending, List.countP_filter]
  refine List.countP_congr (fun s hs => ?_)
  rw [Bool.and_eq_true, decide_eq_true_iff, decide_eq_true_iff]
  refine ⟨fun hboth => hboth.1, fun hcond => ⟨hcond, fun htid => ?_⟩⟩
  rcases h.placed s (List.mem_append_right _ hs) with ⟨own, hown, hwaits⟩
  rw [htid, hcall] at hown
  cases hown
  exact hother (hwaits.trans hcond)

omit [DecidableEq ThreadId] in
theorem chosen_pos {signals : Cond -> Signal} {cond : Cond}
    {chosen : List (Sleeper ThreadId Cond)} (hsleeps : SleepsOn state cond)
    (hsignal : signals cond ≠ Signal.quiet)
    (h : Answers signals state.sleepers chosen) :
    0 < chosen.countP (fun s => decide (s.cond = cond)) := by
  rcases hsleeps with ⟨s, hs, rfl⟩
  have hof := h.2.2 s hs
  have hmem : exists t, t ∈ chosen ∧ t.cond = s.cond := by
    cases hkind : signals s.cond with
    | quiet => exact absurd hkind hsignal
    | one => exact hof.1 hkind
    | all => exact ⟨s, hof.2 hkind, rfl⟩
  rcases hmem with ⟨t, ht, hcond⟩
  exact List.countP_pos_iff.mpr ⟨t, ht, decide_eq_true hcond⟩

theorem no_lost_signal_step {cond : Cond} {I : Data -> Prop}
    {work : Data -> Nat} (hcounts : Counts M cond I work)
    (hI : I state.data) (h : Orderly M state)
    (hkept : NoLostSignal cond work state)
    (hstep : Transition M state next es) : NoLostSignal cond work next := by
  cases hstep with
  | call tid request hidle => exact hkept
  | waits tid request hcall hawake hwaits =>
      by_cases hown : M.WaitsOn request = cond
      · intro _
        rw [hown] at hwaits
        have hnone := hcounts.waits request state.data hI hwaits
        show work state.data ≤ _
        omega
      · intro hexists
        rcases hexists with ⟨s, hs, hcond⟩
        have hold : s ∈ state.sleepers := by
          rcases List.mem_cons.mp hs with rfl | hold
          · exact absurd hcond hown
          · exact hold
        have hbefore := hkept ⟨s, hold, hcond⟩
        have hsame := pending_eq h hcall hown
        rw [← hsame] at hbefore
        exact hbefore
  | ends tid request data event signals chosen hcall hawake hends hanswers =>
      intro hsuch
      rcases hsuch with ⟨s, hs, hcond⟩
      have hsleeps : SleepsOn state cond :=
        ⟨s, (List.mem_filter.mp hs).1, hcond⟩
      have hbefore := hkept hsleeps
      show work data ≤ List.countP _ (_ ++ _)
      rw [List.countP_append]
      by_cases hown : M.WaitsOn request = cond
      · have htakes := hcounts.takes _ _ _ _ _ hI hends hown
        have hone := pending_le_succ h tid cond
        omega
      · have hsame := pending_eq h hcall hown
        rcases hcounts.makes _ _ _ _ _ hI hends with hless | ⟨hmore, hsignal⟩
        · omega
        · have hpos := chosen_pos hsleeps hsignal hanswers
          omega
  | spurious sleeper hmem =>
      intro hsuch
      rcases hsuch with ⟨s, hs, hcond⟩
      have hbefore := hkept ⟨s, List.mem_of_mem_erase hs, hcond⟩
      show work state.data ≤ List.countP _ (sleeper :: state.woken)
      refine Nat.le_trans hbefore ?_
      exact (List.sublist_cons_self sleeper state.woken).countP_le

/--
Nobody sleeps on a condition while the data is such that no section waits on
it, when all sleepers are woken by the section that makes the data so.
-/
theorem deserted_step {cond : Cond} {P : Data -> Prop}
    (hwaits : forall request data, P data ->
      M.Section request data ≠ Verdict.waits cond)
    (hends : forall request data data' event signals,
      M.Section request data = Verdict.ends data' event signals -> P data' ->
        P data ∨ signals cond = Signal.all)
    (hkept : P state.data -> ¬SleepsOn state cond)
    (hstep : Transition M state next es) :
    P next.data -> ¬SleepsOn next cond := by
  cases hstep with
  | call tid request hidle => exact hkept
  | waits tid request hcall hawake hsleeps =>
      intro hP hexists
      rcases hexists with ⟨s, hs, hcond⟩
      rcases List.mem_cons.mp hs with rfl | hold
      · refine hwaits request state.data hP (hsleeps.trans ?_)
        rw [← hcond]
      · exact hkept hP ⟨s, hold, hcond⟩
  | ends tid request data event signals chosen hcall hawake hdone hanswers =>
      intro hP hsuch
      rcases hsuch with ⟨s, hs, hcond⟩
      rcases List.mem_filter.mp hs with ⟨hold, hother⟩
      rcases hends _ _ _ _ _ hdone hP with hbefore | hall
      · exact hkept hbefore ⟨s, hold, hcond⟩
      · rw [← hcond] at hall
        exact of_decide_eq_true hother ((hanswers.2.2 s hold).2 hall)
  | spurious sleeper hmem =>
      intro hP hsuch
      rcases hsuch with ⟨s, hs, hcond⟩
      exact hkept hP ⟨s, List.mem_of_mem_erase hs, hcond⟩

theorem sleepers_step {P : Cond -> Prop}
    (hwaits : forall request data cond,
      M.Section request data = Verdict.waits cond -> P cond)
    (hkept : forall s, s ∈ state.sleepers -> P s.cond)
    (hstep : Transition M state next es) :
    forall s, s ∈ next.sleepers -> P s.cond := by
  intro s hs
  cases hstep with
  | call tid request hidle => exact hkept s hs
  | waits tid request hcall hawake hsleeps =>
      rcases List.mem_cons.mp hs with rfl | hold
      · exact hwaits request state.data _ hsleeps
      · exact hkept s hold
  | ends tid request data event signals chosen hcall hawake hends hanswers =>
      exact hkept s (List.mem_filter.mp hs).1
  | spurious sleeper hmem => exact hkept s (List.mem_of_mem_erase hs)

/-- Asleep, and no signal is pending for it. -/
def Blocked (state : State ThreadId Data Request Cond) (tid : ThreadId) :
    Prop :=
  tid ∈ state.sleepers.map Sleeper.tid ∧ tid ∉ state.woken.map Sleeper.tid

omit [DecidableEq ThreadId] in
/-- When all threads in the monitor are blocked, no signal is pending. -/
theorem pending_eq_zero (h : Orderly M state) (cond : Cond)
    (hblocked : forall tid, state.calls tid ≠ none -> Blocked state tid) :
    Pending state cond = 0 := by
  refine List.countP_eq_zero.mpr (fun s hs => ?_)
  rcases h.placed s (List.mem_append_right _ hs) with ⟨request, hcall, _⟩
  have hnone := hblocked s.tid (by simp [hcall])
  exact absurd (List.mem_map_of_mem hs) hnone.2

end Monitor
end Foundation
end Wethands
