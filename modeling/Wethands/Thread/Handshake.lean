import Wethands.Thread.Thread

/-!
# The start of a thread

`Start` comes back only when the new thread is done with the object, so nothing
that the owner does from then on can take away what the thread still needs.
-/

namespace Wethands
namespace Thread

open Foundation

set_option linter.dupNamespace false

namespace CountDownLatch

open Condition (Place)

theorem latch_never_fails (data : Int) :
    Condition.NeverFails LatchMonitor data := by
  intro request failure h
  cases request with
  | countDown | getCount => cases h
  | wait =>
      change Wait data = Verdict.fails failure at h
      unfold Wait at h
      split at h <;> cases h

theorem waited_of_wait {data next : Int} {event : Event}
    {signals : Cond -> Signal}
    (hends : LatchMonitor.Section Request.wait data =
      Verdict.ends next event signals) : event = Event.waited := by
  cases section_ends hends with
  | waited hopen => rfl

structure Greeted (latch : Latch Side) (begun : Nat) (les : List Event) :
    Prop where
  run : exists inputs,
    (LatchMachine Side).Run (New Side 1) inputs = some (latch, les) ∧
      (inputs.map CountsDown).sum = begun
  asleep : forall tid request cond,
    latch.places tid = Place.asleep request cond -> request = Request.wait

theorem greeted_new : Greeted (New Side 1) 0 [] where
  run := ⟨[], rfl, rfl⟩
  asleep := by
    intro tid request cond h
    cases h

variable {latch next : Latch Side} {begun : Nat} {les es : List Event}
  {i : Input Side}

theorem Greeted.opened (h : Greeted latch begun les) :
    Opened 1 begun latch les := by
  rcases h.run with ⟨inputs, hrun, rfl⟩
  exact run_opened hrun

theorem greeted_step (h : Greeted latch begun les)
    (hcall : Condition.Perform LatchMonitor Conds latch i =
      Except.ok (next, es)) :
    Greeted next (begun + CountsDown i) (les ++ es) := by
  have hstep := Condition.perform_transition i _ _ hcall
  constructor
  case run =>
    rcases h.run with ⟨inputs, hrun, rfl⟩
    refine ⟨inputs ++ [i], ?_, by simp⟩
    exact Machine.run_append hrun
      (Machine.run_singleton (answer_eq_some.mpr hcall))
  case asleep =>
    intro tid request cond hasleep
    rcases Condition.asleep_step hstep hasleep with hbefore | hsleep
    · exact h.asleep tid request cond hbefore
    · rcases h.opened.matched with ⟨state, hmatches⟩
      exact (count_pos_of_waits
        (hmatches.decided tid request cond (Or.inr hsleep))).1

theorem wait_step (h : Greeted latch begun les)
    (hcall : Condition.Perform LatchMonitor Conds latch i =
      Except.ok (next, es)) {tid : Side}
    (hwaits : (latch.places tid).Request? = some Request.wait) :
    (next.places tid).Request? = some Request.wait ∨ Event.waited ∈ es := by
  have hstep := Condition.perform_transition i _ _ hcall
  rcases Condition.request_step hstep hwaits with
    hstays | ⟨event, signals, hplace, rfl⟩
  · exact Or.inl hstays
  · refine Or.inr ?_
    rcases h.opened.matched with ⟨state, hmatches⟩
    rcases hmatches.notifying hplace with ⟨chosen, hnotifying⟩
    rw [waited_of_wait hnotifying.ends]
    exact List.mem_singleton.mpr rfl

theorem Greeted.awake (h : Greeted latch 1 les)
    (hout : latch.places Side.created = Place.outside)
    {request : Request} {cond : Cond}
    (hasleep : latch.places Side.owner = Place.asleep request cond) :
    False := by
  rcases h.opened.counted with ⟨before, _, hmem, hlength⟩
  have hnone : forall tid, tid ∉ before := by
    intro tid htid
    have hbefore := (hmem tid).mp htid
    cases tid with
    | owner =>
        rw [hasleep, h.asleep _ _ _ hasleep] at hbefore
        cases hbefore
    | created =>
        rw [hout] at hbefore
        cases hbefore
  have hnil : before = [] := List.eq_nil_iff_forall_not_mem.mpr hnone
  have hopen : latch.data ≤ 0 := by
    rw [hnil] at hlength
    simp only [List.length_nil] at hlength
    omega
  rcases h.run with ⟨inputs, hrun, _⟩
  refine run_awake hrun hopen ?_ Side.owner request cond hasleep
  intro tid asked event signals left hplace
  cases tid with
  | owner =>
      rw [hasleep] at hplace
      cases hplace
  | created =>
      rw [hout] at hplace
      cases hplace

end CountDownLatch

namespace Thread

open CountDownLatch (LatchMonitor LatchMachine Conds Request Greeted CountsDown)
open Condition (Place)

/-- How often the new thread has called `CountDown`. -/
def Counted (thread : Thread) : Nat :=
  if thread.stage.Counts then 1 else 0

structure Handshake (thread : Thread) (les : List CountDownLatch.Event) :
    Prop where
  greeted : Greeted thread.latch_ thread.Counted les
  owner : forall request,
    (thread.latch_.places Side.owner).Inside? = some request ->
      request = Request.wait ∧ thread.owner = Owner.start
  created : forall request,
    (thread.latch_.places Side.created).Inside? = some request ->
      request = Request.countDown ∧ thread.stage = Stage.countDown
  waits : thread.owner = Owner.start ->
    (thread.latch_.places Side.owner).Request? = some Request.wait ∨
      CountDownLatch.Event.waited ∈ les
  started : thread.started_ = true -> thread.owner = Owner.start ∨
    CountDownLatch.Event.waited ∈ les

structure Sound (thread : Thread) (tr : List Event) : Prop where
  handshake : exists les, Handshake thread les
  unstarted : thread.started_ = true <-> thread.stage ≠ Stage.none
  idle : thread.started_ = false -> thread.owner = Owner.outside
  tid : forall tid, Event.created tid ∈ tr ->
    thread.stage = Stage.assign tid ∨
      thread.stage.Counts = true ∧ thread.tid_ = tid.1
  positive : thread.stage.Counts = true -> 0 < thread.tid_
  data : thread.data = thread.stage.HasData
  called : tr.count Event.called = if thread.stage.Called then 1 else 0
  deleted : tr.count Event.deleted =
    if thread.stage = Stage.finished then 1 else 0
  joined : thread.joined_ = true ->
    thread.owner = Owner.join ∨ thread.stage = Stage.finished
  gone : thread.alive = false -> thread.owner = Owner.outside

theorem sound_new : Sound New [] where
  handshake := by
    refine ⟨[], CountDownLatch.greeted_new, ?_, ?_, ?_, ?_⟩
    · intro request h
      cases h
    · intro request h
      cases h
    · intro h
      cases h
    · intro h
      cases h
  unstarted := by simp [New]
  idle := fun _ => rfl
  tid := by simp
  positive := by simp [New, Stage.Counts]
  data := rfl
  called := rfl
  deleted := rfl
  joined := by simp [New]
  gone := by simp [New]

/-!
# The latch of an object
-/

variable {thread next : Thread} {les : List CountDownLatch.Event}
  {tr es : List Event}

theorem onLatch_eq_ok {i : CountDownLatch.Input Side} {es' : List Event}
    (h : OnLatch thread i es' = Except.ok (next, es)) :
    exists latch_ les,
      Condition.Perform LatchMonitor Conds thread.latch_ i =
        Except.ok (latch_, les) ∧
      thread.alive = true ∧ next = { thread with latch_ := latch_ } ∧
      es = es' := by
  unfold OnLatch Touch at h
  split at h
  · cases h
  · rename_i latch_ les hcall
    split at h
    · rename_i halive
      cases h
      exact ⟨latch_, les, hcall, halive, rfl, rfl⟩
    · cases h

theorem Handshake.owner_outside (h : Handshake thread les)
    (howner : thread.owner ≠ Owner.start) :
    thread.latch_.places Side.owner = Place.outside := by
  cases hplace : (thread.latch_.places Side.owner).Inside? with
  | none => exact Condition.outside_of_inside hplace
  | some request => exact absurd (h.owner request hplace).2 howner

theorem Handshake.created_outside (h : Handshake thread les)
    (hstage : thread.stage ≠ Stage.countDown) :
    thread.latch_.places Side.created = Place.outside := by
  cases hplace : (thread.latch_.places Side.created).Inside? with
  | none => exact Condition.outside_of_inside hplace
  | some request => exact absurd (h.created request hplace).2 hstage

theorem Handshake.elsewhere (h : Handshake thread les)
    (hlatch : next.latch_ = thread.latch_)
    (hcounts : next.stage.Counts = thread.stage.Counts)
    (hstarted : next.started_ = thread.started_)
    (howner : next.owner = thread.owner ∨ next.owner ≠ Owner.start ∧
      thread.latch_.places Side.owner = Place.outside)
    (hstage : next.stage = thread.stage ∨
      thread.latch_.places Side.created = Place.outside) :
    Handshake next les := by
  constructor
  · rw [hlatch, Counted, hcounts]
    exact h.greeted
  · intro request hinside
    rw [hlatch] at hinside
    rcases howner with hsame | ⟨_, hout⟩
    · rw [hsame]
      exact h.owner request hinside
    · rw [hout] at hinside
      cases hinside
  · intro request hinside
    rw [hlatch] at hinside
    rcases hstage with hsame | hout
    · rw [hsame]
      exact h.created request hinside
    · rw [hout] at hinside
      cases hinside
  · intro hstart
    rw [hlatch]
    rcases howner with hsame | ⟨hnot, _⟩
    · exact h.waits (hsame ▸ hstart)
    · exact absurd hstart hnot
  · intro hset
    rw [hstarted] at hset
    rcases h.started hset with hstart | hwaited
    · rcases howner with hsame | ⟨_, hout⟩
      · exact Or.inl (hsame.trans hstart)
      · rcases h.waits hstart with hwaits | hwaited
        · rw [hout] at hwaits
          cases hwaits
        · exact Or.inr hwaited
    · exact Or.inr hwaited

theorem Handshake.inner (h : Handshake thread les)
    {i : CountDownLatch.Input Side}
    (hinner : forall tid request, i ≠ Condition.Input.call tid request)
    {latch_ : CountDownLatch.Latch Side}
    {les' : List CountDownLatch.Event}
    (hcall : Condition.Perform LatchMonitor Conds thread.latch_ i =
      Except.ok (latch_, les')) :
    Handshake { thread with latch_ := latch_ } (les ++ les') := by
  have hstep := Condition.perform_transition i _ _ hcall
  have hinside : forall tid request,
      (latch_.places tid).Inside? = some request ->
      (thread.latch_.places tid).Inside? = some request := by
    intro tid request hnow
    rcases Condition.inside_step hstep hnow with hbefore | heq
    · exact hbefore
    · exact absurd heq (hinner tid request)
  have hcounts : CountsDown i = 0 := by
    cases i with
    | call tid request => exact absurd rfl (hinner tid request)
    | next | notify | spurious => rfl
  constructor
  · have hgreeted := CountDownLatch.greeted_step h.greeted hcall
    rwa [hcounts] at hgreeted
  · exact fun request hnow => h.owner request (hinside _ _ hnow)
  · exact fun request hnow => h.created request (hinside _ _ hnow)
  · intro hstart
    rcases h.waits hstart with hwaits | hwaited
    · exact (CountDownLatch.wait_step h.greeted hcall hwaits).imp_right
        (fun hnow => List.mem_append.mpr (Or.inr hnow))
    · exact Or.inr (List.mem_append.mpr (Or.inl hwaited))
  · exact fun hset => (h.started hset).imp_right
      (fun hwaited => List.mem_append.mpr (Or.inl hwaited))

theorem Handshake.enters (h : Handshake thread les)
    (hstage : thread.stage = Stage.none) (tid : Pid)
    {latch_ : CountDownLatch.Latch Side}
    {les' : List CountDownLatch.Event}
    (hcall : Condition.Perform LatchMonitor Conds thread.latch_
      (Condition.Input.call Side.owner Request.wait) =
        Except.ok (latch_, les')) :
    Handshake { thread with
      started_ := true
      data := true
      owner := Owner.start
      stage := Stage.assign tid
      latch_ := latch_ } (les ++ les') := by
  have hstep := Condition.perform_transition _ _ _ hcall
  have hgreeted := CountDownLatch.greeted_step h.greeted hcall
  rw [Counted, hstage] at hgreeted
  constructor
  · exact hgreeted
  · intro request hnow
    rcases Condition.inside_step hstep hnow with hbefore | heq
    · exact ⟨(h.owner request hbefore).1, rfl⟩
    · cases heq
      exact ⟨rfl, rfl⟩
  · intro request hnow
    rcases Condition.inside_step hstep hnow with hbefore | heq
    · have hcount := (h.created request hbefore).2
      rw [hstage] at hcount
      cases hcount
    · cases heq
  · intro _
    cases hstep with
    | call tid request hplace =>
        refine Or.inl ?_
        show (Function.update thread.latch_.places Side.owner
          (Place.lock Request.wait) Side.owner).Request? = _
        rw [Function.update_self]
        rfl
  · exact fun _ => Or.inl rfl

theorem Handshake.counts (h : Handshake thread les) {tid : Pid}
    (hstage : thread.stage = Stage.assign tid)
    {latch_ : CountDownLatch.Latch Side}
    {les' : List CountDownLatch.Event}
    (hcall : Condition.Perform LatchMonitor Conds thread.latch_
      (Condition.Input.call Side.created Request.countDown) =
        Except.ok (latch_, les')) :
    Handshake { thread with
      tid_ := tid.1
      stage := Stage.countDown
      latch_ := latch_ } (les ++ les') := by
  have hstep := Condition.perform_transition _ _ _ hcall
  have hgreeted := CountDownLatch.greeted_step h.greeted hcall
  rw [Counted, hstage] at hgreeted
  constructor
  · exact hgreeted
  · intro request hnow
    rcases Condition.inside_step hstep hnow with hbefore | heq
    · exact h.owner request hbefore
    · cases heq
  · intro request hnow
    rcases Condition.inside_step hstep hnow with hbefore | heq
    · exact ⟨(h.created request hbefore).1, rfl⟩
    · cases heq
      exact ⟨rfl, rfl⟩
  · intro hstart
    rcases h.waits hstart with hwaits | hwaited
    · exact (CountDownLatch.wait_step h.greeted hcall hwaits).imp_right
        (fun hnow => List.mem_append.mpr (Or.inr hnow))
    · exact Or.inr (List.mem_append.mpr (Or.inl hwaited))
  · exact fun hset => (h.started hset).imp_right
      (fun hwaited => List.mem_append.mpr (Or.inl hwaited))

/-!
# Steps
-/

theorem start_sound (h : Sound thread tr) (tid : Option Pid) :
    Yields (Start thread tid) (fun next es => Sound next (tr ++ es)) := by
  unfold Start
  split
  · rename_i hboth
    rcases hboth with ⟨⟨howner, halive⟩, hstage⟩
    cases tid with
    | none => exact yields_error
    | some tid =>
        intro next es hcall
        rcases onLatch_eq_ok hcall with ⟨latch_, les', hperform, _, rfl, rfl⟩
        rcases h.handshake with ⟨les, hshake⟩
        have hcalled := h.called
        have hdeleted := h.deleted
        rw [hstage] at hcalled hdeleted
        constructor
        · exact ⟨_, hshake.enters hstage tid hperform⟩
        · simp
        · intro hfalse
          cases hfalse
        · intro other hmem
          rcases List.mem_append.mp hmem with hold | hnew
          · rcases h.tid other hold with hassign | ⟨hcounts, _⟩
            · rw [hstage] at hassign
              cases hassign
            · rw [hstage] at hcounts
              cases hcounts
          · cases List.mem_singleton.mp hnew
            exact Or.inl rfl
        · intro hcounts
          cases hcounts
        · rfl
        · rw [List.count_append, hcalled]
          rfl
        · rw [List.count_append, hdeleted]
          rfl
        · intro hjoined
          rcases h.joined hjoined with hjoin | hfinished
          · rw [howner] at hjoin
            cases hjoin
          · rw [hstage] at hfinished
            cases hfinished
        · intro hgone
          rw [halive] at hgone
          cases hgone
  · exact yields_error

theorem assign_sound (h : Sound thread tr) :
    Yields (Assign thread) (fun next es => Sound next (tr ++ es)) := by
  unfold Assign
  split
  · rename_i tid hstage
    intro next es hcall
    rcases onLatch_eq_ok hcall with ⟨latch_, les', hperform, _, rfl, rfl⟩
    rcases h.handshake with ⟨les, hshake⟩
    have hstarted : thread.started_ = true := by
      rw [h.unstarted, hstage]
      simp
    rw [List.append_nil]
    constructor
    · exact ⟨_, hshake.counts hstage hperform⟩
    · simp [hstarted]
    · exact h.idle
    · intro other hmem
      rcases h.tid other hmem with hassign | ⟨hcounts, _⟩
      · rw [hstage] at hassign
        cases hassign
        exact Or.inr ⟨rfl, rfl⟩
      · rw [hstage] at hcounts
        cases hcounts
    · exact fun _ => tid.2
    · rw [h.data, hstage]
      rfl
    · rw [h.called, hstage]
      rfl
    · rw [h.deleted, hstage]
      rfl
    · intro hjoined
      rcases h.joined hjoined with hjoin | hfinished
      · exact Or.inl hjoin
      · rw [hstage] at hfinished
        cases hfinished
    · exact h.gone
  · exact yields_error

theorem latch_sound (h : Sound thread tr) {i : CountDownLatch.Input Side}
    (hinner : forall tid request, i ≠ Condition.Input.call tid request) :
    Yields (OnLatch thread i [])
      (fun next es => Sound next (tr ++ es)) := by
  intro next es hcall
  rcases onLatch_eq_ok hcall with ⟨latch_, les', hperform, _, rfl, rfl⟩
  rcases h.handshake with ⟨les, hshake⟩
  rw [List.append_nil]
  exact { h with handshake := ⟨_, hshake.inner hinner hperform⟩ }

theorem Sound.proceeds (h : Sound thread tr) {stage : Stage} {data : Bool}
    (hout : thread.latch_.places Side.created = Place.outside)
    (hbefore : thread.stage.Counts = true)
    (hunfinished : thread.stage ≠ Stage.finished)
    (hcounts : stage.Counts = true) (hdata : data = stage.HasData)
    (hcalled : (tr ++ es).count Event.called = if stage.Called then 1 else 0)
    (hdeleted : (tr ++ es).count Event.deleted =
      if stage = Stage.finished then 1 else 0)
    (hes : forall tid, Event.created tid ∉ es) :
    Sound { thread with data := data, stage := stage } (tr ++ es) where
  handshake := by
    rcases h.handshake with ⟨les, hshake⟩
    refine ⟨les, hshake.elsewhere rfl ?_ rfl (Or.inl rfl) (Or.inr hout)⟩
    rw [hcounts, hbefore]
  unstarted := by
    have hnone : forall {stage : Stage}, stage.Counts = true ->
        stage ≠ Stage.none := by
      rintro _ hcounts rfl
      cases hcounts
    exact iff_of_true (h.unstarted.mpr (hnone hbefore)) (hnone hcounts)
  idle := h.idle
  tid := by
    intro tid hmem
    rcases List.mem_append.mp hmem with hold | hnew
    · rcases h.tid tid hold with hassign | ⟨_, hsame⟩
      · rw [hassign] at hbefore
        cases hbefore
      · exact Or.inr ⟨hcounts, hsame⟩
    · exact absurd hnew (hes tid)
  positive := fun _ => h.positive hbefore
  data := hdata
  called := hcalled
  deleted := hdeleted
  joined := by
    intro hjoined
    rcases h.joined hjoined with hjoin | hfinished
    · exact Or.inl hjoin
    · exact absurd hfinished hunfinished
  gone := h.gone

theorem Sound.turns (h : Sound thread tr) {owner : Owner} {joined : Bool}
    (hout : thread.latch_.places Side.owner = Place.outside)
    (hstarted : thread.started_ = true)
    (howner : owner ≠ Owner.start)
    (hjoined : joined = true ->
      owner = Owner.join ∨ thread.stage = Stage.finished)
    (hgone : thread.alive = false -> owner = Owner.outside)
    (hes : forall e, e ∈ es -> e = Event.joined) :
    Sound { thread with joined_ := joined, owner := owner }
      (tr ++ es) where
  handshake := by
    rcases h.handshake with ⟨les, hshake⟩
    exact ⟨les, hshake.elsewhere rfl rfl rfl (Or.inr ⟨howner, hout⟩)
      (Or.inl rfl)⟩
  unstarted := h.unstarted
  idle := by
    intro hfalse
    rw [hstarted] at hfalse
    cases hfalse
  tid := by
    intro tid hmem
    rcases List.mem_append.mp hmem with hold | hnew
    · exact h.tid tid hold
    · cases hes _ hnew
  positive := h.positive
  data := h.data
  called := by
    have hnone : Event.called ∉ es := fun hmem => by cases hes _ hmem
    rw [List.count_append, List.count_eq_zero_of_not_mem hnone]
    exact h.called
  deleted := by
    have hnone : Event.deleted ∉ es := fun hmem => by cases hes _ hmem
    rw [List.count_append, List.count_eq_zero_of_not_mem hnone]
    exact h.deleted
  joined := hjoined
  gone := hgone

theorem startReturns_sound (h : Sound thread tr) :
    Yields (StartReturns thread)
      (fun next es => Sound next (tr ++ es)) := by
  unfold StartReturns
  split
  · rename_i howner hout
    refine Yields.assert (fun _ => yields_ok.mpr ?_)
    have hstarted : thread.started_ = true := by
      by_contra hnot
      have hidle := h.idle (Bool.not_eq_true _ ▸ hnot)
      rw [howner] at hidle
      cases hidle
    refine h.turns hout hstarted (by simp) ?_ (fun _ => rfl) (by simp)
    intro hjoined
    rcases h.joined hjoined with hjoin | hfinished
    · rw [howner] at hjoin
      cases hjoin
    · exact Or.inr hfinished
  · exact yields_error

theorem join_sound (h : Sound thread tr) :
    Yields (Join thread) (fun next es => Sound next (tr ++ es)) := by
  refine Yields.only_if (fun hidle => ?_)
  refine Yields.assert (fun hstarted => Yields.assert (fun _ => ?_))
  rcases h.handshake with ⟨les, hshake⟩
  have hout := hshake.owner_outside (by simp [hidle.1])
  refine yields_ok.mpr (h.turns hout hstarted (by simp) ?_ ?_ (by simp))
  · exact fun _ => Or.inl rfl
  · intro hgone
    rw [hidle.2] at hgone
    cases hgone

theorem joinReturns_sound (h : Sound thread tr) :
    Yields (JoinReturns thread) (fun next es => Sound next (tr ++ es)) := by
  refine Yields.only_if (fun hboth => yields_ok.mpr ?_)
  rcases hboth with ⟨howner, hstage⟩
  rcases h.handshake with ⟨les, hshake⟩
  have hout := hshake.owner_outside (by simp [howner])
  have hstarted : thread.started_ = true := by
    rw [h.unstarted, hstage]
    simp
  refine h.turns hout hstarted (by simp) ?_ (fun _ => rfl) (by simp)
  exact fun _ => Or.inr hstage

theorem countDownReturns_sound (h : Sound thread tr) :
    Yields (CountDownReturns thread)
      (fun next es => Sound next (tr ++ es)) := by
  unfold CountDownReturns
  split
  · rename_i hstage hout
    refine yields_ok.mpr ?_
    have hcalled := h.called
    have hdeleted := h.deleted
    rw [hstage] at hcalled hdeleted
    refine h.proceeds hout (by rw [hstage]; rfl) (by simp [hstage]) rfl ?_
      ?_ ?_ (by simp)
    · rw [h.data, hstage]
      rfl
    · rwa [List.append_nil]
    · rwa [List.append_nil]
  · exact yields_error

theorem func_sound (h : Sound thread tr) :
    Yields (Func thread) (fun next es => Sound next (tr ++ es)) := by
  refine Yields.only_if (fun hstage => Yields.only_if (fun hdata => ?_))
  rcases h.handshake with ⟨les, hshake⟩
  have hout := hshake.created_outside (by simp [hstage])
  have hcalled := h.called
  have hdeleted := h.deleted
  rw [hstage] at hcalled hdeleted
  refine yields_ok.mpr (h.proceeds hout (by rw [hstage]; rfl)
    (by simp [hstage]) rfl hdata ?_ ?_ (by simp))
  · rw [List.count_append, hcalled]
    rfl
  · rw [List.count_append, hdeleted]
    rfl

theorem funcReturns_sound (h : Sound thread tr) :
    Yields (FuncReturns thread) (fun next es => Sound next (tr ++ es)) := by
  refine Yields.only_if (fun hstage => yields_ok.mpr ?_)
  rcases h.handshake with ⟨les, hshake⟩
  have hout := hshake.created_outside (by simp [hstage])
  have hcalled := h.called
  have hdeleted := h.deleted
  rw [hstage] at hcalled hdeleted
  refine h.proceeds hout (by rw [hstage]; rfl) (by simp [hstage]) rfl ?_ ?_
    ?_ (by simp)
  · rw [h.data, hstage]
    rfl
  · rwa [List.append_nil]
  · rwa [List.append_nil]

theorem delete_sound (h : Sound thread tr) :
    Yields (Delete thread) (fun next es => Sound next (tr ++ es)) := by
  refine Yields.only_if (fun hstage => Yields.only_if (fun hdata => ?_))
  rcases h.handshake with ⟨les, hshake⟩
  have hout := hshake.created_outside (by simp [hstage])
  have hcalled := h.called
  have hdeleted := h.deleted
  rw [hstage] at hcalled hdeleted
  refine yields_ok.mpr (h.proceeds hout (by rw [hstage]; rfl)
    (by simp [hstage]) rfl rfl ?_ ?_ (by simp))
  · rw [List.count_append, hcalled]
    rfl
  · rw [List.count_append, hdeleted]
    rfl

theorem destroy_sound (h : Sound thread tr) :
    Yields (Destroy thread) (fun next es => Sound next (tr ++ es)) := by
  refine Yields.only_if (fun hidle => Yields.only_if (fun _ => ?_))
  refine Yields.assert (fun _ => Yields.assert (fun _ => ?_))
  refine yields_ok.mpr ?_
  rcases h.handshake with ⟨les, hshake⟩
  have hes : forall e, e ∈ (if thread.started_ = true ∧
      thread.joined_ = false then [Event.detached] else []) ->
      e = Event.detached := by
    intro e hmem
    split at hmem
    · exact List.mem_singleton.mp hmem
    · cases hmem
  refine { h with
    handshake := ⟨les, hshake.elsewhere rfl rfl rfl (Or.inl rfl)
      (Or.inl rfl)⟩
    tid := ?_
    called := ?_
    deleted := ?_
    gone := fun _ => hidle.1 }
  · intro tid hmem
    rcases List.mem_append.mp hmem with hold | hnew
    · exact h.tid tid hold
    · cases hes _ hnew
  · have hnone := mt (hes Event.called) (by simp)
    rw [List.count_append, List.count_eq_zero_of_not_mem hnone]
    exact h.called
  · have hnone := mt (hes Event.deleted) (by simp)
    rw [List.count_append, List.count_eq_zero_of_not_mem hnone]
    exact h.deleted

theorem perform_sound (h : Sound thread tr) (i : Input) :
    Yields (Perform thread i) (fun next es => Sound next (tr ++ es)) := by
  cases i with
  | start tid => exact start_sound h tid
  | assign => exact assign_sound h
  | latch i =>
      cases i with
      | call tid request => exact yields_error
      | next tid => exact latch_sound h (by simp)
      | notify tid chosen => exact latch_sound h (by simp)
      | spurious sleeper => exact latch_sound h (by simp)
  | startReturns => exact startReturns_sound h
  | countDownReturns => exact countDownReturns_sound h
  | func => exact func_sound h
  | funcReturns => exact funcReturns_sound h
  | delete => exact delete_sound h
  | join => exact join_sound h
  | joinReturns => exact joinReturns_sound h
  | destroy => exact destroy_sound h

theorem run_sound {inputs : List Input}
    (hrun : ThreadMachine.Run New inputs = some (thread, tr)) :
    Sound thread tr :=
  Machine.run_invariant (I := Sound) (p := [])
    (fun _ _ i next es hinv hstep =>
      perform_sound hinv i next es (answer_eq_some.mp hstep))
    sound_new hrun

end Thread
end Thread
end Wethands
