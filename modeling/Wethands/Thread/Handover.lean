import Wethands.Thread.Handshake

/-!
# What the owner and the new thread can rely on

No thread comes to an object that is gone, and no thread waits for ever.
-/

namespace Wethands
namespace Thread

open Foundation

set_option linter.dupNamespace false

namespace Thread

open CountDownLatch (LatchMonitor LatchMachine Conds Request)
open Condition (Place)

variable {thread : Thread} {les : List CountDownLatch.Event}
  {tr : List Event}

/-- The caller joins what it has started, and once. -/
def Careful (thread : Thread) : Input -> Prop
  | Input.join => thread.started_ = true ∧ thread.joined_ = false
  | _ => True

def Input.GoesOn : Input -> Prop
  | start _ | join | destroy => False
  | latch i => Condition.Input.GoesOn i ≠ none
  | assign | startReturns | countDownReturns | func | funcReturns | delete
  | joinReturns => True

/-- When `Start` has returned, the new thread is behind `CountDown`. -/
theorem Handshake.released (h : Handshake thread les)
    (hwaited : CountDownLatch.Event.waited ∈ les) :
    thread.stage.Counts = true ∧
      thread.latch_.places Side.created = Place.outside := by
  have hopened := h.greeted.opened
  have hle : (thread.Counted : Int) ≤ 1 := by
    unfold Counted
    split <;> decide
  constructor
  · rcases hopened.counted with ⟨before, _, _, hlength⟩
    have hdata := hopened.open_ hwaited
    by_contra hnot
    rw [Counted, if_neg hnot] at hlength
    omega
  · cases hplace : (thread.latch_.places Side.created).Inside? with
    | none => exact Condition.outside_of_inside hplace
    | some request =>
        have hdeserted := hopened.deserted hle hwaited Side.created
        rw [hplace, (h.created request hplace).1] at hdeserted
        exact absurd rfl hdeserted

theorem Handshake.unlocked (h : Handshake thread les)
    (howner : thread.latch_.places Side.owner = Place.outside)
    (hcreated : thread.latch_.places Side.created = Place.outside) :
    thread.latch_.lock_ = MutexLock.New Side ∧ thread.latch_.waiters = [] := by
  rcases h.greeted.opened.matched with ⟨state, hmatches⟩
  have houtside : forall tid, thread.latch_.places tid = Place.outside := by
    intro tid
    cases tid with
    | owner => exact howner
    | created => exact hcreated
  constructor
  · refine hmatches.disciplined.unlocked (fun tid => ?_)
    rw [houtside tid]
    rfl
  · refine List.eq_nil_iff_forall_not_mem.mpr (fun s hs => ?_)
    rcases (hmatches.waiting s.tid s.cond).mp hs with ⟨request, hasleep⟩
    rw [houtside s.tid] at hasleep
    cases hasleep

theorem Sound.created_outside (h : Sound thread tr)
    (hshake : Handshake thread les)
    (howner : thread.owner ≠ Owner.start) :
    thread.latch_.places Side.created = Place.outside := by
  by_cases hstarted : thread.started_ = true
  · rcases hshake.started hstarted with hstart | hwaited
    · exact absurd hstart howner
    · exact (hshake.released hwaited).2
  · have hstage : thread.stage = Stage.none := by
      by_contra hnot
      exact hstarted (h.unstarted.mpr hnot)
    exact hshake.created_outside (by simp [hstage])

theorem nobody_moves {latch : CountDownLatch.Latch Side}
    {i : CountDownLatch.Input Side}
    (houtside : forall tid, latch.places tid = Place.outside)
    (hwaiters : latch.waiters = [])
    (hinner : forall tid request, i ≠ Condition.Input.call tid request)
    {last : CountDownLatch.Latch Side} {les' : List CountDownLatch.Event}
    (hcall : Condition.Perform LatchMonitor Conds latch i =
      Except.ok (last, les')) : False := by
  cases Condition.perform_transition i _ _ hcall with
  | call tid request hplace => exact hinner tid request rfl
  | goes tid lock_ place hgoes =>
      rw [houtside tid] at hgoes
      cases hgoes
  | sleeps tid request cond hplace hmutex =>
      rw [houtside tid] at hplace
      cases hplace
  | ends tid request data event signals hplace hends =>
      rw [houtside tid] at hplace
      cases hplace
  | notifies tid request event signals cond left chosen hplace hanswers =>
      rw [houtside tid] at hplace
      cases hplace
  | leaves tid request event signals hplace =>
      rw [houtside tid] at hplace
      cases hplace
  | spurious sleeper hmem =>
      rw [hwaiters] at hmem
      cases hmem

theorem latch_harmless (h : Sound thread tr)
    {i : CountDownLatch.Input Side}
    (hinner : forall tid request, i ≠ Condition.Input.call tid request) :
    Ensures (OnLatch thread i []) (fun _ _ => True) := by
  rcases h.handshake with ⟨les, hshake⟩
  rcases hshake.greeted.opened.matched with ⟨state, hmatches⟩
  unfold OnLatch Touch
  split
  · rename_i failure hperform
    rcases Condition.perform_fails hmatches.disciplined hperform with
      rfl | ⟨tid, request, _, _, hsection⟩
    · exact ensures_impossible
    · exact absurd hsection (CountDownLatch.latch_never_fails _ _ _)
  · rename_i latch_ les' hperform
    split
    · trivial
    · rename_i hgone
      have howner := h.gone (Bool.not_eq_true _ ▸ hgone)
      have hout := hshake.owner_outside (by simp [howner])
      have hcreated := h.created_outside hshake (by simp [howner])
      refine (nobody_moves (fun tid => ?_)
        (hshake.unlocked hout hcreated).2 hinner hperform).elim
      cases tid with
      | owner => exact hout
      | created => exact hcreated

theorem onLatch_call {tid : Side} {request : Request} {es' : List Event}
    (halive : thread.alive = true)
    (hout : thread.latch_.places tid = Place.outside) :
    exists next, OnLatch thread (Condition.Input.call tid request) es' =
      Except.ok (next, es') := by
  rw [OnLatch, Condition.Perform, Condition.Begin, hout]
  exact ⟨_, if_pos halive⟩

theorem Sound.alive (h : Sound thread tr) (hstarted : thread.started_ = true)
    (hcounts : thread.stage.Counts = false) : thread.alive = true := by
  by_contra hnot
  have howner := h.gone (Bool.not_eq_true _ ▸ hnot)
  rcases h.handshake with ⟨les, hshake⟩
  rcases hshake.started hstarted with hstart | hwaited
  · rw [howner] at hstart
    cases hstart
  · rw [(hshake.released hwaited).1] at hcounts
    cases hcounts

theorem assign_ok (h : Sound thread tr) {tid : Pid}
    (hstage : thread.stage = Stage.assign tid) :
    exists next, Assign thread = Except.ok (next, []) := by
  rcases h.handshake with ⟨les, hshake⟩
  have hstarted : thread.started_ = true := by
    rw [h.unstarted, hstage]
    simp
  have halive := h.alive hstarted (by rw [hstage]; rfl)
  have hout := hshake.created_outside (by simp [hstage])
  rw [Assign, hstage]
  exact onLatch_call halive hout

theorem assign_harmless (h : Sound thread tr) :
    Ensures (Assign thread) (fun _ _ => True) := by
  cases hstage : thread.stage with
  | assign tid =>
      rcases assign_ok h hstage with ⟨next, hok⟩
      rw [hok]
      trivial
  | none | countDown | func | running | delete | finished =>
      rw [Assign, hstage]
      exact ensures_impossible

theorem Sound.returns (h : Sound thread tr)
    (howner : thread.owner = Owner.start)
    (hout : thread.latch_.places Side.owner = Place.outside) :
    0 < thread.tid_ := by
  rcases h.handshake with ⟨les, hshake⟩
  rcases hshake.waits howner with hwaits | hwaited
  · rw [hout] at hwaits
    cases hwaits
  · exact h.positive (hshake.released hwaited).1

theorem destroy_harmless (h : Sound thread tr) :
    Ensures (Destroy thread) (fun _ _ => True) := by
  refine Ensures.only_if (fun hidle => ?_)
  rcases h.handshake with ⟨les, hshake⟩
  have hout := hshake.owner_outside (by simp [hidle.1])
  have hcreated := h.created_outside hshake (by simp [hidle.1])
  rcases hshake.unlocked hout hcreated with ⟨hlock, hwaiters⟩
  rw [DestroyLatch, if_pos hwaiters]
  refine Ensures.assert ?_ (Ensures.assert ?_ trivial)
  · rw [hlock]
    rfl
  · rw [hlock]
    rfl

theorem start_harmless (h : Sound thread tr) (tid : Option Pid) :
    Ensures (Start thread tid) (fun _ _ => True) := by
  refine Ensures.only_if (fun hboth => ?_)
  cases tid with
  | none => exact ensures_sysFatal
  | some tid =>
      rcases h.handshake with ⟨les, hshake⟩
      have hout := hshake.owner_outside (by simp [hboth.1.1])
      rcases @onLatch_call { thread with
        started_ := true
        data := true
        owner := Owner.start
        stage := Stage.assign tid } Side.owner Request.wait
          [Event.created tid] hboth.1.2 hout with ⟨next, hok⟩
      dsimp only
      rw [hok]
      trivial

theorem startReturns_harmless (h : Sound thread tr) :
    Ensures (StartReturns thread) (fun _ _ => True) := by
  unfold StartReturns
  split
  · rename_i howner hout
    exact Ensures.assert (h.returns howner hout) trivial
  · exact ensures_impossible

theorem countDownReturns_harmless :
    Ensures (CountDownReturns thread) (fun _ _ => True) := by
  unfold CountDownReturns
  split
  · trivial
  · exact ensures_impossible

theorem func_harmless (h : Sound thread tr) :
    Ensures (Func thread) (fun _ _ => True) := by
  refine Ensures.only_if (fun hstage => ?_)
  rw [h.data, hstage]
  trivial

theorem delete_harmless (h : Sound thread tr) :
    Ensures (Delete thread) (fun _ _ => True) := by
  refine Ensures.only_if (fun hstage => ?_)
  rw [h.data, hstage]
  trivial

theorem perform_harmless (h : Sound thread tr) {i : Input}
    (hcareful : Careful thread i) :
    Ensures (Perform thread i) (fun _ _ => True) := by
  cases i with
  | start tid => exact start_harmless h tid
  | assign => exact assign_harmless h
  | latch i =>
      cases i with
      | call tid request => exact ensures_impossible
      | next tid => exact latch_harmless h (by simp)
      | notify tid chosen => exact latch_harmless h (by simp)
      | spurious sleeper => exact latch_harmless h (by simp)
  | startReturns => exact startReturns_harmless h
  | countDownReturns => exact countDownReturns_harmless
  | func => exact func_harmless h
  | funcReturns => exact Ensures.only_if (fun _ => trivial)
  | delete => exact delete_harmless h
  | join =>
      refine Ensures.only_if (fun _ => ?_)
      exact Ensures.assert hcareful.1 (Ensures.assert hcareful.2 trivial)
  | joinReturns => exact Ensures.only_if (fun _ => trivial)
  | destroy => exact destroy_harmless h

/-!
# Nobody waits for ever
-/

def Moves (thread : Thread) : Prop :=
  exists i next es, Input.GoesOn i ∧ Perform thread i = Except.ok (next, es)

theorem moves_of_latch (halive : thread.alive = true) {tid : Side}
    (h : Condition.Moves LatchMonitor Conds thread.latch_ tid) :
    Moves thread := by
  rcases h with ⟨i, latch_, les, hgoes, hperform⟩
  have hinner : Perform thread (Input.latch i) = OnLatch thread i [] := by
    cases i with
    | call tid request => cases hgoes
    | next | notify | spurious => rfl
  refine ⟨Input.latch i, { thread with latch_ := latch_ }, [], ?_, ?_⟩
  · show i.GoesOn ≠ none
    rw [hgoes]
    simp
  · rw [hinner, OnLatch, hperform]
    exact if_pos halive

theorem countDownReturns_moves (hstage : thread.stage = Stage.countDown)
    (hout : thread.latch_.places Side.created = Place.outside) :
    Moves thread := by
  refine ⟨Input.countDownReturns, { thread with stage := Stage.func }, [],
    trivial, ?_⟩
  rw [Perform, CountDownReturns, hstage, hout]

/-- While the new thread runs, `Join` waits for it. -/
theorem join_moves (h : Sound thread tr)
    (howner : thread.owner = Owner.join) : Moves thread := by
  rcases h.handshake with ⟨les, hshake⟩
  have hstarted : thread.started_ = true := by
    by_contra hnot
    have hidle := h.idle (Bool.not_eq_true _ ▸ hnot)
    rw [howner] at hidle
    cases hidle
  have hwaited : CountDownLatch.Event.waited ∈ les := by
    refine (hshake.started hstarted).resolve_left ?_
    simp [howner]
  rcases hshake.released hwaited with ⟨hcounts, hout⟩
  have hdata := h.data
  cases hstage : thread.stage with
  | none | assign tid =>
      rw [hstage] at hcounts
      cases hcounts
  | countDown => exact countDownReturns_moves hstage hout
  | func =>
      rw [hstage] at hdata
      exact ⟨Input.func, _, _, trivial,
        (if_pos hstage).trans (if_pos hdata)⟩
  | running => exact ⟨Input.funcReturns, _, _, trivial, if_pos hstage⟩
  | delete =>
      rw [hstage] at hdata
      exact ⟨Input.delete, _, _, trivial,
        (if_pos hstage).trans (if_pos hdata)⟩
  | finished =>
      exact ⟨Input.joinReturns, _, _, trivial, if_pos ⟨howner, hstage⟩⟩

/-- `Start` waits for the new thread, which does not wait for it. -/
theorem start_moves (h : Sound thread tr)
    (howner : thread.owner = Owner.start) : Moves thread := by
  have halive : thread.alive = true := by
    by_contra hnot
    have hgone := h.gone (Bool.not_eq_true _ ▸ hnot)
    rw [howner] at hgone
    cases hgone
  rcases h.handshake with ⟨les, hshake⟩
  rcases hshake.greeted.opened.matched with ⟨state, hmatches⟩
  have hmoves : forall tid,
      thread.latch_.places tid ≠ Place.outside ->
      (forall request cond,
        thread.latch_.places tid ≠ Place.asleep request cond) ->
      Moves thread := by
    intro tid hinside hawake
    rcases Condition.inside_moves hmatches.disciplined
      (CountDownLatch.latch_never_fails _) hinside hawake with ⟨other, hother⟩
    exact moves_of_latch halive hother
  have hcounted : forall request cond, thread.stage.Counts = true ->
      thread.latch_.places Side.created = Place.outside ->
      thread.latch_.places Side.owner ≠ Place.asleep request cond := by
    intro request cond hcounts hout hasleep
    have hgreeted := hshake.greeted
    rw [Counted, if_pos hcounts] at hgreeted
    exact hgreeted.awake hout hasleep
  by_cases hout : thread.latch_.places Side.owner = Place.outside
  · refine ⟨Input.startReturns, { thread with owner := Owner.outside }, [],
      trivial, ?_⟩
    rw [Perform, StartReturns, howner, hout]
    exact if_pos (h.returns howner hout)
  · by_cases hasleep : exists request cond,
        thread.latch_.places Side.owner = Place.asleep request cond
    · rcases hasleep with ⟨request, cond, hasleep⟩
      cases hstage : thread.stage with
      | none =>
          have hunset : thread.started_ = false := by
            rw [← Bool.not_eq_true, h.unstarted, hstage]
            simp
          rw [h.idle hunset] at howner
          cases howner
      | assign tid =>
          rcases assign_ok h hstage with ⟨next, hok⟩
          exact ⟨Input.assign, next, [], trivial, hok⟩
      | countDown =>
          by_cases hleft : thread.latch_.places Side.created = Place.outside
          · exact countDownReturns_moves hstage hleft
          · refine hmoves Side.created hleft ?_
            intro asked other hcreated
            have hrequest := hshake.greeted.asleep _ _ _ hcreated
            have hinside := hshake.created asked (by rw [hcreated]; rfl)
            rw [hinside.1] at hrequest
            cases hrequest
      | func | running | delete | finished =>
          have hleft := hshake.created_outside (by simp [hstage])
          refine absurd hasleep (hcounted request cond ?_ hleft)
          rw [hstage]
          rfl
    · exact hmoves Side.owner hout
        (fun request cond hplace => hasleep ⟨request, cond, hplace⟩)

/--
When `Start` has returned, the object has the number of the new thread, which
does not come back to the object, so that it may be destroyed.  The function is
called once, and it is over when `Join` has returned; and neither `Start` nor
`Join` waits in vain.
-/
theorem start_hands_over {inputs : List Input}
    (hrun : ThreadMachine.Run New inputs = some (thread, tr)) :
    (thread.owner ≠ Owner.start -> forall tid, Event.created tid ∈ tr ->
      thread.tid_ = tid.1) ∧
    tr.count Event.called ≤ 1 ∧
    (thread.joined_ = true -> thread.owner = Owner.outside ->
      tr.count Event.called = 1 ∧ tr.count Event.deleted = 1) ∧
    (forall i failure, Careful thread i ->
      Perform thread i = Except.error failure -> failure.Harmless) ∧
    (thread.owner ≠ Owner.outside -> Moves thread) := by
  have h := run_sound hrun
  refine ⟨?_, ?_, ?_, ?_, ?_⟩
  · intro howner tid hmem
    rcases h.tid tid hmem with hassign | ⟨_, hsame⟩
    · rcases h.handshake with ⟨les, hshake⟩
      have hstarted : thread.started_ = true := by
        rw [h.unstarted, hassign]
        simp
      have hwaited := (hshake.started hstarted).resolve_left howner
      have hcounts := (hshake.released hwaited).1
      rw [hassign] at hcounts
      cases hcounts
    · exact hsame
  · rw [h.called]
    split <;> decide
  · intro hjoined howner
    have hfinished : thread.stage = Stage.finished := by
      refine (h.joined hjoined).resolve_left ?_
      simp [howner]
    rw [h.called, h.deleted, hfinished]
    exact ⟨rfl, rfl⟩
  · intro i failure hcareful hfails
    exact (ensures_iff.mp (perform_harmless h hcareful)).1 failure hfails
  · intro howner
    cases hplace : thread.owner with
    | outside => exact absurd hplace howner
    | start => exact start_moves h hplace
    | join => exact join_moves h hplace

/-!
# An early end

The object is destroyed while the new thread has not come out of `CountDown`.
-/

def Next (side : Side) : Input :=
  Input.latch (Condition.Input.next side)

def EarlyEnd : List Input :=
  Input.start (some ⟨7, by decide⟩) :: List.replicate 5 (Next Side.owner) ++
    Input.assign :: List.replicate 3 (Next Side.created) ++
    Input.latch (Condition.Input.notify Side.created
      [⟨Side.owner, CountDownLatch.Cond.cond_⟩]) ::
    List.replicate 3 (Next Side.created) ++
    List.replicate 3 (Next Side.owner) ++
    Input.latch (Condition.Input.notify Side.owner []) ::
    List.replicate 3 (Next Side.owner) ++
    [Input.startReturns, Input.destroy, Input.countDownReturns, Input.func]

theorem start_hands_over_of_early_end :
    exists thread tr, ThreadMachine.Run New EarlyEnd = some (thread, tr) ∧
      thread.alive = false ∧ thread.tid_ = 7 ∧
      tr.count Event.called = 1 ∧
      forall i failure, Careful thread i ->
        Perform thread i = Except.error failure -> failure.Harmless := by
  have heval : (ThreadMachine.Run New EarlyEnd).map
      (fun last => ((last.1.alive, last.1.tid_), last.2)) =
      some ((false, 7), [Event.created ⟨7, by decide⟩, Event.detached,
        Event.called]) := by
    decide +kernel
  rcases ThreadMachine.exists_run (fun thread => (thread.alive, thread.tid_))
    heval with ⟨thread, hrun, hlast⟩
  rcases Prod.mk.inj hlast with ⟨halive, htid⟩
  exact ⟨thread, _, hrun, halive, htid, rfl,
    (start_hands_over hrun).2.2.2.1⟩

end Thread
end Thread
end Wethands
