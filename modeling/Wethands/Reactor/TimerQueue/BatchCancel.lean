import Wethands.Reactor.TimerQueue.Batch

/-!
# Cancels made by the callbacks of a batch

A callback cancels in the set, but `HandleRead` works on the batch it has taken
out of the set before.  So every timer of the batch still runs, and a repeating
one is restarted, whatever the callbacks cancel.
-/

namespace Wethands
namespace Reactor

open Foundation Utils

namespace TimerQueue

def Event.Ran? : Event -> Option TimerIndex
  | Event.ran timerIndex => some timerIndex
  | _ => none

/-- The timer whose callback is running after these events of `HandleRead`. -/
def Running (es : List Event) : Option TimerIndex :=
  (es.filterMap Event.Ran?).getLast?

def Repeats (queue : TimerQueue) (timerIndex : TimerIndex) : Prop :=
  exists t, queue.heap timerIndex.timer_ = some t ∧ t.repeated_ = true

/-- The rest of `HandleRead` neither runs the timer nor inserts it. -/
def TakesEffect (timerIndex : TimerIndex) (after : List Event) : Prop :=
  forall e, e ∈ after -> e.Touches ≠ some timerIndex.sequence_

section Clock

variable {clock : Nat -> Timestamp}

/-!
# Events of the parts of a batch
-/

def Event.OfScript (e : Event) : Prop :=
  e.Ran? = none

theorem Event.ofScript_of_updates {e : Event} (h : e.Updates = true) :
    e.OfScript := by
  cases e with
  | updateTimerfd expiration now again => rfl
  | inserted timerIndex => cases h
  | cancelled timerIndex => cases h
  | ran timerIndex => cases h

theorem addTimerInLoop_ofScript {queue next : TimerQueue} {a : Address}
    {es : List Event}
    (hcall : AddTimerInLoop clock queue a = Except.ok (next, es)) :
    forall e, e ∈ es -> e.OfScript := by
  rcases addTimerInLoop_eq_ok hcall with
    ⟨t, _, _, armed, _, _, _, rfl, hupdates⟩
  intro e he
  rcases List.mem_append.mp he with harmed | hlast
  · exact Event.ofScript_of_updates (hupdates e harmed)
  · rw [List.mem_singleton.mp hlast]
    rfl

theorem runOp_ofScript {queue next : TimerQueue} {op : Op} {es : List Event}
    (hcall : RunOp clock queue op = Except.ok (next, es)) :
    forall e, e ∈ es -> e.OfScript := by
  cases op with
  | addTimer timer request =>
      rcases then_eq_ok.mp hcall with ⟨made, es1, _, hnew, hrest, rfl⟩
      rcases then_eq_ok.mp hrest with ⟨added, es2, es3, hadd, hissue, rfl⟩
      rcases newTimer_eq_ok hnew with ⟨_, _, _, _, rfl, _⟩
      rcases issue_eq_ok hissue with ⟨_, _, rfl, _⟩
      simpa using addTimerInLoop_ofScript hadd
  | cancelTimer timerIndex =>
      simp only [RunOp, CancelTimer] at hcall
      split at hcall
      · rw [(cancelTimerInLoop_eq_ok hcall).1]
        intro e he
        rw [List.mem_singleton.mp he]
        rfl
      · cases hcall
  | remoteNewTimer timer request =>
      simp only [RunOp, RemoteNewTimer] at hcall
      rcases then_eq_ok.mp hcall with ⟨made, es1, _, hnew, hrest, rfl⟩
      rcases newTimer_eq_ok hnew with ⟨_, _, _, _, rfl, _⟩
      cases hrest
      simp
  | remoteRunInLoop timer =>
      simp only [RunOp, RemoteRunInLoop] at hcall
      split at hcall
      · rcases then_eq_ok.mp hcall with ⟨issued, es1, _, hissue, hrest, rfl⟩
        rcases issue_eq_ok hissue with ⟨_, _, rfl, _⟩
        cases hrest
        simp
      · cases hcall
  | remoteCancelTimer timerIndex =>
      simp only [RunOp, RemoteCancelTimer] at hcall
      split at hcall
      · cases hcall
        simp
      · cases hcall

theorem runScript_ofScript {queue next : TimerQueue} {script : List Op}
    {es : List Event}
    (hcall : RunScript clock queue script = Except.ok (next, es)) :
    forall e, e ∈ es -> e.OfScript := by
  induction script generalizing queue es with
  | nil =>
      cases hcall
      simp
  | cons op rest ih =>
      rcases then_eq_ok.mp hcall with ⟨mid, es1, es2, hop, hrest, rfl⟩
      intro e he
      rcases List.mem_append.mp he with hfirst | hsecond
      · exact runOp_ofScript hop e hfirst
      · exact ih hrest e hsecond

/-- After its callback a repeating timer is always inserted again. -/
theorem restartOrDelete_events {queue next : TimerQueue} {now : Timestamp}
    {i : TimerIndex} {t : Timer} {es : List Event}
    (ht : queue.heap i.timer_ = some t)
    (hcall : RestartOrDelete clock queue now i = Except.ok (next, es)) :
    (forall idx, Event.cancelled idx ∉ es) ∧
      (t.repeated_ = true ->
        exists e, e ∈ es ∧ e.Touches = some t.sequence_) := by
  unfold RestartOrDelete at hcall
  simp only [ht] at hcall
  split at hcall
  · rcases addTimerInLoop_eq_ok hcall with
      ⟨u, _, _, armed, hu, _, _, rfl, hupdates⟩
    constructor
    · intro idx hidx
      rcases List.mem_append.mp hidx with harmed | hlast
      · cases hupdates _ harmed
      · cases List.mem_singleton.mp hlast
    · intro _
      have hsame : u = t.Restart now := by simpa using hu.symm
      subst hsame
      exact ⟨_, List.mem_append.mpr (Or.inr (List.mem_singleton.mpr rfl)),
        by simp [Event.Touches, IndexOf]⟩
  · rename_i hrepeated
    rcases delete_eq_ok hcall with ⟨rfl, _⟩
    exact ⟨by simp, fun hrep => absurd hrep hrepeated⟩

/-!
# The whole batch
-/

theorem ran_mem_runExpired {queue next : TimerQueue} {now : Timestamp}
    {batch : List TimerIndex} {scripts : List (List Op)} {i : TimerIndex}
    {es : List Event} (hi : i ∈ batch)
    (hcall : RunExpired clock now batch scripts queue =
      Except.ok (next, es)) :
    Event.ran i ∈ es := by
  induction batch generalizing queue scripts es with
  | nil => cases hi
  | cons j batch ih =>
      rcases runExpired_cons_eq_ok hcall with
        ⟨ran, es1, restarted, es2, es3, hrun, _, hlast, rfl⟩
      rcases List.mem_cons.mp hi with rfl | hrest
      · rcases runTimer_eq_ok hrun with ⟨es', _, rfl⟩
        simp
      · exact List.mem_append.mpr (Or.inr
          (List.mem_append.mpr (Or.inr (ih hrest hlast))))

theorem running_append {first second : List Event} {i : TimerIndex}
    (h : Running second = some i) : Running (first ++ second) = some i := by
  simp only [Running, List.filterMap_append] at h ⊢
  exact List.mem_getLast?_append_of_mem_getLast? h

theorem running_of_script {i : TimerIndex} {es : List Event}
    (h : forall e, e ∈ es -> e.OfScript) :
    Running (Event.ran i :: es) = some i := by
  have hnone : es.filterMap Event.Ran? = [] :=
    List.filterMap_eq_nil_iff.mpr h
  simp [Running, Event.Ran?, hnone]

theorem cancel_in_runTimer {queue next : TimerQueue} {i idx : TimerIndex}
    {script : List Op} {es before mid : List Event}
    (hcall : RunTimer clock queue i script = Except.ok (next, es))
    (hsplit : es = before ++ Event.cancelled idx :: mid) :
    Running before = some i := by
  rcases runTimer_eq_ok hcall with ⟨es', hscript, rfl⟩
  cases before with
  | nil => cases hsplit
  | cons e before =>
      rw [List.cons_append] at hsplit
      cases hsplit
      apply running_of_script
      intro e he
      exact runScript_ofScript hscript e (List.mem_append.mpr (Or.inl he))

theorem Repeats.of_holds {queue next : TimerQueue} {i : TimerIndex}
    {hands : List Address} (h : Repeats queue i)
    (hholds : Holds queue next hands) (hi : i.timer_ ∈ hands) :
    Repeats next i := by
  rcases h with ⟨t, ht, hrepeated⟩
  exact ⟨t, (hholds i.timer_ hi).trans ht, hrepeated⟩

theorem restarted_after_cancel {queue next : TimerQueue} {now : Timestamp}
    {batch : List TimerIndex} {scripts : List (List Op)}
    {hands : List Address} {idx : TimerIndex}
    {es before after : List Event} (h : HoldsBatch queue batch hands)
    (hcall : RunExpired clock now batch scripts queue = Except.ok (next, es))
    (hcancel : es = before ++ Event.cancelled idx :: after) :
    exists i, i ∈ batch ∧ Running before = some i ∧
      (Repeats queue i ->
        exists e, e ∈ after ∧ e.Touches = some i.sequence_) := by
  induction batch generalizing queue scripts es before with
  | nil =>
      cases hcall
      exact absurd hcancel (by simp)
  | cons i batch ih =>
      rcases runExpired_cons_eq_ok hcall with
        ⟨ran, es1, restarted, es2, es3, hrun, hrestart, hlast, rfl⟩
      have hi : i ∈ i :: batch := List.mem_cons.mpr (Or.inl rfl)
      have hran := runTimer_holdsBatch h hi hrun
      have hhands : forall j, j ∈ i :: batch ->
          j.timer_ ∈ (i :: batch).map TimerIndex.timer_ ++ hands :=
        fun j hj => List.mem_append.mpr (Or.inl (List.mem_map.mpr ⟨j, hj, rfl⟩))
      have hholds : Holds queue ran
          ((i :: batch).map TimerIndex.timer_ ++ hands) := by
        rcases runTimer_eq_ok hrun with ⟨_, hscript, _⟩
        exact runScript_holds h.sound hscript
      rcases hran.live i hi with ⟨t, ht, hseq⟩
      have hevents := restartOrDelete_events ht hrestart
      rcases split_append hcancel with
        ⟨mid, hfirst, rfl⟩ | ⟨mid, rfl, hsecond⟩
      · refine ⟨i, hi, cancel_in_runTimer hrun hfirst, ?_⟩
        intro hrepeats
        rcases hrepeats.of_holds hholds (hhands i hi) with
          ⟨u, hu, hrepeated⟩
        rw [ht] at hu
        cases hu
        rcases hevents.2 hrepeated with ⟨e, he, htouches⟩
        refine ⟨e, ?_, by rw [htouches, hseq]⟩
        exact List.mem_append.mpr (Or.inr (List.mem_append.mpr (Or.inl he)))
      · rcases split_append hsecond with
          ⟨mid', hmid, _⟩ | ⟨mid', rfl, hthird⟩
        · exact absurd (by rw [hmid]; simp) (hevents.1 idx)
        · have hrestarted := restartOrDelete_holdsBatch hran hrestart
          rcases ih hrestarted hlast hthird with
            ⟨j, hj, hrunning, hagain⟩
          have hjbatch : j ∈ i :: batch := List.mem_cons.mpr (Or.inr hj)
          refine ⟨j, hjbatch, running_append (running_append hrunning), ?_⟩
          intro hrepeats
          apply hagain
          have hheld := hrepeats.of_holds hholds (hhands j hjbatch)
          exact hheld.of_holds (restartOrDelete_holds hran.sound.1 hrestart)
            (List.mem_append.mpr (Or.inl (List.mem_map.mpr ⟨j, hj, rfl⟩)))

/-!
# No cancel of a batch takes effect
-/

/--
A callback cancels a timer of its batch that has not run yet, or its own timer
when that repeats.  In no run is the timer spared.
-/
theorem cancel_in_batch_never {inputs : List Input}
    {queue next : TimerQueue} {scripts : List (List Op)} {idx : TimerIndex}
    {tr es before after : List Event}
    (hrun : (QueueMachine clock).Run Init inputs = some (queue, tr))
    (hstep : (QueueMachine clock).Step queue (Input.handleRead scripts) =
      some (next, es))
    (hbatch : idx ∈ (GetExpired queue (clock queue.readings)).1)
    (hcancel : es = before ++ Event.cancelled idx :: after)
    (hcase : Event.ran idx ∉ before ∨
      Running before = some idx ∧ Repeats queue idx) :
    ¬TakesEffect idx after := by
  intro heffect
  have h := reached_sound hrun
  rcases handleRead_eq_ok (answer_eq_some.mp hstep) with
    ⟨mid, es1, hexpired, _, rfl⟩
  have hran : Event.ran idx ∈ es1 := ran_mem_runExpired hbatch hexpired
  rcases rearm_frame clock mid with ⟨_, _, armed, hrearm, hupdates⟩
  rw [hrearm] at hcancel
  rcases split_append hcancel with ⟨rest, hes1, rfl⟩ | ⟨rest, _, harmed⟩
  · rcases hcase with hlater | ⟨hrunning, hrepeats⟩
    · -- The callback that was to be skipped is still ahead.
      rw [hes1] at hran
      rcases List.mem_append.mp hran with hbefore | hafter
      · exact hlater hbefore
      · rcases List.mem_cons.mp hafter with heq | hrest
        · cases heq
        · exact heffect _ (List.mem_append.mpr (Or.inl hrest)) rfl
    · rcases restarted_after_cancel (h.holdsBatch _ _ _) hexpired hes1 with
        ⟨i, _, hi, hagain⟩
      rw [hrunning] at hi
      cases hi
      rcases hagain hrepeats with ⟨e, he, htouches⟩
      exact heffect e (List.mem_append.mpr (Or.inl he)) htouches
  · have hmem : Event.cancelled idx ∈ armed := by
      change armed = rest ++ Event.cancelled idx :: after at harmed
      simp [harmed]
    cases hupdates _ hmem

/-!
# Two timers that expire together

The callback of the first timer cancels the second one, which runs all the
same.
-/

def TenMicroseconds (n : Nat) : Timestamp :=
  10 * n

def IndexAt15 (n : Nat) : TimerIndex where
  timer_ := n
  expiration_ := 15
  sequence_ := n

def TwoTimers : List Input :=
  [Input.op (Op.addTimer 1 (Request.runAt 15)),
    Input.op (Op.addTimer 2 (Request.runAt 15)), Input.timerExpires]

theorem cancelInBatch_counterexample :
    ¬ forall (clock : Nat -> Timestamp) inputs queue tr scripts next es idx
        before after,
      (QueueMachine clock).Run Init inputs = some (queue, tr) ->
      (QueueMachine clock).Step queue (Input.handleRead scripts) =
        some (next, es) ->
      idx ∈ (GetExpired queue (clock queue.readings)).1 ->
      es = before ++ Event.cancelled idx :: after ->
      (Event.ran idx ∉ before ∨
        Running before = some idx ∧ Repeats queue idx) ->
      TakesEffect idx after := by
  intro hclaim
  have heffect := hclaim TenMicroseconds TwoTimers _ _
    [[Op.cancelTimer (IndexAt15 2)]] _ _ (IndexAt15 2)
    [Event.ran (IndexAt15 1)] [Event.ran (IndexAt15 2)] rfl rfl
    (List.mem_cons_of_mem _ (List.mem_singleton.mpr rfl)) rfl
    (Or.inl (by decide))
  exact heffect (Event.ran (IndexAt15 2)) (by decide) rfl

theorem cancel_in_batch_never_second :
    exists queue next tr,
      (QueueMachine TenMicroseconds).Run Init TwoTimers = some (queue, tr) ∧
      (QueueMachine TenMicroseconds).Step queue
        (Input.handleRead [[Op.cancelTimer (IndexAt15 2)]]) = some (next,
          [Event.ran (IndexAt15 1), Event.cancelled (IndexAt15 2),
            Event.ran (IndexAt15 2)]) ∧
      ¬TakesEffect (IndexAt15 2) [Event.ran (IndexAt15 2)] := by
  refine ⟨_, _, _, rfl, rfl, ?_⟩
  exact @cancel_in_batch_never TenMicroseconds TwoTimers _ _
    [[Op.cancelTimer (IndexAt15 2)]] (IndexAt15 2) _ _
    [Event.ran (IndexAt15 1)] [Event.ran (IndexAt15 2)] rfl rfl
    (List.mem_cons_of_mem _ (List.mem_singleton.mpr rfl)) rfl
    (Or.inl (by decide))

end Clock
end TimerQueue
end Reactor
end Wethands
