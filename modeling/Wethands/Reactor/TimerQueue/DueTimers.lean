import Wethands.Reactor.TimerQueue.BatchCancel
import Wethands.Reactor.TimerQueue.Harmless

/-!
# The timers that one `HandleRead` runs

As long as the callbacks only add timers, the set of timers grows while the
batch is worked off.  Each timer of the batch runs once and in order, and is
then either gone or back in the set under its next expiration.
-/

namespace Wethands
namespace Reactor

open Foundation Utils

namespace TimerQueue

def OnlyAdds (script : List Op) : Prop :=
  forall timerIndex, Op.cancelTimer timerIndex ∉ script

def NextIndex (now : Timestamp) (timerIndex : TimerIndex) (timer : Timer) :
    TimerIndex :=
  { timerIndex with expiration_ := AddSeconds now timer.interval_ }

def TakenOut (queue : TimerQueue) (sequence_ : Nat) : Prop :=
  (forall a, ¬LiveAt queue a sequence_) ∧
    forall i, i ∈ queue.timers_ -> i.sequence_ ≠ sequence_

/-- The timers of the set that are due, before and after `HandleRead`. -/
structure RunsDue (queue next : TimerQueue) (now : Timestamp)
    (es : List Event) : Prop where
  ordered : (es.filterMap Event.Ran?).Pairwise TimerIndex.Less
  due : forall i, Event.ran i ∈ es <->
    i ∈ queue.timers_ ∧ i.expiration_ ≤ now
  oneShot : forall i t, i ∈ queue.timers_ -> i.expiration_ ≤ now ->
    queue.heap i.timer_ = some t -> t.repeated_ = false ->
    TakenOut next i.sequence_
  repeating : forall i t, i ∈ queue.timers_ -> i.expiration_ ≤ now ->
    queue.heap i.timer_ = some t -> t.repeated_ = true ->
    forall j, j ∈ next.timers_ ∧ j.sequence_ = i.sequence_ <->
      j = NextIndex now i t
  undue : forall i, i ∈ queue.timers_ -> now < i.expiration_ ->
    i ∈ next.timers_
  added : forall i, Event.inserted i ∈ es -> i ∈ next.timers_

section Clock

variable {clock : Nat -> Timestamp}

/-!
# The set grows
-/

structure Grows (queue next : TimerQueue) (es : List Event) : Prop where
  kept : forall i, i ∈ queue.timers_ -> i ∈ next.timers_
  added : forall i, Event.inserted i ∈ es -> i ∈ next.timers_

theorem Grows.trans {queue mid next : TimerQueue} {es es' : List Event}
    (first : Grows queue mid es) (second : Grows mid next es') :
    Grows queue next (es ++ es') where
  kept := fun i hi => second.kept i (first.kept i hi)
  added := by
    intro i hi
    rcases List.mem_append.mp hi with hfirst | hsecond
    · exact second.kept i (first.added i hfirst)
    · exact second.added i hsecond

theorem grows_of_timers_eq {queue next : TimerQueue} {es : List Event}
    (htimers : next.timers_ = queue.timers_)
    (hes : forall i, Event.inserted i ∉ es) : Grows queue next es where
  kept := by
    rw [htimers]
    exact fun _ hi => hi
  added := fun i hi => absurd hi (hes i)

theorem addTimerInLoop_grows {queue next : TimerQueue} {a : Address}
    {es : List Event}
    (hcall : AddTimerInLoop clock queue a = Except.ok (next, es)) :
    Grows queue next es := by
  rcases addTimerInLoop_eq_ok hcall with
    ⟨t, _, _, armed, _, hfind, rfl, rfl, hupdates⟩
  constructor
  · intro i hi
    exact (OrderedSet.mem_insert hfind).mpr (Or.inr hi)
  · intro i hi
    apply (OrderedSet.mem_insert hfind).mpr
    rcases List.mem_append.mp hi with harmed | hlast
    · cases hupdates _ harmed
    · cases List.mem_singleton.mp hlast
      exact Or.inl rfl

theorem newTimer_grows {queue next : TimerQueue} {a : Address}
    {request : Request} {es : List Event}
    (hcall : NewTimer clock queue a request = Except.ok (next, es)) :
    Grows queue next es := by
  rcases newTimer_eq_ok hcall with ⟨_, _, _, _, rfl, rfl⟩
  exact grows_of_timers_eq rfl (by simp)

theorem issue_grows {queue next : TimerQueue} {a : Address} {es : List Event}
    (hcall : Issue queue a = Except.ok (next, es)) :
    Grows queue next es := by
  rcases issue_eq_ok hcall with ⟨_, _, rfl, rfl⟩
  exact grows_of_timers_eq rfl (by simp)

theorem runOp_grows {queue next : TimerQueue} {op : Op} {es : List Event}
    (hop : forall timerIndex, op ≠ Op.cancelTimer timerIndex)
    (hcall : RunOp clock queue op = Except.ok (next, es)) :
    Grows queue next es := by
  cases op with
  | addTimer timer request =>
      rcases then_eq_ok.mp hcall with ⟨made, es1, _, hnew, hrest, rfl⟩
      rcases then_eq_ok.mp hrest with ⟨added, es2, es3, hadd, hissue, rfl⟩
      exact (newTimer_grows hnew).trans
        ((addTimerInLoop_grows hadd).trans (issue_grows hissue))
  | cancelTimer timerIndex => exact absurd rfl (hop timerIndex)
  | remoteNewTimer timer request =>
      simp only [RunOp, RemoteNewTimer] at hcall
      rcases then_eq_ok.mp hcall with ⟨made, _, _, hnew, hrest, rfl⟩
      cases hrest
      exact (newTimer_grows hnew).trans (grows_of_timers_eq rfl (by simp))
  | remoteRunInLoop timer =>
      simp only [RunOp, RemoteRunInLoop] at hcall
      split at hcall
      · rcases then_eq_ok.mp hcall with ⟨issued, _, _, hissue, hrest, rfl⟩
        cases hrest
        exact (issue_grows hissue).trans (grows_of_timers_eq rfl (by simp))
      · cases hcall
  | remoteCancelTimer timerIndex =>
      simp only [RunOp, RemoteCancelTimer] at hcall
      split at hcall
      · cases hcall
        exact grows_of_timers_eq rfl (by simp)
      · cases hcall

theorem runScript_grows {queue next : TimerQueue} {script : List Op}
    {es : List Event} (hscript : OnlyAdds script)
    (hcall : RunScript clock queue script = Except.ok (next, es)) :
    Grows queue next es := by
  induction script generalizing queue es with
  | nil =>
      cases hcall
      exact grows_of_timers_eq rfl (by simp)
  | cons op rest ih =>
      rcases then_eq_ok.mp hcall with ⟨mid, es1, es2, hop, hrest, rfl⟩
      have hfirst : forall timerIndex, op ≠ Op.cancelTimer timerIndex := by
        rintro timerIndex rfl
        exact hscript timerIndex List.mem_cons_self
      have hlater : OnlyAdds rest := fun timerIndex hmem =>
        hscript timerIndex (List.mem_cons_of_mem _ hmem)
      exact (runOp_grows hfirst hop).trans (ih hlater hrest)

theorem runTimer_grows {queue next : TimerQueue} {i : TimerIndex}
    {script : List Op} {es : List Event} (hscript : OnlyAdds script)
    (hcall : RunTimer clock queue i script = Except.ok (next, es)) :
    Grows queue next es := by
  rcases runTimer_eq_ok hcall with ⟨es', hrun, rfl⟩
  have hgrows := runScript_grows hscript hrun
  exact ⟨hgrows.kept, fun j hj => hgrows.added j (by simpa using hj)⟩

theorem restartOrDelete_grows {queue next : TimerQueue} {now : Timestamp}
    {i : TimerIndex} {es : List Event}
    (hcall : RestartOrDelete clock queue now i = Except.ok (next, es)) :
    Grows queue next es := by
  unfold RestartOrDelete at hcall
  split at hcall
  · cases hcall
  · split at hcall
    · have hgrows := addTimerInLoop_grows hcall
      exact ⟨hgrows.kept, hgrows.added⟩
    · rcases delete_eq_ok hcall with ⟨rfl, rfl⟩
      exact grows_of_timers_eq rfl (by simp)

/-!
# What becomes of one timer of the batch
-/

/-- The timer that `object` describes has been worked off. -/
def Settled (next : TimerQueue) (now : Timestamp) (i : TimerIndex)
    (object : Timer) : Prop :=
  if object.repeated_ then NextIndex now i object ∈ next.timers_
  else forall a, ¬LiveAt next a i.sequence_

theorem Settled.later {mid next : TimerQueue} {now : Timestamp}
    {i : TimerIndex} {object : Timer} {es : List Event}
    (h : Settled mid now i object) (honward : Onward mid next es)
    (hgrows : Grows mid next es) (hle : i.sequence_ ≤ mid.count_) :
    Settled next now i object := by
  unfold Settled at h ⊢
  split at h
  · rw [if_pos ‹_›]
    exact hgrows.kept _ h
  · rw [if_neg ‹_›]
    intro a hlive
    rcases honward.live a _ hlive with hold | hnew
    · exact h a hold
    · omega

theorem restartOrDelete_settled {queue next : TimerQueue} {now : Timestamp}
    {i : TimerIndex} {object : Timer} {hands : List Address}
    {es : List Event} (h : Good queue hands)
    (hobject : queue.heap i.timer_ = some object)
    (hsequence : object.sequence_ = i.sequence_)
    (hcall : RestartOrDelete clock queue now i = Except.ok (next, es)) :
    Settled next now i object := by
  unfold RestartOrDelete at hcall
  simp only [hobject] at hcall
  unfold Settled
  split at hcall
  · rename_i hrepeated
    rw [if_pos hrepeated]
    rcases addTimerInLoop_eq_ok hcall with
      ⟨t, _, _, _, ht, hfind, rfl, _, _⟩
    have hsame : t = object.Restart now := by simpa using ht.symm
    subst hsame
    apply (OrderedSet.mem_insert hfind).mpr
    apply Or.inl
    simp [NextIndex, IndexOf, Timer.Restart, hrepeated, hsequence]
  · rename_i honce
    rw [if_neg honce]
    rcases delete_eq_ok hcall with ⟨_, rfl⟩
    intro a hlive
    rcases (liveAt_delete rfl).mp hlive with ⟨hne, hold⟩
    exact hne (h.sequence_inj a _ _ hold ⟨object, hobject, hsequence⟩)

/-!
# The batch
-/

theorem ran?_of_ofScript {es : List Event}
    (h : forall e, e ∈ es -> e.OfScript) :
    es.filterMap Event.Ran? = [] :=
  List.filterMap_eq_nil_iff.mpr h

theorem restartOrDelete_ofScript {queue next : TimerQueue} {now : Timestamp}
    {i : TimerIndex} {es : List Event}
    (hcall : RestartOrDelete clock queue now i = Except.ok (next, es)) :
    forall e, e ∈ es -> e.OfScript := by
  unfold RestartOrDelete at hcall
  split at hcall
  · cases hcall
  · split at hcall
    · exact addTimerInLoop_ofScript hcall
    · rcases delete_eq_ok hcall with ⟨rfl, _⟩
      simp

theorem runExpired_ran {queue next : TimerQueue} {now : Timestamp}
    {batch : List TimerIndex} {scripts : List (List Op)} {es : List Event}
    (hcall : RunExpired clock now batch scripts queue =
      Except.ok (next, es)) :
    es.filterMap Event.Ran? = batch := by
  induction batch generalizing queue scripts es with
  | nil =>
      cases hcall
      rfl
  | cons i batch ih =>
      rcases runExpired_cons_eq_ok hcall with
        ⟨ran, es1, restarted, es2, es3, hrun, hrestart, hlast, rfl⟩
      rcases runTimer_eq_ok hrun with ⟨es', hscript, rfl⟩
      have hcallback := ran?_of_ofScript (runScript_ofScript hscript)
      have hafter := ran?_of_ofScript (restartOrDelete_ofScript hrestart)
      simp [List.filterMap_append, Event.Ran?, hcallback, hafter, ih hlast]

theorem onlyAdds_headD {scripts : List (List Op)}
    (h : forall script, script ∈ scripts -> OnlyAdds script) :
    OnlyAdds (scripts.headD []) := by
  cases scripts with
  | nil => simp [OnlyAdds]
  | cons script rest => exact h script List.mem_cons_self

theorem runExpired_grows {queue next : TimerQueue} {now : Timestamp}
    {batch : List TimerIndex} {scripts : List (List Op)} {es : List Event}
    (hscripts : forall script, script ∈ scripts -> OnlyAdds script)
    (hcall : RunExpired clock now batch scripts queue =
      Except.ok (next, es)) :
    Grows queue next es := by
  induction batch generalizing queue scripts es with
  | nil =>
      cases hcall
      exact grows_of_timers_eq rfl (by simp)
  | cons i batch ih =>
      rcases runExpired_cons_eq_ok hcall with
        ⟨ran, es1, restarted, es2, es3, hrun, hrestart, hlast, rfl⟩
      have hlater : forall script, script ∈ scripts.tail -> OnlyAdds script :=
        fun script hmem => hscripts script (List.mem_of_mem_tail hmem)
      exact (runTimer_grows (onlyAdds_headD hscripts) hrun).trans
        ((restartOrDelete_grows hrestart).trans (ih hlater hlast))

theorem runExpired_settled {queue next : TimerQueue} {now : Timestamp}
    {batch : List TimerIndex} {scripts : List (List Op)}
    {hands : List Address} {es : List Event}
    (h : HoldsBatch queue batch hands)
    (hscripts : forall script, script ∈ scripts -> OnlyAdds script)
    (hcall : RunExpired clock now batch scripts queue =
      Except.ok (next, es)) {i : TimerIndex} {object : Timer}
    (hi : i ∈ batch) (hobject : queue.heap i.timer_ = some object) :
    Settled next now i object := by
  induction batch generalizing queue scripts es with
  | nil => cases hi
  | cons first batch ih =>
      rcases runExpired_cons_eq_ok hcall with
        ⟨ran, es1, restarted, es2, es3, hrun, hrestart, hlast, rfl⟩
      have hran := runTimer_holdsBatch h List.mem_cons_self hrun
      have hrestarted := restartOrDelete_holdsBatch hran hrestart
      have hlater : forall script, script ∈ scripts.tail -> OnlyAdds script :=
        fun script hmem => hscripts script (List.mem_of_mem_tail hmem)
      have hheld : ran.heap i.timer_ = some object := by
        rcases runTimer_eq_ok hrun with ⟨es', hscript, _⟩
        rw [runScript_holds h.sound hscript i.timer_ (List.mem_append.mpr
          (Or.inl (List.mem_map.mpr ⟨i, hi, rfl⟩)))]
        exact hobject
      rcases List.mem_cons.mp hi with rfl | hrest
      · rcases hran.live i List.mem_cons_self with ⟨t, ht, hsequence⟩
        rw [hheld, Option.some.injEq] at ht
        subst ht
        have hsettled := restartOrDelete_settled hran.sound.1 hheld hsequence
          hrestart
        have hle : i.sequence_ ≤ restarted.count_ :=
          Nat.le_trans
            (hran.sound.1.sequence_le _ _ ⟨object, hheld, hsequence⟩)
            (restartOrDelete_keeps hran.sound hrestart).2.count_le
        exact hsettled.later (runExpired_keeps hrestarted hlast).2
          (runExpired_grows hlater hlast) hle
      · refine ih hrestarted hlater hlast hrest ?_
        rw [restartOrDelete_holds hran.sound.1 hrestart i.timer_
          (List.mem_append.mpr (Or.inl (List.mem_map.mpr ⟨i, hrest, rfl⟩)))]
        exact hheld

/-!
# One call
-/

/-- No number reaches the sentry's, so the sentry is behind all that is due. -/
theorem less_sentry {i : TimerIndex} {now : Timestamp}
    (hsequence : i.sequence_ < INT64_MAX) :
    TimerIndex.Less i (Sentry now) <-> i.expiration_ ≤ now := by
  rw [TimerIndex.less_iff]
  simp only [Sentry]
  lia

theorem mem_getExpired {queue : TimerQueue} {hands : List Address}
    {now : Timestamp} {i : TimerIndex} (h : Good queue hands)
    (hcount : queue.count_ < INT64_MAX) :
    i ∈ (GetExpired queue now).1 <->
      i ∈ queue.timers_ ∧ i.expiration_ ≤ now := by
  apply OrderedSet.mem_before.trans
  refine and_congr_right fun hi => less_sentry ?_
  rcases h.index i hi with ⟨t, ht, heq⟩
  have hle := h.sequence_le i.timer_ t.sequence_ ⟨t, ht, rfl⟩
  rw [heq]
  exact Nat.lt_of_le_of_lt hle hcount

theorem ran_mem_iff {es : List Event} {i : TimerIndex} :
    Event.ran i ∈ es <-> i ∈ es.filterMap Event.Ran? := by
  rw [List.mem_filterMap]
  constructor
  · intro hi
    exact ⟨Event.ran i, hi, rfl⟩
  · intro hexists
    rcases hexists with ⟨e, he, hran⟩
    cases e with
    | ran j =>
        cases hran
        exact he
    | updateTimerfd expiration now again => cases hran
    | inserted j => cases hran
    | cancelled j => cases hran

theorem takenOut_of_not_live {queue : TimerQueue} {hands : List Address}
    {s : Nat} (h : Good queue hands) (hlive : forall a, ¬LiveAt queue a s) :
    TakenOut queue s := by
  refine ⟨hlive, ?_⟩
  rintro i hi rfl
  rcases h.index i hi with ⟨t, ht, heq⟩
  exact hlive i.timer_ ⟨t, ht, by rw [heq]; rfl⟩

theorem Good.eq_of_sequence {queue : TimerQueue} {hands : List Address}
    (h : Good queue hands) {i j : TimerIndex} (hi : i ∈ queue.timers_)
    (hj : j ∈ queue.timers_) (hsame : j.sequence_ = i.sequence_) : j = i := by
  rcases h.index i hi with ⟨t, ht, heq⟩
  rw [heq]
  refine h.index_eq hj ht ?_
  rw [hsame, heq]
  rfl

theorem rearm_grows (clock : Nat -> Timestamp) (queue : TimerQueue) :
    Grows queue (Rearm clock queue).1 (Rearm clock queue).2 := by
  rcases rearm_frame clock queue with ⟨_, _, es, hrearm, hupdates⟩
  rw [hrearm]
  refine grows_of_timers_eq rfl ?_
  intro i hi
  cases hupdates _ hi

theorem handleRead_runsDue_ok {queue next : TimerQueue}
    {scripts : List (List Op)} {es : List Event} (h : Sound queue [])
    (hcount : queue.count_ < INT64_MAX)
    (hscripts : forall script, script ∈ scripts -> OnlyAdds script)
    (hcall : HandleRead clock queue scripts = Except.ok (next, es)) :
    RunsDue queue next (clock queue.readings) es := by
  have hnext : Good next [] := (handleRead_keeps h hcall).1.1
  rcases handleRead_eq_ok hcall with ⟨mid, es1, hexpired, rfl, rfl⟩
  have hbatch := h.holdsBatch (clock queue.readings)
    (ReadTimerfd queue.timerfd_) (queue.readings + 1)
  have hgrows := (runExpired_grows hscripts hexpired).trans
    (rearm_grows clock mid)
  have hran : (es1 ++ (Rearm clock mid).2).filterMap Event.Ran? =
      (GetExpired queue (clock queue.readings)).1 := by
    rcases rearm_frame clock mid with ⟨_, _, armed, hrearm, hupdates⟩
    rw [List.filterMap_append, runExpired_ran hexpired, hrearm,
      ran?_of_ofScript fun e he => Event.ofScript_of_updates (hupdates e he),
      List.append_nil]
  have hsettled : forall i t, i ∈ queue.timers_ ->
      i.expiration_ ≤ clock queue.readings ->
      queue.heap i.timer_ = some t ->
      Settled (Rearm clock mid).1 (clock queue.readings) i t := by
    intro i t hi hle ht
    have hmem := (mem_getExpired h.1 hcount).mpr ⟨hi, hle⟩
    have hmid := runExpired_settled hbatch hscripts hexpired hmem ht
    rcases rearm_frame clock mid with ⟨_, _, armed, hrearm, _⟩
    rw [hrearm]
    exact hmid
  constructor
  · rw [hran]
    exact queue.timers_.sorted.filter _
  · intro i
    rw [ran_mem_iff, hran]
    exact mem_getExpired h.1 hcount
  · intro i t hi hle ht honce
    have hgone := hsettled i t hi hle ht
    rw [Settled, if_neg (by simp [honce])] at hgone
    exact takenOut_of_not_live hnext hgone
  · intro i t hi hle ht hrepeated j
    have hmem := hsettled i t hi hle ht
    rw [Settled, if_pos hrepeated] at hmem
    constructor
    · intro hboth
      rcases hboth with ⟨hj, hsame⟩
      exact hnext.eq_of_sequence hmem hj hsame
    · rintro rfl
      exact ⟨hmem, rfl⟩
  · intro i hi hundue
    apply hgrows.kept
    refine OrderedSet.mem_eraseBefore.mpr ⟨hi, ?_⟩
    intro hless
    have hdue := ((mem_getExpired h.1 hcount).mp
      (OrderedSet.mem_before.mpr ⟨hi, hless⟩)).2
    lia
  · exact hgrows.added

/--
One `HandleRead` runs the due timers and no others, in order, and settles each
of them, whatever its callbacks add; it fails no assertion on the way.
-/
theorem handleRead_runs_due {inputs : List Input} {queue : TimerQueue}
    {tr : List Event} {scripts : List (List Op)}
    (hrun : (QueueMachine clock).Run Init inputs = some (queue, tr))
    (hcount : queue.count_ < INT64_MAX)
    (hscripts : forall script, script ∈ scripts -> OnlyAdds script) :
    Ensures (HandleRead clock queue scripts) (fun next es =>
      RunsDue queue next (clock queue.readings) es) :=
  (handleRead_harmless (reached_sound hrun)).of_ok
    (fun _ _ hcall =>
      handleRead_runsDue_ok (reached_sound hrun) hcount hscripts hcall)

/-!
# A one-shot and a repeating timer

Both are due at 40, and the callback of the first one adds a third timer.
-/

theorem forty_nonneg (_ : true = true) : (0 : Int) ≤ 40 := by
  decide

def FortyMicroseconds : Seconds where
  positive := true
  micros := 40
  micros_nonneg := forty_nonneg

def OneOfEach : List Input :=
  [Input.op (Op.addTimer 1 (Request.runEvery FortyMicroseconds)),
    Input.op (Op.addTimer 2 (Request.runAt 20)), Input.timerExpires]

theorem handleRead_runs_due_of_each :
    exists queue tr next es,
      (QueueMachine TenMicroseconds).Run Init OneOfEach = some (queue, tr) ∧
      HandleRead TenMicroseconds queue
        [[Op.addTimer 3 (Request.runAt 100)]] = Except.ok (next, es) ∧
      es.length = 7 ∧
      RunsDue queue next (TenMicroseconds queue.readings) es := by
  refine ⟨_, _, _, _, rfl, rfl, rfl, ?_⟩
  have hensures := @handleRead_runs_due TenMicroseconds OneOfEach _ _
    [[Op.addTimer 3 (Request.runAt 100)]] rfl (by decide)
    (by simp [OnlyAdds])
  exact hensures

end Clock
end TimerQueue
end Reactor
end Wethands
