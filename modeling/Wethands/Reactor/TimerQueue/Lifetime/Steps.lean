import Wethands.Reactor.TimerQueue.Lifetime.Advances

/-!
# What each step does to the pointers

The parts of `AddTimer` and `CancelTimer` come first, each with the pointers
that its caller has moved before the call; the steps of the machine then only
say which pointers these are.
-/

namespace Wethands
namespace Reactor

open Foundation Utils

namespace TimerQueue

namespace Lifetime

section Clock

variable {clock : Nat -> Timestamp} {world mid next : World}
  {es : List Event} {timer : TimerIndex} {s : Nat}

/-!
# What the result of a step leaves
-/

/-- Where there is an answer, the state that it leaves has the property. -/
def Brings (Q : World -> Prop) (result : Result) : Prop :=
  forall next es, result = some (next, es) -> Q next

variable {Q : World -> Prop} {result : Result}

theorem brings_none : Brings Q none := by
  intro next es h
  cases h

theorem brings_some (h : Q next) : Brings Q (some (next, es)) := by
  intro last es' heq
  cases heq
  exact h

theorem brings_if {p : Prop} [Decidable p] (h : p -> Brings Q result) :
    Brings Q (if p then result else none) := by
  split
  · exact h ‹p›
  · exact brings_none

/-- A pointer that cannot be followed ends the run. -/
theorem brings_follow {e : Event}
    (haborted : Q { world with phase := Phase.aborted })
    (h : Valid world.queue timer -> Brings Q result) :
    Brings Q (Follow world timer e result) := by
  intro next es hnext
  unfold Follow at hnext
  split at hnext
  · rename_i hvalid
    rcases Option.map_eq_some_iff.mp hnext with ⟨⟨last, es'⟩, hlast, heq⟩
    cases heq
    exact h hvalid last es' hlast
  · cases hnext
    exact haborted

/-!
# The timers that have reached the loop
-/

theorem mem_arrived :
    s ∈ Arrived world <->
      (exists i, i ∈ world.queue.timers_ ∧ i.sequence_ = s) ∨
        exists i, (i ∈ Held world.batch ∨ i ∈ Left world.phase) ∧
          i.sequence_ = s := by
  unfold Arrived
  simp only [List.mem_map, List.mem_append, OrderedSet.mem_def]
  constructor
  · intro hexists
    rcases hexists with ⟨i, hset | haway, hseq⟩
    · exact Or.inl ⟨i, hset, hseq⟩
    · exact Or.inr ⟨i, haway, hseq⟩
  · rintro (⟨i, hset, hseq⟩ | ⟨i, haway, hseq⟩)
    · exact ⟨i, Or.inl hset, hseq⟩
    · exact ⟨i, Or.inr haway, hseq⟩

theorem arrived_of_set (hs : s ∈ Arrived world)
    (hbatch : next.batch = world.batch) (hphase : next.phase = world.phase)
    (hset : forall i, i ∈ world.queue.timers_ -> i ∈ next.queue.timers_) :
    s ∈ Arrived next := by
  rw [mem_arrived, hbatch, hphase]
  rcases mem_arrived.mp hs with ⟨i, hi, hseq⟩ | haway
  · exact Or.inl ⟨i, hset i hi, hseq⟩
  · exact Or.inr haway

/-!
# Parts of `AddTimer`
-/

theorem newTimer_eq_some {a : Address} {request : Request}
    (h : NewTimer clock world a request = some (next, timer)) :
    exists queue tr object,
      TimerQueue.NewTimer clock world.queue a request =
        Except.ok (queue, tr) ∧
      queue.heap a = some object ∧
      next = { world with queue := queue } ∧ timer = IndexOf a object := by
  unfold NewTimer at h
  split at h
  · cases h
  · rename_i queue tr hcall
    rcases Option.map_eq_some_iff.mp h with ⟨object, hobject, heq⟩
    cases heq
    exact ⟨queue, tr, object, hcall, hobject, rfl, rfl⟩

theorem newTimer_advances {made : World} {a : Address} {request : Request}
    (h : world.Sound) (hrunning : world.phase ≠ Phase.aborted)
    (hmade : NewTimer clock world a request = some (made, timer))
    (hqueue : next.queue = made.queue) (hphase : next.phase = world.phase)
    (hbatch : next.batch = world.batch)
    (howned : (Owned next).Perm (timer :: Owned world))
    (hunread : (Unread next).Perm (timer :: Unread world))
    (hcancels : Cancels next = Cancels world) :
    Advances world next [Event.constructed timer.sequence_] := by
  rcases newTimer_eq_some hmade with
    ⟨queue, tr, object, hcall, hobject, rfl, rfl⟩
  have honward := (newTimer_keeps h.sound hcall).2
  have hintact := h.newTimer hcall hobject
  rcases newTimer_eq_ok hcall with ⟨t, readings, _, _, _, heq⟩
  have hset : next.queue.timers_ = world.queue.timers_ := by
    rw [hqueue, heq]
  apply Advances.peaceful rfl
  · unfold World.Sound
    rw [hqueue, hcancels]
    exact hintact.1.perm howned hunread
  · rw [hphase]
    exact hrunning
  · rw [hqueue]
    exact honward.count_le
  · rw [hqueue]
    exact honward.live
  · simp
  · rintro s (hmem | hold)
    · simp at hmem
    · exact arrived_of_set hold hbatch hphase (by simp [hset])
  · intro i hi
    rw [hqueue] at hi
    exact Or.inl (hintact.2.2 ▸ hi)

theorem addTimerInLoop_advances (h : world.Sound)
    (hstep : AddTimerInLoop clock mid timer = some (next, es))
    (hrunning : mid.phase ≠ Phase.aborted)
    (hqueue : mid.queue = world.queue)
    (howned : (timer :: Owned mid).Perm (Owned world))
    (hunread : (Unread mid).Perm (Unread world))
    (hcancels : Cancels mid = Cancels world)
    (harrived : forall s, s ∈ Arrived world -> s ∈ Arrived mid) :
    Advances world next es := by
  have hmid : Intact mid.queue (timer :: Owned mid) (Unread mid)
      (Cancels mid) := by
    rw [hqueue, hcancels]
    exact h.perm howned hunread
  have hlive := hmid.ownedLive timer List.mem_cons_self
  rcases follow_eq_some hstep hlive with ⟨es', hresult, rfl⟩
  rcases inQueue_eq_some hresult with ⟨queue, tr, hcall, rfl, rfl⟩
  have honward := (addTimerInLoop_keeps hmid.sound hcall).2
  have hintact := hmid.addTimerInLoop hcall
  rcases addTimerInLoop_eq_ok hcall with
    ⟨t, timerfd, readings, armed, ht, hfind, heq, _, _⟩
  have hseq : t.sequence_ = timer.sequence_ :=
    liveAt_unique ⟨t, ht, rfl⟩ hlive
  have hset : forall i, i ∈ mid.queue.timers_ -> i ∈ queue.timers_ := by
    intro i hi
    rw [heq]
    exact (OrderedSet.mem_insert hfind).mpr (Or.inr hi)
  rw [hqueue] at honward hlive
  refine Advances.peaceful rfl hintact hrunning honward.count_le honward.live
    ?_ ?_ ?_
  · intro s hs
    simp only [List.mem_cons, Event.touched.injEq, List.not_mem_nil,
      reduceCtorEq, or_false] at hs
    rw [hs]
    exact ⟨_, hlive⟩
  · rintro s (hmem | hold)
    · -- The timer is in the set now.
      simp only [List.mem_cons, Event.reached.injEq, List.not_mem_nil,
        reduceCtorEq, or_false, false_or] at hmem
      rw [hmem]
      apply mem_arrived.mpr
      refine Or.inl ⟨IndexOf timer.timer_ t, ?_, hseq⟩
      rw [heq]
      exact (OrderedSet.mem_insert hfind).mpr (Or.inl rfl)
    · exact arrived_of_set (harrived s hold) rfl rfl hset
  · intro i hi
    rw [heq] at hi
    exact Or.inl (hqueue ▸ hi)

theorem readSequence_advances (h : world.Sound)
    (hstep : ReadSequence mid timer = some (next, es))
    (hrunning : mid.phase ≠ Phase.aborted)
    (hqueue : mid.queue = world.queue)
    (howned : (Owned mid).Perm (Owned world))
    (hunread : (timer :: Unread mid).Perm (Unread world))
    (hcancels : Cancels mid = Cancels world)
    (harrived : forall s, s ∈ Arrived world -> s ∈ Arrived mid) :
    Advances world next es := by
  have hmid : Intact mid.queue (Owned mid) (timer :: Unread mid)
      (Cancels mid) := by
    rw [hqueue, hcancels]
    exact h.perm howned hunread
  have hlive := hmid.unreadLive timer List.mem_cons_self
  rcases follow_eq_some hstep hlive with ⟨es', hresult, rfl⟩
  rcases Option.map_eq_some_iff.mp hresult with ⟨object, hobject, heq⟩
  have hseq : object.sequence_ = timer.sequence_ :=
    liveAt_unique ⟨object, hobject, rfl⟩ hlive
  rw [hseq] at heq
  cases heq
  rw [hqueue] at hlive
  apply Advances.peaceful rfl
  · exact hmid.issue
  · exact hrunning
  · rw [hqueue]
  · intro a s hs
    exact Or.inl (hqueue ▸ hs)
  · intro s hs
    simp only [List.mem_cons, Event.touched.injEq, List.not_mem_nil,
      reduceCtorEq, or_false] at hs
    rw [hs]
    exact ⟨_, hlive⟩
  · rintro s (hmem | hold)
    · simp at hmem
    · exact arrived_of_set (harrived s hold) rfl rfl (fun i hi => hi)
  · intro i hi
    rcases List.mem_cons.mp hi with rfl | hold
    · right
      simp
    · exact Or.inl (hqueue ▸ hold)

/-!
# Deleting a timer
-/

def Precedes (world : World) (timer : TimerIndex) (e : Event) : Prop :=
  e = Event.touched timer.sequence_ ∨
    e = Event.cancelled timer (some timer.sequence_) ∧
      timer ∈ world.queue.issued

theorem not_deleted_of_precedes (h : Precedes world timer (Event.deleted s)) :
    False := by
  rcases h with heq | ⟨heq, _⟩
  · cases heq
  · cases heq

theorem clean_of_last {before : List Event}
    (hbefore : forall s, Event.deleted s ∉ before) :
    Clean (before ++ [Event.deleted s]) := by
  intro other earlier after hsplit
  have hnil : after = [] := by
    rcases split_append hsplit with
      ⟨mid, hfirst, _⟩ | ⟨mid, _, hlast⟩
    · exact absurd (by rw [hfirst]; simp) (hbefore other)
    · cases mid with
      | nil => exact (List.cons.inj hlast).2.symm
      | cons e mid => simp at hlast
  rw [hnil]
  constructor <;> exact List.not_mem_nil

theorem Advances.deleting {before : List Event} (h : world.Sound)
    (hlive : LiveAt world.queue timer.timer_ timer.sequence_)
    (hsound : next.Sound) (hrunning : next.phase ≠ Phase.aborted)
    (hcount : next.queue.count_ = world.queue.count_)
    (hheap : next.queue.heap =
      Function.update world.queue.heap timer.timer_ none)
    (hissued : next.queue.issued = world.queue.issued)
    (hbefore : forall e, e ∈ before -> Precedes world timer e)
    (harrived : forall s, s ∈ Arrived world ->
      s = timer.sequence_ ∨ s ∈ Arrived next) :
    Advances world next (before ++ [Event.deleted timer.sequence_]) := by
  have hseen : forall e, e ∈ before ++ [Event.deleted timer.sequence_] ->
      Precedes world timer e ∨ e = Event.deleted timer.sequence_ := by
    intro e he
    rcases List.mem_append.mp he with hearlier | hlast
    · exact Or.inl (hbefore e hearlier)
    · exact Or.inr (List.mem_singleton.mp hlast)
  have hdeleted : forall s,
      Event.deleted s ∈ before ++ [Event.deleted timer.sequence_] ->
      s = timer.sequence_ := by
    intro s hs
    rcases hseen _ hs with hprecedes | heq
    · exact (not_deleted_of_precedes hprecedes).elim
    · exact Event.deleted.inj heq
  constructor
  · exact hsound
  · exact hrunning
  · exact Nat.le_of_eq hcount.symm
  · intro a s hs
    exact Or.inl ((liveAt_delete hheap).mp hs).2
  · rintro s (htouched | hmem)
    · rcases hseen _ htouched with (heq | ⟨heq, _⟩) | heq
      · cases heq
        exact ⟨_, hlive⟩
      · cases heq
      · cases heq
    · rw [hdeleted s hmem]
      exact ⟨_, hlive⟩
  · intro s hmem a ha
    rw [hdeleted s hmem] at ha
    rcases (liveAt_delete hheap).mp ha with ⟨hne, hold⟩
    exact hne (h.sound.1.sequence_inj _ _ _ hold hlive)
  · apply clean_of_last
    intro s hmem
    exact not_deleted_of_precedes (hbefore _ hmem)
  · rintro s (hreached | hold)
    · rcases hseen _ hreached with (heq | ⟨heq, _⟩) | heq
      · cases heq
      · cases heq
      · cases heq
    · rcases harrived s hold with rfl | hstays
      · exact Or.inl (by simp)
      · exact Or.inr hstays
  · intro i hi
    exact Or.inl (hissued ▸ hi)
  · intro i s hmem
    rcases hseen _ hmem with (heq | ⟨heq, hold⟩) | heq
    · cases heq
    · cases heq
      exact ⟨hold, rfl⟩
    · cases heq

theorem arrived_unless (hs : s ∈ Arrived world)
    (hset : next.queue.timers_ = world.queue.timers_)
    (haway : forall i, i ∈ Held world.batch ∨ i ∈ Left world.phase ->
      i = timer ∨ i ∈ Held next.batch ∨ i ∈ Left next.phase) :
    s = timer.sequence_ ∨ s ∈ Arrived next := by
  rcases mem_arrived.mp hs with ⟨i, hi, hseq⟩ | ⟨i, hi, hseq⟩
  · rw [← hset] at hi
    exact Or.inr (mem_arrived.mpr (Or.inl ⟨i, hi, hseq⟩))
  · rcases haway i hi with rfl | hstays
    · exact Or.inl hseq.symm
    · exact Or.inr (mem_arrived.mpr (Or.inr ⟨i, hstays, hseq⟩))

theorem cancelEvents_of_find_none {queue : TimerQueue}
    (hfind : queue.timers_.Find timer = none) :
    CancelEvents queue timer = [Event.cancelled timer none] := by
  simp [CancelEvents, hfind]

theorem cancelEvents_of_mem {queue : TimerQueue} (hmem : timer ∈ queue.timers_)
    (hlive : LiveAt queue timer.timer_ timer.sequence_) :
    CancelEvents queue timer =
      [Event.cancelled timer (some timer.sequence_),
        Event.deleted timer.sequence_] := by
  rcases hlive with ⟨object, hobject, hseq⟩
  cases hfind : queue.timers_.Find timer with
  | none =>
      have hnot := OrderedSet.find_eq_none.mp hfind timer hmem
      exact absurd (equivalent_iff.mpr ⟨rfl, rfl⟩) hnot
  | some found => simp [CancelEvents, hfind, hobject, hseq]

theorem cancelTimerInLoop_advances (h : world.Sound)
    (hstep : CancelTimerInLoop mid timer = some (next, es))
    (hrunning : mid.phase ≠ Phase.aborted)
    (hqueue : mid.queue = world.queue) (howned : Owned mid = Owned world)
    (hunread : Unread mid = Unread world)
    (hcancels : forall i, i ∈ Cancels mid -> i ∈ Cancels world)
    (harrived : forall s, s ∈ Arrived world -> s ∈ Arrived mid)
    (hcirculates : Circulates world.queue timer) :
    Advances world next es := by
  have hmid : Intact mid.queue (Owned mid) (Unread mid) (Cancels mid) := by
    rw [hqueue, howned, hunread]
    exact { h with circulates := fun i hi => h.circulates i (hcancels i hi) }
  rw [← hqueue] at hcirculates
  rcases cancelTimerInLoop_ok hmid.sound hcirculates with
    ⟨queue, tr, hcall⟩
  unfold CancelTimerInLoop at hstep
  rw [hcall] at hstep
  cases hstep
  have hcancel := hmid.cancel hcirculates hcall
  rcases hcancel with
    ⟨hintact, ⟨hfind, rfl⟩ | ⟨hmem, hissued, hlive, hnext⟩⟩
  · rw [cancelEvents_of_find_none hfind]
    refine Advances.peaceful rfl hintact hrunning (by rw [hqueue]) ?_
      (by simp) ?_ ?_
    · intro a s hs
      exact Or.inl (hqueue ▸ hs)
    · rintro s (hreached | hold)
      · simp at hreached
      · exact harrived s hold
    · intro i hi
      exact Or.inl (hqueue ▸ hi)
  · rw [cancelEvents_of_mem hmem hlive]
    have hset : forall i, i ∈ mid.queue.timers_ ->
        i.sequence_ = timer.sequence_ ∨ i ∈ queue.timers_ := by
      intro i hi
      by_cases hsame : i.sequence_ = timer.sequence_
      · exact Or.inl hsame
      · right
        rw [hnext]
        refine OrderedSet.mem_erase.mpr ⟨hi, fun hequiv => ?_⟩
        exact hsame (equivalent_iff.mp hequiv).2
    rw [hqueue] at hlive hissued
    show Advances world _
      ([Event.cancelled timer (some timer.sequence_)] ++
        [Event.deleted timer.sequence_])
    apply Advances.deleting h hlive
    · exact hintact
    · exact hrunning
    · rw [hnext, hqueue]
    · rw [hnext, hqueue]
    · rw [hnext, hqueue]
    · intro e he
      rw [List.mem_singleton.mp he]
      exact Or.inr ⟨rfl, hissued⟩
    · intro s hs
      rcases mem_arrived.mp (harrived s hs) with ⟨i, hi, hseq⟩ | haway
      · rcases hset i hi with hsame | hstays
        · exact Or.inl (hseq.symm.trans hsame)
        · exact Or.inr (mem_arrived.mpr (Or.inl ⟨i, hstays, hseq⟩))
      · exact Or.inr (mem_arrived.mpr (Or.inr haway))

/-!
# Steps of other threads
-/

theorem remoteNewTimer_advances (h : world.Sound)
    (hrunning : world.phase ≠ Phase.aborted) {a : Address}
    {request : Request}
    (hstep : RemoteNewTimer clock world a request = some (next, es)) :
    Advances world next es := by
  unfold RemoteNewTimer at hstep
  split at hstep
  · cases hstep
  · rcases Option.map_eq_some_iff.mp hstep with ⟨⟨made, i⟩, hmade, heq⟩
    cases heq
    rcases newTimer_eq_some hmade with ⟨queue, tr, object, _, _, rfl, rfl⟩
    apply newTimer_advances h hrunning hmade
    · rfl
    · rfl
    · rfl
    · apply List.perm_iff_count.mpr
      intro j
      simp only [Owned, List.count_append, List.count_cons]
      omega
    · apply List.perm_iff_count.mpr
      intro j
      simp only [Unread, List.count_append, List.count_cons]
      omega
    · rfl

theorem remoteReadSequence_advances (h : world.Sound)
    (hrunning : world.phase ≠ Phase.aborted)
    (hstep : RemoteReadSequence world timer = some (next, es)) :
    Advances world next es := by
  unfold RemoteReadSequence at hstep
  split at hstep
  · rename_i hmem
    refine readSequence_advances h hstep ?_ rfl (List.Perm.refl _) ?_ rfl
      (fun s hs => hs)
    · exact hrunning
    · apply List.perm_iff_count.mpr
      intro j
      have hcount := (List.perm_cons_erase hmem).count_eq j
      simp only [List.count_cons] at hcount
      simp only [Unread, List.count_append, List.count_cons]
      omega
  · cases hstep

theorem remoteRunInLoop_advances (h : world.Sound)
    (hrunning : world.phase ≠ Phase.aborted) {timer : TimerIndex}
    (hstep : RemoteRunInLoop world timer = some (next, es)) :
    Advances world next es := by
  unfold RemoteRunInLoop at hstep
  split at hstep
  · rename_i hmem
    cases hstep
    have hperm := List.perm_cons_erase hmem.1
    refine Advances.handed ?_ hrunning rfl (fun s hs => hs)
    have hcancels : (world.functors ++
        [Functor.addTimerInLoop timer]).filterMap Functor.Cancels? =
          world.functors.filterMap Functor.Cancels? := by
      simp [Functor.Cancels?]
    unfold World.Sound Cancels
    rw [hcancels]
    refine h.perm ?_ ?_
    · apply List.perm_iff_count.mpr
      intro i
      have hcount := hperm.count_eq i
      simp only [List.count_cons] at hcount
      simp only [Owned, List.filterMap_append, List.count_append,
        List.filterMap_cons, List.filterMap_nil, Functor.Adds?,
        List.count_cons, List.count_nil]
      omega
    · apply List.perm_iff_count.mpr
      intro i
      have hcount := hperm.count_eq i
      simp only [List.count_cons] at hcount
      simp only [Unread, List.count_append, List.count_cons]
      omega
  · cases hstep

theorem remoteCancelTimer_advances (h : world.Sound)
    (hrunning : world.phase ≠ Phase.aborted) {timerIndex : TimerIndex}
    (hstep : RemoteCancelTimer world timerIndex = some (next, es)) :
    Advances world next es := by
  unfold RemoteCancelTimer at hstep
  split at hstep
  · rename_i hcirculates
    cases hstep
    refine Advances.handed ?_ hrunning rfl (fun s hs => hs)
    have hadds : (world.functors ++
        [Functor.cancelTimerInLoop timerIndex]).filterMap Functor.Adds? =
          world.functors.filterMap Functor.Adds? := by
      simp [Functor.Adds?]
    unfold World.Sound Owned
    rw [hadds]
    refine ⟨h.sound, h.ownedLive, h.unreadLive, h.once, h.unissued, ?_,
      h.grounded⟩
    intro i hi
    simp only [Cancels, List.filterMap_append] at hi
    rcases List.mem_append.mp hi with hold | hnew
    · exact h.circulates i hold
    · simp only [List.filterMap_cons, Functor.Cancels?, List.filterMap_nil,
        List.mem_singleton] at hnew
      rw [hnew]
      exact hcirculates.1
  · cases hstep

/-!
# Steps of the loop thread
-/

theorem loopNewTimer_advances (h : world.Sound)
    (hrunning : world.phase ≠ Phase.aborted) {a : Address}
    {request : Request}
    (hstep : LoopNewTimer clock world a request = some (next, es)) :
    Advances world next es := by
  unfold LoopNewTimer at hstep
  split at hstep
  · rename_i hfree
    rcases Option.map_eq_some_iff.mp hstep with ⟨⟨made, i⟩, hmade, heq⟩
    cases heq
    rcases newTimer_eq_some hmade with ⟨queue, tr, object, _, _, rfl, rfl⟩
    have hadding : world.adding = none := hfree.2
    apply newTimer_advances h hrunning hmade
    · rfl
    · rfl
    · rfl
    · apply List.perm_iff_count.mpr
      intro j
      simp only [Owned, Constructed, hadding, List.count_append,
        List.count_cons, List.count_nil]
      omega
    · simp [Unread, Unreturned, hadding]
    · rfl
  · cases hstep

theorem loopRunInLoop_advances (h : world.Sound)
    (hstep : LoopRunInLoop clock world = some (next, es)) :
    Advances world next es := by
  unfold LoopRunInLoop at hstep
  split at hstep
  · rename_i timer hphase hadding
    refine addTimerInLoop_advances h hstep ?_ rfl ?_ ?_ rfl (fun s hs => hs)
    · simp [hphase]
    · apply List.perm_iff_count.mpr
      intro j
      simp only [Owned, Constructed, hadding, List.count_append,
        List.count_cons, List.count_nil]
      omega
    · simp [Unread, Unreturned, hadding]
  · cases hstep

theorem loopReadSequence_advances (h : world.Sound)
    (hstep : LoopReadSequence world = some (next, es)) :
    Advances world next es := by
  unfold LoopReadSequence at hstep
  split at hstep
  · rename_i timer hphase hadding
    refine readSequence_advances h hstep ?_ rfl ?_ ?_ rfl (fun s hs => hs)
    · simp [hphase]
    · simp [Owned, Constructed, hadding]
    · simp [Unread, Unreturned, hadding]
  · cases hstep

theorem loopCancelTimer_advances (h : world.Sound)
    (hrunning : world.phase ≠ Phase.aborted)
    (hstep : LoopCancelTimer world timer = some (next, es)) :
    Advances world next es := by
  unfold LoopCancelTimer at hstep
  split at hstep
  · rename_i hcirculates
    exact cancelTimerInLoop_advances h hstep hrunning rfl rfl rfl
      (fun i hi => hi) (fun s hs => hs) hcirculates.2
  · cases hstep

theorem runFunctor_advances (h : world.Sound)
    (hrunning : world.phase ≠ Phase.aborted)
    (hstep : RunFunctor clock world = some (next, es)) :
    Advances world next es := by
  unfold RunFunctor at hstep
  split at hstep
  · split at hstep
    · cases hstep
    · rename_i timer rest hfunctors
      refine addTimerInLoop_advances h hstep ?_ rfl ?_ (List.Perm.refl _) ?_
        (fun s hs => hs)
      · exact hrunning
      · apply List.perm_iff_count.mpr
        intro j
        simp only [Owned, hfunctors, List.filterMap_cons, Functor.Adds?,
          List.count_append, List.count_cons]
        omega
      · simp [Cancels, hfunctors, List.filterMap_cons, Functor.Cancels?]
    · rename_i timerIndex rest hfunctors
      have hcancels : Cancels world = timerIndex ::
          Cancels { world with functors := rest } := by
        simp [Cancels, hfunctors, Functor.Cancels?]
      refine cancelTimerInLoop_advances h hstep ?_ rfl ?_ rfl ?_
        (fun s hs => hs) ?_
      · exact hrunning
      · simp [Owned, hfunctors, List.filterMap_cons, Functor.Adds?]
      · intro i hi
        rw [hcancels]
        exact List.mem_cons_of_mem _ hi
      · apply h.circulates
        rw [hcancels]
        exact List.mem_cons_self
  · cases hstep

/-!
# Steps of `HandleRead`
-/

theorem handleRead_advances (h : world.Sound)
    (hrunning : world.phase ≠ Phase.aborted)
    (hstep : HandleRead clock world = some (next, es)) :
    Advances world next es := by
  unfold HandleRead at hstep
  split at hstep
  · rename_i hidle
    have hbatch : world.batch = none := hidle.2
    cases hstep
    have hintact := h.getExpired (clock world.queue.readings)
      (ReadTimerfd world.queue.timerfd_) (world.queue.readings + 1)
    apply Advances.peaceful rfl
    · unfold World.Sound
      have howned : Owned world = Constructed world.adding ++
          (world.creating ++ (world.functors.filterMap Functor.Adds? ++
            Left world.phase)) := by
        simp [Owned, Held, hbatch]
      rw [howned] at hintact
      exact hintact
    · exact hrunning
    · exact Nat.le_refl _
    · intro a s hs
      exact Or.inl hs
    · simp
    · rintro s (hreached | hold)
      · simp at hreached
      · -- An expired timer is in the batch now.
        rcases mem_arrived.mp hold with ⟨i, hi, hseq⟩ | ⟨i, haway, hseq⟩
        · by_cases hless : TimerIndex.Less i
            (Sentry (clock world.queue.readings))
          · refine mem_arrived.mpr (Or.inr ⟨i, Or.inl ?_, hseq⟩)
            exact OrderedSet.mem_before.mpr ⟨hi, hless⟩
          · refine mem_arrived.mpr (Or.inl ⟨i, ?_, hseq⟩)
            exact OrderedSet.mem_eraseBefore.mpr ⟨hi, hless⟩
        · rcases haway with hheld | hleft
          · simp [Held, hbatch] at hheld
          · exact mem_arrived.mpr (Or.inr ⟨i, Or.inr hleft, hseq⟩)
    · intro i hi
      exact Or.inl hi
  · cases hstep

theorem runTimer_advances (h : world.Sound)
    (hrunning : world.phase ≠ Phase.aborted)
    (hstep : RunTimer world = some (next, es)) :
    Advances world next es := by
  unfold RunTimer at hstep
  split at hstep
  · rename_i now timer rest hbatch
    split at hstep
    · have hheld : Held world.batch =
          Held (some ⟨now, some timer, rest⟩) := by
        simp [Held, hbatch]
      have howned : Owned world = Owned
          { world with batch := some ⟨now, some timer, rest⟩ } := by
        unfold Owned
        rw [hheld]
      have hlive : LiveAt world.queue timer.timer_ timer.sequence_ := by
        apply h.ownedLive
        rw [howned]
        simp [Owned, Held]
      rcases follow_eq_some hstep hlive with ⟨es', hresult, rfl⟩
      cases hresult
      apply Advances.peaceful rfl
      · unfold World.Sound
        rw [← howned]
        exact h
      · exact hrunning
      · exact Nat.le_refl _
      · intro a s hs
        exact Or.inl hs
      · intro s hs
        cases List.mem_singleton.mp hs
        exact ⟨_, hlive⟩
      · rintro s (hreached | hold)
        · simp at hreached
        · unfold Arrived at hold ⊢
          rw [hheld] at hold
          exact hold
      · intro i hi
        exact Or.inl hi
    · cases hstep
  · cases hstep

theorem restartTimer_advances {now : Timestamp} {rest : List TimerIndex}
    {object : Timer} {queue : TimerQueue} {tr : List TimerQueue.Event}
    (h : world.Sound) (hrunning : world.phase ≠ Phase.aborted)
    (hbatch : world.batch = some ⟨now, some timer, rest⟩)
    (hobject : world.queue.heap timer.timer_ = some object)
    (hcall : TimerQueue.AddTimerInLoop clock
      { world.queue with
        heap := Function.update world.queue.heap timer.timer_
          (some (object.Restart now)) } timer.timer_ =
      Except.ok (queue, tr)) :
    Advances world
      { world with queue := queue, batch := some ⟨now, none, rest⟩ }
      [Event.touched timer.sequence_, Event.touched timer.sequence_] := by
  have howned : Owned world = timer :: Owned
      { world with queue := queue, batch := some ⟨now, none, rest⟩ } := by
    simp [Owned, Held, hbatch]
  have hworld : Intact world.queue (timer :: Owned
      { world with queue := queue, batch := some ⟨now, none, rest⟩ })
      (Unread world) (Cancels world) := by
    rw [← howned]
    exact h
  have hlive := hworld.ownedLive timer List.mem_cons_self
  have hrestart := hworld.restart hobject now
  have honward := (restart_keeps hworld.sound hobject now).2.trans
    (addTimerInLoop_keeps hrestart.sound hcall).2
  have hintact := hrestart.addTimerInLoop hcall
  rcases addTimerInLoop_eq_ok hcall with
    ⟨t, timerfd, readings, armed, ht, hfind, heq, _, _⟩
  have hseq : t.sequence_ = timer.sequence_ :=
    liveAt_unique ⟨t, ht, rfl⟩
      (hrestart.ownedLive timer List.mem_cons_self)
  apply Advances.peaceful rfl
  · exact hintact
  · exact hrunning
  · exact honward.count_le
  · exact honward.live
  · intro s hs
    simp only [List.mem_cons, Event.touched.injEq, List.not_mem_nil,
      or_false, or_self] at hs
    rw [hs]
    exact ⟨_, hlive⟩
  · rintro s (hreached | hold)
    · simp at hreached
    · apply mem_arrived.mpr
      rcases mem_arrived.mp hold with ⟨i, hi, hset⟩ | ⟨i, haway, hset⟩
      · refine Or.inl ⟨i, ?_, hset⟩
        rw [heq]
        exact (OrderedSet.mem_insert hfind).mpr (Or.inr hi)
      · simp only [Held, hbatch, Option.toList_some, List.cons_append,
          List.nil_append, List.mem_cons] at haway
        rcases haway with (rfl | hrest) | hleft
        · -- The timer that ran is in the set again.
          refine Or.inl ⟨IndexOf i.timer_ t, ?_, hseq.trans hset⟩
          rw [heq]
          exact (OrderedSet.mem_insert hfind).mpr (Or.inl rfl)
        · exact Or.inr ⟨i, Or.inl hrest, hset⟩
        · exact Or.inr ⟨i, Or.inr hleft, hset⟩
  · intro i hi
    rw [heq] at hi
    exact Or.inl hi

theorem finishTimer_advances (h : world.Sound)
    (hrunning : world.phase ≠ Phase.aborted)
    (hread : ReadFirst world Input.finishTimer)
    (hstep : FinishTimer clock world = some (next, es)) :
    Advances world next es := by
  unfold FinishTimer at hstep
  split at hstep
  · rename_i now timer rest hbatch
    split at hstep
    · have howned : Owned world = timer :: Owned
          { world with batch := some ⟨now, none, rest⟩ } := by
        simp [Owned, Held, hbatch]
      have hworld : Intact world.queue (timer :: Owned
          { world with batch := some ⟨now, none, rest⟩ })
          (Unread world) (Cancels world) := by
        rw [← howned]
        exact h
      have hlive := hworld.ownedLive timer List.mem_cons_self
      rcases follow_eq_some hstep hlive with ⟨es', hresult, rfl⟩
      rcases inQueue_eq_some hresult with ⟨queue, tr, hcall, rfl, rfl⟩
      rcases hlive with ⟨object, hobject, hseq⟩
      unfold RestartOrDelete at hcall
      simp only [hobject] at hcall
      cases hrepeated : object.repeated_ with
      | true =>
          rw [hrepeated, if_pos rfl] at hcall
          have hends : EndsWithCallback world.queue timer = false := by
            simp [EndsWithCallback, hobject, hrepeated]
          rw [hends]
          exact restartTimer_advances h hrunning hbatch hobject hcall
      | false =>
          rw [hrepeated] at hcall
          have hends : EndsWithCallback world.queue timer = true := by
            simp [EndsWithCallback, hobject, hrepeated]
          rw [hends, if_pos rfl]
          have hunread := hread timer (by simp [Deletes?, hbatch, hends])
          have hdeleted := delete_eq_ok hcall
          show Advances world _
            ([Event.touched timer.sequence_] ++
              [Event.deleted timer.sequence_])
          apply Advances.deleting h ⟨object, hobject, hseq⟩
          · exact hworld.delete hcall hunread
          · exact hrunning
          · rw [hdeleted.2]
          · rw [hdeleted.2]
          · rw [hdeleted.2]
          · intro e he
            exact Or.inl (List.mem_singleton.mp he)
          · intro s hs
            apply arrived_unless hs
            · rw [hdeleted.2]
            · intro i haway
              simp only [Held, hbatch, Option.toList_some, List.cons_append,
                List.nil_append, List.mem_cons] at haway
              rcases haway with (hsame | hrest) | hleft
              · exact Or.inl hsame
              · exact Or.inr (Or.inl hrest)
              · exact Or.inr (Or.inr hleft)
    · cases hstep
  · cases hstep

theorem finishRead_advances (h : world.Sound)
    (hrunning : world.phase ≠ Phase.aborted)
    (hstep : FinishRead clock world = some (next, es)) :
    Advances world next es := by
  unfold FinishRead at hstep
  split at hstep
  · rename_i now hbatch
    split at hstep
    · cases hstep
      have hheld : Held world.batch = Held none := by
        simp [Held, hbatch]
      rcases rearm_frame clock world.queue with
        ⟨timerfd, readings, tr, hrearm, _⟩
      apply Advances.peaceful rfl
      · have hintact : Intact (Rearm clock world.queue).1 (Owned world)
            (Unread world) (Cancels world) := h.rearm
        unfold Owned at hintact
        rw [hheld] at hintact
        exact hintact
      · exact hrunning
      · rw [hrearm]
      · rw [hrearm]
        intro a s hs
        exact Or.inl hs
      · simp
      · rintro s (hreached | hold)
        · simp at hreached
        · unfold Arrived at hold ⊢
          rw [hheld] at hold
          rw [hrearm]
          exact hold
      · rw [hrearm]
        intro i hi
        exact Or.inl hi
    · cases hstep
  · cases hstep

/-!
# Steps of the destructor
-/

theorem destroy_advances (h : world.Sound)
    (hstep : Destroy world = some (next, es)) :
    Advances world next es := by
  unfold Destroy at hstep
  split at hstep
  · rename_i hidle
    have hphase : world.phase = Phase.serving := hidle.1.1
    cases hstep
    apply Advances.peaceful rfl
    · unfold World.Sound
      have hintact := h.takeAll
      apply hintact.perm
      · apply List.perm_iff_count.mpr
        intro j
        simp only [Owned, Left, hphase, List.count_append, List.count_nil]
        omega
      · exact List.Perm.refl _
    · simp
    · exact Nat.le_refl _
    · intro a s hs
      exact Or.inl hs
    · simp
    · rintro s (hreached | hold)
      · simp at hreached
      · rcases mem_arrived.mp hold with ⟨i, hi, hseq⟩ | ⟨i, haway, hseq⟩
        · exact mem_arrived.mpr (Or.inr ⟨i, Or.inr hi, hseq⟩)
        · rcases haway with hheld | hleft
          · exact mem_arrived.mpr (Or.inr ⟨i, Or.inl hheld, hseq⟩)
          · simp [Left, hphase] at hleft
    · intro i hi
      exact Or.inl hi
  · cases hstep

theorem destroyNext_advances (h : world.Sound)
    (hread : ReadFirst world Input.destroyNext)
    (hstep : DestroyNext world = some (next, es)) :
    Advances world next es := by
  unfold DestroyNext at hstep
  split at hstep
  · rename_i timer left hphase
    have hworld : Intact world.queue (timer :: Owned
        { world with phase := Phase.destroying left })
        (Unread world) (Cancels world) := by
      apply h.perm _ (List.Perm.refl _)
      apply List.perm_iff_count.mpr
      intro j
      simp only [Owned, Left, hphase, List.count_append, List.count_cons]
      omega
    have hlive := hworld.ownedLive timer List.mem_cons_self
    have hunread := hread timer (by simp [Deletes?, hphase])
    rcases follow_eq_some hstep hlive with ⟨es', hresult, rfl⟩
    rcases inQueue_eq_some hresult with ⟨queue, tr, hcall, rfl, rfl⟩
    have hdeleted := delete_eq_ok hcall
    show Advances world _ ([] ++ [Event.deleted timer.sequence_])
    apply Advances.deleting h hlive
    · exact hworld.delete hcall hunread
    · simp
    · rw [hdeleted.2]
    · rw [hdeleted.2]
    · rw [hdeleted.2]
    · simp
    · intro s hs
      apply arrived_unless hs
      · rw [hdeleted.2]
      · intro i haway
        simp only [Left, hphase, List.mem_cons] at haway
        rcases haway with hheld | hsame | hleft
        · exact Or.inr (Or.inl hheld)
        · exact Or.inl hsame
        · exact Or.inr (Or.inr hleft)
  · cases hstep

theorem destroyEnd_advances (h : world.Sound)
    (hstep : DestroyEnd world = some (next, es)) :
    Advances world next es := by
  unfold DestroyEnd at hstep
  split at hstep
  · rename_i hphase
    cases hstep
    refine Advances.handed ?_ (by simp) rfl ?_
    · have hsame : Owned { world with phase := Phase.destroyed } =
          Owned world := by
        simp [Owned, Left, hphase]
      unfold World.Sound
      rw [hsame]
      exact h
    · intro s hs
      simpa [Arrived, Left, hphase] using hs
  · cases hstep

/-!
# All steps
-/

theorem perform_advances {i : Input} (h : world.Sound)
    (hrunning : world.phase ≠ Phase.aborted) (hread : ReadFirst world i)
    (hstep : Perform clock world i = some (next, es)) :
    Advances world next es := by
  cases i with
  | remoteNewTimer timer request =>
      exact remoteNewTimer_advances h hrunning hstep
  | remoteRunInLoop timer => exact remoteRunInLoop_advances h hrunning hstep
  | remoteReadSequence timer =>
      exact remoteReadSequence_advances h hrunning hstep
  | remoteCancelTimer timerIndex =>
      exact remoteCancelTimer_advances h hrunning hstep
  | loopNewTimer timer request =>
      exact loopNewTimer_advances h hrunning hstep
  | loopRunInLoop => exact loopRunInLoop_advances h hstep
  | loopReadSequence => exact loopReadSequence_advances h hstep
  | loopCancelTimer timerIndex =>
      exact loopCancelTimer_advances h hrunning hstep
  | runFunctor => exact runFunctor_advances h hrunning hstep
  | handleRead => exact handleRead_advances h hrunning hstep
  | runTimer => exact runTimer_advances h hrunning hstep
  | finishTimer => exact finishTimer_advances h hrunning hread hstep
  | finishRead => exact finishRead_advances h hrunning hstep
  | destroy => exact destroy_advances h hstep
  | destroyNext => exact destroyNext_advances h hread hstep
  | destroyEnd => exact destroyEnd_advances h hstep

end Clock
end Lifetime
end TimerQueue
end Reactor
end Wethands
