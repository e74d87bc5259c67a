import Wethands.Reactor.TimerQueue.Steps

/-!
# The expired timers of one `HandleRead`

`GetExpired` takes the batch out of the set before any callback runs.  From
then on the running code holds those timers, and nothing that a callback does
reaches them.
-/

namespace Wethands
namespace Reactor

open Foundation Utils

namespace TimerQueue

section Clock

variable {clock : Nat -> Timestamp}

/-!
# Timers in hand are out of reach
-/

def Holds (queue next : TimerQueue) (hands : List Address) : Prop :=
  forall a, a ∈ hands -> next.heap a = queue.heap a

theorem Holds.trans {queue mid next : TimerQueue} {hands : List Address}
    (first : Holds queue mid hands) (second : Holds mid next hands) :
    Holds queue next hands :=
  fun a ha => (second a ha).trans (first a ha)

theorem Holds.liveAt {queue next : TimerQueue} {hands : List Address}
    (h : Holds queue next hands) {a : Address} {s : Nat} (ha : a ∈ hands)
    (hlive : LiveAt queue a s) : LiveAt next a s := by
  rcases hlive with ⟨t, ht, hseq⟩
  exact ⟨t, (h a ha).trans ht, hseq⟩

theorem addTimerInLoop_heap {queue next : TimerQueue} {a : Address}
    {es : List Event}
    (hcall : AddTimerInLoop clock queue a = Except.ok (next, es)) :
    next.heap = queue.heap := by
  rcases addTimerInLoop_eq_ok hcall with ⟨_, _, _, _, _, _, rfl, _, _⟩
  rfl

theorem newTimer_holds {queue next : TimerQueue} {a : Address}
    {request : Request} {hands : List Address} {es : List Event}
    (h : Sound queue hands)
    (hcall : NewTimer clock queue a request = Except.ok (next, es)) :
    Holds queue next hands := by
  rcases newTimer_eq_ok hcall with ⟨t, readings, hfree, _, _, rfl⟩
  intro b hb
  have hne : b ≠ a := by
    rintro rfl
    rcases h.1.hand_live hb with ⟨u, hu⟩
    rw [hfree] at hu
    cases hu
  exact Function.update_of_ne hne _ _

theorem cancelTimerInLoop_holds {queue next : TimerQueue} {i : TimerIndex}
    {hands : List Address} {es : List Event}
    (h : Sound queue hands) (hi : Circulates queue i)
    (hcall : CancelTimerInLoop queue i = Except.ok (next, es)) :
    Holds queue next hands := by
  rcases cancelTimerInLoop_eq_ok hcall with
    ⟨_, ⟨_, rfl⟩ | ⟨found, hfind, rfl⟩⟩
  · exact fun a _ => rfl
  · have hfound := find_of_circulates h hi hfind
    subst hfound
    intro b hb
    have hne : b ≠ found.timer_ := by
      rintro rfl
      apply h.1.not_outside (OrderedSet.find_eq_some hfind).1
      simp only [Outside, List.mem_append]
      exact Or.inl (Or.inl hb)
    exact Function.update_of_ne hne _ _

theorem runOp_holds {queue next : TimerQueue} {op : Op}
    {hands : List Address} {es : List Event}
    (h : Sound queue hands)
    (hcall : RunOp clock queue op = Except.ok (next, es)) :
    Holds queue next hands := by
  cases op with
  | addTimer timer request =>
      rcases then_eq_ok.mp hcall with ⟨made, _, _, hnew, hrest, _⟩
      rcases then_eq_ok.mp hrest with ⟨added, _, _, hadd, hissue, _⟩
      rcases issue_eq_ok hissue with ⟨u, _, _, rfl⟩
      intro b hb
      rw [← newTimer_holds h hnew b hb, ← addTimerInLoop_heap hadd]
  | cancelTimer timerIndex =>
      simp only [RunOp, CancelTimer] at hcall
      split at hcall
      · exact cancelTimerInLoop_holds h ‹_› hcall
      · cases hcall
  | remoteNewTimer timer request =>
      simp only [RunOp, RemoteNewTimer] at hcall
      rcases then_eq_ok.mp hcall with ⟨made, _, _, hnew, hrest, _⟩
      have hmade := newTimer_holds h hnew
      cases hrest
      exact hmade
  | remoteRunInLoop timer =>
      simp only [RunOp, RemoteRunInLoop] at hcall
      split at hcall
      · rcases then_eq_ok.mp hcall with ⟨issued, _, _, hissue, hrest, _⟩
        rcases issue_eq_ok hissue with ⟨u, _, _, rfl⟩
        cases hrest
        exact fun a _ => rfl
      · cases hcall
  | remoteCancelTimer timerIndex =>
      simp only [RunOp, RemoteCancelTimer] at hcall
      split at hcall
      · cases hcall
        exact fun a _ => rfl
      · cases hcall

theorem runScript_holds {queue next : TimerQueue} {script : List Op}
    {hands : List Address} {es : List Event}
    (h : Sound queue hands)
    (hcall : RunScript clock queue script = Except.ok (next, es)) :
    Holds queue next hands := by
  induction script generalizing queue es with
  | nil =>
      cases hcall
      exact fun a _ => rfl
  | cons op rest ih =>
      rcases then_eq_ok.mp hcall with ⟨mid, es1, es2, hop, hrest, rfl⟩
      have hmid := runOp_keeps h hop
      exact (runOp_holds h hop).trans (ih hmid.1 hrest)

/-!
# One timer of the batch
-/

theorem runTimer_eq_ok {queue next : TimerQueue} {i : TimerIndex}
    {script : List Op} {es : List Event}
    (h : RunTimer clock queue i script = Except.ok (next, es)) :
    exists es', RunScript clock queue script = Except.ok (next, es') ∧
      es = Event.ran i :: es' := by
  unfold RunTimer at h
  split at h
  · cases h
  · rcases then_eq_ok.mp h with ⟨mid, es1, es2, hfirst, hrest, rfl⟩
    cases hfirst
    exact ⟨es2, hrest, rfl⟩

theorem runTimer_keeps {queue next : TimerQueue} {i : TimerIndex}
    {script : List Op} {hands : List Address} {es : List Event}
    (h : Sound queue hands) (hlive : LiveAt queue i.timer_ i.sequence_)
    (hcall : RunTimer clock queue i script = Except.ok (next, es)) :
    Keeps queue next hands es := by
  rcases runTimer_eq_ok hcall with ⟨es', hscript, rfl⟩
  have hran : Keeps queue queue hands [Event.ran i] := by
    refine ⟨h, onward_of_heap_eq rfl rfl ?_⟩
    intro e s he hs
    rw [List.mem_singleton.mp he] at hs
    cases hs
    exact ⟨_, hlive⟩
  exact hran.trans (runScript_keeps h hscript)

theorem restart_keeps {queue : TimerQueue} {a : Address} {t : Timer}
    {hands : List Address} (h : Sound queue (a :: hands))
    (ht : queue.heap a = some t) (now : Timestamp) :
    Keeps queue
      { queue with heap := Function.update queue.heap a (some (t.Restart now)) }
      (a :: hands) [] := by
  have hlive : forall b s, LiveAt { queue with
      heap := Function.update queue.heap a (some (t.Restart now)) } b s ->
      LiveAt queue b s := by
    intro b s hs
    rcases (liveAt_new rfl).mp hs with ⟨rfl, hseq⟩ | ⟨_, hold⟩
    · exact ⟨t, ht, by simpa using hseq⟩
    · exact hold
  refine h.keeps ?_ ?_ rfl rfl rfl
  · refine ⟨h.1.nodup, ?_, ?_, ?_, ?_⟩
    · intro b
      apply (h.1.live b).trans
      by_cases hb : b = a
      · subst hb
        simp [ht]
      · simp [Function.update_of_ne hb]
    · intro i hi
      rcases h.1.index i hi with ⟨u, hu, heq⟩
      have hne : i.timer_ ≠ a := by
        rintro rfl
        exact h.1.not_mem_of_hand (mem_owners_of_mem hi)
      exact ⟨u, by simpa [Function.update_of_ne hne] using hu, heq⟩
    · intro b s hs
      exact h.1.sequence_le b s (hlive b s hs)
    · intro b c s hb hc
      exact h.1.sequence_inj b c s (hlive b s hb) (hlive c s hc)
  · exact ⟨Nat.le_refl _, fun b s hs => Or.inl (hlive b s hs), by simp⟩

theorem restartOrDelete_keeps {queue next : TimerQueue} {now : Timestamp}
    {i : TimerIndex} {hands : List Address} {es : List Event}
    (h : Sound queue (i.timer_ :: hands))
    (hcall : RestartOrDelete clock queue now i = Except.ok (next, es)) :
    Keeps queue next hands es := by
  unfold RestartOrDelete at hcall
  split at hcall
  · cases hcall
  · rename_i t ht
    split at hcall
    · have hrestart := restart_keeps h ht now
      exact hrestart.trans (addTimerInLoop_keeps hrestart.1 hcall)
    · exact delete_keeps h hcall

theorem restartOrDelete_holds {queue next : TimerQueue} {now : Timestamp}
    {i : TimerIndex} {hands : List Address} {es : List Event}
    (h : Good queue (i.timer_ :: hands))
    (hcall : RestartOrDelete clock queue now i = Except.ok (next, es)) :
    Holds queue next hands := by
  intro b hb
  have hne : b ≠ i.timer_ := by
    rintro rfl
    exact h.not_mem_of_hand (List.mem_append.mpr (Or.inl hb))
  unfold RestartOrDelete at hcall
  split at hcall
  · cases hcall
  · split at hcall
    · rw [addTimerInLoop_heap hcall]
      exact Function.update_of_ne hne _ _
    · rcases delete_eq_ok hcall with ⟨_, rfl⟩
      exact Function.update_of_ne hne _ _

/-!
# The whole batch
-/

structure HoldsBatch (queue : TimerQueue) (batch : List TimerIndex)
    (hands : List Address) : Prop where
  sound : Sound queue (batch.map TimerIndex.timer_ ++ hands)
  live : forall i, i ∈ batch -> LiveAt queue i.timer_ i.sequence_

theorem getExpired_holdsBatch {queue : TimerQueue} {hands : List Address}
    (h : Sound queue hands) (now : Timestamp) :
    HoldsBatch (GetExpired queue now).2 (GetExpired queue now).1 hands where
  sound := by
    refine ⟨h.1.move rfl rfl ?_ ?_, h.2.pos, h.2.le, h.2.address,
      h.2.flight, h.2.queued⟩
    · intro i hi
      exact h.1.index i (OrderedSet.mem_eraseBefore.mp hi).1
    · have hset := (OrderedSet.before_append_perm queue.timers_
        (Sentry now)).map TimerIndex.timer_
      simp only [List.map_append] at hset
      -- The batch moves from the back of the owners to the front.
      have hrest : (Outside queue hands ++
          (((GetExpired queue now).1.map TimerIndex.timer_) ++
            (GetExpired queue now).2.timers_.elems.map
              TimerIndex.timer_)).Perm (Owners queue hands) := by
        rw [owners_eq]
        exact hset.append_left _
      refine List.Perm.trans ?_ hrest
      rw [owners_eq, ← List.append_assoc (Outside queue hands)]
      apply List.Perm.append_right _
      have hout : Outside (GetExpired queue now).2
          ((GetExpired queue now).1.map TimerIndex.timer_ ++ hands) =
          (GetExpired queue now).1.map TimerIndex.timer_ ++
            Outside queue hands := by
        simp [Outside, GetExpired, List.append_assoc]
      rw [hout]
      exact List.perm_append_comm
  live := by
    intro i hi
    rcases h.1.index i (OrderedSet.mem_before.mp hi).1 with ⟨t, ht, heq⟩
    refine ⟨t, ht, ?_⟩
    rw [heq]
    rfl

theorem runTimer_holdsBatch {queue next : TimerQueue} {i : TimerIndex}
    {script : List Op} {batch : List TimerIndex} {hands : List Address}
    {es : List Event}
    (h : HoldsBatch queue batch hands) (hi : i ∈ batch)
    (hcall : RunTimer clock queue i script = Except.ok (next, es)) :
    HoldsBatch next batch hands where
  sound := (runTimer_keeps h.sound (h.live i hi) hcall).1
  live := by
    rcases runTimer_eq_ok hcall with ⟨es', hscript, _⟩
    intro j hj
    refine (runScript_holds h.sound hscript).liveAt ?_ (h.live j hj)
    exact List.mem_append.mpr (Or.inl (List.mem_map.mpr ⟨j, hj, rfl⟩))

theorem restartOrDelete_holdsBatch {queue next : TimerQueue} {now : Timestamp}
    {i : TimerIndex} {batch : List TimerIndex} {hands : List Address}
    {es : List Event}
    (h : HoldsBatch queue (i :: batch) hands)
    (hcall : RestartOrDelete clock queue now i = Except.ok (next, es)) :
    HoldsBatch next batch hands where
  sound := (restartOrDelete_keeps h.sound hcall).1
  live := by
    intro j hj
    refine (restartOrDelete_holds h.sound.1 hcall).liveAt ?_
      (h.live j (List.mem_cons.mpr (Or.inr hj)))
    exact List.mem_append.mpr (Or.inl (List.mem_map.mpr ⟨j, hj, rfl⟩))

theorem runExpired_cons_eq_ok {queue next : TimerQueue} {now : Timestamp}
    {i : TimerIndex} {batch : List TimerIndex} {scripts : List (List Op)}
    {es : List Event}
    (h : RunExpired clock now (i :: batch) scripts queue =
      Except.ok (next, es)) :
    exists ran es1 restarted es2 es3,
      RunTimer clock queue i (scripts.headD []) = Except.ok (ran, es1) ∧
      RestartOrDelete clock ran now i = Except.ok (restarted, es2) ∧
      RunExpired clock now batch scripts.tail restarted =
        Except.ok (next, es3) ∧
      es = es1 ++ (es2 ++ es3) := by
  rcases then_eq_ok.mp h with ⟨ran, es1, es', hrun, hrest, rfl⟩
  rcases then_eq_ok.mp hrest with ⟨restarted, es2, es3, hrestart, hlast, rfl⟩
  exact ⟨ran, es1, restarted, es2, es3, hrun, hrestart, hlast, rfl⟩

theorem runExpired_keeps {queue next : TimerQueue} {now : Timestamp}
    {batch : List TimerIndex} {scripts : List (List Op)}
    {hands : List Address} {es : List Event}
    (h : HoldsBatch queue batch hands)
    (hcall : RunExpired clock now batch scripts queue =
      Except.ok (next, es)) :
    Keeps queue next hands es := by
  induction batch generalizing queue scripts es with
  | nil =>
      cases hcall
      exact Sound.keeps_refl h.sound
  | cons i batch ih =>
      rcases runExpired_cons_eq_ok hcall with
        ⟨ran, es1, restarted, es2, es3, hrun, hrestart, hlast, rfl⟩
      have hi : i ∈ i :: batch := List.mem_cons.mpr (Or.inl rfl)
      have hran := runTimer_holdsBatch h hi hrun
      have hrestarted := restartOrDelete_holdsBatch hran hrestart
      have hfirst := runTimer_keeps h.sound (h.live i hi) hrun
      exact hfirst.trans
        ((restartOrDelete_keeps hran.sound hrestart).trans
          (ih hrestarted hlast))

theorem handleRead_eq_ok {queue next : TimerQueue}
    {scripts : List (List Op)} {es : List Event}
    (h : HandleRead clock queue scripts = Except.ok (next, es)) :
    exists mid es1,
      RunExpired clock (clock queue.readings)
        (GetExpired queue (clock queue.readings)).1 scripts
        { (GetExpired queue (clock queue.readings)).2 with
          timerfd_ := ReadTimerfd queue.timerfd_
          readings := queue.readings + 1 } = Except.ok (mid, es1) ∧
      next = (Rearm clock mid).1 ∧ es = es1 ++ (Rearm clock mid).2 := by
  unfold HandleRead at h
  rcases then_eq_ok.mp h with ⟨mid, es1, es2, hexpired, hrearm, rfl⟩
  simp only [Except.ok.injEq, Prod.ext_iff] at hrearm
  exact ⟨mid, es1, hexpired, hrearm.1.symm, by rw [hrearm.2]⟩

theorem Sound.set_timerfd {queue : TimerQueue} {hands : List Address}
    (h : Sound queue hands) (timerfd : Timerfd) (readings : Nat) :
    Sound { queue with timerfd_ := timerfd, readings := readings } hands :=
  ⟨h.1.set_timerfd timerfd readings,
    h.2.pos, h.2.le, h.2.address, h.2.flight, h.2.queued⟩

theorem Sound.holdsBatch {queue : TimerQueue} (h : Sound queue [])
    (now : Timestamp) (timerfd : Timerfd) (readings : Nat) :
    HoldsBatch
      { (GetExpired queue now).2 with
        timerfd_ := timerfd
        readings := readings }
      (GetExpired queue now).1 [] :=
  ⟨(getExpired_holdsBatch h now).sound.set_timerfd timerfd readings,
    (getExpired_holdsBatch h now).live⟩

theorem handleRead_keeps {queue next : TimerQueue}
    {scripts : List (List Op)} {es : List Event}
    (h : Sound queue [])
    (hcall : HandleRead clock queue scripts = Except.ok (next, es)) :
    Keeps queue next [] es := by
  rcases handleRead_eq_ok hcall with ⟨mid, es1, hexpired, rfl, rfl⟩
  have hmid := runExpired_keeps (h.holdsBatch _ _ _) hexpired
  rcases rearm_frame clock mid with
    ⟨timerfd, readings, armed, hrearm, hquiet⟩
  rw [hrearm]
  refine ⟨hmid.1.set_timerfd timerfd readings, ?_⟩
  have hfirst : Onward queue mid es1 :=
    ⟨hmid.2.count_le, hmid.2.live, hmid.2.touched⟩
  exact hfirst.trans (onward_of_quiet rfl rfl
    (fun e he => Event.touches_of_updates (hquiet e he)))

/-!
# Every step of a run
-/

theorem Sound.takeAdd {queue : TimerQueue} {timer : Address}
    {rest : List Functor} (h : Sound queue [])
    (hpending : queue.pendingFunctors_ =
      Functor.addTimerInLoop timer :: rest) :
    Sound { queue with pendingFunctors_ := rest } [timer] := by
  refine ⟨h.1.move rfl rfl h.1.index ?_, h.2.pos, h.2.le, h.2.address,
    h.2.flight, ?_⟩
  · simp only [Owners, hpending, queuedTimers_add, List.nil_append,
      List.cons_append]
    exact List.perm_middle.symm
  · intro i hi
    exact h.2.queued i (by rw [hpending]; exact List.mem_cons_of_mem _ hi)

theorem Sound.takeCancel {queue : TimerQueue} {timerIndex : TimerIndex}
    {rest : List Functor} (h : Sound queue [])
    (hpending : queue.pendingFunctors_ =
      Functor.cancelTimerInLoop timerIndex :: rest) :
    Sound { queue with pendingFunctors_ := rest } [] ∧
      Circulates queue timerIndex := by
  refine ⟨⟨h.1.move rfl rfl h.1.index ?_, h.2.pos, h.2.le, h.2.address,
    h.2.flight, ?_⟩, h.2.queued timerIndex (by simp [hpending])⟩
  · simp [Owners, hpending]
  · intro i hi
    exact h.2.queued i (by rw [hpending]; exact List.mem_cons_of_mem _ hi)

theorem runFunctor_keeps {queue next : TimerQueue} {es : List Event}
    (h : Sound queue [])
    (hcall : RunFunctor clock queue = Except.ok (next, es)) :
    Keeps queue next [] es := by
  unfold RunFunctor at hcall
  split at hcall
  · cases hcall
  · rename_i timer rest hpending
    have hadded := addTimerInLoop_keeps (h.takeAdd hpending) hcall
    exact ⟨hadded.1, hadded.2.count_le, hadded.2.live, hadded.2.touched⟩
  · rename_i timerIndex rest hpending
    rcases h.takeCancel hpending with ⟨htaken, hcirculates⟩
    have hcancelled := cancelTimerInLoop_keeps htaken hcirculates hcall
    exact ⟨hcancelled.1, hcancelled.2.count_le, hcancelled.2.live,
      hcancelled.2.touched⟩

theorem timerExpires_keeps {queue next : TimerQueue} {es : List Event}
    (h : Sound queue [])
    (hcall : TimerExpires queue = Except.ok (next, es)) :
    Keeps queue next [] es := by
  unfold TimerExpires at hcall
  split at hcall
  · cases hcall
    exact ⟨h.set_timerfd _ _, onward_of_quiet rfl rfl (by simp)⟩
  · cases hcall

theorem perform_keeps {queue next : TimerQueue} {i : Input}
    {es : List Event} (h : Sound queue [])
    (hcall : Perform clock queue i = Except.ok (next, es)) :
    Keeps queue next [] es := by
  cases i with
  | op op => exact runOp_keeps h hcall
  | runFunctor => exact runFunctor_keeps h hcall
  | handleRead scripts => exact handleRead_keeps h hcall
  | timerExpires => exact timerExpires_keeps h hcall

theorem run_keeps {inputs : List Input} {queue next : TimerQueue}
    {tr : List Event} (h : Sound queue [])
    (hrun : (QueueMachine clock).Run queue inputs = some (next, tr)) :
    Keeps queue next [] tr := by
  have hkeeps := Machine.run_invariant
    (I := fun next tr => Keeps queue next [] tr) (p := [])
    (fun s tr i t es hinv hstep =>
      hinv.trans (perform_keeps hinv.1 (answer_eq_some.mp hstep)))
    h.keeps_refl hrun
  simpa using hkeeps

theorem reached_sound {inputs : List Input} {queue : TimerQueue}
    {tr : List Event}
    (hrun : (QueueMachine clock).Run Init inputs = some (queue, tr)) :
    Sound queue [] :=
  (run_keeps sound_init hrun).1

end Clock
end TimerQueue
end Reactor
end Wethands
