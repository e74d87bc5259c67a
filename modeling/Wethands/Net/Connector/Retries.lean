import Wethands.Net.Connector.Model
import Wethands.Reactor.TimerQueue.Harmless
import Wethands.Reactor.TimerQueue.OneShot

/-!
# The retries of a connector

At most one of the timers that call `StartInLoop` is still to come, and it is
the one that `timerIdx_` points to.
-/

namespace Wethands
namespace Net

open Foundation Utils Reactor

namespace Connector

open TimerQueue (HoldsBatch OneShot Circulates)

def Rest (batch : Option Batch) : List TimerIndex :=
  match batch with
  | none => []
  | some batch => batch.rest

def Held (batch : Option Batch) : List TimerIndex :=
  match batch with
  | none => []
  | some batch => batch.running.toList ++ batch.rest

/-- A retry that is still to come. -/
def Waits (queue : TimerQueue) (retries : List Nat) (batch : Option Batch)
    (i : TimerIndex) : Prop :=
  i.sequence_ ∈ retries ∧ (i ∈ queue.timers_ ∨ i ∈ Rest batch)

structure Timers (queue : TimerQueue) (retries : List Nat)
    (batch : Option Batch) (timerIdx : TimerIndex) : Prop where
  held : HoldsBatch queue (Held batch) []
  oneShot : OneShot queue retries
  circulates : Circulates queue timerIdx
  only : forall i, Waits queue retries batch i -> i = timerIdx

variable {queue next : TimerQueue} {retries : List Nat}
  {batch : Option Batch} {timerIdx : TimerIndex}

theorem mem_held_of_rest {i : TimerIndex} (h : i ∈ Rest batch) :
    i ∈ Held batch := by
  cases batch with
  | none => exact h
  | some batch => exact List.mem_append.mpr (Or.inr h)

theorem timers_init : Timers TimerQueue.Init [] none TimerIndex.Default where
  held := ⟨TimerQueue.sound_init, by simp [Held]⟩
  oneShot := TimerQueue.oneShot_init
  circulates := Or.inl rfl
  only := by simp [Waits]

theorem Timers.le_of_waits (h : Timers queue retries batch timerIdx)
    {i : TimerIndex} (hi : i ∈ queue.timers_ ∨ i ∈ Rest batch) :
    i.sequence_ ≤ queue.count_ := by
  have hlive : exists a, TimerQueue.LiveAt queue a i.sequence_ := by
    rcases hi with htimers | hrest
    · rcases h.held.sound.1.index i htimers with ⟨t, ht, heq⟩
      exact ⟨i.timer_, t, ht, by rw [heq]; rfl⟩
    · exact ⟨i.timer_, h.held.live i (mem_held_of_rest hrest)⟩
  rcases hlive with ⟨a, ha⟩
  exact h.held.sound.1.sequence_le a _ ha

structure Spared (queue next : TimerQueue) (retries : List Nat)
    (batch batch' : Option Batch) : Prop where
  spares : TimerQueue.Spares queue next retries
  held : HoldsBatch next (Held batch') []
  rest : forall i, i ∈ Rest batch' -> i ∈ queue.timers_ ∨ i ∈ Rest batch

theorem Timers.spared (h : Timers queue retries batch timerIdx)
    {batch' : Option Batch}
    (hspared : Spared queue next retries batch batch') :
    Timers next retries batch' timerIdx ∧
      forall i, Waits next retries batch' i ->
        Waits queue retries batch i := by
  rcases hspared with ⟨hspares, hheld, hrest⟩
  have hwaits : forall i, Waits next retries batch' i ->
      Waits queue retries batch i := by
    intro i hpair
    rcases hpair with ⟨hown, hi⟩
    refine ⟨hown, ?_⟩
    rcases hi with htimers | hmem
    · exact Or.inl (hspares.mem i htimers hown)
    · exact hrest i hmem
  refine ⟨⟨hheld, hspares.oneShot, hspares.circulates h.circulates, ?_⟩,
    hwaits⟩
  exact fun i hi => h.only i (hwaits i hi)

section Clock

variable {clock : Nat -> Timestamp} {es : List TimerQueue.Event}

theorem runOp_holdsBatch {op : TimerQueue.Op} {held : List TimerIndex}
    (h : HoldsBatch queue held [])
    (hcall : TimerQueue.RunOp clock queue op = Except.ok (next, es)) :
    HoldsBatch next held [] where
  sound := (TimerQueue.runOp_keeps h.sound hcall).1
  live := by
    intro i hi
    refine (TimerQueue.runOp_holds h.sound hcall).liveAt ?_ (h.live i hi)
    exact List.mem_append.mpr (Or.inl (List.mem_map.mpr ⟨i, hi, rfl⟩))

theorem cancel_spec (h : Timers queue retries batch timerIdx) :
    Ensures (TimerQueue.CancelTimerInLoop queue timerIdx) (fun next _ =>
      Timers next retries batch timerIdx ∧
        forall i, i ∈ next.timers_ -> i.sequence_ ∉ retries) := by
  refine (TimerQueue.cancelTimerInLoop_harmless h.held.sound
    h.circulates).of_ok (fun next es hcall => ?_)
  have hop : TimerQueue.RunOp (fun _ => 0) queue
      (TimerQueue.Op.cancelTimer timerIdx) = Except.ok (next, es) := by
    simp only [TimerQueue.RunOp, TimerQueue.CancelTimer, if_pos h.circulates,
      hcall]
  have hspares := TimerQueue.cancelTimerInLoop_spares h.oneShot hcall
  have hboth := h.spared ⟨hspares, runOp_holdsBatch h.held hop,
    fun i hi => Or.inr hi⟩
  refine ⟨hboth.1, fun i htimers hown => ?_⟩
  have hold : i ∈ queue.timers_ := hspares.mem i htimers hown
  have hidx : i = timerIdx := h.only i ⟨hown, Or.inl hold⟩
  have hequiv : OrderedSet.Equivalent TimerIndex.Less i timerIdx :=
    TimerQueue.equivalent_iff.mpr ⟨by rw [hidx], by rw [hidx]⟩
  rcases TimerQueue.cancelTimerInLoop_eq_ok hcall with
    ⟨_, ⟨hfind, rfl⟩ | ⟨_, _, rfl⟩⟩
  · exact OrderedSet.find_eq_none.mp hfind i hold hequiv
  · exact (OrderedSet.mem_erase.mp htimers).2 hequiv

theorem addTimer_runAfter {timer : Address} {delay : Seconds}
    (hcall : TimerQueue.AddTimer clock queue timer
      (TimerQueue.Request.runAfter delay) = Except.ok (next, es)) :
    exists t timerfd readings, t.sequence_ = queue.count_ + 1 ∧
      t.repeated_ = false ∧
      queue.timers_.Find (TimerQueue.IndexOf timer t) = none ∧
      next = { queue with
        count_ := queue.count_ + 1
        heap := Function.update queue.heap timer (some t)
        timers_ := (queue.timers_.Insert (TimerQueue.IndexOf timer t)).1
        issued := TimerQueue.IndexOf timer t :: queue.issued
        timerfd_ := timerfd
        readings := readings } := by
  rcases then_eq_ok.mp hcall with ⟨made, _, _, hnew, hrest, _⟩
  rcases then_eq_ok.mp hrest with ⟨added, _, _, hadd, hissue, _⟩
  rcases TimerQueue.addTimerInLoop_eq_ok hadd with
    ⟨t, timerfd, readings, _, ht, hfind, rfl, _, _⟩
  rcases TimerQueue.issue_eq_ok hissue with ⟨u, hu, _, rfl⟩
  unfold TimerQueue.NewTimer at hnew
  split at hnew
  · cases hnew
  · cases hnew
    simp only [Function.update_self, Option.some.injEq] at ht hu
    subst ht
    subst hu
    exact ⟨_, timerfd, readings, rfl, rfl, hfind, rfl⟩

theorem runAfter_spec {timer : Address} {delay : Seconds}
    (h : Timers queue retries batch timerIdx)
    (hnone : forall i, ¬Waits queue retries batch i) :
    Ensures (TimerQueue.AddTimer clock queue timer
        (TimerQueue.Request.runAfter delay)) (fun next _ =>
      exists i rest, next.issued = i :: rest ∧
        Timers next (i.sequence_ :: retries) batch i) := by
  refine (TimerQueue.addTimer_harmless h.held.sound).of_ok
    (fun next es hcall => ?_)
  have hspares := TimerQueue.addTimer_spares h.oneShot hcall
  have hop : TimerQueue.RunOp clock queue (TimerQueue.Op.addTimer timer
      (TimerQueue.Request.runAfter delay)) = Except.ok (next, es) := hcall
  have hheld := runOp_holdsBatch h.held hop
  rcases addTimer_runAfter hcall with
    ⟨t, timerfd, readings, hseq, honce, hfind, rfl⟩
  refine ⟨_, _, rfl, hheld, ?_, Or.inr List.mem_cons_self, ?_⟩
  · refine ⟨?_, ?_, ?_⟩
    · intro s hs
      rcases List.mem_cons.mp hs with rfl | hold
      · exact Nat.le_of_eq hseq
      · exact hspares.oneShot.le s hold
    · intro b u hu hmem
      rcases List.mem_cons.mp hmem with hnew | hold
      · have hsame : b = timer :=
          hheld.sound.1.sequence_inj b timer _ ⟨u, hu, hnew⟩
            ⟨t, Function.update_self _ _ _, rfl⟩
        subst hsame
        have heq : some t = some u := by
          rw [← hu]
          exact (Function.update_self b (some t) queue.heap).symm
        cases heq
        exact honce
      · exact hspares.oneShot.once b u hu hold
    · intro b s hb hs hmem
      rcases List.mem_cons.mp hmem with rfl | hold
      · have hsame : b = timer :=
          hheld.sound.1.sequence_inj b timer _ hs
            ⟨t, Function.update_self _ _ _, rfl⟩
        subst hsame
        have hset := (OrderedSet.mem_insert hfind).mpr (Or.inl rfl)
        apply hheld.sound.1.not_outside hset
        rw [TimerQueue.Outside, List.append_assoc]
        exact List.mem_append.mpr (Or.inr hb)
      · exact hspares.oneShot.inside b s hb hs hold
  · intro i hboth
    rcases hboth with ⟨hown, hi⟩
    have hcase : i = TimerQueue.IndexOf timer t ∨
        i ∈ queue.timers_ ∨ i ∈ Rest batch := by
      rcases hi with htimers | hrest
      · exact ((OrderedSet.mem_insert hfind).mp htimers).imp_right Or.inl
      · exact Or.inr (Or.inr hrest)
    rcases hcase with heq | hold
    · exact heq
    · rcases List.mem_cons.mp hown with hnew | hretry
      · have hle := h.le_of_waits hold
        have hnew' : i.sequence_ = t.sequence_ := hnew
        omega
      · exact absurd ⟨hretry, hold⟩ (hnone i)

end Clock

end Connector
end Net
end Wethands
