import Wethands.Reactor.TimerQueue.Ownership

/-!
# What each operation does to the timers

Every operation keeps the ownership of the timers, and none of them brings a
sequence number back: what an operation leaves on the heap, inserts or runs was
on the heap before or is new.
-/

namespace Wethands
namespace Reactor

open Foundation Utils

namespace TimerQueue

def Event.Touches : Event -> Option Nat
  | Event.inserted timerIndex => some timerIndex.sequence_
  | Event.ran timerIndex => some timerIndex.sequence_
  | _ => none

def Event.Updates : Event -> Bool
  | Event.updateTimerfd _ _ _ => true
  | _ => false

theorem Event.touches_of_updates {e : Event} (h : e.Updates = true) :
    e.Touches = none := by
  cases e with
  | updateTimerfd expiration now again => rfl
  | inserted timerIndex => cases h
  | cancelled timerIndex => cases h
  | ran timerIndex => cases h

structure Onward (queue next : TimerQueue) (es : List Event) : Prop where
  count_le : queue.count_ ≤ next.count_
  live : forall a s, LiveAt next a s -> LiveAt queue a s ∨ queue.count_ < s
  touched : forall e s, e ∈ es -> e.Touches = some s ->
    (exists a, LiveAt queue a s) ∨ queue.count_ < s

theorem Onward.trans {queue mid next : TimerQueue} {es es' : List Event}
    (first : Onward queue mid es) (second : Onward mid next es') :
    Onward queue next (es ++ es') where
  count_le := Nat.le_trans first.count_le second.count_le
  live := by
    intro a s hs
    rcases second.live a s hs with hmid | hnew
    · exact first.live a s hmid
    · exact Or.inr (Nat.lt_of_le_of_lt first.count_le hnew)
  touched := by
    intro e s he hs
    rcases List.mem_append.mp he with hfirst | hsecond
    · exact first.touched e s hfirst hs
    · rcases second.touched e s hsecond hs with ⟨a, hmid⟩ | hnew
      · rcases first.live a s hmid with hold | hnew
        · exact Or.inl ⟨a, hold⟩
        · exact Or.inr hnew
      · exact Or.inr (Nat.lt_of_le_of_lt first.count_le hnew)

theorem circulates_of_issued_eq {queue next : TimerQueue} {i : TimerIndex}
    (hissued : next.issued = queue.issued) :
    Circulates next i <-> Circulates queue i := by
  rw [Circulates, Circulates, hissued]

theorem onward_of_heap_eq {queue next : TimerQueue} {es : List Event}
    (hheap : next.heap = queue.heap) (hcount : next.count_ = queue.count_)
    (htouched : forall e s, e ∈ es -> e.Touches = some s ->
      exists a, LiveAt queue a s) :
    Onward queue next es where
  count_le := by rw [hcount]
  live := fun a s hs => Or.inl ((liveAt_of_heap_eq hheap).mp hs)
  touched := fun e s he hs => Or.inl (htouched e s he hs)

theorem onward_of_quiet {queue next : TimerQueue} {es : List Event}
    (hheap : next.heap = queue.heap) (hcount : next.count_ = queue.count_)
    (hquiet : forall e, e ∈ es -> e.Touches = none) :
    Onward queue next es := by
  apply onward_of_heap_eq hheap hcount
  intro e s he hs
  rw [hquiet e he] at hs
  cases hs

theorem IssuedInvariant.onward {queue next : TimerQueue} {es : List Event}
    (h : IssuedInvariant queue) (honward : Onward queue next es)
    (hissued : next.issued = queue.issued)
    (hflight : next.inFlight = queue.inFlight)
    (hpending : forall i,
      Functor.cancelTimerInLoop i ∈ next.pendingFunctors_ ->
      Functor.cancelTimerInLoop i ∈ queue.pendingFunctors_) :
    IssuedInvariant next where
  pos := by
    intro a s hs
    rcases honward.live a s hs with hold | hnew
    · exact h.pos a s hold
    · exact Nat.lt_of_le_of_lt (Nat.zero_le _) hnew
  le := by
    intro i hi
    rw [hissued] at hi
    exact Nat.le_trans (h.le i hi) honward.count_le
  address := by
    intro i a hi hs
    rw [hissued] at hi
    rcases honward.live a _ hs with hold | hnew
    · exact h.address i a hi hold
    · exact absurd hnew (Nat.not_lt.mpr (h.le i hi))
  flight := by
    intro i a hi ha hs
    rw [hissued] at hi
    rw [hflight] at ha
    rcases honward.live a _ hs with hold | hnew
    · exact h.flight i a hi ha hold
    · exact absurd hnew (Nat.not_lt.mpr (h.le i hi))
  queued := by
    intro i hi
    exact (circulates_of_issued_eq hissued).mpr (h.queued i (hpending i hi))

/-- A call that keeps the invariants and brings no sequence number back. -/
def Keeps (queue next : TimerQueue) (hands : List Address)
    (es : List Event) : Prop :=
  Sound next hands ∧ Onward queue next es

theorem Keeps.trans {queue mid next : TimerQueue} {hands hands' : List Address}
    {es es' : List Event} (first : Keeps queue mid hands es)
    (second : Keeps mid next hands' es') :
    Keeps queue next hands' (es ++ es') :=
  ⟨second.1, first.2.trans second.2⟩

theorem Sound.keeps {queue next : TimerQueue} {hands hands' : List Address}
    {es : List Event} (h : Sound queue hands) (hgood : Good next hands')
    (honward : Onward queue next es) (hissued : next.issued = queue.issued)
    (hflight : next.inFlight = queue.inFlight)
    (hpending : next.pendingFunctors_ = queue.pendingFunctors_) :
    Keeps queue next hands' es :=
  ⟨⟨hgood, h.2.onward honward hissued hflight (by simp [hpending])⟩, honward⟩

section Clock

variable {clock : Nat -> Timestamp}

/-!
# Arming
-/

theorem updateTimerfd_frame (clock : Nat -> Timestamp) (queue : TimerQueue)
    (expiration : Timestamp) :
    exists timerfd readings es,
      UpdateTimerfd clock queue expiration =
        ({ queue with timerfd_ := timerfd, readings := readings }, es) ∧
      forall e, e ∈ es -> e.Updates = true := by
  unfold UpdateTimerfd
  dsimp only
  split
  · exact ⟨_, _, _, rfl, by simp [Event.Updates]⟩
  · exact ⟨_, _, _, rfl, by simp [Event.Updates]⟩

theorem armFor_frame (clock : Nat -> Timestamp) (queue : TimerQueue)
    (toAdd : TimerIndex) :
    exists timerfd readings es,
      ArmFor clock queue toAdd =
        ({ queue with timerfd_ := timerfd, readings := readings }, es) ∧
      forall e, e ∈ es -> e.Updates = true := by
  unfold ArmFor
  split
  · exact updateTimerfd_frame clock queue _
  · exact ⟨_, _, _, rfl, by simp⟩

theorem rearm_frame (clock : Nat -> Timestamp) (queue : TimerQueue) :
    exists timerfd readings es,
      Rearm clock queue =
        ({ queue with timerfd_ := timerfd, readings := readings }, es) ∧
      forall e, e ∈ es -> e.Updates = true := by
  unfold Rearm
  split
  · exact ⟨_, _, _, rfl, by simp⟩
  · exact updateTimerfd_frame clock queue _

/-!
# Inserting
-/

theorem insert_eq_true {timers : OrderedSet TimerIndex.Less} {i : TimerIndex} :
    (timers.Insert i).2 = true <-> timers.Find i = none := by
  unfold OrderedSet.Insert
  split <;> simp_all

theorem addTimerInLoop_arms {queue next : TimerQueue} {a : Address}
    {es : List Event}
    (h : AddTimerInLoop clock queue a = Except.ok (next, es)) :
    exists t, queue.heap a = some t ∧
      queue.timers_.Find (IndexOf a t) = none ∧
      next = { (ArmFor clock queue (IndexOf a t)).1 with
        timers_ := (queue.timers_.Insert (IndexOf a t)).1 } ∧
      es = (ArmFor clock queue (IndexOf a t)).2 ++
        [Event.inserted (IndexOf a t)] := by
  unfold AddTimerInLoop at h
  cases hheap : queue.heap a with
  | none => simp [hheap] at h
  | some t =>
      simp only [hheap, assert_eq_ok, insert_eq_true, Except.ok.injEq,
        Prod.mk.injEq] at h
      rcases h with ⟨hfind, hnext, hes⟩
      exact ⟨t, rfl, hfind, hnext.symm, hes.symm⟩

theorem addTimerInLoop_eq_ok {queue next : TimerQueue} {a : Address}
    {es : List Event}
    (h : AddTimerInLoop clock queue a = Except.ok (next, es)) :
    exists t timerfd readings armed,
      queue.heap a = some t ∧ queue.timers_.Find (IndexOf a t) = none ∧
      next = { queue with
        timerfd_ := timerfd
        readings := readings
        timers_ := (queue.timers_.Insert (IndexOf a t)).1 } ∧
      es = armed ++ [Event.inserted (IndexOf a t)] ∧
      forall e, e ∈ armed -> e.Updates = true := by
  rcases addTimerInLoop_arms h with ⟨t, hheap, hfind, rfl, rfl⟩
  rcases armFor_frame clock queue (IndexOf a t) with
    ⟨timerfd, readings, armed, harm, hupdates⟩
  rw [harm]
  exact ⟨t, timerfd, readings, armed, hheap, hfind, rfl, rfl, hupdates⟩

theorem addTimerInLoop_keeps {queue next : TimerQueue} {a : Address}
    {hands : List Address} {es : List Event}
    (h : Sound queue (a :: hands))
    (hcall : AddTimerInLoop clock queue a = Except.ok (next, es)) :
    Keeps queue next hands es := by
  rcases addTimerInLoop_eq_ok hcall with
    ⟨t, timerfd, readings, armed, hheap, hfind, rfl, rfl, hquiet⟩
  refine h.keeps ?_ ?_ rfl rfl rfl
  · refine h.1.move rfl rfl ?_ ?_
    · intro i hi
      rcases (OrderedSet.mem_insert hfind).mp hi with rfl | hold
      · exact ⟨t, hheap, rfl⟩
      · exact h.1.index i hold
    · -- The timer moves from the hands into the set.
      have hset : ((queue.timers_.Insert (IndexOf a t)).1.elems.map
          TimerIndex.timer_).Perm
          (a :: queue.timers_.elems.map TimerIndex.timer_) :=
        (OrderedSet.insert_perm hfind).map TimerIndex.timer_
      have hqueued := (hset.append_left
        (QueuedTimers queue.pendingFunctors_)).trans List.perm_middle
      have hflight := (hqueued.append_left queue.inFlight).trans
        List.perm_middle
      exact (hflight.append_left hands).trans List.perm_middle
  · refine onward_of_heap_eq rfl rfl ?_
    intro e s he hs
    rcases List.mem_append.mp he with harmed | hlast
    · rw [Event.touches_of_updates (hquiet e harmed)] at hs
      cases hs
    · rw [List.mem_singleton.mp hlast] at hs
      cases hs
      exact ⟨a, t, hheap, rfl⟩

/-!
# Constructing and deleting
-/

theorem newTimer_eq_ok {queue next : TimerQueue} {a : Address}
    {request : Request} {es : List Event}
    (h : NewTimer clock queue a request = Except.ok (next, es)) :
    exists t readings, queue.heap a = none ∧ t.sequence_ = queue.count_ + 1 ∧
      es = [] ∧ next = { queue with
        count_ := queue.count_ + 1
        heap := Function.update queue.heap a (some t)
        readings := readings } := by
  unfold NewTimer at h
  split at h
  · cases h
  · rename_i hfree
    simp only [not_or, Bool.not_eq_true, Option.isSome_eq_false_iff,
      Option.isNone_iff_eq_none] at hfree
    cases h
    exact ⟨_, _, hfree.2, rfl, rfl, rfl⟩

theorem newTimer_keeps {queue next : TimerQueue} {a : Address}
    {request : Request} {hands : List Address} {es : List Event}
    (h : Sound queue hands)
    (hcall : NewTimer clock queue a request = Except.ok (next, es)) :
    Keeps queue next (a :: hands) es := by
  rcases newTimer_eq_ok hcall with ⟨t, readings, hfree, hseq, rfl, rfl⟩
  have hgood := h.1
  have hnot : a ∉ Owners queue hands := by
    intro ha
    have hlive := (hgood.live a).mp ha
    simp [hfree] at hlive
  refine h.keeps ?_ ?_ rfl rfl rfl
  · constructor
    · exact List.nodup_cons.mpr ⟨hnot, hgood.nodup⟩
    · intro b
      by_cases hb : b = a
      · subst hb
        simp [Owners]
      · have hlive := hgood.live b
        simp only [Owners, List.cons_append, List.mem_cons, hb, false_or,
          Function.update_of_ne hb] at hlive ⊢
        exact hlive
    · intro i hi
      rcases hgood.index i hi with ⟨u, hu, heq⟩
      have hne : i.timer_ ≠ a := by
        intro heq'
        rw [heq', hfree] at hu
        cases hu
      exact ⟨u, by simpa [Function.update_of_ne hne] using hu, heq⟩
    · intro b s hs
      rcases (liveAt_new rfl).mp hs with ⟨_, rfl⟩ | ⟨_, hold⟩
      · exact Nat.le_of_eq hseq
      · exact Nat.le_succ_of_le (hgood.sequence_le b s hold)
    · intro b c s hb hc
      -- The new sequence number is larger than all those on the heap.
      rcases (liveAt_new rfl).mp hb with ⟨rfl, rfl⟩ | ⟨_, hbold⟩ <;>
        rcases (liveAt_new rfl).mp hc with ⟨rfl, hsame⟩ | ⟨_, hcold⟩
      · rfl
      · have hle := hgood.sequence_le c _ hcold
        omega
      · have hle := hgood.sequence_le b s hbold
        omega
      · exact hgood.sequence_inj b c s hbold hcold
  · constructor
    · exact Nat.le_succ _
    · intro b s hs
      rcases (liveAt_new rfl).mp hs with ⟨_, rfl⟩ | ⟨_, hold⟩
      · exact Or.inr (by rw [hseq]; exact Nat.lt_succ_self _)
      · exact Or.inl hold
    · intro e s he
      cases he

theorem delete_eq_ok {queue next : TimerQueue} {a : Address}
    {es : List Event} (h : Delete queue a = Except.ok (next, es)) :
    es = [] ∧
      next = { queue with heap := Function.update queue.heap a none } := by
  unfold Delete at h
  split at h
  · cases h
  · cases h
    exact ⟨rfl, rfl⟩

theorem Good.delete {queue next : TimerQueue} {a : Address}
    {hands hands' : List Address} (hgood : Good queue hands)
    (hheap : next.heap = Function.update queue.heap a none)
    (hcount : next.count_ = queue.count_)
    (htimers : forall i, i ∈ next.timers_ -> i ∈ queue.timers_)
    (hnodup : (Owners next hands').Nodup)
    (howners : forall b, b ∈ Owners next hands' <->
      b ∈ Owners queue hands ∧ b ≠ a) :
    Good next hands' where
  nodup := hnodup
  live := by
    intro b
    rw [howners b, hheap]
    by_cases hb : b = a
    · subst hb
      simp
    · simpa [Function.update_of_ne hb, hb] using hgood.live b
  index := by
    intro i hi
    rcases hgood.index i (htimers i hi) with ⟨u, hu, heq⟩
    have howner : i.timer_ ∈ Owners next hands' := mem_owners_of_mem hi
    have hne : i.timer_ ≠ a := ((howners _).mp howner).2
    exact ⟨u, by simpa [hheap, Function.update_of_ne hne] using hu, heq⟩
  sequence_le := by
    intro b s hs
    rw [hcount]
    exact hgood.sequence_le b s ((liveAt_delete hheap).mp hs).2
  sequence_inj := by
    intro b c s hb hc
    exact hgood.sequence_inj b c s ((liveAt_delete hheap).mp hb).2
      ((liveAt_delete hheap).mp hc).2

theorem onward_of_delete {queue next : TimerQueue} {a : Address}
    {es : List Event}
    (hheap : next.heap = Function.update queue.heap a none)
    (hcount : next.count_ = queue.count_)
    (hquiet : forall e, e ∈ es -> e.Touches = none) :
    Onward queue next es where
  count_le := by rw [hcount]
  live := fun b s hs => Or.inl ((liveAt_delete hheap).mp hs).2
  touched := by
    intro e s he hs
    rw [hquiet e he] at hs
    cases hs

theorem delete_keeps {queue next : TimerQueue} {a : Address}
    {hands : List Address} {es : List Event}
    (h : Sound queue (a :: hands))
    (hcall : Delete queue a = Except.ok (next, es)) :
    Keeps queue next hands es := by
  rcases delete_eq_ok hcall with ⟨rfl, rfl⟩
  refine h.keeps ?_ (onward_of_delete rfl rfl (by simp)) rfl rfl rfl
  refine h.1.delete rfl rfl (fun i hi => hi) ?_ ?_
  · exact (List.nodup_cons.mp h.1.nodup).2
  · intro b
    have hnot : a ∉ Owners queue hands := h.1.not_mem_of_hand
    constructor
    · intro hb
      refine ⟨List.mem_cons.mpr (Or.inr hb), ?_⟩
      intro heq
      exact hnot (heq ▸ hb)
    · intro hboth
      rcases hboth with ⟨hb, hne⟩
      exact (List.mem_cons.mp hb).resolve_left hne

/-!
# Cancelling
-/

theorem cancelTimerInLoop_eq_ok {queue next : TimerQueue} {i : TimerIndex}
    {es : List Event}
    (h : CancelTimerInLoop queue i = Except.ok (next, es)) :
    es = [Event.cancelled i] ∧
      (queue.timers_.Find i = none ∧ next = queue ∨
        exists found, queue.timers_.Find i = some found ∧
          next = { queue with
            timers_ := queue.timers_.Erase i
            heap := Function.update queue.heap i.timer_ none }) := by
  unfold CancelTimerInLoop at h
  split at h
  · cases h
    exact ⟨rfl, Or.inl ⟨‹_›, rfl⟩⟩
  · rename_i found hfind
    rcases then_eq_ok.mp h with ⟨mid, es1, es2, hfirst, hdelete, rfl⟩
    cases hfirst
    rcases delete_eq_ok hdelete with ⟨rfl, rfl⟩
    exact ⟨rfl, Or.inr ⟨found, hfind, rfl⟩⟩

theorem find_of_circulates {queue : TimerQueue} {hands : List Address}
    {i found : TimerIndex} (h : Sound queue hands)
    (hi : Circulates queue i) (hfind : queue.timers_.Find i = some found) :
    found = i := by
  rcases OrderedSet.find_eq_some hfind with ⟨hmem, hequiv⟩
  rcases equivalent_iff.mp hequiv with ⟨hexp, hseq⟩
  rcases h.1.index found hmem with ⟨t, ht, heq⟩
  have hlive : LiveAt queue found.timer_ i.sequence_ :=
    ⟨t, ht, by rw [← hseq, heq]; rfl⟩
  have haddr : found.timer_ = i.timer_ := by
    rcases hi with rfl | hissued
    · exact absurd (h.2.pos _ _ hlive) (Nat.lt_irrefl 0)
    · exact h.2.address i _ hissued hlive
  cases found
  cases i
  simp_all

theorem Good.index_of_timer {queue : TimerQueue} {hands : List Address}
    (h : Good queue hands) {i j : TimerIndex} (hi : i ∈ queue.timers_)
    (hj : j ∈ queue.timers_) (hsame : j.timer_ = i.timer_) : j = i := by
  rcases h.index i hi with ⟨t, ht, hieq⟩
  rcases h.index j hj with ⟨u, hu, hjeq⟩
  rw [hsame, ht] at hu
  cases hu
  rw [hieq, hjeq, hsame]

theorem cancelTimerInLoop_keeps {queue next : TimerQueue} {i : TimerIndex}
    {hands : List Address} {es : List Event}
    (h : Sound queue hands) (hi : Circulates queue i)
    (hcall : CancelTimerInLoop queue i = Except.ok (next, es)) :
    Keeps queue next hands es := by
  rcases cancelTimerInLoop_eq_ok hcall with
    ⟨rfl, ⟨hfind, rfl⟩ | ⟨found, hfind, rfl⟩⟩
  · exact ⟨h, onward_of_quiet rfl rfl (by simp [Event.Touches])⟩
  · have hfound := find_of_circulates h hi hfind
    subst hfound
    have hmem : found ∈ queue.timers_ := (OrderedSet.find_eq_some hfind).1
    have hgood := h.1
    refine h.keeps ?_ (onward_of_delete rfl rfl (by simp [Event.Touches]))
      rfl rfl rfl
    refine hgood.delete rfl rfl
      (fun j hj => (OrderedSet.mem_erase.mp hj).1) ?_ ?_
    · refine hgood.nodup.sublist ?_
      rw [owners_eq, owners_eq]
      refine List.Sublist.append_left ?_ _
      exact List.Sublist.map _ List.filter_sublist
    · intro b
      rw [mem_owners, mem_owners]
      constructor
      · rintro (hout | ⟨j, hj, rfl⟩)
        · refine ⟨Or.inl hout, ?_⟩
          intro hb
          exact hgood.not_outside hmem (hb ▸ hout)
        · rcases OrderedSet.mem_erase.mp hj with ⟨hjmem, hne⟩
          refine ⟨Or.inr ⟨j, hjmem, rfl⟩, ?_⟩
          intro hsame
          apply hne
          rw [hgood.index_of_timer hmem hjmem hsame]
          exact equivalent_iff.mpr ⟨rfl, rfl⟩
      · intro hboth
        rcases hboth with ⟨hout | ⟨j, hj, rfl⟩, hne⟩
        · exact Or.inl hout
        · refine Or.inr ⟨j, OrderedSet.mem_erase.mpr ⟨hj, ?_⟩, rfl⟩
          intro hequiv
          rcases hgood.index found hmem with ⟨t, ht, heq⟩
          have hseq : j.sequence_ = t.sequence_ := by
            rw [(equivalent_iff.mp hequiv).2, heq]
            rfl
          apply hne
          rw [hgood.index_eq hj ht hseq]
          rfl

/-!
# What callers and other threads do
-/

theorem issue_keeps {queue next : TimerQueue} {a : Address}
    {hands hands' : List Address} {es : List Event}
    (h : Sound queue hands) (hflight : a ∉ next.inFlight)
    (hgood : Good next hands')
    (hheap : next.heap = queue.heap) (hcount : next.count_ = queue.count_)
    (hissued : exists t, queue.heap a = some t ∧
      next.issued = IndexOf a t :: queue.issued)
    (hinFlight : forall b, b ∈ next.inFlight -> b ∈ queue.inFlight)
    (hpending : forall i,
      Functor.cancelTimerInLoop i ∈ next.pendingFunctors_ ->
      Functor.cancelTimerInLoop i ∈ queue.pendingFunctors_)
    (hquiet : forall e, e ∈ es -> e.Touches = none) :
    Keeps queue next hands' es := by
  rcases hissued with ⟨t, ht, hcons⟩
  have hlive : LiveAt queue a t.sequence_ := ⟨t, ht, rfl⟩
  refine ⟨⟨hgood, ?_⟩, onward_of_quiet hheap hcount hquiet⟩
  constructor
  · intro b s hs
    exact h.2.pos b s ((liveAt_of_heap_eq hheap).mp hs)
  · intro i hi
    rw [hcons] at hi
    rw [hcount]
    rcases List.mem_cons.mp hi with rfl | hold
    · exact h.1.sequence_le a _ hlive
    · exact h.2.le i hold
  · intro i b hi hb
    rw [hcons] at hi
    have hb' := (liveAt_of_heap_eq hheap).mp hb
    rcases List.mem_cons.mp hi with rfl | hold
    · exact h.1.sequence_inj b a _ hb' hlive
    · exact h.2.address i b hold hb'
  · intro i b hi hb hs
    rw [hcons] at hi
    have hs' := (liveAt_of_heap_eq hheap).mp hs
    rcases List.mem_cons.mp hi with rfl | hold
    · have hba : b = a := h.1.sequence_inj b a _ hs' hlive
      exact hflight (hba ▸ hb)
    · exact h.2.flight i b hold (hinFlight b hb) hs'
  · intro i hi
    rcases h.2.queued i (hpending i hi) with rfl | hold
    · exact Or.inl rfl
    · exact Or.inr (by rw [hcons]; exact List.mem_cons.mpr (Or.inr hold))

theorem issue_eq_ok {queue next : TimerQueue} {a : Address}
    {es : List Event} (h : Issue queue a = Except.ok (next, es)) :
    exists t, queue.heap a = some t ∧ es = [] ∧
      next = { queue with issued := IndexOf a t :: queue.issued } := by
  unfold Issue at h
  split at h
  · cases h
  · rename_i t hheap
    cases h
    exact ⟨t, hheap, rfl, rfl⟩

theorem addTimer_keeps {queue next : TimerQueue} {a : Address}
    {request : Request} {hands : List Address} {es : List Event}
    (h : Sound queue hands)
    (hcall : AddTimer clock queue a request = Except.ok (next, es)) :
    Keeps queue next hands es := by
  rcases then_eq_ok.mp hcall with ⟨made, es1, es2, hnew, hrest, rfl⟩
  have hmade := newTimer_keeps h hnew
  apply hmade.trans
  rcases then_eq_ok.mp hrest with ⟨added, es3, es4, hadd, hissue, rfl⟩
  have hadded := addTimerInLoop_keeps hmade.1 hadd
  apply hadded.trans
  rcases addTimerInLoop_eq_ok hadd with
    ⟨t, _, _, _, hheap, hfind, rfl, _, _⟩
  rcases issue_eq_ok hissue with ⟨u, hu, rfl, rfl⟩
  refine issue_keeps hadded.1 ?_ ?_ rfl rfl ⟨u, hu, rfl⟩ (fun b hb => hb)
    (fun i hi => hi) (by simp)
  · -- The timer is in the set by now.
    have hset := (OrderedSet.mem_insert hfind).mpr (Or.inl rfl)
    have hout := hadded.1.1.not_outside hset
    intro hflight
    apply hout
    simp only [Outside, List.mem_append]
    exact Or.inl (Or.inr hflight)
  · exact hadded.1.1.move rfl rfl hadded.1.1.index (List.Perm.refl _)

theorem remoteNewTimer_keeps {queue next : TimerQueue} {a : Address}
    {request : Request} {hands : List Address} {es : List Event}
    (h : Sound queue hands)
    (hcall : RemoteNewTimer clock queue a request = Except.ok (next, es)) :
    Keeps queue next hands es := by
  rcases then_eq_ok.mp hcall with ⟨made, es1, es2, hnew, hrest, rfl⟩
  have hmade := newTimer_keeps h hnew
  cases hrest
  rcases newTimer_eq_ok hnew with ⟨t, readings, hfree, hseq, rfl, rfl⟩
  refine ⟨⟨?_, ?_⟩, ?_⟩
  · refine hmade.1.1.move rfl rfl hmade.1.1.index ?_
    exact List.perm_middle
  · -- The new timer has a number that was never issued.
    have hkept := hmade.1.2
    refine ⟨hkept.pos, hkept.le, hkept.address, ?_, hkept.queued⟩
    intro i b hi hb hs
    rcases List.mem_cons.mp hb with rfl | hold
    · rcases (liveAt_new rfl).mp hs with ⟨_, hsame⟩ | ⟨hne, _⟩
      · have hle := h.2.le i hi
        omega
      · exact hne rfl
    · exact hkept.flight i b hi hold hs
  · exact ⟨hmade.2.count_le, hmade.2.live, by simp⟩

theorem remoteRunInLoop_keeps {queue next : TimerQueue} {a : Address}
    {hands : List Address} {es : List Event}
    (h : Sound queue hands)
    (hcall : RemoteRunInLoop queue a = Except.ok (next, es)) :
    Keeps queue next hands es := by
  unfold RemoteRunInLoop at hcall
  split at hcall
  · rename_i hmem
    rcases then_eq_ok.mp hcall with ⟨issued, es1, es2, hissue, hrest, rfl⟩
    cases hrest
    rcases issue_eq_ok hissue with ⟨t, hheap, rfl, rfl⟩
    have hnodup := h.1.nodup
    have hflight : queue.inFlight.Nodup :=
      (List.nodup_append.mp (List.nodup_append.mp hnodup).2.1).1
    refine issue_keeps h ?_ ?_ rfl rfl ⟨t, hheap, rfl⟩ ?_ ?_ (by simp)
    · intro ha
      exact (hflight.mem_erase_iff.mp ha).1 rfl
    · refine h.1.move rfl rfl h.1.index ?_
      -- The timer moves from its creator to the end of the queue.
      apply List.Perm.append_left hands
      simp only [queuedTimers_append, queuedTimers_add, queuedTimers_nil,
        List.append_assoc, List.cons_append, List.nil_append]
      refine List.Perm.trans
        (List.perm_middle.append_left (queue.inFlight.erase a)) ?_
      apply List.perm_middle.trans
      exact (List.perm_cons_erase hmem).symm.append_right _
    · intro b hb
      exact List.mem_of_mem_erase hb
    · intro i hi
      simpa using hi
  · cases hcall

theorem cancelTimer_keeps {queue next : TimerQueue} {i : TimerIndex}
    {hands : List Address} {es : List Event}
    (h : Sound queue hands)
    (hcall : CancelTimer queue i = Except.ok (next, es)) :
    Keeps queue next hands es := by
  unfold CancelTimer at hcall
  split at hcall
  · exact cancelTimerInLoop_keeps h ‹_› hcall
  · cases hcall

theorem remoteCancelTimer_keeps {queue next : TimerQueue} {i : TimerIndex}
    {hands : List Address} {es : List Event}
    (h : Sound queue hands)
    (hcall : RemoteCancelTimer queue i = Except.ok (next, es)) :
    Keeps queue next hands es := by
  unfold RemoteCancelTimer at hcall
  split at hcall
  · rename_i hcirculates
    cases hcall
    refine ⟨⟨?_, ?_⟩, onward_of_quiet rfl rfl (by simp)⟩
    · refine h.1.move rfl rfl h.1.index ?_
      simp [Owners]
    · refine ⟨h.2.pos, h.2.le, h.2.address, h.2.flight, ?_⟩
      intro j hj
      rcases List.mem_append.mp hj with hold | hlast
      · exact h.2.queued j hold
      · rw [List.mem_singleton] at hlast
        cases hlast
        exact hcirculates
  · cases hcall

theorem runOp_keeps {queue next : TimerQueue} {op : Op}
    {hands : List Address} {es : List Event}
    (h : Sound queue hands)
    (hcall : RunOp clock queue op = Except.ok (next, es)) :
    Keeps queue next hands es := by
  cases op with
  | addTimer timer request => exact addTimer_keeps h hcall
  | cancelTimer timerIndex => exact cancelTimer_keeps h hcall
  | remoteNewTimer timer request => exact remoteNewTimer_keeps h hcall
  | remoteRunInLoop timer => exact remoteRunInLoop_keeps h hcall
  | remoteCancelTimer timerIndex => exact remoteCancelTimer_keeps h hcall

theorem Sound.keeps_refl {queue : TimerQueue} {hands : List Address}
    (h : Sound queue hands) : Keeps queue queue hands [] :=
  ⟨h, onward_of_quiet rfl rfl (by simp)⟩

theorem runScript_keeps {queue next : TimerQueue} {script : List Op}
    {hands : List Address} {es : List Event}
    (h : Sound queue hands)
    (hcall : RunScript clock queue script = Except.ok (next, es)) :
    Keeps queue next hands es := by
  induction script generalizing queue es with
  | nil =>
      cases hcall
      exact h.keeps_refl
  | cons op rest ih =>
      rcases then_eq_ok.mp hcall with ⟨mid, es1, es2, hop, hrest, rfl⟩
      have hmid := runOp_keeps h hop
      exact hmid.trans (ih hmid.1 hrest)

end Clock
end TimerQueue
end Reactor
end Wethands
