import Wethands.Reactor.TimerQueue.Batch
import Wethands.Reactor.TimerQueue.Cancel
import Wethands.Reactor.TimerQueue.Lifetime.Model

/-!
# Where the pointers to timers are

The running code and other threads own the timers outside of the set, and some
threads have yet to read theirs, whoever owns it by now.  As long as each of
these pointers is one to a timer that is there, each operation of the queue
leaves them so.
-/

namespace Wethands
namespace Reactor

open Foundation Utils

namespace TimerQueue

namespace Lifetime

theorem Sound.perm {queue : TimerQueue} {hands hands' : List Address}
    (h : Sound queue hands) (hperm : hands'.Perm hands) :
    Sound queue hands' :=
  ⟨h.1.move rfl rfl h.1.index (hperm.append_right _),
    h.2.pos, h.2.le, h.2.address, h.2.flight, h.2.queued⟩

/--
`owned` are the pointers of those who have to see to their timers, `unread`
those that are still to be read for an index, and `cancels` the indices of the
cancellations that wait.
-/
structure Intact (queue : TimerQueue) (owned unread cancels : List TimerIndex) :
    Prop where
  sound : Sound queue (owned.map TimerIndex.timer_)
  ownedLive : forall i, i ∈ owned -> LiveAt queue i.timer_ i.sequence_
  unreadLive : forall i, i ∈ unread -> LiveAt queue i.timer_ i.sequence_
  once : (unread.map TimerIndex.sequence_).Nodup
  unissued : forall i, i ∈ queue.issued ->
    i.sequence_ ∉ unread.map TimerIndex.sequence_
  circulates : forall i, i ∈ cancels -> Circulates queue i
  grounded : queue.inFlight = []

variable {queue next : TimerQueue}
  {owned unread cancels owned' unread' : List TimerIndex} {i : TimerIndex}

theorem valid_iff : Valid queue i <-> LiveAt queue i.timer_ i.sequence_ := by
  unfold Valid LiveAt
  exact Option.map_eq_some_iff

theorem intact_init : Intact TimerQueue.Init [] [] [] where
  sound := sound_init
  ownedLive := by simp
  unreadLive := by simp
  once := List.nodup_nil
  unissued := by simp
  circulates := by simp
  grounded := rfl

theorem Intact.perm (h : Intact queue owned unread cancels)
    (howned : owned'.Perm owned) (hunread : unread'.Perm unread) :
    Intact queue owned' unread' cancels where
  sound := Sound.perm h.sound (howned.map _)
  ownedLive := fun j hj => h.ownedLive j (howned.mem_iff.mp hj)
  unreadLive := fun j hj => h.unreadLive j (hunread.mem_iff.mp hj)
  once := (hunread.map _).nodup_iff.mpr h.once
  unissued := by
    intro j hj hmem
    exact h.unissued j hj ((hunread.map _).mem_iff.mp hmem)
  circulates := h.circulates
  grounded := h.grounded

theorem liveAt_unique {a : Address} {s s' : Nat} (h : LiveAt queue a s)
    (h' : LiveAt queue a s') : s = s' := by
  rcases h with ⟨t, ht, rfl⟩
  rcases h' with ⟨t', ht', rfl⟩
  rw [ht] at ht'
  cases ht'
  rfl

theorem Intact.owned_ne {rest : List TimerIndex}
    (h : Intact queue (i :: rest) unread cancels) {j : TimerIndex}
    (hj : j ∈ rest) : j.timer_ ≠ i.timer_ := by
  intro hsame
  apply h.sound.1.not_mem_of_hand
  apply List.mem_append.mpr
  exact Or.inl (List.mem_map.mpr ⟨j, hj, hsame⟩)

/-!
# A new timer
-/

theorem Intact.newTimer {clock : Nat -> Timestamp} {timer : Address}
    {request : Request} {es : List TimerQueue.Event} {object : Timer}
    (h : Intact queue owned unread cancels)
    (hcall : TimerQueue.NewTimer clock queue timer request =
      Except.ok (next, es))
    (hobject : next.heap timer = some object) :
    Intact next (IndexOf timer object :: owned)
      (IndexOf timer object :: unread) cancels ∧
      object.sequence_ = queue.count_ + 1 ∧ next.issued = queue.issued := by
  have hkeeps := newTimer_keeps h.sound hcall
  rcases newTimer_eq_ok hcall with ⟨t, readings, hfree, hseq, _, rfl⟩
  dsimp only at hobject
  rw [Function.update_self] at hobject
  cases hobject
  have hold : forall j : TimerIndex,
      LiveAt queue j.timer_ j.sequence_ ->
      LiveAt { queue with
        count_ := queue.count_ + 1
        heap := Function.update queue.heap timer (some object)
        readings := readings } j.timer_ j.sequence_ := by
    intro j hlive
    refine (liveAt_new rfl).mpr (Or.inr ⟨?_, hlive⟩)
    intro hsame
    rcases hlive with ⟨u, hu, _⟩
    rw [hsame, hfree] at hu
    cases hu
  have hnew : LiveAt { queue with
      count_ := queue.count_ + 1
      heap := Function.update queue.heap timer (some object)
      readings := readings } timer object.sequence_ :=
    (liveAt_new rfl).mpr (Or.inl ⟨rfl, rfl⟩)
  refine ⟨⟨hkeeps.1, ?_, ?_, ?_, ?_, h.circulates, h.grounded⟩, hseq,
    rfl⟩
  · intro j hj
    rcases List.mem_cons.mp hj with rfl | hrest
    · exact hnew
    · exact hold j (h.ownedLive j hrest)
  · intro j hj
    rcases List.mem_cons.mp hj with rfl | hrest
    · exact hnew
    · exact hold j (h.unreadLive j hrest)
  · -- No number that was given out is as large.
    rw [List.map_cons, List.nodup_cons]
    refine ⟨fun hmem => ?_, h.once⟩
    rcases List.mem_map.mp hmem with ⟨j, hj, hsame⟩
    have hle := h.sound.1.sequence_le _ _ (h.unreadLive j hj)
    rw [hsame] at hle
    simp only [IndexOf] at hle
    omega
  · intro j hj hmem
    rw [List.map_cons] at hmem
    rcases List.mem_cons.mp hmem with hsame | hrest
    · have hle := h.sound.2.le j hj
      simp only [IndexOf] at hsame
      omega
    · exact h.unissued j hj hrest

/-!
# Timers that stay
-/

theorem Intact.move (h : Intact queue owned unread cancels)
    (hsound : Sound next (owned'.map TimerIndex.timer_))
    (hheap : next.heap = queue.heap) (hissued : next.issued = queue.issued)
    (hflight : next.inFlight = queue.inFlight)
    (howned : forall j, j ∈ owned' -> LiveAt queue j.timer_ j.sequence_) :
    Intact next owned' unread cancels where
  sound := hsound
  ownedLive := fun j hj => (liveAt_of_heap_eq hheap).mpr (howned j hj)
  unreadLive := fun j hj => (liveAt_of_heap_eq hheap).mpr (h.unreadLive j hj)
  once := h.once
  unissued := by rw [hissued]; exact h.unissued
  circulates := fun j hj =>
    (circulates_of_issued_eq hissued).mpr (h.circulates j hj)
  grounded := hflight.trans h.grounded

theorem Intact.addTimerInLoop {clock : Nat -> Timestamp}
    {es : List TimerQueue.Event}
    (h : Intact queue (i :: owned) unread cancels)
    (hcall : TimerQueue.AddTimerInLoop clock queue i.timer_ =
      Except.ok (next, es)) :
    Intact next owned unread cancels := by
  have hkeeps := addTimerInLoop_keeps h.sound hcall
  rcases addTimerInLoop_eq_ok hcall with
    ⟨t, timerfd, readings, armed, _, _, rfl, _, _⟩
  exact h.move hkeeps.1 rfl rfl rfl
    (fun j hj => h.ownedLive j (List.mem_cons_of_mem _ hj))

theorem Intact.restart {t : Timer}
    (h : Intact queue (i :: owned) unread cancels)
    (ht : queue.heap i.timer_ = some t) (now : Timestamp) :
    Intact { queue with
      heap := Function.update queue.heap i.timer_ (some (t.Restart now)) }
      (i :: owned) unread cancels := by
  have hlive : forall j : TimerIndex,
      LiveAt queue j.timer_ j.sequence_ ->
      LiveAt { queue with
        heap := Function.update queue.heap i.timer_ (some (t.Restart now)) }
        j.timer_ j.sequence_ := by
    intro j hj
    apply (liveAt_new rfl).mpr
    by_cases hsame : j.timer_ = i.timer_
    · rw [hsame] at hj
      exact Or.inl ⟨hsame,
        (Timer.restart_sequence t now).trans (liveAt_unique ⟨t, ht, rfl⟩ hj)⟩
    · exact Or.inr ⟨hsame, hj⟩
  exact ⟨(restart_keeps h.sound ht now).1,
    fun j hj => hlive j (h.ownedLive j hj),
    fun j hj => hlive j (h.unreadLive j hj),
    h.once, h.unissued, h.circulates, h.grounded⟩

theorem Intact.getExpired (h : Intact queue owned unread cancels)
    (now : Timestamp) (timerfd : Timerfd) (readings : Nat) :
    Intact (GetExpired { queue with
        timerfd_ := timerfd
        readings := readings } now).2
      ((GetExpired { queue with
        timerfd_ := timerfd
        readings := readings } now).1 ++ owned) unread cancels := by
  have hbatch := getExpired_holdsBatch
    (h.sound.set_timerfd timerfd readings) now
  refine h.move ?_ rfl rfl rfl ?_
  · rw [List.map_append]
    exact hbatch.sound
  · intro j hj
    rcases List.mem_append.mp hj with hexpired | hold
    · exact hbatch.live j hexpired
    · exact h.ownedLive j hold

theorem Intact.takeAll (h : Intact queue owned unread cancels) :
    Intact { queue with timers_ := OrderedSet.Empty TimerIndex.Less }
      (queue.timers_.elems ++ owned) unread cancels := by
  have hgood := h.sound.1
  refine h.move ⟨hgood.move rfl rfl ?_ ?_, h.sound.2.pos, h.sound.2.le,
    h.sound.2.address, h.sound.2.flight, h.sound.2.queued⟩ rfl rfl rfl
    ?_
  · simp [OrderedSet.Empty, OrderedSet.mem_def]
  · simp only [Owners, OrderedSet.Empty, List.map_append, List.map_nil,
      List.append_nil, List.append_assoc]
    refine List.perm_append_comm.trans ?_
    simp only [List.append_assoc]
    exact List.Perm.refl _
  · intro j hj
    rcases List.mem_append.mp hj with hset | hold
    · rcases hgood.index j hset with ⟨t, ht, heq⟩
      exact ⟨t, ht, by rw [heq]; rfl⟩
    · exact h.ownedLive j hold

theorem Intact.rearm {clock : Nat -> Timestamp}
    (h : Intact queue owned unread cancels) :
    Intact (Rearm clock queue).1 owned unread cancels := by
  rcases rearm_frame clock queue with ⟨timerfd, readings, es, hrearm, _⟩
  rw [hrearm]
  exact h.move (h.sound.set_timerfd timerfd readings) rfl rfl rfl
    h.ownedLive

theorem Intact.issue (h : Intact queue owned (i :: unread) cancels) :
    Intact { queue with issued := i :: queue.issued } owned unread
      cancels := by
  have hlive := h.unreadLive i List.mem_cons_self
  have honce := h.once
  rw [List.map_cons, List.nodup_cons] at honce
  have hissued := h.sound.2
  refine ⟨⟨⟨h.sound.1.nodup, h.sound.1.live, h.sound.1.index,
    h.sound.1.sequence_le, h.sound.1.sequence_inj⟩, ⟨hissued.pos, ?_, ?_, ?_,
    ?_⟩⟩, h.ownedLive, fun j hj => h.unreadLive j (List.mem_cons_of_mem _ hj),
    honce.2, ?_, ?_, h.grounded⟩
  · intro j hj
    rcases List.mem_cons.mp hj with rfl | hold
    · exact h.sound.1.sequence_le _ _ hlive
    · exact hissued.le j hold
  · intro j a hj ha
    rcases List.mem_cons.mp hj with rfl | hold
    · exact h.sound.1.sequence_inj _ _ _ ha hlive
    · exact hissued.address j a hold ha
  · intro j a _ ha
    rw [h.grounded] at ha
    cases ha
  · intro j hj
    rcases hissued.queued j hj with hdefault | hold
    · exact Or.inl hdefault
    · exact Or.inr (List.mem_cons_of_mem _ hold)
  · intro j hj
    rcases List.mem_cons.mp hj with rfl | hold
    · exact honce.1
    · intro hmem
      exact h.unissued j hold (List.mem_cons_of_mem _ hmem)
  · intro j hj
    rcases h.circulates j hj with hdefault | hold
    · exact Or.inl hdefault
    · exact Or.inr (List.mem_cons_of_mem _ hold)

/-!
# Timers that go
-/

theorem Intact.drop (h : Intact queue owned' unread cancels)
    (hsound : Sound next (owned.map TimerIndex.timer_))
    (hheap : next.heap = Function.update queue.heap i.timer_ none)
    (hissued : next.issued = queue.issued)
    (hflight : next.inFlight = queue.inFlight)
    (hlive : LiveAt queue i.timer_ i.sequence_)
    (howned : forall j, j ∈ owned -> j ∈ owned' ∧ j.timer_ ≠ i.timer_)
    (hunread : i.sequence_ ∉ unread.map TimerIndex.sequence_) :
    Intact next owned unread cancels where
  sound := hsound
  ownedLive := by
    intro j hj
    exact (liveAt_delete hheap).mpr
      ⟨(howned j hj).2, h.ownedLive j (howned j hj).1⟩
  unreadLive := by
    intro j hj
    have hold := h.unreadLive j hj
    refine (liveAt_delete hheap).mpr ⟨fun hsame => ?_, hold⟩
    rw [hsame] at hold
    apply hunread
    rw [liveAt_unique hlive hold]
    exact List.mem_map.mpr ⟨j, hj, rfl⟩
  once := h.once
  unissued := by rw [hissued]; exact h.unissued
  circulates := fun j hj =>
    (circulates_of_issued_eq hissued).mpr (h.circulates j hj)
  grounded := hflight.trans h.grounded

theorem Intact.delete {es : List TimerQueue.Event}
    (h : Intact queue (i :: owned) unread cancels)
    (hcall : queue.Delete i.timer_ = Except.ok (next, es))
    (hunread : i.sequence_ ∉ unread.map TimerIndex.sequence_) :
    Intact next owned unread cancels := by
  have hkeeps := delete_keeps h.sound hcall
  rcases delete_eq_ok hcall with ⟨_, rfl⟩
  exact h.drop hkeeps.1 rfl rfl rfl (h.ownedLive i List.mem_cons_self)
    (fun j hj => ⟨List.mem_cons_of_mem _ hj, h.owned_ne hj⟩) hunread

theorem Intact.cancel {es : List TimerQueue.Event}
    (h : Intact queue owned unread cancels) (hi : Circulates queue i)
    (hcall : TimerQueue.CancelTimerInLoop queue i = Except.ok (next, es)) :
    Intact next owned unread cancels ∧
      (queue.timers_.Find i = none ∧ next = queue ∨
        i ∈ queue.timers_ ∧ i ∈ queue.issued ∧
          LiveAt queue i.timer_ i.sequence_ ∧
          next = { queue with
            timers_ := queue.timers_.Erase i
            heap := Function.update queue.heap i.timer_ none }) := by
  have hkeeps := cancelTimerInLoop_keeps h.sound hi hcall
  rcases cancelTimerInLoop_eq_ok hcall with
    ⟨_, ⟨hfind, rfl⟩ | ⟨found, hfind, rfl⟩⟩
  · exact ⟨h, Or.inl ⟨hfind, rfl⟩⟩
  · have hfound := find_of_circulates h.sound hi hfind
    subst hfound
    have hmem : found ∈ queue.timers_ := (OrderedSet.find_eq_some hfind).1
    have hlive : LiveAt queue found.timer_ found.sequence_ := by
      rcases h.sound.1.index found hmem with ⟨t, ht, heq⟩
      exact ⟨t, ht, by rw [heq]; rfl⟩
    have hissued : found ∈ queue.issued := by
      rcases hi with rfl | hissued
      · exact absurd (h.sound.2.pos _ _ hlive) (Nat.lt_irrefl 0)
      · exact hissued
    refine ⟨?_, Or.inr ⟨hmem, hissued, hlive, rfl⟩⟩
    refine h.drop hkeeps.1 rfl rfl rfl hlive (fun j hj => ⟨hj, ?_⟩)
      (h.unissued found hissued)
    intro hsame
    apply h.sound.1.not_outside hmem
    simp only [Outside, List.mem_append]
    exact Or.inl (Or.inl (List.mem_map.mpr ⟨j, hj, hsame⟩))

end Lifetime
end TimerQueue
end Reactor
end Wethands
