import Wethands.Reactor.TimerQueue.Lifetime.Pointers

/-!
# What a step may do to the timers

The pointers of a state, the condition under which the loop deletes a timer,
and what every step then says of the timers it touches and deletes.
-/

namespace Wethands
namespace Reactor

open Foundation Utils

namespace TimerQueue

namespace Lifetime

/-!
# The pointers of a state
-/

def Held : Option Batch -> List TimerIndex
  | none => []
  | some batch => batch.running.toList ++ batch.rest

def Constructed : Option Adding -> List TimerIndex
  | some (Adding.constructed timer) => [timer]
  | _ => []

def Unreturned : Option Adding -> List TimerIndex
  | some (Adding.constructed timer) => [timer]
  | some (Adding.added timer) => [timer]
  | none => []

def Functor.Adds? : Functor -> Option TimerIndex
  | Functor.addTimerInLoop timer => some timer
  | Functor.cancelTimerInLoop _ => none

def Functor.Cancels? : Functor -> Option TimerIndex
  | Functor.addTimerInLoop _ => none
  | Functor.cancelTimerInLoop timerIndex => some timerIndex

def Left : Phase -> List TimerIndex
  | Phase.destroying left => left
  | _ => []

def Owned (world : World) : List TimerIndex :=
  Held world.batch ++ (Constructed world.adding ++ (world.creating ++
    (world.functors.filterMap Functor.Adds? ++ Left world.phase)))

def Unread (world : World) : List TimerIndex :=
  Unreturned world.adding ++ (world.creating ++ world.returning)

def Cancels (world : World) : List TimerIndex :=
  world.functors.filterMap Functor.Cancels?

def Arrived (world : World) : List Nat :=
  (world.queue.timers_.elems ++
    (Held world.batch ++ Left world.phase)).map TimerIndex.sequence_

def World.Sound (world : World) : Prop :=
  Intact world.queue (Owned world) (Unread world) (Cancels world)

/-- The timer that the loop thread deletes next without a cancellation. -/
def Deletes? (world : World) : Input -> Option TimerIndex
  | Input.finishTimer =>
      match world.batch with
      | some ⟨_, some timer, _⟩ =>
          if EndsWithCallback world.queue timer = true then some timer
          else none
      | _ => none
  | Input.destroyNext =>
      match world.phase with
      | Phase.destroying (timer :: _) => some timer
      | _ => none
  | _ => none

/-- Nobody in `AddTimer` has still to read the timer that is deleted. -/
def ReadFirst (world : World) (i : Input) : Prop :=
  forall timer, timer ∈ Deletes? world i ->
    timer.sequence_ ∉ (Unread world).map TimerIndex.sequence_

instance (world : World) (i : Input) : Decidable (ReadFirst world i) :=
  inferInstanceAs (Decidable (forall timer, timer ∈ Deletes? world i -> _))

/-!
# What the events say
-/

def Clean (tr : List Event) : Prop :=
  forall s before after, tr = before ++ Event.deleted s :: after ->
    Event.touched s ∉ after ∧ Event.deleted s ∉ after

def CancelsOwn (tr : List Event) : Prop :=
  forall i s before after,
    tr = before ++ Event.cancelled i (some s) :: after ->
    Event.issued s i ∈ before

structure Advances (world next : World) (es : List Event) : Prop where
  sound : next.Sound
  running : next.phase ≠ Phase.aborted
  count_le : world.queue.count_ ≤ next.queue.count_
  live : forall a s, LiveAt next.queue a s ->
    LiveAt world.queue a s ∨ world.queue.count_ < s
  followed : forall s, Event.touched s ∈ es ∨ Event.deleted s ∈ es ->
    exists a, LiveAt world.queue a s
  gone : forall s, Event.deleted s ∈ es -> forall a, ¬LiveAt next.queue a s
  clean : Clean es
  arrived : forall s, Event.reached s ∈ es ∨ s ∈ Arrived world ->
    Event.deleted s ∈ es ∨ s ∈ Arrived next
  issued : forall i, i ∈ next.queue.issued ->
    i ∈ world.queue.issued ∨ Event.issued i.sequence_ i ∈ es
  cancelled : forall i s, Event.cancelled i (some s) ∈ es ->
    i ∈ world.queue.issued ∧ s = i.sequence_

def Event.Ends : Event -> Bool
  | Event.deleted _ => true
  | Event.cancelled _ (some _) => true
  | _ => false

theorem not_ends_of_mem {es : List Event} (h : es.all (!Event.Ends ·) = true) :
    (forall s, Event.deleted s ∉ es) ∧
      forall i s, Event.cancelled i (some s) ∉ es := by
  rw [List.all_eq_true] at h
  constructor
  · intro s hmem
    have hnot := h _ hmem
    simp [Event.Ends] at hnot
  · intro i s hmem
    have hnot := h _ hmem
    simp [Event.Ends] at hnot

theorem Advances.peaceful {world next : World} {es : List Event}
    (hends : es.all (!Event.Ends ·) = true) (hsound : next.Sound)
    (hrunning : next.phase ≠ Phase.aborted)
    (hcount : world.queue.count_ ≤ next.queue.count_)
    (hlive : forall a s, LiveAt next.queue a s ->
      LiveAt world.queue a s ∨ world.queue.count_ < s)
    (htouched : forall s, Event.touched s ∈ es ->
      exists a, LiveAt world.queue a s)
    (harrived : forall s, Event.reached s ∈ es ∨ s ∈ Arrived world ->
      s ∈ Arrived next)
    (hissued : forall i, i ∈ next.queue.issued ->
      i ∈ world.queue.issued ∨ Event.issued i.sequence_ i ∈ es) :
    Advances world next es where
  sound := hsound
  running := hrunning
  count_le := hcount
  live := hlive
  followed := by
    rintro s (hmem | hmem)
    · exact htouched s hmem
    · exact absurd hmem ((not_ends_of_mem hends).1 s)
  gone := fun s hmem => absurd hmem ((not_ends_of_mem hends).1 s)
  clean := by
    intro s before after hsplit
    apply absurd _ ((not_ends_of_mem hends).1 s)
    rw [hsplit]
    exact List.mem_append.mpr (Or.inr List.mem_cons_self)
  arrived := fun s hs => Or.inr (harrived s hs)
  issued := hissued
  cancelled := fun i s hmem => absurd hmem ((not_ends_of_mem hends).2 i s)

theorem follow_eq_some {world next : World} {timer : TimerIndex} {e : Event}
    {result : Result} {es : List Event}
    (h : Follow world timer e result = some (next, es))
    (hlive : LiveAt world.queue timer.timer_ timer.sequence_) :
    exists es', result = some (next, es') ∧ es = e :: es' := by
  rw [Follow, if_pos (valid_iff.mpr hlive)] at h
  rcases Option.map_eq_some_iff.mp h with ⟨⟨last, es'⟩, hresult, heq⟩
  cases heq
  exact ⟨es', hresult, rfl⟩

theorem inQueue_eq_some {world next : World}
    {call : Call TimerQueue TimerQueue.Event} {es es' : List Event}
    (h : InQueue world call es = some (next, es')) :
    exists queue tr, call = Except.ok (queue, tr) ∧
      next = { world with queue := queue } ∧ es' = es := by
  unfold InQueue at h
  split at h
  · cases h
  · cases h
    exact ⟨_, _, rfl, rfl, rfl⟩

theorem Advances.handed {world next : World} (hsound : next.Sound)
    (hrunning : next.phase ≠ Phase.aborted)
    (hqueue : next.queue = world.queue)
    (harrived : forall s, s ∈ Arrived world -> s ∈ Arrived next) :
    Advances world next [] := by
  refine Advances.peaceful rfl hsound hrunning (by rw [hqueue]) ?_
    (by simp) ?_ ?_
  · intro a s hlive
    rw [hqueue] at hlive
    exact Or.inl hlive
  · rintro s (hmem | hold)
    · cases hmem
    · exact harrived s hold
  · intro i hi
    rw [hqueue] at hi
    exact Or.inl hi

end Lifetime
end TimerQueue
end Reactor
end Wethands
