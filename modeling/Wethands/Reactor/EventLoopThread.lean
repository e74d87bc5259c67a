import Wethands.Foundation.Outcome
import Wethands.Reactor.EventLoop.Model

/-!
# The thread of a loop

The owner starts the thread, waits for the latch and destroys the object; the
thread keeps its `EventLoop` on the stack.  A step is one access to what they
share, so a run is an arbitrary interleaving.
-/

namespace Wethands
namespace Reactor

open Foundation

namespace EventLoopThread

/-- Where the thread stands in `LoopInThread()`. -/
inductive Child where
  | created
  | constructing
  | initializing
  | publishing
  | countingDown
  | entering
  | looping
  | exited
deriving DecidableEq

/-- Where the owner stands between `StartLoop()` and the end of the object. -/
inductive Owner where
  | outside
  | waiting
  | holding
  | quitting
  | waking
  | joining
  | destroyed
deriving DecidableEq

end EventLoopThread

open EventLoopThread

/--
`loop_` tells whether the pointer is set, and `loop` is the object that it
points to as long as the object exists.
-/
structure EventLoopThread (ThreadId Functor : Type) where
  started_ : Bool
  joined_ : Bool
  latch_ : Nat
  loop_ : Bool
  loop : Option (EventLoop ThreadId Functor)
  child : Child
  owner : Owner

namespace EventLoopThread

variable {ThreadId Functor : Type}

def New (ThreadId Functor : Type) : EventLoopThread ThreadId Functor where
  started_ := false
  joined_ := false
  latch_ := 1
  loop_ := false
  loop := none
  child := Child.created
  owner := Owner.outside

/--
A step of the loop thread inside of `Loop()` is a step of the loop, and so is
what other threads do with it.
-/
inductive Input (ThreadId Functor : Type) where
  | startLoop (succeeds : Bool)
  | latchOpens
  | destruct
  | quit
  | wakeup
  | join
  | construct
  | initCallback
  | publish
  | countDown
  | enter
  | loop (input : EventLoop.Input ThreadId Functor)
  | remoteQueueInLoop (tid : ThreadId) (cb : Functor)
  | remoteWakeup (tid : ThreadId)
  | destroyLoop

/-!
# Member functions
-/

section Steps

variable [DecidableEq ThreadId]

/-- A step of the loop that must be possible. -/
def Advance (thread : EventLoopThread ThreadId Functor)
    (loop : EventLoop ThreadId Functor)
    (input : EventLoop.Input ThreadId Functor) :
    Call (EventLoopThread ThreadId Functor) (EventLoop.Event Functor) :=
  match EventLoop.Step loop input with
  | none => Except.error Failure.impossible
  | some (next, es) => Except.ok ({ thread with loop := some next }, es)

/-- A thread follows a pointer to the loop. -/
def Follow (thread : EventLoopThread ThreadId Functor)
    (input : EventLoop.Input ThreadId Functor) :
    Call (EventLoopThread ThreadId Functor) (EventLoop.Event Functor) :=
  match thread.loop with
  | none => Except.error Failure.danglingPointer
  | some loop => Advance thread loop input

/-- The new thread is at its work before `Start()` comes back. -/
def StartLoop (thread : EventLoopThread ThreadId Functor) (succeeds : Bool) :
    Call (EventLoopThread ThreadId Functor) (EventLoop.Event Functor) :=
  Assert (thread.started_ = false)
    (if succeeds then
      Except.ok ({ thread with
        started_ := true
        child := Child.constructing
        owner := Owner.waiting }, [])
    else Except.error Failure.sysFatal)

def Join (thread : EventLoopThread ThreadId Functor) :
    Call (EventLoopThread ThreadId Functor) (EventLoop.Event Functor) :=
  Assert (thread.started_ = true)
    (Assert (thread.joined_ = false)
      (if thread.child = Child.exited then
        Except.ok ({ thread with
          joined_ := true
          owner := Owner.destroyed }, [])
      else Except.error Failure.impossible))

/-- `Loop()` up to the test of `quit_`, with the assertion at its entry. -/
def EnterLoop (thread : EventLoopThread ThreadId Functor) :
    Call (EventLoopThread ThreadId Functor) (EventLoop.Event Functor) :=
  match thread.loop with
  | none => Except.error Failure.danglingPointer
  | some loop =>
      Assert (loop.quit_ = false)
        (Advance { thread with child := Child.looping } loop
          EventLoop.Input.loop)

/-- The steps that the loop thread takes inside of `Loop()`. -/
def InLoop : EventLoop.Input ThreadId Functor -> Bool
  | EventLoop.Input.remoteQueueInLoop _ _ | EventLoop.Input.remoteQuit _
  | EventLoop.Input.remoteWakeup _ => false
  | _ => true

def Outside (owner : ThreadId) (thread : EventLoopThread ThreadId Functor) :
    Bool :=
  match thread.loop with
  | none => true
  | some loop => loop.callers owner = EventLoop.Caller.outside

def Remote (owner : ThreadId) (thread : EventLoopThread ThreadId Functor)
    (tid : ThreadId) (input : EventLoop.Input ThreadId Functor) :
    Call (EventLoopThread ThreadId Functor) (EventLoop.Event Functor) :=
  match thread.loop with
  | none => Except.error Failure.impossible
  | some loop =>
      if tid ≠ owner ∨ thread.owner = Owner.holding then
        Advance thread loop input
      else Except.error Failure.impossible

def Perform (owner : ThreadId) (thread : EventLoopThread ThreadId Functor)
    (i : Input ThreadId Functor) :
    Call (EventLoopThread ThreadId Functor) (EventLoop.Event Functor) :=
  match i, thread.owner, thread.child with
  | Input.startLoop succeeds, Owner.outside, _ => StartLoop thread succeeds
  | Input.latchOpens, Owner.waiting, _ =>
      if thread.latch_ = 0 then
        Except.ok ({ thread with owner := Owner.holding }, [])
      else Except.error Failure.impossible
  | Input.destruct, Owner.outside, _ | Input.destruct, Owner.holding, _ =>
      if Outside owner thread then
        Except.ok ({ thread with
          owner :=
            if thread.loop_ then Owner.quitting else Owner.destroyed }, [])
      else Except.error Failure.impossible
  | Input.quit, Owner.quitting, _ =>
      Follow { thread with owner := Owner.waking }
        (EventLoop.Input.remoteQuit owner)
  | Input.wakeup, Owner.waking, _ =>
      Follow { thread with owner := Owner.joining }
        (EventLoop.Input.remoteWakeup owner)
  | Input.join, Owner.joining, _ => Join thread
  | Input.construct, _, Child.constructing =>
      Except.ok ({ thread with
        loop := some (EventLoop.Init ThreadId Functor)
        child := Child.initializing }, [])
  | Input.initCallback, _, Child.initializing =>
      Except.ok ({ thread with child := Child.publishing }, [])
  | Input.publish, _, Child.publishing =>
      Except.ok ({ thread with
        loop_ := true
        child := Child.countingDown }, [])
  | Input.countDown, _, Child.countingDown =>
      Except.ok ({ thread with
        latch_ := thread.latch_ - 1
        child := Child.entering }, [])
  | Input.enter, _, Child.entering => EnterLoop thread
  | Input.loop input, _, Child.looping =>
      if InLoop input then Follow thread input
      else Except.error Failure.impossible
  | Input.remoteQueueInLoop tid cb, _, _ =>
      Remote owner thread tid (EventLoop.Input.remoteQueueInLoop tid cb)
  | Input.remoteWakeup tid, _, _ =>
      Remote owner thread tid (EventLoop.Input.remoteWakeup tid)
  | Input.destroyLoop, _, Child.looping =>
      match thread.loop with
      | none => Except.error Failure.danglingPointer
      | some loop =>
          match loop.phase with
          | EventLoop.Phase.returned =>
              Except.ok ({ thread with
                loop := none
                child := Child.exited }, [])
          | _ => Except.error Failure.impossible
  | _, _, _ => Except.error Failure.impossible

def ThreadMachine (Functor : Type) (owner : ThreadId) :
    Machine (EventLoopThread ThreadId Functor) (Input ThreadId Functor)
      (EventLoop.Event Functor) where
  Step thread i := Answer (Perform owner thread i)

end Steps

/-!
# What holds between the steps
-/

def Fresh (loop : EventLoop ThreadId Functor) : Prop :=
  loop.phase = EventLoop.Phase.constructed ∧ loop.quit_ = false

def Stands (thread : EventLoopThread ThreadId Functor) : Child -> Prop
  | Child.created | Child.constructing =>
      thread.latch_ = 1 ∧ thread.loop = none
  | Child.initializing | Child.publishing | Child.countingDown =>
      thread.latch_ = 1 ∧ exists loop, thread.loop = some loop ∧ Fresh loop
  | Child.entering =>
      thread.latch_ = 0 ∧ exists loop, thread.loop = some loop ∧ Fresh loop
  | Child.looping =>
      thread.latch_ = 0 ∧ exists loop, thread.loop = some loop
  | Child.exited => thread.latch_ = 0 ∧ thread.loop = none

section Invariant

def Opened (thread : EventLoopThread ThreadId Functor) : Prop :=
  thread.started_ = true ∧ thread.joined_ = false ∧ thread.latch_ = 0

def Waits (owner : ThreadId) (thread : EventLoopThread ThreadId Functor) :
    Owner -> Prop
  | Owner.outside =>
      thread.child = Child.created ∧ thread.started_ = false ∧
        thread.joined_ = false ∧ thread.loop_ = false
  | Owner.waiting => thread.started_ = true ∧ thread.joined_ = false
  | Owner.quitting => Opened thread ∧ Outside owner thread = true
  | Owner.waking => Opened thread ∧ thread.child ≠ Child.entering
  | Owner.holding | Owner.joining => Opened thread
  | Owner.destroyed => True

structure Sane (owner : ThreadId) (thread : EventLoopThread ThreadId Functor) :
    Prop where
  stands : Stands thread thread.child
  waits : Waits owner thread thread.owner

theorem sane_new (owner : ThreadId) :
    Sane owner (New ThreadId Functor) where
  stands := ⟨rfl, rfl⟩
  waits := ⟨rfl, rfl, rfl, rfl⟩

variable {owner tid : ThreadId} {thread next : EventLoopThread ThreadId Functor}
  {loop : EventLoop ThreadId Functor}

theorem outside_of_callers {before after : EventLoop ThreadId Functor}
    (hbefore : thread.loop = some before) (hafter : next.loop = some after)
    (hsame : after.callers owner = before.callers owner)
    (h : Outside owner thread = true) : Outside owner next = true := by
  rw [Outside, hbefore] at h
  rw [Outside, hafter]
  simpa only [hsame] using h

theorem waits_step (h : Waits owner thread thread.owner)
    (hmoved : thread.child ≠ Child.created)
    (howner : next.owner = thread.owner)
    (hstarted : next.started_ = thread.started_)
    (hjoined : next.joined_ = thread.joined_)
    (hlatch : thread.latch_ = 0 -> next.latch_ = 0)
    (hentering : thread.latch_ = 0 -> next.child = Child.entering ->
      thread.child = Child.entering)
    (houtside : thread.owner ≠ Owner.holding ->
      Outside owner thread = true -> Outside owner next = true) :
    Waits owner next next.owner := by
  have hopened : Opened thread -> Opened next := by
    intro hopened
    rcases hopened with ⟨hone, htwo, hthree⟩
    exact ⟨hstarted.trans hone, hjoined.trans htwo, hlatch hthree⟩
  rw [howner]
  cases hplace : thread.owner with
  | outside =>
      rw [hplace] at h
      exact absurd h.1 hmoved
  | waiting =>
      rw [hplace] at h
      exact ⟨hstarted.trans h.1, hjoined.trans h.2⟩
  | quitting =>
      rw [hplace] at h houtside
      exact ⟨hopened h.1, houtside (by decide) h.2⟩
  | waking =>
      rw [hplace] at h
      exact ⟨hopened h.1, fun hchild => h.2 (hentering h.1.2.2 hchild)⟩
  | holding | joining =>
      rw [hplace] at h
      exact hopened h
  | destroyed => trivial

theorem startLoop_sane (h : Sane owner thread)
    (howner : thread.owner = Owner.outside) (succeeds : Bool) :
    Ensures (StartLoop thread succeeds) (fun next _ => Sane owner next) := by
  have hwaits := h.waits
  have hstands := h.stands
  rw [howner] at hwaits
  rcases hwaits with ⟨hchild, hstarted, hjoined, _⟩
  rw [hchild] at hstands
  refine Ensures.assert hstarted ?_
  cases succeeds with
  | false => exact ensures_sysFatal
  | true => exact ⟨hstands, rfl, hjoined⟩

theorem destruct_sane (h : Sane owner thread)
    (howner : thread.owner = Owner.outside ∨ thread.owner = Owner.holding)
    (houtside : Outside owner thread = true) :
    Sane owner { thread with
      owner := if thread.loop_ then Owner.quitting else Owner.destroyed } := by
  refine ⟨h.stands, ?_⟩
  cases hpointer : thread.loop_ with
  | false => trivial
  | true =>
      have hwaits := h.waits
      rcases howner with hout | hholding
      · rw [hout] at hwaits
        rw [hwaits.2.2.2] at hpointer
        cases hpointer
      · rw [hholding] at hwaits
        exact ⟨hwaits, houtside⟩

theorem join_sane (h : Sane owner thread)
    (howner : thread.owner = Owner.joining) :
    Ensures (Join thread) (fun next _ => Sane owner next) := by
  have hwaits := h.waits
  rw [howner] at hwaits
  refine Ensures.assert hwaits.1 (Ensures.assert hwaits.2.1 ?_)
  split
  · exact ⟨h.stands, trivial⟩
  · exact ensures_impossible

variable [DecidableEq ThreadId]

theorem callers_inLoop {input : EventLoop.Input ThreadId Functor}
    {after : EventLoop ThreadId Functor} {es : List (EventLoop.Event Functor)}
    (hstep : EventLoop.Step loop input = some (after, es))
    (hin : InLoop input = true) : after.callers = loop.callers := by
  unfold EventLoop.Step at hstep
  split at hstep
  all_goals
    first
      | cases hin; done
      | cases hstep <;> rfl
      | split at hstep <;> cases hstep <;> rfl

theorem advance_eq_ok {input : EventLoop.Input ThreadId Functor}
    {es : List (EventLoop.Event Functor)} :
    Advance thread loop input = Except.ok (next, es) <->
      exists after, EventLoop.Step loop input = some (after, es) ∧
        next = { thread with loop := some after } := by
  unfold Advance
  split
  · rename_i hstep
    simp [hstep]
  · rename_i after es' hstep
    rw [hstep]
    constructor
    · intro heq
      cases heq
      exact ⟨after, rfl, rfl⟩
    · intro hexists
      rcases hexists with ⟨_, heq, rfl⟩
      cases heq
      rfl

theorem remote_yields {input : EventLoop.Input ThreadId Functor}
    (hinput : (exists cb, input = EventLoop.Input.remoteQueueInLoop tid cb) ∨
      input = EventLoop.Input.remoteWakeup tid) :
    Yields (Remote owner thread tid input) (fun next _ =>
      exists before after, thread.loop = some before ∧
        next = { thread with loop := some after } ∧
        after.phase = before.phase ∧ after.quit_ = before.quit_ ∧
        (thread.owner ≠ Owner.holding ->
          after.callers owner = before.callers owner)) := by
  unfold Remote
  split
  · exact yields_error
  · rename_i before hloop
    refine Yields.only_if (fun hmay => ?_)
    intro next es hcall
    rcases advance_eq_ok.mp hcall with ⟨after, hstep, rfl⟩
    have hother : thread.owner ≠ Owner.holding -> owner ≠ tid := by
      intro hnot hsame
      exact hmay.elim (fun hne => hne hsame.symm) hnot
    rcases hinput with ⟨cb, rfl⟩ | rfl <;> simp only [EventLoop.Step] at hstep
    all_goals
      split at hstep <;> cases hstep
      refine ⟨before, _, hloop, rfl, rfl, rfl, fun hnot => ?_⟩
      exact Function.update_of_ne (hother hnot) _ _

theorem advance_ensures {Q : EventLoopThread ThreadId Functor ->
      List (EventLoop.Event Functor) -> Prop}
    {input : EventLoop.Input ThreadId Functor}
    (h : forall after es, EventLoop.Step loop input = some (after, es) ->
      Q { thread with loop := some after } es) :
    Ensures (Advance thread loop input) Q := by
  unfold Advance
  split
  · exact ensures_impossible
  · exact h _ _ ‹_›

theorem enterLoop_sane (h : Sane owner thread)
    (hchild : thread.child = Child.entering) :
    Ensures (EnterLoop thread) (fun next _ => Sane owner next) := by
  have hstands := h.stands
  rw [hchild] at hstands
  rcases hstands with ⟨hlatch, loop, hloop, _, hquit⟩
  simp only [EnterLoop, hloop]
  refine Ensures.assert hquit (advance_ensures (fun after es hstep => ?_))
  refine ⟨⟨hlatch, after, rfl⟩, ?_⟩
  refine waits_step h.waits (by rw [hchild]; decide) rfl rfl rfl id
    (fun _ hthere => by cases hthere) ?_
  intro _ houtside
  exact outside_of_callers hloop rfl
    (congrFun (callers_inLoop hstep rfl) owner) houtside

theorem follow_sane {place : Owner}
    {input : EventLoop.Input ThreadId Functor} (h : Sane owner thread)
    (hopened : Opened thread)
    (hplace : place = Owner.waking ∨ place = Owner.joining)
    (hchild : thread.child = Child.looping) :
    Ensures (Follow { thread with owner := place } input)
      (fun next _ => Sane owner next) := by
  have hstands := h.stands
  rw [hchild] at hstands
  rcases hstands with ⟨hlatch, loop, hloop⟩
  simp only [Follow, hloop]
  refine advance_ensures (fun after es _ => ⟨?_, ?_⟩)
  · show Stands _ thread.child
    rw [hchild]
    exact ⟨hlatch, after, rfl⟩
  · rcases hplace with rfl | rfl
    · exact ⟨hopened, by rw [hchild]; decide⟩
    · exact hopened

/-!
# Orderly ends
-/

/--
When the destructor stores `quit_`, and when it goes on to wake up the loop,
the loop thread is past the assertion and has not left `LoopInThread()`.
-/
def Timely (thread : EventLoopThread ThreadId Functor) :
    Input ThreadId Functor -> Prop
  | Input.quit => thread.owner = Owner.quitting -> thread.child = Child.looping
  | Input.wakeup => thread.owner = Owner.waking -> thread.child = Child.looping
  | _ => True

/-- A step that fails no assertion and follows no dangling pointer. -/
def Sound (owner : ThreadId) (thread : EventLoopThread ThreadId Functor)
    (i : Input ThreadId Functor) : Prop :=
  Ensures (Perform owner thread i) (fun _ _ => True)

theorem follow_inLoop {input : EventLoop.Input ThreadId Functor}
    (h : Sane owner thread) (hchild : thread.child = Child.looping)
    (hin : InLoop input = true) :
    Ensures (Follow thread input) (fun next _ => Sane owner next) := by
  have hstands := h.stands
  rw [hchild] at hstands
  rcases hstands with ⟨hlatch, loop, hloop⟩
  simp only [Follow, hloop]
  refine advance_ensures (fun after es hstep => ⟨?_, ?_⟩)
  · show Stands _ thread.child
    rw [hchild]
    exact ⟨hlatch, after, rfl⟩
  · refine waits_step h.waits (by rw [hchild]; decide) rfl rfl rfl id
      (fun _ => id) ?_
    intro _ houtside
    exact outside_of_callers hloop rfl
      (congrFun (callers_inLoop hstep hin) owner) houtside

theorem remote_sane {input : EventLoop.Input ThreadId Functor}
    (h : Sane owner thread)
    (hinput : (exists cb, input = EventLoop.Input.remoteQueueInLoop tid cb) ∨
      input = EventLoop.Input.remoteWakeup tid) :
    Ensures (Remote owner thread tid input)
      (fun next _ => Sane owner next) := by
  refine Ensures.of_ok (R := fun _ _ => True) ?_ ?_
  · unfold Remote
    split
    · exact ensures_impossible
    · split
      · exact advance_ensures (fun _ _ _ => trivial)
      · exact ensures_impossible
  · intro next es hcall
    rcases remote_yields hinput next es hcall with
      ⟨before, after, hloop, rfl, hphase, hquit, hcallers⟩
    have hstands := h.stands
    have hfresh : Fresh before -> Fresh after := by
      intro hfresh
      exact ⟨hphase.trans hfresh.1, hquit.trans hfresh.2⟩
    have hmoved : thread.child ≠ Child.created := by
      intro hcreated
      rw [hcreated] at hstands
      rw [hstands.2] at hloop
      cases hloop
    refine ⟨?_, ?_⟩
    · show Stands _ thread.child
      cases hchild : thread.child with
      | created | constructing | exited =>
          rw [hchild] at hstands
          rw [hstands.2] at hloop
          cases hloop
      | initializing | publishing | countingDown | entering =>
          rw [hchild] at hstands
          rcases hstands with ⟨hlatch, loop, hsome, hwas⟩
          cases hloop.symm.trans hsome
          exact ⟨hlatch, after, rfl, hfresh hwas⟩
      | looping =>
          rw [hchild] at hstands
          exact ⟨hstands.1, after, rfl⟩
    · refine waits_step h.waits hmoved rfl rfl rfl id (fun _ => id) ?_
      intro hnot houtside
      exact outside_of_callers hloop rfl (hcallers hnot) houtside

theorem sane_perform (h : Sane owner thread) {i : Input ThreadId Functor}
    (htimely : Timely thread i) :
    Ensures (Perform owner thread i) (fun next _ => Sane owner next) := by
  have hstands := h.stands
  have hwaits := h.waits
  unfold Perform
  split
  case h_1 howner => exact startLoop_sane h howner _
  case h_2 _ howner =>
    rw [howner] at hwaits
    split
    · exact ⟨hstands, hwaits.1, hwaits.2, ‹_›⟩
    · exact ensures_impossible
  case h_3 _ howner =>
    split
    · exact destruct_sane h (Or.inl howner) ‹_›
    · exact ensures_impossible
  case h_4 _ howner =>
    split
    · exact destruct_sane h (Or.inr howner) ‹_›
    · exact ensures_impossible
  case h_5 _ howner =>
    rw [howner] at hwaits
    exact follow_sane h hwaits.1 (Or.inl rfl) (htimely howner)
  case h_6 _ howner =>
    rw [howner] at hwaits
    exact follow_sane h hwaits.1 (Or.inr rfl) (htimely howner)
  case h_7 _ howner => exact join_sane h howner
  case h_8 hchild =>
    rw [hchild] at hstands
    refine ⟨⟨hstands.1, _, rfl, rfl, rfl⟩, ?_⟩
    refine waits_step hwaits (by rw [hchild]; decide) rfl rfl rfl id
      (fun _ hthere => by cases hthere) ?_
    exact fun _ _ => by simp [Outside, EventLoop.Init]
  case h_9 hchild =>
    rw [hchild] at hstands
    refine ⟨hstands, ?_⟩
    exact waits_step hwaits (by rw [hchild]; decide) rfl rfl rfl id
      (fun _ hthere => by cases hthere)
      (fun _ => id)
  case h_10 hchild =>
    rw [hchild] at hstands
    refine ⟨hstands, ?_⟩
    exact waits_step hwaits (by rw [hchild]; decide) rfl rfl rfl id
      (fun _ hthere => by cases hthere)
      (fun _ => id)
  case h_11 hchild =>
    rw [hchild] at hstands
    refine ⟨⟨?_, hstands.2⟩, ?_⟩
    · show thread.latch_ - 1 = 0
      rw [hstands.1]
    · refine waits_step hwaits (by rw [hchild]; decide) rfl rfl rfl ?_ ?_
        (fun _ => id)
      · intro hzero
        show thread.latch_ - 1 = 0
        rw [hzero]
      · intro hzero _
        rw [hstands.1] at hzero
        cases hzero
  case h_12 hchild => exact enterLoop_sane h hchild
  case h_13 input hchild =>
    split
    · exact follow_inLoop h hchild ‹_›
    · exact ensures_impossible
  case h_14 tid cb => exact remote_sane h (Or.inl ⟨cb, rfl⟩)
  case h_15 tid => exact remote_sane h (Or.inr rfl)
  case h_16 hchild =>
    rw [hchild] at hstands
    rcases hstands with ⟨hlatch, loop, hloop⟩
    simp only [hloop]
    split
    · refine ⟨⟨hlatch, rfl⟩, ?_⟩
      refine waits_step hwaits (by rw [hchild]; decide) rfl rfl rfl id
        (fun _ hthere => by cases hthere) ?_
      exact fun _ _ => rfl
    · exact ensures_impossible
  case h_17 => exact ensures_impossible

/-!
# Whole runs
-/

def Input.OfOwner : Input ThreadId Functor -> Prop
  | startLoop _ | latchOpens | destruct | quit | wakeup | join => True
  | _ => False

/--
The step is sound, and so is whatever the loop thread and other threads do
behind it while the owner does nothing more.
-/
def NeverBad (owner : ThreadId) (thread : EventLoopThread ThreadId Functor)
    (i : Input ThreadId Functor) : Prop :=
  forall more, (forall j, j ∈ more -> ¬j.OfOwner) ->
    (ThreadMachine Functor owner).Guarded (Sound owner) thread (i :: more)

omit [DecidableEq ThreadId] in
theorem timely_of_other {i : Input ThreadId Functor} (h : ¬i.OfOwner) :
    Timely thread i := by
  cases i with
  | quit | wakeup => exact absurd trivial h
  | _ => trivial

theorem sane_step {i : Input ThreadId Functor}
    {es : List (EventLoop.Event Functor)} (h : Sane owner thread)
    (htimely : Timely thread i)
    (hstep : (ThreadMachine Functor owner).Step thread i = some (next, es)) :
    Sane owner next :=
  (ensures_iff.mp (sane_perform h htimely)).2 next es
    (answer_eq_some.mp hstep)

theorem sound_of_timely (h : Sane owner thread) {i : Input ThreadId Functor}
    (htimely : Timely thread i) : Sound owner thread i :=
  (sane_perform h htimely).mono (fun _ _ _ => trivial)

theorem guarded_sound (h : Sane owner thread)
    {inputs : List (Input ThreadId Functor)}
    (htimely : (ThreadMachine Functor owner).Guarded Timely thread inputs) :
    (ThreadMachine Functor owner).Guarded (Sound owner) thread inputs := by
  induction inputs generalizing thread with
  | nil => trivial
  | cons i rest ih =>
      refine ⟨sound_of_timely h htimely.1, ?_⟩
      have hlater := htimely.2
      cases hstep : (ThreadMachine Functor owner).Step thread i with
      | none => trivial
      | some answer =>
          rw [hstep] at hlater
          exact ih (sane_step h htimely.1 hstep) hlater

theorem neverBad_of_timely (h : Sane owner thread)
    {i : Input ThreadId Functor} (htimely : Timely thread i) :
    NeverBad owner thread i := by
  intro more hmore
  apply guarded_sound h
  refine ⟨htimely, ?_⟩
  cases (ThreadMachine Functor owner).Step thread i with
  | none => trivial
  | some answer =>
      exact Machine.guarded_of_mem
        (fun s j hj => timely_of_other (hmore j hj)) answer.1

/-- A loop that is told to quit before it is entered fails its assertion. -/
theorem enterLoop_quit (hloop : thread.loop = some loop)
    (hquit : loop.quit_ = true) :
    EnterLoop thread = Except.error Failure.assertion := by
  simp [EnterLoop, hloop, Assert, hquit]

theorem advance_quit (howner : thread.owner = Owner.quitting)
    (hloop : thread.loop = some loop)
    (houtside : Outside owner thread = true) :
    exists next after, (ThreadMachine Functor owner).Step thread Input.quit =
        some (next, []) ∧ next.child = thread.child ∧
      next.loop = some after ∧ after.quit_ = true := by
  rw [Outside, hloop] at houtside
  let after := EventLoop.SetCaller { loop with quit_ := true } owner
    EventLoop.Caller.quitting
  have hstep : EventLoop.Step loop (EventLoop.Input.remoteQuit owner) =
      some (after, []) :=
    if_pos (of_decide_eq_true houtside)
  refine ⟨{ thread with owner := Owner.waking, loop := some after }, after,
    answer_eq_some.mpr ?_, rfl, rfl, rfl⟩
  simp [Perform, howner, Follow, hloop, Advance, hstep]

omit [DecidableEq ThreadId] in
theorem place_of_opened (h : Stands thread thread.child)
    (hlatch : thread.latch_ = 0) :
    thread.child = Child.entering ∧
        (exists loop, thread.loop = some loop) ∨
      thread.child = Child.looping ∨
      thread.child = Child.exited ∧ thread.loop = none := by
  cases hchild : thread.child with
  | looping => exact Or.inr (Or.inl rfl)
  | entering =>
      rw [hchild] at h
      rcases h with ⟨_, loop, hloop, _⟩
      exact Or.inl ⟨rfl, loop, hloop⟩
  | exited =>
      rw [hchild] at h
      exact Or.inr (Or.inr ⟨rfl, h.2⟩)
  | created | constructing | initializing | publishing | countingDown =>
      rw [hchild, Stands, hlatch] at h
      cases h.1

theorem looping_of_quit (h : Sane owner thread)
    (hnever : NeverBad owner thread (Input.quit : Input ThreadId Functor))
    (howner : thread.owner = Owner.quitting) :
    thread.child = Child.looping := by
  have hwaits := h.waits
  rw [howner] at hwaits
  rcases hwaits with ⟨⟨_, _, hlatch⟩, houtside⟩
  rcases place_of_opened h.stands hlatch with
    ⟨hchild, loop, hloop⟩ | hlooping | ⟨_, hgone⟩
  · -- The store comes before the assertion, which then fails.
    rcases advance_quit howner hloop houtside with
      ⟨next, after, hstep, hthere, hafter, hquit⟩
    have hboth := hnever [Input.enter] (by simp [Input.OfOwner])
    have hsecond := ((Machine.guarded_cons hstep).mp hboth).2.1
    rw [hchild] at hthere
    simp [Sound, Perform, hthere, enterLoop_quit hafter hquit, Ensures,
      Failure.Harmless] at hsecond
  · exact hlooping
  · have hfirst := (hnever [] (by simp)).1
    simp [Sound, Perform, howner, Follow, hgone, Ensures,
      Failure.Harmless] at hfirst

theorem looping_of_wakeup (h : Sane owner thread)
    (hnever : NeverBad owner thread (Input.wakeup : Input ThreadId Functor))
    (howner : thread.owner = Owner.waking) :
    thread.child = Child.looping := by
  have hwaits := h.waits
  rw [howner] at hwaits
  rcases hwaits with ⟨⟨_, _, hlatch⟩, hpast⟩
  rcases place_of_opened h.stands hlatch with
    ⟨hentering, _⟩ | hlooping | ⟨_, hgone⟩
  · exact absurd hentering hpast
  · exact hlooping
  · have hfirst := (hnever [] (by simp)).1
    simp [Sound, Perform, howner, Follow, hgone, Ensures,
      Failure.Harmless] at hfirst

theorem neverBad_iff (h : Sane owner thread) {i : Input ThreadId Functor} :
    NeverBad owner thread i <-> Timely thread i := by
  refine ⟨fun hnever => ?_, neverBad_of_timely h⟩
  cases i with
  | quit => exact looping_of_quit h hnever
  | wakeup => exact looping_of_wakeup h hnever
  | _ => trivial

/--
In a run, whatever follows a step meets no bad loop, as far as the owner does
not go on, exactly when every step of the destructor is timely.
-/
theorem never_bad_iff (owner : ThreadId)
    (inputs : List (Input ThreadId Functor)) :
    (ThreadMachine Functor owner).Guarded (NeverBad owner)
        (New ThreadId Functor) inputs <->
      (ThreadMachine Functor owner).Guarded Timely
        (New ThreadId Functor) inputs :=
  Machine.Guarded.congr (I := Sane owner) (G := fun _ _ => True)
    (fun _ _ h _ => neverBad_iff h)
    (fun _ _ _ _ h _ htimely hstep => sane_step h htimely hstep)
    (sane_new owner)
    (Machine.guarded_of_forall (fun _ _ => trivial) _ inputs)

/-- `StartLoop()`, with the thread at the entry of `Loop()`. -/
def Started : List (Input Bool Unit) :=
  [Input.startLoop true, Input.construct, Input.initCallback, Input.publish,
    Input.countDown, Input.latchOpens]

def Ended : List (Input Bool Unit) :=
  Started ++ [Input.enter, Input.loop EventLoop.Input.testQuit,
    Input.remoteQueueInLoop true (), Input.remoteWakeup true,
    Input.loop (EventLoop.Input.pollReturns false),
    Input.loop EventLoop.Input.swap, Input.loop EventLoop.Input.callFunctor,
    Input.loop EventLoop.Input.quit,
    Input.loop EventLoop.Input.functorReturns,
    Input.loop EventLoop.Input.drained,
    Input.loop EventLoop.Input.testQuit, Input.destroyLoop]

/-- The destructor is too early for the one loop, and too late for the other. -/
theorem destructor_meets_bad_loop :
    ¬(ThreadMachine Unit true).Guarded (NeverBad true) (New Bool Unit)
        (Started ++ [Input.destruct, Input.quit]) ∧
      ¬(ThreadMachine Unit true).Guarded (NeverBad true) (New Bool Unit)
        (Ended ++ [Input.destruct, Input.quit]) := by
  constructor
  · intro hguarded
    have hquit := (hguarded.behind rfl).2.1
    have henter := (hquit [Input.enter] (by simp [Input.OfOwner])).2.1
    exact henter.1 rfl
  · intro hguarded
    have hquit := (hguarded.behind rfl).2.1
    have hgone := (hquit [] (by simp)).1
    exact hgone.2 rfl

end Invariant

end EventLoopThread
end Reactor
end Wethands
