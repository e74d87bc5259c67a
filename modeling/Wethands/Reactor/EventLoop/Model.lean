import Mathlib.Logic.Function.Basic
import Wethands.Foundation.Machine

/-!
# The event loop and its queue of functors

One `EventLoop` with its loop thread and any number of other threads.  A
step is one critical section, one system call or one call of a callback, so a
run is an arbitrary interleaving.  Reads and writes of the eventfd succeed.
-/

namespace Wethands
namespace Reactor

open Foundation

namespace EventLoop

/--
Where the loop thread stands in `Loop()`.  `dispatch` remembers
whether the eventfd channel is among the active channels still to be handled,
and `drain` holds the swapped-out functors not started yet and whether one
is running.
-/
inductive Phase (Functor : Type) where
  | constructed
  | test
  | poll
  | dispatch (eventfdActive : Bool)
  | drain (functors : List Functor) (running : Bool)
  | returned

/-- What another thread still has to do in the member function it is calling. -/
inductive Caller where
  | outside
  | pushed
  | quitting
deriving DecidableEq

/-- Who called `QueueInLoop`. -/
inductive Source where
  | otherThread
  | channelCallback
  | functor
deriving DecidableEq

/-- One `push_back` under `lock_`, with the drains started before it. -/
structure Push (Functor : Type) where
  functor : Functor
  source : Source
  drains : Nat
deriving DecidableEq

structure Execution (Functor : Type) where
  functor : Functor
  drain : Nat
deriving DecidableEq

inductive Event (Functor : Type) where
  | polled
  | pushed (push : Push Functor)
  | executed (execution : Execution Functor)
  | returned

end EventLoop

open EventLoop

structure EventLoop (ThreadId Functor : Type) where
  quit_ : Bool
  eventfd_ : Nat
  pendingFunctors_ : List Functor
  phase : Phase Functor
  callers : ThreadId -> Caller
  drains : Nat

namespace EventLoop

variable {ThreadId Functor : Type} [DecidableEq ThreadId]

def Init (ThreadId Functor : Type) : EventLoop ThreadId Functor where
  quit_ := false
  eventfd_ := 0
  pendingFunctors_ := []
  phase := Phase.constructed
  callers := fun _ => Caller.outside
  drains := 0

/-!
# Member functions

The wake-up of `QueueInLoop` and `Quit` is a step of its own: the
caller is between its store and its write of the eventfd until then.
-/

def Wakeup (loop : EventLoop ThreadId Functor) : EventLoop ThreadId Functor :=
  { loop with eventfd_ := loop.eventfd_ + 1 }

def HandleEventfdRead (loop : EventLoop ThreadId Functor) :
    EventLoop ThreadId Functor :=
  { loop with eventfd_ := 0 }

def PushBack (loop : EventLoop ThreadId Functor) (cb : Functor) :
    EventLoop ThreadId Functor :=
  { loop with pendingFunctors_ := loop.pendingFunctors_ ++ [cb] }

def SetCaller (loop : EventLoop ThreadId Functor) (tid : ThreadId)
    (caller : Caller) : EventLoop ThreadId Functor :=
  { loop with callers := Function.update loop.callers tid caller }

/-- The thread that runs user code in a phase, if the loop thread does. -/
def LoopThreadSource : Phase Functor -> Option Source
  | Phase.dispatch _ => some Source.channelCallback
  | Phase.drain _ true => some Source.functor
  | _ => none

inductive Input (ThreadId Functor : Type) where
  | loop
  | testQuit
  | pollReturns (eventfdActive : Bool)
  | handleEventfdRead
  | swap
  | callFunctor
  | functorReturns
  | drained
  | queueInLoop (cb : Functor)
  | quit
  | remoteQueueInLoop (tid : ThreadId) (cb : Functor)
  | remoteQuit (tid : ThreadId)
  | remoteWakeup (tid : ThreadId)

/--
`RunInLoop` has no input of its own: on the loop thread it calls its
argument at once, on another thread it is `QueueInLoop`.  `Poll` may
return without the eventfd channel even when the counter is positive, because
`epoll_wait` fills at most the whole of `events_`.
-/
def Step (loop : EventLoop ThreadId Functor) (i : Input ThreadId Functor) :
    Option (EventLoop ThreadId Functor × List (Event Functor)) :=
  match i, loop.phase with
  | Input.loop, Phase.constructed =>
      if loop.quit_ then none  -- assert(!quit_)
      else some ({ loop with phase := Phase.test }, [])
  | Input.testQuit, Phase.test =>
      if loop.quit_ then
        some ({ loop with phase := Phase.returned }, [Event.returned])
      else some ({ loop with phase := Phase.poll }, [Event.polled])
  | Input.pollReturns eventfdActive, Phase.poll =>
      if eventfdActive && loop.eventfd_ == 0 then none
      else some ({ loop with phase := Phase.dispatch eventfdActive }, [])
  | Input.handleEventfdRead, Phase.dispatch true =>
      some ({ HandleEventfdRead loop with phase := Phase.dispatch false }, [])
  | Input.swap, Phase.dispatch false =>
      some ({ loop with
        pendingFunctors_ := []
        phase := Phase.drain loop.pendingFunctors_ false
        drains := loop.drains + 1 }, [])
  | Input.callFunctor, Phase.drain (func :: rest) false =>
      some ({ loop with phase := Phase.drain rest true },
        [Event.executed { functor := func, drain := loop.drains }])
  | Input.functorReturns, Phase.drain rest true =>
      some ({ loop with phase := Phase.drain rest false }, [])
  | Input.drained, Phase.drain [] false =>
      some ({ loop with phase := Phase.test }, [])
  | Input.queueInLoop cb, phase =>
      match LoopThreadSource phase with
      | none => none
      | some source =>
          some (PushBack loop cb, [Event.pushed
            { functor := cb, source := source, drains := loop.drains }])
  | Input.quit, phase =>
      match LoopThreadSource phase with
      | none => none
      | some _ => some ({ loop with quit_ := true }, [])
  | Input.remoteQueueInLoop tid cb, _ =>
      if loop.callers tid = Caller.outside then
        some (SetCaller (PushBack loop cb) tid Caller.pushed, [Event.pushed
          { functor := cb, source := Source.otherThread,
            drains := loop.drains }])
      else none
  | Input.remoteQuit tid, _ =>
      if loop.callers tid = Caller.outside then
        some (SetCaller { loop with quit_ := true } tid Caller.quitting, [])
      else none
  | Input.remoteWakeup tid, _ =>
      if loop.callers tid = Caller.outside then none
      else some (SetCaller (Wakeup loop) tid Caller.outside, [])
  | _, _ => none

def LoopMachine (ThreadId Functor : Type) [DecidableEq ThreadId] :
    Machine (EventLoop ThreadId Functor) (Input ThreadId Functor)
      (Event Functor) where
  Step := Step

/-!
# What a step can do

Every answered step is one of these transitions, with its guards.  The proofs
about runs split on them and never unfold `Step`.
-/

inductive Transition : EventLoop ThreadId Functor ->
    EventLoop ThreadId Functor -> List (Event Functor) -> Prop where
  | loop {loop} :
      loop.phase = Phase.constructed -> loop.quit_ = false ->
      Transition loop { loop with phase := Phase.test } []
  | returned {loop} :
      loop.phase = Phase.test -> loop.quit_ = true ->
      Transition loop { loop with phase := Phase.returned } [Event.returned]
  | polled {loop} :
      loop.phase = Phase.test -> loop.quit_ = false ->
      Transition loop { loop with phase := Phase.poll } [Event.polled]
  | pollReturns {loop} (eventfdActive : Bool) :
      loop.phase = Phase.poll ->
      (eventfdActive = true -> loop.eventfd_ ≠ 0) ->
      Transition loop { loop with phase := Phase.dispatch eventfdActive } []
  | handleEventfdRead {loop} :
      loop.phase = Phase.dispatch true ->
      Transition loop
        { loop with eventfd_ := 0, phase := Phase.dispatch false } []
  | swap {loop} :
      loop.phase = Phase.dispatch false ->
      Transition loop
        { loop with
          pendingFunctors_ := []
          phase := Phase.drain loop.pendingFunctors_ false
          drains := loop.drains + 1 } []
  | callFunctor {loop} (func : Functor) (rest : List Functor) :
      loop.phase = Phase.drain (func :: rest) false ->
      Transition loop { loop with phase := Phase.drain rest true }
        [Event.executed { functor := func, drain := loop.drains }]
  | functorReturns {loop} (rest : List Functor) :
      loop.phase = Phase.drain rest true ->
      Transition loop { loop with phase := Phase.drain rest false } []
  | drained {loop} :
      loop.phase = Phase.drain [] false ->
      Transition loop { loop with phase := Phase.test } []
  | queueInLoop {loop} (cb : Functor) (source : Source) :
      LoopThreadSource loop.phase = some source ->
      Transition loop (PushBack loop cb)
        [Event.pushed
          { functor := cb, source := source, drains := loop.drains }]
  | quit {loop} :
      Transition loop { loop with quit_ := true } []
  | remoteQueueInLoop {loop} (tid : ThreadId) (cb : Functor) :
      loop.callers tid = Caller.outside ->
      Transition loop (SetCaller (PushBack loop cb) tid Caller.pushed)
        [Event.pushed { functor := cb, source := Source.otherThread,
                        drains := loop.drains }]
  | remoteQuit {loop} (tid : ThreadId) :
      loop.callers tid = Caller.outside ->
      Transition loop
        (SetCaller { loop with quit_ := true } tid Caller.quitting) []
  | remoteWakeup {loop} (tid : ThreadId) :
      loop.callers tid ≠ Caller.outside ->
      Transition loop (SetCaller (Wakeup loop) tid Caller.outside) []

theorem step_transition {loop next : EventLoop ThreadId Functor}
    {i : Input ThreadId Functor} {es : List (Event Functor)}
    (h : Step loop i = some (next, es)) : Transition loop next es := by
  unfold Step at h
  split at h <;> rename_i hphase
  · split at h
    · cases h
    · cases h
      exact Transition.loop hphase (by simpa using ‹¬loop.quit_ = true›)
  · split at h
    · cases h
      exact Transition.returned hphase ‹_›
    · cases h
      exact Transition.polled hphase (by simpa using ‹¬loop.quit_ = true›)
  · split at h
    · cases h
    · rename_i eventfdActive hguard
      cases h
      apply Transition.pollReturns _ hphase
      intro hactive hzero
      exact hguard (by simp [hactive, hzero])
  · cases h
    exact Transition.handleEventfdRead hphase
  · cases h
    exact Transition.swap hphase
  · cases h
    exact Transition.callFunctor _ _ hphase
  · cases h
    exact Transition.functorReturns _ hphase
  · cases h
    exact Transition.drained hphase
  · split at h
    · cases h
    · cases h
      exact Transition.queueInLoop _ _ ‹_›
  · split at h
    · cases h
    · cases h
      exact Transition.quit
  · split at h
    · cases h
      exact Transition.remoteQueueInLoop _ _ ‹_›
    · cases h
  · split at h
    · cases h
      exact Transition.remoteQuit _ ‹_›
    · cases h
  · split at h
    · cases h
    · cases h
      exact Transition.remoteWakeup _ ‹_›
  · cases h

end EventLoop
end Reactor
end Wethands
