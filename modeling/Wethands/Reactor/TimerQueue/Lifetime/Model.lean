import Wethands.Reactor.TimerQueue.Model

/-!
# Pointers to timers

The timer queue once more, with every step of `AddTimer`, `HandleRead` and the
destructor on its own, and with every pointer to a timer in view.  A pointer is
kept as the `TimerIndex` of the timer that it was made for, so that it can be
told from a pointer to another timer at the same address.  Following a pointer
to a timer that is gone ends the run, with the event that shows it.
-/

namespace Wethands
namespace Reactor

open Foundation Utils

namespace TimerQueue

namespace Lifetime

inductive Functor where
  | addTimerInLoop (timer : TimerIndex)
  | cancelTimerInLoop (timerIndex : TimerIndex)
deriving DecidableEq

/-- How far the loop thread is in `AddTimer`. -/
inductive Adding where
  | constructed (timer : TimerIndex)
  | added (timer : TimerIndex)
deriving DecidableEq

/-- `HandleRead`, between two of its callbacks or in one. -/
structure Batch where
  now : Timestamp
  running : Option TimerIndex
  rest : List TimerIndex
deriving DecidableEq

/-- The destructor has the timers `left` to delete. -/
inductive Phase where
  | serving
  | destroying (left : List TimerIndex)
  | destroyed
  | aborted
deriving DecidableEq

/--
Timers are named by their sequence numbers: `touched` is a read or a run, and
`issued` an index that `AddTimer` has returned for a timer.
-/
inductive Event where
  | constructed (sequence : Nat)
  | reached (sequence : Nat)
  | touched (sequence : Nat)
  | deleted (sequence : Nat)
  | issued (sequence : Nat) (timerIndex : TimerIndex)
  | cancelled (timerIndex : TimerIndex) (sequence : Option Nat)
deriving DecidableEq

/--
`creating` and `returning` are the timers of other threads in `AddTimer`, in
front of `RunInLoop` and behind it.  The queue of functors and the timers in
flight of `queue` itself stay empty.
-/
structure World where
  queue : TimerQueue
  functors : List Functor
  creating : List TimerIndex
  returning : List TimerIndex
  adding : Option Adding
  batch : Option Batch
  phase : Phase

def Init : World where
  queue := TimerQueue.Init
  functors := []
  creating := []
  returning := []
  adding := none
  batch := none
  phase := Phase.serving

abbrev Result := Option (World × List Event)

/-!
# Following a pointer
-/

/-- The timer that the pointer was made for is still there. -/
def Valid (queue : TimerQueue) (timer : TimerIndex) : Prop :=
  (queue.heap timer.timer_).map Timer.sequence_ = some timer.sequence_

instance (queue : TimerQueue) (timer : TimerIndex) :
    Decidable (Valid queue timer) :=
  inferInstanceAs (Decidable (_ = _))

def Follow (world : World) (timer : TimerIndex) (e : Event)
    (result : Result) : Result :=
  if Valid world.queue timer then
    result.map (fun last => (last.1, e :: last.2))
  else some ({ world with phase := Phase.aborted }, [e])

def Touch (world : World) (timer : TimerIndex) (result : Result) : Result :=
  Follow world timer (Event.touched timer.sequence_) result

def InQueue (world : World) (call : Call TimerQueue TimerQueue.Event)
    (es : List Event) : Result :=
  match call with
  | Except.error _ => none
  | Except.ok (queue, _) => some ({ world with queue := queue }, es)

def Delete (world : World) (timer : TimerIndex) : Result :=
  Follow world timer (Event.deleted timer.sequence_)
    (InQueue world (world.queue.Delete timer.timer_) [])

section Clock

variable (clock : Nat -> Timestamp)

/-!
# Parts of `AddTimer` and `CancelTimer`
-/

/-- `new Timer`, and the pointer to it. -/
def NewTimer (world : World) (timer : Address) (request : Request) :
    Option (World × TimerIndex) :=
  match TimerQueue.NewTimer clock world.queue timer request with
  | Except.error _ => none
  | Except.ok (queue, _) =>
      (queue.heap timer).map (fun object =>
        ({ world with queue := queue }, IndexOf timer object))

/-- The functor of `AddTimer`. -/
def AddTimerInLoop (world : World) (timer : TimerIndex) : Result :=
  Touch world timer
    (InQueue world
      (TimerQueue.AddTimerInLoop clock world.queue timer.timer_)
      [Event.reached timer.sequence_])

def CancelEvents (queue : TimerQueue) (timerIndex : TimerIndex) :
    List Event :=
  match queue.timers_.Find timerIndex, queue.heap timerIndex.timer_ with
  | some _, some object =>
      [Event.cancelled timerIndex (some object.sequence_),
        Event.deleted object.sequence_]
  | _, _ => [Event.cancelled timerIndex none]

def CancelTimerInLoop (world : World) (timerIndex : TimerIndex) : Result :=
  match world.queue.CancelTimerInLoop timerIndex with
  | Except.ok (queue, _) =>
      some ({ world with queue := queue },
        CancelEvents world.queue timerIndex)
  | Except.error _ =>
      some ({ world with phase := Phase.aborted },
        [Event.deleted timerIndex.sequence_])

/--
The end of `AddTimer`: `timer` and `when` are at hand, and the sequence is read
from the timer.
-/
def ReadSequence (world : World) (timer : TimerIndex) : Result :=
  Touch world timer
    ((world.queue.heap timer.timer_).map (fun object =>
      let timerIndex := { timer with sequence_ := object.sequence_ }
      ({ world with
        queue := { world.queue with
          issued := timerIndex :: world.queue.issued } },
        [Event.issued timer.sequence_ timerIndex])))

/-!
# Other threads
-/

def RemoteNewTimer (world : World) (timer : Address) (request : Request) :
    Result :=
  if world.phase = Phase.destroyed then none
  else
    (NewTimer clock world timer request).map (fun made =>
      ({ made.1 with creating := made.2 :: world.creating },
        [Event.constructed made.2.sequence_]))

def RemoteRunInLoop (world : World) (timer : TimerIndex) : Result :=
  if timer ∈ world.creating ∧ world.phase ≠ Phase.destroyed then
    some ({ world with
      creating := world.creating.erase timer
      returning := timer :: world.returning
      functors := world.functors ++ [Functor.addTimerInLoop timer] }, [])
  else none

def RemoteReadSequence (world : World) (timer : TimerIndex) : Result :=
  if timer ∈ world.returning then
    ReadSequence { world with returning := world.returning.erase timer } timer
  else none

def RemoteCancelTimer (world : World) (timerIndex : TimerIndex) : Result :=
  if Circulates world.queue timerIndex ∧ world.phase ≠ Phase.destroyed then
    some ({ world with
      functors := world.functors ++
        [Functor.cancelTimerInLoop timerIndex] }, [])
  else none

/-!
# The loop thread
-/

/-- The loop thread is not in the middle of `AddTimer` or of the destructor. -/
def Free (world : World) : Prop :=
  world.phase = Phase.serving ∧ world.adding = none

instance (world : World) : Decidable (Free world) :=
  inferInstanceAs (Decidable (_ ∧ _))

/-- Nor is it in `HandleRead`. -/
def Idle (world : World) : Prop :=
  Free world ∧ world.batch = none

instance (world : World) : Decidable (Idle world) :=
  inferInstanceAs (Decidable (_ ∧ _))

def LoopNewTimer (world : World) (timer : Address) (request : Request) :
    Result :=
  if Free world then
    (NewTimer clock world timer request).map (fun made =>
      ({ made.1 with adding := some (Adding.constructed made.2) },
        [Event.constructed made.2.sequence_]))
  else none

/-- `RunInLoop` on the loop thread runs the functor at once. -/
def LoopRunInLoop (world : World) : Result :=
  match world.phase, world.adding with
  | Phase.serving, some (Adding.constructed timer) =>
      AddTimerInLoop clock
        { world with adding := some (Adding.added timer) } timer
  | _, _ => none

def LoopReadSequence (world : World) : Result :=
  match world.phase, world.adding with
  | Phase.serving, some (Adding.added timer) =>
      ReadSequence { world with adding := none } timer
  | _, _ => none

def LoopCancelTimer (world : World) (timerIndex : TimerIndex) : Result :=
  if Free world ∧ Circulates world.queue timerIndex then
    CancelTimerInLoop world timerIndex
  else none

def RunFunctor (world : World) : Result :=
  if Idle world then
    match world.functors with
    | [] => none
    | Functor.addTimerInLoop timer :: rest =>
        AddTimerInLoop clock { world with functors := rest } timer
    | Functor.cancelTimerInLoop timerIndex :: rest =>
        CancelTimerInLoop { world with functors := rest } timerIndex
  else none

/-- `HandleRead` up to its loop. -/
def HandleRead (world : World) : Result :=
  if Idle world then
    let now := clock world.queue.readings
    let expired := GetExpired
      { world.queue with
        timerfd_ := ReadTimerfd world.queue.timerfd_
        readings := world.queue.readings + 1 } now
    some ({ world with
      queue := expired.2
      batch := some { now := now, running := none, rest := expired.1 } }, [])
  else none

def RunTimer (world : World) : Result :=
  match world.batch with
  | some ⟨now, none, timer :: rest⟩ =>
      if Free world then
        Touch world timer
          (some ({ world with batch := some ⟨now, some timer, rest⟩ }, []))
      else none
  | _ => none

/-- The timer is deleted when its callback has returned. -/
def EndsWithCallback (queue : TimerQueue) (timer : TimerIndex) : Bool :=
  match queue.heap timer.timer_ with
  | none => false
  | some object => !object.repeated_

def FinishTimer (world : World) : Result :=
  match world.batch with
  | some ⟨now, some timer, rest⟩ =>
      if Free world then
        Touch world timer
          (InQueue { world with batch := some ⟨now, none, rest⟩ }
            (RestartOrDelete clock world.queue now timer)
            (if EndsWithCallback world.queue timer = true then
              [Event.deleted timer.sequence_]
            else [Event.touched timer.sequence_]))
      else none
  | _ => none

/-- `HandleRead` comes to its end. -/
def FinishRead (world : World) : Result :=
  match world.batch with
  | some ⟨_, none, []⟩ =>
      if Free world then
        some ({ world with
          queue := (Rearm clock world.queue).1
          batch := none }, [])
      else none
  | _ => none

/--
The destructor goes through the timers.  The set itself is not looked at any
more, so that it is shown as empty.
-/
def Destroy (world : World) : Result :=
  if Idle world then
    some ({ world with
      queue := { world.queue with
        timers_ := OrderedSet.Empty TimerIndex.Less }
      phase := Phase.destroying world.queue.timers_.elems }, [])
  else none

def DestroyNext (world : World) : Result :=
  match world.phase with
  | Phase.destroying (timer :: left) =>
      Delete { world with phase := Phase.destroying left } timer
  | _ => none

def DestroyEnd (world : World) : Result :=
  match world.phase with
  | Phase.destroying [] => some ({ world with phase := Phase.destroyed }, [])
  | _ => none

/-!
# Runs
-/

inductive Input where
  | remoteNewTimer (timer : Address) (request : Request)
  | remoteRunInLoop (timer : TimerIndex)
  | remoteReadSequence (timer : TimerIndex)
  | remoteCancelTimer (timerIndex : TimerIndex)
  | loopNewTimer (timer : Address) (request : Request)
  | loopRunInLoop
  | loopReadSequence
  | loopCancelTimer (timerIndex : TimerIndex)
  | runFunctor
  | handleRead
  | runTimer
  | finishTimer
  | finishRead
  | destroy
  | destroyNext
  | destroyEnd

def Perform (world : World) : Input -> Result
  | Input.remoteNewTimer timer request =>
      RemoteNewTimer clock world timer request
  | Input.remoteRunInLoop timer => RemoteRunInLoop world timer
  | Input.remoteReadSequence timer => RemoteReadSequence world timer
  | Input.remoteCancelTimer timerIndex => RemoteCancelTimer world timerIndex
  | Input.loopNewTimer timer request => LoopNewTimer clock world timer request
  | Input.loopRunInLoop => LoopRunInLoop clock world
  | Input.loopReadSequence => LoopReadSequence world
  | Input.loopCancelTimer timerIndex => LoopCancelTimer world timerIndex
  | Input.runFunctor => RunFunctor clock world
  | Input.handleRead => HandleRead clock world
  | Input.runTimer => RunTimer world
  | Input.finishTimer => FinishTimer clock world
  | Input.finishRead => FinishRead clock world
  | Input.destroy => Destroy world
  | Input.destroyNext => DestroyNext world
  | Input.destroyEnd => DestroyEnd world

def LifetimeMachine : Machine World Input Event where
  Step world i :=
    if world.phase = Phase.aborted then none else Perform clock world i

end Clock
end Lifetime
end TimerQueue
end Reactor
end Wethands
