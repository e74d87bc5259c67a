import Mathlib.Algebra.Group.Nat.Defs
import Mathlib.Logic.Function.Basic
import Wethands.Foundation.Machine
import Wethands.Foundation.OrderedSet
import Wethands.Foundation.Outcome
import Wethands.Reactor.Timer

/-!
# The timer queue

The queue of one loop, the timers on the heap, and the functors that other
threads have queued for it.  Functors run in the order in which they were
queued.  Every `Timestamp::Now()` takes the next of a sequence of clock
readings, and what the callbacks do is an input of the run.
-/

namespace Wethands
namespace Reactor

open Foundation Utils

namespace TimerQueue

inductive Functor where
  | addTimerInLoop (timer : Address)
  | cancelTimerInLoop (timerIndex : TimerIndex)
deriving DecidableEq

/-- One successful `timerfd_settime`, relative to the clock at that moment. -/
structure Arming where
  moment : Timestamp
  it_value : Timespec
deriving DecidableEq

inductive Timerfd where
  | disarmed
  | armed (arming : Arming)
  | expired (arming : Arming)
deriving DecidableEq

inductive Event where
  | updateTimerfd (expiration now : Timestamp) (again : Option Timestamp)
  | inserted (timerIndex : TimerIndex)
  | cancelled (timerIndex : TimerIndex)
  | ran (timerIndex : TimerIndex)
deriving DecidableEq

/-- The three ways to ask an `EventLoop` for a timer. -/
inductive Request where
  | runAt (time : Timestamp)
  | runAfter (delay : Seconds)
  | runEvery (interval : Seconds)

/--
What user code and other threads can do to the queue.  Another thread first
constructs its timer and then queues `AddTimerInLoop` for it.
-/
inductive Op where
  | addTimer (timer : Address) (request : Request)
  | cancelTimer (timerIndex : TimerIndex)
  | remoteNewTimer (timer : Address) (request : Request)
  | remoteRunInLoop (timer : Address)
  | remoteCancelTimer (timerIndex : TimerIndex)

end TimerQueue

open TimerQueue

/--
`inFlight` holds the timers whose creating thread has not queued them yet,
`issued` the indices that `AddTimer` has returned, and `readings` counts the
clock readings taken so far.
-/
structure TimerQueue where
  count_ : Nat
  heap : Address -> Option Timer
  inFlight : List Address
  issued : List TimerIndex
  pendingFunctors_ : List Functor
  timers_ : OrderedSet TimerIndex.Less
  timerfd_ : Timerfd
  readings : Nat

namespace TimerQueue

def Init : TimerQueue where
  count_ := 0
  heap := fun _ => none
  inFlight := []
  issued := []
  pendingFunctors_ := []
  timers_ := OrderedSet.Empty TimerIndex.Less
  timerfd_ := Timerfd.disarmed
  readings := 0

/-!
# The timer descriptor
-/

/-- Zero disarms, and an invalid value changes nothing. -/
def TimerfdSettime (timerfd : Timerfd) (moment : Timestamp)
    (it_value : Timespec) : Timerfd :=
  if it_value.Valid then
    if it_value = { tv_sec := 0, tv_nsec := 0 } then Timerfd.disarmed
    else Timerfd.armed { moment := moment, it_value := it_value }
  else timerfd

/-- A read takes the expirations away; before one there is nothing to read. -/
def ReadTimerfd : Timerfd -> Timerfd
  | Timerfd.expired _ => Timerfd.disarmed
  | timerfd => timerfd

section Clock

variable (clock : Nat -> Timestamp)

def UpdateTimerfd (queue : TimerQueue) (expiration : Timestamp) :
    TimerQueue × List Event :=
  let now := clock queue.readings
  if now < expiration then
    let again := clock (queue.readings + 1)
    ({ queue with
        timerfd_ := TimerfdSettime queue.timerfd_ again
          (TimeDifference expiration again)
        readings := queue.readings + 2 },
      [Event.updateTimerfd expiration now (some again)])
  else
    ({ queue with
        timerfd_ := TimerfdSettime queue.timerfd_ now
          { tv_sec := 0, tv_nsec := 1000 }
        readings := queue.readings + 1 },
      [Event.updateTimerfd expiration now none])

/-!
# Adding and cancelling
-/

/--
The timer to add comes first.  The source compares with the first element
before it asks whether there is one, so on an empty set the comparison may come
out either way and the answer is still yes.
-/
def Earliest (queue : TimerQueue) (toAdd : TimerIndex) : Bool :=
  match queue.timers_.elems.head? with
  | none => true
  | some first => decide (toAdd.expiration_ < first.expiration_)

def ArmFor (queue : TimerQueue) (toAdd : TimerIndex) :
    TimerQueue × List Event :=
  if queue.Earliest toAdd then UpdateTimerfd clock queue toAdd.expiration_
  else (queue, [])

def IndexOf (address : Address) (timer : Timer) : TimerIndex where
  timer_ := address
  expiration_ := timer.expiration_
  sequence_ := timer.sequence_

def AddTimerInLoop (queue : TimerQueue) (timer : Address) :
    Call TimerQueue Event :=
  match queue.heap timer with
  | none => Except.error Failure.danglingPointer
  | some object =>
      let toAdd := IndexOf timer object
      let armed := ArmFor clock queue toAdd
      Assert ((queue.timers_.Insert toAdd).2 = true)
        (Except.ok
          ({ armed.1 with timers_ := (queue.timers_.Insert toAdd).1 },
            armed.2 ++ [Event.inserted toAdd]))

/-- `delete` of a pointer to an object that is still there. -/
def Delete (queue : TimerQueue) (timer : Address) : Call TimerQueue Event :=
  match queue.heap timer with
  | none => Except.error Failure.danglingPointer
  | some _ =>
      Except.ok
        ({ queue with heap := Function.update queue.heap timer none }, [])

def CancelTimerInLoop (queue : TimerQueue) (timerIndex : TimerIndex) :
    Call TimerQueue Event :=
  match queue.timers_.Find timerIndex with
  | none => Except.ok (queue, [Event.cancelled timerIndex])
  | some _ =>
      Then
        (Except.ok ({ queue with timers_ := queue.timers_.Erase timerIndex },
          [Event.cancelled timerIndex]))
        (fun queue => queue.Delete timerIndex.timer_)

def Resolve (queue : TimerQueue) : Request -> Timestamp × Seconds × Nat
  | Request.runAt time =>
      (time, { positive := false, micros := 0, micros_nonneg := by simp }, 0)
  | Request.runAfter delay =>
      (AddSeconds (clock queue.readings) delay,
        { positive := false, micros := 0, micros_nonneg := by simp }, 1)
  | Request.runEvery interval =>
      (AddSeconds (clock queue.readings) interval, interval, 1)

/-- `new Timer` at an address that is not in use. -/
def NewTimer (queue : TimerQueue) (timer : Address) (request : Request) :
    Call TimerQueue Event :=
  if timer = 0 ∨ (queue.heap timer).isSome then
    Except.error Failure.impossible
  else
    let (when_, interval, taken) := Resolve clock queue request
    Except.ok ({ queue with
      count_ := queue.count_ + 1
      heap := Function.update queue.heap timer
        (some (Timer.New queue.count_ when_ interval))
      readings := queue.readings + taken }, [])

/-- The index that `AddTimer` returns to its caller. -/
def Issue (queue : TimerQueue) (timer : Address) : Call TimerQueue Event :=
  match queue.heap timer with
  | none => Except.error Failure.danglingPointer
  | some object =>
      Except.ok
        ({ queue with issued := IndexOf timer object :: queue.issued }, [])

/-- `AddTimer` on the loop thread runs `AddTimerInLoop` at once. -/
def AddTimer (queue : TimerQueue) (timer : Address) (request : Request) :
    Call TimerQueue Event :=
  Then (NewTimer clock queue timer request) (fun queue =>
    Then (AddTimerInLoop clock queue timer) (fun queue => Issue queue timer))

def RemoteNewTimer (queue : TimerQueue) (timer : Address)
    (request : Request) : Call TimerQueue Event :=
  Then (NewTimer clock queue timer request) (fun queue =>
    Except.ok ({ queue with inFlight := timer :: queue.inFlight }, []))

def RemoteRunInLoop (queue : TimerQueue) (timer : Address) :
    Call TimerQueue Event :=
  if timer ∈ queue.inFlight then
    Then (Issue queue timer) (fun queue =>
      Except.ok ({ queue with
        inFlight := queue.inFlight.erase timer
        pendingFunctors_ := queue.pendingFunctors_ ++
          [Functor.addTimerInLoop timer] }, []))
  else Except.error Failure.impossible

/-- The indices a caller can hold: a default one, or one it was given. -/
def Circulates (queue : TimerQueue) (timerIndex : TimerIndex) : Prop :=
  timerIndex = TimerIndex.Default ∨ timerIndex ∈ queue.issued

instance (queue : TimerQueue) (timerIndex : TimerIndex) :
    Decidable (Circulates queue timerIndex) :=
  inferInstanceAs (Decidable (_ ∨ _))

/-- `CancelTimer` on the loop thread runs `CancelTimerInLoop` at once. -/
def CancelTimer (queue : TimerQueue) (timerIndex : TimerIndex) :
    Call TimerQueue Event :=
  if Circulates queue timerIndex then CancelTimerInLoop queue timerIndex
  else Except.error Failure.impossible

def RemoteCancelTimer (queue : TimerQueue) (timerIndex : TimerIndex) :
    Call TimerQueue Event :=
  if Circulates queue timerIndex then
    Except.ok ({ queue with
      pendingFunctors_ := queue.pendingFunctors_ ++
        [Functor.cancelTimerInLoop timerIndex] }, [])
  else Except.error Failure.impossible

def RunOp (queue : TimerQueue) : Op -> Call TimerQueue Event
  | Op.addTimer timer request => AddTimer clock queue timer request
  | Op.cancelTimer timerIndex => CancelTimer queue timerIndex
  | Op.remoteNewTimer timer request => RemoteNewTimer clock queue timer request
  | Op.remoteRunInLoop timer => RemoteRunInLoop queue timer
  | Op.remoteCancelTimer timerIndex => RemoteCancelTimer queue timerIndex

/-!
# Expired timers
-/

def INT64_MAX : Nat := 2 ^ 63 - 1

def Sentry (now : Timestamp) : TimerIndex where
  timer_ := 0
  expiration_ := now
  sequence_ := INT64_MAX

def GetExpired (queue : TimerQueue) (now : Timestamp) :
    List TimerIndex × TimerQueue :=
  (queue.timers_.Before (Sentry now),
    { queue with timers_ := queue.timers_.EraseBefore (Sentry now) })

/-- What a callback does, in order, with what other threads do meanwhile. -/
def RunScript (queue : TimerQueue) : List Op -> Call TimerQueue Event
  | [] => Except.ok (queue, [])
  | op :: rest =>
      Then (RunOp clock queue op) (fun queue => RunScript queue rest)

/-- `timer_->Run()`, and what the callback does then. -/
def RunTimer (queue : TimerQueue) (timerIndex : TimerIndex)
    (script : List Op) : Call TimerQueue Event :=
  match queue.heap timerIndex.timer_ with
  | none => Except.error Failure.danglingPointer
  | some _ =>
      Then (Except.ok (queue, [Event.ran timerIndex])) (fun queue =>
        RunScript clock queue script)

def RestartOrDelete (queue : TimerQueue) (now : Timestamp)
    (timerIndex : TimerIndex) : Call TimerQueue Event :=
  match queue.heap timerIndex.timer_ with
  | none => Except.error Failure.danglingPointer
  | some object =>
      if object.repeated_ then
        AddTimerInLoop clock
          { queue with
            heap := Function.update queue.heap timerIndex.timer_
              (some (object.Restart now)) }
          timerIndex.timer_
      else queue.Delete timerIndex.timer_

def RunExpired (now : Timestamp) :
    List TimerIndex -> List (List Op) -> TimerQueue -> Call TimerQueue Event
  | [], _, queue => Except.ok (queue, [])
  | timerIndex :: rest, scripts, queue =>
      Then (RunTimer clock queue timerIndex (scripts.headD [])) (fun queue =>
        Then (RestartOrDelete clock queue now timerIndex) (fun queue =>
          RunExpired now rest scripts.tail queue))

def Rearm (queue : TimerQueue) : TimerQueue × List Event :=
  match queue.timers_.elems.head? with
  | none => (queue, [])
  | some first => UpdateTimerfd clock queue first.expiration_

def HandleRead (queue : TimerQueue) (scripts : List (List Op)) :
    Call TimerQueue Event :=
  let now := clock queue.readings
  let (expired, queue) := GetExpired
    { queue with
      timerfd_ := ReadTimerfd queue.timerfd_
      readings := queue.readings + 1 } now
  Then (RunExpired clock now expired scripts queue) (fun queue =>
    Except.ok (Rearm clock queue))

/-!
# Runs

Between two inputs control is in the event loop or in user code that runs
outside of `HandleRead`.
-/

inductive Input where
  | op (op : Op)
  | runFunctor
  | handleRead (scripts : List (List Op))
  | timerExpires

def RunFunctor (queue : TimerQueue) : Call TimerQueue Event :=
  match queue.pendingFunctors_ with
  | [] => Except.error Failure.impossible
  | Functor.addTimerInLoop timer :: rest =>
      AddTimerInLoop clock { queue with pendingFunctors_ := rest } timer
  | Functor.cancelTimerInLoop timerIndex :: rest =>
      CancelTimerInLoop { queue with pendingFunctors_ := rest } timerIndex

/-- The kernel may let an armed descriptor expire at any time. -/
def TimerExpires (queue : TimerQueue) : Call TimerQueue Event :=
  match queue.timerfd_ with
  | Timerfd.armed arming =>
      Except.ok ({ queue with timerfd_ := Timerfd.expired arming }, [])
  | _ => Except.error Failure.impossible

def Perform (queue : TimerQueue) : Input -> Call TimerQueue Event
  | Input.op op => RunOp clock queue op
  | Input.runFunctor => RunFunctor clock queue
  | Input.handleRead scripts => HandleRead clock queue scripts
  | Input.timerExpires => TimerExpires queue

def QueueMachine : Machine TimerQueue Input Event where
  Step queue i := Answer (Perform clock queue i)

end Clock
end TimerQueue
end Reactor
end Wethands
