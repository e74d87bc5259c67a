import Wethands.Thread.CountDownLatch.Opened
import Wethands.Thread.Progress

/-!
# Threads

A `Thread` object and the thread that it starts.  The new thread stores its
number in the object and counts the latch of the object down, and `Start` waits
for that.  The owner may destroy the object as soon as `Start` has returned.
-/

namespace Wethands
namespace Thread

open Foundation

set_option linter.dupNamespace false

inductive Side where
  | owner
  | created
deriving DecidableEq

inductive Owner where
  | outside
  | start
  | join
deriving DecidableEq

abbrev Pid : Type := { tid : Nat // 0 < tid }

/--
Where the new thread is in `pthreadFunc`: `assign`, `func` and `delete` are in
front of the store to `*tid_`, of the call of `func_`, and of `delete data`.
-/
inductive Stage where
  | none
  | assign (tid : Pid)
  | countDown
  | func
  | running
  | delete
  | finished
deriving DecidableEq

namespace Stage

/-- `CountDown` has been called. -/
def Counts : Stage -> Bool
  | none | assign _ => false
  | countDown | func | running | delete | finished => true

def HasData : Stage -> Bool
  | none | finished => false
  | assign _ | countDown | func | running | delete => true

/-- `func_` has been called. -/
def Called : Stage -> Bool
  | none | assign _ | countDown | func => false
  | running | delete | finished => true

end Stage

/--
The object is there while `alive`, and the `ThreadData` while `data`.  The names
of threads are left out.
-/
structure Thread where
  alive : Bool
  started_ : Bool
  joined_ : Bool
  tid_ : Nat
  latch_ : CountDownLatch.Latch Side
  data : Bool
  owner : Owner
  stage : Stage

namespace Thread

open CountDownLatch (LatchMonitor LatchMachine Conds Request)
open Condition (Place)

def New : Thread where
  alive := true
  started_ := false
  joined_ := false
  tid_ := 0
  latch_ := CountDownLatch.New Side 1
  data := false
  owner := Owner.outside
  stage := Stage.none

inductive Event where
  | created (tid : Pid)
  | called
  | deleted
  | joined
  | detached
deriving DecidableEq

def Touch (thread : Thread) (call : Call Thread Event) : Call Thread Event :=
  if thread.alive then call else Except.error Failure.danglingPointer

def OnLatch (thread : Thread) (i : CountDownLatch.Input Side)
    (es : List Event) : Call Thread Event :=
  match Condition.Perform LatchMonitor Conds thread.latch_ i with
  | Except.error failure => Except.error failure
  | Except.ok (latch_, _) =>
      Touch thread (Except.ok ({ thread with latch_ := latch_ }, es))

/-!
# The new thread
-/

/-- `RunInThread` up to the mutex of the latch. -/
def Assign (thread : Thread) : Call Thread Event :=
  match thread.stage with
  | Stage.assign tid =>
      OnLatch { thread with tid_ := tid.1, stage := Stage.countDown }
        (Condition.Input.call Side.created Request.countDown) []
  | _ => Except.error Failure.impossible

def CountDownReturns (thread : Thread) : Call Thread Event :=
  match thread.stage, thread.latch_.places Side.created with
  | Stage.countDown, Place.outside =>
      Except.ok ({ thread with stage := Stage.func }, [])
  | _, _ => Except.error Failure.impossible

/-- The name and the function are in the `ThreadData`. -/
def Func (thread : Thread) : Call Thread Event :=
  if thread.stage = Stage.func then
    if thread.data then
      Except.ok ({ thread with stage := Stage.running }, [Event.called])
    else Except.error Failure.danglingPointer
  else Except.error Failure.impossible

def FuncReturns (thread : Thread) : Call Thread Event :=
  if thread.stage = Stage.running then
    Except.ok ({ thread with stage := Stage.delete }, [])
  else Except.error Failure.impossible

def Delete (thread : Thread) : Call Thread Event :=
  if thread.stage = Stage.delete then
    if thread.data then
      Except.ok ({ thread with data := false, stage := Stage.finished },
        [Event.deleted])
    else Except.error Failure.danglingPointer
  else Except.error Failure.impossible

/-!
# The owner
-/

def Idle (thread : Thread) : Prop :=
  thread.owner = Owner.outside ∧ thread.alive = true

instance (thread : Thread) : Decidable thread.Idle :=
  inferInstanceAs (Decidable (_ ∧ _))

/--
`Start` up to the mutex of the latch, with what `pthread_create` makes.  An
object is started once: a second thread is not followed here.
-/
def Start (thread : Thread) (tid : Option Pid) : Call Thread Event :=
  if thread.Idle ∧ thread.stage = Stage.none then
    match tid with
    | none => Except.error Failure.sysFatal
    | some tid =>
        OnLatch { thread with
            started_ := true
            data := true
            owner := Owner.start
            stage := Stage.assign tid }
          (Condition.Input.call Side.owner Request.wait) [Event.created tid]
  else Except.error Failure.impossible

def StartReturns (thread : Thread) : Call Thread Event :=
  match thread.owner, thread.latch_.places Side.owner with
  | Owner.start, Place.outside =>
      Assert (0 < thread.tid_)
        (Except.ok ({ thread with owner := Owner.outside }, []))
  | _, _ => Except.error Failure.impossible

def Join (thread : Thread) : Call Thread Event :=
  if thread.Idle then
    Assert (thread.started_ = true) (Assert (thread.joined_ = false)
      (Except.ok ({ thread with joined_ := true, owner := Owner.join }, [])))
  else Except.error Failure.impossible

/-- `pthread_join` comes back when the thread has come to its end. -/
def JoinReturns (thread : Thread) : Call Thread Event :=
  if thread.owner = Owner.join ∧ thread.stage = Stage.finished then
    Except.ok ({ thread with owner := Owner.outside }, [Event.joined])
  else Except.error Failure.impossible

/-- A lock that is held and a condition that is waited for have to stay. -/
def DestroyLatch (latch : CountDownLatch.Latch Side)
    (call : Call Thread Event) : Call Thread Event :=
  if latch.waiters = [] then
    Assert (latch.lock_.holder_ = none) (Assert (latch.lock_.mutex_ = none)
      call)
  else Except.error Failure.danglingPointer

def Destroy (thread : Thread) : Call Thread Event :=
  if thread.Idle then
    DestroyLatch thread.latch_
      (Except.ok ({ thread with alive := false },
        if thread.started_ = true ∧ thread.joined_ = false then
          [Event.detached]
        else []))
  else Except.error Failure.impossible

/-!
# Steps
-/

inductive Input where
  | start (tid : Option Pid)
  | assign
  | latch (i : CountDownLatch.Input Side)
  | startReturns
  | countDownReturns
  | func
  | funcReturns
  | delete
  | join
  | joinReturns
  | destroy

/-- The calls of the latch are made in `Start` and in `RunInThread` only. -/
def Perform (thread : Thread) : Input -> Call Thread Event
  | Input.start tid => Start thread tid
  | Input.assign => Assign thread
  | Input.latch (Condition.Input.call _ _) => Except.error Failure.impossible
  | Input.latch i => OnLatch thread i []
  | Input.startReturns => StartReturns thread
  | Input.countDownReturns => CountDownReturns thread
  | Input.func => Func thread
  | Input.funcReturns => FuncReturns thread
  | Input.delete => Delete thread
  | Input.join => Join thread
  | Input.joinReturns => JoinReturns thread
  | Input.destroy => Destroy thread

def ThreadMachine : Machine Thread Input Event where
  Step thread i := Answer (Perform thread i)

end Thread
end Thread
end Wethands
