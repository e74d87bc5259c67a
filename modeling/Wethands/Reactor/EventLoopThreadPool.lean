import Mathlib.Data.List.Basic
import Wethands.Foundation.Outcome

/-!
# The pool of loop threads

A thread is only known to be started or not here, and its loop is known by the
place of the thread in the pool.
-/

namespace Wethands
namespace Reactor

open Foundation

namespace EventLoopThreadPool

inductive Loop where
  | base
  | thread (i : Nat)
deriving DecidableEq

/-- A thread calls the callback before `StartLoop` comes back. -/
inductive Event where
  | threadStarted (i : Nat)
  | initCallback (loop : Loop)
deriving DecidableEq

structure Thread where
  started_ : Bool
deriving DecidableEq

end EventLoopThreadPool

open EventLoopThreadPool

structure EventLoopThreadPool where
  started_ : Bool
  next_ : Nat
  threads_ : List Thread
  loops_ : List Loop

namespace EventLoopThreadPool

def New : EventLoopThreadPool where
  started_ := false
  next_ := 0
  threads_ := []
  loops_ := []

/-!
# Starting
-/

/-- `cb` tells whether there is a callback. -/
def InitCallback (cb : Bool) (loop : Loop) : List Event :=
  if cb then [Event.initCallback loop] else []

/-- `loops_.push_back(threads_[i]->StartLoop())`. -/
def StartLoop (cb : Bool) (i : Nat) (pool : EventLoopThreadPool) :
    Call EventLoopThreadPool Event :=
  match pool.threads_[i]? with
  | none => Except.error Failure.danglingPointer
  | some thread =>
      Assert (thread.started_ = false)
        (Except.ok ({ pool with
          threads_ := pool.threads_.set i { started_ := true }
          loops_ := pool.loops_ ++ [Loop.thread i] },
          Event.threadStarted i :: InitCallback cb (Loop.thread i)))

/-- The loop of `Start` from `i` on, with the number of threads to come. -/
def StartThreads (cb : Bool) :
    Nat -> Nat -> EventLoopThreadPool -> Call EventLoopThreadPool Event
  | _, 0, pool => Except.ok (pool, [])
  | i, n + 1, pool =>
      Then (StartLoop cb i { pool with
        threads_ := pool.threads_ ++ [{ started_ := false }] })
        (StartThreads cb (i + 1) n)

def Start (pool : EventLoopThreadPool) (numThreads : Int) (cb : Bool) :
    Call EventLoopThreadPool Event :=
  Assert (pool.started_ = false)
    (Then (StartThreads cb 0 numThreads.toNat pool) (fun pool =>
      Except.ok ({ pool with started_ := true },
        if numThreads ≤ 0 then InitCallback cb Loop.base else [])))

/-!
# What a start does
-/

/-- The events of the threads from `i` on. -/
def Starts (cb : Bool) (i n : Nat) : List Event :=
  (List.range' i n).flatMap (fun j =>
    Event.threadStarted j :: InitCallback cb (Loop.thread j))

theorem startLoop_last (cb : Bool) (pool : EventLoopThreadPool) :
    StartLoop cb pool.threads_.length { pool with
        threads_ := pool.threads_ ++ [{ started_ := false }] } =
      Except.ok ({ pool with
        threads_ := pool.threads_ ++ [{ started_ := true }]
        loops_ := pool.loops_ ++ [Loop.thread pool.threads_.length] },
        Event.threadStarted pool.threads_.length ::
          InitCallback cb (Loop.thread pool.threads_.length)) := by
  simp [StartLoop, Assert]

theorem startThreads_spec (cb : Bool) (n : Nat) (pool : EventLoopThreadPool) :
    StartThreads cb pool.threads_.length n pool =
      Except.ok ({ pool with
        threads_ := pool.threads_ ++ List.replicate n { started_ := true }
        loops_ := pool.loops_ ++
          (List.range' pool.threads_.length n).map Loop.thread },
        Starts cb pool.threads_.length n) := by
  induction n generalizing pool with
  | zero => simp [StartThreads, Starts]
  | succ n ih =>
      have hrest := ih { pool with
        threads_ := pool.threads_ ++ [{ started_ := true }]
        loops_ := pool.loops_ ++ [Loop.thread pool.threads_.length] }
      rw [List.length_append, List.length_singleton] at hrest
      rw [StartThreads, startLoop_last]
      simp only [Then, hrest]
      simp [Starts, List.range'_succ, List.replicate_succ]

theorem start_new (n : Nat) (cb : Bool) :
    New.Start n cb = Except.ok ({
        started_ := true
        next_ := 0
        threads_ := List.replicate n { started_ := true }
        loops_ := (List.range' 0 n).map Loop.thread },
      Starts cb 0 n ++ if n = 0 then InitCallback cb Loop.base else []) := by
  have hthreads := startThreads_spec cb n New
  simp only [New, List.length_nil] at hthreads
  simp [Start, New, Assert, Then, hthreads]

theorem start_started {pool : EventLoopThreadPool} (h : pool.started_ = true)
    (numThreads : Int) (cb : Bool) :
    pool.Start numThreads cb = Except.error Failure.assertion := by
  simp [Start, Assert, h]

end EventLoopThreadPool
end Reactor
end Wethands
