import Wethands.Foundation.Monitor

/-!
# The thread pool

`Run`, `Take` and `Stop` are the calls of a monitor over the queue of tasks and
the flag.  The workers take tasks in a loop that reads the flag without the
lock.  A run begins when `Start` has returned.
-/

namespace Wethands
namespace Thread

open Foundation

/-- `threads_` is the number of workers.  A limit below one is none. -/
structure ThreadPool (Task : Type) where
  threads_ : Nat
  queue_ : List Task
  maxQueueSize_ : Int
  running_ : Bool

namespace ThreadPool

inductive Cond where
  | notEmpty_
  | notFull_
deriving DecidableEq

inductive Request (Task : Type) where
  | run (task : Task)
  | take
  | stop

/--
In the order of the lock: `refused` and `nothing` are the returns of `Run` and
of `Take` that find the pool stopped.  `called` is a task that `Run` calls
itself.
-/
inductive Event (Task : Type) where
  | accepted (task : Task)
  | refused (task : Task)
  | taken (task : Task)
  | nothing
  | stopped
  | called (task : Task)
deriving DecidableEq

variable {Task : Type}

def QueueIsFull (pool : ThreadPool Task) : Bool :=
  0 < pool.maxQueueSize_ ∧ pool.maxQueueSize_ ≤ pool.queue_.length

/-- `Run` under the lock. -/
def RunLocked (pool : ThreadPool Task) (task : Task) :
    Verdict (ThreadPool Task) Cond (Event Task) :=
  if pool.QueueIsFull ∧ pool.running_ then Verdict.waits Cond.notFull_
  else if pool.running_ then
    Verdict.ends { pool with queue_ := pool.queue_ ++ [task] }
      (Event.accepted task) (Monitor.Notify Cond.notEmpty_)
  else Verdict.ends pool (Event.refused task) (fun _ => Signal.quiet)

def Take (pool : ThreadPool Task) :
    Verdict (ThreadPool Task) Cond (Event Task) :=
  if pool.queue_ = [] ∧ pool.running_ then Verdict.waits Cond.notEmpty_
  else if pool.running_ then
    match pool.queue_ with
    | [] => Verdict.fails Failure.danglingPointer
    | task :: queue_ =>
        Verdict.ends { pool with queue_ := queue_ } (Event.taken task)
          (if 0 < pool.maxQueueSize_ then Monitor.Notify Cond.notFull_
          else fun _ => Signal.quiet)
  else Verdict.ends pool Event.nothing (fun _ => Signal.quiet)

/-- `Stop` under the lock; after it, `Stop` joins the workers. -/
def StopLocked (pool : ThreadPool Task) :
    Verdict (ThreadPool Task) Cond (Event Task) :=
  Verdict.ends { pool with running_ := false } Event.stopped
    (fun _ => Signal.all)

def Section (request : Request Task) (pool : ThreadPool Task) :
    Verdict (ThreadPool Task) Cond (Event Task) :=
  match request with
  | Request.run task => RunLocked pool task
  | Request.take => Take pool
  | Request.stop => StopLocked pool

def WaitsOn : Request Task -> Cond
  | Request.run _ => Cond.notFull_
  | _ => Cond.notEmpty_

/-!
# What the sections do
-/

variable {pool : ThreadPool Task}

theorem runLocked_spec (task : Task) :
    pool.QueueIsFull = true ∧ pool.running_ = true ∧
        RunLocked pool task = Verdict.waits Cond.notFull_ ∨
      pool.QueueIsFull = false ∧ pool.running_ = true ∧
        RunLocked pool task =
          Verdict.ends { pool with queue_ := pool.queue_ ++ [task] }
            (Event.accepted task) (Monitor.Notify Cond.notEmpty_) ∨
      pool.running_ = false ∧ RunLocked pool task =
        Verdict.ends pool (Event.refused task) (fun _ => Signal.quiet) := by
  unfold RunLocked
  cases pool.running_ <;> cases pool.QueueIsFull <;> simp

theorem take_spec :
    pool.queue_ = [] ∧ pool.running_ = true ∧
        Take pool = Verdict.waits Cond.notEmpty_ ∨
      (exists task rest, pool.queue_ = task :: rest ∧ pool.running_ = true ∧
        Take pool = Verdict.ends { pool with queue_ := rest }
          (Event.taken task)
          (if 0 < pool.maxQueueSize_ then Monitor.Notify Cond.notFull_
          else fun _ => Signal.quiet)) ∨
      pool.running_ = false ∧ Take pool =
        Verdict.ends pool Event.nothing (fun _ => Signal.quiet) := by
  unfold Take
  cases pool.running_ <;> cases pool.queue_ <;> simp

theorem section_waits_on (request : Request Task) (pool : ThreadPool Task)
    (cond : Cond) (h : Section request pool = Verdict.waits cond) :
    cond = WaitsOn request := by
  cases request with
  | run task =>
      change RunLocked pool task = Verdict.waits cond at h
      rcases runLocked_spec task with
        ⟨_, _, hrun⟩ | ⟨_, _, hrun⟩ | ⟨_, hrun⟩
      all_goals
        cases hrun.symm.trans h
      rfl
  | take =>
      change Take pool = Verdict.waits cond at h
      rcases take_spec with ⟨_, _, htake⟩ | ⟨_, _, _, _, htake⟩ | ⟨_, htake⟩
      all_goals
        cases htake.symm.trans h
      rfl
  | stop => cases h

def PoolMonitor (Task : Type) :
    Monitor (ThreadPool Task) (Request Task) Cond (Event Task) where
  Section := Section
  WaitsOn := WaitsOn
  waits_on := section_waits_on

inductive Ends (pool : ThreadPool Task) : Request Task -> ThreadPool Task ->
    Event Task -> (Cond -> Signal) -> Prop where
  | accepted (task : Task) :
      pool.QueueIsFull = false -> pool.running_ = true ->
      Ends pool (Request.run task)
        { pool with queue_ := pool.queue_ ++ [task] }
        (Event.accepted task) (Monitor.Notify Cond.notEmpty_)
  | refused (task : Task) :
      pool.running_ = false ->
      Ends pool (Request.run task) pool (Event.refused task)
        (fun _ => Signal.quiet)
  | taken (task : Task) (rest : List Task) :
      pool.queue_ = task :: rest -> pool.running_ = true ->
      Ends pool Request.take { pool with queue_ := rest } (Event.taken task)
        (if 0 < pool.maxQueueSize_ then Monitor.Notify Cond.notFull_
        else fun _ => Signal.quiet)
  | nothing :
      pool.running_ = false ->
      Ends pool Request.take pool Event.nothing (fun _ => Signal.quiet)
  | stopped :
      Ends pool Request.stop { pool with running_ := false } Event.stopped
        (fun _ => Signal.all)

theorem section_ends {request : Request Task} {next : ThreadPool Task}
    {event : Event Task} {signals : Cond -> Signal}
    (h : Section request pool = Verdict.ends next event signals) :
    Ends pool request next event signals := by
  cases request with
  | run task =>
      change RunLocked pool task = _ at h
      rcases runLocked_spec task with
        ⟨_, _, hrun⟩ | ⟨hroom, hrunning, hrun⟩ | ⟨hstopped, hrun⟩
      · cases hrun.symm.trans h
      · cases hrun.symm.trans h
        exact Ends.accepted task hroom hrunning
      · cases hrun.symm.trans h
        exact Ends.refused task hstopped
  | take =>
      change Take pool = _ at h
      rcases take_spec with
        ⟨_, _, htake⟩ | ⟨task, rest, hqueue, hrunning, htake⟩ |
        ⟨hstopped, htake⟩
      · cases htake.symm.trans h
      · cases htake.symm.trans h
        exact Ends.taken task rest hqueue hrunning
      · cases htake.symm.trans h
        exact Ends.nothing hstopped
  | stop =>
      cases h
      exact Ends.stopped

theorem waits_notEmpty {request : Request Task}
    (h : Section request pool = Verdict.waits Cond.notEmpty_) :
    pool.queue_ = [] ∧ pool.running_ = true := by
  cases request with
  | run task => cases section_waits_on _ _ _ h
  | take =>
      change Take pool = _ at h
      rcases take_spec with
        ⟨hempty, hrunning, _⟩ | ⟨_, _, _, _, htake⟩ | ⟨_, htake⟩
      · exact ⟨hempty, hrunning⟩
      · cases htake.symm.trans h
      · cases htake.symm.trans h
  | stop => cases h

theorem waits_notFull {request : Request Task}
    (h : Section request pool = Verdict.waits Cond.notFull_) :
    pool.QueueIsFull = true ∧ pool.running_ = true := by
  cases request with
  | run task =>
      change RunLocked pool task = _ at h
      rcases runLocked_spec task with
        ⟨hfull, hrunning, _⟩ | ⟨_, _, hrun⟩ | ⟨_, hrun⟩
      · exact ⟨hfull, hrunning⟩
      · cases hrun.symm.trans h
      · cases hrun.symm.trans h
  | take => cases section_waits_on _ _ _ h
  | stop => cases h

theorem queueIsFull_iff : pool.QueueIsFull = true <->
    0 < pool.maxQueueSize_ ∧ pool.maxQueueSize_ ≤ pool.queue_.length :=
  decide_eq_true_iff

theorem queueIsFull_eq_false : pool.QueueIsFull = false <->
    (0 < pool.maxQueueSize_ -> pool.queue_.length < pool.maxQueueSize_) := by
  rw [← Bool.not_eq_true, queueIsFull_iff, not_and, Int.not_le]

/-!
# Tasks
-/

def AcceptedOf : Event Task -> Option Task
  | Event.accepted task => some task
  | _ => none

def TakenOf : Event Task -> Option Task
  | Event.taken task => some task
  | _ => none

def Accepted (tr : List (Event Task)) : List Task := tr.filterMap AcceptedOf

def Taken (tr : List (Event Task)) : List Task := tr.filterMap TakenOf

theorem accepted_append (tr : List (Event Task)) (event : Event Task) :
    Accepted (tr ++ [event]) = Accepted tr ++ (AcceptedOf event).toList := by
  cases event <;> simp [Accepted, List.filterMap_append, AcceptedOf]

theorem taken_append (tr : List (Event Task)) (event : Event Task) :
    Taken (tr ++ [event]) = Taken tr ++ (TakenOf event).toList := by
  cases event <;> simp [Taken, List.filterMap_append, TakenOf]

structure Kept (maxQueueSize : Int) (pool : ThreadPool Task)
    (tr : List (Event Task)) : Prop where
  limit : pool.maxQueueSize_ = maxQueueSize
  bounded : 0 < maxQueueSize -> pool.queue_.length ≤ maxQueueSize
  tasks : Accepted tr = Taken tr ++ pool.queue_
  running : pool.running_ = false <-> Event.stopped ∈ tr

theorem kept_by_sections (maxQueueSize : Int) :
    (PoolMonitor Task).KeptBySections (Kept maxQueueSize) := by
  intro request pool next event signals tr h hends
  have hrunning := h.running
  have htasks : forall last : ThreadPool Task,
      pool.queue_ ++ (AcceptedOf event).toList =
        (TakenOf event).toList ++ last.queue_ ->
      Accepted (tr ++ [event]) = Taken (tr ++ [event]) ++ last.queue_ := by
    intro last hsame
    rw [accepted_append, taken_append, h.tasks, List.append_assoc, hsame,
      List.append_assoc]
  cases section_ends hends with
  | accepted task hroom _ =>
      refine ⟨h.limit, fun hpositive => ?_, htasks _ rfl, by simpa⟩
      have hless := queueIsFull_eq_false.mp hroom
      rw [h.limit] at hless
      have hlength := hless hpositive
      simp only [List.length_append, List.length_singleton]
      omega
  | refused task _ =>
      refine ⟨h.limit, h.bounded, htasks _ ?_, by simpa⟩
      exact List.append_nil _
  | taken task rest hqueue _ =>
      refine ⟨h.limit, fun hpositive => ?_, htasks _ ?_, by simpa⟩
      · have hlength := h.bounded hpositive
        rw [hqueue, List.length_cons] at hlength
        show (rest.length : Int) ≤ maxQueueSize
        omega
      · rw [hqueue]
        exact List.append_nil _
  | nothing _ =>
      refine ⟨h.limit, h.bounded, htasks _ ?_, by simpa⟩
      exact List.append_nil _
  | stopped =>
      refine ⟨h.limit, h.bounded, htasks _ ?_, by simp⟩
      exact List.append_nil _

/-!
# Signals

A stopped pool has no work, since its sections do not wait.
-/

def Tasks (pool : ThreadPool Task) : Nat :=
  if pool.running_ then pool.queue_.length else 0

def Room (pool : ThreadPool Task) : Nat :=
  if pool.running_ then pool.maxQueueSize_.toNat - pool.queue_.length else 0

theorem counts_notEmpty : (PoolMonitor Task).Counts Cond.notEmpty_
    (fun _ => True) Tasks where
  waits request pool _ hwaits := by
    simp [Tasks, (waits_notEmpty hwaits).1]
  takes request pool next event signals _ hends hown := by
    cases section_ends hends with
    | accepted task _ _ => cases hown
    | refused task hstopped => cases hown
    | taken task rest hqueue hrunning => simp [Tasks, hqueue, hrunning]
    | nothing hstopped => simp [Tasks, hstopped]
    | stopped => simp [Tasks]
  makes request pool next event signals _ hends := by
    cases section_ends hends with
    | accepted task _ hrunning =>
        refine Or.inr ⟨?_, by decide⟩
        simp [Tasks, hrunning]
    | refused task hstopped => exact Or.inl (Nat.le_refl _)
    | taken task rest hqueue hrunning =>
        exact Or.inl (by simp [Tasks, hqueue, hrunning])
    | nothing hstopped => exact Or.inl (Nat.le_refl _)
    | stopped => exact Or.inl (by simp [Tasks])

theorem counts_notFull : (PoolMonitor Task).Counts Cond.notFull_
    (fun _ => True) Room where
  waits request pool _ hwaits := by
    have hfull := queueIsFull_iff.mp (waits_notFull hwaits).1
    rw [Room, if_pos (waits_notFull hwaits).2]
    omega
  takes request pool next event signals _ hends hown := by
    cases section_ends hends with
    | accepted task hroom hrunning =>
        simp only [Room, hrunning, if_true, List.length_append,
          List.length_singleton]
        omega
    | refused task hstopped => simp [Room, hstopped]
    | taken task rest hqueue hrunning => cases hown
    | nothing hstopped => cases hown
    | stopped => cases hown
  makes request pool next event signals _ hends := by
    cases section_ends hends with
    | accepted task hroom hrunning =>
        apply Or.inl
        simp only [Room, hrunning, if_true, List.length_append]
        omega
    | refused task hstopped => exact Or.inl (Nat.le_refl _)
    | taken task rest hqueue hrunning =>
        by_cases hlimit : 0 < pool.maxQueueSize_
        · refine Or.inr ⟨?_, by simp [hlimit, Monitor.Notify]⟩
          simp only [Room, hrunning, if_true, hqueue, List.length_cons]
          omega
        · apply Or.inl
          simp only [Room, hrunning, if_true]
          omega
    | nothing hstopped => exact Or.inl (Nat.le_refl _)
    | stopped => exact Or.inl (by simp [Room])

/-!
# Workers and callers
-/

/-- Where a worker is in `RunInThread`. -/
inductive Worker (Task : Type) where
  | initializing
  | testing
  | taking
  | running (task : Task)
  | returned

abbrev Lock (ThreadId Task : Type) : Type :=
  Monitor.State ThreadId (ThreadPool Task) (Request Task) Cond

/-- The pool with its threads.  `Stop` is called once. -/
structure Pool (ThreadId Task : Type) where
  lock : Lock ThreadId Task
  workers : ThreadId -> Option (Worker Task)
  stopCalled : Bool

inductive Input (ThreadId Task : Type) where
  | run (tid : ThreadId) (task : Task)
  | stop (tid : ThreadId)
  | initialized (tid : ThreadId)
  | test (tid : ThreadId)
  | taskReturns (tid : ThreadId)
  | enter (tid : ThreadId) (chosen : List (Monitor.Sleeper ThreadId Cond))
  | spurious (sleeper : Monitor.Sleeper ThreadId Cond)

section Threads

variable {ThreadId : Type}

/-- The thread runs code of the user: a worker does so within a callback. -/
def InUserCode (pool : Pool ThreadId Task) (tid : ThreadId) : Bool :=
  (pool.lock.calls tid).isNone &&
    match pool.workers tid with
    | none => true
    | some Worker.initializing => true
    | some (Worker.running _) => true
    | some _ => false

def OnLock (pool : Pool ThreadId Task)
    (call : Call (Lock ThreadId Task) (Event Task)) :
    Call (Pool ThreadId Task) (Event Task) :=
  match call with
  | Except.error failure => Except.error failure
  | Except.ok (lock, es) => Except.ok ({ pool with lock := lock }, es)

variable [DecidableEq ThreadId]

/-- `Start` has created the workers and returned. -/
def Init (workers : List ThreadId) (maxQueueSize : Int) :
    Pool ThreadId Task where
  lock := Monitor.Init ThreadId (Request Task) Cond
    { threads_ := workers.length
      queue_ := []
      maxQueueSize_ := maxQueueSize
      running_ := true }
  workers := fun tid =>
    if tid ∈ workers then some Worker.initializing else none
  stopCalled := false

def SetWorker (pool : Pool ThreadId Task) (tid : ThreadId)
    (worker : Worker Task) : Pool ThreadId Task :=
  { pool with workers := Function.update pool.workers tid (some worker) }

def Run (pool : Pool ThreadId Task) (tid : ThreadId) (task : Task) :
    Call (Pool ThreadId Task) (Event Task) :=
  if InUserCode pool tid then
    if pool.lock.data.threads_ = 0 then
      Except.ok (pool, [Event.called task])
    else OnLock pool (Monitor.Begin pool.lock tid (Request.run task))
  else Except.error Failure.impossible

def Stop (pool : Pool ThreadId Task) (tid : ThreadId) :
    Call (Pool ThreadId Task) (Event Task) :=
  if InUserCode pool tid ∧ pool.stopCalled = false then
    OnLock { pool with stopCalled := true }
      (Monitor.Begin pool.lock tid Request.stop)
  else Except.error Failure.impossible

/-- `initCallback_` returns. -/
def Initialized (pool : Pool ThreadId Task) (tid : ThreadId) :
    Call (Pool ThreadId Task) (Event Task) :=
  match pool.workers tid with
  | some Worker.initializing =>
      if InUserCode pool tid then
        Except.ok (SetWorker pool tid Worker.testing, [])
      else Except.error Failure.impossible
  | _ => Except.error Failure.impossible

def TaskReturns (pool : Pool ThreadId Task) (tid : ThreadId) :
    Call (Pool ThreadId Task) (Event Task) :=
  match pool.workers tid with
  | some (Worker.running _) =>
      if InUserCode pool tid then
        Except.ok (SetWorker pool tid Worker.testing, [])
      else Except.error Failure.impossible
  | _ => Except.error Failure.impossible

/-- The test of the loop of `RunInThread`, and the call of `Take` behind it. -/
def TestRunning (pool : Pool ThreadId Task) (tid : ThreadId) :
    Call (Pool ThreadId Task) (Event Task) :=
  match pool.workers tid with
  | some Worker.testing =>
      if pool.lock.data.running_ then
        OnLock (SetWorker pool tid Worker.taking)
          (Monitor.Begin pool.lock tid Request.take)
      else Except.ok (SetWorker pool tid Worker.returned, [])
  | _ => Except.error Failure.impossible

/-- A worker that gets a task runs it, and one that gets none tests again. -/
def AfterTake : List (Event Task) -> Option (Worker Task)
  | [Event.taken task] => some (Worker.running task)
  | [Event.nothing] => some Worker.testing
  | _ => none

def Enter (pool : Pool ThreadId Task) (tid : ThreadId)
    (chosen : List (Monitor.Sleeper ThreadId Cond)) :
    Call (Pool ThreadId Task) (Event Task) :=
  match Monitor.Enter (PoolMonitor Task) pool.lock tid chosen with
  | Except.error failure => Except.error failure
  | Except.ok (lock, es) =>
      match AfterTake es with
      | some worker =>
          Except.ok (SetWorker { pool with lock := lock } tid worker, es)
      | none => Except.ok ({ pool with lock := lock }, es)

def Perform (pool : Pool ThreadId Task) :
    Input ThreadId Task -> Call (Pool ThreadId Task) (Event Task)
  | Input.run tid task => Run pool tid task
  | Input.stop tid => Stop pool tid
  | Input.initialized tid => Initialized pool tid
  | Input.test tid => TestRunning pool tid
  | Input.taskReturns tid => TaskReturns pool tid
  | Input.enter tid chosen => Enter pool tid chosen
  | Input.spurious sleeper =>
      OnLock pool (Monitor.Spurious pool.lock sleeper)

def PoolMachine (ThreadId Task : Type) [DecidableEq ThreadId] :
    Machine (Pool ThreadId Task) (Input ThreadId Task) (Event Task) where
  Step pool i := Answer (Perform pool i)

/-!
# Runs
-/

def Moves (pool next : Pool ThreadId Task) (es : List (Event Task)) : Prop :=
  Monitor.Transition (PoolMonitor Task) pool.lock next.lock es ∨
    next.lock = pool.lock ∧ (es = [] ∨ exists task, es = [Event.called task])

variable {pool next : Pool ThreadId Task} {es : List (Event Task)}

theorem moves_setWorker (tid : ThreadId) (worker : Worker Task) :
    Moves pool (SetWorker pool tid worker) [] :=
  Or.inr ⟨rfl, Or.inl rfl⟩

theorem onLock_moves {before : Pool ThreadId Task}
    {call : Call (Lock ThreadId Task) (Event Task)}
    (h : Yields call (Monitor.Transition (PoolMonitor Task) pool.lock)) :
    Yields (OnLock before call) (Moves pool) := by
  unfold OnLock
  split
  · exact yields_error
  · exact yields_ok.mpr (Or.inl (h _ _ rfl))

theorem enter_moves (tid : ThreadId)
    (chosen : List (Monitor.Sleeper ThreadId Cond)) :
    Yields (Enter pool tid chosen) (Moves pool) := by
  unfold Enter
  split
  · exact yields_error
  · rename_i lock es henter
    have hstep := Monitor.enter_transition lock es henter
    split
    · exact yields_ok.mpr (Or.inl hstep)
    · exact yields_ok.mpr (Or.inl hstep)

theorem perform_moves (i : Input ThreadId Task) :
    Yields (Perform pool i) (Moves pool) := by
  cases i with
  | run tid task =>
      refine Yields.only_if (fun _ => ?_)
      split
      · exact yields_ok.mpr (Or.inr ⟨rfl, Or.inr ⟨task, rfl⟩⟩)
      · exact onLock_moves Monitor.begin_transition
  | stop tid =>
      exact Yields.only_if (fun _ =>
        onLock_moves Monitor.begin_transition)
  | initialized tid =>
      show Yields (Initialized pool tid) (Moves pool)
      unfold Initialized
      split
      · exact Yields.only_if (fun _ =>
          yields_ok.mpr (moves_setWorker tid Worker.testing))
      · exact yields_error
  | test tid =>
      show Yields (TestRunning pool tid) (Moves pool)
      unfold TestRunning
      split
      · split
        · exact onLock_moves Monitor.begin_transition
        · exact yields_ok.mpr (moves_setWorker tid Worker.returned)
      · exact yields_error
  | taskReturns tid =>
      show Yields (TaskReturns pool tid) (Moves pool)
      unfold TaskReturns
      split
      · exact Yields.only_if (fun _ =>
          yields_ok.mpr (moves_setWorker tid Worker.testing))
      · exact yields_error
  | enter tid chosen => exact enter_moves tid chosen
  | spurious sleeper =>
      exact onLock_moves (Monitor.perform_transition
        (Monitor.Input.spurious sleeper))

structure Sound (maxQueueSize : Int) (pool : Pool ThreadId Task)
    (tr : List (Event Task)) : Prop where
  orderly : Monitor.Orderly (PoolMonitor Task) pool.lock
  kept : Kept maxQueueSize pool.lock.data tr
  notEmpty : Monitor.NoLostSignal Cond.notEmpty_ Tasks pool.lock
  notFull : Monitor.NoLostSignal Cond.notFull_ Room pool.lock
  stopped : forall cond, pool.lock.data.running_ = false ->
    ¬Monitor.SleepsOn pool.lock cond
  unlimited : ¬0 < pool.lock.data.maxQueueSize_ ->
    ¬Monitor.SleepsOn pool.lock Cond.notFull_

theorem sound_init (workers : List ThreadId) (maxQueueSize : Int) :
    Sound maxQueueSize (Init workers maxQueueSize : Pool ThreadId Task)
      [] where
  orderly := Monitor.orderly_init _
  kept := ⟨rfl, fun hpositive => Int.le_of_lt hpositive, rfl, by simp [Init,
    Monitor.Init]⟩
  notEmpty := fun _ => Nat.le_refl 0
  notFull := fun hsleeps => by
    rcases hsleeps with ⟨s, hs, _⟩
    cases hs
  stopped := by simp [Init, Monitor.Init]
  unlimited := by simp [Monitor.SleepsOn, Init, Monitor.Init]

theorem stopped_step {cond : Cond}
    (h : pool.lock.data.running_ = false -> ¬Monitor.SleepsOn pool.lock cond)
    (hstep : Monitor.Transition (PoolMonitor Task) pool.lock next.lock es) :
    next.lock.data.running_ = false -> ¬Monitor.SleepsOn next.lock cond := by
  refine Monitor.deserted_step (P := fun pool => pool.running_ = false)
    ?_ ?_ h hstep
  · intro request pool hstopped hwaits
    cases cond with
    | notEmpty_ =>
        rw [(waits_notEmpty hwaits).2] at hstopped
        cases hstopped
    | notFull_ =>
        rw [(waits_notFull hwaits).2] at hstopped
        cases hstopped
  · intro request pool last event signals hends hstopped
    cases section_ends hends with
    | stopped => exact Or.inr rfl
    | _ => exact Or.inl hstopped

/-- Nobody waits for room where there is no limit. -/
theorem unlimited_step
    (h : ¬0 < pool.lock.data.maxQueueSize_ ->
      ¬Monitor.SleepsOn pool.lock Cond.notFull_)
    (hstep : Monitor.Transition (PoolMonitor Task) pool.lock next.lock es) :
    ¬0 < next.lock.data.maxQueueSize_ ->
      ¬Monitor.SleepsOn next.lock Cond.notFull_ := by
  refine Monitor.deserted_step (P := fun pool => ¬0 < pool.maxQueueSize_)
    ?_ ?_ h hstep
  · intro request pool hunlimited hwaits
    exact hunlimited (queueIsFull_iff.mp (waits_notFull hwaits).1).1
  · intro request pool last event signals hends hunlimited
    cases section_ends hends <;> exact Or.inl hunlimited

theorem sound_moves {maxQueueSize : Int} {tr : List (Event Task)}
    (h : Sound maxQueueSize pool tr) (hmoves : Moves pool next es) :
    Sound maxQueueSize next (tr ++ es) := by
  rcases hmoves with hstep | ⟨hlock, hsilent⟩
  · exact {
      orderly := Monitor.orderly_step h.orderly hstep
      kept := Monitor.data_invariant (kept_by_sections maxQueueSize) h.kept
        hstep
      notEmpty := Monitor.no_lost_signal_step counts_notEmpty trivial
        h.orderly h.notEmpty hstep
      notFull := Monitor.no_lost_signal_step counts_notFull trivial
        h.orderly h.notFull hstep
      stopped := fun cond => stopped_step (h.stopped cond) hstep
      unlimited := unlimited_step h.unlimited hstep }
  · have hkept : Kept maxQueueSize pool.lock.data (tr ++ es) := by
      rcases hsilent with rfl | ⟨task, rfl⟩
      · rw [List.append_nil]
        exact h.kept
      · refine ⟨h.kept.limit, h.kept.bounded, ?_, by simpa using h.kept.running⟩
        rw [accepted_append, taken_append]
        simpa [AcceptedOf, TakenOf] using h.kept.tasks
    rw [← hlock] at hkept
    exact ⟨hlock ▸ h.orderly, hkept, hlock ▸ h.notEmpty, hlock ▸ h.notFull,
      hlock ▸ h.stopped, hlock ▸ h.unlimited⟩

theorem sound_run {workers : List ThreadId} {maxQueueSize : Int}
    {inputs : List (Input ThreadId Task)} {tr : List (Event Task)}
    (hrun : (PoolMachine ThreadId Task).Run (Init workers maxQueueSize)
      inputs = some (pool, tr)) : Sound maxQueueSize pool tr :=
  Machine.run_invariant (I := Sound maxQueueSize) (p := [])
    (fun _ _ i _ _ hsound hstep => sound_moves hsound
      (perform_moves i _ _ (answer_eq_some.mp hstep)))
    (sound_init workers maxQueueSize) hrun

/--
The queue keeps its limit, and the tasks are taken in the order in which they
were accepted.  Before `Stop` nobody sleeps without a signal over something to
do, and after `Stop` nobody sleeps.
-/
theorem pool_safe {workers : List ThreadId} {maxQueueSize : Int}
    {inputs : List (Input ThreadId Task)} {tr : List (Event Task)}
    (hrun : (PoolMachine ThreadId Task).Run (Init workers maxQueueSize)
      inputs = some (pool, tr)) :
    (0 < maxQueueSize -> pool.lock.data.queue_.length ≤ maxQueueSize) ∧
      Taken tr <+: Accepted tr ∧
      (Event.stopped ∉ tr ->
        ¬(Monitor.SleepsOn pool.lock Cond.notEmpty_ ∧
            pool.lock.data.queue_ ≠ [] ∧
            Monitor.Pending pool.lock Cond.notEmpty_ = 0) ∧
          ¬(Monitor.SleepsOn pool.lock Cond.notFull_ ∧
            pool.lock.data.QueueIsFull = false ∧
            Monitor.Pending pool.lock Cond.notFull_ = 0)) ∧
      (Event.stopped ∈ tr -> pool.lock.sleepers = []) := by
  have hsound := sound_run hrun
  refine ⟨hsound.kept.bounded, ⟨_, hsound.kept.tasks.symm⟩, ?_, ?_⟩
  · intro hbefore
    have hrunning : pool.lock.data.running_ = true := by
      rw [← Bool.not_eq_false]
      exact fun hstopped => hbefore (hsound.kept.running.mp hstopped)
    constructor
    · intro hparts
      rcases hparts with ⟨hsleeps, htasks, hpending⟩
      have hwork := hsound.notEmpty hsleeps
      rw [hpending, Tasks, if_pos hrunning] at hwork
      exact htasks (List.eq_nil_of_length_eq_zero (Nat.le_zero.mp hwork))
    · intro hfacts
      rcases hfacts with ⟨hsleeps, hroom, hpending⟩
      have hwork := hsound.notFull hsleeps
      rw [hpending, Room, if_pos hrunning] at hwork
      have hlimit : 0 < pool.lock.data.maxQueueSize_ := by
        by_contra hunlimited
        exact hsound.unlimited hunlimited hsleeps
      have hless := queueIsFull_eq_false.mp hroom hlimit
      omega
  · intro hafter
    have hstopped := hsound.kept.running.mpr hafter
    refine List.eq_nil_iff_forall_not_mem.mpr (fun s hs => ?_)
    exact hsound.stopped s.cond hstopped ⟨s, hs, rfl⟩

end Threads

def StoppedWhileFull : List (Input Nat Nat) :=
  [Input.run 1 7, Input.enter 1 [], Input.run 1 8, Input.enter 1 [],
    Input.stop 2, Input.enter 2 [⟨1, Cond.notFull_⟩], Input.enter 1 []]

theorem pool_safe_of_stop :
    exists pool tr,
      (PoolMachine Nat Nat).Run (Init [0] 1) StoppedWhileFull =
        some (pool, tr) ∧
      tr = [Event.accepted 7, Event.stopped, Event.refused 8] ∧
      (pool.lock.data.queue_.length : Int) ≤ 1 ∧
      Taken tr <+: Accepted tr ∧ pool.lock.sleepers = [] := by
  have heval : ((PoolMachine Nat Nat).Run (Init [0] 1) StoppedWhileFull).map
      (fun last => (last.1.stopCalled, last.2)) =
      some (true, [Event.accepted 7, Event.stopped, Event.refused 8]) := by
    decide +kernel
  rcases (PoolMachine Nat Nat).exists_run (fun pool => pool.stopCalled) heval
    with ⟨pool, hrun, _⟩
  have hsafe := pool_safe hrun
  exact ⟨pool, _, hrun, rfl, hsafe.1 (by decide), hsafe.2.1,
    hsafe.2.2.2 (by decide)⟩

end ThreadPool
end Thread
end Wethands
