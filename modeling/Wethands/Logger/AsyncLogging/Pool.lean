import Wethands.Logger.AsyncLogging.Order

/-!
# The pool of buffers

Here the vectors consist of pointers, which a move leaves null, and the code
reads whatever lies in them.  No run ever meets a null pointer, so that the log
whose vectors consist of buffers is all that can be seen.
-/

namespace Wethands
namespace Logger

open Foundation

namespace AsyncLogging

abbrev PtrVector : Type := List BufferPtr

/-- The members, the local variables of `ThreadFunc` and the callers. -/
structure Pool (ThreadId : Type) where
  running_ : Bool
  buffers_ : PtrVector
  currentBuffer_ : BufferPtr
  nextBuffer_ : BufferPtr
  phase : Phase
  newBuffer1 : BufferPtr
  newBuffer2 : BufferPtr
  buffersToWrite : PtrVector
  callers : ThreadId -> Option Line

namespace Pool

variable {ThreadId : Type}

def New (ThreadId : Type) : Pool ThreadId where
  running_ := false
  buffers_ := []
  currentBuffer_ := some (FixedBuffer.New kLargeBufferSize)
  nextBuffer_ := some (FixedBuffer.New kLargeBufferSize)
  phase := Phase.notStarted
  newBuffer1 := none
  newBuffer2 := none
  buffersToWrite := []
  callers := fun _ => none

/-- The critical section of `Append`. -/
def AppendHolding (pool : Pool ThreadId) (line : Line) :
    Call (Pool ThreadId) Event :=
  match pool.currentBuffer_ with
  | none => Except.error Failure.danglingPointer
  | some current =>
      if line.length < current.AvailableBytes then
        Except.ok
          ({ pool with currentBuffer_ := some (current.Append line) },
            [Event.held line])
      else
        let fresh :=
          match pool.nextBuffer_ with
          | some next => next
          | none => FixedBuffer.New kLargeBufferSize
        Except.ok
          ({ pool with
            buffers_ := pool.buffers_ ++ [pool.currentBuffer_]
            currentBuffer_ := some (fresh.Append line)
            nextBuffer_ := none },
            [Event.held line])

/-- The texts of the buffers; the event that carries them reads no pointer. -/
def Texts (buffers : PtrVector) : List Line :=
  buffers.filterMap (Option.map FixedBuffer.written)

/-- What the back end takes under `lock_`. -/
def Take (pool : Pool ThreadId) : Call (Pool ThreadId) Event :=
  let batch := pool.buffers_ ++ [pool.currentBuffer_]
  let renewed : Pool ThreadId :=
    match pool.nextBuffer_ with
    | some _ => pool
    | none => { pool with nextBuffer_ := pool.newBuffer2, newBuffer2 := none }
  Except.ok
    ({ renewed with
      buffers_ := pool.buffersToWrite
      buffersToWrite := batch
      currentBuffer_ := pool.newBuffer1
      newBuffer1 := none
      phase := Phase.dropping },
      [Event.took (Texts batch)])

/-- `resize`, which fills up with null pointers. -/
def Resize (n : Nat) (buffers : PtrVector) : PtrVector :=
  buffers.take n ++ List.replicate (n - buffers.length) none

def Drop (pool : Pool ThreadId) : Pool ThreadId :=
  { pool with
    buffersToWrite :=
      if 16 < pool.buffersToWrite.length then Resize 2 pool.buffersToWrite
      else pool.buffersToWrite
    phase := Phase.writing 0 }

/-- `back()`, `pop_back()` and `Reset()`. -/
def Reuse (buffers : PtrVector) : Outcome (BufferPtr × PtrVector) :=
  match buffers.getLast? with
  | none => Except.error Failure.danglingPointer
  | some none => Except.error Failure.danglingPointer
  | some (some old) => Except.ok (some old.Reset, buffers.dropLast)

def Recycle (pool : Pool ThreadId) : Call (Pool ThreadId) Event :=
  let old :=
    if 2 < pool.buffersToWrite.length then Resize 2 pool.buffersToWrite
    else pool.buffersToWrite
  match Reuse old with
  | Except.error failure => Except.error failure
  | Except.ok (first, rest) =>
      let next : Pool ThreadId :=
        { pool with
          newBuffer1 := first
          buffersToWrite := []
          phase := Phase.test }
      match pool.newBuffer2 with
      | some _ => Except.ok (next, [])
      | none =>
          match Reuse rest with
          | Except.error failure => Except.error failure
          | Except.ok (second, _) =>
              Except.ok ({ next with newBuffer2 := second }, [])

def ThreadFunc (pool : Pool ThreadId) : Call (Pool ThreadId) Event :=
  match pool.phase with
  | Phase.notStarted => Except.error Failure.impossible
  | Phase.starting =>
      Except.ok
        ({ pool with
          newBuffer1 := some (FixedBuffer.New kLargeBufferSize)
          newBuffer2 := some (FixedBuffer.New kLargeBufferSize)
          buffersToWrite := []
          phase := Phase.test }, [])
  | Phase.test =>
      if pool.running_ then Except.ok ({ pool with phase := Phase.lock }, [])
      else Except.ok ({ pool with phase := Phase.returned }, [])
  | Phase.lock =>
      if pool.buffers_.isEmpty then
        Except.ok ({ pool with phase := Phase.waiting }, [])
      else pool.Take
  | Phase.waiting => pool.Take
  | Phase.dropping => Except.ok (pool.Drop, [])
  | Phase.writing done =>
      match pool.buffersToWrite[done]? with
      | some none => Except.error Failure.danglingPointer
      | some (some buffer) =>
          Except.ok
            ({ pool with phase := Phase.writing (done + 1) },
              [Event.fileAppend buffer.written])
      | none => Except.ok ({ pool with phase := Phase.recycling }, [])
  | Phase.recycling => pool.Recycle
  | Phase.returned => Except.error Failure.impossible
  | Phase.joined => Except.error Failure.impossible

def Perform [DecidableEq ThreadId] (pool : Pool ThreadId) :
    Input ThreadId -> Call (Pool ThreadId) Event
  | Input.start =>
      Assert (pool.running_ = false)
        (if pool.phase = Phase.notStarted then
          Except.ok ({ pool with running_ := true, phase := Phase.starting },
            [])
        else Except.error Failure.impossible)
  | Input.append tid line =>
      match pool.callers tid with
      | some _ => Except.error Failure.impossible
      | none =>
          Assert (pool.running_ = true)
            (Except.ok
              ({ pool with
                callers := Function.update pool.callers tid (some line) }, []))
  | Input.holds tid =>
      match pool.callers tid with
      | none => Except.error Failure.impossible
      | some line =>
          AppendHolding
            { pool with callers := Function.update pool.callers tid none } line
  | Input.threadFunc => pool.ThreadFunc
  | Input.stop =>
      Assert (pool.running_ = true)
        (Except.ok ({ pool with running_ := false }, [Event.stopping]))
  | Input.stopReturns =>
      if pool.running_ = false ∧ pool.phase = Phase.returned then
        Except.ok ({ pool with phase := Phase.joined }, [Event.stopped])
      else Except.error Failure.impossible

def PoolMachine (ThreadId : Type) [DecidableEq ThreadId] :
    Machine (Pool ThreadId) (Input ThreadId) Event where
  Step pool i := Answer (pool.Perform i)

/-!
# The pool behind the log
-/

/-- The log with a pointer to each buffer of its vectors. -/
def Lift (log : AsyncLogging ThreadId) : Pool ThreadId where
  running_ := log.running_
  buffers_ := log.buffers_.map some
  currentBuffer_ := log.currentBuffer_
  nextBuffer_ := log.nextBuffer_
  phase := log.phase
  newBuffer1 := log.newBuffer1
  newBuffer2 := log.newBuffer2
  buffersToWrite := log.buffersToWrite.map some
  callers := log.callers

def LiftCall (call : Call (AsyncLogging ThreadId) Event) :
    Call (Pool ThreadId) Event :=
  call.map (fun last => (Lift last.1, last.2))

variable {log : AsyncLogging ThreadId}

theorem lift_running_ : (Lift log).running_ = log.running_ := rfl

theorem lift_phase : (Lift log).phase = log.phase := rfl

theorem lift_callers : (Lift log).callers = log.callers := rfl

theorem answer_lift (call : Call (AsyncLogging ThreadId) Event) :
    Answer (LiftCall call) =
      (Answer call).map (fun last => (Lift last.1, last.2)) := by
  cases call <;> rfl

theorem lift_defined {call : Call (AsyncLogging ThreadId) Event}
    {failure : Failure} (h : call ≠ Except.error failure) :
    LiftCall call ≠ Except.error failure := by
  cases call with
  | error other => simpa [LiftCall, Except.map] using h
  | ok last => simp [LiftCall, Except.map]

theorem appendHolding_lift (log : AsyncLogging ThreadId) (line : Line) :
    (Lift log).AppendHolding line = LiftCall (log.AppendHolding line) := by
  unfold AppendHolding AsyncLogging.AppendHolding
  cases hcurrent : log.currentBuffer_ with
  | none => simp only [Lift, hcurrent, LiftCall, Except.map]
  | some current =>
      simp only [Lift, hcurrent]
      split
      · rfl
      · cases hnext : log.nextBuffer_ with
        | some next =>
            simp [LiftCall, Except.map, Lift]
        | none =>
            simp [LiftCall, Except.map, Lift]

theorem texts_map_some (buffers : BufferVector) :
    Texts (buffers.map some) = Contents buffers := by
  have hwritten : Option.map FixedBuffer.written ∘ some =
      some ∘ (FixedBuffer.written : Buffer -> Line) := rfl
  rw [Texts, List.filterMap_map, hwritten, List.filterMap_eq_map, Contents]

theorem take_lift (hcurrent : log.currentBuffer_ ≠ none) :
    (Lift log).Take = LiftCall log.Take := by
  rcases Option.ne_none_iff_exists'.mp hcurrent with ⟨current, hsome⟩
  have hbatch : log.buffers_.map some ++ [some current] =
      (log.buffers_ ++ [current]).map some := by
    rw [List.map_append, List.map_singleton]
  unfold Take AsyncLogging.Take
  simp only [Lift, hsome, hbatch, texts_map_some]
  cases hnext : log.nextBuffer_ with
  | some next => simp [LiftCall, Except.map, Lift, Contents, hnext]
  | none => simp [LiftCall, Except.map, Lift, Contents]

theorem resize_map_some {n : Nat} {buffers : BufferVector}
    (h : n < buffers.length) :
    Resize n (buffers.map some) = (buffers.take n).map some := by
  have hnone : n - (buffers.map some).length = 0 := by
    rw [List.length_map]
    exact Nat.sub_eq_zero_of_le (Nat.le_of_lt h)
  rw [Resize, hnone, List.replicate_zero, List.append_nil, List.map_take]

theorem drop_lift (log : AsyncLogging ThreadId) :
    (Lift log).Drop = Lift log.Drop := by
  unfold Drop AsyncLogging.Drop
  simp only [Lift, List.length_map]
  split
  · rw [resize_map_some (by omega)]
  · rfl

theorem reuse_map_some (buffers : BufferVector) :
    Reuse (buffers.map some) =
      (PopBack buffers).map
        (fun last => (some last.1.Reset, last.2.map some)) := by
  unfold Reuse PopBack
  rw [List.getLast?_map]
  cases buffers.getLast? with
  | none => rfl
  | some last =>
      simp only [Option.map_some, Except.map, List.map_dropLast]

theorem recycle_lift (log : AsyncLogging ThreadId) :
    (Lift log).Recycle = LiftCall log.Recycle := by
  have hold : (if 2 < (Lift log).buffersToWrite.length then
      Resize 2 (Lift log).buffersToWrite else (Lift log).buffersToWrite) =
      (if 2 < log.buffersToWrite.length then log.buffersToWrite.take 2
        else log.buffersToWrite).map some := by
    simp only [Lift, List.length_map]
    split
    · rw [resize_map_some (by omega)]
    · rfl
  unfold Recycle AsyncLogging.Recycle
  rw [hold]
  generalize (if 2 < log.buffersToWrite.length then log.buffersToWrite.take 2
    else log.buffersToWrite) = old
  dsimp only
  rw [reuse_map_some]
  cases PopBack old with
  | error failure => rfl
  | ok first =>
      simp only [Except.map, Lift]
      cases hsecond : log.newBuffer2 with
      | some second => simp [LiftCall, Except.map, Lift]
      | none =>
          simp only [reuse_map_some]
          cases PopBack first.2 with
          | error failure => rfl
          | ok second => simp [LiftCall, Except.map, Lift]

theorem threadFunc_lift (hcurrent : log.currentBuffer_ ≠ none) :
    (Lift log).ThreadFunc = LiftCall log.ThreadFunc := by
  have htake := take_lift hcurrent
  unfold ThreadFunc AsyncLogging.ThreadFunc
  rw [lift_phase]
  cases log.phase with
  | notStarted | starting | returned | joined => rfl
  | test =>
      dsimp only
      rw [lift_running_]
      split <;> rfl
  | lock =>
      dsimp only
      have hempty : (Lift log).buffers_.isEmpty = log.buffers_.isEmpty :=
        List.isEmpty_map
      rw [hempty, htake]
      split <;> rfl
  | waiting => exact htake
  | dropping =>
      dsimp only
      rw [drop_lift]
      rfl
  | writing done =>
      have hbuffer : (Lift log).buffersToWrite[done]? =
          log.buffersToWrite[done]?.map some := List.getElem?_map
      dsimp only
      rw [hbuffer]
      cases log.buffersToWrite[done]? with
      | none => rfl
      | some buffer => rfl
  | recycling => exact recycle_lift log

section Threads

variable [DecidableEq ThreadId]

theorem step_lift (hgood : Good log) (i : Input ThreadId) :
    (PoolMachine ThreadId).Step (Lift log) i =
      ((LogMachine ThreadId).Step log i).map
        (fun last => (Lift last.1, last.2)) := by
  simp only [PoolMachine, LogMachine]
  cases i with
  | start =>
      simp only [Perform, Assert]
      rw [lift_running_, lift_phase]
      split
      · split <;> rfl
      · rfl
  | append tid line =>
      simp only [Perform, Assert]
      rw [lift_callers, lift_running_]
      cases log.callers tid with
      | some _ => rfl
      | none =>
          dsimp only
          split <;> rfl
  | holds tid =>
      simp only [Perform]
      rw [lift_callers]
      cases log.callers tid with
      | none => rfl
      | some line =>
          rw [← answer_lift, ← appendHolding_lift]
          rfl
  | threadFunc =>
      simp only [Perform]
      rw [threadFunc_lift hgood.current, answer_lift]
  | stop =>
      simp only [Perform, Assert]
      rw [lift_running_]
      split <;> rfl
  | stopReturns =>
      simp only [Perform]
      rw [lift_running_, lift_phase]
      split <;> rfl

omit [DecidableEq ThreadId] in
theorem appendHolding_defined (hgood : Good log) (line : Line) :
    log.AppendHolding line ≠ Except.error Failure.danglingPointer := by
  rcases hgood.exists_current with ⟨current, hcurrent⟩
  simp only [AsyncLogging.AppendHolding, hcurrent]
  split
  · simp
  · split <;> simp

omit [DecidableEq ThreadId] in
theorem threadFunc_defined (hgood : Good log) :
    log.ThreadFunc ≠ Except.error Failure.danglingPointer := by
  intro hfails
  have himpossible : log.phase = Phase.notStarted ∨
      log.phase = Phase.returned ∨ log.phase = Phase.joined := by
    by_contra hnot
    simp only [not_or] at hnot
    rcases threadFunc_ok hgood hnot.1 hnot.2.1 hnot.2.2 with
      ⟨next, es, hok⟩
    rw [hok] at hfails
    cases hfails
  rcases himpossible with hphase | hphase | hphase
  all_goals
    rw [AsyncLogging.ThreadFunc, hphase] at hfails
    cases hfails

theorem perform_defined (hgood : Good log) (i : Input ThreadId) :
    (Lift log).Perform i ≠ Except.error Failure.danglingPointer := by
  cases i with
  | start =>
      refine assert_ne_error ?_ (by decide)
      split <;> simp
  | append tid line =>
      simp only [Perform]
      split
      · simp
      · exact assert_ne_error (by simp) (by decide)
  | holds tid =>
      simp only [Perform]
      rw [lift_callers]
      split
      · simp
      · rename_i line _
        have hother : Good { log with
            callers := Function.update log.callers tid none } :=
          ⟨hgood.current, hgood.next, hgood.used, hgood.locals⟩
        have hdefined := lift_defined (appendHolding_defined hother line)
        rw [← appendHolding_lift] at hdefined
        exact hdefined
  | threadFunc =>
      have hdefined := lift_defined (threadFunc_defined hgood)
      rwa [← threadFunc_lift hgood.current] at hdefined
  | stop => exact assert_ne_error (by simp) (by decide)
  | stopReturns =>
      simp only [Perform]
      split <;> simp

theorem run_lifts {inputs : List (Input ThreadId)} {pool : Pool ThreadId}
    {tr : List Event}
    (hrun : (PoolMachine ThreadId).Run (New ThreadId) inputs =
      some (pool, tr)) :
    exists log,
      (LogMachine ThreadId).Run (AsyncLogging.New ThreadId) inputs =
        some (log, tr) ∧
      Good log ∧ pool = Lift log := by
  have hstart : Good (AsyncLogging.New ThreadId) ∧
      New ThreadId = Lift (AsyncLogging.New ThreadId) := ⟨good_new, rfl⟩
  have hboth := Machine.run_simulates (N := LogMachine ThreadId)
    (R := fun pool log => Good log ∧ pool = Lift log)
    (fun pool log i hrelated hanswers => by
      rcases hrelated with ⟨hgood, rfl⟩
      rcases hanswers with ⟨⟨next, es⟩, hstep⟩
      have hlog := hstep
      rw [step_lift hgood] at hlog
      rcases Option.map_eq_some_iff.mp hlog with ⟨⟨other, es'⟩, hother, heq⟩
      cases heq
      have hnext := (step_moves hgood hother).1
      exact ⟨Lift other, other, es', hstep, hother, hnext, rfl⟩)
    hstart (Machine.guarded_of_run hrun)
  rcases hboth with ⟨last, log, tr', hpool, hlog, hrelated⟩
  rw [hpool] at hrun
  cases hrun
  exact ⟨log, hlog, hrelated⟩

/-!
# The pool never runs dry
-/

def Begins : Phase -> Prop
  | Phase.test | Phase.lock => True
  | _ => False

/--
What holds whenever nobody is inside a critical section.  The last field is
about the code that comes next, which meets no null pointer and no empty vector.
-/
structure NeverDry (pool : Pool ThreadId) : Prop where
  current : pool.currentBuffer_ ≠ none
  next : pool.nextBuffer_ = none -> pool.buffers_ ≠ []
  spares : Begins pool.phase ->
    pool.newBuffer1 ≠ none ∧ pool.newBuffer2 ≠ none
  waiting : none ∉ pool.buffers_
  batch : none ∉ pool.buffersToWrite
  recycled : pool.phase = Phase.recycling -> pool.buffersToWrite ≠ [] ∧
    (pool.newBuffer2 = none -> 1 < pool.buffersToWrite.length)
  defined : forall i, pool.Perform i ≠ Except.error Failure.danglingPointer

theorem ne_none_of_fresh {buffer : BufferPtr} (h : Fresh buffer) :
    buffer ≠ none := by
  rcases h with ⟨spare, rfl, _⟩
  exact Option.some_ne_none spare

theorem neverDry_lift (hgood : Good log) : NeverDry (Lift log) where
  current := hgood.current
  next := by
    intro hnone
    have hused := hgood.used hnone
    exact List.ne_nil_of_length_pos (by rwa [Lift, List.length_map])
  spares := by
    intro hbegins
    have hlocals := hgood.locals
    rw [lift_phase] at hbegins
    cases hphase : log.phase with
    | test | lock =>
        rw [hphase] at hlocals
        exact ⟨ne_none_of_fresh hlocals.first, ne_none_of_fresh hlocals.second⟩
    | _ =>
        rw [hphase] at hbegins
        cases hbegins
  waiting := by simp [Lift]
  batch := by simp [Lift]
  recycled := by
    intro hphase
    have hlocals := hgood.locals
    rw [lift_phase] at hphase
    rw [hphase] at hlocals
    have hlength : (Lift log).buffersToWrite.length =
        log.buffersToWrite.length := List.length_map some
    constructor
    · apply List.ne_nil_of_length_pos
      rw [hlength]
      exact hlocals.some_buffer
    · rw [hlength]
      exact hlocals.two_buffers
  defined := perform_defined hgood

/--
In every run, whatever the lines and however many buffers are queued, there is
a buffer wherever the front end or the back end takes or reads one.
-/
theorem never_dry {inputs : List (Input ThreadId)} {pool : Pool ThreadId}
    {tr : List Event}
    (hrun : (PoolMachine ThreadId).Run (New ThreadId) inputs =
      some (pool, tr)) : NeverDry pool := by
  rcases run_lifts hrun with ⟨log, _, hgood, rfl⟩
  exact neverDry_lift hgood

end Threads

def Iteration (line : Line) : List (Input Bool) :=
  [Input.start, Input.append true line, Input.threadFunc, Input.holds true,
    Input.append false [1, 10], Input.threadFunc, Input.threadFunc,
    Input.holds false] ++ List.replicate 5 Input.threadFunc

theorem run_iteration {line : Line} (hlong : kLargeBufferSize ≤ line.length) :
    exists pool tr,
      (PoolMachine Bool).Run (New Bool) (Iteration line) = some (pool, tr) ∧
        pool.phase = Phase.test := by
  have hfull : ¬line.length <
      (FixedBuffer.New kLargeBufferSize).AvailableBytes :=
    Nat.not_lt.mpr hlong
  have hspace : 2 < (FixedBuffer.New kLargeBufferSize).AvailableBytes := by
    decide
  simp [Iteration, Machine.Run, PoolMachine, Perform, Assert, Answer, New,
    AppendHolding, FixedBuffer.Append, hfull, hspace, ThreadFunc, Take, Drop,
    Recycle, Reuse, Resize, List.replicate]

theorem never_dry_of_long_line :
    exists pool tr,
      (PoolMachine Bool).Run (New Bool)
          (Iteration (List.replicate kLargeBufferSize 0)) = some (pool, tr) ∧
        pool.phase = Phase.test ∧ NeverDry pool := by
  have hlong : kLargeBufferSize ≤
      (List.replicate kLargeBufferSize (0 : UInt8)).length :=
    Nat.le_of_eq List.length_replicate.symm
  rcases run_iteration hlong with ⟨pool, tr, hrun, hphase⟩
  exact ⟨pool, tr, hrun, hphase, never_dry hrun⟩

end Pool
end AsyncLogging
end Logger
end Wethands
