import Mathlib.Logic.Function.Basic
import Wethands.Foundation.Machine
import Wethands.Foundation.Outcome

/-!
# The asynchronous log

Any number of threads append lines to the current buffer, and one back-end
thread takes the filled buffers and writes them to the file.  A step is one
critical section, one test or store of `running_`, or a part of the back end
that only touches what it owns, so a run is an arbitrary interleaving.
-/

namespace Wethands
namespace Logger

open Foundation

abbrev Line : Type := List UInt8

/-- A fixed buffer, by its bytes from `buffer_` up to `cur_`. -/
structure FixedBuffer (SIZE : Nat) where
  written : Line
  written_le : written.length ≤ SIZE

namespace FixedBuffer

variable {SIZE : Nat}

def New (SIZE : Nat) : FixedBuffer SIZE where
  written := []
  written_le := Nat.zero_le _

def WrittenBytes (buffer : FixedBuffer SIZE) : Nat :=
  buffer.written.length

def AvailableBytes (buffer : FixedBuffer SIZE) : Nat :=
  SIZE - buffer.WrittenBytes

/-- A line for which there is no space is silently left out. -/
def Append (buffer : FixedBuffer SIZE) (line : Line) : FixedBuffer SIZE :=
  if h : line.length < buffer.AvailableBytes then
    { written := buffer.written ++ line
      written_le := by
        unfold AvailableBytes WrittenBytes at h
        rw [List.length_append]
        omega }
  else buffer

def Reset (_ : FixedBuffer SIZE) : FixedBuffer SIZE :=
  New SIZE

theorem written_append {buffer : FixedBuffer SIZE} {line : Line}
    (h : line.length < buffer.AvailableBytes) :
    (buffer.Append line).written = buffer.written ++ line := by
  rw [Append, dif_pos h]

theorem written_append_of_empty {buffer : FixedBuffer SIZE} {line : Line}
    (hempty : buffer.written = []) (h : line.length < SIZE) :
    (buffer.Append line).written = line := by
  rw [written_append, hempty, List.nil_append]
  rw [AvailableBytes, WrittenBytes, hempty]
  exact h

end FixedBuffer

def kLargeBufferSize : Nat := 4 * 1024 * 1024

namespace AsyncLogging

abbrev Buffer : Type := FixedBuffer kLargeBufferSize

abbrev BufferPtr : Type := Option Buffer

abbrev BufferVector : Type := List Buffer

/--
Where the back-end thread stands in `ThreadFunc`.  `writing` remembers how many
buffers of the batch have been passed to the file.
-/
inductive Phase where
  | notStarted
  | starting
  | test
  | lock
  | waiting
  | dropping
  | writing (done : Nat)
  | recycling
  | returned
  | joined
deriving DecidableEq

inductive Event where
  | held (line : Line)
  | took (batch : List Line)
  | fileAppend (bytes : Line)
  | stopping
  | stopped
deriving DecidableEq

end AsyncLogging

open AsyncLogging

/--
The members, the local variables of `ThreadFunc`, and the line that each thread
inside `Append` has brought past the assertion.
-/
structure AsyncLogging (ThreadId : Type) where
  running_ : Bool
  buffers_ : BufferVector
  currentBuffer_ : BufferPtr
  nextBuffer_ : BufferPtr
  phase : Phase
  newBuffer1 : BufferPtr
  newBuffer2 : BufferPtr
  buffersToWrite : BufferVector
  callers : ThreadId -> Option Line

namespace AsyncLogging

variable {ThreadId : Type} [DecidableEq ThreadId]

def New (ThreadId : Type) : AsyncLogging ThreadId where
  running_ := false
  buffers_ := []
  currentBuffer_ := some (FixedBuffer.New kLargeBufferSize)
  nextBuffer_ := some (FixedBuffer.New kLargeBufferSize)
  phase := Phase.notStarted
  newBuffer1 := none
  newBuffer2 := none
  buffersToWrite := []
  callers := fun _ => none

/-!
# The front end
-/

/-- The critical section of `Append`. -/
def AppendHolding (log : AsyncLogging ThreadId) (line : Line) :
    Call (AsyncLogging ThreadId) Event :=
  match log.currentBuffer_ with
  | none => Except.error Failure.danglingPointer
  | some current =>
      if line.length < current.AvailableBytes then
        Except.ok
          ({ log with currentBuffer_ := some (current.Append line) },
            [Event.held line])
      else
        match log.nextBuffer_ with
        | some next =>
            Except.ok
              ({ log with
                buffers_ := log.buffers_ ++ [current]
                currentBuffer_ := some (next.Append line)
                nextBuffer_ := none },
                [Event.held line])
        | none =>
            Except.ok
              ({ log with
                buffers_ := log.buffers_ ++ [current]
                currentBuffer_ :=
                  some ((FixedBuffer.New kLargeBufferSize).Append line) },
                [Event.held line])

/-!
# The back end
-/

/-- What the back end takes under `lock_`. -/
def Take (log : AsyncLogging ThreadId) : Call (AsyncLogging ThreadId) Event :=
  match log.currentBuffer_ with
  | none => Except.error Failure.danglingPointer
  | some current =>
      let batch := log.buffers_ ++ [current]
      let renewed : AsyncLogging ThreadId :=
        match log.nextBuffer_ with
        | some _ => log
        | none =>
            { log with nextBuffer_ := log.newBuffer2, newBuffer2 := none }
      Except.ok
        ({ renewed with
          buffers_ := log.buffersToWrite
          buffersToWrite := batch
          currentBuffer_ := log.newBuffer1
          newBuffer1 := none
          phase := Phase.dropping },
          [Event.took (batch.map FixedBuffer.written)])

def Drop (log : AsyncLogging ThreadId) : AsyncLogging ThreadId :=
  { log with
    buffersToWrite :=
      if 16 < log.buffersToWrite.length then log.buffersToWrite.take 2
      else log.buffersToWrite
    phase := Phase.writing 0 }

/-- `back()` and `pop_back()`. -/
def PopBack (buffers : BufferVector) : Outcome (Buffer × BufferVector) :=
  match buffers.getLast? with
  | none => Except.error Failure.danglingPointer
  | some last => Except.ok (last, buffers.dropLast)

def Recycle (log : AsyncLogging ThreadId) :
    Call (AsyncLogging ThreadId) Event :=
  let old :=
    if 2 < log.buffersToWrite.length then log.buffersToWrite.take 2
    else log.buffersToWrite
  match PopBack old with
  | Except.error failure => Except.error failure
  | Except.ok (first, rest) =>
      let next : AsyncLogging ThreadId :=
        { log with
          newBuffer1 := some first.Reset
          buffersToWrite := []
          phase := Phase.test }
      match log.newBuffer2 with
      | some _ => Except.ok (next, [])
      | none =>
          match PopBack rest with
          | Except.error failure => Except.error failure
          | Except.ok (second, _) =>
              Except.ok ({ next with newBuffer2 := some second.Reset }, [])

def ThreadFunc (log : AsyncLogging ThreadId) :
    Call (AsyncLogging ThreadId) Event :=
  match log.phase with
  | Phase.notStarted => Except.error Failure.impossible
  | Phase.starting =>
      Except.ok
        ({ log with
          newBuffer1 := some (FixedBuffer.New kLargeBufferSize)
          newBuffer2 := some (FixedBuffer.New kLargeBufferSize)
          buffersToWrite := []
          phase := Phase.test }, [])
  | Phase.test =>
      if log.running_ then Except.ok ({ log with phase := Phase.lock }, [])
      else Except.ok ({ log with phase := Phase.returned }, [])
  | Phase.lock =>
      if log.buffers_.isEmpty then
        Except.ok ({ log with phase := Phase.waiting }, [])
      else log.Take
  | Phase.waiting => log.Take
  | Phase.dropping => Except.ok (log.Drop, [])
  | Phase.writing done =>
      match log.buffersToWrite[done]? with
      | some buffer =>
          Except.ok
            ({ log with phase := Phase.writing (done + 1) },
              [Event.fileAppend buffer.written])
      | none => Except.ok ({ log with phase := Phase.recycling }, [])
  | Phase.recycling => log.Recycle
  | Phase.returned => Except.error Failure.impossible
  | Phase.joined => Except.error Failure.impossible

/-!
# The machine
-/

/--
`append` tests the assertion and `holds` is the critical section; `stop` stores
`running_` and `stopReturns` comes after the join.
-/
inductive Input (ThreadId : Type) where
  | start
  | append (tid : ThreadId) (line : Line)
  | holds (tid : ThreadId)
  | threadFunc
  | stop
  | stopReturns

def LogMachine (ThreadId : Type) [DecidableEq ThreadId] :
    Machine (AsyncLogging ThreadId) (Input ThreadId) Event where
  Step log
    | Input.start =>
        Answer (Assert (log.running_ = false)
          (if log.phase = Phase.notStarted then
            Except.ok ({ log with running_ := true, phase := Phase.starting },
              [])
          else Except.error Failure.impossible))
    | Input.append tid line =>
        match log.callers tid with
        | some _ => none
        | none =>
            Answer (Assert (log.running_ = true)
              (Except.ok
                ({ log with
                  callers := Function.update log.callers tid (some line) },
                  [])))
    | Input.holds tid =>
        match log.callers tid with
        | none => none
        | some line =>
            Answer (AppendHolding
              { log with callers := Function.update log.callers tid none }
              line)
    | Input.threadFunc => Answer log.ThreadFunc
    | Input.stop =>
        Answer (Assert (log.running_ = true)
          (Except.ok ({ log with running_ := false }, [Event.stopping])))
    | Input.stopReturns =>
        if log.running_ = false ∧ log.phase = Phase.returned then
          some ({ log with phase := Phase.joined }, [Event.stopped])
        else none

end AsyncLogging
end Logger
end Wethands
