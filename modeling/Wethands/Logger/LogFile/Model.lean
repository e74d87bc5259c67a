import Wethands.Foundation.Outcome
import Wethands.Utils.FileUtil
import Wethands.Utils.LocalTime

/-!
# Log files

A log is written to one file after the other.  A new file is made when the next
record would take the file above its size, when a check finds that a new day has
begun, and when the user asks for it.  The clock is read once for each file that
may be made and once for each check, and need not go forward.
-/

namespace Wethands
namespace Logger

open Foundation Utils
open FileUtil (AppendFile Fwrite)

namespace LogFile

structure Config where
  basename_ : String
  rollsize_ : Nat
  flushInterval_ : Int
  checkEveryNAppend_ : Int
  plain : '/' ∉ basename_.toList

structure File where
  name : String
  created : Timestamp
  stream : AppendFile
deriving DecidableEq

inductive Event where
  | created (now : Timestamp)
  | refused (now : Timestamp)
  | checked (now : Timestamp)
  | flushed
  | appended (line : List UInt8)
deriving DecidableEq

end LogFile

open LogFile

/--
`closed` are the files that the log has left, in the order of their creation,
and `readings` counts how often the clock was read.  The lock is left out: one
call is one step.
-/
structure LogFile extends Config where
  appendCount_ : Int
  lastRoll_ : Timestamp
  lastFlush_ : Timestamp
  currentPeriod_ : Timestamp
  file_ : Option File
  closed : List File
  readings : Nat

namespace LogFile

/-- The members as the constructor initialises them. -/
def Blank (config : Config) : LogFile where
  toConfig := config
  appendCount_ := 0
  lastRoll_ := 0
  lastFlush_ := 0
  currentPeriod_ := 0
  file_ := none
  closed := []
  readings := 0

def SmallConfig : Config where
  basename_ := "logfile"
  rollsize_ := 10
  flushInterval_ := 3
  checkEveryNAppend_ := 1
  plain := by decide

def Files (log : LogFile) : List File := log.closed ++ log.file_.toList

/-- Every call of `fwrite_unlocked` takes what it is given. -/
def TakesAll : Fwrite := fun _ asked => Fin.last asked

/-!
# Member functions
-/

section Environment

variable (zone : LocalTime) (pid : Nat) (clock : Nat -> Timestamp)

def FormattedName (log : LogFile) (time : Timestamp) : String :=
  log.basename_ ++ "." ++ Timestamp.ToFormattedString zone time ++ "." ++
    toString pid ++ ".log"

def Renew (log : LogFile) (now : Timestamp) : LogFile :=
  { log with
    lastRoll_ := now
    lastFlush_ := now
    currentPeriod_ := Timestamp.RoundByDay zone now
    closed := log.closed ++ log.file_.toList
    file_ := some {
      name := log.FormattedName zone pid now
      created := now
      stream := AppendFile.New } }

def RollFileUnlocked (log : LogFile) : Call LogFile Event :=
  let now := clock log.readings
  let log := { log with readings := log.readings + 1 }
  Assert (log.lastRoll_ < now)
    (if SecondsDifference now log.lastRoll_ < 1 then
      Except.ok (log, [Event.refused now])
    else
      Except.ok (log.Renew zone pid now, [Event.created now]))

def Check (log : LogFile) : Call LogFile Event :=
  let now := clock log.readings
  let log := { log with appendCount_ := 0, readings := log.readings + 1 }
  let startOfToday := Timestamp.RoundByDay zone now
  Then (Except.ok (log, [Event.checked now])) (fun log =>
    if log.currentPeriod_ < startOfToday then
      Then (RollFileUnlocked zone pid clock log) (fun log =>
        Except.ok ({ log with currentPeriod_ := startOfToday }, []))
    else if log.flushInterval_ ≤ SecondsDifference now log.lastFlush_ then
      Except.ok ({ log with lastFlush_ := now }, [Event.flushed])
    else Except.ok (log, []))

/-- The part of `AppendUnlocked` in front of the record itself. -/
def Prepare (log : LogFile) (len : Nat) : Call LogFile Event :=
  match log.file_ with
  | none => Except.error Failure.danglingPointer
  | some file =>
      if log.rollsize_ < file.stream.writtenBytes_ + len then
        Then (RollFileUnlocked zone pid clock log) (fun log =>
          Except.ok ({ log with appendCount_ := 0 }, []))
      else if log.checkEveryNAppend_ ≤ log.appendCount_ then
        Check zone pid clock log
      else Except.ok (log, [])

def Write (log : LogFile) (line : List UInt8) : Call LogFile Event :=
  match log.file_ with
  | none => Except.error Failure.danglingPointer
  | some file =>
      Except.ok ({ log with
        file_ := some { file with
          stream := (file.stream.Append line TakesAll).1 }
        appendCount_ := log.appendCount_ + 1 }, [Event.appended line])

def AppendUnlocked (log : LogFile) (line : List UInt8) :
    Call LogFile Event :=
  Then (Prepare zone pid clock log line.length) (fun log => Write log line)

def Append (log : LogFile) (line : List UInt8) : Call LogFile Event :=
  if line.length = 0 then Except.ok (log, [])
  else AppendUnlocked zone pid clock log line

def RollFile (log : LogFile) : Call LogFile Event :=
  RollFileUnlocked zone pid clock log

def Flush (log : LogFile) : Call LogFile Event :=
  match log.file_ with
  | none => Except.error Failure.danglingPointer
  | some _ => Except.ok (log, [Event.flushed])

def New (config : Config) : Call LogFile Event :=
  RollFileUnlocked zone pid clock (Blank config)

/-!
# Runs
-/

inductive Input where
  | append (line : List UInt8)
  | rollFile
  | flush
deriving DecidableEq

def Perform (log : LogFile) : Input -> Call LogFile Event
  | Input.append line => Append zone pid clock log line
  | Input.rollFile => RollFile zone pid clock log
  | Input.flush => Flush log

def LogMachine : Machine LogFile Input Event where
  Step log i := Answer (Perform zone pid clock log i)

/-!
# What a call does
-/

def Read (log : LogFile) : LogFile :=
  { log with readings := log.readings + 1 }

variable {zone pid clock} {log : LogFile}

theorem rollFileUnlocked_refused (hlater : log.lastRoll_ < clock log.readings)
    (hsoon : clock log.readings <
      log.lastRoll_ + Timestamp.kMicrosecondsPerSecond) :
    RollFileUnlocked zone pid clock log =
      Except.ok (log.Read, [Event.refused (clock log.readings)]) := by
  rw [RollFileUnlocked, Assert, if_pos hlater,
    if_pos (secondsDifference_lt_one.mpr hsoon)]
  rfl

theorem lt_of_second {earlier later : Timestamp}
    (h : earlier + Timestamp.kMicrosecondsPerSecond ≤ later) :
    earlier < later := by
  rw [Timestamp.kMicrosecondsPerSecond] at h
  lia

theorem rollFileUnlocked_created
    (hlate : log.lastRoll_ + Timestamp.kMicrosecondsPerSecond ≤
      clock log.readings) :
    RollFileUnlocked zone pid clock log =
      Except.ok (log.Read.Renew zone pid (clock log.readings),
        [Event.created (clock log.readings)]) := by
  have hlater : log.lastRoll_ < clock log.readings := lt_of_second hlate
  rw [RollFileUnlocked, Assert, if_pos hlater,
    if_neg (fun hsoon => absurd (secondsDifference_lt_one.mp hsoon)
      (not_lt.mpr hlate))]
  rfl

theorem rollFileUnlocked_asserts (h : clock log.readings ≤ log.lastRoll_) :
    RollFileUnlocked zone pid clock log =
      Except.error Failure.assertion := by
  rw [RollFileUnlocked, Assert, if_neg (not_lt.mpr h)]

theorem rollFileUnlocked_yields :
    Yields (RollFileUnlocked zone pid clock log) (fun next es =>
      log.lastRoll_ < clock log.readings ∧
        (clock log.readings <
              log.lastRoll_ + Timestamp.kMicrosecondsPerSecond ∧
            next = log.Read ∧ es = [Event.refused (clock log.readings)] ∨
          log.lastRoll_ + Timestamp.kMicrosecondsPerSecond ≤
              clock log.readings ∧
            next = log.Read.Renew zone pid (clock log.readings) ∧
            es = [Event.created (clock log.readings)])) := by
  intro next es hcall
  rcases le_or_gt (clock log.readings) log.lastRoll_ with hnot | hlater
  · rw [rollFileUnlocked_asserts hnot] at hcall
    cases hcall
  · refine ⟨hlater, ?_⟩
    rcases lt_or_ge (clock log.readings)
      (log.lastRoll_ + Timestamp.kMicrosecondsPerSecond) with hsoon | hlate
    · rw [rollFileUnlocked_refused hlater hsoon] at hcall
      cases hcall
      exact Or.inl ⟨hsoon, rfl, rfl⟩
    · rw [rollFileUnlocked_created hlate] at hcall
      cases hcall
      exact Or.inr ⟨hlate, rfl, rfl⟩

theorem append_takesAll {file : AppendFile} {line : List UInt8}
    (hline : line ≠ []) :
    (file.Append line TakesAll).1 =
      { fp_ := file.fp_ ++ line
        writtenBytes_ := file.writtenBytes_ + line.length } := by
  have hpos : line.length ≠ 0 := by simpa using hline
  rw [AppendFile.Append, AppendFile.AppendLoop]
  simp [TakesAll, hline, AppendFile.Take, AppendFile.Count]

end Environment
end LogFile
end Logger
end Wethands
