import Wethands.Logger.LogFile.Model

/-!
# What a step does to the files

A step leaves the files alone or turns to a new one, and then a record may be
written to the current file.
-/

namespace Wethands
namespace Logger

open Foundation Utils
open FileUtil (AppendFile)

namespace LogFile

section Environment

variable {zone : LocalTime} {pid : Nat} {clock : Nat -> Timestamp}
variable {log mid next : LogFile}

structure Keeps (log next : LogFile) : Prop where
  config : next.toConfig = log.toConfig
  file : next.file_ = log.file_
  closed : next.closed = log.closed
  lastRoll : next.lastRoll_ = log.lastRoll_
  readings : log.readings ≤ next.readings

/-- The file is named and dated by reading `k` of the clock. -/
structure Turns (zone : LocalTime) (pid : Nat) (clock : Nat -> Timestamp)
    (log next : LogFile) (k : Nat) : Prop where
  config : next.toConfig = log.toConfig
  file : next.file_ = some {
    name := log.FormattedName zone pid (clock k)
    created := clock k
    stream := AppendFile.New }
  closed : next.closed = log.closed ++ log.file_.toList
  lastRoll : next.lastRoll_ = clock k
  late : log.lastRoll_ + Timestamp.kMicrosecondsPerSecond ≤ clock k
  first : log.readings ≤ k
  last : k < next.readings

def Moves (zone : LocalTime) (pid : Nat) (clock : Nat -> Timestamp)
    (log next : LogFile) : Prop :=
  Keeps log next ∨ exists k, Turns zone pid clock log next k

theorem Keeps.refl (log : LogFile) : Keeps log log :=
  ⟨rfl, rfl, rfl, rfl, le_rfl⟩

theorem keeps_read (log : LogFile) : Keeps log log.Read :=
  ⟨rfl, rfl, rfl, rfl, Nat.le_succ _⟩

theorem Keeps.trans (h : Keeps log mid) (hnext : Keeps mid next) :
    Keeps log next where
  config := hnext.config.trans h.config
  file := hnext.file.trans h.file
  closed := hnext.closed.trans h.closed
  lastRoll := hnext.lastRoll.trans h.lastRoll
  readings := le_trans h.readings hnext.readings

theorem Moves.keeps (h : Moves zone pid clock log mid)
    (hnext : Keeps mid next) : Moves zone pid clock log next := by
  rcases h with hkeeps | ⟨k, hturns⟩
  · exact Or.inl (hkeeps.trans hnext)
  · refine Or.inr ⟨k, ?_⟩
    constructor
    · exact hnext.config.trans hturns.config
    · exact hnext.file.trans hturns.file
    · exact hnext.closed.trans hturns.closed
    · exact hnext.lastRoll.trans hturns.lastRoll
    · exact hturns.late
    · exact hturns.first
    · exact lt_of_lt_of_le hturns.last hnext.readings

theorem Keeps.moves (h : Keeps log mid)
    (hnext : Moves zone pid clock mid next) :
    Moves zone pid clock log next := by
  rcases hnext with hkeeps | ⟨k, hturns⟩
  · exact Or.inl (h.trans hkeeps)
  · refine Or.inr ⟨k, ?_⟩
    have hname : mid.basename_ = log.basename_ :=
      congrArg Config.basename_ h.config
    constructor
    · exact hturns.config.trans h.config
    · rw [hturns.file, FormattedName, FormattedName, hname]
    · rw [hturns.closed, h.closed, h.file]
    · exact hturns.lastRoll
    · rw [← h.lastRoll]
      exact hturns.late
    · exact le_trans h.readings hturns.first
    · exact hturns.last

theorem rollFileUnlocked_moves :
    Yields (RollFileUnlocked zone pid clock log) (fun next _ =>
      Moves zone pid clock log next) := by
  refine rollFileUnlocked_yields.mono (fun next es hnext => ?_)
  rcases hnext.2 with ⟨_, rfl, _⟩ | ⟨hlate, rfl, _⟩
  · exact Or.inl (keeps_read log)
  · refine Or.inr ⟨log.readings, ?_⟩
    exact ⟨rfl, rfl, rfl, rfl, hlate, le_rfl, Nat.lt_succ_self _⟩

theorem check_moves :
    Yields (Check zone pid clock log) (fun next _ =>
      Moves zone pid clock log next) := by
  have hread : Keeps log { log.Read with appendCount_ := 0 } :=
    ⟨rfl, rfl, rfl, rfl, Nat.le_succ _⟩
  unfold Check
  refine Yields.in_turn (yields_ok.mpr ?_)
  split
  · refine Yields.in_turn (rollFileUnlocked_moves.mono (fun mid _ hmid => ?_))
    rw [yields_ok]
    exact (hread.moves hmid).keeps ⟨rfl, rfl, rfl, rfl, le_rfl⟩
  · split
    · exact yields_ok.mpr (Or.inl (hread.trans ⟨rfl, rfl, rfl, rfl, le_rfl⟩))
    · exact yields_ok.mpr (Or.inl hread)

theorem prepare_moves (len : Nat) :
    Yields (Prepare zone pid clock log len) (fun next _ =>
      Moves zone pid clock log next) := by
  unfold Prepare
  split
  · exact yields_error
  · split
    · refine Yields.in_turn
        (rollFileUnlocked_moves.mono (fun mid _ hmid => ?_))
      rw [yields_ok]
      exact hmid.keeps ⟨rfl, rfl, rfl, rfl, le_rfl⟩
    · split
      · exact check_moves
      · exact yields_ok.mpr (Or.inl (Keeps.refl log))

/-!
# Records
-/

/-- What a call of `Append` hands over; an empty line is nothing. -/
def Record : Input -> Option (List UInt8)
  | Input.append line => if line = [] then none else some line
  | Input.rollFile => none
  | Input.flush => none

def Wrote (log next : LogFile) (line : List UInt8) : Prop :=
  exists file, log.file_ = some file ∧ next = { log with
    file_ := some { file with stream := {
      fp_ := file.stream.fp_ ++ line
      writtenBytes_ := file.stream.writtenBytes_ + line.length } }
    appendCount_ := log.appendCount_ + 1 }

theorem write_wrote {line : List UInt8} (hline : line ≠ []) :
    Yields (log.Write line) (fun next es =>
      Wrote log next line ∧ es = [Event.appended line]) := by
  unfold Write
  split
  · exact yields_error
  · rename_i file hfile
    rw [yields_ok, append_takesAll hline]
    exact ⟨⟨file, hfile, rfl⟩, rfl⟩

def Effect (zone : LocalTime) (pid : Nat) (clock : Nat -> Timestamp)
    (log next : LogFile) (record : Option (List UInt8)) : Prop :=
  exists mid, Moves zone pid clock log mid ∧
    match record with
    | none => next = mid
    | some line => Wrote mid next line

theorem perform_effect (i : Input) :
    Yields (Perform zone pid clock log i) (fun next _ =>
      Effect zone pid clock log next (Record i)) := by
  have hsame : Effect zone pid clock log log none :=
    ⟨log, Or.inl (Keeps.refl log), rfl⟩
  cases i with
  | append line =>
      rw [Perform, Append, Record]
      by_cases hline : line = []
      · rw [if_pos hline, if_pos (by rw [hline]; rfl), yields_ok]
        exact hsame
      · rw [if_neg hline, if_neg (by simpa using hline)]
        refine Yields.in_turn ((prepare_moves _).mono (fun mid _ hmid => ?_))
        refine (write_wrote hline).mono (fun next _ hnext => ?_)
        exact ⟨mid, hmid, hnext.1⟩
  | rollFile =>
      refine rollFileUnlocked_moves.mono (fun next _ hnext => ?_)
      exact ⟨next, hnext, rfl⟩
  | flush =>
      rw [Perform, Flush, Record]
      split
      · exact yields_error
      · exact yields_ok.mpr hsame

/-!
# When the current file was made
-/

def LastCreation (log : LogFile) : Timestamp :=
  match log.file_ with
  | none => 0
  | some file => file.created

/-- `lastRoll_` is the time of the last creation. -/
def Dated (log : LogFile) : Prop := log.lastRoll_ = log.LastCreation

theorem dated_blank (config : Config) : Dated (Blank config) := rfl

theorem Dated.moves (h : Dated log) (hmoves : Moves zone pid clock log next) :
    Dated next := by
  rcases hmoves with hkeeps | ⟨k, hturns⟩
  · rw [Dated, LastCreation, hkeeps.lastRoll, hkeeps.file]
    exact h
  · rw [Dated, LastCreation, hturns.lastRoll, hturns.file]

theorem Dated.wrote (h : Dated log) {line : List UInt8}
    (hwrote : Wrote log next line) : Dated next := by
  rcases hwrote with ⟨file, hfile, rfl⟩
  rw [Dated, LastCreation, hfile] at h
  exact h

theorem Dated.perform (h : Dated log) (i : Input) :
    Yields (Perform zone pid clock log i) (fun next _ => Dated next) := by
  refine (perform_effect i).mono (fun next _ heffect => ?_)
  rcases heffect with ⟨mid, hmoves, hrecord⟩
  have hmid := h.moves hmoves
  split at hrecord
  · rw [hrecord]
    exact hmid
  · exact hmid.wrote hrecord

end Environment
end LogFile
end Logger
end Wethands
