import Mathlib.Data.Int.ConditionallyCompleteOrder
import Mathlib.Data.List.Forall2
import Mathlib.Order.Monotone.Basic
import Wethands.Logger.LogFile.Steps

/-!
# The files hold the records

With a clock that goes forward no record is lost, split or put out of order,
whatever the sizes and the numbers in the configuration are.  A file grows above
its size only by its first record, or in its first second.
-/

namespace Wethands
namespace Logger

open Foundation Utils
open FileUtil (AppendFile)

namespace LogFile

section Environment

variable (zone : LocalTime) (pid : Nat) (clock : Nat -> Timestamp)

def Holds (file : File) (records : List (List UInt8)) : Prop :=
  file.stream.fp_ = records.flatten ∧
    file.stream.writtenBytes_ = records.flatten.length

def Archives (log : LogFile) (records : List (List UInt8)) : Prop :=
  exists parts, List.Forall₂ Holds log.Files parts ∧ parts.flatten = records

def Apart (log : LogFile) : Prop :=
  log.Files.Pairwise fun file other =>
    file.created + Timestamp.kMicrosecondsPerSecond ≤ other.created

/--
A record that takes its file above the size is the first one of the file, or
the roll was refused in the first second of the file.
-/
def KeepsSize (log : LogFile) (i : Input) : Prop :=
  forall next es, (LogMachine zone pid clock).Step log i = some (next, es) ->
    forall line, Record i = some line ->
      forall file, next.file_ = some file ->
        log.rollsize_ < file.stream.writtenBytes_ ->
        file.stream.fp_ = line ∨
          exists now, Event.refused now ∈ es ∧
            now < file.created + Timestamp.kMicrosecondsPerSecond

structure Sound (log : LogFile) (records : List (List UInt8)) : Prop where
  opened : log.file_ ≠ none
  dated : Dated log
  earlier : log.lastRoll_ < clock log.readings
  started : forall file, file ∈ log.Files ->
    Timestamp.kMicrosecondsPerSecond ≤ file.created
  named : forall file, file ∈ log.Files ->
    file.name = log.FormattedName zone pid file.created
  apart : Apart log
  archives : Archives log records

variable {zone pid clock} {log mid next : LogFile}
variable {records : List (List UInt8)}

/-!
# Moving from file to file
-/

theorem Keeps.files (h : Keeps log next) : next.Files = log.Files := by
  rw [Files, Files, h.file, h.closed]

theorem Turns.files {k : Nat} (h : Turns zone pid clock log next k) :
    next.Files = log.Files ++ [{
      name := log.FormattedName zone pid (clock k)
      created := clock k
      stream := AppendFile.New }] := by
  rw [Files, Files, h.file, h.closed]
  rfl

theorem Sound.current (h : Sound zone pid clock log records) :
    exists file, log.file_ = some file ∧ file.created = log.lastRoll_ := by
  cases hcurrent : log.file_ with
  | none => exact absurd hcurrent h.opened
  | some file =>
      have hdated := h.dated
      rw [Dated, LastCreation, hcurrent] at hdated
      exact ⟨file, rfl, hdated.symm⟩

theorem mem_files {file : File} (hfile : log.file_ = some file) :
    file ∈ log.Files := by
  simp [Files, hfile]

theorem Sound.created_le (h : Sound zone pid clock log records) {file : File}
    (hfile : file ∈ log.Files) : file.created ≤ log.lastRoll_ := by
  rcases h.current with ⟨current, hcurrent, hcreated⟩
  rw [← hcreated]
  have hapart := h.apart
  rw [Apart, Files, hcurrent, List.pairwise_append] at hapart
  rw [Files, hcurrent, Option.toList_some, List.mem_append,
    List.mem_singleton] at hfile
  rcases hfile with hclosed | rfl
  · exact le_of_lt (lt_of_second (hapart.2.2 file hclosed current (by simp)))
  · exact le_rfl

theorem Sound.keeps (hclock : StrictMono clock)
    (h : Sound zone pid clock log records) (hkeeps : Keeps log next) :
    Sound zone pid clock next records := by
  have hname : next.basename_ = log.basename_ :=
    congrArg Config.basename_ hkeeps.config
  constructor
  · rw [hkeeps.file]
    exact h.opened
  · have hmoves : Moves zone pid clock log next := Or.inl hkeeps
    exact h.dated.moves hmoves
  · rw [hkeeps.lastRoll]
    exact lt_of_lt_of_le h.earlier (hclock.monotone hkeeps.readings)
  · rw [hkeeps.files]
    exact h.started
  · intro file hfile
    rw [hkeeps.files] at hfile
    rw [h.named file hfile, FormattedName, FormattedName, hname]
  · rw [Apart, hkeeps.files]
    exact h.apart
  · rw [Archives, hkeeps.files]
    exact h.archives

theorem Sound.turns (hclock : StrictMono clock) {k : Nat}
    (h : Sound zone pid clock log records)
    (hturns : Turns zone pid clock log next k) :
    Sound zone pid clock next records := by
  have hname : next.basename_ = log.basename_ :=
    congrArg Config.basename_ hturns.config
  have hyoung : forall file, file ∈ log.Files ->
      file.created + Timestamp.kMicrosecondsPerSecond ≤ clock k := by
    intro file hfile
    have hle := h.created_le hfile
    exact le_trans (Int.add_le_add_right hle _) hturns.late
  constructor
  · rw [hturns.file]
    simp
  · exact h.dated.moves (Or.inr ⟨k, hturns⟩)
  · rw [hturns.lastRoll]
    exact hclock hturns.last
  · intro file hfile
    rw [hturns.files, List.mem_append, List.mem_singleton] at hfile
    rcases hfile with hold | rfl
    · exact h.started file hold
    · rcases h.current with ⟨current, hcurrent, hcreated⟩
      have hstarted := h.started current (mem_files hcurrent)
      rw [hcreated] at hstarted
      exact le_trans hstarted (le_of_lt (lt_of_second hturns.late))
  · intro file hfile
    rw [hturns.files, List.mem_append, List.mem_singleton] at hfile
    rw [FormattedName, hname]
    rcases hfile with hold | rfl
    · exact h.named file hold
    · rfl
  · rw [Apart, hturns.files, List.pairwise_append]
    refine ⟨h.apart, List.pairwise_singleton _ _, ?_⟩
    intro file hfile other hother
    rw [List.mem_singleton.mp hother]
    exact hyoung file hfile
  · rcases h.archives with ⟨parts, hparts, hall⟩
    refine ⟨parts ++ [[]], ?_, by simpa using hall⟩
    rw [hturns.files]
    refine List.rel_append hparts (List.Forall₂.cons ?_ List.Forall₂.nil)
    exact ⟨rfl, rfl⟩

theorem Sound.moves (hclock : StrictMono clock)
    (h : Sound zone pid clock log records)
    (hmoves : Moves zone pid clock log next) :
    Sound zone pid clock next records := by
  rcases hmoves with hkeeps | ⟨k, hturns⟩
  · exact h.keeps hclock hkeeps
  · exact h.turns hclock hturns

/-!
# Writing a record
-/

theorem pairwise_replace_last {R : File -> File -> Prop} {files : List File}
    {file other : File} (h : (files ++ [file]).Pairwise R)
    (hsame : forall f, R f file -> R f other) :
    (files ++ [other]).Pairwise R := by
  rw [List.pairwise_append] at h ⊢
  refine ⟨h.1, List.pairwise_singleton _ _, ?_⟩
  intro f hf g hg
  rw [List.mem_singleton.mp hg]
  exact hsame f (h.2.2 f hf file (by simp))

theorem forall₂_concat {R : File -> List (List UInt8) -> Prop}
    {files : List File} {file : File} {parts : List (List (List UInt8))}
    (h : List.Forall₂ R (files ++ [file]) parts) :
    exists front part, parts = front ++ [part] ∧
      List.Forall₂ R files front ∧ R file part := by
  induction files generalizing parts with
  | nil =>
      cases h with
      | cons hfirst hrest =>
          cases hrest
          exact ⟨[], _, rfl, List.Forall₂.nil, hfirst⟩
  | cons first files ih =>
      cases h with
      | cons hfirst hrest =>
          rcases ih hrest with ⟨front, part, rfl, hfront, hlast⟩
          exact ⟨_ :: front, part, rfl, List.Forall₂.cons hfirst hfront, hlast⟩

theorem Sound.wrote {line : List UInt8} (h : Sound zone pid clock log records)
    (hwrote : Wrote log next line) :
    Sound zone pid clock next (records ++ [line]) := by
  have hdated := h.dated.wrote hwrote
  rcases hwrote with ⟨file, hfile, rfl⟩
  have hfiles : log.Files = log.closed ++ [file] := by
    rw [Files, hfile]
    rfl
  have hmem := mem_files hfile
  refine ⟨by simp, hdated, h.earlier, ?_, ?_, ?_, ?_⟩
  · intro other hother
    rcases List.mem_append.mp hother with hclosed | hlast
    · apply h.started other
      rw [hfiles]
      exact List.mem_append_left _ hclosed
    · rw [List.mem_singleton.mp hlast]
      exact h.started file hmem
  · intro other hother
    rcases List.mem_append.mp hother with hclosed | hlast
    · apply h.named other
      rw [hfiles]
      exact List.mem_append_left _ hclosed
    · rw [List.mem_singleton.mp hlast]
      exact h.named file hmem
  · have hapart := h.apart
    rw [Apart, hfiles] at hapart
    exact pairwise_replace_last hapart (fun _ hsecond => hsecond)
  · rcases h.archives with ⟨parts, hparts, hall⟩
    rw [hfiles] at hparts
    rcases forall₂_concat hparts with ⟨front, part, rfl, hfront, hlast⟩
    refine ⟨front ++ [part ++ [line]], ?_, ?_⟩
    · refine List.rel_append hfront (List.Forall₂.cons ?_ List.Forall₂.nil)
      constructor
      · simp [hlast.1]
      · simp [hlast.2]
    · rw [← hall]
      simp

theorem Sound.perform (hclock : StrictMono clock)
    (h : Sound zone pid clock log records) (i : Input) :
    Yields (Perform zone pid clock log i) (fun next _ =>
      Sound zone pid clock next (records ++ (Record i).toList)) := by
  refine (perform_effect i).mono (fun next _ heffect => ?_)
  rcases heffect with ⟨mid, hmoves, hrecord⟩
  have hmid := h.moves hclock hmoves
  cases hline : Record i with
  | none =>
      rw [hline] at hrecord
      rw [hrecord, Option.toList_none, List.append_nil]
      exact hmid
  | some line =>
      rw [hline] at hrecord
      exact hmid.wrote hrecord

/-!
# No call fails
-/

theorem rollFileUnlocked_returns (h : log.lastRoll_ < clock log.readings) :
    exists next es, RollFileUnlocked zone pid clock log =
      Except.ok (next, es) := by
  rcases lt_or_ge (clock log.readings)
    (log.lastRoll_ + Timestamp.kMicrosecondsPerSecond) with hsoon | hlate
  · exact ⟨_, _, rollFileUnlocked_refused h hsoon⟩
  · exact ⟨_, _, rollFileUnlocked_created hlate⟩

theorem check_returns
    (h : log.lastRoll_ < clock (log.readings + 1)) :
    exists next es, Check zone pid clock log = Except.ok (next, es) := by
  unfold Check
  apply then_returns
  · exact ⟨_, _, rfl⟩
  · intro mid es hmid
    cases hmid
    dsimp only
    split
    · apply then_returns
      · exact rollFileUnlocked_returns h
      · exact fun _ _ _ => ⟨_, _, rfl⟩
    · split
      · exact ⟨_, _, rfl⟩
      · exact ⟨_, _, rfl⟩

theorem prepare_returns (hclock : StrictMono clock)
    (h : Sound zone pid clock log records) (len : Nat) :
    exists next es, Prepare zone pid clock log len =
      Except.ok (next, es) := by
  rcases h.current with ⟨file, hfile, _⟩
  rw [Prepare, hfile]
  dsimp only
  split
  · apply then_returns
    · exact rollFileUnlocked_returns h.earlier
    · exact fun _ _ _ => ⟨_, _, rfl⟩
  · split
    · apply check_returns
      exact lt_trans h.earlier (hclock (Nat.lt_succ_self _))
    · exact ⟨_, _, rfl⟩

theorem perform_returns (hclock : StrictMono clock)
    (h : Sound zone pid clock log records) (i : Input) :
    exists next es, Perform zone pid clock log i =
      Except.ok (next, es) := by
  cases i with
  | append line =>
      rw [Perform, Append]
      split
      · exact ⟨_, _, rfl⟩
      · apply then_returns
        · exact prepare_returns hclock h line.length
        · intro mid es hmid
          have hsound := h.moves hclock (prepare_moves line.length mid es hmid)
          rcases hsound.current with ⟨file, hfile, _⟩
          rw [Write, hfile]
          exact ⟨_, _, rfl⟩
  | rollFile => exact rollFileUnlocked_returns h.earlier
  | flush =>
      rcases h.current with ⟨file, hfile, _⟩
      rw [Perform, Flush, hfile]
      exact ⟨_, _, rfl⟩

/-!
# The size
-/

theorem prepare_room (len : Nat) :
    Yields (Prepare zone pid clock log len) (fun next es =>
      (exists file, next.file_ = some file ∧ file.stream = AppendFile.New) ∨
        (Event.refused (clock log.readings) ∈ es ∧
          clock log.readings <
            log.lastRoll_ + Timestamp.kMicrosecondsPerSecond ∧
          next.file_ = log.file_) ∨
        (exists file, log.file_ = some file ∧ next.file_ = some file ∧
          file.stream.writtenBytes_ + len ≤ log.rollsize_)) := by
  unfold Prepare
  split
  · exact yields_error
  · rename_i file hfile
    split
    · refine Yields.in_turn (rollFileUnlocked_yields.mono
        (fun mid es hmid => ?_))
      rw [yields_ok]
      rcases hmid.2 with ⟨hsoon, rfl, rfl⟩ | ⟨_, rfl, rfl⟩
      · exact Or.inr (Or.inl ⟨by simp, hsoon, rfl⟩)
      · exact Or.inl ⟨_, rfl, rfl⟩
    · rename_i hroom
      have hkept : exists kept, log.file_ = some kept ∧
          log.file_ = some kept ∧
          kept.stream.writtenBytes_ + len ≤ log.rollsize_ :=
        ⟨file, hfile, hfile, not_lt.mp hroom⟩
      split
      · refine check_moves.mono (fun mid es hmid => ?_)
        rcases hmid with hkeeps | ⟨k, hturns⟩
        · rw [hkeeps.file]
          exact Or.inr (Or.inr hkept)
        · exact Or.inl ⟨_, hturns.file, rfl⟩
      · exact yields_ok.mpr (Or.inr (Or.inr hkept))

theorem Sound.keepsSize (h : Sound zone pid clock log records) (i : Input) :
    KeepsSize zone pid clock log i := by
  intro next es hstep line hline file hfile hlarge
  have hcall := answer_eq_some.mp hstep
  cases i with
  | append text =>
      rw [Record] at hline
      split at hline
      · cases hline
      · rename_i htext
        cases hline
        rw [Perform, Append, if_neg (by simpa using htext)] at hcall
        rcases then_eq_ok.mp hcall with
          ⟨mid, es1, es2, hprepare, hwrite, rfl⟩
        rcases (write_wrote htext next es2 hwrite).1 with
          ⟨before, hbefore, rfl⟩
        cases hfile
        rcases prepare_room line.length mid es1 hprepare with
          ⟨new, hnew, hempty⟩ | ⟨hmem, hsoon, hkept⟩ | ⟨kept, hlog, hmid, hroom⟩
        · rw [hnew] at hbefore
          cases hbefore
          left
          rw [hempty]
          rfl
        · rcases h.current with ⟨current, hcurrent, hcreated⟩
          rw [hkept, hcurrent] at hbefore
          cases hbefore
          right
          refine ⟨_, List.mem_append_left _ hmem, ?_⟩
          rw [← hcreated] at hsoon
          exact hsoon
        · rw [hmid] at hbefore
          cases hbefore
          exact absurd hlarge (not_lt.mpr hroom)
  | rollFile => cases hline
  | flush => cases hline

/-!
# Runs
-/

theorem Sound.names_ne (h : Sound zone pid clock log records)
    (hformat : Set.InjOn zone.Format (Set.Ici 0)) :
    log.Files.Pairwise fun file other => file.name ≠ other.name := by
  refine h.apart.imp_of_mem (fun {file other} hfile hother hsecond => ?_)
  rw [h.named file hfile, h.named other hother]
  intro hname
  simp only [FormattedName, Timestamp.ToFormattedString,
    String.append_left_inj, String.append_right_inj] at hname
  have hpos : 0 ≤ file.created :=
    le_trans (by decide) (h.started file hfile)
  have hlt := secondsSinceEpoch_lt hpos hsecond
  have hzero : 0 ≤ Timestamp.SecondsSinceEpoch file.created :=
    Int.tdiv_nonneg hpos (by decide)
  exact absurd (hformat hzero (le_trans hzero hlt.le) hname) (ne_of_lt hlt)

theorem new_sound (hclock : StrictMono clock)
    (hfirst : Timestamp.kMicrosecondsPerSecond ≤ clock 0) (config : Config) :
    exists first es, New zone pid clock config = Except.ok (first, es) ∧
      Sound zone pid clock first [] := by
  have hlate : (Blank config).lastRoll_ + Timestamp.kMicrosecondsPerSecond ≤
      clock (Blank config).readings := by
    show 0 + _ ≤ clock 0
    rwa [zero_add]
  refine ⟨_, _, rollFileUnlocked_created hlate, ?_⟩
  have hfiles : ((Blank config).Read.Renew zone pid (clock 0)).Files = [{
      name := (Blank config).FormattedName zone pid (clock 0)
      created := clock 0
      stream := AppendFile.New }] := rfl
  constructor
  · simp [Renew]
  · rfl
  · exact hclock (Nat.lt_succ_self 0)
  · intro file hfile
    rw [List.mem_singleton.mp hfile]
    exact hfirst
  · intro file hfile
    rw [List.mem_singleton.mp hfile]
    rfl
  · exact List.pairwise_singleton _ _
  · exact ⟨[[]], List.Forall₂.cons ⟨rfl, rfl⟩ List.Forall₂.nil, rfl⟩

/--
With readings that go up from the first second on, every run comes to its end.
Then the files hold the records in order, they were made a second apart and have
different names, and a file grew above its size by its first record or in its
first second.
-/
theorem files_hold_records (hclock : StrictMono clock)
    (hfirst : Timestamp.kMicrosecondsPerSecond ≤ clock 0)
    (hformat : Set.InjOn zone.Format (Set.Ici 0)) (config : Config)
    (inputs : List Input) :
    exists first es log tr,
      New zone pid clock config = Except.ok (first, es) ∧
      (LogMachine zone pid clock).Run first inputs = some (log, tr) ∧
      Archives log (inputs.filterMap Record) ∧ Apart log ∧
      (log.Files.Pairwise fun file other => file.name ≠ other.name) ∧
      (LogMachine zone pid clock).Guarded (KeepsSize zone pid clock)
        first inputs := by
  rcases @new_sound zone pid clock hclock hfirst config with
    ⟨first, es, hnew, hstart⟩
  have hstep : forall log past i,
      Sound zone pid clock log (past.filterMap Record) ->
      exists next es, (LogMachine zone pid clock).Step log i =
          some (next, es) ∧
        Sound zone pid clock next ((past ++ [i]).filterMap Record) := by
    intro log past i hsound
    rcases perform_returns hclock hsound i with ⟨next, es, hcall⟩
    refine ⟨next, es, answer_eq_some.mpr hcall, ?_⟩
    have hnext := hsound.perform hclock i next es hcall
    rw [List.filterMap_append]
    cases hline : Record i <;> simpa [hline] using hnext
  rcases Machine.exists_run_of_step (p := []) hstep hstart inputs with
    ⟨log, tr, hrun, hsound⟩
  refine ⟨first, es, log, tr, hnew, hrun, hsound.archives, hsound.apart,
    hsound.names_ne hformat, ?_⟩
  apply Machine.guarded_of_invariant
    (I := fun log => exists records, Sound zone pid clock log records)
  · intro log i next es hlog hone
    rcases hlog with ⟨records, hsound⟩
    exact ⟨_, hsound.perform hclock i next es (answer_eq_some.mp hone)⟩
  · intro log i hlog
    rcases hlog with ⟨records, hsound⟩
    exact hsound.keepsSize i
  · exact ⟨_, hstart⟩

end Environment

/-!
# A file that grows in its first second
-/

theorem format_utc_injOn : Set.InjOn Utc.Format (Set.Ici 0) := by
  intro m hm n hn h
  rcases Int.eq_ofNat_of_zero_le hm with ⟨m, rfl⟩
  rcases Int.eq_ofNat_of_zero_le hn with ⟨n, rfl⟩
  have hdigits : Nat.toDigits 10 m = Nat.toDigits 10 n :=
    String.ofList_injective h
  have hnumbers := congrArg (fun ds => Nat.ofDigitChars 10 ds 0) hdigits
  simpa using hnumbers

def QuickClock (reading : Nat) : Timestamp := 2000000 + 400000 * reading

theorem quickClock_strictMono : StrictMono QuickClock := by
  apply strictMono_nat_of_lt_succ
  intro reading
  simp [QuickClock]

theorem files_hold_records_of_quick :
    exists first es log tr,
      New Utc 1 QuickClock SmallConfig = Except.ok (first, es) ∧
      (LogMachine Utc 1 QuickClock).Run first
        [Input.append [0, 1, 2, 3, 4, 5, 6, 7], Input.append [8, 9, 10],
          Input.append [], Input.rollFile, Input.append [11]] =
            some (log, tr) ∧
      Archives log [[0, 1, 2, 3, 4, 5, 6, 7], [8, 9, 10], [11]] ∧
      log.Files.Pairwise fun file other => file.name ≠ other.name := by
  rcases @files_hold_records Utc 1 QuickClock quickClock_strictMono
    (by decide) format_utc_injOn SmallConfig
    [Input.append [0, 1, 2, 3, 4, 5, 6, 7], Input.append [8, 9, 10],
      Input.append [], Input.rollFile, Input.append [11]] with
    ⟨first, es, log, tr, hnew, hrun, harchives, _, hnames, _⟩
  exact ⟨first, es, log, tr, hnew, hrun, harchives, hnames⟩

end LogFile
end Logger
end Wethands
