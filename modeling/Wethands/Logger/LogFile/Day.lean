import Mathlib.Data.Int.ConditionallyCompleteOrder
import Mathlib.Order.Monotone.Basic
import Wethands.Logger.LogFile.Steps

/-!
# The day of the current file

`currentPeriod_` should be the day on which the current file was made.  A check
that finds a later day asks for a new file and then stores the day that it has
found, whether there is a new file or not.
-/

namespace Wethands
namespace Logger

open Foundation Utils

namespace LogFile

section Environment

variable (zone : LocalTime) (pid : Nat) (clock : Nat -> Timestamp)

def KeepsPeriod (log : LogFile) : Prop :=
  log.currentPeriod_ = Timestamp.RoundByDay zone log.lastRoll_

/--
A check on a later day than that of the current file makes a new one, unless the
file is not a second old.
-/
structure KeepsDay (log next : LogFile) (es : List Event) : Prop where
  period : KeepsPeriod zone next
  rolled : forall now, Event.checked now ∈ es ->
    Timestamp.RoundByDay zone log.lastRoll_ < Timestamp.RoundByDay zone now ->
    (exists later, Event.created later ∈ es) ∨
      exists later, Event.refused later ∈ es ∧
        later < log.lastRoll_ + Timestamp.kMicrosecondsPerSecond

def NotLost (log : LogFile) (i : Input) : Prop :=
  forall next es, (LogMachine zone pid clock).Step log i = some (next, es) ->
    KeepsDay zone log next es

def FindsNewDay (log : LogFile) : Input -> Prop
  | Input.append line =>
      line ≠ [] ∧
        (exists file, log.file_ = some file ∧
          file.stream.writtenBytes_ + line.length ≤ log.rollsize_) ∧
        log.checkEveryNAppend_ ≤ log.appendCount_ ∧
        log.currentPeriod_ < Timestamp.RoundByDay zone (clock log.readings)
  | Input.rollFile => False
  | Input.flush => False

/--
When a check finds a new day, the second reading of the clock is on that day too
and a second behind the last creation.
-/
def RollsOnDay (log : LogFile) (i : Input) : Prop :=
  FindsNewDay zone clock log i ->
    log.lastRoll_ < clock (log.readings + 1) ->
    log.lastRoll_ + Timestamp.kMicrosecondsPerSecond ≤
        clock (log.readings + 1) ∧
      Timestamp.RoundByDay zone (clock (log.readings + 1)) =
        Timestamp.RoundByDay zone (clock log.readings)

variable {zone pid clock} {log mid next : LogFile} {es : List Event}

/-!
# Steps without a new day
-/

theorem keepsDay_same (h : KeepsPeriod zone log)
    (hperiod : next.currentPeriod_ = log.currentPeriod_)
    (hroll : next.lastRoll_ = log.lastRoll_)
    (hes : forall now, Event.checked now ∈ es ->
      Timestamp.RoundByDay zone now ≤ log.currentPeriod_) :
    KeepsDay zone log next es := by
  constructor
  · rw [KeepsPeriod, hperiod, hroll]
    exact h
  · intro now hnow hday
    have hle := hes now hnow
    rw [h] at hle
    exact absurd hday (not_lt.mpr hle)

theorem KeepsDay.append {tail : List Event} (h : KeepsDay zone log mid es)
    (hperiod : next.currentPeriod_ = mid.currentPeriod_)
    (hroll : next.lastRoll_ = mid.lastRoll_)
    (htail : forall now, Event.checked now ∉ tail) :
    KeepsDay zone log next (es ++ tail) := by
  constructor
  · rw [KeepsPeriod, hperiod, hroll]
    exact h.period
  · intro now hnow hday
    rcases List.mem_append.mp hnow with hmem | hmem
    · rcases h.rolled now hmem hday with
        ⟨later, hlater⟩ | ⟨later, hlater, hsoon⟩
      · exact Or.inl ⟨later, List.mem_append_left _ hlater⟩
      · exact Or.inr ⟨later, List.mem_append_left _ hlater, hsoon⟩
    · exact absurd hmem (htail now)

theorem rollFileUnlocked_keepsDay (h : KeepsPeriod zone log) :
    Yields (RollFileUnlocked zone pid clock log) (KeepsDay zone log) := by
  refine rollFileUnlocked_yields.mono (fun next es hnext => ?_)
  rcases hnext.2 with ⟨_, rfl, rfl⟩ | ⟨_, rfl, rfl⟩
  · exact keepsDay_same h rfl rfl (by simp)
  · exact ⟨rfl, by simp⟩

theorem write_keepsDay {line : List UInt8} (h : KeepsDay zone log mid es) :
    Yields (mid.Write line) (fun next es' =>
      KeepsDay zone log next (es ++ es')) := by
  unfold Write
  split
  · exact yields_error
  · rw [yields_ok]
    exact h.append rfl rfl (by simp)

theorem prepare_keepsDay (h : KeepsPeriod zone log) {line : List UInt8}
    (hline : line ≠ [])
    (hday : ¬FindsNewDay zone clock log (Input.append line)) :
    Yields (Prepare zone pid clock log line.length) (KeepsDay zone log) := by
  unfold Prepare
  split
  · exact yields_error
  · rename_i file hfile
    split
    · refine Yields.in_turn ((rollFileUnlocked_keepsDay h).mono
        (fun mid es hmid => ?_))
      rw [yields_ok]
      exact hmid.append rfl rfl (by simp)
    · rename_i hroom
      split
      · rename_i hcount
        have hnot : ¬log.currentPeriod_ <
            Timestamp.RoundByDay zone (clock log.readings) :=
          fun hlater => hday
            ⟨hline, ⟨file, hfile, not_lt.mp hroom⟩, hcount, hlater⟩
        unfold Check
        refine Yields.in_turn (yields_ok.mpr ?_)
        rw [if_neg hnot]
        split
        · rw [yields_ok]
          exact keepsDay_same h rfl rfl (by simpa using not_lt.mp hnot)
        · rw [yields_ok]
          exact keepsDay_same h rfl rfl (by simpa using not_lt.mp hnot)
      · exact yields_ok.mpr (keepsDay_same h rfl rfl (by simp))

theorem perform_keepsDay (h : KeepsPeriod zone log) {i : Input}
    (hday : ¬FindsNewDay zone clock log i) :
    Yields (Perform zone pid clock log i) (KeepsDay zone log) := by
  cases i with
  | append line =>
      rw [Perform, Append]
      by_cases hline : line = []
      · rw [if_pos (by rw [hline]; rfl), yields_ok]
        exact keepsDay_same h rfl rfl (by simp)
      · rw [if_neg (by simpa using hline)]
        refine Yields.in_turn ((prepare_keepsDay h hline hday).mono
          (fun mid es hmid => ?_))
        exact write_keepsDay hmid
  | rollFile => exact rollFileUnlocked_keepsDay h
  | flush =>
      rw [Perform, Flush]
      split
      · exact yields_error
      · exact yields_ok.mpr (keepsDay_same h rfl rfl (by simp))

/-!
# Steps with a new day
-/

theorem prepare_newDay {line : List UInt8}
    (hday : FindsNewDay zone clock log (Input.append line)) :
    Prepare zone pid clock log line.length =
      Then (Except.ok ({ log.Read with appendCount_ := 0 },
        [Event.checked (clock log.readings)])) (fun mid =>
          Then (RollFileUnlocked zone pid clock mid) (fun last =>
            Except.ok ({ last with
              currentPeriod_ :=
                Timestamp.RoundByDay zone (clock log.readings) }, []))) := by
  rcases hday with ⟨_, ⟨file, hfile, hroom⟩, hcount, hlater⟩
  rw [Prepare, hfile]
  dsimp only
  rw [if_neg (not_lt.mpr hroom), if_pos hcount]
  simp only [Check, Then, Read, if_pos hlater]

theorem newDay_later {i : Input} (hday : FindsNewDay zone clock log i) :
    log.currentPeriod_ < Timestamp.RoundByDay zone (clock log.readings) := by
  cases i with
  | append line => exact hday.2.2.2
  | rollFile => cases hday
  | flush => cases hday

theorem perform_newDay {i : Input} (hday : FindsNewDay zone clock log i) :
    Yields (Perform zone pid clock log i) (fun next es =>
      log.lastRoll_ < clock (log.readings + 1) ∧
        next.currentPeriod_ =
          Timestamp.RoundByDay zone (clock log.readings) ∧
        (clock (log.readings + 1) <
              log.lastRoll_ + Timestamp.kMicrosecondsPerSecond ∧
            next.lastRoll_ = log.lastRoll_ ∧
            Event.refused (clock (log.readings + 1)) ∈ es ∨
          log.lastRoll_ + Timestamp.kMicrosecondsPerSecond ≤
              clock (log.readings + 1) ∧
            next.lastRoll_ = clock (log.readings + 1) ∧
            Event.created (clock (log.readings + 1)) ∈ es)) := by
  cases i with
  | append line =>
      rw [Perform, Append, if_neg (by simpa using hday.1), AppendUnlocked,
        prepare_newDay hday]
      refine Yields.in_turn (Yields.in_turn (yields_ok.mpr ?_))
      refine Yields.in_turn (rollFileUnlocked_yields.mono
        (fun mid es hmid => ?_))
      rw [yields_ok]
      unfold Write
      split
      · exact yields_error
      · rw [yields_ok]
        refine ⟨hmid.1, rfl, ?_⟩
        rcases hmid.2 with ⟨hsoon, rfl, rfl⟩ | ⟨hlate, rfl, rfl⟩
        · exact Or.inl ⟨hsoon, rfl, by simp [Read]⟩
        · exact Or.inr ⟨hlate, rfl, by simp [Read]⟩
  | rollFile => cases hday
  | flush => cases hday

theorem perform_newDay_returns {i : Input}
    (hday : FindsNewDay zone clock log i)
    (hlater : log.lastRoll_ < clock (log.readings + 1)) :
    exists next es, Perform zone pid clock log i =
      Except.ok (next, es) := by
  cases i with
  | append line =>
      rw [Perform, Append, if_neg (by simpa using hday.1), AppendUnlocked,
        prepare_newDay hday]
      rcases hday with ⟨_, ⟨file, hfile, _⟩, _⟩
      rcases lt_or_ge (clock (log.readings + 1))
        (log.lastRoll_ + Timestamp.kMicrosecondsPerSecond) with hsoon | hlate
      · have hcall := @rollFileUnlocked_refused zone pid clock
          { log.Read with appendCount_ := 0 } hlater hsoon
        simp only [Then, hcall]
        simp only [Write, Read, hfile]
        exact ⟨_, _, rfl⟩
      · have hcall := @rollFileUnlocked_created zone pid clock
          { log.Read with appendCount_ := 0 } hlate
        simp only [Then, hcall, Write, Renew]
        exact ⟨_, _, rfl⟩
  | rollFile => cases hday
  | flush => cases hday

/-!
# The condition
-/

theorem notLost_of_rollsOnDay (h : KeepsPeriod zone log) {i : Input}
    (hrolls : RollsOnDay zone clock log i) : NotLost zone pid clock log i := by
  intro next es hstep
  have hcall := answer_eq_some.mp hstep
  by_cases hday : FindsNewDay zone clock log i
  · rcases perform_newDay hday next es hcall with
      ⟨hlater, hperiod, ⟨hsoon, hroll, hmem⟩ | ⟨hlate, hroll, hmem⟩⟩
    · exact absurd hsoon (not_lt.mpr (hrolls hday hlater).1)
    · constructor
      · rw [KeepsPeriod, hperiod, hroll]
        exact (hrolls hday hlater).2.symm
      · exact fun _ _ _ => Or.inl ⟨_, hmem⟩
  · exact perform_keepsDay h hday next es hcall

theorem rollsOnDay_of_notLost (h : KeepsPeriod zone log) {i : Input}
    (hnot : NotLost zone pid clock log i) : RollsOnDay zone clock log i := by
  intro hday hlater
  rcases @perform_newDay_returns zone pid clock log i hday hlater with
    ⟨next, es, hcall⟩
  have hkept := (hnot next es (answer_eq_some.mpr hcall)).period
  rcases perform_newDay hday next es hcall with
    ⟨_, hperiod, ⟨_, hroll, _⟩ | ⟨hlate, hroll, _⟩⟩
  · -- The roll was refused, and the period is not that of the file any more.
    rw [KeepsPeriod, hperiod, hroll, ← h] at hkept
    exact absurd hkept (ne_of_gt (newDay_later hday))
  · rw [KeepsPeriod, hperiod, hroll] at hkept
    exact ⟨hlate, hkept.symm⟩

theorem notLost_iff (h : KeepsPeriod zone log) (i : Input) :
    NotLost zone pid clock log i <-> RollsOnDay zone clock log i :=
  ⟨rollsOnDay_of_notLost h, notLost_of_rollsOnDay h⟩

/-!
# Runs
-/

/--
A constructor that finds the clock within the first second makes no file, and
the blank period is then that of the epoch.
-/
theorem new_keepsPeriod_iff {config : Config} {first : LogFile}
    {es : List Event}
    (hnew : New zone pid clock config = Except.ok (first, es)) :
    KeepsPeriod zone first <->
      Timestamp.kMicrosecondsPerSecond ≤ clock 0 ∨
        Timestamp.RoundByDay zone 0 = 0 := by
  have hblank : (Blank config).lastRoll_ + Timestamp.kMicrosecondsPerSecond =
      Timestamp.kMicrosecondsPerSecond := zero_add _
  rcases (rollFileUnlocked_yields first es hnew).2 with
    ⟨hsoon, rfl, _⟩ | ⟨hlate, rfl, _⟩
  · rw [hblank] at hsoon
    constructor
    · exact fun hkeeps => Or.inr hkeeps.symm
    · rintro (hlate | hzero)
      · exact absurd hsoon (not_lt.mpr hlate)
      · exact hzero.symm
  · rw [hblank] at hlate
    exact ⟨fun _ => Or.inl hlate, fun _ => rfl⟩

/--
In every state of a run the period is the day of the current file and no day is
lost, if and only if the file that a check asks for on a new day is made, and on
that day.
-/
theorem day_kept_iff (config : Config) (inputs : List Input) :
    (forall first es, New zone pid clock config = Except.ok (first, es) ->
        KeepsPeriod zone first ∧
          (LogMachine zone pid clock).Guarded (NotLost zone pid clock)
            first inputs) <->
      (forall first es, New zone pid clock config = Except.ok (first, es) ->
        (Timestamp.kMicrosecondsPerSecond ≤ clock 0 ∨
            Timestamp.RoundByDay zone 0 = 0) ∧
          (LogMachine zone pid clock).Guarded (RollsOnDay zone clock)
            first inputs) := by
  refine forall_congr' fun first => forall_congr' fun es => ?_
  refine imp_congr_right fun hnew => ?_
  rw [← new_keepsPeriod_iff hnew]
  refine and_congr_right fun hkeeps => ?_
  apply Machine.Guarded.congr (I := KeepsPeriod zone) (G := fun _ _ => True)
  · exact fun log i hlog _ => notLost_iff hlog i
  · exact fun log i next es hlog _ hrolls hstep =>
      (notLost_of_rollsOnDay hlog hrolls next es hstep).period
  · exact hkeeps
  · exact Machine.guarded_of_forall (fun _ _ => trivial) _ _

end Environment

/-!
# Just before midnight

The file grows too large half a second before midnight, and the first check of
the new day is made less than a second behind that.
-/

theorem roundByDay_utc (timestamp : Timestamp) :
    Timestamp.RoundByDay Utc timestamp =
      1000000 * (timestamp.tdiv 1000000 -
        timestamp.tdiv 1000000 % 86400) := rfl

theorem roundByDay_utc_mono : Monotone (Timestamp.RoundByDay Utc) := by
  intro low high h
  have hseconds : low.tdiv 1000000 ≤ high.tdiv 1000000 :=
    Int.tdiv_le_tdiv (by decide) h
  rw [roundByDay_utc, roundByDay_utc]
  lia

theorem roundByDay_utc_idem (timestamp : Timestamp) :
    Timestamp.RoundByDay Utc (Timestamp.RoundByDay Utc timestamp) =
      Timestamp.RoundByDay Utc timestamp := by
  rw [roundByDay_utc, roundByDay_utc, Int.mul_tdiv_cancel_left _ (by decide)]
  lia

def MidnightClock (reading : Nat) : Timestamp :=
  [86390000000, 86399500000, 86400200000, 86400300000].getD reading
    (86400000000 + 1000000 * reading)

theorem midnightClock_strictMono : StrictMono MidnightClock := by
  apply strictMono_nat_of_lt_succ
  intro reading
  rcases reading with _ | _ | _ | _ | reading
  · decide
  · decide
  · decide
  · decide
  · simp [MidnightClock]

def AcrossMidnight : List Input :=
  [Input.rollFile, Input.append [0, 1, 2, 3, 4, 5, 6, 7],
    Input.append [8, 9, 10], Input.append [11], Input.append [12]]

theorem day_lost :
    ¬ forall (zone : LocalTime) (clock : Nat -> Timestamp) (config : Config)
        (inputs : List Input) (log : LogFile) (tr : List Event),
      Monotone (Timestamp.RoundByDay zone) ->
      (forall timestamp, Timestamp.RoundByDay zone
        (Timestamp.RoundByDay zone timestamp) =
          Timestamp.RoundByDay zone timestamp) ->
      StrictMono clock ->
      (LogMachine zone 1 clock).Run (Blank config)
        (Input.rollFile :: inputs) = some (log, tr) ->
      KeepsPeriod zone log := by
  intro hclaim
  have heval : ((LogMachine Utc 1 MidnightClock).Run (Blank SmallConfig)
      AcrossMidnight).map (fun last =>
        ((last.1.currentPeriod_, last.1.lastRoll_), last.2)) =
      some ((86400000000, 86399500000),
        [Event.created 86390000000, Event.appended [0, 1, 2, 3, 4, 5, 6, 7],
          Event.created 86399500000, Event.appended [8, 9, 10],
          Event.checked 86400200000, Event.refused 86400300000,
          Event.appended [11], Event.checked 86404000000, Event.flushed,
          Event.appended [12]]) := by
    decide +kernel
  rcases (LogMachine Utc 1 MidnightClock).exists_run
    (fun log => (log.currentPeriod_, log.lastRoll_)) heval with
    ⟨log, hrun, hlast⟩
  have hkept := hclaim Utc MidnightClock SmallConfig _ log _
    roundByDay_utc_mono roundByDay_utc_idem midnightClock_strictMono hrun
  rcases Prod.mk.inj hlast with ⟨hperiod, hroll⟩
  rw [KeepsPeriod, hperiod, hroll] at hkept
  revert hkept
  decide

end LogFile
end Logger
end Wethands
