import Wethands.Logger.LogFile.Steps

/-!
# Rolling twice within a second

`RollFileUnlocked` asserts that the clock has gone on since the last file was
made, and only then looks whether a second has passed.  The constructor makes
the first call, when there is no file yet.
-/

namespace Wethands
namespace Logger

open Foundation Utils

namespace LogFile

section Environment

variable (zone : LocalTime) (pid : Nat) (clock : Nat -> Timestamp)

/-- The log in which a step comes to `RollFileUnlocked`, if it does. -/
def Rolls (log : LogFile) : Input -> Option LogFile
  | Input.append line =>
      match log.file_ with
      | none => none
      | some file =>
          if line.length = 0 then none
          else if log.rollsize_ < file.stream.writtenBytes_ + line.length then
            some log
          else if log.checkEveryNAppend_ ≤ log.appendCount_ ∧
              log.currentPeriod_ <
                Timestamp.RoundByDay zone (clock log.readings) then
            some { log.Read with appendCount_ := 0 }
          else none
  | Input.rollFile => some log
  | Input.flush => none

/--
The call comes back.  Within a second of the last creation it leaves the members
as they were, and after a second it makes exactly one file.
-/
structure RollsOnce (log : LogFile) (next : LogFile) : Prop where
  soon : clock log.readings <
      log.LastCreation + Timestamp.kMicrosecondsPerSecond ->
    next.file_ = log.file_ ∧ next.lastRoll_ = log.lastRoll_ ∧
      next.lastFlush_ = log.lastFlush_ ∧
      next.currentPeriod_ = log.currentPeriod_
  late : log.LastCreation + Timestamp.kMicrosecondsPerSecond ≤
      clock log.readings ->
    exists file, next.Files = log.Files ++ [file]

/-- No assertion fails, and a call of `RollFileUnlocked` does what it should. -/
def Harmless (log : LogFile) (i : Input) : Prop :=
  Perform zone pid clock log i ≠ Except.error Failure.assertion ∧
    forall mid, Rolls zone clock log i = some mid ->
      exists next es, RollFileUnlocked zone pid clock mid =
          Except.ok (next, es) ∧ RollsOnce clock mid next

def ReadsLater (log : LogFile) (i : Input) : Prop :=
  forall mid, Rolls zone clock log i = some mid ->
    mid.LastCreation < clock mid.readings

instance (log : LogFile) (i : Input) :
    Decidable (ReadsLater zone clock log i) :=
  match h : Rolls zone clock log i with
  | none => isTrue (fun mid hmid => by rw [h] at hmid; cases hmid)
  | some mid =>
      decidable_of_iff (mid.LastCreation < clock mid.readings) (by
        simp only [ReadsLater, h, Option.some.injEq, forall_eq'])

variable {zone pid clock} {log mid next : LogFile}

/-!
# One call
-/

theorem rollsOnce_of_later (h : Dated log)
    (hlater : log.LastCreation < clock log.readings) :
    exists next es, RollFileUnlocked zone pid clock log =
        Except.ok (next, es) ∧ RollsOnce clock log next := by
  have hdated : log.lastRoll_ = log.LastCreation := h
  rcases lt_or_ge (clock log.readings)
    (log.LastCreation + Timestamp.kMicrosecondsPerSecond) with hsoon | hlate
  · refine ⟨_, _, rollFileUnlocked_refused ?_ ?_, ?_⟩
    · rw [hdated]
      exact hlater
    · rw [hdated]
      exact hsoon
    · exact ⟨fun _ => ⟨rfl, rfl, rfl, rfl⟩,
        fun hlate => absurd hsoon (not_lt.mpr hlate)⟩
  · refine ⟨_, _, rollFileUnlocked_created ?_, ?_⟩
    · rw [hdated]
      exact hlate
    · exact ⟨fun hsoon => absurd hsoon (not_lt.mpr hlate),
        fun _ => ⟨_, rfl⟩⟩

theorem rollFileUnlocked_ne_assertion (h : Dated log)
    (hlater : log.LastCreation < clock log.readings) :
    RollFileUnlocked zone pid clock log ≠
      Except.error Failure.assertion := by
  rcases @rollsOnce_of_later zone pid clock log h hlater with
    ⟨next, es, hcall, _⟩
  rw [hcall]
  intro heq
  cases heq

theorem write_ne_assertion (log : LogFile) (line : List UInt8) :
    log.Write line ≠ Except.error Failure.assertion := by
  unfold Write
  intro heq
  split at heq <;> cases heq

theorem prepare_ne_assertion (h : Dated log) {line : List UInt8}
    (hline : line.length ≠ 0)
    (hlater : ReadsLater zone clock log (Input.append line)) :
    Prepare zone pid clock log line.length ≠
      Except.error Failure.assertion := by
  unfold Prepare
  cases hfile : log.file_ with
  | none =>
      intro heq
      cases heq
  | some file =>
      simp only [ReadsLater, Rolls, hfile, if_neg hline] at hlater
      dsimp only
      split at hlater
      · rename_i hfull
        rw [if_pos hfull]
        apply then_ne_error
        · exact rollFileUnlocked_ne_assertion h (hlater log rfl)
        · intro mid es _ heq
          cases heq
      · rename_i hroom
        rw [if_neg hroom]
        split
        · rename_i hcount
          unfold Check
          apply then_ne_error
          · intro heq
            cases heq
          · intro mid es hmid
            cases hmid
            dsimp only
            split
            · rename_i hday
              rw [if_pos ⟨hcount, hday⟩] at hlater
              apply then_ne_error
              · exact rollFileUnlocked_ne_assertion h (hlater _ rfl)
              · intro last es' _ heq
                cases heq
            · intro heq
              split at heq <;> cases heq
        · intro heq
          cases heq

theorem perform_ne_assertion (h : Dated log) {i : Input}
    (hlater : ReadsLater zone clock log i) :
    Perform zone pid clock log i ≠ Except.error Failure.assertion := by
  cases i with
  | append line =>
      rw [Perform, Append]
      split
      · intro heq
        cases heq
      · rename_i hline
        exact then_ne_error (prepare_ne_assertion h hline hlater)
          (fun mid _ _ => write_ne_assertion mid line)
  | rollFile => exact rollFileUnlocked_ne_assertion h (hlater log rfl)
  | flush =>
      rw [Perform, Flush]
      intro heq
      split at heq <;> cases heq

theorem Dated.rolls (h : Dated log) {i : Input}
    (hrolls : Rolls zone clock log i = some mid) : Dated mid := by
  unfold Rolls at hrolls
  split at hrolls
  · split at hrolls
    · cases hrolls
    · split at hrolls
      · cases hrolls
      · split at hrolls
        · cases hrolls
          exact h
        · split at hrolls
          · cases hrolls
            exact h
          · cases hrolls
  · cases hrolls
    exact h
  · cases hrolls

/-- The condition is all that a step needs, and it needs all of it. -/
theorem harmless_iff (h : Dated log) (i : Input) :
    Harmless zone pid clock log i <-> ReadsLater zone clock log i := by
  constructor
  · intro hharmless mid hmid
    rcases hharmless.2 mid hmid with ⟨next, es, hcall, _⟩
    have hlater := (rollFileUnlocked_yields next es hcall).1
    rwa [h.rolls hmid] at hlater
  · intro hlater
    refine ⟨perform_ne_assertion h hlater, fun mid hmid => ?_⟩
    exact rollsOnce_of_later (h.rolls hmid) (hlater mid hmid)

/-!
# Runs
-/

theorem new_eq (config : Config) :
    New zone pid clock config =
      Perform zone pid clock (Blank config) Input.rollFile := rfl

/--
No assertion fails in a run of a log from its construction, and every call of
`RollFileUnlocked` does what it should, if and only if each of them reads a time
that is later than the last creation.
-/
theorem rolls_harmlessly_iff (config : Config) (inputs : List Input) :
    (LogMachine zone pid clock).Guarded (Harmless zone pid clock)
        (Blank config) (Input.rollFile :: inputs) <->
      (LogMachine zone pid clock).Guarded (ReadsLater zone clock)
        (Blank config) (Input.rollFile :: inputs) := by
  apply Machine.Guarded.congr (I := Dated) (G := fun _ _ => True)
  · exact fun log i hdated _ => harmless_iff hdated i
  · exact fun log i next es hdated _ _ hstep =>
      hdated.perform i next es (answer_eq_some.mp hstep)
  · exact dated_blank config
  · exact Machine.guarded_of_forall (fun _ _ => trivial) _ _

end Environment

/-!
# A clock that stands still
-/

/-- `RollFile` is called in the microsecond of the construction. -/
theorem roll_twice_asserts :
    ¬ forall (clock : Nat -> Timestamp) (config : Config)
        (inputs : List Input),
      (LogMachine Utc 1 clock).Guarded (Harmless Utc 1 clock)
        (Blank config) (Input.rollFile :: inputs) := by
  intro hclaim
  have hguard := hclaim (fun _ => 2000000) SmallConfig [Input.rollFile]
  have hcall : RollFileUnlocked Utc 1 (fun _ => 2000000) (Blank SmallConfig) =
      Except.ok ((Blank SmallConfig).Read.Renew Utc 1 2000000,
        [Event.created 2000000]) := rollFileUnlocked_created (by decide)
  have hfirst : (LogMachine Utc 1 (fun _ => 2000000)).Step (Blank SmallConfig)
      Input.rollFile = some _ := answer_eq_some.mpr hcall
  rw [Machine.guarded_cons hfirst] at hguard
  have hsecond : RollFileUnlocked Utc 1 (fun _ => 2000000)
      ((Blank SmallConfig).Read.Renew Utc 1 2000000) =
        Except.error Failure.assertion := rollFileUnlocked_asserts (by decide)
  exact hguard.2.1.1 hsecond

end LogFile
end Logger
end Wethands
