import Mathlib.Data.List.Flatten
import Wethands.Logger.AsyncLogging.Order
import Wethands.Logger.LogFile.Size

/-!
# From the front end to the files

`ThreadFunc` opens a log file before its loop, appends every buffer of a batch
to it and flushes it behind the batch.  The file is not shared with another
thread, so each of these calls is a part of a step of the back end.
-/

namespace Wethands
namespace Logger

open Foundation Utils

namespace AsyncLogging

/-- The log and the local variable `file` of its back end. -/
structure Pipeline (ThreadId : Type) where
  log : AsyncLogging ThreadId
  file : Option LogFile

namespace Pipeline

variable {ThreadId : Type} [DecidableEq ThreadId]

def Init (ThreadId : Type) : Pipeline ThreadId where
  log := New ThreadId
  file := none

section Environment

variable (zone : LocalTime) (pid : Nat) (clock : Nat -> Timestamp)
variable (config : LogFile.Config)

/-- A call of a member function of `file`. -/
def With (file : Option LogFile)
    (call : LogFile -> Call LogFile LogFile.Event) : Outcome LogFile :=
  match file with
  | none => Except.error Failure.danglingPointer
  | some file => (call file).map Prod.fst

/-- What the next step of the back end does with `file`. -/
def FileStep (pipeline : Pipeline ThreadId) : Outcome (Option LogFile) :=
  match pipeline.log.phase with
  | Phase.starting =>
      (LogFile.New zone pid clock config).map fun last => some last.1
  | Phase.writing done =>
      match pipeline.log.buffersToWrite[done]? with
      | none => Except.ok pipeline.file
      | some buffer =>
          (With pipeline.file fun file =>
            LogFile.Append zone pid clock file buffer.written).map some
  | Phase.recycling => (With pipeline.file LogFile.Flush).map some
  | _ => Except.ok pipeline.file

/-- The files are only touched by the back end. -/
def FileOf (pipeline : Pipeline ThreadId) :
    Input ThreadId -> Outcome (Option LogFile)
  | Input.threadFunc => FileStep zone pid clock config pipeline
  | _ => Except.ok pipeline.file

def PipelineMachine (ThreadId : Type) [DecidableEq ThreadId] :
    Machine (Pipeline ThreadId) (Input ThreadId) Event where
  Step pipeline i :=
    match (LogMachine ThreadId).Step pipeline.log i,
      FileOf zone pid clock config pipeline i with
    | some (log, es), Except.ok file => some (⟨log, file⟩, es)
    | _, _ => none

/-!
# What is on the disk
-/

/-- An empty buffer is no record. -/
def Records (tr : List Event) : List Line :=
  (FileAppends tr).filter (· ≠ [])

def Stored (pipeline : Pipeline ThreadId) (tr : List Event) : Prop :=
  match pipeline.log.phase with
  | Phase.notStarted | Phase.starting =>
      pipeline.file = none ∧ FileAppends tr = []
  | _ => exists file, pipeline.file = some file ∧
      LogFile.Sound zone pid clock file (Records tr)

variable {zone pid clock config}

theorem records_append (tr es : List Event) :
    Records (tr ++ es) = Records tr ++ Records es := by
  rw [Records, FileAppends, List.flatMap_append, List.filter_append]
  rfl

omit [DecidableEq ThreadId] in
theorem appendHolding_phase {log next : AsyncLogging ThreadId} {line : Line}
    {es : List Event} (h : log.AppendHolding line = Except.ok (next, es)) :
    next.phase = log.phase := by
  unfold AppendHolding at h
  split at h
  · cases h
  · split at h
    · cases h
      rfl
    · split at h <;> cases h <;> rfl

omit [DecidableEq ThreadId] in
theorem Stored.same {pipeline : Pipeline ThreadId}
    {log : AsyncLogging ThreadId} {tr es : List Event}
    (h : Stored zone pid clock pipeline tr)
    (hphase : log.phase = pipeline.log.phase) (hes : FileAppends es = []) :
    Stored zone pid clock ⟨log, pipeline.file⟩ (tr ++ es) := by
  have hrecords : Records (tr ++ es) = Records tr := by
    rw [records_append, Records, Records, hes]
    exact List.append_nil _
  have happends : FileAppends (tr ++ es) = FileAppends tr := by
    rw [FileAppends, List.flatMap_append, ← FileAppends, ← FileAppends, hes,
      List.append_nil]
  unfold Stored at *
  rw [hrecords, happends, hphase]
  exact h

/-!
# The steps of the back end
-/

omit [DecidableEq ThreadId] in
theorem take_phase {log next : AsyncLogging ThreadId} {es : List Event}
    (h : log.Take = Except.ok (next, es)) :
    next.phase = Phase.dropping ∧ FileAppends es = [] := by
  unfold Take at h
  split at h
  · cases h
  · cases h
    exact ⟨rfl, rfl⟩

omit [DecidableEq ThreadId] in
theorem recycle_phase {log next : AsyncLogging ThreadId} {es : List Event}
    (h : log.Recycle = Except.ok (next, es)) :
    next.phase = Phase.test ∧ FileAppends es = [] := by
  unfold Recycle at h
  dsimp only at h
  split at h
  · cases h
  · split at h
    · cases h
      exact ⟨rfl, rfl⟩
    · split at h
      · cases h
      · cases h
        exact ⟨rfl, rfl⟩

def InLoop : Phase -> Bool
  | Phase.notStarted | Phase.starting => false
  | _ => true

omit [DecidableEq ThreadId] in
theorem stored_iff {pipeline : Pipeline ThreadId} {tr : List Event}
    (hloop : InLoop pipeline.log.phase = true) :
    Stored zone pid clock pipeline tr <->
      exists file, pipeline.file = some file ∧
        LogFile.Sound zone pid clock file (Records tr) := by
  unfold Stored
  cases hphase : pipeline.log.phase with
  | notStarted | starting =>
      rw [hphase] at hloop
      cases hloop
  | _ => exact Iff.rfl

omit [DecidableEq ThreadId] in
theorem Stored.stay {pipeline : Pipeline ThreadId}
    {log : AsyncLogging ThreadId} {tr es : List Event}
    (h : Stored zone pid clock pipeline tr)
    (hloop : InLoop pipeline.log.phase = true) (hnext : InLoop log.phase = true)
    (hes : FileAppends es = []) :
    Stored zone pid clock ⟨log, pipeline.file⟩ (tr ++ es) := by
  rcases (stored_iff hloop).mp h with ⟨file, hfile, hsound⟩
  refine (stored_iff hnext).mpr ⟨file, hfile, ?_⟩
  rw [records_append, Records, Records, hes]
  exact (List.append_nil (Records tr)).symm ▸ hsound

omit [DecidableEq ThreadId] in
theorem Stored.calls {pipeline : Pipeline ThreadId}
    {log : AsyncLogging ThreadId} {tr es : List Event}
    (hclock : StrictMono clock) (h : Stored zone pid clock pipeline tr)
    (hloop : InLoop pipeline.log.phase = true) (hnext : InLoop log.phase = true)
    {i : LogFile.Input} (hes : Records es = (LogFile.Record i).toList) :
    exists file,
      With pipeline.file (fun file =>
        LogFile.Perform zone pid clock file i) = Except.ok file ∧
      Stored zone pid clock ⟨log, some file⟩ (tr ++ es) := by
  rcases (stored_iff hloop).mp h with ⟨file, hfile, hsound⟩
  rcases LogFile.perform_returns hclock hsound i with ⟨last, fes, hcall⟩
  refine ⟨last, ?_, (stored_iff hnext).mpr ⟨last, rfl, ?_⟩⟩
  · rw [hfile, With, hcall]
    rfl
  · rw [records_append, hes]
    exact hsound.perform hclock i last fes hcall

omit [DecidableEq ThreadId] in
theorem fileStep_stored (config : LogFile.Config)
    (hclock : StrictMono clock)
    (hfirst : Timestamp.kMicrosecondsPerSecond ≤ clock 0)
    {pipeline : Pipeline ThreadId} {log : AsyncLogging ThreadId}
    {tr es : List Event} (h : Stored zone pid clock pipeline tr)
    (hstep : pipeline.log.ThreadFunc = Except.ok (log, es)) :
    exists file, FileStep zone pid clock config pipeline = Except.ok file ∧
      Stored zone pid clock ⟨log, file⟩ (tr ++ es) := by
  unfold ThreadFunc at hstep
  unfold FileStep
  cases hphase : pipeline.log.phase with
  | notStarted | returned | joined =>
      rw [hphase] at hstep
      cases hstep
  | starting =>
      rw [hphase] at hstep
      cases hstep
      rcases @LogFile.new_sound zone pid clock hclock hfirst config with
        ⟨first, fes, hnew, hsound⟩
      refine ⟨some first, ?_, (stored_iff rfl).mpr ⟨first, rfl, ?_⟩⟩
      · simp only [hnew, Except.map]
      · unfold Stored at h
        rw [hphase] at h
        rw [List.append_nil, Records, h.2]
        exact hsound
  | test =>
      rw [hphase] at hstep
      refine ⟨pipeline.file, rfl, ?_⟩
      dsimp only at hstep
      split at hstep
      · cases hstep
        exact h.stay (by rw [hphase]; rfl) rfl rfl
      · cases hstep
        exact h.stay (by rw [hphase]; rfl) rfl rfl
  | lock =>
      rw [hphase] at hstep
      refine ⟨pipeline.file, rfl, ?_⟩
      dsimp only at hstep
      split at hstep
      · cases hstep
        exact h.stay (by rw [hphase]; rfl) rfl rfl
      · rcases take_phase hstep with ⟨hnext, hes⟩
        exact h.stay (by rw [hphase]; rfl) (by rw [hnext]; rfl) hes
  | waiting =>
      rw [hphase] at hstep
      rcases take_phase hstep with ⟨hnext, hes⟩
      refine ⟨pipeline.file, rfl, ?_⟩
      exact h.stay (by rw [hphase]; rfl) (by rw [hnext]; rfl) hes
  | dropping =>
      rw [hphase] at hstep
      cases hstep
      refine ⟨pipeline.file, rfl, ?_⟩
      exact h.stay (by rw [hphase]; rfl) rfl rfl
  | writing done =>
      rw [hphase] at hstep
      dsimp only at hstep ⊢
      split at hstep
      · rename_i buffer hbuffer
        cases hstep
        have hrecord : Records [Event.fileAppend buffer.written] =
            (LogFile.Record (LogFile.Input.append buffer.written)).toList := by
          show [buffer.written].filter _ = _
          rw [LogFile.Record, List.filter_singleton]
          split <;> simp_all
        have hnext : InLoop { pipeline.log with
            phase := Phase.writing (done + 1) }.phase = true := rfl
        rcases h.calls hclock (by rw [hphase]; rfl) hnext hrecord with
          ⟨file, hcall, hstored⟩
        refine ⟨some file, ?_, hstored⟩
        rw [hbuffer]
        exact congrArg (Except.map some) hcall
      · rename_i hnone
        cases hstep
        rw [hnone]
        refine ⟨pipeline.file, rfl, ?_⟩
        exact h.stay (by rw [hphase]; rfl) rfl rfl
  | recycling =>
      rw [hphase] at hstep
      rcases recycle_phase hstep with ⟨hnext, hes⟩
      have hrecord : Records es =
          (LogFile.Record LogFile.Input.flush).toList := by
        rw [Records, hes]
        rfl
      rcases h.calls hclock (by rw [hphase]; rfl) (by rw [hnext]; rfl)
        hrecord with ⟨file, hcall, hstored⟩
      exact ⟨some file, congrArg (Except.map some) hcall, hstored⟩

/-!
# Steps
-/

theorem step_stored (config : LogFile.Config) (hclock : StrictMono clock)
    (hfirst : Timestamp.kMicrosecondsPerSecond ≤ clock 0)
    {pipeline : Pipeline ThreadId} {log : AsyncLogging ThreadId}
    {i : Input ThreadId} {tr es : List Event}
    (h : Stored zone pid clock pipeline tr)
    (hstep : (LogMachine ThreadId).Step pipeline.log i = some (log, es)) :
    exists file,
      (PipelineMachine zone pid clock config ThreadId).Step pipeline i =
        some (⟨log, file⟩, es) ∧
      Stored zone pid clock ⟨log, file⟩ (tr ++ es) := by
  have hsame : FileOf zone pid clock config pipeline i =
        Except.ok pipeline.file ->
      Stored zone pid clock ⟨log, pipeline.file⟩ (tr ++ es) ->
      exists file,
        (PipelineMachine zone pid clock config ThreadId).Step pipeline i =
          some (⟨log, file⟩, es) ∧
        Stored zone pid clock ⟨log, file⟩ (tr ++ es) := by
    intro hfile hstored
    refine ⟨pipeline.file, ?_, hstored⟩
    simp only [PipelineMachine, hstep, hfile]
  cases i with
  | start =>
      refine hsame rfl ?_
      rcases assert_eq_ok.mp (answer_eq_some.mp hstep) with ⟨_, hcall⟩
      split at hcall
      · rename_i hphase
        cases hcall
        unfold Stored at *
        rw [hphase] at h
        rw [List.append_nil]
        exact h
      · cases hcall
  | append tid line =>
      refine hsame rfl ?_
      simp only [LogMachine] at hstep
      split at hstep
      · cases hstep
      · rcases assert_eq_ok.mp (answer_eq_some.mp hstep) with ⟨_, hcall⟩
        cases hcall
        exact h.same rfl rfl
  | holds tid =>
      refine hsame rfl ?_
      simp only [LogMachine] at hstep
      split at hstep
      · cases hstep
      · have hcall := answer_eq_some.mp hstep
        have hphase := appendHolding_phase hcall
        rw [held_of_appendHolding hcall]
        exact h.same hphase rfl
  | threadFunc =>
      rcases fileStep_stored config hclock hfirst h
        (answer_eq_some.mp hstep) with ⟨file, hfile, hstored⟩
      refine ⟨file, ?_, hstored⟩
      simp only [PipelineMachine, hstep, FileOf, hfile]
  | stop =>
      refine hsame rfl ?_
      rcases assert_eq_ok.mp (answer_eq_some.mp hstep) with ⟨_, hcall⟩
      cases hcall
      exact h.same rfl rfl
  | stopReturns =>
      refine hsame rfl ?_
      simp only [LogMachine] at hstep
      split at hstep
      · rename_i hboth
        cases hstep
        exact h.stay (by rw [hboth.2]; rfl) rfl rfl
      · cases hstep

theorem run_stored (config : LogFile.Config) (hclock : StrictMono clock)
    (hfirst : Timestamp.kMicrosecondsPerSecond ≤ clock 0)
    {inputs : List (Input ThreadId)} {log : AsyncLogging ThreadId}
    {tr : List Event}
    (hrun : (LogMachine ThreadId).Run (New ThreadId) inputs =
      some (log, tr)) :
    exists file,
      (PipelineMachine zone pid clock config ThreadId).Run (Init ThreadId)
        inputs = some (⟨log, file⟩, tr) ∧
      Stored zone pid clock ⟨log, file⟩ tr := by
  have hlast : exists file,
      (PipelineMachine zone pid clock config ThreadId).Run (Init ThreadId)
        ([] ++ inputs.flatMap (fun i => [i])) =
          some (⟨log, file⟩, [] ++ tr) ∧
      Stored zone pid clock ⟨log, file⟩ ([] ++ tr) :=
    Machine.run_reads
      (I := fun inputs log tr => exists file,
        (PipelineMachine zone pid clock config ThreadId).Run (Init ThreadId)
          inputs = some (⟨log, file⟩, tr) ∧
        Stored zone pid clock ⟨log, file⟩ tr) ?_ ?_ hrun
  · simpa using hlast
  · intro inputs log tr i next es hinv hstep
    rcases hinv with ⟨file, hsofar, hstored⟩
    rcases step_stored config hclock hfirst hstored hstep with
      ⟨file', hone, hstored'⟩
    exact ⟨file', Machine.run_append hsofar (Machine.run_singleton hone),
      hstored'⟩
  · exact ⟨none, rfl, rfl, rfl⟩

/-!
# Lines in files
-/

def Consists (file : LogFile.File) (lines : List Line) : Prop :=
  file.stream.fp_ = lines.flatten

/-- What is in memory, in the order in which it will be written. -/
def InMemory (log : AsyncLogging ThreadId) : Line :=
  log.Unwritten.flatten ++ (Contents log.buffers_).flatten ++ log.Current

def OnDisk (file : Option LogFile) : List LogFile.File :=
  match file with
  | none => []
  | some file => file.Files

/--
Every record is in one file, so every line is in one file.  Lines that make no
record are empty, and go with those before them.
-/
theorem consists_of_holds {files : List LogFile.File}
    {parts : List (List Line)}
    (hholds : List.Forall₂ LogFile.Holds files parts) (hne : files ≠ [])
    {groups : List (List Line)}
    (h : parts.flatten = (groups.map List.flatten).filter (· ≠ [])) :
    exists written, List.Forall₂ Consists files written ∧
      written.flatten = groups.flatten := by
  have hbytes : forall groups : List (List Line),
      ((groups.map List.flatten).filter (· ≠ [])).flatten =
        groups.flatten.flatten := by
    intro groups
    rw [List.flatten_filter_ne_nil, List.flatten_flatten]
  induction hholds generalizing groups with
  | nil => exact absurd rfl hne
  | @cons file part files parts hfile hrest ih =>
      cases hrest with
      | nil =>
          refine ⟨[groups.flatten],
            List.Forall₂.cons ?_ List.Forall₂.nil, List.flatten_singleton⟩
          rw [List.flatten_cons, List.flatten_nil, List.append_nil] at h
          rw [Consists, hfile.1, h, hbytes]
      | cons hnext htail =>
          rw [List.flatten_cons] at h
          rcases List.filter_eq_append_iff.mp h.symm with
            ⟨first, last, hsplit, hfirst, hlast⟩
          rcases List.map_eq_append_iff.mp hsplit with
            ⟨mine, others, rfl, rfl, rfl⟩
          rcases ih (List.cons_ne_nil _ _) hlast.symm with
            ⟨written, hall, hflat⟩
          refine ⟨mine.flatten :: written, List.Forall₂.cons ?_ hall, ?_⟩
          · rw [Consists, hfile.1, ← hfirst, hbytes]
          · rw [List.flatten_cons, hflat, List.flatten_append]

omit [DecidableEq ThreadId] in
theorem exists_consists {pipeline : Pipeline ThreadId} {tr : List Event}
    (h : Stored zone pid clock pipeline tr) {groups : List (List Line)}
    (hgroups : FileAppends tr = groups.map List.flatten) :
    exists written,
      List.Forall₂ Consists (OnDisk pipeline.file) written ∧
      written.flatten = groups.flatten := by
  cases hloop : InLoop pipeline.log.phase with
  | false =>
      have hnone : pipeline.file = none ∧ FileAppends tr = [] := by
        unfold Stored at h
        cases hphase : pipeline.log.phase with
        | notStarted | starting =>
            rw [hphase] at h
            exact h
        | _ =>
            rw [hphase] at hloop
            cases hloop
      rw [hnone.2, eq_comm, List.map_eq_nil_iff] at hgroups
      rw [hnone.1, hgroups]
      exact ⟨[], List.Forall₂.nil, rfl⟩
  | true =>
      rcases (stored_iff hloop).mp h with ⟨file, hfile, hsound⟩
      rcases hsound.archives with ⟨parts, hholds, hparts⟩
      rcases hsound.current with ⟨current, hcurrent, _⟩
      rw [hfile]
      refine consists_of_holds hholds ?_ ?_
      · exact List.ne_nil_of_mem (LogFile.mem_files hcurrent)
      · rw [hparts, Records, hgroups]

theorem kept_sublist (taken : List (List (List Line))) :
    (taken.flatMap Kept).Sublist taken.flatten := by
  rw [← List.flatMap_id]
  refine List.Sublist.flatMap_right taken (fun batch _ => ?_)
  unfold Kept
  split
  · exact List.take_sublist 2 batch
  · exact List.Sublist.refl batch

theorem kept_all {taken : List (List (List Line))}
    (h : forall batch, batch ∈ taken -> batch.length ≤ 16) :
    taken.flatMap Kept = taken.flatten := by
  have hkept : taken.flatMap Kept = taken.flatMap id := by
    refine List.flatMap_congr (fun batch hbatch => ?_)
    exact if_neg (Nat.not_lt.mpr (h batch hbatch))
  rw [hkept, List.flatMap_id]

/--
Whatever the threads do, the log files never stop the log.  They consist of
whole lines, in the order in which the calls of `Append` held `lock_` and each
line once; behind them comes what is still in memory, and nothing is missing
unless a batch was too long.
-/
theorem files_consist_of_lines (config : LogFile.Config)
    (hclock : StrictMono clock)
    (hfirst : Timestamp.kMicrosecondsPerSecond ≤ clock 0)
    {inputs : List (Input ThreadId)} {log : AsyncLogging ThreadId}
    {tr : List Event}
    (hrun : (LogMachine ThreadId).Run (New ThreadId) inputs = some (log, tr))
    (hshort : forall line, line ∈ HeldLines tr ->
      line.length < kLargeBufferSize) :
    exists file,
      (PipelineMachine zone pid clock config ThreadId).Run (Init ThreadId)
        inputs = some (⟨log, file⟩, tr) ∧
      exists written : List (List Line), exists pending : List Line,
        List.Forall₂ Consists (OnDisk file) written ∧
        pending.flatten = InMemory log ∧
        (written.flatten ++ pending).Sublist (HeldLines tr) ∧
        ((forall batch, batch ∈ Batches tr -> batch.length ≤ 16) ->
          written.flatten ++ pending = HeldLines tr) := by
  rcases run_stored config hclock hfirst hrun with ⟨file, hpipeline, hstored⟩
  rcases run_keeps hrun hshort with
    ⟨_, taken, waiting, current, hheld, hbatches, hwaiting, hcurrent,
      hwritten⟩
  rcases List.append_eq_map_iff.mp hwritten with
    ⟨done, left, hkept, hdone, hleft⟩
  rcases exists_consists hstored hdone.symm with ⟨written, hall, hflat⟩
  have hlines : written.flatten ++
      (left.flatten ++ waiting.flatten ++ current) =
        (taken.flatMap Kept).flatten ++ (waiting.flatten ++ current) := by
    rw [hflat, hkept]
    simp
  have hlocked : HeldLines tr =
      taken.flatten.flatten ++ (waiting.flatten ++ current) := by
    rw [hheld]
    simp
  refine ⟨file, hpipeline, written, left.flatten ++ waiting.flatten ++ current,
    hall, ?_, ?_, ?_⟩
  · have hunwritten : log.Unwritten = left.map List.flatten := hleft.symm
    have hbuffers : Contents log.buffers_ = waiting.map List.flatten :=
      hwaiting
    have hlast : log.Current = current.flatten := hcurrent
    rw [InMemory, hunwritten, hbuffers, hlast, List.flatten_append,
      List.flatten_append, List.flatten_flatten, List.flatten_flatten]
  · rw [hlines, hlocked]
    exact List.Sublist.append (kept_sublist taken).flatten
      (List.Sublist.refl _)
  · intro hbatch
    rw [hlines, hlocked, kept_all]
    intro batch hmem
    have hbytes : batch.map List.flatten ∈ Batches tr := by
      rw [hbatches]
      exact List.mem_map_of_mem hmem
    have hlength := hbatch _ hbytes
    rwa [List.length_map] at hlength

end Environment

/-- The second line is still in memory when the first one is in its file. -/
theorem files_consist_of_lines_of_two_threads :
    exists log file,
      (PipelineMachine Utc 1 LogFile.QuickClock LogFile.SmallConfig Bool).Run
        (Init Bool) TwoThreads =
          some (⟨log, file⟩, [Event.held [1, 10], Event.took [[1, 10]],
            Event.held [3, 10], Event.held [2, 10],
            Event.fileAppend [1, 10]]) ∧
      exists written : List (List Line), exists pending : List Line,
        List.Forall₂ Consists (OnDisk file) written ∧
        pending.flatten = InMemory log ∧
        written.flatten ++ pending = [[1, 10], [3, 10], [2, 10]] := by
  rcases (LogMachine Bool).exists_run (fun _ => ())
      (show ((LogMachine Bool).Run (New Bool) TwoThreads).map
        (fun last => ((), last.2)) =
          some ((), [Event.held [1, 10], Event.took [[1, 10]],
            Event.held [3, 10], Event.held [2, 10],
            Event.fileAppend [1, 10]]) by decide +kernel) with
    ⟨log, hrun, _⟩
  rcases @files_consist_of_lines Bool _ Utc 1 LogFile.QuickClock
    LogFile.SmallConfig LogFile.quickClock_strictMono (by decide) _ _ _ hrun
    (by decide) with
    ⟨file, hpipeline, written, pending, hall, hmemory, _, hwhole⟩
  exact ⟨log, file, hpipeline, written, pending, hall, hmemory,
    hwhole (by decide)⟩

end Pipeline
end AsyncLogging
end Logger
end Wethands
