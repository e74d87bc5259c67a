import Wethands.Logger.AsyncLogging.Order

/-!
# Stopping the log

`Stop` stores `running_` without `lock_`, and the back end tests it only at the
top of its loop.  What decides is whether the back end has passed this test and
not yet taken the buffers.
-/

namespace Wethands
namespace Logger

open Foundation

namespace AsyncLogging

variable {ThreadId : Type} [DecidableEq ThreadId]

/-- The bytes in `buffers_` and `currentBuffer_`. -/
def Waits (log : AsyncLogging ThreadId) : Line :=
  (Contents log.buffers_).flatten ++ log.Current

/-- The back end has tested `running_` and will take the buffers. -/
def AboutToTake (log : AsyncLogging ThreadId) : Prop :=
  log.phase = Phase.lock ∨ log.phase = Phase.waiting

/--
All bytes that were appended have been taken, and the file got all buffers that
were not dropped.
-/
def NothingLost (tr : List Event) : Prop :=
  (HeldLines tr).flatten = (Batches tr).flatten.flatten ∧
    FileAppends tr = (Batches tr).flatMap Kept

/-- `running_` is false, nobody is inside `Append`, and the back end exists. -/
structure Stopping (log : AsyncLogging ThreadId) : Prop where
  running : log.running_ = false
  outside : forall tid, log.callers tid = none
  started : log.phase ≠ Phase.notStarted

/-!
# The rest of a run
-/

omit [DecidableEq ThreadId] in
theorem waits_eq {log next : AsyncLogging ThreadId}
    (hbuffers : next.buffers_ = log.buffers_)
    (hcurrent : next.currentBuffer_ = log.currentBuffer_) :
    next.Waits = log.Waits := by
  simp only [Waits, Current, hbuffers, hcurrent]

omit [DecidableEq ThreadId] in
theorem take_stopping {log next : AsyncLogging ThreadId} {es : List Event}
    (hgood : Good log) (hstopping : Stopping log)
    (hready : Ready log.newBuffer1 log.newBuffer2 log.buffersToWrite)
    (h : log.Take = Except.ok (next, es)) :
    Stopping next ∧ next.Waits = [] := by
  rcases take_effect hgood hready h with ⟨hphase, hrun, hcallers, _, hview⟩
  constructor
  · refine ⟨hrun.trans hstopping.running, ?_, ?_⟩
    · rw [hcallers]
      exact hstopping.outside
    · rw [hphase]
      exact Phase.noConfusion
  · have hwaiting := congrArg View.waiting hview
    have hcurrent := congrArg View.current hview
    simp only [ViewOf] at hwaiting hcurrent
    rw [Waits, hwaiting, hcurrent]
    rfl

omit [DecidableEq ThreadId] in
theorem threadFunc_aboutToTake {log next : AsyncLogging ThreadId}
    {es : List Event} (hgood : Good log) (hstopping : Stopping log)
    (habout : AboutToTake log) (h : log.ThreadFunc = Except.ok (next, es)) :
    Stopping next ∧ (AboutToTake next ∨ next.Waits = []) := by
  have hlocals := hgood.locals
  unfold ThreadFunc at h
  rcases habout with hphase | hphase
  · simp only [hphase, Locals] at h hlocals
    split at h
    · cases h
      constructor
      · exact ⟨hstopping.running, hstopping.outside, Phase.noConfusion⟩
      · exact Or.inl (Or.inr rfl)
    · rcases take_stopping hgood hstopping hlocals h with ⟨hnext, hempty⟩
      exact ⟨hnext, Or.inr hempty⟩
  · simp only [hphase, Locals] at h hlocals
    rcases take_stopping hgood hstopping hlocals h with ⟨hnext, hempty⟩
    exact ⟨hnext, Or.inr hempty⟩

omit [DecidableEq ThreadId] in
/-- Everywhere else the back end leaves the queue alone and finds the flag. -/
theorem threadFunc_past {log next : AsyncLogging ThreadId}
    {es : List Event} (hgood : Good log) (hstopping : Stopping log)
    (hpast : ¬AboutToTake log) (h : log.ThreadFunc = Except.ok (next, es)) :
    Stopping next ∧ ¬AboutToTake next ∧ next.Waits = log.Waits := by
  have hlocals := hgood.locals
  rcases hstopping with ⟨hrunning, houtside, hstarted⟩
  have hclose : forall phase, phase ≠ Phase.notStarted ->
      phase ≠ Phase.lock -> phase ≠ Phase.waiting -> next.phase = phase ->
      next.running_ = log.running_ -> next.callers = log.callers ->
      Stopping next ∧ ¬AboutToTake next := by
    intro phase hone htwo hthree hphase hrun hcallers
    refine ⟨⟨hrun.trans hrunning, ?_, ?_⟩, ?_⟩
    · rw [hcallers]
      exact houtside
    · rw [hphase]
      exact hone
    · rintro (hlock | hwaiting)
      · exact htwo (hphase.symm.trans hlock)
      · exact hthree (hphase.symm.trans hwaiting)
  unfold ThreadFunc at h
  cases hphase : log.phase with
  | notStarted => exact absurd hphase hstarted
  | lock => exact absurd (Or.inl hphase) hpast
  | waiting => exact absurd (Or.inr hphase) hpast
  | returned | joined =>
      simp only [hphase] at h
      cases h
  | starting =>
      simp only [hphase] at h
      cases h
      rcases hclose Phase.test Phase.noConfusion Phase.noConfusion
        Phase.noConfusion rfl rfl rfl with ⟨hnext, hnot⟩
      exact ⟨hnext, hnot, waits_eq rfl rfl⟩
  | test =>
      simp only [hphase, hrunning] at h
      cases h
      rcases hclose Phase.returned Phase.noConfusion Phase.noConfusion
        Phase.noConfusion rfl hrunning.symm rfl with ⟨hnext, hnot⟩
      exact ⟨hnext, hnot, waits_eq rfl rfl⟩
  | dropping =>
      simp only [hphase] at h
      cases h
      rcases hclose (Phase.writing 0) Phase.noConfusion Phase.noConfusion
        Phase.noConfusion rfl rfl rfl with ⟨hnext, hnot⟩
      exact ⟨hnext, hnot, waits_eq rfl rfl⟩
  | writing done =>
      simp only [hphase] at h
      split at h
      · cases h
        rcases hclose (Phase.writing (done + 1)) Phase.noConfusion
          Phase.noConfusion Phase.noConfusion rfl rfl rfl with ⟨hnext, hnot⟩
        exact ⟨hnext, hnot, waits_eq rfl rfl⟩
      · cases h
        rcases hclose Phase.recycling Phase.noConfusion Phase.noConfusion
          Phase.noConfusion rfl rfl rfl with ⟨hnext, hnot⟩
        exact ⟨hnext, hnot, waits_eq rfl rfl⟩
  | recycling =>
      simp only [hphase, Locals] at h hlocals
      rcases recycle_ok hlocals with
        ⟨other, hother, hbuffers, hcurrent, _, hrun, hcallers, htest, _⟩
      rw [h] at hother
      cases hother
      rcases hclose Phase.test Phase.noConfusion Phase.noConfusion
        Phase.noConfusion htest hrun hcallers with ⟨hnext, hnot⟩
      exact ⟨hnext, hnot, waits_eq hbuffers hcurrent⟩

theorem step_stopping {log next : AsyncLogging ThreadId} {i : Input ThreadId}
    {es : List Event} (hstopping : Stopping log)
    (h : (LogMachine ThreadId).Step log i = some (next, es)) :
    log.ThreadFunc = Except.ok (next, es) ∨
      log.phase = Phase.returned ∧
        next = { log with phase := Phase.joined } := by
  rcases hstopping with ⟨hrunning, houtside, hstarted⟩
  cases i with
  | start =>
      simp only [LogMachine, answer_eq_some, assert_eq_ok] at h
      rw [if_neg hstarted] at h
      cases h.2
  | append tid line =>
      simp [LogMachine, houtside tid, Assert, hrunning, Answer] at h
  | holds tid =>
      simp only [LogMachine, houtside tid] at h
      cases h
  | threadFunc =>
      simp only [LogMachine, answer_eq_some] at h
      exact Or.inl h
  | stop =>
      simp [LogMachine, Assert, hrunning, Answer] at h
  | stopReturns =>
      simp only [LogMachine] at h
      split at h
      · rename_i hreturned
        cases h
        exact Or.inr ⟨hreturned.2, rfl⟩
      · cases h

/-- Where the rest of the run may be, as the store of `Stop` decides it. -/
def Rest (stop log : AsyncLogging ThreadId) : Prop :=
  AboutToTake stop ∧ (AboutToTake log ∨ log.Waits = []) ∨
    ¬AboutToTake stop ∧ ¬AboutToTake log ∧ log.Waits = stop.Waits

theorem stop_step {stop stopping : AsyncLogging ThreadId} {es : List Event}
    (hgood : Good stop) (hcompleted : forall tid, stop.callers tid = none)
    (h : (LogMachine ThreadId).Step stop Input.stop = some (stopping, es)) :
    Stopping stopping ∧ Rest stop stopping := by
  have hlocals := hgood.locals
  simp only [LogMachine, answer_eq_some, assert_eq_ok] at h
  rcases h with ⟨hrunning, h⟩
  cases h
  constructor
  · refine ⟨rfl, hcompleted, ?_⟩
    intro hphase
    have hidle : stop.phase = Phase.notStarted := hphase
    rw [hidle, hrunning] at hlocals
    cases hlocals
  · by_cases habout : AboutToTake stop
    · exact Or.inl ⟨habout, Or.inl habout⟩
    · exact Or.inr ⟨habout, habout, rfl⟩

theorem step_rest {stop log next : AsyncLogging ThreadId}
    {i : Input ThreadId} {es : List Event} (hgood : Good log)
    (hstopping : Stopping log) (hrest : Rest stop log)
    (h : (LogMachine ThreadId).Step log i = some (next, es)) :
    Stopping next ∧ Rest stop next := by
  rcases step_stopping hstopping h with hback | ⟨hreturned, rfl⟩
  · by_cases habout : AboutToTake log
    · rcases threadFunc_aboutToTake hgood hstopping habout hback with
        ⟨hnext, hopen⟩
      refine ⟨hnext, ?_⟩
      rcases hrest with ⟨hstop, _⟩ | ⟨_, hnot, _⟩
      · exact Or.inl ⟨hstop, hopen⟩
      · exact absurd habout hnot
    · rcases threadFunc_past hgood hstopping habout hback with
        ⟨hnext, hpast, hwaits⟩
      refine ⟨hnext, ?_⟩
      rcases hrest with ⟨hstop, hopen | hempty⟩ | ⟨hstop, _, hsame⟩
      · exact absurd hopen habout
      · exact Or.inl ⟨hstop, Or.inr (hwaits.trans hempty)⟩
      · exact Or.inr ⟨hstop, hpast, hwaits.trans hsame⟩
  · constructor
    · exact ⟨hstopping.running, hstopping.outside, Phase.noConfusion⟩
    · have hnot : ¬AboutToTake log := by
        rintro (hlock | hwaiting)
        · cases hreturned.symm.trans hlock
        · cases hreturned.symm.trans hwaiting
      rcases hrest with ⟨hstop, hopen | hempty⟩ | ⟨hstop, _, hsame⟩
      · exact absurd hopen hnot
      · exact Or.inl ⟨hstop, Or.inr hempty⟩
      · refine Or.inr ⟨hstop, ?_, hsame⟩
        rintro (hlock | hwaiting)
        · cases hlock
        · cases hwaiting

/-!
# What `Stop` leaves behind
-/

omit [DecidableEq ThreadId] in
theorem nothingLost_iff_waits {log : AsyncLogging ThreadId} {tr : List Event}
    (hordered : Ordered (ViewOf log) tr) (hjoined : log.phase = Phase.joined) :
    NothingLost tr <-> log.Waits = [] := by
  rcases hordered with ⟨taken, waiting, current, hheld, hbatches, hwaiting,
    hcurrent, hwritten⟩
  have hunwritten : (ViewOf log).unwritten = [] := by
    simp only [ViewOf, Unwritten, hjoined]
  have hfile : FileAppends tr = (Batches tr).flatMap Kept := by
    rw [hunwritten, List.append_nil] at hwritten
    rw [hwritten, hbatches, List.map_flatMap, List.flatMap_map]
    congr 1
    funext batch
    exact map_kept List.flatten batch
  have hbytes : (HeldLines tr).flatten =
      (Batches tr).flatten.flatten ++ log.Waits := by
    have hwaits : log.Waits = (waiting ++ [current]).flatten.flatten := by
      show (ViewOf log).waiting.flatten ++ (ViewOf log).current = _
      rw [hwaiting, hcurrent]
      simp [List.flatten_flatten]
    have htaken : (taken.map (List.map List.flatten)).flatten.flatten =
        taken.flatten.flatten.flatten := by
      rw [← List.map_flatten, ← List.flatten_flatten]
    rw [hheld, hbatches, hwaits, htaken, List.append_assoc,
      List.flatten_append, List.flatten_append]
  constructor
  · intro hboth
    rcases hboth with ⟨hall, _⟩
    rw [hbytes] at hall
    simpa using hall
  · intro hnone
    rw [hnone, List.append_nil] at hbytes
    exact ⟨hbytes, hfile⟩

/--
A run in which all appends are done when `Stop` stores `running_`, up to the
return of `Stop`: nothing is lost exactly when the back end was about to take
the buffers, or nothing waited in them.
-/
theorem nothingLost_iff {before after : List (Input ThreadId)}
    {stop stopping last : AsyncLogging ThreadId} {tr es tr' : List Event}
    (hbefore : (LogMachine ThreadId).Run (New ThreadId) before =
      some (stop, tr))
    (hcompleted : forall tid, stop.callers tid = none)
    (hstop : (LogMachine ThreadId).Step stop Input.stop = some (stopping, es))
    (hafter : (LogMachine ThreadId).Run stopping after = some (last, tr'))
    (hjoined : last.phase = Phase.joined)
    (hshort : forall line, line ∈ HeldLines (tr ++ (es ++ tr')) ->
      line.length < kLargeBufferSize) :
    NothingLost (tr ++ (es ++ tr')) <-> AboutToTake stop ∨ stop.Waits = [] := by
  have hgood := run_good hbefore
  have hstopped := (step_moves hgood hstop).1
  rcases stop_step hgood hcompleted hstop with ⟨hstopping, hrest⟩
  have hlast : Good last ∧ Stopping last ∧ Rest stop last := by
    refine Machine.run_invariant
      (I := fun log _ => Good log ∧ Stopping log ∧ Rest stop log)
      ?_ (p := []) ⟨hstopped, hstopping, hrest⟩ hafter
    intro log _ i next es' hinv hstep
    rcases hinv with ⟨hkeeps, hflag, hopen⟩
    rcases step_rest hkeeps hflag hopen hstep with ⟨hnext, hrest'⟩
    exact ⟨(step_moves hkeeps hstep).1, hnext, hrest'⟩
  have hwhole : (LogMachine ThreadId).Run (New ThreadId)
      (before ++ Input.stop :: after) = some (last, tr ++ (es ++ tr')) :=
    Machine.run_append hbefore
      (Machine.run_cons_eq_some.mpr ⟨stopping, es, tr', hstop, hafter, rfl⟩)
  rw [nothingLost_iff_waits (run_keeps hwhole hshort).2 hjoined]
  have hnot : ¬AboutToTake last := by
    rintro (hlock | hwaiting)
    · cases hjoined.symm.trans hlock
    · cases hjoined.symm.trans hwaiting
  rcases hlast.2.2 with ⟨habout, hopen | hempty⟩ | ⟨hpast, _, hsame⟩
  · exact absurd hopen hnot
  · exact ⟨fun _ => Or.inl habout, fun _ => hempty⟩
  · rw [hsame]
    constructor
    · exact Or.inr
    · rintro (habout | hempty)
      · exact absurd habout hpast
      · exact hempty

/-- A line in the current buffer while the back end waits is written. -/
theorem nothingLost_of_waiting :
    exists stop stopping last : AsyncLogging Unit,
      exists tr es tr' : List Event,
        (LogMachine Unit).Run (New Unit)
          [Input.start, Input.threadFunc, Input.threadFunc, Input.threadFunc,
            Input.append () [65, 10], Input.holds ()] = some (stop, tr) ∧
        (LogMachine Unit).Step stop Input.stop = some (stopping, es) ∧
        (LogMachine Unit).Run stopping
          [Input.threadFunc, Input.threadFunc, Input.threadFunc,
            Input.threadFunc, Input.threadFunc, Input.threadFunc,
            Input.stopReturns] = some (last, tr') ∧
        FileAppends (tr ++ (es ++ tr')) = [[65, 10]] ∧
        NothingLost (tr ++ (es ++ tr')) := by
  have hrun : exists stop stopping last : AsyncLogging Unit,
      exists tr es tr' : List Event,
        (LogMachine Unit).Run (New Unit)
          [Input.start, Input.threadFunc, Input.threadFunc, Input.threadFunc,
            Input.append () [65, 10], Input.holds ()] = some (stop, tr) ∧
        (LogMachine Unit).Step stop Input.stop = some (stopping, es) ∧
        (LogMachine Unit).Run stopping
          [Input.threadFunc, Input.threadFunc, Input.threadFunc,
            Input.threadFunc, Input.threadFunc, Input.threadFunc,
            Input.stopReturns] = some (last, tr') ∧
        (forall tid, stop.callers tid = none) ∧
        stop.phase = Phase.waiting ∧ last.phase = Phase.joined ∧
        FileAppends (tr ++ (es ++ tr')) = [[65, 10]] ∧
        HeldLines (tr ++ (es ++ tr')) = [[65, 10]] :=
    ⟨_, _, _, _, _, _, rfl, rfl, rfl, fun _ => rfl, rfl, rfl, rfl, rfl⟩
  rcases hrun with ⟨stop, stopping, last, tr, es, tr', hbefore, hstop, hafter,
    hcallers, hphase, hjoined, hfile, hheld⟩
  refine ⟨stop, stopping, last, tr, es, tr', hbefore, hstop, hafter, hfile, ?_⟩
  apply (nothingLost_iff hbefore hcallers hstop hafter hjoined ?_).mpr
  · exact Or.inl (Or.inr hphase)
  · rw [hheld]
    decide

/-- `Stop` before the back end has entered its loop loses a line. -/
theorem line_lost_before_loop :
    exists stop stopping last : AsyncLogging Unit,
      exists tr es tr' : List Event,
        (LogMachine Unit).Run (New Unit)
          [Input.start, Input.threadFunc, Input.append () [65, 10],
            Input.holds ()] = some (stop, tr) ∧
        (forall tid, stop.callers tid = none) ∧
        (LogMachine Unit).Step stop Input.stop = some (stopping, es) ∧
        (LogMachine Unit).Run stopping [Input.threadFunc, Input.stopReturns] =
          some (last, tr') ∧
        last.phase = Phase.joined ∧
        HeldLines (tr ++ (es ++ tr')) = [[65, 10]] ∧
        FileAppends (tr ++ (es ++ tr')) = [] ∧
        ¬NothingLost (tr ++ (es ++ tr')) := by
  refine ⟨_, _, _, _, _, _, rfl, fun _ => rfl, rfl, rfl, rfl, rfl, rfl, ?_⟩
  intro hboth
  rcases hboth with ⟨hall, _⟩
  cases hall

end AsyncLogging
end Logger
end Wethands
