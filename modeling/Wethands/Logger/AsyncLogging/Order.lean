import Wethands.Logger.AsyncLogging.Model

/-!
# The order of the lines

Seen from outside, the log is a queue of filled buffers, a current buffer and
the buffers of a batch that are still to be written.  Every step of the model
moves lines between these three as a queue does.
-/

namespace Wethands
namespace Logger

open Foundation

namespace AsyncLogging

def Kept {α : Type} (batch : List α) : List α :=
  if 16 < batch.length then batch.take 2 else batch

theorem map_kept {α β : Type} (f : α -> β) (batch : List α) :
    (Kept batch).map f = Kept (batch.map f) := by
  unfold Kept
  rw [List.length_map]
  split
  · exact List.map_take
  · rfl

def Contents (buffers : BufferVector) : List Line :=
  buffers.map FixedBuffer.written

/-!
# The abstract queue
-/

structure View where
  waiting : List Line
  current : Line
  unwritten : List Line

def Quiet (es : List Event) : Prop :=
  es = [] ∨ es = [Event.stopping] ∨ es = [Event.stopped]

inductive Move : View -> View -> List Event -> Prop where
  | joined (view : View) (line : Line) :
      Move view { view with current := view.current ++ line }
        [Event.held line]
  | rotated (view : View) (line : Line) :
      Move view
        { view with
          waiting := view.waiting ++ [view.current]
          current := line }
        [Event.held line]
  | took (view : View) (h : view.unwritten = []) :
      Move view
        { waiting := []
          current := []
          unwritten := Kept (view.waiting ++ [view.current]) }
        [Event.took (view.waiting ++ [view.current])]
  | wrote (view : View) (bytes : Line) (rest : List Line)
      (h : view.unwritten = bytes :: rest) :
      Move view { view with unwritten := rest } [Event.fileAppend bytes]
  | rested (view : View) (es : List Event) (h : Quiet es) : Move view view es

/-!
# What the members and the locals keep
-/

variable {ThreadId : Type} [DecidableEq ThreadId]

def Unwritten (log : AsyncLogging ThreadId) : List Line :=
  match log.phase with
  | Phase.dropping => Kept (Contents log.buffersToWrite)
  | Phase.writing done => Contents (log.buffersToWrite.drop done)
  | _ => []

def Current (log : AsyncLogging ThreadId) : Line :=
  match log.currentBuffer_ with
  | none => []
  | some current => current.written

def ViewOf (log : AsyncLogging ThreadId) : View where
  waiting := Contents log.buffers_
  current := log.Current
  unwritten := log.Unwritten

def Fresh (buffer : BufferPtr) : Prop :=
  exists spare, buffer = some spare ∧ spare.written = []

def Clean (buffer : BufferPtr) : Prop :=
  forall spare, buffer = some spare -> spare.written = []

/-- The local variables of `ThreadFunc` before a batch is taken. -/
structure Ready (newBuffer1 newBuffer2 : BufferPtr) (batch : BufferVector) :
    Prop where
  first : Fresh newBuffer1
  second : Fresh newBuffer2
  batch_eq : batch = []

/-- The local variables of `ThreadFunc` while a batch is being written. -/
structure Busy (newBuffer2 : BufferPtr) (batch : BufferVector) : Prop where
  second : Clean newBuffer2
  some_buffer : 0 < batch.length
  two_buffers : newBuffer2 = none -> 1 < batch.length

def Locals (running : Bool) (newBuffer1 newBuffer2 : BufferPtr)
    (batch : BufferVector) : Phase -> Prop
  | Phase.notStarted => running = false
  | Phase.test | Phase.lock | Phase.waiting => Ready newBuffer1 newBuffer2 batch
  | Phase.dropping | Phase.writing _ | Phase.recycling => Busy newBuffer2 batch
  | Phase.starting | Phase.returned | Phase.joined => True

theorem Locals.stop {running : Bool} {newBuffer1 newBuffer2 : BufferPtr}
    {batch : BufferVector} {phase : Phase}
    (h : Locals running newBuffer1 newBuffer2 batch phase) :
    Locals false newBuffer1 newBuffer2 batch phase := by
  cases phase <;> first | exact h | rfl

/-- The invariant of the four buffer pointers and the two vectors. -/
structure Good (log : AsyncLogging ThreadId) : Prop where
  current : log.currentBuffer_ ≠ none
  next : Clean log.nextBuffer_
  used : log.nextBuffer_ = none -> 0 < log.buffers_.length
  locals : Locals log.running_ log.newBuffer1 log.newBuffer2
    log.buffersToWrite log.phase

omit [DecidableEq ThreadId] in
theorem good_new : Good (New ThreadId) where
  current := Option.some_ne_none _
  next := by
    intro spare hparts
    rcases hparts with ⟨⟩
    rfl
  used := by
    intro h
    cases h
  locals := rfl

omit [DecidableEq ThreadId] in
theorem Good.exists_current {log : AsyncLogging ThreadId} (h : Good log) :
    exists current, log.currentBuffer_ = some current :=
  Option.ne_none_iff_exists'.mp h.current

/-!
# What one step does
-/

def Event.Short : Event -> Prop
  | held line => line.length < kLargeBufferSize
  | _ => True

omit [DecidableEq ThreadId] in
theorem rotated_moves {log next : AsyncLogging ThreadId} {line : Line}
    {current fresh : Buffer} (hcurrent : log.currentBuffer_ = some current)
    (hfresh : fresh.written = []) (hline : line.length < kLargeBufferSize)
    (hbuffers : next.buffers_ = log.buffers_ ++ [current])
    (hnext : next.currentBuffer_ = some (fresh.Append line))
    (hunwritten : next.Unwritten = log.Unwritten) :
    Move (ViewOf log) (ViewOf next) [Event.held line] := by
  have hview : ViewOf next =
      { ViewOf log with
        waiting := (ViewOf log).waiting ++ [(ViewOf log).current]
        current := line } := by
    simp only [ViewOf, Current, hcurrent, hbuffers, hnext, hunwritten,
      FixedBuffer.written_append_of_empty hfresh hline, Contents,
      List.map_append, List.map_cons, List.map_nil]
  rw [hview]
  exact Move.rotated (ViewOf log) line

omit [DecidableEq ThreadId] in
theorem appendHolding_moves {log next : AsyncLogging ThreadId} {line : Line}
    {es : List Event} (hgood : Good log)
    (h : log.AppendHolding line = Except.ok (next, es)) :
    Good next ∧ (line.length < kLargeBufferSize ->
      Move (ViewOf log) (ViewOf next) es) := by
  rcases hgood.exists_current with ⟨current, hcurrent⟩
  have hmore : 0 < (log.buffers_ ++ [current]).length := by
    rw [List.length_append]
    exact Nat.succ_pos _
  simp only [AppendHolding, hcurrent] at h
  split at h
  · rename_i hspace
    cases h
    constructor
    · exact
        { current := Option.some_ne_none _
          next := hgood.next
          used := hgood.used
          locals := hgood.locals }
    · intro _
      have hview : (ViewOf log).current = current.written := by
        simp only [ViewOf, Current, hcurrent]
      have hjoin := Move.joined (ViewOf log) line
      rw [hview, ← FixedBuffer.written_append hspace] at hjoin
      exact hjoin
  · split at h
    · rename_i spare hspare
      cases h
      constructor
      · exact
          { current := Option.some_ne_none _
            next := by
              intro other hother
              cases hother
            used := fun _ => hmore
            locals := hgood.locals }
      · intro hline
        exact rotated_moves hcurrent (hgood.next spare hspare) hline rfl rfl rfl
    · rename_i hnone
      cases h
      constructor
      · exact
          { current := Option.some_ne_none _
            next := hgood.next
            used := fun _ => hmore
            locals := hgood.locals }
      · intro hline
        have hempty : (FixedBuffer.New kLargeBufferSize).written = [] := rfl
        exact rotated_moves hcurrent hempty hline rfl rfl rfl

omit [DecidableEq ThreadId] in
theorem take_keeps {log next : AsyncLogging ThreadId} {es : List Event}
    (hgood : Good log)
    (hready : Ready log.newBuffer1 log.newBuffer2 log.buffersToWrite)
    (h : log.Take = Except.ok (next, es)) : Good next := by
  rcases hgood.exists_current with ⟨current, hcurrent⟩
  rcases hready.first with ⟨spare, hspare, _⟩
  rcases hready.second with ⟨second, hsecond, hclean⟩
  have hlength : (log.buffers_ ++ [current]).length =
      log.buffers_.length + 1 := List.length_append
  have hfresh : log.newBuffer1 ≠ none := by
    rw [hspare]
    exact Option.some_ne_none _
  have hother : Clean log.newBuffer2 := by
    intro buffer hbuffer
    rw [hsecond] at hbuffer
    cases hbuffer
    exact hclean
  have hthere : log.newBuffer2 ≠ none := by
    rw [hsecond]
    exact Option.some_ne_none _
  have htaken : 0 < (log.buffers_ ++ [current]).length := by
    rw [hlength]
    exact Nat.succ_pos _
  cases hnext : log.nextBuffer_ with
  | some next =>
      simp only [Take, hcurrent, hnext] at h
      cases h
      have hkept : Clean (some next) := by
        rw [← hnext]
        exact hgood.next
      exact
        { current := hfresh
          next := hkept
          used := fun hnone => absurd hnone (Option.some_ne_none next)
          locals := ⟨hother, htaken, fun hnone => absurd hnone hthere⟩ }
  | none =>
      simp only [Take, hcurrent, hnext] at h
      cases h
      have hmoved : Clean none := by
        intro buffer hbuffer
        cases hbuffer
      have htwo : 1 < (log.buffers_ ++ [current]).length := by
        rw [hlength]
        exact Nat.succ_lt_succ (hgood.used hnext)
      exact
        { current := hfresh
          next := hother
          used := fun hnone => absurd hnone hthere
          locals := ⟨hmoved, htaken, fun _ => htwo⟩ }

omit [DecidableEq ThreadId] in
/-- What the batch takes, and that it leaves nothing behind. -/
theorem take_effect {log next : AsyncLogging ThreadId} {es : List Event}
    (hgood : Good log)
    (hready : Ready log.newBuffer1 log.newBuffer2 log.buffersToWrite)
    (h : log.Take = Except.ok (next, es)) :
    next.phase = Phase.dropping ∧ next.running_ = log.running_ ∧
      next.callers = log.callers ∧
      es = [Event.took ((ViewOf log).waiting ++ [(ViewOf log).current])] ∧
      ViewOf next =
        { waiting := []
          current := []
          unwritten := Kept ((ViewOf log).waiting ++ [(ViewOf log).current]) }
        := by
  rcases hgood.exists_current with ⟨current, hcurrent⟩
  rcases hready.first with ⟨spare, hspare, hempty⟩
  have hbatch := hready.batch_eq
  have hwaiting : (ViewOf log).waiting ++ [(ViewOf log).current] =
      Contents (log.buffers_ ++ [current]) := by
    simp only [ViewOf, Current, hcurrent, Contents, List.map_append,
      List.map_cons, List.map_nil]
  rw [hwaiting]
  cases hnext : log.nextBuffer_ with
  | some other =>
      simp only [Take, hcurrent, hnext] at h
      cases h
      refine ⟨rfl, rfl, rfl, rfl, ?_⟩
      simp only [ViewOf, Current, Unwritten, hbatch, hspare, hempty, Contents,
        List.map_nil]
  | none =>
      simp only [Take, hcurrent, hnext] at h
      cases h
      refine ⟨rfl, rfl, rfl, rfl, ?_⟩
      simp only [ViewOf, Current, Unwritten, hbatch, hspare, hempty, Contents,
        List.map_nil]

omit [DecidableEq ThreadId] in
theorem take_moves {log next : AsyncLogging ThreadId} {es : List Event}
    (hgood : Good log)
    (hready : Ready log.newBuffer1 log.newBuffer2 log.buffersToWrite)
    (hunwritten : log.Unwritten = [])
    (h : log.Take = Except.ok (next, es)) :
    Move (ViewOf log) (ViewOf next) es := by
  rcases take_effect hgood hready h with ⟨_, _, _, rfl, hview⟩
  rw [hview]
  exact Move.took (ViewOf log) hunwritten

omit [DecidableEq ThreadId] in
theorem rested_moves {log next : AsyncLogging ThreadId} {es : List Event}
    (hbuffers : next.buffers_ = log.buffers_)
    (hcurrent : next.currentBuffer_ = log.currentBuffer_)
    (hunwritten : next.Unwritten = log.Unwritten) (hes : Quiet es) :
    Move (ViewOf log) (ViewOf next) es := by
  have hview : ViewOf next = ViewOf log := by
    simp only [ViewOf, Current, hbuffers, hcurrent, hunwritten]
  rw [hview]
  exact Move.rested (ViewOf log) es hes

omit [DecidableEq ThreadId] in
theorem phase_moves {log : AsyncLogging ThreadId} {phase : Phase}
    (hgood : Good log)
    (hlocals : Locals log.running_ log.newBuffer1 log.newBuffer2
      log.buffersToWrite phase)
    (hbefore : log.Unwritten = [])
    (hafter : Unwritten { log with phase := phase } = []) :
    Good { log with phase := phase } ∧
      Move (ViewOf log) (ViewOf { log with phase := phase }) [] := by
  constructor
  · exact ⟨hgood.current, hgood.next, hgood.used, hlocals⟩
  · exact rested_moves rfl rfl (hafter.trans hbefore.symm) (Or.inl rfl)

theorem popBack_ok {buffers : BufferVector} (h : 0 < buffers.length) :
    exists last, PopBack buffers = Except.ok (last, buffers.dropLast) := by
  have hne : buffers ≠ [] := List.length_pos_iff.mp h
  refine ⟨buffers.getLast hne, ?_⟩
  rw [PopBack, List.getLast?_eq_getLast_of_ne_nil hne]

omit [DecidableEq ThreadId] in
theorem lt_length_drop {log : AsyncLogging ThreadId} {n : Nat} (hn : n < 2)
    (hlong : n < log.buffersToWrite.length) :
    n < log.Drop.buffersToWrite.length := by
  show n < (if _ then _ else _ : BufferVector).length
  split
  · rw [List.length_take]
    exact Nat.lt_min.mpr ⟨hn, hlong⟩
  · exact hlong

omit [DecidableEq ThreadId] in
theorem busy_of_drop {log : AsyncLogging ThreadId}
    (hbusy : Busy log.newBuffer2 log.buffersToWrite) :
    Busy log.Drop.newBuffer2 log.Drop.buffersToWrite where
  second := hbusy.second
  some_buffer := lt_length_drop (by decide) hbusy.some_buffer
  two_buffers := by
    intro hnone
    exact lt_length_drop (by decide) (hbusy.two_buffers hnone)

omit [DecidableEq ThreadId] in
/-- The back end always has the two buffers that it takes back. -/
theorem recycle_ok {log : AsyncLogging ThreadId}
    (hbusy : Busy log.newBuffer2 log.buffersToWrite) :
    exists next, log.Recycle = Except.ok (next, []) ∧
      next.buffers_ = log.buffers_ ∧
      next.currentBuffer_ = log.currentBuffer_ ∧
      next.nextBuffer_ = log.nextBuffer_ ∧ next.running_ = log.running_ ∧
      next.callers = log.callers ∧ next.phase = Phase.test ∧
      Ready next.newBuffer1 next.newBuffer2 next.buffersToWrite := by
  have hsome := hbusy.some_buffer
  have htwo := hbusy.two_buffers
  unfold Recycle
  generalize hold : (if 2 < log.buffersToWrite.length then
    log.buffersToWrite.take 2 else log.buffersToWrite) = old
  have hlength : 0 < old.length ∧
      (log.newBuffer2 = none -> 1 < old.length) := by
    rw [← hold]
    split
    · rw [List.length_take]
      omega
    · exact ⟨hsome, htwo⟩
  rcases popBack_ok hlength.1 with ⟨first, hfirst⟩
  simp only [hfirst]
  cases hsecond : log.newBuffer2 with
  | some second =>
      refine ⟨_, rfl, rfl, rfl, rfl, rfl, rfl, rfl, ⟨first.Reset, rfl, rfl⟩, ?_,
        rfl⟩
      exact ⟨second, rfl, hbusy.second second hsecond⟩
  | none =>
      have hrest : 0 < old.dropLast.length := by
        have hmore := hlength.2 hsecond
        rw [List.length_dropLast]
        omega
      rcases popBack_ok hrest with ⟨second, hpop⟩
      simp only [hpop]
      exact ⟨_, rfl, rfl, rfl, rfl, rfl, rfl, rfl, ⟨first.Reset, rfl, rfl⟩,
        ⟨second.Reset, rfl, rfl⟩, rfl⟩

omit [DecidableEq ThreadId] in
theorem threadFunc_moves {log next : AsyncLogging ThreadId} {es : List Event}
    (hgood : Good log) (h : log.ThreadFunc = Except.ok (next, es)) :
    Good next ∧ Move (ViewOf log) (ViewOf next) es := by
  have hlocals := hgood.locals
  have hnext := hgood.next
  have hused := hgood.used
  unfold ThreadFunc at h
  cases hphase : log.phase with
  | notStarted | returned | joined =>
      simp only [hphase] at h
      cases h
  | starting =>
      simp only [hphase] at h
      cases h
      constructor
      · exact ⟨hgood.current, hnext, hused,
          ⟨_, rfl, rfl⟩, ⟨_, rfl, rfl⟩, rfl⟩
      · refine rested_moves rfl rfl ?_ (Or.inl rfl)
        simp only [Unwritten, hphase]
  | test =>
      simp only [hphase, Locals] at h hlocals
      have hunwritten : log.Unwritten = [] := by
        simp only [Unwritten, hphase]
      split at h <;> cases h
      · exact phase_moves hgood hlocals hunwritten rfl
      · exact phase_moves hgood trivial hunwritten rfl
  | lock =>
      simp only [hphase, Locals] at h hlocals
      have hunwritten : log.Unwritten = [] := by
        simp only [Unwritten, hphase]
      split at h
      · cases h
        exact phase_moves hgood hlocals hunwritten rfl
      · exact ⟨take_keeps hgood hlocals h,
          take_moves hgood hlocals hunwritten h⟩
  | waiting =>
      simp only [hphase, Locals] at h hlocals
      have hunwritten : log.Unwritten = [] := by
        simp only [Unwritten, hphase]
      exact ⟨take_keeps hgood hlocals h,
        take_moves hgood hlocals hunwritten h⟩
  | dropping =>
      simp only [hphase, Locals] at h hlocals
      cases h
      constructor
      · exact ⟨hgood.current, hnext, hused, busy_of_drop hlocals⟩
      · refine rested_moves rfl rfl ?_ (Or.inl rfl)
        simp only [Unwritten, hphase, Drop, List.drop_zero, Contents,
          ← map_kept]
        rfl
  | writing done =>
      simp only [hphase, Locals] at h hlocals
      split at h
      · rename_i buffer hbuffer
        cases h
        constructor
        · exact ⟨hgood.current, hnext, hused, hlocals⟩
        · have hunwritten : (ViewOf log).unwritten =
              buffer.written ::
                Contents (log.buffersToWrite.drop (done + 1)) := by
            rcases List.getElem?_eq_some_iff.mp hbuffer with ⟨hlt, hget⟩
            simp only [ViewOf, Unwritten, hphase]
            rw [List.drop_eq_getElem_cons hlt, hget]
            rfl
          exact Move.wrote (ViewOf log) _ _ hunwritten
      · rename_i hnone
        cases h
        have hend := List.getElem?_eq_none_iff.mp hnone
        have hunwritten : log.Unwritten = [] := by
          simp only [Unwritten, hphase, List.drop_eq_nil_of_le hend, Contents,
            List.map_nil]
        exact phase_moves hgood hlocals hunwritten rfl
  | recycling =>
      simp only [hphase, Locals] at h hlocals
      rcases recycle_ok hlocals with
        ⟨other, hother, hbuffers, hcurrent, hspare, _, _, htest, hready⟩
      rw [h] at hother
      cases hother
      constructor
      · refine ⟨?_, ?_, ?_, ?_⟩
        · rw [hcurrent]
          exact hgood.current
        · rw [hspare]
          exact hnext
        · rw [hspare, hbuffers]
          exact hused
        · rw [htest]
          exact hready
      · refine rested_moves hbuffers hcurrent ?_ (Or.inl rfl)
        simp only [Unwritten, hphase, htest]

omit [DecidableEq ThreadId] in
theorem threadFunc_ok {log : AsyncLogging ThreadId} (hgood : Good log)
    (hstarted : log.phase ≠ Phase.notStarted)
    (hreturned : log.phase ≠ Phase.returned)
    (hjoined : log.phase ≠ Phase.joined) :
    exists next es, log.ThreadFunc = Except.ok (next, es) := by
  have hlocals := hgood.locals
  rcases hgood.exists_current with ⟨current, hcurrent⟩
  have htake : exists next es, log.Take = Except.ok (next, es) := by
    simp only [Take, hcurrent]
    exact ⟨_, _, rfl⟩
  unfold ThreadFunc
  cases hphase : log.phase with
  | notStarted => exact absurd hphase hstarted
  | returned => exact absurd hphase hreturned
  | joined => exact absurd hphase hjoined
  | starting | dropping => exact ⟨_, _, rfl⟩
  | test => dsimp only; split <;> exact ⟨_, _, rfl⟩
  | lock =>
      dsimp only
      split
      · exact ⟨_, _, rfl⟩
      · exact htake
  | waiting => exact htake
  | writing done => dsimp only; split <;> exact ⟨_, _, rfl⟩
  | recycling =>
      rw [hphase] at hlocals
      rcases recycle_ok hlocals with ⟨next, hnext, _⟩
      exact ⟨next, [], hnext⟩

omit [DecidableEq ThreadId] in
theorem held_of_appendHolding {log next : AsyncLogging ThreadId} {line : Line}
    {es : List Event} (h : log.AppendHolding line = Except.ok (next, es)) :
    es = [Event.held line] := by
  unfold AppendHolding at h
  split at h
  · cases h
  · split at h
    · cases h
      rfl
    · split at h <;> cases h <;> rfl

theorem step_moves {log next : AsyncLogging ThreadId} {i : Input ThreadId}
    {es : List Event} (hgood : Good log)
    (h : (LogMachine ThreadId).Step log i = some (next, es)) :
    Good next ∧ ((forall e, e ∈ es -> e.Short) ->
      Move (ViewOf log) (ViewOf next) es) := by
  cases i with
  | start =>
      simp only [LogMachine, answer_eq_some, assert_eq_ok] at h
      rcases h with ⟨_, h⟩
      split at h
      · rename_i hphase
        cases h
        constructor
        · exact ⟨hgood.current, hgood.next, hgood.used, trivial⟩
        · intro _
          refine rested_moves rfl rfl ?_ (Or.inl rfl)
          simp only [Unwritten, hphase]
      · cases h
  | append tid line =>
      simp only [LogMachine] at h
      split at h
      · cases h
      · simp only [answer_eq_some, assert_eq_ok] at h
        rcases h with ⟨_, h⟩
        cases h
        constructor
        · exact ⟨hgood.current, hgood.next, hgood.used, hgood.locals⟩
        · exact fun _ => rested_moves rfl rfl rfl (Or.inl rfl)
  | holds tid =>
      simp only [LogMachine] at h
      split at h
      · cases h
      · rename_i line hline
        rw [answer_eq_some] at h
        have hes := held_of_appendHolding h
        have hother : Good { log with
            callers := Function.update log.callers tid none } :=
          ⟨hgood.current, hgood.next, hgood.used, hgood.locals⟩
        rcases appendHolding_moves hother h with ⟨hnext, hmoves⟩
        refine ⟨hnext, fun hshort => hmoves ?_⟩
        apply hshort (Event.held line)
        rw [hes]
        exact List.mem_singleton_self _
  | threadFunc =>
      simp only [LogMachine, answer_eq_some] at h
      rcases threadFunc_moves hgood h with ⟨hnext, hmoves⟩
      exact ⟨hnext, fun _ => hmoves⟩
  | stop =>
      simp only [LogMachine, answer_eq_some, assert_eq_ok] at h
      rcases h with ⟨_, h⟩
      cases h
      constructor
      · exact ⟨hgood.current, hgood.next, hgood.used, hgood.locals.stop⟩
      · exact fun _ => rested_moves rfl rfl rfl (Or.inr (Or.inl rfl))
  | stopReturns =>
      simp only [LogMachine] at h
      split at h
      · rename_i hreturned
        cases h
        constructor
        · exact ⟨hgood.current, hgood.next, hgood.used, trivial⟩
        · intro _
          refine rested_moves rfl rfl ?_ (Or.inr (Or.inr rfl))
          simp only [Unwritten, hreturned.2]
      · cases h

/-!
# Lines in a trace
-/

def Event.Held : Event -> List Line
  | held line => [line]
  | _ => []

def Event.Batch : Event -> List (List Line)
  | took batch => [batch]
  | _ => []

def Event.Written : Event -> List Line
  | fileAppend bytes => [bytes]
  | _ => []

/-- The appended lines, in the order in which the calls held `lock_`. -/
def HeldLines (tr : List Event) : List Line :=
  tr.flatMap Event.Held

def Batches (tr : List Event) : List (List Line) :=
  tr.flatMap Event.Batch

/-- What `LogFile::Append` was called with, call by call. -/
def FileAppends (tr : List Event) : List Line :=
  tr.flatMap Event.Written

/--
Lines are grouped into buffers and buffers into batches: the batches taken,
the buffers waiting and the current buffer, which together are all lines in
order.  A batch is written in full or up to its second buffer.
-/
def Ordered (view : View) (tr : List Event) : Prop :=
  exists taken : List (List (List Line)),
    exists waiting : List (List Line), exists current : List Line,
      HeldLines tr = (taken.flatten ++ waiting ++ [current]).flatten ∧
      Batches tr = taken.map (List.map List.flatten) ∧
      view.waiting = waiting.map List.flatten ∧
      view.current = current.flatten ∧
      FileAppends tr ++ view.unwritten =
        (taken.flatMap Kept).map List.flatten

theorem quiet_lines {es : List Event} (h : Quiet es) :
    es.flatMap Event.Held = [] ∧ es.flatMap Event.Batch = [] ∧
      es.flatMap Event.Written = [] := by
  rcases h with rfl | rfl | rfl <;> exact ⟨rfl, rfl, rfl⟩

theorem ordered_start :
    Ordered { waiting := [], current := [], unwritten := [] } [] :=
  ⟨[], [], [], rfl, rfl, rfl, rfl, rfl⟩

theorem move_ordered {view next : View} {tr es : List Event}
    (h : Ordered view tr) (hmove : Move view next es) :
    Ordered next (tr ++ es) := by
  rcases h with ⟨taken, waiting, current, hheld, hbatches, hwaiting, hcurrent,
    hwritten⟩
  unfold Ordered
  simp only [HeldLines, Batches, FileAppends, List.flatMap_append] at *
  cases hmove with
  | joined line =>
      refine ⟨taken, waiting, current ++ [line], ?_, ?_, hwaiting, ?_, ?_⟩
      · simp [hheld, Event.Held]
      · simp [hbatches, Event.Batch]
      · simp [hcurrent]
      · simpa [Event.Written] using hwritten
  | rotated line =>
      refine ⟨taken, waiting ++ [current], [line], ?_, ?_, ?_, ?_, ?_⟩
      · simp [hheld, Event.Held]
      · simp [hbatches, Event.Batch]
      · simp [hwaiting, hcurrent]
      · simp
      · simpa [Event.Written] using hwritten
  | took hdone =>
      refine ⟨taken ++ [waiting ++ [current]], [], [], ?_, ?_, ?_, ?_, ?_⟩
      · simp [hheld, Event.Held]
      · simp [hbatches, Event.Batch, hwaiting, hcurrent]
      · simp
      · simp
      · rw [hdone, List.append_nil] at hwritten
        have hbatch : view.waiting ++ [view.current] =
            (waiting ++ [current]).map List.flatten := by
          simp [hwaiting, hcurrent]
        rw [hwritten, hbatch, ← map_kept]
        simp [Event.Written]
  | wrote bytes rest hrest =>
      refine ⟨taken, waiting, current, ?_, ?_, hwaiting, hcurrent, ?_⟩
      · simp [hheld, Event.Held]
      · simp [hbatches, Event.Batch]
      · rw [← hwritten, hrest]
        simp [Event.Written]
  | rested es hquiet =>
      rcases quiet_lines hquiet with ⟨hnoline, hnobatch, hnowrite⟩
      rw [hnoline, hnobatch, hnowrite]
      simp only [List.append_nil]
      exact ⟨taken, waiting, current, hheld, hbatches, hwaiting, hcurrent,
        hwritten⟩

theorem short_of_mem {tr : List Event}
    (h : forall line, line ∈ HeldLines tr -> line.length < kLargeBufferSize) :
    forall e, e ∈ tr -> e.Short := by
  intro e he
  cases e with
  | held line =>
      apply h line
      exact List.mem_flatMap.mpr ⟨_, he, List.mem_singleton_self line⟩
  | took _ | fileAppend _ | stopping | stopped => trivial

theorem run_good {inputs : List (Input ThreadId)}
    {log : AsyncLogging ThreadId} {tr : List Event}
    (hrun : (LogMachine ThreadId).Run (New ThreadId) inputs =
      some (log, tr)) : Good log :=
  Machine.run_invariant (I := fun log _ => Good log) (p := [])
    (fun _ _ _ _ _ hgood hstep => (step_moves hgood hstep).1) good_new hrun

theorem run_keeps {inputs : List (Input ThreadId)}
    {log : AsyncLogging ThreadId} {tr : List Event}
    (hrun : (LogMachine ThreadId).Run (New ThreadId) inputs = some (log, tr))
    (hshort : forall line, line ∈ HeldLines tr ->
      line.length < kLargeBufferSize) :
    Good log ∧ Ordered (ViewOf log) tr := by
  have hlast := Machine.run_invariant_of_events
    (I := fun log tr => Good log ∧ Ordered (ViewOf log) tr)
    (A := Event.Short) ?_ (p := []) ⟨good_new, ordered_start⟩
    (short_of_mem hshort) hrun
  · exact hlast
  · intro log tr i next es hinv hallowed hstep
    rcases step_moves hinv.1 hstep with ⟨hgood, hmoves⟩
    exact ⟨hgood, move_ordered hinv.2 (hmoves hallowed)⟩

/--
In every run the batches, the queue and the current buffer hold whole lines in
the order in which the calls of `Append` held `lock_`, each line once.  The
file got the buffers of the batches in order, and of a batch of more than 16
the first two.
-/
theorem lines_ordered {inputs : List (Input ThreadId)}
    {log : AsyncLogging ThreadId} {tr : List Event}
    (hrun : (LogMachine ThreadId).Run (New ThreadId) inputs = some (log, tr))
    (hshort : forall line, line ∈ HeldLines tr ->
      line.length < kLargeBufferSize) :
    exists taken : List (List (List Line)),
      exists waiting : List (List Line), exists current : List Line,
        HeldLines tr = (taken.flatten ++ waiting ++ [current]).flatten ∧
        Batches tr = taken.map (List.map List.flatten) ∧
        Contents log.buffers_ = waiting.map List.flatten ∧
        log.currentBuffer_.map FixedBuffer.written = some current.flatten ∧
        FileAppends tr ++ log.Unwritten =
          (taken.flatMap Kept).map List.flatten := by
  rcases run_keeps hrun hshort with
    ⟨hgood, taken, waiting, current, hheld, hbatches, hwaiting, hcurrent,
      hwritten⟩
  rcases hgood.exists_current with ⟨buffer, hbuffer⟩
  refine ⟨taken, waiting, current, hheld, hbatches, hwaiting, ?_, hwritten⟩
  rw [hbuffer, Option.map_some, ← hcurrent]
  simp only [ViewOf, Current, hbuffer]

def TwoThreads : List (Input Bool) :=
  [Input.start, Input.append true [1, 10], Input.threadFunc, Input.holds true,
    Input.append false [2, 10], Input.threadFunc, Input.threadFunc,
    Input.threadFunc, Input.append true [3, 10], Input.holds true,
    Input.holds false, Input.threadFunc, Input.threadFunc]

theorem lines_ordered_of_two_threads :
    exists log : AsyncLogging Bool,
      exists taken : List (List (List Line)),
        exists waiting : List (List Line), exists current : List Line,
          [[1, 10], [3, 10], [2, 10]] =
            (taken.flatten ++ waiting ++ [current]).flatten ∧
          [[[1, 10]]] = taken.map (List.map List.flatten) ∧
          Contents log.buffers_ = waiting.map List.flatten ∧
          log.currentBuffer_.map FixedBuffer.written = some current.flatten ∧
          [[1, 10]] ++ log.Unwritten =
            (taken.flatMap Kept).map List.flatten := by
  rcases (LogMachine Bool).exists_run (fun _ => ())
      (show ((LogMachine Bool).Run (New Bool) TwoThreads).map
        (fun last => ((), last.2)) =
          some ((), [Event.held [1, 10], Event.took [[1, 10]],
            Event.held [3, 10], Event.held [2, 10],
            Event.fileAppend [1, 10]]) by decide +kernel) with
    ⟨log, hrun, _⟩
  exact ⟨log, lines_ordered hrun (by decide)⟩

end AsyncLogging
end Logger
end Wethands
