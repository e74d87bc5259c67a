import Wethands.Net.TcpConnection.LoopWork

/-!
# What the user is told about the output

A high-water notice is queued when the bytes that wait reach the mark from
below, and it comes once for each time.  A write-complete notice comes when
bytes went out and none wait any more.  And what is read from the socket comes
out of the input buffer in its order.
-/

namespace Wethands
namespace Net

open Foundation

namespace TcpConnection

def Event.Mark? : Event -> Option Nat
  | Event.called (Callback.highWaterMark bytes) => some bytes
  | _ => none

def Functor.Mark? : Functor -> Option Nat
  | Functor.highWaterMarkCallback bytes => some bytes
  | _ => none

def Marked (tr : List Event) : List Nat := tr.filterMap Event.Mark?

def Marks (functors : List Functor) : List Nat :=
  functors.filterMap Functor.Mark?

theorem marked_append (tr es : List Event) :
    Marked (tr ++ es) = Marked tr ++ Marked es :=
  List.filterMap_append

theorem marks_append (functors more : List Functor) :
    Marks (functors ++ more) = Marks functors ++ Marks more :=
  List.filterMap_append

def Crossing (conn next : TcpConnection) : List Nat :=
  if conn.outputBuffer_.ReadableBytes < conn.highWaterMark_ ∧
      conn.highWaterMark_ ≤ next.outputBuffer_.ReadableBytes ∧
      conn.highWaterMarkCallback_ = true then
    [next.outputBuffer_.ReadableBytes]
  else []

theorem crossing_of_le {conn next : TcpConnection}
    (h : next.outputBuffer_.ReadableBytes ≤
      conn.outputBuffer_.ReadableBytes) : Crossing conn next = [] := by
  refine if_neg ?_
  intro hcrossing
  rcases hcrossing with ⟨hbelow, habove, _⟩
  exact absurd (Nat.le_trans habove h) (Nat.not_le.mpr hbelow)

def Event.Still : Event -> Prop
  | Event.accepted _ => False
  | Event.called Callback.writeComplete => False
  | Event.called (Callback.highWaterMark _) => False
  | _ => True

variable {ThreadId : Type}

def Retrieves (world : World ThreadId) : Input ThreadId -> List Byte
  | Input.api (Api.retrieve len) => world.conn.inputBuffer_.Readable.take len
  | _ => []

structure Still (world next : World ThreadId) (es : List Event) : Prop where
  inputBuffer_ : next.conn.inputBuffer_ = world.conn.inputBuffer_
  outputBuffer_ : next.conn.outputBuffer_ = world.conn.outputBuffer_
  marks : Marks next.pendingFunctors_ = Marks world.pendingFunctors_
  events : forall e, e ∈ es -> e.Still

def StaysStill (world : World ThreadId)
    (call : Call (World ThreadId) Event) : Prop :=
  Yields call (fun next es => Still world next es)

structure Reports (brought retrieved : List Byte)
    (world next : World ThreadId) (es : List Event) : Prop where
  input : world.conn.inputBuffer_.Readable ++ brought =
    retrieved ++ next.conn.inputBuffer_.Readable
  marks : Marked es ++ Marks next.pendingFunctors_ =
    Marks world.pendingFunctors_ ++ Crossing world.conn next.conn
  complete : Event.called Callback.writeComplete ∈ es <->
    world.conn.writeCompleteCallback_ = true ∧
      (exists bytes, Event.accepted bytes ∈ es) ∧
      next.conn.outputBuffer_.Readable = []
  once : es.count (Event.called Callback.writeComplete) ≤ 1

variable {world mid next : World ThreadId}

/-!
# Calls that leave the buffers alone
-/

theorem marked_of_still {es : List Event} (h : forall e, e ∈ es -> e.Still) :
    Marked es = [] := by
  refine List.filterMap_eq_nil_iff.mpr (fun e he => ?_)
  have hstill := h e he
  cases e with
  | called callback =>
      cases callback with
      | highWaterMark bytes => exact absurd hstill id
      | _ => rfl
  | _ => rfl

theorem staysStill_ok {es : List Event}
    (hinput : next.conn.inputBuffer_ = world.conn.inputBuffer_)
    (houtput : next.conn.outputBuffer_ = world.conn.outputBuffer_)
    (hmarks : Marks next.pendingFunctors_ = Marks world.pendingFunctors_)
    (hes : forall e, e ∈ es -> e.Still) :
    StaysStill world (Except.ok (next, es)) :=
  yields_ok.mpr ⟨hinput, houtput, hmarks, hes⟩

theorem staysStill_refl (world : World ThreadId) :
    StaysStill world (Except.ok (world, [])) :=
  staysStill_ok rfl rfl rfl (by simp)

theorem staysStill_error (failure : Failure) :
    StaysStill world (Except.error failure) :=
  yields_error

theorem StaysStill.of_same {call : Call (World ThreadId) Event}
    (h : StaysStill mid call)
    (hinput : mid.conn.inputBuffer_ = world.conn.inputBuffer_)
    (houtput : mid.conn.outputBuffer_ = world.conn.outputBuffer_)
    (hmarks : Marks mid.pendingFunctors_ = Marks world.pendingFunctors_) :
    StaysStill world call :=
  Yields.mono h (fun _ _ hstill =>
    ⟨hstill.inputBuffer_.trans hinput, hstill.outputBuffer_.trans houtput,
      hstill.marks.trans hmarks, hstill.events⟩)

theorem staysStill_then {es : List Event}
    {second : World ThreadId -> Call (World ThreadId) Event}
    (hes : forall e, e ∈ es -> e.Still)
    (h : StaysStill world (second mid)) :
    StaysStill world (Then (Except.ok (mid, es)) second) := by
  refine Yields.in_turn (yields_ok.mpr ?_)
  refine Yields.mono h (fun last es' hstill => ?_)
  refine ⟨hstill.inputBuffer_, hstill.outputBuffer_, hstill.marks, ?_⟩
  intro e he
  rcases List.mem_append.mp he with he | he
  · exact hes e he
  · exact hstill.events e he

theorem marks_queueInLoop {functor : Functor} (h : functor.Mark? = none) :
    Marks (QueueInLoop world functor).pendingFunctors_ =
      Marks world.pendingFunctors_ := by
  show Marks (world.pendingFunctors_ ++ [functor]) = _
  rw [marks_append]
  simp [Marks, h]

theorem staysStill_queueInLoop {functor : Functor}
    (h : functor.Mark? = none) :
    StaysStill world (Except.ok (QueueInLoop world functor, [])) :=
  staysStill_ok rfl rfl (marks_queueInLoop h) (by simp)

theorem staysStill_invoke {callback : Callback} (frame : Frame)
    (h : (Event.called callback).Still) :
    StaysStill world (Invoke world callback frame) :=
  staysStill_ok rfl rfl rfl (by simpa using h)

theorem staysStill_shutdownInLoop (world : World ThreadId) :
    StaysStill world (ShutdownInLoop world) := by
  unfold ShutdownInLoop
  split
  · exact staysStill_ok rfl rfl rfl (by simp [Event.Still])
  · exact staysStill_ok rfl rfl rfl (by simp [Event.Still])

theorem staysStill_handleWriteCompleted (world : World ThreadId) :
    StaysStill world (HandleWriteCompleted world) := by
  unfold HandleWriteCompleted
  split
  · exact staysStill_shutdownInLoop world
  · exact staysStill_refl world

theorem staysStill_connectionDestroyed (world : World ThreadId) :
    StaysStill world (ConnectionDestroyed world) := by
  refine Yields.assert (fun _ => ?_)
  split
  · exact staysStill_error _
  · refine StaysStill.of_same (staysStill_invoke _ ?_) rfl rfl rfl
    exact trivial

theorem staysStill_handleClose (world : World ThreadId) :
    StaysStill world (HandleClose world) := by
  refine Yields.assert (fun _ => staysStill_then (by simp [Event.Still]) ?_)
  refine staysStill_then (by simp [Event.Still]) ?_
  refine staysStill_then (by simp [Event.Still]) ?_
  split
  · exact (staysStill_connectionDestroyed _).of_same rfl rfl rfl
  · exact staysStill_ok rfl rfl rfl (by simp)

theorem staysStill_forceCloseInLoop (world : World ThreadId) :
    StaysStill world (ForceCloseInLoop world) := by
  unfold ForceCloseInLoop
  split
  · exact staysStill_handleClose world
  · exact staysStill_refl world

theorem staysStill_forceClose (world : World ThreadId) :
    StaysStill world (ForceClose world) := by
  unfold ForceClose
  split
  · refine staysStill_then (by simp [Event.Still]) ?_
    exact (staysStill_forceCloseInLoop _).of_same rfl rfl rfl
  · exact staysStill_refl world

theorem staysStill_shutdown (world : World ThreadId) :
    StaysStill world (Shutdown world) := by
  unfold Shutdown
  split
  · refine staysStill_then (by simp [Event.Still]) ?_
    refine staysStill_then (by simp [Event.Still]) ?_
    exact (staysStill_shutdownInLoop _).of_same rfl rfl rfl
  · exact staysStill_refl world

theorem staysStill_removeConnectionInLoop (world : World ThreadId) :
    StaysStill world (RemoveConnectionInLoop world) := by
  unfold RemoveConnectionInLoop
  split
  · exact staysStill_error _
  · exact (staysStill_queueInLoop rfl).of_same rfl rfl rfl

theorem staysStill_connectionEstablished (world : World ThreadId) :
    StaysStill world (ConnectionEstablished world) := by
  refine Yields.assert (fun _ => staysStill_then (by simp [Event.Still]) ?_)
  refine StaysStill.of_same (staysStill_invoke _ ?_) rfl rfl rfl
  exact trivial

theorem staysStill_startReadInLoop (world : World ThreadId) :
    StaysStill world (Except.ok (StartReadInLoop world, [])) := by
  unfold StartReadInLoop
  split <;> exact staysStill_ok rfl rfl rfl (by simp)

theorem staysStill_stopReadInLoop (world : World ThreadId) :
    StaysStill world (Except.ok (StopReadInLoop world, [])) := by
  unfold StopReadInLoop
  split <;> exact staysStill_ok rfl rfl rfl (by simp)

section Threads

variable [DecidableEq ThreadId]

theorem staysStill_remoteCall (world : World ThreadId) (tid : ThreadId)
    (api : RemoteApi) : StaysStill world (RemoteCall world tid api) := by
  cases api with
  | send | forceClose =>
      simp only [RemoteCall]
      split <;> exact staysStill_ok rfl rfl rfl (by simp)
  | shutdown =>
      simp only [RemoteCall]
      split
      · exact staysStill_ok rfl rfl rfl (by simp [Event.Still])
      · exact staysStill_refl world
  | startRead | stopRead => exact staysStill_queueInLoop rfl

theorem staysStill_remoteNext (world : World ThreadId) (tid : ThreadId) :
    StaysStill world (RemoteNext world tid) := by
  unfold RemoteNext
  split
  case h_1 => exact staysStill_error _
  case h_3 | h_5 => exact staysStill_ok rfl rfl rfl (by simp [Event.Still])
  case h_2 | h_4 | h_6 =>
      exact (staysStill_queueInLoop rfl).of_same rfl rfl rfl

end Threads

/-!
# Sending and writing
-/

/-- A notice that is not given is given at most once. -/
theorem count_le_one {e : Event} {es : List Event} (h : e ∉ es) :
    es.count e ≤ 1 := by
  rw [List.count_eq_zero_of_not_mem h]
  exact Nat.zero_le 1

theorem Still.reports {es : List Event} (h : Still world next es) :
    Reports [] [] world next es where
  input := by rw [h.inputBuffer_, List.append_nil, List.nil_append]
  marks := by
    rw [marked_of_still h.events, h.marks, crossing_of_le, List.append_nil,
      List.nil_append]
    rw [h.outputBuffer_]
  complete := by
    refine iff_of_false (fun hmem => h.events _ hmem) ?_
    intro hboth
    rcases hboth.2.1 with ⟨bytes, hmem⟩
    exact h.events _ hmem
  once := count_le_one (fun hmem => h.events _ hmem)

theorem marks_appendRemaining (world : World ThreadId)
    (remaining : List Byte) :
    Marks (AppendRemaining world remaining).pendingFunctors_ =
      Marks world.pendingFunctors_ ++
        Crossing world.conn (AppendRemaining world remaining).conn := by
  have hbytes : (AppendRemaining world
      remaining).conn.outputBuffer_.ReadableBytes =
        world.conn.outputBuffer_.ReadableBytes + remaining.length := by
    rw [← Buffer.length_readable, ← Buffer.length_readable]
    show (world.conn.outputBuffer_.Append remaining).Readable.length = _
    rw [Buffer.readable_append, List.length_append]
  rw [Crossing, hbytes]
  unfold AppendRemaining
  dsimp only
  split
  · rename_i hmarked
    rw [if_pos ⟨hmarked.2.1, hmarked.1, hmarked.2.2⟩]
    exact marks_append _ _
  · rename_i hunmarked
    rw [if_neg (fun h => hunmarked ⟨h.2.1, h.1, h.2.2⟩), List.append_nil]

theorem reports_appendRemaining {remaining : List Byte} {es : List Event}
    (hmarked : Marked es = [])
    (hquiet : Event.called Callback.writeComplete ∉ es)
    (hleft : world.conn.writeCompleteCallback_ = true ->
      (exists bytes, Event.accepted bytes ∈ es) ->
        (world.conn.outputBuffer_.Append remaining).Readable ≠ []) :
    Reports [] [] world (AppendRemaining world remaining) es where
  input := by
    rw [List.append_nil, List.nil_append]
    unfold AppendRemaining
    dsimp only
    split <;> rfl
  marks := by rw [hmarked, List.nil_append, marks_appendRemaining]
  complete := by
    refine iff_of_false hquiet ?_
    intro hall
    rcases hall with ⟨hset, haccepted, hempty⟩
    exact hleft hset haccepted hempty
  once := count_le_one hquiet

theorem reports_directWrite {data : List Byte} {result : WriteResult}
    {first : List Event} (hidle : world.conn.outputBuffer_.Readable = [])
    (hfirst : forall e, e ∈ first -> e.Still) :
    Yields (DirectWrite world data result)
      (fun next es => Reports [] [] world next (first ++ es)) := by
  have hquiet : Event.called Callback.writeComplete ∉ first :=
    fun hmem => hfirst _ hmem
  have hnone : forall bytes, Event.accepted bytes ∉ first :=
    fun bytes hmem => hfirst _ hmem
  cases result with
  | wrote n =>
      refine Yields.only_if (fun hle => ?_)
      split
      · rename_i hdone
        refine Yields.in_turn (yields_ok.mpr (yields_ok.mpr ?_))
        refine ⟨List.append_nil _, ?_, ?_, ?_⟩
        · rw [marked_append, marked_of_still hfirst,
            crossing_of_le (Nat.le_refl _), List.append_nil]
          rfl
        · refine iff_of_true (by simp) ⟨hdone.2, ⟨data.take n, ?_⟩, hidle⟩
          simp
        · rw [List.count_append, List.count_eq_zero_of_not_mem hquiet]
          simp
      · rename_i hpart
        refine yields_ok.mpr (reports_appendRemaining ?_ ?_ ?_)
        · rw [marked_append, marked_of_still hfirst]
          rfl
        · simpa using hquiet
        · intro hset _ hempty
          apply hpart
          rw [Buffer.readable_append, hidle, List.nil_append,
            List.drop_eq_nil_iff] at hempty
          exact ⟨Nat.sub_eq_zero_of_le hempty, hset⟩
  | failed errno =>
      cases errno with
      | other => exact yields_error
      | EPIPE | EINTR | EWOULDBLOCK =>
          refine yields_ok.mpr (reports_appendRemaining ?_ ?_ ?_)
          · rw [List.append_nil]
            exact marked_of_still hfirst
          · rwa [List.append_nil]
          · intro _ haccepted
            rcases haccepted with ⟨bytes, hmem⟩
            rw [List.append_nil] at hmem
            exact absurd hmem (hnone bytes)

theorem reports_sendInLoop (world : World ThreadId) (data : List Byte)
    (result : WriteResult) :
    Yields (SendInLoop world data result)
      (fun next es => Reports [] [] world next es) := by
  unfold SendInLoop
  split
  · exact Yields.mono (staysStill_refl world) (fun _ _ h => h.reports)
  · split
    · rename_i hidle
      refine Yields.in_turn (yields_ok.mpr (reports_directWrite ?_ ?_))
      · exact readableBytes_eq_zero.mp hidle.2
      · simp [Event.Still]
    · refine yields_ok.mpr (reports_appendRemaining rfl (by simp) ?_)
      intro _ haccepted
      simp at haccepted

theorem reports_send (world : World ThreadId) (data : List Byte)
    (result : WriteResult) :
    Yields (Send world data result)
      (fun next es => Reports [] [] world next es) := by
  unfold Send
  split
  · exact Yields.mono (staysStill_refl world) (fun _ _ h => h.reports)
  · exact reports_sendInLoop world data result

theorem reports_handleWrite (world : World ThreadId) (result : WriteResult) :
    Yields (HandleWrite world result)
      (fun next es => Reports [] [] world next es) := by
  have hnothing := Yields.mono (staysStill_refl world)
    (fun _ _ h => h.reports)
  cases result with
  | failed errno => exact hnothing
  | wrote n =>
      simp only [HandleWrite]
      split
      · exact hnothing
      · refine Yields.only_if (fun _ => ?_)
        split
        · split
          · exact yields_error
          · rename_i outputBuffer_ hretrieve
            have hless : outputBuffer_.ReadableBytes ≤
                world.conn.outputBuffer_.ReadableBytes := by
              rw [← Buffer.length_readable, ← Buffer.length_readable,
                (Buffer.readable_of_retrieve hretrieve).2,
                List.length_drop]
              exact Nat.sub_le _ _
            refine Yields.in_turn (yields_ok.mpr ?_)
            have hkept : forall {next : World ThreadId} {es : List Event},
                Still (SetOutput world outputBuffer_) next es ->
                (outputBuffer_.ReadableBytes = 0 ->
                  world.conn.writeCompleteCallback_ = false) ->
                Reports [] [] world next ([Event.accepted
                  (world.conn.outputBuffer_.Readable.take n)] ++ es) := by
              intro next es hstill hunset
              have hquiet : Event.called Callback.writeComplete ∉
                  [Event.accepted
                    (world.conn.outputBuffer_.Readable.take n)] ++ es := by
                intro hmem
                rcases List.mem_append.mp hmem with hmem | hmem
                · simp at hmem
                · exact hstill.events _ hmem
              refine ⟨?_, ?_, iff_of_false hquiet ?_, count_le_one hquiet⟩
              · rw [hstill.inputBuffer_]
                exact List.append_nil _
              · rw [marked_append, marked_of_still hstill.events,
                  hstill.marks, crossing_of_le, List.append_nil,
                  List.append_nil]
                · rfl
                · rw [hstill.outputBuffer_]
                  exact hless
              · intro hall
                rcases hall with ⟨hset, _, hempty⟩
                rw [hstill.outputBuffer_] at hempty
                have hclear := hunset (readableBytes_eq_zero.mpr hempty)
                cases hset.symm.trans hclear
            unfold HandleWritten
            split
            · rename_i hempty
              split
              · rename_i hset
                refine yields_ok.mpr ⟨List.append_nil _, ?_, ?_, ?_⟩
                · rw [crossing_of_le hless, List.append_nil]
                  rfl
                · exact iff_of_true (by simp) ⟨hset,
                    ⟨world.conn.outputBuffer_.Readable.take n,
                      List.mem_cons_self⟩,
                    readableBytes_eq_zero.mp hempty⟩
                · simp
              · rename_i hunset
                refine Yields.mono (staysStill_handleWriteCompleted _) ?_
                exact fun _ _ hstill => hkept hstill
                  (fun _ => Bool.not_eq_true _ ▸ hunset)
            · rename_i hrest
              refine yields_ok.mpr (hkept ⟨rfl, rfl, rfl, by simp⟩ ?_)
              exact fun hempty => absurd hempty hrest
        · exact hnothing

/-!
# Steps
-/

theorem reports_handleRead (world : World ThreadId) (result : ReadResult) :
    Yields (HandleRead world result) (fun next es =>
      Reports (Input.handleRead result : Input ThreadId).Brings [] world next
        es) := by
  cases result with
  | failed =>
      exact Yields.mono (staysStill_refl world) (fun _ _ h => h.reports)
  | received bytes =>
      simp only [HandleRead]
      cases hread : world.conn.inputBuffer_.ReadFd bytes with
      | error failure => exact yields_error
      | ok inputBuffer_ =>
          have hreadable := Buffer.readable_of_readFd hread
          have hfrom : forall {next : World ThreadId} {es : List Event},
              Still { world with
                conn := { world.conn with
                  inputBuffer_ := inputBuffer_ } } next es ->
              Reports bytes [] world next es := by
            intro next es hstill
            have hreports := hstill.reports
            refine ⟨?_, hreports.marks, hreports.complete, hreports.once⟩
            rw [← hreadable, hstill.inputBuffer_]
            rfl
          dsimp only
          split
          · exact Yields.mono (staysStill_handleClose _)
              (fun _ _ h => hfrom h)
          · split
            · exact Yields.mono (staysStill_invoke _ trivial)
                (fun _ _ h => hfrom h)
            · exact Yields.mono (staysStill_refl _) (fun _ _ h => hfrom h)

theorem reports_runFunctor (world : World ThreadId) (result : WriteResult) :
    Yields (RunFunctor world result)
      (fun next es => Reports [] [] world next es) := by
  unfold RunFunctor
  split
  · exact yields_error
  · rename_i functor rest hfunctors
    -- A functor that is no notice leaves the notices as they were.
    have hrest : functor.Mark? = none -> forall {call},
        Yields call (fun next es => Reports [] []
          { world with pendingFunctors_ := rest } next es) ->
        Yields call (fun next es => Reports [] [] world next es) := by
      intro hplain call h
      refine Yields.mono h (fun next es hreports =>
        ⟨hreports.input, ?_, hreports.complete, hreports.once⟩)
      have hsame : Marks world.pendingFunctors_ = Marks rest := by
        rw [hfunctors, Marks, List.filterMap_cons, hplain]
        rfl
      rw [hsame]
      exact hreports.marks
    have hstill : functor.Mark? = none -> forall {call},
        StaysStill { world with pendingFunctors_ := rest } call ->
        Yields call (fun next es => Reports [] [] world next es) :=
      fun hplain _ h => hrest hplain (Yields.mono h (fun _ _ h => h.reports))
    cases functor with
    | connectionEstablished =>
        exact hstill rfl (staysStill_connectionEstablished _)
    | sendInLoop data => exact hrest rfl (reports_sendInLoop _ data result)
    | startReadInLoop => exact hstill rfl (staysStill_startReadInLoop _)
    | stopReadInLoop => exact hstill rfl (staysStill_stopReadInLoop _)
    | shutdownInLoop => exact hstill rfl (staysStill_shutdownInLoop _)
    | forceCloseInLoop => exact hstill rfl (staysStill_forceCloseInLoop _)
    | connectionDestroyed =>
        exact hstill rfl (staysStill_connectionDestroyed _)
    | highWaterMarkCallback bytes =>
        refine yields_ok.mpr ⟨List.append_nil _, ?_, ?_, by simp⟩
        · rw [crossing_of_le (Nat.le_refl _), List.append_nil, hfunctors]
          rfl
        · refine iff_of_false (by simp) (fun hall => ?_)
          rcases hall.2.1 with ⟨_, hmem⟩
          simp at hmem

theorem reports_callApi (world : World ThreadId) (api : Api) :
    Yields (CallApi world api) (fun next es =>
      Reports [] (Retrieves world (Input.api api)) world next es) := by
  have hstill : forall {call}, StaysStill world call ->
      Yields call (fun next es => Reports [] [] world next es) :=
    fun h => Yields.mono h (fun _ _ h => h.reports)
  cases api with
  | send data result => exact reports_send world data result
  | shutdown => exact hstill (staysStill_shutdown world)
  | forceClose => exact hstill (staysStill_forceClose world)
  | startRead => exact hstill (staysStill_startReadInLoop world)
  | stopRead => exact hstill (staysStill_stopReadInLoop world)
  | setWriteCompleteCallback | setMessageCallback | setHighWaterMarkCallback
  | setHighWaterMark =>
      exact hstill (staysStill_ok rfl rfl rfl (by simp))
  | retrieve len =>
      simp only [CallApi]
      split
      · exact yields_error
      · rename_i inputBuffer_ hretrieve
        have hnext := Still.reports (⟨rfl, rfl, rfl, by simp⟩ :
          Still world world [])
        refine yields_ok.mpr ⟨?_, hnext.marks, hnext.complete, hnext.once⟩
        rw [List.append_nil, (Buffer.readable_of_retrieve hretrieve).2]
        exact (List.take_append_drop _ _).symm

section Threads

variable [DecidableEq ThreadId]

theorem perform_reports (world : World ThreadId) (i : Input ThreadId) :
    Yields (Perform world i) (fun next es =>
      Reports i.Brings (Retrieves world i) world next es) := by
  have hstill : forall {call}, StaysStill world call ->
      Yields call (fun next es => Reports [] [] world next es) :=
    fun h => Yields.mono h (fun _ _ h => h.reports)
  have honEvent : forall {call brought},
      Yields call (fun next es => Reports brought [] world next es) ->
      Yields (OnEvent world call)
        (fun next es => Reports brought [] world next es) :=
    fun h => Yields.only_if (fun _ => Yields.only_if (fun _ => h))
  cases i with
  | api api => exact reports_callApi world api
  | returns =>
      refine hstill ?_
      show StaysStill world (Return world)
      unfold Return
      split
      · exact staysStill_error _
      · exact staysStill_ok rfl rfl rfl (by simp)
      · exact (staysStill_handleWriteCompleted _).of_same rfl rfl rfl
  | runFunctor result =>
      exact Yields.only_if (fun _ => reports_runFunctor world result)
  | handleRead result => exact honEvent (reports_handleRead world result)
  | handleWrite result => exact honEvent (reports_handleWrite world result)
  | handleClose => exact honEvent (hstill (staysStill_handleClose world))
  | handleError => exact honEvent (hstill (staysStill_refl world))
  | removeConnectionInLoop =>
      exact hstill (staysStill_removeConnectionInLoop world)
  | remoteCall tid api =>
      exact Yields.only_if (fun _ => hstill (staysStill_remoteCall world _ _))
  | remoteNext tid => exact hstill (staysStill_remoteNext world tid)

end Threads

end TcpConnection
end Net
end Wethands
