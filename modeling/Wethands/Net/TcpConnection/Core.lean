import Wethands.Foundation.Path
import Wethands.Net.TcpConnection.Model

/-!
# The core of a connection

The states, the interest in writing, the bytes that wait for the socket, the
queued functors and the calls of other threads are all that decides what a
connection does with its output and with its end.  The steps of this model name
each thing that can happen to them, and every step of the connection is a path
of such steps.
-/

namespace Wethands
namespace Net

open Foundation Reactor

namespace TcpConnection

structure Core (ThreadId : Type) where
  state_ : States
  writing : Bool
  output : List Byte
  functors : List Functor
  callers : ThreadId -> Caller
  removals : Nat

def Callback.Plain : Callback -> Bool
  | Callback.message => true
  | Callback.writeComplete => true
  | Callback.highWaterMark _ => true
  | _ => false

def Functor.Plain : Functor -> Bool
  | Functor.shutdownInLoop => false
  | Functor.connectionDestroyed => false
  | _ => true

def Caller.Plain : Caller -> Bool
  | Caller.shuttingDown => false
  | Caller.shutdownStored => false
  | _ => true

namespace Core

variable {ThreadId : Type}

/-- The events of `ShutdownInLoop`. -/
def ShutdownEvents (core : Core ThreadId) : List Event :=
  if core.state_ = States.kConnected ∧ core.writing = false then
    [Event.shutdownInLoop, Event.shutdownWrite]
  else [Event.shutdownInLoop]

variable [DecidableEq ThreadId]

/--
The steps of the core.  Unless `reopen` is set, the state is not left once it
is `kDisconnected`.
-/
inductive Step (reopen : Bool) :
    Core ThreadId -> Core ThreadId -> List Event -> Prop where
  | called {core : Core ThreadId} (callback : Callback)
      (hplain : callback.Plain = true) :
      Step reopen core core [Event.called callback]
  | queued {core : Core ThreadId} (functor : Functor)
      (hplain : functor.Plain = true) :
      Step reopen core { core with functors := core.functors ++ [functor] } []
  | took {core : Core ThreadId} (functor : Functor) (rest : List Functor)
      (hplain : functor.Plain = true)
      (hfunctors : core.functors = functor :: rest) :
      Step reopen core { core with functors := rest } []
  | moved {core : Core ThreadId} (tid : ThreadId) (caller : Caller)
      (hplain : caller.Plain = true) :
      Step reopen core
        { core with callers := Function.update core.callers tid caller } []
  | established {core : Core ThreadId}
      (hstate : core.state_ = States.kConnecting) :
      Step reopen core { core with state_ := States.kConnected }
        [Event.stored States.kConnecting States.kConnected,
          Event.called (Callback.connection States.kConnected)]
  | sentAtOnce {core : Core ThreadId} (data : List Byte)
      (hstate : core.state_ = States.kConnected)
      (hidle : core.writing = false ∧ core.output = []) :
      Step reopen core core
        [Event.sendInLoop data,
          Event.directWrite data.length (WriteResult.wrote data.length) true,
          Event.accepted data]
  | sentPart {core : Core ThreadId} (data : List Byte) (n : Nat)
      (complete : Bool) (hstate : core.state_ = States.kConnected)
      (hidle : core.writing = false ∧ core.output = [])
      (hle : n ≤ data.length)
      (hrest : n < data.length ∨ complete = false) :
      Step reopen core { core with writing := true, output := data.drop n }
        [Event.sendInLoop data,
          Event.directWrite data.length (WriteResult.wrote n) complete,
          Event.accepted (data.take n)]
  | sentNothing {core : Core ThreadId} (data : List Byte) (errno : Errno)
      (complete : Bool) (hstate : core.state_ = States.kConnected)
      (hidle : core.writing = false ∧ core.output = []) :
      Step reopen core { core with writing := true, output := data }
        [Event.sendInLoop data,
          Event.directWrite data.length (WriteResult.failed errno) complete]
  | sentLater {core : Core ThreadId} (data : List Byte)
      (hstate : core.state_ = States.kConnected)
      (hbusy : ¬(core.writing = false ∧ core.output = [])) :
      Step reopen core
        { core with writing := true, output := core.output ++ data }
        [Event.sendInLoop data]
  | wrote {core : Core ThreadId} (n : Nat) (hwriting : core.writing = true)
      (hpos : 0 < n) (hle : n ≤ core.output.length) :
      Step reopen core
        { core with
          writing := decide (core.output.drop n ≠ [])
          output := core.output.drop n }
        [Event.accepted (core.output.take n)]
  | shutdown {core : Core ThreadId}
      (hstate : core.state_ = States.kConnected) :
      Step reopen core { core with state_ := States.kDisconnecting }
        [Event.shutdown,
          Event.stored States.kConnected States.kDisconnecting,
          Event.shutdownInLoop]
  | shutdownAfterWrite {core : Core ThreadId}
      (hstate : core.state_ = States.kDisconnecting) :
      Step reopen core core [Event.shutdownInLoop]
  | tookShutdown {core : Core ThreadId} (rest : List Functor)
      (hfunctors : core.functors = Functor.shutdownInLoop :: rest) :
      Step reopen core { core with functors := rest } core.ShutdownEvents
  | shutdownChecked {core : Core ThreadId} (tid : ThreadId)
      (hstate : core.state_ = States.kConnected) :
      Step reopen core
        { core with
          callers := Function.update core.callers tid Caller.shuttingDown }
        [Event.shutdown]
  | shutdownStored {core : Core ThreadId} (tid : ThreadId)
      (hcaller : core.callers tid = Caller.shuttingDown)
      (hreopen : reopen = true ∨ core.state_ ≠ States.kDisconnected) :
      Step reopen core
        { core with
          state_ := States.kDisconnecting
          callers := Function.update core.callers tid Caller.shutdownStored }
        [Event.stored core.state_ States.kDisconnecting]
  | shutdownQueued {core : Core ThreadId} (tid : ThreadId)
      (hcaller : core.callers tid = Caller.shutdownStored) :
      Step reopen core
        { core with
          callers := Function.update core.callers tid Caller.outside
          functors := core.functors ++ [Functor.shutdownInLoop] } []
  | forceClose {core : Core ThreadId}
      (hreopen : reopen = true ∨ core.state_ ≠ States.kDisconnected) :
      Step reopen core { core with state_ := States.kDisconnecting }
        [Event.stored core.state_ States.kDisconnecting]
  | closed {core : Core ThreadId}
      (hstate : core.state_ = States.kConnected ∨
        core.state_ = States.kDisconnecting) :
      Step reopen core
        { core with
          state_ := States.kDisconnected
          writing := false
          removals := core.removals + 1 }
        [Event.handleClose, Event.stored core.state_ States.kDisconnected,
          Event.called Callback.close]
  | closedHere {core : Core ThreadId}
      (hstate : core.state_ = States.kConnected ∨
        core.state_ = States.kDisconnecting) :
      Step reopen core
        { core with
          state_ := States.kDisconnected
          writing := false }
        [Event.handleClose, Event.stored core.state_ States.kDisconnected,
          Event.called Callback.close,
          Event.called (Callback.connection States.kDisconnected)]
  | removed {core : Core ThreadId} (removals : Nat)
      (hremovals : core.removals = removals + 1) :
      Step reopen core
        { core with
          removals := removals
          functors := core.functors ++ [Functor.connectionDestroyed] } []
  | destroyed {core : Core ThreadId} (rest : List Functor)
      (hstate : core.state_ = States.kDisconnected)
      (hfunctors : core.functors = Functor.connectionDestroyed :: rest) :
      Step reopen core { core with functors := rest, writing := false }
        [Event.called (Callback.connection States.kDisconnected)]

end Core

/-!
# The view of a connection
-/

variable {ThreadId : Type}

def View (world : World ThreadId) : Core ThreadId where
  state_ := world.conn.state_
  writing := world.conn.socketChannel_.IsWriting
  output := world.conn.outputBuffer_.Readable
  functors := world.pendingFunctors_
  callers := world.callers
  removals := world.removals

theorem readableBytes_eq_zero {buffer : Buffer} :
    buffer.ReadableBytes = 0 <-> buffer.Readable = [] := by
  rw [← Buffer.length_readable, List.length_eq_zero_iff]

section Threads

variable [DecidableEq ThreadId] {reopen : Bool}

/-- A call that comes back takes a path of the core. -/
def Refines (reopen : Bool) (world : World ThreadId)
    (call : Call (World ThreadId) Event) : Prop :=
  forall next es, call = Except.ok (next, es) ->
    Path (Core.Step reopen) (View world) (View next) es

theorem Refines.of_view {world mid : World ThreadId}
    {call : Call (World ThreadId) Event} (hview : View mid = View world)
    (h : Refines reopen mid call) : Refines reopen world call := by
  intro next es hcall
  rw [← hview]
  exact h next es hcall

theorem refines_silent {world mid : World ThreadId}
    (hview : View mid = View world) :
    Refines reopen world (Except.ok (mid, [])) := by
  intro next es hcall
  cases hcall
  rw [hview]
  exact Path.nil _

theorem refines_invoke (world : World ThreadId) (callback : Callback)
    (frame : Frame) (hplain : callback.Plain = true) :
    Refines reopen world (Invoke world callback frame) := by
  intro next es hcall
  cases hcall
  exact Path.single (Core.Step.called callback hplain)

/-!
# Sending
-/

theorem path_appendRemaining {world : World ThreadId} {remaining : List Byte}
    {es : List Event}
    (hstep : Core.Step reopen (View world)
      { View world with
        writing := true
        output := (View world).output ++ remaining } es) :
    Path (Core.Step reopen) (View world)
      (View (AppendRemaining world remaining)) es := by
  have hwriting : (if world.conn.socketChannel_.IsWriting then
      world.conn.socketChannel_
      else world.conn.socketChannel_.EnableWriting).IsWriting = true := by
    split
    · assumption
    · simp
  unfold AppendRemaining
  dsimp only
  split
  · have hmarked := (Path.single hstep).append (Path.single
      (Core.Step.queued (Functor.highWaterMarkCallback
        (world.conn.outputBuffer_.ReadableBytes + remaining.length)) rfl))
    simpa [View, QueueInLoop, hwriting] using hmarked
  · simpa [View, hwriting] using Path.single hstep

theorem path_directWrite {world next : World ThreadId} {data : List Byte}
    {result : WriteResult} {es : List Event}
    (hstate : world.conn.state_ = States.kConnected)
    (hidle : (View world).writing = false ∧ (View world).output = [])
    (hcall : DirectWrite world data result = Except.ok (next, es)) :
    Path (Core.Step reopen) (View world) (View next)
      (Event.sendInLoop data :: Event.directWrite data.length result
        world.conn.writeCompleteCallback_ :: es) := by
  cases result with
  | wrote n =>
      simp only [DirectWrite] at hcall
      split at hcall
      · rename_i hle
        split at hcall
        · rename_i hall
          rcases then_ok_eq_ok.mp hcall with ⟨es', hinvoke, rfl⟩
          have hn : n = data.length := by omega
          subst hn
          have hsent := Path.single
            (@Core.Step.sentAtOnce _ _ reopen _ data hstate hidle)
          have hcalled : Path (Core.Step reopen) (View world) (View next) es' :=
            refines_invoke world Callback.writeComplete Frame.callback rfl
              next es' hinvoke
          simpa [hall.2] using hsent.append hcalled
        · rename_i hpart
          cases hcall
          have hrest : n < data.length ∨
              world.conn.writeCompleteCallback_ = false := by
            by_cases hset : world.conn.writeCompleteCallback_ = true
            · apply Or.inl
              have hne : data.length - n ≠ 0 := fun h => hpart ⟨h, hset⟩
              omega
            · exact Or.inr (Bool.not_eq_true _ ▸ hset)
          apply path_appendRemaining
          rw [hidle.2, List.nil_append]
          exact Core.Step.sentPart data n _ hstate hidle hle hrest
      · cases hcall
  | failed errno =>
      have hfailed : AppendRemaining world data = next ∧ es = [] := by
        cases errno <;> simp_all [DirectWrite]
      rcases hfailed with ⟨rfl, rfl⟩
      apply path_appendRemaining
      rw [hidle.2, List.nil_append]
      exact Core.Step.sentNothing data errno _ hstate hidle

theorem refines_sendInLoop (world : World ThreadId) (data : List Byte)
    (result : WriteResult) :
    Refines reopen world (SendInLoop world data result) := by
  intro next es hcall
  unfold SendInLoop at hcall
  split at hcall
  · exact refines_silent rfl next es hcall
  · rename_i hstate
    have hconnected : world.conn.state_ = States.kConnected :=
      not_not.mp hstate
    split at hcall
    · rename_i hidle
      rw [readableBytes_eq_zero] at hidle
      rcases then_ok_eq_ok.mp hcall with ⟨es', hdirect, rfl⟩
      exact path_directWrite hconnected hidle hdirect
    · rename_i hbusy
      rw [readableBytes_eq_zero] at hbusy
      cases hcall
      exact path_appendRemaining
        (Core.Step.sentLater data hconnected hbusy)

theorem refines_send (world : World ThreadId) (data : List Byte)
    (result : WriteResult) : Refines reopen world (Send world data result) := by
  intro next es hcall
  unfold Send at hcall
  split at hcall
  · exact refines_silent rfl next es hcall
  · exact refines_sendInLoop world data result next es hcall

/-!
# Closing
-/

omit [DecidableEq ThreadId] in
theorem shutdownInLoop_eq_ok {world next : World ThreadId} {es : List Event}
    (h : ShutdownInLoop world = Except.ok (next, es)) :
    next = world ∧ es = (View world).ShutdownEvents := by
  unfold ShutdownInLoop at h
  split at h
  · rename_i hopen
    cases h
    exact ⟨rfl, (if_pos hopen).symm⟩
  · rename_i hopen
    cases h
    exact ⟨rfl, (if_neg hopen).symm⟩

theorem refines_shutdown (world : World ThreadId) :
    Refines reopen world (Shutdown world) := by
  intro next es hcall
  unfold Shutdown at hcall
  split at hcall
  · rename_i hstate
    rcases then_ok_eq_ok.mp hcall with ⟨es1, hrest, rfl⟩
    rcases then_ok_eq_ok.mp hrest with ⟨es2, hlast, rfl⟩
    simp only [ShutdownInLoop, reduceCtorEq, false_and, if_false] at hlast
    cases hlast
    have hstep := Path.single
      (@Core.Step.shutdown _ _ reopen (View world) hstate)
    simpa [View, hstate] using hstep
  · exact refines_silent rfl next es hcall

theorem refines_handleWriteCompleted (world : World ThreadId) :
    Refines reopen world (HandleWriteCompleted world) := by
  intro next es hcall
  unfold HandleWriteCompleted at hcall
  split at hcall
  · rename_i hstate
    simp only [ShutdownInLoop, hstate, reduceCtorEq, false_and,
      if_false] at hcall
    cases hcall
    exact Path.single (Core.Step.shutdownAfterWrite hstate)
  · exact refines_silent rfl next es hcall

omit [DecidableEq ThreadId] in
theorem connectionDestroyed_eq_ok {world next : World ThreadId}
    {es : List Event}
    (h : ConnectionDestroyed world = Except.ok (next, es)) :
    world.conn.state_ = States.kDisconnected ∧
      es = [Event.called (Callback.connection States.kDisconnected)] ∧
      View next = { View world with writing := false } := by
  unfold ConnectionDestroyed at h
  rw [assert_eq_ok, Channel.removeFromPoller_disableAll] at h
  rcases h with ⟨hstate, hinvoke⟩
  cases hinvoke
  refine ⟨hstate, by rw [hstate], ?_⟩
  simp [View, SetChannel, Channel.IsWriting, Channel.kNoneEvent]

theorem refines_handleClose (world : World ThreadId) :
    Refines reopen world (HandleClose world) := by
  intro next es hcall
  unfold HandleClose at hcall
  rcases assert_eq_ok.mp hcall with ⟨hstate, hclose⟩
  rcases then_ok_eq_ok.mp hclose with ⟨es1, hstore, rfl⟩
  rcases then_ok_eq_ok.mp hstore with ⟨es2, hinvoke, rfl⟩
  rcases then_ok_eq_ok.mp hinvoke with ⟨es3, hcallback, rfl⟩
  cases hkind : world.conn.closeCallback_ with
  | sameLoop =>
      simp only [SetChannel, hkind] at hcallback
      rcases connectionDestroyed_eq_ok hcallback with ⟨_, rfl, hview⟩
      have hstep := Path.single
        (@Core.Step.closedHere _ _ reopen (View world) hstate)
      rw [hview]
      simpa [View, SetChannel] using hstep
  | otherLoop =>
      simp only [SetChannel, hkind] at hcallback
      cases hcallback
      have hstep := Path.single
        (@Core.Step.closed _ _ reopen (View world) hstate)
      simpa [View, SetChannel] using hstep

theorem refines_forceCloseInLoop (world : World ThreadId) :
    Refines reopen world (ForceCloseInLoop world) := by
  intro next es hcall
  unfold ForceCloseInLoop at hcall
  split at hcall
  · exact refines_handleClose world next es hcall
  · exact refines_silent rfl next es hcall

theorem refines_forceClose {world : World ThreadId}
    (hreopen : reopen = true ∨ world.conn.state_ ≠ States.kDisconnected) :
    Refines reopen world (ForceClose world) := by
  intro next es hcall
  unfold ForceClose at hcall
  split at hcall
  · rcases then_ok_eq_ok.mp hcall with ⟨es1, hclose, rfl⟩
    have hstored := Path.single
      (@Core.Step.forceClose _ _ reopen (View world) hreopen)
    exact hstored.append (refines_forceCloseInLoop _ next es1 hclose)
  · exact refines_silent rfl next es hcall

theorem refines_removeConnectionInLoop (world : World ThreadId) :
    Refines reopen world (RemoveConnectionInLoop world) := by
  intro next es hcall
  unfold RemoveConnectionInLoop at hcall
  split at hcall
  · cases hcall
  · rename_i removals hremovals
    cases hcall
    exact Path.single (Core.Step.removed removals hremovals)

/-!
# Events of the loop
-/

theorem refines_startReadInLoop (world : World ThreadId) :
    Refines reopen world (Except.ok (StartReadInLoop world, [])) := by
  apply refines_silent
  unfold StartReadInLoop
  split
  · simp [View]
  · rfl

theorem refines_stopReadInLoop (world : World ThreadId) :
    Refines reopen world (Except.ok (StopReadInLoop world, [])) := by
  apply refines_silent
  unfold StopReadInLoop
  split
  · simp [View]
  · rfl

theorem refines_connectionEstablished (world : World ThreadId) :
    Refines reopen world (ConnectionEstablished world) := by
  intro next es hcall
  unfold ConnectionEstablished at hcall
  rcases assert_eq_ok.mp hcall with ⟨hstate, hrest⟩
  rcases then_ok_eq_ok.mp hrest with ⟨es1, hinvoke, rfl⟩
  cases hinvoke
  have hstep := Path.single
    (@Core.Step.established _ _ reopen (View world) hstate)
  simpa [View, SetChannel, hstate] using hstep

theorem refines_handleRead (world : World ThreadId) (result : ReadResult) :
    Refines reopen world (HandleRead world result) := by
  cases result with
  | failed => exact refines_silent rfl
  | received bytes =>
      intro next es hcall
      simp only [HandleRead] at hcall
      split at hcall
      · cases hcall
      · rename_i inputBuffer_ _
        have hview : View { world with
            conn := { world.conn with inputBuffer_ := inputBuffer_ } } =
            View world := rfl
        split at hcall
        · exact (refines_handleClose _).of_view hview next es hcall
        · split at hcall
          · exact (refines_invoke _ Callback.message Frame.callback
              rfl).of_view hview next es hcall
          · exact refines_silent hview next es hcall

theorem refines_handleWritten (world : World ThreadId) :
    Refines reopen world (HandleWritten world) := by
  unfold HandleWritten
  split
  · split
    · exact refines_invoke world Callback.writeComplete _ rfl
    · exact refines_handleWriteCompleted world
  · exact refines_silent rfl

omit [DecidableEq ThreadId] in
theorem view_setOutput {world : World ThreadId} (outputBuffer_ : Buffer)
    (hwriting : world.conn.socketChannel_.IsWriting = true) :
    View (SetOutput world outputBuffer_) =
      { View world with
        writing := decide (outputBuffer_.Readable ≠ [])
        output := outputBuffer_.Readable } := by
  unfold SetOutput
  by_cases hempty : outputBuffer_.Readable = []
  · have hzero := readableBytes_eq_zero.mpr hempty
    simp [View, hzero, hempty]
  · have hne : outputBuffer_.ReadableBytes ≠ 0 :=
      fun h => hempty (readableBytes_eq_zero.mp h)
    simp [View, hne, hempty, hwriting]

theorem refines_handleWrite (world : World ThreadId) (result : WriteResult) :
    Refines reopen world (HandleWrite world result) := by
  cases result with
  | failed errno => exact refines_silent rfl
  | wrote n =>
      intro next es hcall
      simp only [HandleWrite] at hcall
      split at hcall
      · exact refines_silent rfl next es hcall
      · rename_i hwriting
        rw [Bool.not_eq_false] at hwriting
        split at hcall
        · rename_i hle
          split at hcall
          · rename_i hpos
            split at hcall
            · cases hcall
            · rename_i outputBuffer_ hretrieve
              rcases then_ok_eq_ok.mp hcall with ⟨es', hrest, rfl⟩
              rcases Buffer.readable_of_retrieve hretrieve with ⟨_, houtput⟩
              rw [← Buffer.length_readable] at hle
              have hstep := Path.single
                (@Core.Step.wrote _ _ reopen (View world) n hwriting hpos hle)
              have hview := view_setOutput outputBuffer_ hwriting
              rw [houtput] at hview
              rw [show (View world).output =
                world.conn.outputBuffer_.Readable from rfl, ← hview] at hstep
              exact hstep.append
                (refines_handleWritten _ next es' hrest)
          · exact refines_silent rfl next es hcall
        · cases hcall

/-!
# Every step of a run
-/

/--
The input stores `kDisconnecting` although the state is `kDisconnected`: a call
of `ForceClose`, or the store of a call that another thread is in.
-/
def Reopens (world : World ThreadId) (i : Input ThreadId) : Prop :=
  world.conn.state_ = States.kDisconnected ∧
    match i with
    | Input.api Api.forceClose => True
    | Input.remoteNext tid =>
        world.callers tid = Caller.shuttingDown ∨
          world.callers tid = Caller.forceClosing
    | _ => False

theorem refines_callApi {world : World ThreadId} {api : Api}
    (hreopen : reopen = true ∨ ¬Reopens world (Input.api api)) :
    Refines reopen world (CallApi world api) := by
  cases api with
  | send data result => exact refines_send world data result
  | shutdown => exact refines_shutdown world
  | forceClose =>
      exact refines_forceClose
        (hreopen.imp_right (fun hnot hstate => hnot ⟨hstate, trivial⟩))
  | startRead => exact refines_startReadInLoop world
  | stopRead => exact refines_stopReadInLoop world
  | setWriteCompleteCallback set => exact refines_silent rfl
  | setMessageCallback set => exact refines_silent rfl
  | setHighWaterMarkCallback set => exact refines_silent rfl
  | setHighWaterMark highWaterMark => exact refines_silent rfl
  | retrieve len =>
      intro next es hcall
      simp only [CallApi] at hcall
      split at hcall
      · cases hcall
      · cases hcall
        exact Path.nil _

theorem refines_return (world : World ThreadId) :
    Refines reopen world (Return world) := by
  unfold Return
  split
  · intro next es hcall
    cases hcall
  · exact refines_silent rfl
  · exact (refines_handleWriteCompleted _).of_view rfl

theorem refines_took {world : World ThreadId} {functor : Functor}
    {rest : List Functor} {call : Call (World ThreadId) Event}
    (hplain : functor.Plain = true)
    (hfunctors : world.pendingFunctors_ = functor :: rest)
    (h : Refines reopen { world with pendingFunctors_ := rest } call) :
    Refines reopen world call := by
  intro next es hcall
  have htook := Path.single
    (@Core.Step.took _ _ reopen (View world) functor rest hplain hfunctors)
  exact htook.append (h next es hcall)

theorem refines_runFunctor (world : World ThreadId) (result : WriteResult) :
    Refines reopen world (RunFunctor world result) := by
  unfold RunFunctor
  split
  · intro next es hcall
    cases hcall
  · rename_i functor rest hfunctors
    cases functor with
    | connectionEstablished =>
        exact refines_took rfl hfunctors (refines_connectionEstablished _)
    | sendInLoop data =>
        exact refines_took rfl hfunctors (refines_sendInLoop _ data result)
    | startReadInLoop =>
        exact refines_took rfl hfunctors (refines_startReadInLoop _)
    | stopReadInLoop =>
        exact refines_took rfl hfunctors (refines_stopReadInLoop _)
    | shutdownInLoop =>
        intro next es hcall
        rcases shutdownInLoop_eq_ok hcall with ⟨rfl, rfl⟩
        exact Path.single
          (@Core.Step.tookShutdown _ _ reopen (View world) rest hfunctors)
    | forceCloseInLoop =>
        exact refines_took rfl hfunctors (refines_forceCloseInLoop _)
    | highWaterMarkCallback bytes =>
        exact refines_took rfl hfunctors
          (refines_invoke _ (Callback.highWaterMark bytes) _ rfl)
    | connectionDestroyed =>
        intro next es hcall
        rcases connectionDestroyed_eq_ok hcall with ⟨hstate, rfl, hview⟩
        rw [hview]
        exact Path.single
          (@Core.Step.destroyed _ _ reopen (View world) rest hstate hfunctors)

theorem refines_onEvent {world : World ThreadId}
    {call : Call (World ThreadId) Event} (h : Refines reopen world call) :
    Refines reopen world (OnEvent world call) := by
  unfold OnEvent InLoop
  split
  · split
    · exact h
    · intro next es hcall
      cases hcall
  · intro next es hcall
    cases hcall

theorem refines_inLoop {world : World ThreadId}
    {call : Call (World ThreadId) Event} (h : Refines reopen world call) :
    Refines reopen world (InLoop world call) := by
  unfold InLoop
  split
  · exact h
  · intro next es hcall
    cases hcall

theorem refines_remoteCall (world : World ThreadId) (tid : ThreadId)
    (api : RemoteApi) : Refines reopen world (RemoteCall world tid api) := by
  intro next es hcall
  cases api with
  | send data =>
      simp only [RemoteCall] at hcall
      split at hcall
      · exact refines_silent rfl next es hcall
      · cases hcall
        exact Path.single (@Core.Step.moved _ _ reopen (View world) tid _ rfl)
  | shutdown =>
      simp only [RemoteCall] at hcall
      split at hcall
      · rename_i hstate
        cases hcall
        exact Path.single
          (@Core.Step.shutdownChecked _ _ reopen (View world) tid hstate)
      · exact refines_silent rfl next es hcall
  | forceClose =>
      simp only [RemoteCall] at hcall
      split at hcall
      · cases hcall
        exact Path.single (@Core.Step.moved _ _ reopen (View world) tid _ rfl)
      · exact refines_silent rfl next es hcall
  | startRead =>
      cases hcall
      exact Path.single (@Core.Step.queued _ _ reopen (View world) _ rfl)
  | stopRead =>
      cases hcall
      exact Path.single (@Core.Step.queued _ _ reopen (View world) _ rfl)

theorem refines_remoteNext {world : World ThreadId} {tid : ThreadId}
    (hreopen : reopen = true ∨ ¬Reopens world (Input.remoteNext tid)) :
    Refines reopen world (RemoteNext world tid) := by
  intro next es hcall
  unfold RemoteNext at hcall
  split at hcall
  · cases hcall
  · rename_i data _
    cases hcall
    have hmoved := Path.single
      (@Core.Step.moved _ _ reopen (View world) tid Caller.outside rfl)
    exact hmoved.append (Path.single
      (Core.Step.queued (Functor.sendInLoop data) rfl))
  · rename_i hcaller
    cases hcall
    have hopen : reopen = true ∨ world.conn.state_ ≠ States.kDisconnected :=
      hreopen.imp_right (fun hnot hstate => hnot ⟨hstate, Or.inl hcaller⟩)
    exact Path.single
      (@Core.Step.shutdownStored _ _ reopen (View world) tid hcaller hopen)
  · rename_i hcaller
    cases hcall
    exact Path.single
      (@Core.Step.shutdownQueued _ _ reopen (View world) tid hcaller)
  · rename_i hcaller
    cases hcall
    have hopen : reopen = true ∨ world.conn.state_ ≠ States.kDisconnected :=
      hreopen.imp_right (fun hnot hstate => hnot ⟨hstate, Or.inr hcaller⟩)
    have hmoved := Path.single
      (@Core.Step.moved _ _ reopen (View world) tid Caller.forceCloseStored
        rfl)
    exact hmoved.append (Path.single (Core.Step.forceClose hopen))
  · cases hcall
    have hmoved := Path.single
      (@Core.Step.moved _ _ reopen (View world) tid Caller.outside rfl)
    exact hmoved.append (Path.single
      (Core.Step.queued Functor.forceCloseInLoop rfl))

theorem refines_perform {world : World ThreadId} {i : Input ThreadId}
    (hreopen : reopen = true ∨ ¬Reopens world i) :
    Refines reopen world (Perform world i) := by
  cases i with
  | api api => exact refines_callApi hreopen
  | returns => exact refines_return world
  | runFunctor result => exact refines_inLoop (refines_runFunctor world result)
  | handleRead result => exact refines_onEvent (refines_handleRead world result)
  | handleWrite result =>
      exact refines_onEvent (refines_handleWrite world result)
  | handleClose => exact refines_onEvent (refines_handleClose world)
  | handleError => exact refines_onEvent (refines_silent rfl)
  | removeConnectionInLoop => exact refines_removeConnectionInLoop world
  | remoteCall tid api =>
      simp only [Perform]
      split
      · exact refines_remoteCall world tid api
      · intro next es hcall
        cases hcall
  | remoteNext tid => exact refines_remoteNext hreopen

/-- Every run of the connection is a path of the core. -/
theorem run_refines {inputs : List (Input ThreadId)}
    {world next : World ThreadId} {tr : List Event}
    (hrun : (ConnectionMachine ThreadId).Run world inputs = some (next, tr)) :
    Path (Core.Step true) (View world) (View next) tr :=
  Path.of_run
    (fun _ _ next es hstep =>
      refines_perform (Or.inl rfl) next es (answer_eq_some.mp hstep)) hrun

end Threads
end TcpConnection
end Net
end Wethands
