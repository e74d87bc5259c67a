import Wethands.Net.TcpConnection.Stream

/-!
# Sending and shutting down from another thread

`Send` on another thread queues its data, and `Shutdown` changes the state at
once.  What is still queued at this moment is left out by `SendInLoop`.
-/

namespace Wethands
namespace Net

open Foundation

namespace TcpConnection

def Functor.Payload : Functor -> List Byte
  | Functor.sendInLoop data => data
  | _ => []

/-- The data of the queued `SendInLoop` functors. -/
def Queued (functors : List Functor) : List Byte :=
  functors.flatMap Functor.Payload

theorem queued_append (functors more : List Functor) :
    Queued (functors ++ more) = Queued functors ++ Queued more :=
  List.flatMap_append

variable {ThreadId : Type}

/-- The connection is up, or it is being shut down. -/
def Open (world : World ThreadId) : Prop :=
  world.conn.state_ = States.kConnected ∨
    world.conn.state_ = States.kDisconnecting

structure SameSide (world next : World ThreadId) : Prop where
  state : next.conn.state_ = world.conn.state_
  callers : next.callers = world.callers
  queued : Queued next.pendingFunctors_ = Queued world.pendingFunctors_

theorem SameSide.refl (world : World ThreadId) : SameSide world world :=
  ⟨rfl, rfl, rfl⟩

theorem SameSide.trans {world mid next : World ThreadId}
    (first : SameSide world mid) (second : SameSide mid next) :
    SameSide world next :=
  ⟨second.state.trans first.state, second.callers.trans first.callers,
    second.queued.trans first.queued⟩

def Keeps (world : World ThreadId) (call : Call (World ThreadId) Event) :
    Prop :=
  forall next es, call = Except.ok (next, es) -> Event.handleClose ∉ es ->
    SameSide world next ∧ Payloads es = []

theorem keeps_ok {world next : World ThreadId} {es : List Event}
    (hsame : SameSide world next) (hes : Payloads es = []) :
    Keeps world (Except.ok (next, es)) := by
  intro last es' hcall _
  cases hcall
  exact ⟨hsame, hes⟩

theorem keeps_error {world : World ThreadId} (failure : Failure) :
    Keeps world (Except.error failure) := by
  intro next es hcall
  cases hcall

theorem Keeps.of_same {world mid : World ThreadId}
    {call : Call (World ThreadId) Event} (hsame : SameSide world mid)
    (h : Keeps mid call) : Keeps world call := by
  intro next es hcall hopen
  rcases h next es hcall hopen with ⟨hnext, hes⟩
  exact ⟨hsame.trans hnext, hes⟩

theorem keeps_then {world mid : World ThreadId} {es : List Event}
    {second : World ThreadId -> Call (World ThreadId) Event}
    (hes : Payloads es = []) (h : Keeps world (second mid)) :
    Keeps world (Then (Except.ok (mid, es)) second) := by
  intro next all hcall hopen
  rcases then_ok_eq_ok.mp hcall with ⟨es', hsecond, rfl⟩
  have hrest : Event.handleClose ∉ es' :=
    fun hmem => hopen (List.mem_append_right es hmem)
  rcases h next es' hsecond hrest with ⟨hsame, hes'⟩
  refine ⟨hsame, ?_⟩
  rw [payloads_append, hes, hes', List.append_nil]

/-!
# The parts of the functions
-/

theorem keeps_invoke (world : World ThreadId) (callback : Callback)
    (frame : Frame) : Keeps world (Invoke world callback frame) :=
  keeps_ok ⟨rfl, rfl, rfl⟩ rfl

theorem keeps_shutdownInLoop (world : World ThreadId) :
    Keeps world (ShutdownInLoop world) := by
  unfold ShutdownInLoop
  split <;> exact keeps_ok (SameSide.refl world) rfl

theorem keeps_handleWriteCompleted (world : World ThreadId) :
    Keeps world (HandleWriteCompleted world) := by
  unfold HandleWriteCompleted
  split
  · exact keeps_shutdownInLoop world
  · exact keeps_ok (SameSide.refl world) rfl

theorem sameSide_appendRemaining (world : World ThreadId)
    (remaining : List Byte) :
    SameSide world (AppendRemaining world remaining) := by
  unfold AppendRemaining
  dsimp only
  split
  · refine ⟨rfl, rfl, ?_⟩
    show Queued (world.pendingFunctors_ ++ [_]) = _
    rw [queued_append]
    exact List.append_nil _
  · exact ⟨rfl, rfl, rfl⟩

theorem keeps_directWrite (world : World ThreadId) (data : List Byte)
    (result : WriteResult) : Keeps world (DirectWrite world data result) := by
  cases result with
  | wrote n =>
      simp only [DirectWrite]
      split
      · split
        · exact keeps_then rfl (keeps_invoke world _ _)
        · exact keeps_ok (sameSide_appendRemaining world _) rfl
      · exact keeps_error _
  | failed errno =>
      cases errno with
      | other => exact keeps_error _
      | EPIPE | EINTR | EWOULDBLOCK =>
          exact keeps_ok (sameSide_appendRemaining world _) rfl

theorem keeps_startReadInLoop (world : World ThreadId) :
    Keeps world (Except.ok (StartReadInLoop world, [])) := by
  unfold StartReadInLoop
  split <;> exact keeps_ok ⟨rfl, rfl, rfl⟩ rfl

theorem keeps_stopReadInLoop (world : World ThreadId) :
    Keeps world (Except.ok (StopReadInLoop world, [])) := by
  unfold StopReadInLoop
  split <;> exact keeps_ok ⟨rfl, rfl, rfl⟩ rfl

theorem keeps_connectionDestroyed {world : World ThreadId}
    (hopen : Open world) : Keeps world (ConnectionDestroyed world) := by
  intro next es hcall
  unfold ConnectionDestroyed at hcall
  rcases assert_eq_ok.mp hcall with ⟨hstate, _⟩
  rcases hopen with h | h <;> cases h.symm.trans hstate

theorem keeps_connectionEstablished {world : World ThreadId}
    (hopen : Open world) : Keeps world (ConnectionEstablished world) := by
  intro next es hcall
  unfold ConnectionEstablished at hcall
  rcases assert_eq_ok.mp hcall with ⟨hstate, _⟩
  rcases hopen with h | h <;> cases h.symm.trans hstate

theorem keeps_handleClose (world : World ThreadId) :
    Keeps world (HandleClose world) := by
  intro next es hcall hnoclose
  exact absurd (handleClose_closes world next es hcall) hnoclose

theorem keeps_forceCloseInLoop (world : World ThreadId) :
    Keeps world (ForceCloseInLoop world) := by
  unfold ForceCloseInLoop
  split
  · exact keeps_handleClose world
  · exact keeps_ok (SameSide.refl world) rfl

theorem keeps_handleRead (world : World ThreadId) (result : ReadResult) :
    Keeps world (HandleRead world result) := by
  cases result with
  | failed => exact keeps_ok (SameSide.refl world) rfl
  | received bytes =>
      simp only [HandleRead]
      split
      · exact keeps_error _
      · have hsame : forall inputBuffer_, SameSide world { world with
            conn := { world.conn with inputBuffer_ := inputBuffer_ } } :=
          fun _ => ⟨rfl, rfl, rfl⟩
        split
        · exact (keeps_handleClose _).of_same (hsame _)
        · split
          · exact (keeps_invoke _ _ _).of_same (hsame _)
          · exact keeps_ok (hsame _) rfl

theorem keeps_handleWritten (world : World ThreadId) :
    Keeps world (HandleWritten world) := by
  unfold HandleWritten
  split
  · split
    · exact keeps_invoke world _ _
    · exact keeps_handleWriteCompleted world
  · exact keeps_ok (SameSide.refl world) rfl

theorem keeps_handleWrite (world : World ThreadId) (result : WriteResult) :
    Keeps world (HandleWrite world result) := by
  cases result with
  | failed errno => exact keeps_ok (SameSide.refl world) rfl
  | wrote n =>
      simp only [HandleWrite]
      split
      · exact keeps_ok (SameSide.refl world) rfl
      · split
        · split
          · split
            · exact keeps_error _
            · apply keeps_then rfl
              refine Keeps.of_same ?_ (keeps_handleWritten _)
              exact ⟨rfl, rfl, rfl⟩
          · exact keeps_ok (SameSide.refl world) rfl
        · exact keeps_error _

theorem keeps_return (world : World ThreadId) : Keeps world (Return world) := by
  unfold Return
  split
  · exact keeps_error _
  · exact keeps_ok ⟨rfl, rfl, rfl⟩ rfl
  · refine Keeps.of_same ?_ (keeps_handleWriteCompleted _)
    exact ⟨rfl, rfl, rfl⟩

/-!
# What the loop does
-/

/-- The loop does not itself send, shut down or close. -/
def LoopWork : Input ThreadId -> Prop
  | Input.api (Api.send _ _) => False
  | Input.api Api.shutdown => False
  | Input.api Api.forceClose => False
  | Input.remoteCall _ _ => False
  | Input.remoteNext _ => False
  | _ => True

instance (i : Input ThreadId) : Decidable (LoopWork i) := by
  unfold LoopWork
  split <;> infer_instance

theorem sendInLoop_connected {world next : World ThreadId} {data : List Byte}
    {result : WriteResult} {es : List Event}
    (hstate : world.conn.state_ = States.kConnected)
    (hcall : SendInLoop world data result = Except.ok (next, es))
    (hnoclose : Event.handleClose ∉ es) :
    SameSide world next ∧ Payloads es = data := by
  unfold SendInLoop at hcall
  rw [if_neg (not_not.mpr hstate)] at hcall
  split at hcall
  · rcases then_ok_eq_ok.mp hcall with ⟨es', hdirect, rfl⟩
    have hrest : Event.handleClose ∉ es' :=
      fun hmem => hnoclose (List.mem_append_right _ hmem)
    rcases keeps_directWrite world data result next es' hdirect hrest with
      ⟨hsame, hes⟩
    refine ⟨hsame, ?_⟩
    rw [payloads_append, hes, List.append_nil]
    exact List.append_nil data
  · cases hcall
    exact ⟨sameSide_appendRemaining world data, List.append_nil data⟩

theorem runFunctor_cases {world next : World ThreadId} {result : WriteResult}
    {es : List Event} (hopen : Open world)
    (hcall : RunFunctor world result = Except.ok (next, es))
    (hnoclose : Event.handleClose ∉ es) :
    exists functor rest, world.pendingFunctors_ = functor :: rest ∧
      ((exists data, functor = Functor.sendInLoop data ∧
        SendInLoop { world with pendingFunctors_ := rest } data result =
          Except.ok (next, es)) ∨
      functor.Payload = [] ∧
        SameSide { world with pendingFunctors_ := rest } next ∧
        Payloads es = []) := by
  unfold RunFunctor at hcall
  split at hcall
  · cases hcall
  · rename_i functor rest hfunctors
    refine ⟨functor, rest, hfunctors, ?_⟩
    have htook : Open { world with pendingFunctors_ := rest } := hopen
    cases functor with
    | sendInLoop data => exact Or.inl ⟨data, rfl, hcall⟩
    | connectionEstablished =>
        exact Or.inr ⟨rfl,
          keeps_connectionEstablished htook next es hcall hnoclose⟩
    | startReadInLoop =>
        exact Or.inr ⟨rfl, keeps_startReadInLoop _ next es hcall hnoclose⟩
    | stopReadInLoop =>
        exact Or.inr ⟨rfl, keeps_stopReadInLoop _ next es hcall hnoclose⟩
    | shutdownInLoop =>
        exact Or.inr ⟨rfl, keeps_shutdownInLoop _ next es hcall hnoclose⟩
    | forceCloseInLoop =>
        exact Or.inr ⟨rfl, keeps_forceCloseInLoop _ next es hcall hnoclose⟩
    | highWaterMarkCallback bytes =>
        exact Or.inr ⟨rfl, keeps_invoke _ _ _ next es hcall hnoclose⟩
    | connectionDestroyed =>
        exact Or.inr ⟨rfl,
          keeps_connectionDestroyed htook next es hcall hnoclose⟩

theorem keeps_callApi {world : World ThreadId} {api : Api}
    (hloop : LoopWork (Input.api api : Input ThreadId)) :
    Keeps world (CallApi world api) := by
  cases api with
  | send data result => exact absurd hloop id
  | shutdown => exact absurd hloop id
  | forceClose => exact absurd hloop id
  | startRead => exact keeps_startReadInLoop world
  | stopRead => exact keeps_stopReadInLoop world
  | setWriteCompleteCallback set => exact keeps_ok ⟨rfl, rfl, rfl⟩ rfl
  | setMessageCallback set => exact keeps_ok ⟨rfl, rfl, rfl⟩ rfl
  | setHighWaterMarkCallback set => exact keeps_ok ⟨rfl, rfl, rfl⟩ rfl
  | setHighWaterMark highWaterMark => exact keeps_ok ⟨rfl, rfl, rfl⟩ rfl
  | retrieve len =>
      simp only [CallApi]
      split
      · exact keeps_error _
      · exact keeps_ok ⟨rfl, rfl, rfl⟩ rfl

theorem keeps_inLoop {world : World ThreadId}
    {call : Call (World ThreadId) Event} (h : Keeps world call) :
    Keeps world (InLoop world call) := by
  unfold InLoop
  split
  · exact h
  · exact keeps_error _

theorem keeps_onEvent {world : World ThreadId}
    {call : Call (World ThreadId) Event} (h : Keeps world call) :
    Keeps world (OnEvent world call) := by
  apply keeps_inLoop
  split
  · exact h
  · exact keeps_error _

theorem keeps_removeConnectionInLoop (world : World ThreadId) :
    Keeps world (RemoveConnectionInLoop world) := by
  unfold RemoveConnectionInLoop
  split
  · exact keeps_error _
  · refine keeps_ok ⟨rfl, rfl, ?_⟩ rfl
    show Queued (world.pendingFunctors_ ++ [_]) = _
    rw [queued_append]
    exact List.append_nil _

section Threads

variable [DecidableEq ThreadId]

theorem keeps_perform {world : World ThreadId} {i : Input ThreadId}
    (hloop : LoopWork i)
    (hfunctor : forall result, i ≠ Input.runFunctor result) :
    Keeps world (Perform world i) := by
  cases i with
  | api api => exact keeps_callApi hloop
  | returns => exact keeps_return world
  | runFunctor result => exact absurd rfl (hfunctor result)
  | handleRead result => exact keeps_onEvent (keeps_handleRead world result)
  | handleWrite result => exact keeps_onEvent (keeps_handleWrite world result)
  | handleClose => exact keeps_onEvent (keeps_handleClose world)
  | handleError => exact keeps_onEvent (keeps_ok (SameSide.refl world) rfl)
  | removeConnectionInLoop => exact keeps_removeConnectionInLoop world
  | remoteCall tid api => exact absurd hloop id
  | remoteNext tid => exact absurd hloop id

theorem loopWork_connected {world next : World ThreadId}
    {i : Input ThreadId} {es : List Event}
    (hstate : world.conn.state_ = States.kConnected) (hloop : LoopWork i)
    (hstep : (ConnectionMachine ThreadId).Step world i = some (next, es))
    (hnoclose : Event.handleClose ∉ es) :
    next.conn.state_ = States.kConnected ∧ next.callers = world.callers ∧
      Queued world.pendingFunctors_ =
        Payloads es ++ Queued next.pendingFunctors_ := by
  have hcall := answer_eq_some.mp hstep
  by_cases hfunctor : exists result, i = Input.runFunctor result
  · rcases hfunctor with ⟨result, rfl⟩
    simp only [Perform, InLoop] at hcall
    split at hcall
    · rcases runFunctor_cases (Or.inl hstate) hcall hnoclose with
        ⟨functor, rest, hfunctors, hsend | ⟨hpayload, hsame, hes⟩⟩
      · rcases hsend with ⟨data, rfl, hsend⟩
        have htook : ({ world with pendingFunctors_ := rest } :
            World ThreadId).conn.state_ = States.kConnected := hstate
        rcases sendInLoop_connected htook hsend hnoclose with ⟨hsame, hes⟩
        refine ⟨hsame.state.trans hstate, hsame.callers, ?_⟩
        rw [hfunctors, hes, hsame.queued]
        rfl
      · refine ⟨hsame.state.trans hstate, hsame.callers, ?_⟩
        rw [hfunctors, hes, hsame.queued]
        show functor.Payload ++ Queued rest = _
        rw [hpayload]
    · cases hcall
  · have hother : forall result, i ≠ Input.runFunctor result :=
      fun result h => hfunctor ⟨result, h⟩
    rcases keeps_perform hloop hother next es hcall hnoclose with ⟨hsame, hes⟩
    refine ⟨hsame.state.trans hstate, hsame.callers, ?_⟩
    rw [hes, hsame.queued, List.nil_append]

/-- A connection that is being shut down sends nothing more of the queue. -/
theorem loopWork_disconnecting {world next : World ThreadId}
    {i : Input ThreadId} {es : List Event}
    (hstate : world.conn.state_ = States.kDisconnecting) (hloop : LoopWork i)
    (hstep : (ConnectionMachine ThreadId).Step world i = some (next, es))
    (hnoclose : Event.handleClose ∉ es) :
    next.conn.state_ = States.kDisconnecting ∧
      next.callers = world.callers ∧ Payloads es = [] := by
  have hcall := answer_eq_some.mp hstep
  by_cases hfunctor : exists result, i = Input.runFunctor result
  · rcases hfunctor with ⟨result, rfl⟩
    simp only [Perform, InLoop] at hcall
    split at hcall
    · rcases runFunctor_cases (Or.inr hstate) hcall hnoclose with
        ⟨functor, rest, hfunctors, hsend | ⟨_, hsame, hes⟩⟩
      · rcases hsend with ⟨data, rfl, hsend⟩
        unfold SendInLoop at hsend
        rw [if_pos (by rw [hstate]; decide)] at hsend
        cases hsend
        exact ⟨hstate, rfl, rfl⟩
      · exact ⟨hsame.state.trans hstate, hsame.callers, hes⟩
    · cases hcall
  · have hother : forall result, i ≠ Input.runFunctor result :=
      fun result h => hfunctor ⟨result, h⟩
    rcases keeps_perform hloop hother next es hcall hnoclose with ⟨hsame, hes⟩
    exact ⟨hsame.state.trans hstate, hsame.callers, hes⟩

/-!
# The calls of one thread
-/

def RemoteSteps (inputs : List (Input ThreadId)) : List (Input ThreadId) :=
  inputs.filter (fun i => decide (¬LoopWork i))

/-- `Send` with each piece of data, and then the check of `Shutdown`. -/
def SendsThenShutdown (tid : ThreadId) :
    List (List Byte) -> List (Input ThreadId)
  | [] => [Input.remoteCall tid RemoteApi.shutdown]
  | data :: rest =>
      Input.remoteCall tid (RemoteApi.send data) :: Input.remoteNext tid ::
        SendsThenShutdown tid rest

inductive Ahead (tid : ThreadId) :
    Caller -> List Byte -> List (Input ThreadId) -> Prop where
  | calls (ds : List (List Byte)) :
      Ahead tid Caller.outside ds.flatten (SendsThenShutdown tid ds)
  | sending (data : List Byte) (ds : List (List Byte)) :
      Ahead tid (Caller.sending data) (data ++ ds.flatten)
        (Input.remoteNext tid :: SendsThenShutdown tid ds)
  | checked : Ahead tid Caller.shuttingDown [] []

omit [DecidableEq ThreadId] in
theorem remoteSteps_cons_of_loopWork {i : Input ThreadId}
    {rest : List (Input ThreadId)} (h : LoopWork i) :
    RemoteSteps (i :: rest) = RemoteSteps rest :=
  List.filter_cons_of_neg (by simpa using h)

omit [DecidableEq ThreadId] in
theorem remoteSteps_cons_of_not_loopWork {i : Input ThreadId}
    {rest : List (Input ThreadId)} (h : ¬LoopWork i) :
    RemoteSteps (i :: rest) = i :: RemoteSteps rest :=
  List.filter_cons_of_pos (by simpa using h)

theorem ahead_step {tid : ThreadId} {world next : World ThreadId}
    {i : Input ThreadId} {steps : List (Input ThreadId)} {data : List Byte}
    {es : List Event} (hstate : world.conn.state_ = States.kConnected)
    (hahead : Ahead tid (world.callers tid) data (i :: steps))
    (hstep : (ConnectionMachine ThreadId).Step world i = some (next, es)) :
    exists left, Ahead tid (next.callers tid) left steps ∧
      next.conn.state_ = States.kConnected ∧ Payloads es = [] ∧
      Queued world.pendingFunctors_ ++ data =
        Queued next.pendingFunctors_ ++ left := by
  have hcall := answer_eq_some.mp hstep
  generalize hcaller : world.callers tid = caller at hahead
  generalize hsteps : i :: steps = all at hahead
  cases hahead with
  | calls ds =>
      cases ds with
      | nil =>
          cases hsteps
          simp only [Perform, hcaller, RemoteCall, hstate, if_true] at hcall
          cases hcall
          refine ⟨[], ?_, hstate, rfl, rfl⟩
          simp only [SetCaller, Function.update_self]
          exact Ahead.checked
      | cons first ds =>
          cases hsteps
          simp only [Perform, hcaller, RemoteCall, hstate, if_true, ne_eq,
            not_true_eq_false, if_false] at hcall
          cases hcall
          refine ⟨first ++ ds.flatten, ?_, hstate, rfl, rfl⟩
          simp only [SetCaller, Function.update_self]
          exact Ahead.sending first ds
  | sending data ds =>
      cases hsteps
      simp only [Perform, RemoteNext, hcaller] at hcall
      cases hcall
      refine ⟨ds.flatten, ?_, hstate, rfl, ?_⟩
      · simp only [QueueInLoop, SetCaller, Function.update_self]
        exact Ahead.calls ds
      · simp only [QueueInLoop, SetCaller, queued_append]
        have hone : Queued [Functor.sendInLoop data] = data :=
          List.append_nil data
        rw [hone, List.append_assoc]
  | checked => cases hsteps

theorem run_before_store {tid : ThreadId} {before : List (Input ThreadId)}
    {world store : World ThreadId} {data : List Byte} {tr : List Event}
    (hstate : world.conn.state_ = States.kConnected)
    (hahead : Ahead tid (world.callers tid) data (RemoteSteps before))
    (hrun : (ConnectionMachine ThreadId).Run world before = some (store, tr))
    (hnoclose : Event.handleClose ∉ tr) :
    store.callers tid = Caller.shuttingDown ∧
      store.conn.state_ = States.kConnected ∧
      Queued world.pendingFunctors_ ++ data =
        Payloads tr ++ Queued store.pendingFunctors_ := by
  induction before generalizing world data tr with
  | nil =>
      cases hrun
      generalize hcaller : store.callers tid = caller at hahead
      generalize hsteps : RemoteSteps ([] : List (Input ThreadId)) = all
        at hahead
      cases hahead with
      | calls ds => cases ds <;> cases hsteps
      | sending data ds => cases hsteps
      | checked => exact ⟨rfl, hstate, List.append_nil _⟩
  | cons i rest ih =>
      rcases Machine.run_cons_without hrun hnoclose with
        ⟨mid, es, tail, hone, hrest, rfl, hfirst, hlater⟩
      rw [payloads_append]
      by_cases hloop : LoopWork i
      · rcases loopWork_connected hstate hloop hone hfirst with
          ⟨hmid, hcallers, hqueued⟩
        rw [remoteSteps_cons_of_loopWork hloop, ← hcallers] at hahead
        rcases ih hmid hahead hrest hlater with ⟨hcaller, hlast, hall⟩
        refine ⟨hcaller, hlast, ?_⟩
        rw [hqueued, List.append_assoc, List.append_assoc, hall]
      · rw [remoteSteps_cons_of_not_loopWork hloop] at hahead
        rcases ahead_step hstate hahead hone with
          ⟨left, hleft, hmid, hes, hqueued⟩
        rcases ih hmid hleft hrest hlater with ⟨hcaller, hlast, hall⟩
        refine ⟨hcaller, hlast, ?_⟩
        rw [hqueued, hall, hes, List.nil_append]

theorem run_after_store {tid : ThreadId} {after : List (Input ThreadId)}
    {world last : World ThreadId} {tr : List Event}
    (hstate : world.conn.state_ = States.kDisconnecting)
    (hsteps : RemoteSteps after = [] ∨
      RemoteSteps after = [Input.remoteNext tid] ∧
        world.callers tid = Caller.shutdownStored)
    (hrun : (ConnectionMachine ThreadId).Run world after = some (last, tr))
    (hnoclose : Event.handleClose ∉ tr) : Payloads tr = [] := by
  induction after generalizing world tr with
  | nil =>
      cases hrun
      rfl
  | cons i rest ih =>
      rcases Machine.run_cons_without hrun hnoclose with
        ⟨mid, es, tail, hone, hrest, rfl, hfirst, hlater⟩
      rw [payloads_append]
      by_cases hloop : LoopWork i
      · rcases loopWork_disconnecting hstate hloop hone hfirst with
          ⟨hmid, hcallers, hes⟩
        rw [remoteSteps_cons_of_loopWork hloop, ← hcallers] at hsteps
        rw [hes, ih hmid hsteps hrest hlater, List.append_nil]
      · rw [remoteSteps_cons_of_not_loopWork hloop] at hsteps
        rcases hsteps with hnone | ⟨hnext, hcaller⟩
        · cases hnone
        · rcases List.cons_eq_cons.mp hnext with ⟨rfl, hdone⟩
          have hcall := answer_eq_some.mp hone
          simp only [Perform, RemoteNext, hcaller] at hcall
          cases hcall
          have hmid : (QueueInLoop (SetCaller world tid Caller.outside)
              Functor.shutdownInLoop).conn.state_ = States.kDisconnecting :=
            hstate
          rw [ih hmid (Or.inl hdone) hrest hlater]
          rfl

theorem run_stream {inputs : List (Input ThreadId)}
    {world last : World ThreadId} {tr : List Event}
    (hrun : (ConnectionMachine ThreadId).Run world inputs = some (last, tr)) :
    Accepted tr ++ last.conn.outputBuffer_.Readable =
      world.conn.outputBuffer_.Readable ++ Payloads tr := by
  have hpath := run_refines hrun
  refine Path.invariant
    (I := fun core tr => Accepted tr ++ core.output =
      world.conn.outputBuffer_.Readable ++ Payloads tr)
    (A := fun _ => True) (p := []) ?_ ?_ (fun _ _ => trivial) hpath
  · intro core tr next es hinv _ hstep
    rw [accepted_append, payloads_append, List.append_assoc,
      ← step_moves hstep, ← List.append_assoc, hinv, List.append_assoc]
  · exact (List.append_nil _).symm

/-!
# The same calls on the loop thread
-/

def LoopSends : Input ThreadId -> Prop
  | Input.api (Api.send _ _) => True
  | i => LoopWork i

def Sent (inputs : List (Input ThreadId)) : List Byte :=
  inputs.flatMap fun
    | Input.api (Api.send data _) => data
    | _ => []

/-- On the loop thread every byte is handed over before `Send` returns. -/
theorem loop_drops_nothing {inputs : List (Input ThreadId)}
    {start last : World ThreadId} {tr : List Event}
    (hconnected : start.conn.state_ = States.kConnected)
    (hqueue : Queued start.pendingFunctors_ = [])
    (hloop : forall i, i ∈ inputs -> LoopSends i)
    (hrun : (ConnectionMachine ThreadId).Run start inputs = some (last, tr))
    (hnoclose : Event.handleClose ∉ tr) :
    Accepted tr ++ last.conn.outputBuffer_.Readable =
      start.conn.outputBuffer_.Readable ++ Sent inputs := by
  rw [run_stream hrun]
  congr 1
  induction inputs generalizing start tr with
  | nil =>
      cases hrun
      rfl
  | cons i rest ih =>
      rcases Machine.run_cons_without hrun hnoclose with
        ⟨mid, es, tail, hone, hrest, rfl, hfirst, hlater⟩
      have htail : forall j, j ∈ rest -> LoopSends j :=
        fun j hj => hloop j (List.mem_cons_of_mem i hj)
      have hhead := hloop i List.mem_cons_self
      rw [payloads_append, Sent, List.flatMap_cons]
      by_cases hwork : LoopWork i
      · rcases loopWork_connected hconnected hwork hone hfirst with
          ⟨hmid, _, hqueued⟩
        rw [hqueue, List.nil_eq, List.append_eq_nil_iff] at hqueued
        rw [hqueued.1, ih hmid hqueued.2 htail hrest hlater]
        cases i with
        | api api => cases api <;> first | rfl | exact absurd hwork id
        | _ => rfl
      · cases i with
        | api api =>
            cases api with
            | send data result =>
                have hcall := answer_eq_some.mp hone
                simp only [Perform, CallApi, Send, hconnected, ne_eq,
                  not_true_eq_false, if_false] at hcall
                rcases sendInLoop_connected hconnected hcall hfirst with
                  ⟨hsame, hes⟩
                rw [hes, ih (hsame.state.trans hconnected)
                  (hsame.queued.trans hqueue) htail hrest hlater]
                rfl
            | _ => exact absurd hhead hwork
        | _ => exact absurd hhead hwork

/-!
# The same calls on another thread
-/

/--
The thread sends `ds` and shuts down, and the loop works in between without
closing the connection.  Everything that was queued and everything of `ds`
reaches the socket or the output buffer, in order, exactly when no data waits in
the queue at the store of `Shutdown`.
-/
theorem shutdown_drops_nothing_iff {tid : ThreadId} {ds : List (List Byte)}
    {before after : List (Input ThreadId)}
    {start store stored last : World ThreadId} {tr es tr' : List Event}
    (hconnected : start.conn.state_ = States.kConnected)
    (houtside : start.callers tid = Caller.outside)
    (hcalls : RemoteSteps before = SendsThenShutdown tid ds)
    (hbefore : (ConnectionMachine ThreadId).Run start before =
      some (store, tr))
    (hstore : (ConnectionMachine ThreadId).Step store (Input.remoteNext tid) =
      some (stored, es))
    (hpush : RemoteSteps after = [Input.remoteNext tid])
    (hafter : (ConnectionMachine ThreadId).Run stored after =
      some (last, tr'))
    (hnoclose : Event.handleClose ∉ tr ++ (es ++ tr')) :
    Accepted (tr ++ (es ++ tr')) ++ last.conn.outputBuffer_.Readable =
        start.conn.outputBuffer_.Readable ++
          (Queued start.pendingFunctors_ ++ ds.flatten) <->
      Queued store.pendingFunctors_ = [] := by
  have hfirst : Event.handleClose ∉ tr :=
    fun hmem => hnoclose (List.mem_append_left _ hmem)
  have hlater : Event.handleClose ∉ tr' :=
    fun hmem => hnoclose
      (List.mem_append_right _ (List.mem_append_right _ hmem))
  have hahead : Ahead tid (start.callers tid) ds.flatten
      (RemoteSteps before) := by
    rw [houtside, hcalls]
    exact Ahead.calls ds
  rcases run_before_store hconnected hahead hbefore hfirst with
    ⟨hcaller, _, hqueued⟩
  have hcall := answer_eq_some.mp hstore
  simp only [Perform, RemoteNext, hcaller] at hcall
  cases hcall
  have hnone : Payloads tr' = [] := by
    refine run_after_store rfl (Or.inr ⟨hpush, ?_⟩) hafter hlater
    exact Function.update_self _ _ _
  have hwhole := Machine.run_append hbefore
    (Machine.run_cons_eq_some.mpr ⟨_, _, _, hstore, hafter, rfl⟩)
  rw [run_stream hwhole, hqueued, payloads_append, payloads_append, hnone]
  constructor
  · intro h
    simpa [Payloads, Event.Payload] using h
  · intro h
    rw [h]
    rfl

end Threads

/-- The queue is empty again when `Shutdown` is called. -/
theorem shutdown_drops_nothing_of_empty_queue :
    exists start store stored last : World Unit,
      exists tr0 tr es tr' : List Event,
        (ConnectionMachine Unit).Run (Init Unit CloseCallback.sameLoop)
          [Input.runFunctor (WriteResult.wrote 0), Input.returns] =
            some (start, tr0) ∧
        (ConnectionMachine Unit).Run start
          [Input.remoteCall () (RemoteApi.send [1]), Input.remoteNext (),
            Input.runFunctor (WriteResult.wrote 1),
            Input.remoteCall () RemoteApi.shutdown] = some (store, tr) ∧
        (ConnectionMachine Unit).Step store (Input.remoteNext ()) =
          some (stored, es) ∧
        (ConnectionMachine Unit).Run stored [Input.remoteNext ()] =
          some (last, tr') ∧
        Accepted (tr ++ (es ++ tr')) ++ last.conn.outputBuffer_.Readable =
          start.conn.outputBuffer_.Readable ++
            (Queued start.pendingFunctors_ ++ [1]) := by
  have hrun : exists start store stored last : World Unit,
      exists tr0 tr es tr' : List Event,
        (ConnectionMachine Unit).Run (Init Unit CloseCallback.sameLoop)
          [Input.runFunctor (WriteResult.wrote 0), Input.returns] =
            some (start, tr0) ∧
        (ConnectionMachine Unit).Run start
          [Input.remoteCall () (RemoteApi.send [1]), Input.remoteNext (),
            Input.runFunctor (WriteResult.wrote 1),
            Input.remoteCall () RemoteApi.shutdown] = some (store, tr) ∧
        (ConnectionMachine Unit).Step store (Input.remoteNext ()) =
          some (stored, es) ∧
        (ConnectionMachine Unit).Run stored [Input.remoteNext ()] =
          some (last, tr') ∧
        start.conn.state_ = States.kConnected ∧
        start.callers () = Caller.outside ∧
        store.pendingFunctors_ = [] ∧
        Event.handleClose ∉ tr ++ (es ++ tr') :=
    ⟨_, _, _, _, _, _, _, _, rfl, rfl, rfl, rfl, rfl, rfl, rfl, by decide⟩
  rcases hrun with ⟨start, store, stored, last, tr0, tr, es, tr', hstart,
    hbefore, hstore, hafter, hstate, hcaller, hempty, hnoclose⟩
  refine ⟨start, store, stored, last, tr0, tr, es, tr', hstart, hbefore,
    hstore, hafter, ?_⟩
  have hcalls : RemoteSteps [Input.remoteCall () (RemoteApi.send [1]),
      Input.remoteNext (), Input.runFunctor (WriteResult.wrote 1),
      Input.remoteCall () RemoteApi.shutdown] =
        SendsThenShutdown () [[1]] := rfl
  apply (shutdown_drops_nothing_iff hstate hcaller hcalls hbefore hstore rfl
    hafter hnoclose).mpr
  rw [hempty]
  rfl

/-- `Shutdown` overtakes the data that was sent before it. -/
theorem shutdown_drops_queued_send :
    exists start store stored last : World Unit,
      exists tr0 tr es tr' : List Event,
        (ConnectionMachine Unit).Run (Init Unit CloseCallback.sameLoop)
          [Input.runFunctor (WriteResult.wrote 0), Input.returns] =
            some (start, tr0) ∧
        start.conn.state_ = States.kConnected ∧
        (ConnectionMachine Unit).Run start
          [Input.remoteCall () (RemoteApi.send [1]), Input.remoteNext (),
            Input.remoteCall () RemoteApi.shutdown] = some (store, tr) ∧
        (ConnectionMachine Unit).Step store (Input.remoteNext ()) =
          some (stored, es) ∧
        (ConnectionMachine Unit).Run stored
          [Input.remoteNext (), Input.runFunctor (WriteResult.wrote 1),
            Input.runFunctor (WriteResult.wrote 0)] = some (last, tr') ∧
        last.pendingFunctors_ = [] ∧
        Event.handleClose ∉ tr ++ (es ++ tr') ∧
        Accepted (tr ++ (es ++ tr')) ++ last.conn.outputBuffer_.Readable = [] :=
  ⟨_, _, _, _, _, _, _, _, rfl, rfl, rfl, rfl, rfl, rfl, by decide, rfl⟩

end TcpConnection
end Net
end Wethands
