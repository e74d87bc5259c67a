import Wethands.Net.TcpConnection.RemoteShutdown

/-!
# The loop by itself

As long as nobody calls `Send` or `Shutdown`, the loop sends nothing new, and
the connection is connected from its establishment to its end.
-/

namespace Wethands
namespace Net

open Foundation

namespace TcpConnection

def Event.OfLoop : Event -> Prop
  | Event.sendInLoop _ => False
  | Event.stored _ States.kDisconnecting => False
  | _ => True

def Input.OfLoop {ThreadId : Type} : Input ThreadId -> Prop
  | Input.api _ => False
  | Input.remoteCall _ _ => False
  | Input.remoteNext _ => False
  | _ => True

variable {ThreadId : Type}

def Functor.OfLoop : Functor -> Bool
  | Functor.connectionEstablished => true
  | Functor.highWaterMarkCallback _ => true
  | Functor.connectionDestroyed => true
  | _ => false

def NoCalls (world : World ThreadId) : Prop :=
  forall functor, functor ∈ world.pendingFunctors_ -> functor.OfLoop = true

def Quiet (call : Call (World ThreadId) Event) : Prop :=
  Yields call (fun next es => NoCalls next ∧ forall e, e ∈ es -> e.OfLoop)

variable {world : World ThreadId}

theorem quiet_ok {es : List Event} (h : NoCalls world)
    (hes : forall e, e ∈ es -> e.OfLoop) :
    Quiet (Except.ok (world, es)) :=
  yields_ok.mpr ⟨h, hes⟩

theorem quiet_error {failure : Failure} :
    Quiet (Except.error failure : Call (World ThreadId) Event) :=
  yields_error

theorem quiet_then {es : List Event}
    {second : World ThreadId -> Call (World ThreadId) Event}
    (hes : forall e, e ∈ es -> e.OfLoop) (h : Quiet (second world)) :
    Quiet (Then (Except.ok (world, es)) second) := by
  refine Yields.in_turn (yields_ok.mpr ?_)
  refine Yields.mono h (fun next es' hboth => ⟨hboth.1, fun e he => ?_⟩)
  rcases List.mem_append.mp he with he | he
  · exact hes e he
  · exact hboth.2 e he

theorem noCalls_queueInLoop (h : NoCalls world) {functor : Functor}
    (hfunctor : functor.OfLoop = true) :
    NoCalls (QueueInLoop world functor) := by
  intro other hmem
  rcases List.mem_append.mp hmem with hmem | hmem
  · exact h other hmem
  · rwa [List.mem_singleton.mp hmem]

/-!
# The functions of the loop
-/

theorem quiet_shutdownInLoop (h : NoCalls world) :
    Quiet (ShutdownInLoop world) := by
  unfold ShutdownInLoop
  split <;>
    · refine quiet_ok h ?_
      simp [Event.OfLoop]

theorem quiet_handleWriteCompleted (h : NoCalls world) :
    Quiet (HandleWriteCompleted world) := by
  unfold HandleWriteCompleted
  split
  · exact quiet_shutdownInLoop h
  · refine quiet_ok h ?_
    simp

theorem quiet_invoke (h : NoCalls world) (callback : Callback)
    (frame : Frame) : Quiet (Invoke world callback frame) := by
  refine quiet_ok h ?_
  simp [Event.OfLoop]

theorem quiet_connectionDestroyed (h : NoCalls world) :
    Quiet (ConnectionDestroyed world) := by
  refine Yields.assert (fun _ => ?_)
  split
  · exact quiet_error
  · refine quiet_invoke ?_ _ _
    exact h

theorem quiet_handleClose (h : NoCalls world) :
    Quiet (HandleClose world) := by
  refine Yields.assert (fun _ => quiet_then (by simp [Event.OfLoop]) ?_)
  refine quiet_then (by simp [Event.OfLoop]) ?_
  refine quiet_then (by simp [Event.OfLoop]) ?_
  split
  · exact quiet_connectionDestroyed h
  · refine quiet_ok h ?_
    simp

theorem quiet_connectionEstablished (h : NoCalls world) :
    Quiet (ConnectionEstablished world) := by
  refine Yields.assert (fun _ => quiet_then ?_ ?_)
  · simp [Event.OfLoop]
  · refine quiet_invoke ?_ _ _
    exact h

theorem quiet_handleRead (h : NoCalls world) (result : ReadResult) :
    Quiet (HandleRead world result) := by
  cases result with
  | failed =>
      refine quiet_ok h ?_
      simp
  | received bytes =>
      simp only [HandleRead]
      split
      · exact quiet_error
      · split
        · exact quiet_handleClose h
        · split
          · refine quiet_invoke ?_ _ _
            exact h
          · refine quiet_ok h ?_
            simp

theorem quiet_handleWritten (h : NoCalls world) :
    Quiet (HandleWritten world) := by
  unfold HandleWritten
  split
  · split
    · exact quiet_invoke h _ _
    · exact quiet_handleWriteCompleted h
  · refine quiet_ok h ?_
    simp

theorem quiet_handleWrite (h : NoCalls world) (result : WriteResult) :
    Quiet (HandleWrite world result) := by
  cases result with
  | failed errno =>
      refine quiet_ok h ?_
      simp
  | wrote n =>
      simp only [HandleWrite]
      split
      · refine quiet_ok h ?_
        simp
      · split
        · split
          · split
            · exact quiet_error
            · refine quiet_then (by simp [Event.OfLoop]) ?_
              exact quiet_handleWritten h
          · refine quiet_ok h ?_
            simp
        · exact quiet_error

theorem quiet_return (h : NoCalls world) : Quiet (Return world) := by
  unfold Return
  split
  · exact quiet_error
  · refine quiet_ok h ?_
    simp
  · exact quiet_handleWriteCompleted h

theorem conn_return {next : World ThreadId} {es : List Event}
    (h : Return world = Except.ok (next, es)) : next.conn = world.conn := by
  unfold Return at h
  split at h
  · cases h
  · cases h
    rfl
  · unfold HandleWriteCompleted ShutdownInLoop at h
    split at h
    · split at h <;> cases h <;> rfl
    · cases h
      rfl

theorem quiet_runFunctor (h : NoCalls world) (result : WriteResult) :
    Quiet (RunFunctor world result) := by
  unfold RunFunctor
  split
  · exact quiet_error
  · rename_i functor rest hfunctors
    have hrest : NoCalls { world with pendingFunctors_ := rest } := by
      intro other hmem
      apply h other
      rw [hfunctors]
      exact List.mem_cons_of_mem functor hmem
    have hloop : functor.OfLoop = true := by
      apply h functor
      rw [hfunctors]
      exact List.mem_cons_self
    cases functor with
    | connectionEstablished => exact quiet_connectionEstablished hrest
    | highWaterMarkCallback bytes => exact quiet_invoke hrest _ _
    | connectionDestroyed => exact quiet_connectionDestroyed hrest
    | _ => cases hloop

theorem quiet_removeConnectionInLoop (h : NoCalls world) :
    Quiet (RemoveConnectionInLoop world) := by
  unfold RemoveConnectionInLoop
  split
  · exact quiet_error
  · exact quiet_ok (noCalls_queueInLoop h rfl) (by simp)

theorem quiet_onEvent {call : Call (World ThreadId) Event}
    (h : Quiet call) : Quiet (OnEvent world call) :=
  Yields.only_if (fun _ => Yields.only_if (fun _ => h))

section Threads

variable [DecidableEq ThreadId]

theorem quiet_perform (h : NoCalls world) {i : Input ThreadId}
    (hinput : i.OfLoop) : Quiet (Perform world i) := by
  cases i with
  | api | remoteCall | remoteNext => exact absurd hinput id
  | returns => exact quiet_return h
  | runFunctor result =>
      exact Yields.only_if (fun _ => quiet_runFunctor h result)
  | handleRead result => exact quiet_onEvent (quiet_handleRead h result)
  | handleWrite result => exact quiet_onEvent (quiet_handleWrite h result)
  | handleClose => exact quiet_onEvent (quiet_handleClose h)
  | handleError => exact quiet_onEvent (quiet_ok h (by simp))
  | removeConnectionInLoop => exact quiet_removeConnectionInLoop h

end Threads

theorem payloads_ofLoop {es : List Event}
    (h : forall e, e ∈ es -> e.OfLoop) : Payloads es = [] := by
  refine List.flatMap_eq_nil_iff.mpr (fun e he => ?_)
  have hloop := h e he
  cases e with
  | sendInLoop data => exact absurd hloop id
  | _ => rfl

/-!
# Calls of the user on the loop thread
-/

def Event.Connects (connected : Bool) : Event -> Bool
  | Event.stored States.kConnecting States.kConnected => true
  | Event.handleClose => false
  | _ => connected

def Connected (connected : Bool) (tr : List Event) : Bool :=
  tr.foldl Event.Connects connected

theorem connected_append (connected : Bool) (tr es : List Event) :
    Connected connected (tr ++ es) = Connected (Connected connected tr) es :=
  List.foldl_append

structure Spares (world next : World ThreadId) : Prop where
  noCalls : NoCalls world -> NoCalls next
  inputBuffer_ : next.conn.inputBuffer_ = world.conn.inputBuffer_
  messageCallback_ : next.conn.messageCallback_ = world.conn.messageCallback_

theorem spares_appendRemaining (world : World ThreadId)
    (remaining : List Byte) :
    Spares world (AppendRemaining world remaining) := by
  unfold AppendRemaining
  dsimp only
  split
  · exact ⟨fun h => noCalls_queueInLoop h rfl, rfl, rfl⟩
  · exact ⟨fun h => h, rfl, rfl⟩

theorem send_spec (world : World ThreadId) (data : List Byte)
    (result : WriteResult) :
    Yields (Send world data result) (fun next es =>
      Spares world next ∧ next.conn.state_ = world.conn.state_ ∧
        (forall connected, Connected connected es = connected) ∧
        Payloads es =
          if world.conn.state_ = States.kConnected then data else []) := by
  have hrefl : Spares world world := ⟨fun h => h, rfl, rfl⟩
  unfold Send
  by_cases hstate : world.conn.state_ = States.kConnected
  · rw [if_neg (not_not.mpr hstate)]
    unfold SendInLoop
    simp only [if_neg (not_not.mpr hstate), if_pos hstate]
    split
    · refine Yields.in_turn (yields_ok.mpr ?_)
      cases result with
      | wrote n =>
          refine Yields.only_if (fun _ => ?_)
          split
          · refine Yields.in_turn (yields_ok.mpr (yields_ok.mpr ?_))
            exact ⟨⟨fun h => h, rfl, rfl⟩, rfl, fun _ => rfl,
              List.append_nil data⟩
          · exact yields_ok.mpr ⟨spares_appendRemaining world _,
              (sameSide_appendRemaining world _).state, fun _ => rfl,
              List.append_nil data⟩
      | failed errno =>
          cases errno with
          | other => exact yields_error
          | EPIPE | EINTR | EWOULDBLOCK =>
              exact yields_ok.mpr ⟨spares_appendRemaining world data,
                (sameSide_appendRemaining world data).state, fun _ => rfl,
                List.append_nil data⟩
    · exact yields_ok.mpr ⟨spares_appendRemaining world data,
        (sameSide_appendRemaining world data).state, fun _ => rfl,
        List.append_nil data⟩
  · rw [if_pos hstate]
    exact yields_ok.mpr ⟨hrefl, rfl, fun _ => rfl, (if_neg hstate).symm⟩

theorem shutdown_spec (world : World ThreadId) :
    Yields (Shutdown world) (fun next es =>
      Spares world next ∧ next.conn.state_ ≠ States.kConnected ∧
        (forall connected, Connected connected es = connected) ∧
        Payloads es = []) := by
  unfold Shutdown
  split
  · refine Yields.in_turn (yields_ok.mpr ?_)
    refine Yields.in_turn (yields_ok.mpr ?_)
    unfold ShutdownInLoop
    simp only [reduceCtorEq, false_and, if_false]
    refine yields_ok.mpr
      ⟨⟨fun h => h, rfl, rfl⟩, by simp, fun _ => ?_, rfl⟩
    rw [‹world.conn.state_ = States.kConnected›]
    rfl
  · rename_i hstate
    exact yields_ok.mpr
      ⟨⟨fun h => h, rfl, rfl⟩, hstate, fun _ => rfl, rfl⟩

/-!
# What the loop reads
-/

def Input.Brings : Input ThreadId -> List Byte
  | Input.handleRead (ReadResult.received bytes) => bytes
  | _ => []

/--
What has arrived is behind what was there, a message is about bytes, and no
connection comes up.
-/
structure Delivers (world next : World ThreadId) (bytes : List Byte)
    (es : List Event) : Prop where
  inputBuffer_ : next.conn.inputBuffer_.Readable =
    world.conn.inputBuffer_.Readable ++ bytes
  messageCallback_ : next.conn.messageCallback_ = world.conn.messageCallback_
  message : es.getLast? = some (Event.called Callback.message) <-> bytes ≠ []
  connection : forall state,
    es.getLast? = some (Event.called (Callback.connection state)) ->
      next.conn.state_ ≠ States.kConnected

theorem delivers_nothing {next : World ThreadId} {es : List Event}
    (hbuffer : next.conn.inputBuffer_.Readable =
      world.conn.inputBuffer_.Readable)
    (hcallback : next.conn.messageCallback_ = world.conn.messageCallback_)
    (hmessage : es.getLast? ≠ some (Event.called Callback.message))
    (hconnection : forall state,
      es.getLast? = some (Event.called (Callback.connection state)) ->
        next.conn.state_ ≠ States.kConnected) :
    Delivers world next [] es where
  inputBuffer_ := hbuffer.trans (List.append_nil _).symm
  messageCallback_ := hcallback
  message := iff_of_false hmessage (not_not.mpr rfl)
  connection := hconnection

theorem delivers_handleClose {start : World ThreadId}
    (hbuffer : world.conn.inputBuffer_.Readable =
      start.conn.inputBuffer_.Readable)
    (hcallback : world.conn.messageCallback_ =
      start.conn.messageCallback_) :
    Yields (HandleClose world)
      (fun next es => Delivers start next [] es) := by
  refine Yields.assert (fun _ => ?_)
  refine Yields.in_turn (yields_ok.mpr ?_)
  refine Yields.in_turn (yields_ok.mpr ?_)
  refine Yields.in_turn (yields_ok.mpr ?_)
  dsimp only
  split
  · refine Yields.assert (fun hstate => ?_)
    split
    · exact yields_error
    · refine yields_ok.mpr (delivers_nothing hbuffer hcallback ?_ ?_)
      · simp
      · intro state _ hconnected
        cases hconnected.symm.trans hstate
  · refine yields_ok.mpr (delivers_nothing hbuffer hcallback ?_ ?_)
    · simp
    · simp

theorem delivers_handleWriteCompleted {start : World ThreadId}
    {es : List Event}
    (hbuffer : world.conn.inputBuffer_ = start.conn.inputBuffer_)
    (hcallback : world.conn.messageCallback_ = start.conn.messageCallback_)
    (hes : forall callback, es.getLast? ≠ some (Event.called callback)) :
    Yields (HandleWriteCompleted world)
      (fun next es' => Delivers start next [] (es ++ es')) := by
  unfold HandleWriteCompleted ShutdownInLoop
  split
  · split
    · refine yields_ok.mpr (delivers_nothing ?_ hcallback ?_ ?_)
      · rw [hbuffer]
      · simp
      · simp
    · refine yields_ok.mpr (delivers_nothing ?_ hcallback ?_ ?_)
      · rw [hbuffer]
      · simp
      · simp
  · refine yields_ok.mpr (delivers_nothing ?_ hcallback ?_ ?_)
    · rw [hbuffer]
    · rw [List.append_nil]
      exact hes _
    · rw [List.append_nil]
      exact fun state hlast => absurd hlast (hes _)

/-!
# From the establishment to the end
-/

section Threads

variable [DecidableEq ThreadId]

theorem stream_of_path {closeCallback : CloseCallback}
    {es : List Event}
    (hpath : Path (Core.Step true) (View (Init ThreadId closeCallback))
      (View world) es) :
    Accepted es ++ world.conn.outputBuffer_.Readable = Payloads es := by
  have hinit : StreamInvariant (View (Init ThreadId closeCallback)) [] :=
    Buffer.readable_new Buffer.kInitialSize
  exact Path.invariant (I := StreamInvariant) (A := fun _ => True) (p := [])
    (fun _ _ _ _ hinv _ hstep => streamInvariant_step hinv hstep) hinit
    (fun _ _ => trivial) hpath

theorem connected_step {core next : Core ThreadId} {es : List Event}
    (hstep : Core.Step true core next es)
    (hes : forall e, e ∈ es -> e.OfLoop) :
    Connected (decide (core.state_ = States.kConnected)) es =
      decide (next.state_ = States.kConnected) := by
  cases hstep with
  | sentAtOnce | sentPart | sentNothing | sentLater =>
      exact absurd (hes _ List.mem_cons_self) id
  | shutdown =>
      exact absurd (hes _ (List.mem_cons_of_mem _ List.mem_cons_self)) id
  | shutdownStored | forceClose =>
      exact absurd (hes _ List.mem_cons_self) id
  | tookShutdown rest hfunctors =>
      unfold Core.ShutdownEvents
      split <;> rfl
  | closed hstate | closedHere hstate =>
      rcases hstate with hstate | hstate <;> rw [hstate] <;> rfl
  | called | queued | took | moved | established | wrote
  | shutdownAfterWrite | shutdownChecked | shutdownQueued | removed
  | destroyed => rfl

theorem connected_path {core next : Core ThreadId} {es : List Event}
    (hpath : Path (Core.Step true) core next es)
    (hes : forall e, e ∈ es -> e.OfLoop) :
    Connected (decide (core.state_ = States.kConnected)) es =
      decide (next.state_ = States.kConnected) := by
  refine Path.invariant
    (I := fun next es =>
      Connected (decide (core.state_ = States.kConnected)) es =
        decide (next.state_ = States.kConnected))
    (A := Event.OfLoop) (p := []) ?_ rfl hes hpath
  intro mid tr next es hinv hloop hstep
  rw [connected_append, hinv, connected_step hstep hloop]

def Event.Establishes : Event -> Prop
  | Event.stored States.kConnecting States.kConnected => True
  | _ => False

theorem established_once {core next : Core ThreadId} {es : List Event}
    (hpath : Path (Core.Step true) core next es)
    (hstate : core.state_ ≠ States.kConnecting) :
    next.state_ ≠ States.kConnecting ∧
      forall e, e ∈ es -> ¬e.Establishes := by
  refine Path.invariant
    (I := fun next es => next.state_ ≠ States.kConnecting ∧
      forall e, e ∈ es -> ¬e.Establishes)
    (A := fun _ => True) (p := []) ?_ ⟨hstate, by simp⟩ (fun _ _ => trivial)
    hpath
  intro mid tr next es hinv _ hstep
  have hone : next.state_ ≠ States.kConnecting ∧
      forall e, e ∈ es -> ¬e.Establishes := by
    rcases hinv with ⟨hmid, _⟩
    cases hstep with
    | established hconnecting => exact absurd hconnecting hmid
    | tookShutdown rest hfunctors =>
        refine ⟨hmid, ?_⟩
        unfold Core.ShutdownEvents
        split <;> simp [Event.Establishes]
    | shutdown | shutdownStored | forceClose | closed | closedHere =>
        refine ⟨by simp, ?_⟩
        simp [Event.Establishes]
    | called | queued | took | moved | sentAtOnce | sentPart | sentNothing
    | sentLater | wrote | shutdownAfterWrite | shutdownChecked
    | shutdownQueued | removed | destroyed =>
        refine ⟨hmid, ?_⟩
        simp [Event.Establishes]
  refine ⟨hone.1, fun e he => ?_⟩
  rcases List.mem_append.mp he with he | he
  · exact hinv.2 e he
  · exact hone.2 e he

theorem perform_delivers (hstate : world.conn.state_ ≠ States.kConnecting)
    (hcalls : NoCalls world) (hset : world.conn.messageCallback_ = true)
    {i : Input ThreadId} (hinput : i.OfLoop) :
    Yields (Perform world i)
      (fun next es => Delivers world next i.Brings es) := by
  have hnothing : Yields (Except.ok (world, ([] : List Event)))
      (fun next es => Delivers world next [] es) :=
    yields_ok.mpr (delivers_nothing rfl rfl (by simp) (by simp))
  cases i with
  | api | remoteCall | remoteNext => exact absurd hinput id
  | returns =>
      show Yields (Return world) _
      unfold Return
      split
      · exact yields_error
      · exact yields_ok.mpr (delivers_nothing rfl rfl (by simp) (by simp))
      · exact @delivers_handleWriteCompleted _ _ world [] rfl rfl (by simp)
  | runFunctor result =>
      refine Yields.only_if (fun _ => ?_)
      unfold RunFunctor
      split
      · exact yields_error
      · rename_i functor rest hfunctors
        have hloop : functor.OfLoop = true := by
          apply hcalls functor
          rw [hfunctors]
          exact List.mem_cons_self
        cases functor with
        | connectionEstablished =>
            exact Yields.assert (fun hconnecting => absurd hconnecting hstate)
        | highWaterMarkCallback bytes =>
            refine yields_ok.mpr (delivers_nothing rfl rfl ?_ ?_)
            · simp
            · simp
        | connectionDestroyed =>
            refine Yields.assert (fun hdisconnected => ?_)
            split
            · exact yields_error
            · refine yields_ok.mpr (delivers_nothing rfl rfl (by simp) ?_)
              intro state _ hconnected
              cases hconnected.symm.trans hdisconnected
        | _ => cases hloop
  | handleRead result =>
      refine Yields.only_if (fun _ => Yields.only_if (fun _ => ?_))
      cases result with
      | failed => exact hnothing
      | received bytes =>
          show Yields (HandleRead world (ReadResult.received bytes)) _
          simp only [HandleRead]
          cases hread : world.conn.inputBuffer_.ReadFd bytes with
          | error failure => exact yields_error
          | ok inputBuffer_ =>
              have hreadable := Buffer.readable_of_readFd hread
              dsimp only
              split
              · rename_i hempty
                rw [hempty, List.append_nil] at hreadable
                simp only [Input.Brings, hempty]
                exact delivers_handleClose hreadable rfl
              · rename_i hbytes
                simp only [hset]
                refine yields_ok.mpr ⟨hreadable, hset.symm, ?_, ?_⟩
                · exact iff_of_true rfl hbytes
                · simp
  | handleWrite result =>
      refine Yields.only_if (fun _ => Yields.only_if (fun _ => ?_))
      cases result with
      | failed errno => exact hnothing
      | wrote n =>
          show Yields (HandleWrite world (WriteResult.wrote n)) _
          simp only [HandleWrite]
          split
          · exact hnothing
          · split
            · split
              · split
                · exact yields_error
                · refine Yields.in_turn (yields_ok.mpr ?_)
                  unfold HandleWritten
                  split
                  · split
                    · refine yields_ok.mpr (delivers_nothing rfl rfl ?_ ?_)
                      · simp
                      · simp
                    · exact delivers_handleWriteCompleted rfl rfl (by simp)
                  · refine yields_ok.mpr (delivers_nothing rfl rfl ?_ ?_)
                    · simp
                    · simp
              · exact hnothing
            · exact yields_error
  | handleClose =>
      refine Yields.only_if (fun _ => Yields.only_if (fun _ => ?_))
      exact delivers_handleClose rfl rfl
  | handleError =>
      exact Yields.only_if (fun _ => Yields.only_if (fun _ => hnothing))
  | removeConnectionInLoop =>
      show Yields (RemoveConnectionInLoop world) _
      unfold RemoveConnectionInLoop
      split
      · exact yields_error
      · exact yields_ok.mpr (delivers_nothing rfl rfl (by simp) (by simp))

end Threads
end TcpConnection
end Net
end Wethands
