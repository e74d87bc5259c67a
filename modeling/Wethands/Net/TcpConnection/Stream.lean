import Wethands.Net.TcpConnection.Core

/-!
# The output stream

What the socket has accepted and what still waits in the output buffer are
together what was sent, in the order in which it was sent.
-/

namespace Wethands
namespace Net

open Foundation

namespace TcpConnection

def Event.Accepted : Event -> List Byte
  | Event.accepted bytes => bytes
  | _ => []

/-- The payload of a `SendInLoop` that found the connection connected. -/
def Event.Payload : Event -> List Byte
  | Event.sendInLoop data => data
  | _ => []

def Accepted (tr : List Event) : List Byte :=
  tr.flatMap Event.Accepted

def Payloads (tr : List Event) : List Byte :=
  tr.flatMap Event.Payload

def Silent (es : List Event) : Prop :=
  Accepted es = [] ∧ Payloads es = []

@[simp] theorem accepted_append (tr es : List Event) :
    Accepted (tr ++ es) = Accepted tr ++ Accepted es :=
  List.flatMap_append

@[simp] theorem payloads_append (tr es : List Event) :
    Payloads (tr ++ es) = Payloads tr ++ Payloads es :=
  List.flatMap_append

section Core

variable {ThreadId : Type} [DecidableEq ThreadId]

omit [DecidableEq ThreadId] in
theorem silent_shutdownEvents (core : Core ThreadId) :
    Silent core.ShutdownEvents := by
  unfold Core.ShutdownEvents
  split <;> exact ⟨rfl, rfl⟩

theorem step_moves {core next : Core ThreadId} {es : List Event}
    (h : Core.Step true core next es) :
    core.output ++ Payloads es = Accepted es ++ next.output := by
  cases h with
  | sentAtOnce data hstate hidle =>
      simp [Payloads, Accepted, Event.Payload, Event.Accepted, hidle.2]
  | sentPart data n complete hstate hidle hle hrest =>
      simp [Payloads, Accepted, Event.Payload, Event.Accepted, hidle.2]
  | sentNothing data errno complete hstate hidle =>
      simp [Payloads, Accepted, Event.Payload, Event.Accepted, hidle.2]
  | sentLater data hstate hbusy =>
      simp [Payloads, Accepted, Event.Payload, Event.Accepted]
  | wrote n hwriting hpos hle =>
      simp [Payloads, Accepted, Event.Payload, Event.Accepted]
  | tookShutdown rest hfunctors =>
      have hsilent := silent_shutdownEvents core
      rw [hsilent.1, hsilent.2, List.append_nil, List.nil_append]
  | called => exact List.append_nil _
  | queued => exact List.append_nil _
  | took => exact List.append_nil _
  | moved => exact List.append_nil _
  | established => exact List.append_nil _
  | shutdown => exact List.append_nil _
  | shutdownAfterWrite => exact List.append_nil _
  | shutdownChecked => exact List.append_nil _
  | shutdownStored => exact List.append_nil _
  | shutdownQueued => exact List.append_nil _
  | forceClose => exact List.append_nil _
  | closed => exact List.append_nil _
  | closedHere => exact List.append_nil _
  | removed => exact List.append_nil _
  | destroyed => exact List.append_nil _

def StreamInvariant (core : Core ThreadId) (tr : List Event) : Prop :=
  Accepted tr ++ core.output = Payloads tr

theorem streamInvariant_step {core next : Core ThreadId}
    {tr es : List Event} (hinv : StreamInvariant core tr)
    (hstep : Core.Step true core next es) :
    StreamInvariant next (tr ++ es) := by
  unfold StreamInvariant at hinv ⊢
  rw [accepted_append, payloads_append, ← hinv, List.append_assoc,
    List.append_assoc, step_moves hstep]

/--
At every moment the accepted bytes and the readable bytes of the output buffer
are the payloads of the sends, nothing lost, doubled or out of order.
-/
theorem output_stream {closeCallback : CloseCallback}
    {inputs : List (Input ThreadId)} {world : World ThreadId}
    {tr : List Event}
    (hrun : (ConnectionMachine ThreadId).Run (Init ThreadId closeCallback)
      inputs = some (world, tr)) :
    Accepted tr ++ world.conn.outputBuffer_.Readable = Payloads tr := by
  have hinit : StreamInvariant (View (Init ThreadId closeCallback)) [] :=
    Buffer.readable_new Buffer.kInitialSize
  exact Path.invariant (I := StreamInvariant) (A := fun _ => True) (p := [])
    (fun core tr next es hinv _ hstep => streamInvariant_step hinv hstep)
    hinit (fun _ _ => trivial) (run_refines hrun)

end Core

def MixedRun : List (Input Unit) :=
  [Input.runFunctor (WriteResult.wrote 0),
    Input.api (Api.send [1, 2, 3] (WriteResult.wrote 1)),
    Input.returns, Input.handleWrite (WriteResult.wrote 1),
    Input.api (Api.send [4] (WriteResult.wrote 0))]

def MixedTrace : List Event :=
  [Event.stored States.kConnecting States.kConnected,
    Event.called (Callback.connection States.kConnected),
    Event.sendInLoop [1, 2, 3],
    Event.directWrite 3 (WriteResult.wrote 1) false, Event.accepted [1],
    Event.accepted [2], Event.sendInLoop [4]]

theorem output_stream_mixed :
    exists world,
      (ConnectionMachine Unit).Run (Init Unit CloseCallback.sameLoop)
        MixedRun = some (world, MixedTrace) ∧
      [1, 2] ++ world.conn.outputBuffer_.Readable = [1, 2, 3, 4] := by
  have hrun : ((ConnectionMachine Unit).Run
      (Init Unit CloseCallback.sameLoop) MixedRun).map
        (fun last => (last.1.conn.state_, last.2)) =
      some (States.kConnected, MixedTrace) := by
    decide +kernel
  rcases (ConnectionMachine Unit).exists_run
    (fun world => world.conn.state_) hrun with ⟨world, hworld, _⟩
  have hstream := output_stream hworld
  exact ⟨world, hworld, hstream⟩

end TcpConnection
end Net
end Wethands
