import Wethands.Foundation.Link
import Wethands.Net.TcpConnection.Notices

/-!
# Two connections and the network between them

What the user of one end sends goes through its output buffer, through the
network and through the input buffer of the other end, and comes out there as
it went in.
-/

namespace Wethands
namespace Net

open Foundation

namespace TcpConnection

def Wire (ThreadId : Type) : Port (Input ThreadId) Event Byte where
  Reads := Input.Brings
  Writes := Event.Accepted

section OneEnd

variable {ThreadId : Type} [DecidableEq ThreadId]

def RetrievedFrom (world : World ThreadId) (inputs : List (Input ThreadId)) :
    List Byte :=
  (ConnectionMachine ThreadId).Collect (fun world i _ => Retrieves world i)
    world inputs

theorem run_retrieves {inputs : List (Input ThreadId)}
    {world next : World ThreadId} {tr : List Event}
    (hrun : (ConnectionMachine ThreadId).Run world inputs =
      some (next, tr)) :
    world.conn.inputBuffer_.Readable ++ (Wire ThreadId).Read inputs =
      RetrievedFrom world inputs ++ next.conn.inputBuffer_.Readable := by
  induction inputs generalizing world tr with
  | nil =>
      cases hrun
      exact List.append_nil _
  | cons i rest ih =>
      rcases Machine.run_cons_eq_some.mp hrun with
        ⟨mid, es, tail, hone, hrest, rfl⟩
      have hreports := perform_reports world i mid es
        (answer_eq_some.mp hone)
      have hmid := ih hrest
      rw [RetrievedFrom, Machine.Collect, hone, List.append_assoc]
      show _ = _ ++ (RetrievedFrom mid rest ++ _)
      rw [← hmid, ← List.append_assoc, ← hreports.input, List.append_assoc]
      rfl

theorem run_retrieves_init {closeCallback : CloseCallback}
    {inputs : List (Input ThreadId)} {next : World ThreadId}
    {tr : List Event}
    (hrun : (ConnectionMachine ThreadId).Run (Init ThreadId closeCallback)
      inputs = some (next, tr)) :
    RetrievedFrom (Init ThreadId closeCallback) inputs ++
      next.conn.inputBuffer_.Readable = (Wire ThreadId).Read inputs := by
  rw [← run_retrieves hrun]
  exact congrArg (· ++ _) (Buffer.readable_new Buffer.kInitialSize)

end OneEnd

variable {NearThread FarThread : Type} [DecidableEq NearThread]
  [DecidableEq FarThread]

def PeersMachine (NearThread FarThread : Type) [DecidableEq NearThread]
    [DecidableEq FarThread] :
    Machine (Linked (World NearThread) (World FarThread) Byte)
      (Input NearThread ⊕ Input FarThread) (Event ⊕ Event) :=
  LinkMachine (ConnectionMachine NearThread) (Wire NearThread)
    (ConnectionMachine FarThread) (Wire FarThread)

/--
What was sent at one end is what was taken out at the other end, what is there
to be taken out, what is on the way and what still waits to be written, in this
order and in both directions.
-/
theorem peers_in_order {near far : CloseCallback}
    {inputs : List (Input NearThread ⊕ Input FarThread)}
    {linked : Linked (World NearThread) (World FarThread) Byte}
    {tr : List (Event ⊕ Event)}
    (hrun : (PeersMachine NearThread FarThread).Run
      (Linked.Init (Init NearThread near) (Init FarThread far)) inputs =
        some (linked, tr)) :
    RetrievedFrom (Init FarThread far) (Fars inputs) ++
        linked.far.conn.inputBuffer_.Readable ++ linked.toFar ++
        linked.near.conn.outputBuffer_.Readable = Payloads (Nears tr) ∧
    RetrievedFrom (Init NearThread near) (Nears inputs) ++
        linked.near.conn.inputBuffer_.Readable ++ linked.toNear ++
        linked.far.conn.outputBuffer_.Readable = Payloads (Fars tr) := by
  have hmoves := run_moves hrun
  have htoFar : Accepted (Nears tr) =
      (Wire FarThread).Read (Fars inputs) ++ linked.toFar := hmoves.toFar
  have htoNear : Accepted (Fars tr) =
      (Wire NearThread).Read (Nears inputs) ++ linked.toNear := hmoves.toNear
  constructor
  · rw [run_retrieves_init hmoves.far, ← htoFar]
    exact stream_of_path (run_refines hmoves.near)
  · rw [run_retrieves_init hmoves.near, ← htoNear]
    exact stream_of_path (run_refines hmoves.far)

def FourPlaces : List (Input Unit ⊕ Input Unit) :=
  [Sum.inl (Input.runFunctor (WriteResult.wrote 0)),
    Sum.inr (Input.runFunctor (WriteResult.wrote 0)), Sum.inr Input.returns,
    Sum.inl (Input.api (Api.send [1, 2, 3, 4] (WriteResult.wrote 2))),
    Sum.inl Input.returns,
    Sum.inr (Input.handleRead (ReadResult.received [1, 2])),
    Sum.inr (Input.api (Api.retrieve 1)),
    Sum.inl (Input.handleWrite (WriteResult.wrote 1)),
    Sum.inr (Input.api (Api.send [5] (WriteResult.wrote 1)))]

theorem peers_in_order_of_four :
    exists linked tr,
      (PeersMachine Unit Unit).Run
        (Linked.Init (Init Unit CloseCallback.sameLoop)
          (Init Unit CloseCallback.otherLoop)) FourPlaces =
        some (linked, tr) ∧
      linked.toFar = [3] ∧
      [1] ++ linked.far.conn.inputBuffer_.Readable ++ linked.toFar ++
        linked.near.conn.outputBuffer_.Readable = [1, 2, 3, 4] := by
  have heval : ((PeersMachine Unit Unit).Run
      (Linked.Init (Init Unit CloseCallback.sameLoop)
        (Init Unit CloseCallback.otherLoop)) FourPlaces).map
      (fun last => (last.1.toFar, Payloads (Nears last.2))) =
        some ([3], [1, 2, 3, 4]) := by
    decide +kernel
  rcases Option.map_eq_some_iff.mp heval with ⟨⟨linked, tr⟩, hrun, heq⟩
  simp only [Prod.mk.injEq] at heq
  have htaken : RetrievedFrom (Init Unit CloseCallback.otherLoop)
      (Fars FourPlaces) = [1] := by
    decide +kernel
  have horder := (peers_in_order hrun).1
  rw [htaken, heq.2] at horder
  exact ⟨linked, tr, hrun, heq.1, horder⟩

end TcpConnection
end Net
end Wethands
