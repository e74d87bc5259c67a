import Wethands.Net.Http.RoundTrip
import Wethands.Net.TcpConnection.Peers

/-!
# A client and the server

A connection that any code may use, the network, and a connection of the
server.  What the client sends reaches the parser in its order, and the answers
reach the client in theirs.
-/

namespace Wethands
namespace Net

open Foundation Utils HttpRequest HttpContext

namespace HttpServer
namespace Serving

def Occurrence.Accepted : Occurrence -> List Byte
  | Occurrence.connection event => event.Accepted
  | _ => []

def Wire : Port Input Occurrence Byte where
  Reads := fun i => i.OnLoop.Brings
  Writes := Occurrence.Accepted

def ExchangeMachine (ThreadId : Type) [DecidableEq ThreadId]
    (httpCallback_ : HttpCallback) :
    Machine (Linked (TcpConnection.World ThreadId) Serving Byte)
      (TcpConnection.Input ThreadId ⊕ Input)
      (TcpConnection.Event ⊕ Occurrence) :=
  LinkMachine (TcpConnection.ConnectionMachine ThreadId)
    (TcpConnection.Wire ThreadId) (ServingMachine httpCallback_) Wire

theorem written_onWire (tr : List Occurrence) :
    Wire.Written tr = TcpConnection.Accepted (OnWire tr) := by
  induction tr with
  | nil => rfl
  | cons o tr ih =>
      rw [Port.Written] at ih ⊢
      rw [List.flatMap_cons, ih]
      cases o with
      | connection event => rfl
      | badRequest => rfl
      | handled request response => rfl

theorem bytes_received (inputs : List Input) :
    Bytes (Received inputs) = Wire.Read inputs := by
  induction inputs with
  | nil => rfl
  | cons i rest ih =>
      have hone : Bytes i.Arrived = i.OnLoop.Brings := by
        cases i with
        | handleRead receiveTime bytes refused answered =>
            rw [Input.Arrived]
            split
            · rename_i hempty
              exact hempty.symm
            · exact List.append_nil _
        | _ => rfl
      rw [Received, List.flatMap_cons, bytes_append, hone]
      exact congrArg (_ ++ ·) ih

variable {ThreadId : Type} [DecidableEq ThreadId]
  {httpCallback_ : HttpCallback} {near far : TcpConnection.CloseCallback}
  {inputs : List (TcpConnection.Input ThreadId ⊕ Input)}
  {linked : Linked (TcpConnection.World ThreadId) Serving Byte}
  {tr : List (TcpConnection.Event ⊕ Occurrence)}

def Expected (near : TcpConnection.CloseCallback)
    (inputs : List (TcpConnection.Input ThreadId ⊕ Input))
    (linked : Linked (TcpConnection.World ThreadId) Serving Byte) :
    List Byte :=
  TcpConnection.RetrievedFrom (TcpConnection.Init ThreadId near)
      (Nears inputs) ++
    linked.near.conn.inputBuffer_.Readable ++ linked.toNear ++
    linked.far.world.conn.outputBuffer_.Readable

theorem expected_told
    (hrun : (ExchangeMachine ThreadId httpCallback_).Run
      (Linked.Init (TcpConnection.Init ThreadId near) (Init far)) inputs =
        some (linked, tr)) :
    Expected near inputs linked = Told false (Fars tr) := by
  have hmoves := run_moves hrun
  have htoNear : Wire.Written (Fars tr) =
      (TcpConnection.Wire ThreadId).Read (Nears inputs) ++ linked.toNear :=
    hmoves.toNear
  rw [Expected, TcpConnection.run_retrieves_init hmoves.near, ← htoNear,
    written_onWire]
  exact stream_told hmoves.far

theorem received_sent
    (hrun : (ExchangeMachine ThreadId httpCallback_).Run
      (Linked.Init (TcpConnection.Init ThreadId near) (Init far)) inputs =
        some (linked, tr)) :
    Bytes (Received (Fars inputs)) ++ linked.toFar ++
      linked.near.conn.outputBuffer_.Readable =
        TcpConnection.Payloads (Nears tr) := by
  have hmoves := run_moves hrun
  have htoFar : TcpConnection.Accepted (Nears tr) =
      Wire.Read (Fars inputs) ++ linked.toFar := hmoves.toFar
  rw [bytes_received, ← htoFar]
  exact TcpConnection.stream_of_path (TcpConnection.run_refines hmoves.near)

/--
When what the client sent are requests, all of it has arrived, each of them
ended with a read of the server, and the server is still connected, the client
gets one body for each request, in their order and nothing else, however the
bytes were cut and delayed on both ways.
-/
theorem requests_answered {heads : List (List Byte)}
    (hrun : (ExchangeMachine ThreadId httpCallback_).Run
      (Linked.Init (TcpConnection.Init ThreadId near) (Init far)) inputs =
        some (linked, tr))
    (hsent : TcpConnection.Payloads (Nears tr) = heads.flatten)
    (hheads : forall head, head ∈ heads -> IsHead head)
    (harrived : linked.toFar = [] ∧
      linked.near.conn.outputBuffer_.Readable = [])
    (hends : EndsAtReads [] (Received (Fars inputs)) heads)
    (hconnected : linked.far.world.conn.state_ =
      TcpConnection.States.kConnected)
    (hfits : forall head request, head ∈ heads -> Own head request ->
      (Respond httpCallback_ request).OneLiners ∧
        (Respond httpCallback_ request).body_.length < 10 ^ 13) :
    exists requests, List.Forall₂ Own heads requests ∧
      HttpResponse.ReceiveAll heads.length (Expected near inputs linked) =
        some (requests.map (fun request =>
          (Respond httpCallback_ request).body_), []) := by
  have hbytes := received_sent hrun
  rw [harrived.1, harrived.2, List.append_nil, List.append_nil, hsent]
    at hbytes
  rw [expected_told hrun]
  exact told_bodies (run_moves hrun).far hconnected hheads hbytes hends hfits

def ExchangesTwo : List (TcpConnection.Input Unit ⊕ Input) :=
  [Sum.inl (TcpConnection.Input.runFunctor
      (TcpConnection.WriteResult.wrote 0)),
    Sum.inr Input.runFunctor,
    Sum.inl (TcpConnection.Input.api (TcpConnection.Api.send FirstHead
      (TcpConnection.WriteResult.wrote FirstHead.length))),
    Sum.inr (Input.handleRead 1 FirstHead
      (TcpConnection.WriteResult.wrote 0)
      (TcpConnection.WriteResult.wrote 7)),
    Sum.inl (TcpConnection.Input.api (TcpConnection.Api.send ThirdHead
      (TcpConnection.WriteResult.wrote 0))),
    Sum.inl TcpConnection.Input.returns,
    Sum.inl (TcpConnection.Input.handleWrite
      (TcpConnection.WriteResult.wrote 17)),
    Sum.inl (TcpConnection.Input.handleRead
      (TcpConnection.ReadResult.received (Ascii "HTTP/"))),
    Sum.inr (Input.handleRead 2 (ThirdHead.take 17)
      (TcpConnection.WriteResult.wrote 0)
      (TcpConnection.WriteResult.wrote 0)),
    Sum.inr (Input.handleWrite (TcpConnection.WriteResult.wrote 9)),
    Sum.inl (TcpConnection.Input.api (TcpConnection.Api.retrieve 4)),
    Sum.inl TcpConnection.Input.returns,
    Sum.inl (TcpConnection.Input.handleWrite
      (TcpConnection.WriteResult.wrote 2)),
    Sum.inr (Input.handleRead 3 (ThirdHead.drop 17)
      (TcpConnection.WriteResult.wrote 0)
      (TcpConnection.WriteResult.wrote 0))]

theorem requests_answered_of_two :
    exists linked tr requests,
      (ExchangeMachine Unit HiCallback).Run
        (Linked.Init
          (TcpConnection.Init Unit TcpConnection.CloseCallback.sameLoop)
          (Init TcpConnection.CloseCallback.otherLoop)) ExchangesTwo =
        some (linked, tr) ∧
      List.Forall₂ Own TwoHeads requests ∧
      HttpResponse.ReceiveAll 2
          (Expected TcpConnection.CloseCallback.sameLoop ExchangesTwo
            linked) =
        some (requests.map (fun request =>
          (Respond HiCallback request).body_), []) := by
  have heval : ((ExchangeMachine Unit HiCallback).Run
      (Linked.Init
        (TcpConnection.Init Unit TcpConnection.CloseCallback.sameLoop)
        (Init TcpConnection.CloseCallback.otherLoop)) ExchangesTwo).map
      (fun last => (TcpConnection.Payloads (Nears last.2),
        last.1.toFar, last.1.near.conn.outputBuffer_.Readable,
        last.1.far.world.conn.state_)) =
      some (TwoHeads.flatten, [], [],
        TcpConnection.States.kConnected) := by
    decide +kernel
  rcases Option.map_eq_some_iff.mp heval with ⟨⟨linked, tr⟩, hrun, heq⟩
  simp only [Prod.mk.injEq] at heq
  rcases heq with ⟨hsent, htoFar, houtput, hconnected⟩
  rcases requests_answered hrun hsent isHead_of_twoHeads ⟨htoFar, houtput⟩
    endsAtReads_servesTwo hconnected (fun _ request _ _ => hi_fits request)
    with ⟨requests, hall, hbodies⟩
  exact ⟨linked, tr, requests, hrun, hall, hbodies⟩

end Serving
end HttpServer
end Net
end Wethands
