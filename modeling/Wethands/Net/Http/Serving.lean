import Wethands.Net.Http.HttpResponse
import Wethands.Net.Http.HttpServer
import Wethands.Net.TcpConnection.LoopWork

/-!
# The server at work

One connection of an `HttpServer`.  What the loop does with the connection is a
step of the connection, and the callbacks that it invokes on the way are those
of the server.
-/

namespace Wethands
namespace Net

open Foundation Utils HttpRequest HttpContext

namespace HttpServer

/-- A connection and what is stored in its `context_`. -/
structure Serving where
  world : TcpConnection.World Empty
  context_ : Option HttpContext

inductive Occurrence where
  | connection (event : TcpConnection.Event)
  | badRequest
  | handled (request : HttpRequest) (response : HttpResponse)

namespace Serving

def Init (closeCallback : TcpConnection.CloseCallback) : Serving where
  world := TcpConnection.Init Empty closeCallback
  context_ := none

def Through (serving : Serving)
    (call : Call (TcpConnection.World Empty) TcpConnection.Event) :
    Call Serving Occurrence :=
  match call with
  | Except.error failure => Except.error failure
  | Except.ok (world, es) =>
      Except.ok ({ serving with world := world },
        es.map Occurrence.connection)

def OnConnection (serving : Serving) : Call Serving Occurrence :=
  if serving.world.conn.state_ = TcpConnection.States.kConnected then
    Except.ok ({ serving with context_ := some HttpContext.New }, [])
  else Except.ok (serving, [])

def Close (req : HttpRequest) : Bool :=
  let headerConnection := req.GetHeader (Ascii "Connection")
  headerConnection == Ascii "close" ||
    req.version_ == Version.kHttp10 && headerConnection != Ascii "Keep-Alive"

/-- The business logic fills in the response. -/
abbrev HttpCallback : Type := HttpRequest -> HttpResponse -> HttpResponse

def DefaultHttpCallback : HttpCallback := fun _ resp =>
  { resp with
    statusCode_ := HttpResponse.HttpStatusCode.k200Ok
    statusMessage_ := Ascii "ok"
    closeConnection_ := true
    body_ := Ascii "<p>Hello, wethands!</p>\r\n" }

def Respond (httpCallback_ : HttpCallback) (req : HttpRequest) :
    HttpResponse :=
  httpCallback_ req (HttpResponse.New (Close req))

/-- Something is sent, and `Shutdown` is called behind the last word. -/
def Say (serving : Serving) (o : Occurrence) (data : List Byte)
    (result : TcpConnection.WriteResult) (last : Bool) :
    Call Serving Occurrence :=
  Then (Except.ok (serving, [o])) (fun serving =>
    Then (Through serving (TcpConnection.Send serving.world data result))
      (fun serving =>
        if last then
          Through serving (TcpConnection.Shutdown serving.world)
        else Except.ok (serving, [])))

def HandleRequest (httpCallback_ : HttpCallback) (serving : Serving)
    (req : HttpRequest) (result : TcpConnection.WriteResult) :
    Call Serving Occurrence :=
  let response := Respond httpCallback_ req
  let buf := response.AppendToBuffer (Buffer.New Buffer.kInitialSize)
  Say serving (Occurrence.handled req response) buf.Readable result
    response.closeConnection_

def kBadRequest : List Byte := Ascii "HTTP/1.1 400 Bad Request\r\n\r\n"

/-- The first 28 bytes of the text are sent. -/
def BadRequest (serving : Serving) (result : TcpConnection.WriteResult) :
    Call Serving Occurrence :=
  Say serving Occurrence.badRequest (kBadRequest.take 28) result true

/--
A connection without a context has no pointer to one, and a parser that does
not come to its end has no answer.
-/
def OnMessage (httpCallback_ : HttpCallback) (serving : Serving)
    (receiveTime : Timestamp) (refused answered : TcpConnection.WriteResult) :
    Call Serving Occurrence :=
  match serving.context_ with
  | none => Except.error Failure.danglingPointer
  | some context =>
      match context.ParseRequest serving.world.conn.inputBuffer_
          receiveTime with
      | none => Except.error Failure.impossible
      | some (Except.error failure) => Except.error failure
      | some (Except.ok (ok, context, buf)) =>
          let world := { serving.world with
            conn := { serving.world.conn with inputBuffer_ := buf } }
          Then
            (if ok then Except.ok (⟨world, some context⟩, [])
            else BadRequest ⟨world, some context⟩ refused)
            (fun serving =>
              if context.GotAll then
                Then (HandleRequest httpCallback_ serving context.request_
                    answered)
                  (fun serving => Except.ok ({ serving with
                    context_ := some context.Reset }, []))
              else Except.ok (serving, []))

/--
What the loop does with the connection.  A read comes with the results of the
writes that `onMessage` may make, and no functor of the server writes.
-/
inductive Input where
  | runFunctor
  | handleRead (receiveTime : Timestamp) (bytes : List Byte)
      (refused answered : TcpConnection.WriteResult)
  | readFailed
  | handleWrite (result : TcpConnection.WriteResult)
  | handleClose
  | handleError
  | removeConnectionInLoop

def Input.OnLoop : Input -> TcpConnection.Input Empty
  | runFunctor =>
      TcpConnection.Input.runFunctor (TcpConnection.WriteResult.wrote 0)
  | handleRead _ bytes _ _ =>
      TcpConnection.Input.handleRead (TcpConnection.ReadResult.received bytes)
  | readFailed =>
      TcpConnection.Input.handleRead TcpConnection.ReadResult.failed
  | handleWrite result => TcpConnection.Input.handleWrite result
  | handleClose => TcpConnection.Input.handleClose
  | handleError => TcpConnection.Input.handleError
  | removeConnectionInLoop => TcpConnection.Input.removeConnectionInLoop

def OnMessageOf (httpCallback_ : HttpCallback) (i : Input)
    (serving : Serving) : Call Serving Occurrence :=
  match i with
  | Input.handleRead receiveTime _ refused answered =>
      OnMessage httpCallback_ serving receiveTime refused answered
  | _ => Except.error Failure.impossible

def Callbacks (httpCallback_ : HttpCallback) (i : Input)
    (es : List TcpConnection.Event) (serving : Serving) :
    Call Serving Occurrence :=
  match es.getLast? with
  | some (TcpConnection.Event.called TcpConnection.Callback.message) =>
      Then (OnMessageOf httpCallback_ i serving) (fun serving =>
        Through serving (TcpConnection.Return serving.world))
  | some (TcpConnection.Event.called
        (TcpConnection.Callback.connection _)) =>
      Then (OnConnection serving) (fun serving =>
        Through serving (TcpConnection.Return serving.world))
  | _ => Except.ok (serving, [])

def Perform (httpCallback_ : HttpCallback) (serving : Serving) (i : Input) :
    Call Serving Occurrence :=
  match TcpConnection.Perform serving.world i.OnLoop with
  | Except.error failure => Except.error failure
  | Except.ok (world, es) =>
      Then (Except.ok ({ serving with world := world },
          es.map Occurrence.connection))
        (Callbacks httpCallback_ i es)

def ServingMachine (httpCallback_ : HttpCallback) :
    Machine Serving Input Occurrence where
  Step serving i := Answer (Perform httpCallback_ serving i)

/-!
# What is said on a connection
-/

/-- The text that the server sends for an answer. -/
def Answered : Occurrence -> List Byte
  | Occurrence.badRequest => kBadRequest
  | Occurrence.handled _ response =>
      (response.AppendToBuffer (Buffer.New Buffer.kInitialSize)).Readable
  | Occurrence.connection _ => []

def Talks (talking : Bool) : Occurrence -> Bool
  | Occurrence.badRequest => false
  | Occurrence.handled _ response => talking && !response.closeConnection_
  | Occurrence.connection event => event.Connects talking

def Talking (talking : Bool) (tr : List Occurrence) : Bool :=
  tr.foldl Talks talking

def Told : Bool -> List Occurrence -> List Byte
  | _, [] => []
  | talking, o :: tr =>
      (if talking then Answered o else []) ++ Told (Talks talking o) tr

def OnWire (tr : List Occurrence) : List TcpConnection.Event :=
  tr.filterMap fun
    | Occurrence.connection event => some event
    | _ => none

theorem talking_append (talking : Bool) (tr es : List Occurrence) :
    Talking talking (tr ++ es) = Talking (Talking talking tr) es :=
  List.foldl_append

theorem told_append (talking : Bool) (tr es : List Occurrence) :
    Told talking (tr ++ es) =
      Told talking tr ++ Told (Talking talking tr) es := by
  induction tr generalizing talking with
  | nil => rfl
  | cons o tr ih =>
      rw [List.cons_append, Told, ih, ← List.append_assoc]
      rfl

theorem onWire_append (tr es : List Occurrence) :
    OnWire (tr ++ es) = OnWire tr ++ OnWire es :=
  List.filterMap_append

theorem onWire_connection (es : List TcpConnection.Event) :
    OnWire (es.map Occurrence.connection) = es := by
  rw [OnWire, List.filterMap_map]
  exact List.filterMap_some

theorem told_connection (talking : Bool) (es : List TcpConnection.Event) :
    Told talking (es.map Occurrence.connection) = [] := by
  induction es generalizing talking with
  | nil => rfl
  | cons e es ih =>
      rw [List.map_cons, Told, ih, List.append_nil]
      exact ite_self []

theorem talking_connection (talking : Bool)
    (es : List TcpConnection.Event) :
    Talking talking (es.map Occurrence.connection) =
      TcpConnection.Connected talking es := by
  rw [Talking, List.foldl_map]
  rfl

/-!
# Accounts

What a part of a step sends is what it tells, and it leaves the server talking
exactly as long as the connection is connected.
-/

def IsConnected (serving : Serving) : Bool :=
  decide (serving.world.conn.state_ = TcpConnection.States.kConnected)

structure Accounts (serving next : Serving) (es : List Occurrence) :
    Prop where
  path : Path (TcpConnection.Core.Step true)
    (TcpConnection.View serving.world) (TcpConnection.View next.world)
    (OnWire es)
  noCalls : TcpConnection.NoCalls serving.world ->
    TcpConnection.NoCalls next.world
  told : TcpConnection.Payloads (OnWire es) = Told serving.IsConnected es
  talking : Talking serving.IsConnected es = next.IsConnected

variable {serving mid next : Serving}

theorem accounts_silent (hstate : next.world.conn.state_ =
      serving.world.conn.state_)
    (hview : TcpConnection.View next.world =
      TcpConnection.View serving.world) :
    Accounts serving next [] where
  path := by
    rw [hview]
    exact Path.nil _
  noCalls := by
    intro h functor
    have hfunctors := congrArg TcpConnection.Core.functors hview
    change next.world.pendingFunctors_ =
      serving.world.pendingFunctors_ at hfunctors
    rw [hfunctors]
    exact h functor
  told := rfl
  talking := by
    rw [IsConnected, IsConnected, hstate]
    rfl

theorem Accounts.trans {es es' : List Occurrence}
    (h : Accounts serving mid es) (h' : Accounts mid next es') :
    Accounts serving next (es ++ es') where
  path := by
    rw [onWire_append]
    exact h.path.append h'.path
  noCalls := fun hnone => h'.noCalls (h.noCalls hnone)
  told := by
    rw [onWire_append, TcpConnection.payloads_append, told_append, h.told,
      h'.told, h.talking]
  talking := by
    rw [talking_append, h.talking, h'.talking]

theorem accounts_loop {world : TcpConnection.World Empty}
    {es : List TcpConnection.Event}
    (hpath : Path (TcpConnection.Core.Step true)
      (TcpConnection.View serving.world) (TcpConnection.View world) es)
    (hnoCalls : TcpConnection.NoCalls world)
    (hes : forall e, e ∈ es -> e.OfLoop) :
    Accounts serving { serving with world := world }
      (es.map Occurrence.connection) where
  path := by
    rw [onWire_connection]
    exact hpath
  noCalls := fun _ => hnoCalls
  told := by
    rw [onWire_connection, told_connection]
    exact TcpConnection.payloads_ofLoop hes
  talking := by
    rw [talking_connection]
    exact TcpConnection.connected_path hpath hes

theorem through_eq_ok {es : List Occurrence}
    {call : Call (TcpConnection.World Empty) TcpConnection.Event}
    (h : Through serving call = Except.ok (next, es)) :
    exists world es', call = Except.ok (world, es') ∧
      next = { serving with world := world } ∧
      es = es'.map Occurrence.connection := by
  unfold Through at h
  split at h
  · cases h
  · cases h
    exact ⟨_, _, rfl, rfl, rfl⟩

structure SparesInput (serving next : Serving) : Prop where
  context_ : next.context_ = serving.context_
  inputBuffer_ : next.world.conn.inputBuffer_ =
    serving.world.conn.inputBuffer_
  messageCallback_ : next.world.conn.messageCallback_ =
    serving.world.conn.messageCallback_

theorem say_spec {o : Occurrence} {data : List Byte} {last : Bool}
    (result : TcpConnection.WriteResult) (hwire : OnWire [o] = [])
    (hdata : Answered o = data)
    (htalks : forall talking, Talks talking o = (talking && !last)) :
    Yields (Say serving o data result last) (fun next es =>
      Accounts serving next es ∧ SparesInput serving next) := by
  intro next es hcall
  rcases then_ok_eq_ok.mp hcall with ⟨rest, hrest, rfl⟩
  rcases then_eq_ok.mp hrest with ⟨mid, es1, es2, hsend, hend, rfl⟩
  rcases through_eq_ok hsend with ⟨world, es1, hsent, rfl, rfl⟩
  have hsends : TcpConnection.Refines true serving.world
      (TcpConnection.Send serving.world data result) :=
    TcpConnection.refines_send _ _ _
  have hpath1 := hsends _ _ hsent
  rcases TcpConnection.send_spec _ _ _ _ _ hsent with
    ⟨hspares1, hstate1, hconnects1, hpayloads1⟩
  have htold1 : (if serving.IsConnected then data else []) =
      TcpConnection.Payloads es1 := by
    rw [hpayloads1]
    simp only [IsConnected, decide_eq_true_eq]
  cases last with
  | false =>
      cases hend
      refine ⟨?_, rfl, hspares1.inputBuffer_, hspares1.messageCallback_⟩
      constructor
      case path =>
        rw [onWire_append, hwire, List.nil_append, List.append_nil,
          onWire_connection]
        exact hpath1
      case noCalls => exact hspares1.noCalls
      case told =>
        rw [onWire_append, hwire, List.nil_append, List.append_nil,
          onWire_connection, List.singleton_append, Told, told_connection,
          List.append_nil, hdata, htold1]
      case talking =>
        rw [List.append_nil, talking_append, talking_connection, hconnects1]
        show Talks serving.IsConnected o = _
        rw [htalks, IsConnected, IsConnected, hstate1]
        exact Bool.and_true _
  | true =>
      rcases through_eq_ok hend with ⟨world2, es2, hshutdown, rfl, rfl⟩
      have hends : TcpConnection.Refines true world
          (TcpConnection.Shutdown world) :=
        TcpConnection.refines_shutdown _
      have hpath2 := hends _ _ hshutdown
      rcases TcpConnection.shutdown_spec _ _ _ hshutdown with
        ⟨hspares2, hstate2, hconnects2, hpayloads2⟩
      refine ⟨?_, rfl, hspares2.inputBuffer_.trans hspares1.inputBuffer_,
        hspares2.messageCallback_.trans hspares1.messageCallback_⟩
      constructor
      case path =>
        rw [onWire_append, hwire, List.nil_append, onWire_append,
          onWire_connection, onWire_connection]
        exact hpath1.append hpath2
      case noCalls => exact fun h => hspares2.noCalls (hspares1.noCalls h)
      case told =>
        rw [onWire_append, hwire, List.nil_append, onWire_append,
          onWire_connection, onWire_connection, TcpConnection.payloads_append,
          hpayloads2, List.append_nil, List.singleton_append, Told,
          told_append, told_connection, told_connection, List.append_nil,
          List.append_nil, hdata, htold1]
      case talking =>
        rw [talking_append, talking_append, talking_connection,
          talking_connection, hconnects1, hconnects2]
        show Talks serving.IsConnected o = _
        rw [htalks]
        exact (Bool.and_false _).trans (decide_eq_false hstate2).symm

theorem badRequest_spec (result : TcpConnection.WriteResult) :
    Yields (BadRequest serving result) (fun next es =>
      Accounts serving next es ∧ SparesInput serving next) :=
  say_spec result rfl (by decide +kernel) (fun talking =>
    (Bool.and_false talking).symm)

theorem handleRequest_spec (httpCallback_ : HttpCallback) (req : HttpRequest)
    (result : TcpConnection.WriteResult) :
    Yields (HandleRequest httpCallback_ serving req result) (fun next es =>
      Accounts serving next es ∧ SparesInput serving next) :=
  say_spec result rfl rfl (fun _ => rfl)

/-!
# Messages
-/

/--
Between two reads the parser comes to its end, and nothing but the text decides
what it makes of the buffer.
-/
theorem parse_between {context : HttpContext} {old : Buffer}
    (h : Between ⟨context, old⟩) (text : List Byte)
    (receiveTime : Timestamp) :
    exists ok last rest,
      (forall buf : Buffer, buf.Readable = text ->
        Returned (context.ParseRequest buf receiveTime) ok last rest) ∧
      (last.GotAll = false -> forall left, Between ⟨last, left⟩) := by
  have hconcluded : forall last left why,
      (forall buf : Buffer, buf.Readable = text ->
        Concluded (context.ParseRequest buf receiveTime) last left why) ->
      exists ok last rest,
        (forall buf : Buffer, buf.Readable = text ->
          Returned (context.ParseRequest buf receiveTime) ok last rest) ∧
        (last.GotAll = false -> forall left, Between ⟨last, left⟩) := by
    intro last left why hwhy
    cases why with
    | none => exact ⟨_, _, _, hwhy, fun _ _ => Or.inr rfl⟩
    | some why =>
        cases why with
        | badHeader => exact ⟨_, _, _, hwhy, fun _ _ => Or.inr rfl⟩
        | blankLine =>
            refine ⟨_, _, _, hwhy, fun hgot => ?_⟩
            cases hgot
  rcases context with ⟨request, state_⟩
  rcases h with hnew | hheaders
  · cases hnew
    by_cases haccepts : exists line rest, Accepts text line rest
    · rcases haccepts with ⟨line, rest, hcut, hline⟩
      rcases parseRequestLine_new hline with ⟨parsed, hparse, _⟩
      rcases Reads.exists_reads Headers
        (parsed.request_.SetReceiveTime receiveTime) rest with
          ⟨last, left, why, hreads⟩
      refine hconcluded last left why (fun buf hbuf => ?_)
      rw [← hbuf] at hcut
      exact parseRequest_accepts hcut hparse hreads
    · refine ⟨false, HttpContext.New, text, fun buf hbuf => ?_,
        fun _ _ => Or.inl rfl⟩
      have hrejects : ParseRequest HttpContext.New buf receiveTime =
          some (Except.ok (false, HttpContext.New, buf)) :=
        parseRequest_rejects (fun line rest hcut hline =>
          haccepts ⟨line, rest, hbuf ▸ hcut, hline⟩)
      exact ⟨buf, hrejects, hbuf⟩
  · cases hheaders
    rcases Reads.exists_reads Headers request text with
      ⟨last, left, why, hreads⟩
    refine hconcluded last left why (fun buf hbuf => ?_)
    rw [← hbuf] at hreads
    exact parseRequest_headers hreads

def Ready (serving : Serving) : Prop :=
  exists context, serving.context_ = some context ∧
    forall buf, Between ⟨context, buf⟩

theorem onMessage_spec (httpCallback_ : HttpCallback)
    (hready : Ready serving) (receiveTime : Timestamp)
    (refused answered : TcpConnection.WriteResult) :
    Yields (OnMessage httpCallback_ serving receiveTime refused answered)
      (fun next es => Accounts serving next es ∧ Ready next) := by
  rcases hready with ⟨context, hcontext, hbetween⟩
  rcases parse_between (hbetween serving.world.conn.inputBuffer_)
    serving.world.conn.inputBuffer_.Readable receiveTime with
    ⟨ok, last, rest, hparse, hlast⟩
  rcases hparse serving.world.conn.inputBuffer_ rfl with ⟨left, hparse, _⟩
  unfold OnMessage
  rw [hcontext]
  simp only [hparse]
  refine Yields.in_turn ?_
  have hfirst : Yields
      (if ok then Except.ok ((⟨{ serving.world with
          conn := { serving.world.conn with inputBuffer_ := left } },
            some last⟩ : Serving), [])
        else BadRequest ⟨{ serving.world with
          conn := { serving.world.conn with inputBuffer_ := left } },
            some last⟩ refused)
      (fun mid es => Accounts serving mid es ∧ mid.context_ = some last ∧
        mid.world.conn.inputBuffer_ = left) := by
    have hsilent : Accounts serving (⟨{ serving.world with
        conn := { serving.world.conn with inputBuffer_ := left } },
          some last⟩ : Serving) [] := accounts_silent rfl rfl
    split
    · exact yields_ok.mpr ⟨hsilent, rfl, rfl⟩
    · refine Yields.mono (badRequest_spec refused) ?_
      intro mid es hboth
      exact ⟨hsilent.trans hboth.1, hboth.2.context_, hboth.2.inputBuffer_⟩
  refine Yields.mono hfirst ?_
  intro mid es hmid
  rcases hmid with ⟨haccounts, hcontext', hbuf⟩
  split
  · refine Yields.in_turn ?_
    refine Yields.mono (handleRequest_spec httpCallback_ last.request_
      answered) ?_
    intro after es' hafter
    refine yields_ok.mpr ⟨haccounts.trans ?_, ?_⟩
    · rw [List.append_nil]
      have hsilent : Accounts after { after with
          context_ := some last.Reset } [] :=
        accounts_silent rfl rfl
      have hreset := hafter.1.trans hsilent
      rwa [List.append_nil] at hreset
    · exact ⟨_, rfl, fun _ => Or.inl rfl⟩
  · rename_i hgot
    refine yields_ok.mpr ⟨?_, last, hcontext', fun _ => ?_⟩
    · rw [List.append_nil]
      exact haccounts
    · exact hlast (Bool.not_eq_true _ ▸ hgot) _

/-!
# Steps
-/

def Fresh (world : TcpConnection.World Empty) : Prop :=
  world.conn.socketChannel_.registeredToPoller = false ∧
    world.conn.state_ = TcpConnection.States.kConnecting

def FreshOrConnected (world : TcpConnection.World Empty)
    (es : List TcpConnection.Event) : Prop :=
  Fresh world ∧ es.getLast? ≠ some (TcpConnection.Event.called
      TcpConnection.Callback.message) ∨
    world.conn.state_ = TcpConnection.States.kConnected ∧
      exists state, es.getLast? = some (TcpConnection.Event.called
        (TcpConnection.Callback.connection state))

structure Unread (world next : TcpConnection.World Empty) (i : Input) :
    Prop where
  brings : i.OnLoop.Brings = []
  inputBuffer_ : next.conn.inputBuffer_ = world.conn.inputBuffer_
  messageCallback_ : next.conn.messageCallback_ = world.conn.messageCallback_

theorem fresh_perform {world : TcpConnection.World Empty} {i : Input}
    (hfresh : Fresh world) (hcalls : TcpConnection.NoCalls world) :
    Yields (TcpConnection.Perform world i.OnLoop)
      (fun next es => FreshOrConnected next es ∧ Unread world next i) := by
  have honEvent : forall call, Yields (TcpConnection.OnEvent world call)
      (fun next es => FreshOrConnected next es ∧ Unread world next i) := by
    intro call
    refine Yields.only_if (fun _ => Yields.only_if (fun hregistered => ?_))
    rw [hfresh.1] at hregistered
    cases hregistered
  cases i with
  | handleRead | readFailed | handleWrite | handleClose | handleError =>
      exact honEvent _
  | removeConnectionInLoop =>
      show Yields (TcpConnection.RemoveConnectionInLoop world) _
      unfold TcpConnection.RemoveConnectionInLoop
      split
      · exact yields_error
      · exact yields_ok.mpr
          ⟨Or.inl ⟨hfresh, by decide⟩, rfl, rfl, rfl⟩
  | runFunctor =>
      refine Yields.only_if (fun _ => ?_)
      unfold TcpConnection.RunFunctor
      split
      · exact yields_error
      · rename_i functor rest hfunctors
        have hloop : functor.OfLoop = true := by
          apply hcalls functor
          rw [hfunctors]
          exact List.mem_cons_self
        cases functor with
        | connectionEstablished =>
            refine Yields.assert (fun _ => Yields.in_turn (yields_ok.mpr ?_))
            exact yields_ok.mpr ⟨Or.inr ⟨rfl, _, rfl⟩, rfl, rfl, rfl⟩
        | highWaterMarkCallback bytes =>
            refine yields_ok.mpr ⟨Or.inl ⟨hfresh, ?_⟩, rfl, rfl, rfl⟩
            simp
        | connectionDestroyed =>
            refine Yields.assert (fun hstate => ?_)
            have hconnecting := hfresh.2.symm.trans hstate
            cases hconnecting
        | _ => cases hloop

def ReadyOrFresh (serving : Serving) : Prop :=
  Ready serving ∨ Fresh serving.world

theorem Ready.of_context (h : Ready serving)
    (hcontext : next.context_ = serving.context_) : Ready next := by
  rcases h with ⟨context, hsome, hbetween⟩
  exact ⟨context, hcontext.trans hsome, hbetween⟩

theorem ReadyOrFresh.of_same (h : ReadyOrFresh serving)
    (hcontext : next.context_ = serving.context_)
    (hconn : next.world.conn = serving.world.conn) : ReadyOrFresh next := by
  rcases h with hready | hfresh
  · exact Or.inl (hready.of_context hcontext)
  · rw [Fresh, ← hconn] at hfresh
    exact Or.inr hfresh

theorem return_spec (hcalls : TcpConnection.NoCalls serving.world) :
    Yields (Through serving (TcpConnection.Return serving.world))
      (fun next es => Accounts serving next es ∧
        next.context_ = serving.context_ ∧
        next.world.conn = serving.world.conn) := by
  intro next es hcall
  rcases through_eq_ok hcall with ⟨world, es', hreturn, rfl, rfl⟩
  have hreturns : TcpConnection.Refines true serving.world
      (TcpConnection.Return serving.world) :=
    TcpConnection.refines_return _
  have hpath := hreturns _ _ hreturn
  have hquiet := TcpConnection.quiet_return hcalls _ _ hreturn
  exact ⟨accounts_loop hpath hquiet.1 hquiet.2, rfl,
    TcpConnection.conn_return hreturn⟩

theorem onConnection_spec (es : List TcpConnection.Event)
    (h : ReadyOrFresh serving ∨ FreshOrConnected serving.world es) :
    Yields (OnConnection serving) (fun next tr =>
      Accounts serving next tr ∧ ReadyOrFresh next) := by
  unfold OnConnection
  split
  · exact yields_ok.mpr ⟨accounts_silent rfl rfl,
      Or.inl ⟨_, rfl, fun _ => Or.inl rfl⟩⟩
  · rename_i hstate
    refine yields_ok.mpr ⟨accounts_silent rfl rfl, ?_⟩
    rcases h with hready | ⟨hfresh, _⟩ | ⟨hconnected, _⟩
    · exact hready
    · exact Or.inr hfresh
    · exact absurd hconnected hstate

theorem callback_spec {call : Call Serving Occurrence}
    (hcalls : TcpConnection.NoCalls serving.world)
    (h : Yields call (fun next es =>
      Accounts serving next es ∧ ReadyOrFresh next)) :
    Yields
      (Then call (fun serving =>
        Through serving (TcpConnection.Return serving.world)))
      (fun next es => Accounts serving next es ∧ ReadyOrFresh next) := by
  refine Yields.in_turn (Yields.mono h (fun mid es hboth => ?_))
  rcases hboth with ⟨haccounts, hready⟩
  refine Yields.mono (return_spec (haccounts.noCalls hcalls)) ?_
  intro next es' hreturn
  rcases hreturn with ⟨hlast, hcontext, hconn⟩
  exact ⟨haccounts.trans hlast, hready.of_same hcontext hconn⟩

theorem perform_spec (httpCallback_ : HttpCallback)
    (hcalls : TcpConnection.NoCalls serving.world)
    (hready : ReadyOrFresh serving) (i : Input) :
    Yields (Perform httpCallback_ serving i) (fun next es =>
      Accounts serving next es ∧ ReadyOrFresh next) := by
  unfold Perform
  cases hcall : TcpConnection.Perform serving.world i.OnLoop with
  | error failure => exact yields_error
  | ok answer =>
      rcases answer with ⟨world, es⟩
      have hinput : i.OnLoop.OfLoop := by
        cases i <;> exact trivial
      have hquiet := TcpConnection.quiet_perform hcalls hinput _ _ hcall
      have hrefines : TcpConnection.Refines true serving.world
          (TcpConnection.Perform serving.world i.OnLoop) :=
        TcpConnection.refines_perform (Or.inl rfl)
      have hpath := hrefines _ _ hcall
      have hloop := accounts_loop hpath hquiet.1 hquiet.2
      have hworld : ReadyOrFresh { serving with world := world } ∨
          FreshOrConnected world es := by
        rcases hready with hready | hfresh
        · exact Or.inl (Or.inl (hready.of_context rfl))
        · exact Or.inr (fresh_perform hfresh hcalls _ _ hcall).1
      refine Yields.in_turn (yields_ok.mpr ?_)
      have hadd : forall {call}, Yields call (fun next es' =>
            Accounts { serving with world := world } next es' ∧
              ReadyOrFresh next) ->
          Yields call (fun next es' =>
            Accounts serving next (es.map Occurrence.connection ++ es') ∧
              ReadyOrFresh next) :=
        fun h => Yields.mono h (fun _ _ hboth =>
          ⟨hloop.trans hboth.1, hboth.2⟩)
      refine hadd ?_
      unfold Callbacks
      split
      · rename_i hmessage
        have hnow : Ready { serving with world := world } := by
          rcases hready with hready | hfresh
          · exact hready.of_context rfl
          · rcases (fresh_perform hfresh hcalls _ _ hcall).1 with
              ⟨_, hother⟩ | ⟨_, state, hlast⟩
            · exact absurd hmessage hother
            · rw [hmessage] at hlast
              cases hlast
        refine callback_spec hquiet.1 ?_
        cases i with
        | handleRead receiveTime bytes refused answered =>
            refine Yields.mono (onMessage_spec httpCallback_ hnow receiveTime
              refused answered) ?_
            exact fun _ _ hboth => ⟨hboth.1, Or.inl hboth.2⟩
        | _ => exact yields_error
      · exact callback_spec hquiet.1 (onConnection_spec es hworld)
      · rename_i hnone
        refine yields_ok.mpr ⟨accounts_silent rfl rfl, ?_⟩
        rcases hworld with hready | ⟨hfresh, _⟩ | ⟨_, state, hlast⟩
        · exact hready
        · exact Or.inr hfresh
        · exact absurd hlast (hnone state)

/-!
# Runs
-/

theorem run_spec {httpCallback_ : HttpCallback}
    {closeCallback : TcpConnection.CloseCallback} {inputs : List Input}
    {tr : List Occurrence}
    (hrun : (ServingMachine httpCallback_).Run (Init closeCallback) inputs =
      some (serving, tr)) :
    Accounts (Init closeCallback) serving tr ∧ ReadyOrFresh serving := by
  have hinit : TcpConnection.NoCalls (Init closeCallback).world := by
    intro functor hmem
    rw [List.mem_singleton.mp hmem]
    rfl
  refine Machine.run_invariant
    (I := fun serving tr => Accounts (Init closeCallback) serving tr ∧
      ReadyOrFresh serving) (p := []) ?_ ?_ hrun
  · intro serving tr i next es hboth hstep
    rcases perform_spec httpCallback_ (hboth.1.noCalls hinit) hboth.2 i _ _
      (answer_eq_some.mp hstep) with ⟨haccounts, hready⟩
    exact ⟨hboth.1.trans haccounts, hready⟩
  · exact ⟨accounts_silent rfl rfl, Or.inr ⟨rfl, rfl⟩⟩

theorem stream_told {httpCallback_ : HttpCallback}
    {closeCallback : TcpConnection.CloseCallback}
    {inputs : List Input} {tr : List Occurrence}
    (hrun : (ServingMachine httpCallback_).Run (Init closeCallback) inputs =
      some (serving, tr)) :
    TcpConnection.Accepted (OnWire tr) ++
      serving.world.conn.outputBuffer_.Readable = Told false tr := by
  have haccounts := (run_spec hrun).1
  rw [TcpConnection.stream_of_path haccounts.path, haccounts.told]
  rfl

/--
What a peer is sent is the answers in their order, up to the refusal or the
last word, with nothing between them and nothing behind; and whatever arrives,
an established connection has a context whose parser comes to its end.
-/
theorem answers_in_order {httpCallback_ : HttpCallback}
    {closeCallback : TcpConnection.CloseCallback} {inputs : List Input}
    {tr : List Occurrence}
    (hrun : (ServingMachine httpCallback_).Run (Init closeCallback) inputs =
      some (serving, tr)) :
    TcpConnection.Accepted (OnWire tr) ++
        serving.world.conn.outputBuffer_.Readable = Told false tr ∧
    (serving.world.conn.state_ ≠ TcpConnection.States.kConnecting ->
      exists context, serving.context_ = some context ∧
        forall buf receiveTime, exists answer,
          context.ParseRequest buf receiveTime =
            some (Except.ok answer)) := by
  refine ⟨stream_told hrun, fun hstate => ?_⟩
  rcases (run_spec hrun).2 with ⟨context, hcontext, hbetween⟩ | hfresh
  · refine ⟨context, hcontext, fun buf receiveTime => ?_⟩
    rcases parse_between (hbetween buf) buf.Readable receiveTime with
      ⟨ok, last, rest, hparse, _⟩
    rcases hparse buf rfl with ⟨left, hparse, _⟩
    exact ⟨_, hparse⟩
  · exact absurd hfresh.2 hstate

def HelloText : List Byte :=
  (({ HttpResponse.New true with
      statusCode_ := HttpResponse.HttpStatusCode.k200Ok
      statusMessage_ := Ascii "ok"
      body_ := Ascii "<p>Hello, wethands!</p>\r\n" } :
    HttpResponse).AppendToBuffer (Buffer.New Buffer.kInitialSize)).Readable

/-- The second request comes behind the last word. -/
theorem answers_in_order_of_hello :
    exists serving tr,
      (ServingMachine DefaultHttpCallback).Run
        (Init TcpConnection.CloseCallback.otherLoop)
        [Input.runFunctor,
          Input.handleRead 1 FirstHead (TcpConnection.WriteResult.wrote 0)
            (TcpConnection.WriteResult.wrote 10),
          Input.handleRead 2 SecondHead (TcpConnection.WriteResult.wrote 0)
            (TcpConnection.WriteResult.wrote 0),
          Input.handleWrite (TcpConnection.WriteResult.wrote 20)] =
          some (serving, tr) ∧
      Told false tr = HelloText ∧
      TcpConnection.Accepted (OnWire tr) ++
        serving.world.conn.outputBuffer_.Readable = HelloText := by
  have heval : ((ServingMachine DefaultHttpCallback).Run
      (Init TcpConnection.CloseCallback.otherLoop)
      [Input.runFunctor,
        Input.handleRead 1 FirstHead (TcpConnection.WriteResult.wrote 0)
          (TcpConnection.WriteResult.wrote 10),
        Input.handleRead 2 SecondHead (TcpConnection.WriteResult.wrote 0)
          (TcpConnection.WriteResult.wrote 0),
        Input.handleWrite (TcpConnection.WriteResult.wrote 20)]).map
      (fun last => Told false last.2) = some HelloText := by
    decide +kernel
  rcases Option.map_eq_some_iff.mp heval with ⟨⟨serving, tr⟩, hrun, htold⟩
  refine ⟨serving, tr, hrun, htold, ?_⟩
  rw [(answers_in_order hrun).1]
  exact htold

end Serving
end HttpServer
end Net
end Wethands
