import Wethands.Net.Http.Serving

/-!
# Requests and their answers

Whatever else happens on a connection, its parser sees the reads of
`ServerMachine`.  As long as the connection is connected, what was sent is the
answers to the requests that were handed over, and a peer that counts on the
lengths in them gets one body for each of its requests.
-/

namespace Wethands
namespace Net

open Foundation Utils HttpRequest HttpContext

namespace HttpServer
namespace Serving

/-- The read that `onMessage` is called for. -/
def Input.Arrived : Input -> List Chunk
  | Input.handleRead receiveTime bytes _ _ =>
      if bytes = [] then [] else [(receiveTime, bytes)]
  | _ => []

def Received (inputs : List Input) : List Chunk :=
  inputs.flatMap Input.Arrived

def Known : Occurrence -> List Event
  | Occurrence.badRequest => [Event.badRequest]
  | Occurrence.handled request _ => [Event.httpCallback request]
  | Occurrence.connection _ => []

def Parsed (tr : List Occurrence) : List Event := tr.flatMap Known

/-- Each answer is the one of the callback. -/
def Faithful (httpCallback_ : HttpCallback) (tr : List Occurrence) : Prop :=
  forall request response, Occurrence.handled request response ∈ tr ->
    response = Respond httpCallback_ request

theorem parsed_append (tr es : List Occurrence) :
    Parsed (tr ++ es) = Parsed tr ++ Parsed es :=
  List.flatMap_append

theorem parsed_connection (es : List TcpConnection.Event) :
    Parsed (es.map Occurrence.connection) = [] := by
  refine List.flatMap_eq_nil_iff.mpr (fun o ho => ?_)
  rcases List.mem_map.mp ho with ⟨e, _, rfl⟩
  rfl

variable {httpCallback_ : HttpCallback}

theorem faithful_connection (es : List TcpConnection.Event) :
    Faithful httpCallback_ (es.map Occurrence.connection) := by
  intro request response hmem
  rcases List.mem_map.mp hmem with ⟨e, _, he⟩
  cases he

theorem Faithful.append {tr es : List Occurrence}
    (h : Faithful httpCallback_ tr) (h' : Faithful httpCallback_ es) :
    Faithful httpCallback_ (tr ++ es) := by
  intro request response hmem
  rcases List.mem_append.mp hmem with hmem | hmem
  · exact h request response hmem
  · exact h' request response hmem

theorem arrived_of_brings {i : Input} (h : i.OnLoop.Brings = []) :
    i.Arrived = [] := by
  cases i with
  | handleRead receiveTime bytes refused answered => exact if_pos h
  | _ => rfl

/-!
# Messages

The connection makes of a read what `ServerMachine` makes of it.
-/

variable {serving mid next : Serving} {session : Session}

structure InStep (serving : Serving) (session : Session) : Prop where
  context_ : serving.context_ = some session.context
  inputBuffer_ : serving.world.conn.inputBuffer_.Readable =
    session.buf.Readable
  between : Between session
  messageCallback_ : serving.world.conn.messageCallback_ = true

theorem InStep.of_same (h : InStep serving session)
    (hcontext : next.context_ = serving.context_)
    (hconn : next.world.conn = serving.world.conn) :
    InStep next session where
  context_ := hcontext.trans h.context_
  inputBuffer_ := by
    rw [hconn]
    exact h.inputBuffer_
  between := h.between
  messageCallback_ := by
    rw [hconn]
    exact h.messageCallback_

theorem say_shape {o : Occurrence} {data : List Byte} {last : Bool}
    (result : TcpConnection.WriteResult) :
    Yields (Say serving o data result last) (fun _ es =>
      exists ws : List TcpConnection.Event,
        es = o :: ws.map Occurrence.connection) := by
  intro next es hcall
  rcases then_ok_eq_ok.mp hcall with ⟨rest, hrest, rfl⟩
  rcases then_eq_ok.mp hrest with ⟨mid, es1, es2, hsend, hend, rfl⟩
  rcases through_eq_ok hsend with ⟨world, ws, _, rfl, rfl⟩
  cases last with
  | false =>
      cases hend
      exact ⟨ws, by rw [List.append_nil]; rfl⟩
  | true =>
      rcases through_eq_ok hend with ⟨world2, ws2, _, rfl, rfl⟩
      exact ⟨ws ++ ws2, by rw [List.map_append]; rfl⟩

def Verdict (ok : Bool) (last : HttpContext) : List Event :=
  (if ok then [] else [Event.badRequest]) ++
    if last.GotAll then [Event.httpCallback last.request_] else []

theorem machine_step {context last : HttpContext} {buf left : Buffer}
    {bytes : List Byte} {receiveTime : Timestamp} {ok : Bool}
    (h : context.ParseRequest (buf.Append bytes) receiveTime =
      some (Except.ok (ok, last, left))) :
    ServerMachine.Step ⟨context, buf⟩ (receiveTime, bytes) =
      some (⟨if last.GotAll then last.Reset else last, left⟩,
        Verdict ok last) := by
  show HttpServer.OnMessage _ _ = _
  rw [HttpServer.OnMessage, h, Verdict]
  dsimp only
  split
  · rfl
  · rw [List.append_nil]

theorem onMessage_inStep (hbetween : Between session)
    (hcontext : serving.context_ = some session.context)
    (hset : serving.world.conn.messageCallback_ = true)
    {bytes : List Byte}
    (hbuffer : serving.world.conn.inputBuffer_.Readable =
      session.buf.Readable ++ bytes)
    (receiveTime : Timestamp)
    (refused answered : TcpConnection.WriteResult) :
    Yields (OnMessage httpCallback_ serving receiveTime refused answered)
      (fun next es => exists after,
        ServerMachine.Step session (receiveTime, bytes) =
          some (after, Parsed es) ∧
        InStep next after ∧ Faithful httpCallback_ es) := by
  rcases session with ⟨context, buf⟩
  rcases parse_between hbetween (buf.Readable ++ bytes) receiveTime with
    ⟨ok, last, rest, hparse, hlast⟩
  rcases hparse serving.world.conn.inputBuffer_ hbuffer with
    ⟨left, hmine, hleft⟩
  rcases hparse (buf.Append bytes) (Buffer.readable_append _ _) with
    ⟨other, htheirs, hother⟩
  have hmachine := machine_step htheirs
  unfold OnMessage
  rw [hcontext]
  simp only [hmine]
  have hfirst : Yields
      (if ok then Except.ok ((⟨{ serving.world with
          conn := { serving.world.conn with inputBuffer_ := left } },
            some last⟩ : Serving), [])
        else BadRequest ⟨{ serving.world with
          conn := { serving.world.conn with inputBuffer_ := left } },
            some last⟩ refused)
      (fun mid es => mid.context_ = some last ∧
        mid.world.conn.inputBuffer_ = left ∧
        mid.world.conn.messageCallback_ = true ∧
        Parsed es = (if ok then [] else [Event.badRequest]) ∧
        Faithful httpCallback_ es) := by
    split
    · refine yields_ok.mpr ⟨rfl, rfl, hset, rfl, ?_⟩
      exact faithful_connection []
    · intro mid es hcall
      rcases badRequest_spec refused _ _ hcall with ⟨_, hspares⟩
      rcases say_shape refused _ _ hcall with ⟨ws, rfl⟩
      refine ⟨hspares.context_, hspares.inputBuffer_,
        hspares.messageCallback_.trans hset, ?_, ?_⟩
      · exact congrArg (Event.badRequest :: ·) (parsed_connection ws)
      · intro request response hmem
        rcases List.mem_cons.mp hmem with hfirst | hmem
        · cases hfirst
        · exact faithful_connection ws request response hmem
  refine Yields.in_turn (Yields.mono hfirst (fun mid es hmid => ?_))
  rcases hmid with ⟨hcontext', hbuf, hset', hparsed, hfaithful⟩
  split
  · rename_i hgot
    rw [if_pos hgot, Verdict, if_pos hgot] at hmachine
    refine Yields.in_turn ?_
    intro after es' hcall
    rcases handleRequest_spec httpCallback_ last.request_ answered _ _ hcall
      with ⟨_, hspares⟩
    rcases say_shape answered _ _ hcall with ⟨ws, rfl⟩
    refine yields_ok.mpr
      ⟨⟨last.Reset, other⟩, ?_, ⟨rfl, ?_, Or.inl rfl, ?_⟩, ?_⟩
    · rw [hmachine, List.append_nil, parsed_append, hparsed]
      exact congrArg (fun es => some (_, _ ++ Event.httpCallback _ :: es))
        (parsed_connection ws).symm
    · rw [hother, ← hleft, ← hbuf]
      exact congrArg Buffer.Readable hspares.inputBuffer_
    · exact hspares.messageCallback_.trans hset'
    · rw [List.append_nil]
      refine hfaithful.append ?_
      intro request response hmem
      rcases List.mem_cons.mp hmem with hfirst | hmem
      · cases hfirst
        rfl
      · exact faithful_connection ws request response hmem
  · rename_i hgot
    rw [if_neg hgot, Verdict, if_neg hgot, List.append_nil] at hmachine
    refine yields_ok.mpr
      ⟨⟨last, other⟩, ?_, ⟨hcontext', ?_, ?_, hset'⟩, ?_⟩
    · rw [hmachine, List.append_nil, hparsed]
    · rw [hother, ← hleft, hbuf]
    · exact hlast (Bool.not_eq_true _ ▸ hgot) _
    · rw [List.append_nil]
      exact hfaithful

/-!
# Steps
-/

theorem return_inStep (httpCallback_ : HttpCallback)
    (h : InStep mid session) :
    Yields (Through mid (TcpConnection.Return mid.world)) (fun next es =>
      InStep next session ∧ Parsed es = [] ∧ Faithful httpCallback_ es ∧
      next.world.conn = mid.world.conn) := by
  intro next es hcall
  rcases through_eq_ok hcall with ⟨world, ws, hreturn, rfl, rfl⟩
  have hconn := TcpConnection.conn_return hreturn
  exact ⟨h.of_same rfl hconn, parsed_connection ws, faithful_connection ws,
    hconn⟩

theorem perform_inStep (h : InStep serving session)
    (hcalls : TcpConnection.NoCalls serving.world)
    (hstate : serving.world.conn.state_ ≠ TcpConnection.States.kConnecting)
    (i : Input) :
    Yields (Perform httpCallback_ serving i) (fun next es => exists after,
      ServerMachine.Run session i.Arrived = some (after, Parsed es) ∧
      InStep next after ∧ Faithful httpCallback_ es) := by
  unfold Perform
  cases hcall : TcpConnection.Perform serving.world i.OnLoop with
  | error failure => exact yields_error
  | ok answer =>
      rcases answer with ⟨world, ws⟩
      have hinput : i.OnLoop.OfLoop := by
        cases i <;> exact trivial
      have hdelivers := TcpConnection.perform_delivers hstate hcalls
        h.messageCallback_ hinput _ _ hcall
      have hset := hdelivers.messageCallback_.trans h.messageCallback_
      have hbuffer := hdelivers.inputBuffer_
      rw [h.inputBuffer_] at hbuffer
      -- Without a message there is nothing new to parse.
      have hsilent : ws.getLast? ≠ some (TcpConnection.Event.called
            TcpConnection.Callback.message) ->
          i.Arrived = [] ∧
            InStep { serving with world := world } session := by
        intro hnone
        have hbrings := not_not.mp (mt hdelivers.message.mpr hnone)
        rw [hbrings, List.append_nil] at hbuffer
        exact ⟨arrived_of_brings hbrings, h.context_, hbuffer, h.between,
          hset⟩
      refine Yields.in_turn (yields_ok.mpr ?_)
      unfold Callbacks
      split
      · rename_i hmessage
        have hbytes := hdelivers.message.mp hmessage
        cases i with
        | handleRead receiveTime bytes refused answered =>
            have harrived : (Input.handleRead receiveTime bytes refused
                answered).Arrived = [(receiveTime, bytes)] :=
              if_neg hbytes
            have hcontext : ({ serving with world := world } :
                Serving).context_ = some session.context := h.context_
            refine Yields.in_turn (Yields.mono (onMessage_inStep h.between
              hcontext hset hbuffer receiveTime refused answered) ?_)
            intro mid es hmid
            rcases hmid with ⟨after, hstep, hinStep, hfaithful⟩
            refine Yields.mono (return_inStep httpCallback_ hinStep) ?_
            intro next es' hnext
            refine ⟨after, ?_, hnext.1, ?_⟩
            · rw [harrived, parsed_append, parsed_connection,
                List.nil_append, parsed_append, hnext.2.1, List.append_nil]
              exact Machine.run_singleton hstep
            · exact (faithful_connection ws).append
                (hfaithful.append hnext.2.2.1)
        | _ => exact absurd rfl hbytes
      · rename_i state hconnection
        have hother : world.conn.state_ ≠
            TcpConnection.States.kConnected :=
          hdelivers.connection state hconnection
        rcases hsilent (by simp [hconnection]) with ⟨harrived, hinStep⟩
        unfold OnConnection
        rw [if_neg hother]
        refine Yields.in_turn (yields_ok.mpr ?_)
        refine Yields.mono (return_inStep httpCallback_ hinStep) ?_
        intro next es hnext
        refine ⟨session, ?_, hnext.1, ?_⟩
        · rw [harrived, parsed_append, parsed_connection, List.nil_append,
            List.nil_append, hnext.2.1]
          rfl
        · exact (faithful_connection ws).append hnext.2.2.1
      · rename_i hnone _
        rcases hsilent hnone with ⟨harrived, hinStep⟩
        refine yields_ok.mpr ⟨session, ?_, hinStep, ?_⟩
        · rw [harrived, parsed_append, parsed_connection]
          rfl
        · exact (faithful_connection ws).append (faithful_connection [])

theorem perform_fresh (hfresh : Fresh serving.world)
    (hcalls : TcpConnection.NoCalls serving.world)
    (hset : serving.world.conn.messageCallback_ = true)
    (hempty : serving.world.conn.inputBuffer_.Readable = []) (i : Input) :
    Yields (Perform httpCallback_ serving i) (fun next es =>
      i.Arrived = [] ∧ Parsed es = [] ∧ Faithful httpCallback_ es ∧
      (Fresh next.world ∧ next.world.conn.messageCallback_ = true ∧
          next.world.conn.inputBuffer_.Readable = [] ∨
        next.world.conn.state_ ≠ TcpConnection.States.kConnecting ∧
          InStep next Start)) := by
  unfold Perform
  cases hcall : TcpConnection.Perform serving.world i.OnLoop with
  | error failure => exact yields_error
  | ok answer =>
      rcases answer with ⟨world, ws⟩
      rcases fresh_perform hfresh hcalls _ _ hcall with ⟨hnow, hunread⟩
      have harrived := arrived_of_brings hunread.brings
      have hset' := hunread.messageCallback_.trans hset
      have hempty' : world.conn.inputBuffer_.Readable = [] := by
        rw [hunread.inputBuffer_]
        exact hempty
      -- Without a callback of the server the connection is still fresh.
      have hquiet : forall {next : Serving} {es : List Occurrence},
          Parsed es = [] -> Faithful httpCallback_ es ->
          (Fresh next.world ∧ next.world.conn.messageCallback_ = true ∧
              next.world.conn.inputBuffer_.Readable = [] ∨
            next.world.conn.state_ ≠ TcpConnection.States.kConnecting ∧
              InStep next Start) ->
          i.Arrived = [] ∧
            Parsed (ws.map Occurrence.connection ++ es) = [] ∧
            Faithful httpCallback_ (ws.map Occurrence.connection ++ es) ∧
            (Fresh next.world ∧ next.world.conn.messageCallback_ = true ∧
                next.world.conn.inputBuffer_.Readable = [] ∨
              next.world.conn.state_ ≠ TcpConnection.States.kConnecting ∧
                InStep next Start) := by
        intro next es hparsed hfaithful hnext
        refine ⟨harrived, ?_, (faithful_connection ws).append hfaithful,
          hnext⟩
        rw [parsed_append, parsed_connection, hparsed]
        rfl
      refine Yields.in_turn (yields_ok.mpr ?_)
      unfold Callbacks
      split
      · rename_i hmessage
        rcases hnow with ⟨_, hother⟩ | ⟨_, state, hlast⟩
        · exact absurd hmessage hother
        · rw [hmessage] at hlast
          cases hlast
      · unfold OnConnection
        dsimp only
        split
        · rename_i hconnected
          refine Yields.in_turn (yields_ok.mpr ?_)
          have hstart : InStep ⟨world, some HttpContext.New⟩ Start := by
            refine ⟨rfl, ?_, Or.inl rfl, hset'⟩
            rw [hempty']
            exact (Buffer.readable_new _).symm
          refine Yields.mono (return_inStep httpCallback_ hstart) ?_
          intro next es hnext
          rcases hnext with ⟨hinStep, hparsed, hfaithful, hconn⟩
          refine hquiet hparsed hfaithful (Or.inr ⟨?_, hinStep⟩)
          rw [hconn, hconnected]
          decide
        · rename_i hstate
          rcases hnow with ⟨hfresh', _⟩ | ⟨hconnected, _⟩
          · refine Yields.in_turn (yields_ok.mpr ?_)
            intro next es hreturn
            rcases through_eq_ok hreturn with ⟨world', ws', hback, rfl, rfl⟩
            have hconn := TcpConnection.conn_return hback
            refine hquiet (parsed_connection ws') (faithful_connection ws')
              (Or.inl ?_)
            rw [Fresh, hconn]
            exact ⟨hfresh', hset', hempty'⟩
          · exact absurd hconnected hstate
      · rename_i hnone
        refine yields_ok.mpr (hquiet rfl (faithful_connection [])
          (Or.inl ?_))
        rcases hnow with ⟨hfresh', _⟩ | ⟨_, state, hlast⟩
        · exact ⟨hfresh', hset', hempty'⟩
        · exact absurd hlast (hnone state)

/-!
# What was told
-/

/-- An occurrence that is the last word. -/
def Ends : Occurrence -> Prop
  | Occurrence.badRequest => True
  | Occurrence.handled _ response => response.closeConnection_ = true
  | Occurrence.connection _ => False

theorem said_nothing {tr : List Occurrence} (h : Parsed tr = []) :
    (forall talking, Told talking tr = []) ∧ tr.flatMap Answered = [] ∧
      forall o, o ∈ tr -> ¬Ends o := by
  induction tr with
  | nil => exact ⟨fun _ => rfl, rfl, by simp⟩
  | cons o tr ih =>
      rw [Parsed, List.flatMap_cons, List.append_eq_nil_iff] at h
      rcases ih h.2 with ⟨htold, hanswered, hends⟩
      cases o with
      | badRequest => cases h.1
      | handled request response => cases h.1
      | connection e =>
          refine ⟨fun talking => ?_, hanswered, fun o ho => ?_⟩
          · rw [Told, htold, List.append_nil]
            exact ite_self []
          · rcases List.mem_cons.mp ho with rfl | ho
            · exact id
            · exact hends o ho

theorem told_of_talking {tr : List Occurrence} {talking : Bool}
    (hup : forall e, e ∈ OnWire tr -> ¬e.Establishes)
    (h : Talking talking tr = true) :
    talking = true ∧ Told talking tr = tr.flatMap Answered ∧
      forall o, o ∈ tr -> ¬Ends o := by
  induction tr generalizing talking with
  | nil => exact ⟨h, rfl, by simp⟩
  | cons o tr ih =>
      have hrest : forall e, e ∈ OnWire tr -> ¬e.Establishes := by
        intro e he
        apply hup e
        rw [← List.singleton_append, onWire_append]
        exact List.mem_append.mpr (Or.inr he)
      rcases ih hrest h with ⟨htalks, htold, hends⟩
      have hone : talking = true ∧ ¬Ends o := by
        cases o with
        | badRequest => cases htalks
        | handled request response =>
            rcases Bool.and_eq_true_iff.mp htalks with ⟨htalking, hopen⟩
            refine ⟨htalking, fun hclose => ?_⟩
            change response.closeConnection_ = true at hclose
            rw [hclose] at hopen
            cases hopen
        | connection e =>
            refine ⟨?_, id⟩
            have hdown := hup e List.mem_cons_self
            cases e with
            | stored old new =>
                cases old <;> cases new <;> first
                  | exact htalks
                  | exact absurd trivial hdown
            | handleClose => cases htalks
            | _ => exact htalks
      refine ⟨hone.1, ?_, ?_⟩
      · rw [Told, htold, hone.1, if_pos rfl, List.flatMap_cons]
      · intro other hother
        rcases List.mem_cons.mp hother with rfl | hother
        · exact hone.2
        · exact hends other hother

/-!
# Runs
-/

structure Spoke (tr : List Occurrence) : Prop where
  told : Told false tr = tr.flatMap Answered
  open_ : forall o, o ∈ tr -> ¬Ends o

def Follows (httpCallback_ : HttpCallback) (chunks : List Chunk)
    (serving : Serving) (tr : List Occurrence) : Prop :=
  Faithful httpCallback_ tr ∧
  (Fresh serving.world ∧ serving.world.conn.messageCallback_ = true ∧
      serving.world.conn.inputBuffer_.Readable = [] ∧
      chunks = [] ∧ Parsed tr = [] ∨
    serving.world.conn.state_ ≠ TcpConnection.States.kConnecting ∧
      (exists session,
        ServerMachine.Run Start chunks = some (session, Parsed tr) ∧
        InStep serving session) ∧
      (serving.IsConnected = true -> Spoke tr))

theorem Spoke.of_nothing {tr : List Occurrence} (h : Parsed tr = []) :
    Spoke tr := by
  rcases said_nothing h with ⟨htold, hanswered, hends⟩
  exact ⟨(htold false).trans hanswered.symm, hends⟩

theorem follows_step {closeCallback : TcpConnection.CloseCallback}
    {chunks : List Chunk} {tr es : List Occurrence} {i : Input}
    (haccounts : Accounts (Init closeCallback) serving tr)
    (hready : ReadyOrFresh serving)
    (hfollows : Follows httpCallback_ chunks serving tr)
    (hstep : Perform httpCallback_ serving i = Except.ok (next, es)) :
    Accounts (Init closeCallback) next (tr ++ es) ∧ ReadyOrFresh next ∧
      Follows httpCallback_ (chunks ++ i.Arrived) next (tr ++ es) := by
  have hinit : TcpConnection.NoCalls (Init closeCallback).world := by
    intro functor hmem
    rw [List.mem_singleton.mp hmem]
    rfl
  have hcalls := haccounts.noCalls hinit
  rcases perform_spec httpCallback_ hcalls hready i _ _ hstep with
    ⟨hone, hready'⟩
  refine ⟨haccounts.trans hone, hready', ?_⟩
  rcases hfollows with ⟨hfaithful, hfresh | hestablished⟩
  · rcases hfresh with ⟨hfresh, hset, hempty, rfl, hparsed⟩
    rcases perform_fresh hfresh hcalls hset hempty i _ _ hstep with
      ⟨harrived, hparsed', hfaithful', hnext⟩
    have hnothing : Parsed (tr ++ es) = [] := by
      rw [parsed_append, hparsed, hparsed']
      rfl
    refine ⟨hfaithful.append hfaithful', ?_⟩
    rw [harrived, hnothing]
    rcases hnext with ⟨hfresh', hset', hempty'⟩ | ⟨hup, hinStep⟩
    · exact Or.inl ⟨hfresh', hset', hempty', rfl, rfl⟩
    · exact Or.inr ⟨hup, ⟨Start, rfl, hinStep⟩,
        fun _ => Spoke.of_nothing hnothing⟩
  · rcases hestablished with ⟨hup, ⟨session, hrun, hinStep⟩, hspoke⟩
    rcases perform_inStep hinStep hcalls hup i _ _ hstep with
      ⟨after, hmachine, hinStep', hfaithful'⟩
    rcases TcpConnection.established_once hone.path hup with
      ⟨hup', hnever⟩
    refine ⟨hfaithful.append hfaithful', Or.inr ⟨hup', ⟨after, ?_, hinStep'⟩,
      fun hconnected => ?_⟩⟩
    · rw [parsed_append]
      exact Machine.run_append hrun hmachine
    · have htalking := hone.talking.trans hconnected
      rcases told_of_talking hnever htalking with
        ⟨hconnected', htold, hends⟩
      rcases hspoke hconnected' with ⟨hbefore, hopen⟩
      have hsofar : Talking false tr = serving.IsConnected :=
        haccounts.talking
      constructor
      · rw [told_append, hbefore, hsofar, htold, List.flatMap_append]
      · intro o ho
        rcases List.mem_append.mp ho with ho | ho
        · exact hopen o ho
        · exact hends o ho

theorem run_follows {closeCallback : TcpConnection.CloseCallback}
    {inputs : List Input} {tr : List Occurrence}
    (hrun : (ServingMachine httpCallback_).Run (Init closeCallback) inputs =
      some (serving, tr)) :
    Follows httpCallback_ (Received inputs) serving tr := by
  have hlast : Accounts (Init closeCallback) serving ([] ++ tr) ∧
      ReadyOrFresh serving ∧
      Follows httpCallback_ ([] ++ Received inputs) serving ([] ++ tr) :=
    Machine.run_reads
      (I := fun chunks serving tr =>
        Accounts (Init closeCallback) serving tr ∧ ReadyOrFresh serving ∧
          Follows httpCallback_ chunks serving tr) ?_ ?_ hrun
  · exact hlast.2.2
  · intro chunks serving tr i next es hall hstep
    rcases hall with ⟨haccounts, hready, hfollows⟩
    exact follows_step haccounts hready hfollows (answer_eq_some.mp hstep)
  · exact ⟨accounts_silent rfl rfl, Or.inr ⟨rfl, rfl⟩,
      faithful_connection [],
      Or.inl ⟨⟨rfl, rfl⟩, rfl, Buffer.readable_new _, rfl, rfl⟩⟩

/-!
# A peer that counts
-/

theorem hands_exactly {chunks : List Chunk} {heads : List (List Byte)}
    (hheads : forall head, head ∈ heads -> IsHead head)
    (hbytes : Bytes chunks = heads.flatten)
    (hends : EndsAtReads [] chunks heads) :
    HandsExactly Start chunks heads := by
  have hempty : Start.buf.Readable = [] := Buffer.readable_new _
  cases heads with
  | nil => exact handsExactly_nothing rfl hempty hbytes
  | cons head heads =>
      cases hheads head List.mem_cons_self with
      | @mk line block hline hblock =>
          have hmore : line ++ Buffer.kCRLF ++ block ≠ [] := by
            simp [Buffer.kCRLF]
          exact (handsExactly_iff_of_reading hline hblock
            (fun r hr => hheads r (List.mem_cons_of_mem _ hr))
            (reading_nil line rfl hempty) (List.nil_append _).symm hmore
            hbytes).mpr hends

theorem answered_of_open {tr : List Occurrence}
    (hfaithful : Faithful httpCallback_ tr)
    (hopen : forall o, o ∈ tr -> ¬Ends o) :
    tr.flatMap Answered = (Handed (Parsed tr)).flatMap (fun request =>
        ((Respond httpCallback_ request).AppendToBuffer
          (Buffer.New Buffer.kInitialSize)).Readable) ∧
      forall request, request ∈ Handed (Parsed tr) ->
        (Respond httpCallback_ request).closeConnection_ = false := by
  induction tr with
  | nil => exact ⟨rfl, by simp [Parsed, Handed]⟩
  | cons o tr ih =>
      have hrest := ih
        (fun request response hmem =>
          hfaithful request response (List.mem_cons_of_mem _ hmem))
        (fun other hother => hopen other (List.mem_cons_of_mem _ hother))
      cases o with
      | badRequest => exact absurd trivial (hopen _ List.mem_cons_self)
      | connection e => exact hrest
      | handled request response =>
          have hends := hopen _ List.mem_cons_self
          have hresponse := hfaithful request response List.mem_cons_self
          subst hresponse
          constructor
          · exact congrArg (_ ++ ·) hrest.1
          · intro other hother
            rcases List.mem_cons.mp hother with rfl | hother
            · exact Bool.not_eq_true _ ▸ hends
            · exact hrest.2 other hother

theorem receiveAll_answers {responses : List HttpResponse}
    (h : forall response, response ∈ responses ->
      response.OneLiners ∧ response.closeConnection_ = false ∧
        response.body_.length < 10 ^ 13) :
    HttpResponse.ReceiveAll responses.length
        (responses.flatMap (fun response =>
          (response.AppendToBuffer
            (Buffer.New Buffer.kInitialSize)).Readable)) =
      some (responses.map HttpResponse.body_, []) := by
  have htexts : responses.flatMap (fun response =>
      (response.AppendToBuffer
        (Buffer.New Buffer.kInitialSize)).Readable) =
        responses.flatMap HttpResponse.Text := by
    refine List.flatMap_congr (fun response hresponse => ?_)
    rw [HttpResponse.readable_appendToBuffer _ _ (h response hresponse).2.2,
      Buffer.readable_new, List.nil_append]
  have hall := HttpResponse.receiveAll_texts (fun response hresponse =>
    ⟨(h response hresponse).1, (h response hresponse).2.1⟩) []
  rwa [List.append_nil, ← htexts] at hall

theorem told_bodies {closeCallback : TcpConnection.CloseCallback}
    {inputs : List Input} {tr : List Occurrence} {heads : List (List Byte)}
    (hrun : (ServingMachine httpCallback_).Run (Init closeCallback) inputs =
      some (serving, tr))
    (hconnected : serving.world.conn.state_ =
      TcpConnection.States.kConnected)
    (hheads : forall head, head ∈ heads -> IsHead head)
    (hbytes : Bytes (Received inputs) = heads.flatten)
    (hends : EndsAtReads [] (Received inputs) heads)
    (hfits : forall head request, head ∈ heads -> Own head request ->
      (Respond httpCallback_ request).OneLiners ∧
        (Respond httpCallback_ request).body_.length < 10 ^ 13) :
    exists requests, List.Forall₂ Own heads requests ∧
      HttpResponse.ReceiveAll heads.length (Told false tr) =
        some (requests.map (fun request =>
          (Respond httpCallback_ request).body_), []) := by
  rcases hands_exactly hheads hbytes hends with
    ⟨last, events, hhands, hall, _⟩
  rcases run_follows hrun with ⟨hfaithful, hfresh | hestablished⟩
  · rcases hfresh with ⟨⟨_, hconnecting⟩, _⟩
    cases hconnecting.symm.trans hconnected
  · rcases hestablished with ⟨_, ⟨session, hparses, _⟩, hspoke⟩
    have hsame := hhands.symm.trans hparses
    cases hsame
    rcases hspoke (decide_eq_true hconnected) with ⟨htold, hopen⟩
    rcases answered_of_open hfaithful hopen with ⟨hanswered, halive⟩
    refine ⟨Handed (Parsed tr), hall, ?_⟩
    rw [htold, hanswered, hall.length_eq]
    have hbodies := @receiveAll_answers
      ((Handed (Parsed tr)).map (Respond httpCallback_)) ?_
    · rw [List.length_map, List.flatMap_map, List.map_map] at hbodies
      exact hbodies
    · intro response hresponse
      rcases List.mem_map.mp hresponse with ⟨request, hrequest, rfl⟩
      rcases List.get_of_mem hrequest with ⟨k, rfl⟩
      have hk := Nat.lt_of_lt_of_eq k.isLt hall.length_eq.symm
      have hown := (List.forall₂_iff_get.mp hall).2 k hk k.isLt
      rcases hfits _ _ (List.get_mem _ _) hown with ⟨hone, hlength⟩
      exact ⟨hone, halive _ hrequest, hlength⟩

/--
As long as a connection is connected, a peer whose requests each end with a read
finds the bodies of the answers to them in what it gets, one for each and in
their order, and nothing else.
-/
theorem one_answer_each {closeCallback : TcpConnection.CloseCallback}
    {inputs : List Input} {tr : List Occurrence} {heads : List (List Byte)}
    (hrun : (ServingMachine httpCallback_).Run (Init closeCallback) inputs =
      some (serving, tr))
    (hconnected : serving.world.conn.state_ =
      TcpConnection.States.kConnected)
    (hheads : forall head, head ∈ heads -> IsHead head)
    (hbytes : Bytes (Received inputs) = heads.flatten)
    (hends : EndsAtReads [] (Received inputs) heads)
    (hfits : forall head request, head ∈ heads -> Own head request ->
      (Respond httpCallback_ request).OneLiners ∧
        (Respond httpCallback_ request).body_.length < 10 ^ 13) :
    exists requests, List.Forall₂ Own heads requests ∧
      HttpResponse.ReceiveAll heads.length
          (TcpConnection.Accepted (OnWire tr) ++
            serving.world.conn.outputBuffer_.Readable) =
        some (requests.map (fun request =>
          (Respond httpCallback_ request).body_), []) := by
  rw [stream_told hrun]
  exact told_bodies hrun hconnected hheads hbytes hends hfits

/-!
# Two requests

The headers of the second one come with a read of their own.
-/

def ThirdHead : List Byte := Ascii "GET /a HTTP/1.1\r\n\r\n"

def TwoHeads : List (List Byte) := [FirstHead, ThirdHead]

def HiCallback : HttpCallback := fun _ resp =>
  { resp with
    statusCode_ := HttpResponse.HttpStatusCode.k200Ok
    statusMessage_ := Ascii "ok"
    body_ := Ascii "hi\r\n\r\n" }

def ServesTwo : List Input :=
  [Input.runFunctor,
    Input.handleRead 1 FirstHead (TcpConnection.WriteResult.wrote 0)
      (TcpConnection.WriteResult.wrote 7),
    Input.handleRead 2 (ThirdHead.take 17)
      (TcpConnection.WriteResult.wrote 0)
      (TcpConnection.WriteResult.wrote 0),
    Input.handleWrite (TcpConnection.WriteResult.wrote 9),
    Input.handleRead 3 (ThirdHead.drop 17)
      (TcpConnection.WriteResult.wrote 0)
      (TcpConnection.WriteResult.wrote 0)]

theorem isHead_of_twoHeads :
    forall head, head ∈ TwoHeads -> IsHead head := by
  have hline : IsLine Pattern.RequestLine (Ascii "GET /a HTTP/1.1") :=
    ⟨by decide +kernel, Regex.fullMatch_isSome.mp (by decide +kernel)⟩
  intro head hmem
  rcases List.mem_cons.mp hmem with rfl | hmem
  · exact isHead_of_two _ List.mem_cons_self
  · cases List.mem_singleton.mp hmem
    exact IsHead.mk hline IsHeaderBlock.blank

theorem bytes_servesTwo : Bytes (Received ServesTwo) = TwoHeads.flatten := by
  decide +kernel

theorem endsAtReads_servesTwo :
    EndsAtReads [] (Received ServesTwo) TwoHeads := by
  intro k hk
  cases k with
  | zero => exact ⟨[(1, FirstHead)], _, rfl, by decide +kernel⟩
  | succ k =>
      cases k with
      | zero => exact ⟨_, [], (List.append_nil _).symm, bytes_servesTwo⟩
      | succ k =>
          have hlength : TwoHeads.length = 2 := rfl
          omega

theorem hi_fits (request : HttpRequest) :
    (Respond HiCallback request).OneLiners ∧
      (Respond HiCallback request).body_.length < 10 ^ 13 := by
  refine ⟨⟨?_, ?_⟩, ?_⟩
  · exact (by decide +kernel : forall b, b ∈ Ascii "ok" -> b ≠ 13 ∧ b ≠ 10)
  · intro p hp
    cases hp
  · exact (by decide +kernel : (Ascii "hi\r\n\r\n").length < 10 ^ 13)

theorem one_answer_each_of_two :
    exists serving tr requests,
      (ServingMachine HiCallback).Run
        (Init TcpConnection.CloseCallback.otherLoop) ServesTwo =
          some (serving, tr) ∧
      List.Forall₂ Own TwoHeads requests ∧
      HttpResponse.ReceiveAll 2
          (TcpConnection.Accepted (OnWire tr) ++
            serving.world.conn.outputBuffer_.Readable) =
        some (requests.map (fun request =>
          (Respond HiCallback request).body_), []) := by
  have heval : ((ServingMachine HiCallback).Run
        (Init TcpConnection.CloseCallback.otherLoop) ServesTwo).map
      (fun last => last.1.world.conn.state_) =
        some TcpConnection.States.kConnected := by
    decide +kernel
  rcases Option.map_eq_some_iff.mp heval with
    ⟨⟨serving, tr⟩, hrun, hconnected⟩
  rcases one_answer_each hrun hconnected isHead_of_twoHeads bytes_servesTwo
    endsAtReads_servesTwo (fun _ request _ _ => hi_fits request) with
    ⟨requests, hall, hbodies⟩
  exact ⟨serving, tr, requests, hrun, hall, hbodies⟩

end Serving
end HttpServer
end Net
end Wethands
