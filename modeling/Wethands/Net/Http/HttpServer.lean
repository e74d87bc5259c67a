import Wethands.Foundation.Machine
import Wethands.Net.Http.Chunks

/-!
# Requests on a persistent connection

`HttpServer::onMessage` makes one call of the parser for each read.  The body of
a request is copied out of the buffer and stays in it, and a second request that
came with the same read waits for the next one.
-/

namespace Wethands
namespace Net

open Foundation Utils Buffer HttpContext HttpRequestParseState

def HttpContext.Reset (_ : HttpContext) : HttpContext where
  request_ := HttpRequest.New
  state_ := kExpectRequestLine

namespace HttpServer

/-- The context and the input buffer of a connection. -/
structure Session where
  context : HttpContext
  buf : Buffer

/--
`badRequest` is the answer with status 400 and the `Shutdown` behind it, and
`httpCallback` the request handed over by `handleRequest`.
-/
inductive Event where
  | badRequest
  | httpCallback (request : HttpRequest)

def OnMessage (session : Session) (receiveTime : Timestamp) :
    Option (Session × List Event) :=
  match session.context.ParseRequest session.buf receiveTime with
  | some (Except.ok (ok, context, buf)) =>
      let es := if ok then [] else [Event.badRequest]
      if context.GotAll then
        some (⟨context.Reset, buf⟩,
          es ++ [Event.httpCallback context.request_])
      else some (⟨context, buf⟩, es)
  | _ => none

/-- Each read puts its bytes into the buffer and calls `onMessage`. -/
def ServerMachine : Machine Session Chunk Event where
  Step session chunk :=
    OnMessage { session with buf := session.buf.Append chunk.2 } chunk.1

def Start : Session where
  context := HttpContext.New
  buf := Buffer.New kInitialSize

def Event.Handed : Event -> List HttpRequest
  | httpCallback request => [request]
  | badRequest => []

/-- The requests handed to `httpCallback_`. -/
def Handed (tr : List Event) : List HttpRequest :=
  tr.flatMap Event.Handed

/-!
# What one read does
-/

/-- Between two reads the parser waits for a request line or for headers. -/
def Between (session : Session) : Prop :=
  session.context = HttpContext.New ∨
    session.context.state_ = kExpectHeaders

/-- What `onMessage` makes of header lines that were read. -/
def Settled (next : Session) (es : List Event) (last : HttpRequest)
    (left : List Byte) : Option Stop -> Prop
  | none =>
      next.context = ⟨last, kExpectHeaders⟩ ∧ next.buf.Readable = left ∧
        es = []
  | some Stop.badHeader =>
      next.context = ⟨last, kExpectHeaders⟩ ∧ next.buf.Readable = left ∧
        es = [Event.badRequest]
  | some Stop.blankLine =>
      next.context = HttpContext.New ∧ next.buf.Readable = left.drop 2 ∧
        es = [Event.httpCallback (last.SetBody (left.drop 2))]

theorem onMessage_of_concluded {session : Session} {receiveTime : Timestamp}
    {last : HttpRequest} {left : List Byte} {why : Option Stop}
    (h : Concluded (session.context.ParseRequest session.buf receiveTime)
      last left why) :
    exists next es, OnMessage session receiveTime = some (next, es) ∧
      Settled next es last left why := by
  cases why with
  | none =>
      rcases h with ⟨buf, hresult, hbuf⟩
      refine ⟨⟨⟨last, kExpectHeaders⟩, buf⟩, [], ?_, rfl, hbuf, rfl⟩
      rw [OnMessage, hresult]
      rfl
  | some why =>
      cases why with
      | badHeader =>
          rcases h with ⟨buf, hresult, hbuf⟩
          refine ⟨⟨⟨last, kExpectHeaders⟩, buf⟩, [Event.badRequest], ?_, rfl,
            hbuf, rfl⟩
          rw [OnMessage, hresult]
          rfl
      | blankLine =>
          rcases h with ⟨buf, hresult, hbuf⟩
          refine ⟨⟨HttpContext.New, buf⟩,
            [Event.httpCallback (last.SetBody (left.drop 2))], ?_, rfl, hbuf,
            rfl⟩
          rw [OnMessage, hresult]
          rfl

theorem step_of_concluded {context : HttpContext} {buf : Buffer}
    {chunk : Chunk} {last : HttpRequest} {left : List Byte}
    {why : Option Stop}
    (h : Concluded (context.ParseRequest (buf.Append chunk.2) chunk.1)
      last left why) :
    exists next es, ServerMachine.Step ⟨context, buf⟩ chunk =
        some (next, es) ∧ Settled next es last left why := by
  have hsession : Concluded
      (ParseRequest (Session.mk context (buf.Append chunk.2)).context
        (Session.mk context (buf.Append chunk.2)).buf chunk.1)
      last left why := h
  exact onMessage_of_concluded hsession

def Accepts (text line rest : List Byte) : Prop :=
  Cut kCRLF text = some (line, rest) ∧ line ∈ Pattern.RequestLine.Denotes

theorem step_rejects {session : Session} (chunk : Chunk)
    (hnew : session.context = HttpContext.New)
    (h : forall line rest,
      ¬Accepts (session.buf.Readable ++ chunk.2) line rest) :
    exists next, ServerMachine.Step session chunk =
        some (next, [Event.badRequest]) ∧
      next.context = HttpContext.New ∧
      next.buf.Readable = session.buf.Readable ++ chunk.2 := by
  have hnone : forall line rest,
      Cut kCRLF (session.buf.Append chunk.2).Readable = some (line, rest) ->
        line ∉ Pattern.RequestLine.Denotes := by
    intro line rest hcut hline
    rw [readable_append] at hcut
    exact h line rest ⟨hcut, hline⟩
  refine ⟨⟨HttpContext.New, session.buf.Append chunk.2⟩, ?_, rfl,
    readable_append _ _⟩
  show OnMessage _ _ = _
  rw [OnMessage, hnew, parseRequest_rejects hnone]
  rfl

theorem step_accepts {session : Session} {chunk : Chunk}
    {line rest : List Byte} (hnew : session.context = HttpContext.New)
    (h : Accepts (session.buf.Readable ++ chunk.2) line rest) :
    exists context last left why next es,
      HttpContext.New.ParseRequestLine line = Except.ok (true, context) ∧
      Reads Headers (context.request_.SetReceiveTime chunk.1) rest last left
        why ∧
      ServerMachine.Step session chunk = some (next, es) ∧
      Settled next es last left why := by
  rcases parseRequestLine_new h.2 with ⟨context, hparse, _⟩
  rcases Reads.exists_reads Headers
    (context.request_.SetReceiveTime chunk.1) rest with
      ⟨last, left, why, hreads⟩
  have hcut : Cut kCRLF (session.buf.Append chunk.2).Readable =
      some (line, rest) := by
    rw [readable_append]
    exact h.1
  have hread : Concluded
      (ParseRequest session.context (session.buf.Append chunk.2) chunk.1)
      last left why := by
    rw [hnew]
    exact parseRequest_accepts hcut hparse hreads
  rcases step_of_concluded hread with ⟨next, es, hstep, hsettled⟩
  exact ⟨context, last, left, why, next, es, hparse, hreads, hstep, hsettled⟩

theorem step_headers {session : Session} (chunk : Chunk)
    (hheaders : session.context.state_ = kExpectHeaders) :
    exists last left why next es,
      Reads Headers session.context.request_
        (session.buf.Readable ++ chunk.2) last left why ∧
      ServerMachine.Step session chunk = some (next, es) ∧
      Settled next es last left why := by
  rcases session with ⟨⟨request, state_⟩, buf⟩
  cases hheaders
  rcases Reads.exists_reads Headers request (buf.Readable ++ chunk.2) with
    ⟨last, left, why, hreads⟩
  have htext := hreads
  rw [← readable_append] at htext
  have hread : Concluded
      (ParseRequest ⟨request, kExpectHeaders⟩ (buf.Append chunk.2) chunk.1)
      last left why := parseRequest_headers htext
  rcases step_of_concluded hread with ⟨next, es, hstep, hsettled⟩
  exact ⟨last, left, why, next, es, hreads, hstep, hsettled⟩

theorem between_of_settled {next : Session} {es : List Event}
    {last : HttpRequest} {left : List Byte} {why : Option Stop}
    (h : Settled next es last left why) : Between next := by
  cases why with
  | none => exact Or.inr (by rw [h.1])
  | some why =>
      cases why with
      | badHeader => exact Or.inr (by rw [h.1])
      | blankLine => exact Or.inl h.1

/-!
# Header blocks
-/

theorem reads_block {block : List Byte} (h : IsHeaderBlock block)
    (request : HttpRequest) :
    exists last, Reads Headers request block last kCRLF
      (some Stop.blankLine) := by
  induction h generalizing request with
  | blank =>
      have hcut : Cut kCRLF kCRLF = some ([], []) :=
        (cut_eq_some kCRLF_ne_nil).mpr ⟨rfl, ends_nil⟩
      have hnext : NextHeader request kCRLF =
          Progress.halt Stop.blankLine :=
        nextHeader_eq_halt.mpr ⟨[], [], hcut, rfl, rfl⟩
      exact ⟨request, Reads.halt hnext⟩
  | header hline _ ih =>
      rcases Option.isSome_iff_exists.mp
        (Regex.fullMatch_isSome.mpr hline.2) with ⟨m, hmatch⟩
      rcases ih (request.AddHeader (m 1) (m 2)) with ⟨last, hrest⟩
      refine ⟨last, Reads.take ?_ hrest⟩
      refine nextHeader_eq_take.mpr ⟨_, m, ?_, hmatch, rfl⟩
      exact (cut_eq_some kCRLF_ne_nil).mpr ⟨rfl, hline.1⟩

theorem block_of_reads {request last : HttpRequest} {text left : List Byte}
    (h : Reads Headers request text last left (some Stop.blankLine)) :
    exists block body, IsHeaderBlock block ∧ text = block ++ body ∧
      left = kCRLF ++ body ∧
      Reads Headers request block last kCRLF (some Stop.blankLine) := by
  rcases headersComplete_of_reads h with ⟨block, hblock, body, rfl⟩
  rcases reads_block hblock request with ⟨other, hother⟩
  rcases (hother.append_of_halt body).unique h with ⟨rfl, hleft, _⟩
  exact ⟨block, body, hblock, rfl, hleft.symm, hother⟩

theorem waits_of_part {request last : HttpRequest}
    {block text more left : List Byte} {why : Option Stop}
    (hblock : IsHeaderBlock block) (hpart : block = text ++ more)
    (hmore : more ≠ [])
    (h : Reads Headers request text last left why) : why = none := by
  cases why with
  | none => rfl
  | some why =>
      rcases reads_block hblock request with ⟨whole, hwhole⟩
      rw [hpart] at hwhole
      rcases (h.append_of_halt more).unique hwhole with ⟨rfl, hleft, hwhy⟩
      cases hwhy
      rcases reads_blankLine h with ⟨body, rfl⟩
      rw [List.append_assoc] at hleft
      have hnone := List.append_eq_nil_iff.mp
        (List.append_right_eq_self.mp hleft)
      exact absurd hnone.2 hmore

/-!
# What a request keeps in the buffer
-/

/-- What the parser is still to read of a request, up to its blank line. -/
def IsRest (session : Session) (head : List Byte) : Prop :=
  session.context = HttpContext.New ∧ IsHead head ∨
    session.context.state_ = kExpectHeaders ∧ IsHeaderBlock head

theorem blankLine_of_handed {next : Session} {es : List Event}
    {last request : HttpRequest} {left : List Byte} {why : Option Stop}
    (h : Settled next es last left why)
    (hmem : Event.httpCallback request ∈ es) :
    why = some Stop.blankLine ∧ request = last.SetBody (left.drop 2) := by
  cases why with
  | none =>
      rw [h.2.2] at hmem
      cases hmem
  | some why =>
      cases why with
      | badHeader =>
          rw [h.2.2] at hmem
          cases List.mem_singleton.mp hmem
      | blankLine =>
          rw [h.2.2] at hmem
          cases List.mem_singleton.mp hmem
          exact ⟨rfl, rfl⟩

theorem step_between {session next : Session} {chunk : Chunk}
    {es : List Event} (hbetween : Between session)
    (hstep : ServerMachine.Step session chunk = some (next, es)) :
    Between next := by
  rcases hbetween with hnew | hheaders
  · by_cases haccepts : exists line rest,
        Accepts (session.buf.Readable ++ chunk.2) line rest
    · rcases haccepts with ⟨line, rest, haccepts⟩
      rcases step_accepts hnew haccepts with
        ⟨_, _, _, _, other, es', _, _, hother, hsettled⟩
      rw [hstep] at hother
      cases hother
      exact between_of_settled hsettled
    · rcases step_rejects chunk hnew
        (fun line rest h => haccepts ⟨line, rest, h⟩) with
        ⟨other, hother, hcontext, _⟩
      rw [hstep] at hother
      cases hother
      exact Or.inl hcontext
  · rcases step_headers chunk hheaders with
      ⟨_, _, _, other, es', _, hother, hsettled⟩
    rw [hstep] at hother
    cases hother
    exact between_of_settled hsettled

theorem step_hands {session next : Session} {chunk : Chunk}
    {es : List Event} {request : HttpRequest} (hbetween : Between session)
    (hstep : ServerMachine.Step session chunk = some (next, es))
    (hmem : Event.httpCallback request ∈ es) :
    exists head body, session.buf.Readable ++ chunk.2 = head ++ body ∧
      IsRest session head ∧ request.body_ = body ∧
      next.buf.Readable = body := by
  rcases hbetween with hnew | hheaders
  · by_cases haccepts : exists line rest,
        Accepts (session.buf.Readable ++ chunk.2) line rest
    · rcases haccepts with ⟨line, rest, haccepts⟩
      rcases step_accepts hnew haccepts with
        ⟨_, _, left, _, other, es', _, hreads, hother, hsettled⟩
      rw [hstep] at hother
      cases hother
      rcases blankLine_of_handed hsettled hmem with ⟨rfl, rfl⟩
      rcases block_of_reads hreads with ⟨block, body, hblock, hrest, hleft, _⟩
      rcases (cut_eq_some kCRLF_ne_nil).mp haccepts.1 with ⟨htext, hends⟩
      have hbody : left.drop 2 = body := by
        rw [hleft]
        rfl
      refine ⟨line ++ kCRLF ++ block, body, ?_, ?_, hbody, ?_⟩
      · rw [htext, hrest, List.append_assoc (line ++ kCRLF)]
      · exact Or.inl ⟨hnew, IsHead.mk ⟨hends, haccepts.2⟩ hblock⟩
      · rw [hsettled.2.1, hbody]
    · rcases step_rejects chunk hnew
        (fun line rest h => haccepts ⟨line, rest, h⟩) with
        ⟨other, hother, _, _⟩
      rw [hstep] at hother
      cases hother
      cases List.mem_singleton.mp hmem
  · rcases step_headers chunk hheaders with
      ⟨_, left, _, other, es', hreads, hother, hsettled⟩
    rw [hstep] at hother
    cases hother
    rcases blankLine_of_handed hsettled hmem with ⟨rfl, rfl⟩
    rcases block_of_reads hreads with ⟨block, body, hblock, htext, hleft, _⟩
    have hbody : left.drop 2 = body := by
      rw [hleft]
      rfl
    refine ⟨block, body, htext, Or.inr ⟨hheaders, hblock⟩, hbody, ?_⟩
    rw [hsettled.2.1, hbody]

theorem run_between {chunks : List Chunk} {session : Session}
    {tr : List Event}
    (hrun : ServerMachine.Run Start chunks = some (session, tr)) :
    Between session :=
  Machine.run_invariant (I := fun session _ => Between session) (p := [])
    (fun _ _ _ _ _ hbetween hstep => step_between hbetween hstep)
    (Or.inl rfl) hrun

/-!
# Reading one request
-/

def SameHead (a b : HttpRequest) : Prop :=
  a.method_ = b.method_ ∧ a.path_ = b.path_ ∧ a.query_ = b.query_ ∧
    a.version_ = b.version_ ∧ a.headers_ = b.headers_

def Describes (head : List Byte) (request : HttpRequest) : Prop :=
  exists line block context last,
    IsLine Pattern.RequestLine line ∧ IsHeaderBlock block ∧
    head = line ++ kCRLF ++ block ∧
    HttpContext.New.ParseRequestLine line = Except.ok (true, context) ∧
    Reads Headers context.request_ block last kCRLF (some Stop.blankLine) ∧
    SameHead request last

inductive Reading (line : List Byte) : List Byte -> Session -> Prop where
  | line {seen : List Byte} {session : Session} :
      session.context = HttpContext.New -> session.buf.Readable = seen ->
      ¬line ++ kCRLF <+: seen -> Reading line seen session
  | headers {hs : List Byte} {session : Session} {context : HttpContext}
      {last : HttpRequest} {receiveTime : Timestamp} :
      HttpContext.New.ParseRequestLine line = Except.ok (true, context) ->
      Reads Headers (context.request_.SetReceiveTime receiveTime) hs last
        session.buf.Readable none ->
      session.context = ⟨last, kExpectHeaders⟩ ->
      Reading line (line ++ kCRLF ++ hs) session

theorem reading_nil (line : List Byte) {session : Session}
    (hnew : session.context = HttpContext.New)
    (hempty : session.buf.Readable = []) : Reading line [] session := by
  apply Reading.line hnew hempty
  intro h
  have hnone := (List.append_eq_nil_iff.mp (List.prefix_nil.mp h)).2
  exact kCRLF_ne_nil hnone

section Request

variable {line block : List Byte} {chunk : Chunk}

/-- Only the line of the request itself is accepted in front of it. -/
theorem accepts_unique (hline : IsLine Pattern.RequestLine line)
    {text more other rest : List Byte}
    (htext : text ++ more = line ++ kCRLF ++ block)
    (h : Accepts text other rest) : line ++ kCRLF <+: text := by
  have hwhole := cut_append kCRLF_ne_nil more h.1
  have hcut : Cut kCRLF (line ++ kCRLF ++ block) = some (line, block) :=
    (cut_eq_some kCRLF_ne_nil).mpr ⟨rfl, hline.1⟩
  rw [htext, hcut] at hwhole
  cases hwhole
  exact prefix_of_cut h.1

theorem reading_part (hline : IsLine Pattern.RequestLine line)
    (hblock : IsHeaderBlock block) {seen more : List Byte} {session : Session}
    (hreading : Reading line seen session)
    (hpart : seen ++ chunk.2 ++ more = line ++ kCRLF ++ block)
    (hmore : more ≠ []) :
    exists next es, ServerMachine.Step session chunk = some (next, es) ∧
      Reading line (seen ++ chunk.2) next ∧ Handed es = [] := by
  cases hreading with
  | line hnew hbuf hnot =>
      by_cases hfront : line ++ kCRLF <+: seen ++ chunk.2
      · rcases hfront with ⟨hs, hhs⟩
        have haccepts : Accepts (session.buf.Readable ++ chunk.2) line hs := by
          rw [hbuf]
          exact ⟨(cut_eq_some kCRLF_ne_nil).mpr ⟨hhs.symm, hline.1⟩, hline.2⟩
        rcases step_accepts hnew haccepts with
          ⟨context, last, left, why, next, es, hparse, hreads, hstep, hsettled⟩
        have hrest : block = hs ++ more := by
          rw [← hhs, List.append_assoc] at hpart
          exact (List.append_cancel_left hpart).symm
        cases waits_of_part hblock hrest hmore hreads
        refine ⟨next, es, hstep, ?_, ?_⟩
        · rw [← hhs]
          rw [← hsettled.2.1] at hreads
          exact Reading.headers hparse hreads hsettled.1
        · rw [hsettled.2.2]
          rfl
      · have hnone : forall other rest,
            ¬Accepts (session.buf.Readable ++ chunk.2) other rest := by
          intro other rest haccepts
          rw [hbuf] at haccepts
          exact hfront (accepts_unique hline hpart haccepts)
        rcases step_rejects chunk hnew hnone with
          ⟨next, hstep, hcontext, hreadable⟩
        refine ⟨next, [Event.badRequest], hstep, ?_, rfl⟩
        rw [hbuf] at hreadable
        exact Reading.line hcontext hreadable hfront
  | @headers hs session context last receiveTime hparse hreads hcontext =>
      have hstate : session.context.state_ = kExpectHeaders := by rw [hcontext]
      rcases step_headers chunk hstate with
        ⟨last', left, why, next, es, hnext, hstep, hsettled⟩
      rw [hcontext] at hnext
      have hlonger := (hreads.append_of_wait chunk.2).mpr hnext
      have hrest : block = hs ++ chunk.2 ++ more := by
        rw [List.append_assoc, List.append_assoc] at hpart
        rw [List.append_assoc]
        exact (List.append_cancel_left hpart).symm
      cases waits_of_part hblock hrest hmore hlonger
      refine ⟨next, es, hstep, ?_, ?_⟩
      · rw [List.append_assoc]
        rw [← hsettled.2.1] at hlonger
        exact Reading.headers hparse hlonger hsettled.1
      · rw [hsettled.2.2]
        rfl

theorem describes_of_reads (hline : IsLine Pattern.RequestLine line)
    (hblock : IsHeaderBlock block) {context : HttpContext}
    {last : HttpRequest} {receiveTime : Timestamp} {body left : List Byte}
    {why : Option Stop}
    (hparse : HttpContext.New.ParseRequestLine line =
      Except.ok (true, context))
    (hreads : Reads Headers (context.request_.SetReceiveTime receiveTime)
      (block ++ body) last left why) :
    why = some Stop.blankLine ∧ left = kCRLF ++ body ∧
      Describes (line ++ kCRLF ++ block) (last.SetBody body) := by
  rcases reads_block hblock (context.request_.SetReceiveTime receiveTime) with
    ⟨whole, hwhole⟩
  rcases (hwhole.append_of_halt body).unique hreads with ⟨rfl, rfl, rfl⟩
  have hsame : SameFields (context.request_.SetReceiveTime receiveTime)
      context.request_ := ⟨rfl, rfl, rfl, rfl, rfl, rfl⟩
  rcases reads_sameFields hwhole hsame with ⟨own, hown, hfields⟩
  rcases hfields with ⟨hmethod, hpath, hquery, hversion, hheaders, _⟩
  exact ⟨rfl, rfl, line, block, context, own, hline, hblock, rfl, hparse, hown,
    hmethod, hpath, hquery, hversion, hheaders⟩

theorem reading_whole (hline : IsLine Pattern.RequestLine line)
    (hblock : IsHeaderBlock block) {seen body : List Byte} {session : Session}
    (hreading : Reading line seen session)
    (hwhole : seen ++ chunk.2 = line ++ kCRLF ++ block ++ body) :
    exists next request,
      ServerMachine.Step session chunk =
        some (next, [Event.httpCallback request]) ∧
      next.context = HttpContext.New ∧ next.buf.Readable = body ∧
      Describes (line ++ kCRLF ++ block) request ∧ request.body_ = body := by
  cases hreading with
  | line hnew hbuf hnot =>
      have haccepts : Accepts (session.buf.Readable ++ chunk.2) line
          (block ++ body) := by
        rw [hbuf, hwhole, List.append_assoc (line ++ kCRLF)]
        exact ⟨(cut_eq_some kCRLF_ne_nil).mpr ⟨rfl, hline.1⟩, hline.2⟩
      rcases step_accepts hnew haccepts with
        ⟨context, last, left, why, next, es, hparse, hreads, hstep, hsettled⟩
      rcases describes_of_reads hline hblock hparse hreads with
        ⟨rfl, rfl, hdescribes⟩
      rw [hsettled.2.2] at hstep
      exact ⟨next, _, hstep, hsettled.1, hsettled.2.1, hdescribes, rfl⟩
  | @headers hs session context last receiveTime hparse hreads hcontext =>
      have hstate : session.context.state_ = kExpectHeaders := by rw [hcontext]
      rcases step_headers chunk hstate with
        ⟨last', left, why, next, es, hnext, hstep, hsettled⟩
      rw [hcontext] at hnext
      have hlonger := (hreads.append_of_wait chunk.2).mpr hnext
      have hrest : hs ++ chunk.2 = block ++ body := by
        rw [List.append_assoc, List.append_assoc (line ++ kCRLF)] at hwhole
        exact List.append_cancel_left hwhole
      rw [hrest] at hlonger
      rcases describes_of_reads hline hblock hparse hlonger with
        ⟨rfl, rfl, hdescribes⟩
      rw [hsettled.2.2] at hstep
      exact ⟨next, _, hstep, hsettled.1, hsettled.2.1, hdescribes, rfl⟩

end Request

/-!
# Reading many requests
-/

def Own (head : List Byte) (request : HttpRequest) : Prop :=
  Describes head request ∧ request.body_ = []

def HandsExactly (session : Session) (chunks : List Chunk)
    (heads : List (List Byte)) : Prop :=
  exists last tr, ServerMachine.Run session chunks = some (last, tr) ∧
    List.Forall₂ Own heads (Handed tr) ∧ last.buf.Readable = []

/-- With what was seen before, each request ends with a read. -/
def EndsAtReads (seen : List Byte) (chunks : List Chunk)
    (heads : List (List Byte)) : Prop :=
  forall k, k < heads.length ->
    exists before after, chunks = before ++ after ∧
      seen ++ Bytes before = (heads.take (k + 1)).flatten

theorem handsExactly_cons {session next : Session} {chunk : Chunk}
    {chunks : List Chunk} {heads : List (List Byte)} {es : List Event}
    (hstep : ServerMachine.Step session chunk = some (next, es)) :
    HandsExactly session (chunk :: chunks) heads <->
      exists last tr, ServerMachine.Run next chunks = some (last, tr) ∧
        List.Forall₂ Own heads (Handed es ++ Handed tr) ∧
        last.buf.Readable = [] := by
  constructor
  · intro hexists
    rcases hexists with ⟨last, tr, hrun, hall, hempty⟩
    rcases Machine.run_cons_eq_some.mp hrun with
      ⟨mid, es', tail, hone, hrest, rfl⟩
    rw [hstep] at hone
    cases hone
    rw [Handed, List.flatMap_append] at hall
    exact ⟨last, tail, hrest, hall, hempty⟩
  · intro hsuch
    rcases hsuch with ⟨last, tr, hrest, hall, hempty⟩
    refine ⟨last, es ++ tr, ?_, ?_, hempty⟩
    · exact Machine.run_cons_eq_some.mpr ⟨next, es, tr, hstep, hrest, rfl⟩
    · rw [Handed, List.flatMap_append]
      exact hall

theorem handsExactly_of_whole {session next : Session} {chunk : Chunk}
    {chunks : List Chunk} {head : List Byte} {heads : List (List Byte)}
    {request : HttpRequest}
    (hstep : ServerMachine.Step session chunk =
      some (next, [Event.httpCallback request])) (hown : Own head request) :
    HandsExactly session (chunk :: chunks) (head :: heads) <->
      HandsExactly next chunks heads := by
  rw [handsExactly_cons hstep]
  constructor
  · intro hsuch
    rcases hsuch with ⟨last, tr, hrun, hall, hempty⟩
    cases hall with
    | cons _ hrest => exact ⟨last, tr, hrun, hrest, hempty⟩
  · intro hsuch
    rcases hsuch with ⟨last, tr, hrun, hall, hempty⟩
    exact ⟨last, tr, hrun, List.Forall₂.cons hown hall, hempty⟩

theorem endsAtReads_cons {seen more head : List Byte} {chunk : Chunk}
    {chunks : List Chunk} {heads : List (List Byte)}
    (hpart : head = seen ++ more) (hmore : more ≠ []) :
    EndsAtReads seen (chunk :: chunks) (head :: heads) <->
      EndsAtReads (seen ++ chunk.2) chunks (head :: heads) := by
  constructor
  · intro h k hk
    rcases h k hk with ⟨before, after, hsplit, hbytes⟩
    cases before with
    | nil =>
        rw [bytes_nil, List.append_nil, List.take_succ_cons,
          List.flatten_cons, hpart, List.append_assoc] at hbytes
        have hnone := List.append_eq_nil_iff.mp
          (List.self_eq_append_right.mp hbytes)
        exact absurd hnone.1 hmore
    | cons first before =>
        cases hsplit
        rw [bytes_cons, ← List.append_assoc] at hbytes
        exact ⟨before, after, rfl, hbytes⟩
  · intro h k hk
    rcases h k hk with ⟨before, after, hsplit, hbytes⟩
    refine ⟨chunk :: before, after, ?_, ?_⟩
    · rw [hsplit]
      rfl
    · rw [bytes_cons, ← List.append_assoc]
      exact hbytes

theorem endsAtReads_tail {head : List Byte} {chunks : List Chunk}
    {heads : List (List Byte)} :
    EndsAtReads head chunks (head :: heads) <->
      EndsAtReads [] chunks heads := by
  constructor
  · intro h k hk
    rcases h (k + 1) (Nat.succ_lt_succ hk) with
      ⟨before, after, hsplit, hbytes⟩
    rw [List.take_succ_cons, List.flatten_cons] at hbytes
    exact ⟨before, after, hsplit, List.append_cancel_left hbytes⟩
  · intro h k hk
    cases k with
    | zero =>
        refine ⟨[], chunks, rfl, ?_⟩
        simp
    | succ k =>
        rcases h k (Nat.lt_of_succ_lt_succ hk) with
          ⟨before, after, hsplit, hbytes⟩
        refine ⟨before, after, hsplit, ?_⟩
        rw [List.take_succ_cons, List.flatten_cons, ← hbytes]
        rfl

theorem handsExactly_nothing {session : Session} {chunks : List Chunk}
    (hnew : session.context = HttpContext.New)
    (hempty : session.buf.Readable = []) (hbytes : Bytes chunks = []) :
    HandsExactly session chunks [] := by
  induction chunks generalizing session with
  | nil => exact ⟨session, [], rfl, List.Forall₂.nil, hempty⟩
  | cons chunk chunks ih =>
      rw [bytes_cons, List.append_eq_nil_iff] at hbytes
      have hnone : forall line rest,
          ¬Accepts (session.buf.Readable ++ chunk.2) line rest := by
        intro line rest haccepts
        rw [hempty, hbytes.1] at haccepts
        cases haccepts.1
      rcases step_rejects chunk hnew hnone with
        ⟨next, hstep, hcontext, hreadable⟩
      rw [hempty, hbytes.1] at hreadable
      exact (handsExactly_cons hstep).mpr (ih hcontext hreadable hbytes.2)

theorem handsExactly_iff_of_reading {chunks : List Chunk}
    {heads : List (List Byte)} {line block seen more : List Byte}
    {session : Session} (hline : IsLine Pattern.RequestLine line)
    (hblock : IsHeaderBlock block) (hheads : forall r, r ∈ heads -> IsHead r)
    (hreading : Reading line seen session)
    (hpart : line ++ kCRLF ++ block = seen ++ more) (hmore : more ≠ [])
    (hbytes : seen ++ Bytes chunks =
      line ++ kCRLF ++ block ++ heads.flatten) :
    HandsExactly session chunks ((line ++ kCRLF ++ block) :: heads) <->
      EndsAtReads seen chunks ((line ++ kCRLF ++ block) :: heads) := by
  induction chunks generalizing heads line block seen more session with
  | nil =>
      rw [bytes_nil, List.append_nil, hpart, List.append_assoc] at hbytes
      have hnone := List.append_eq_nil_iff.mp
        (List.self_eq_append_right.mp hbytes)
      exact absurd hnone.1 hmore
  | cons chunk chunks ih =>
      rw [bytes_cons, ← List.append_assoc] at hbytes
      rw [endsAtReads_cons hpart hmore]
      by_cases hlonger : exists left, left ≠ [] ∧
          line ++ kCRLF ++ block = seen ++ chunk.2 ++ left
      · -- The read ends inside the request.
        rcases hlonger with ⟨left, hleft, hhead⟩
        rcases reading_part hline hblock hreading hhead.symm hleft with
          ⟨next, es, hstep, hnext, hnone⟩
        rw [handsExactly_cons hstep, hnone]
        exact ih hline hblock hheads hnext hhead hleft hbytes
      · -- The read brings the end of the request, and perhaps more.
        have hwhole : exists body,
            seen ++ chunk.2 = line ++ kCRLF ++ block ++ body ∧
              heads.flatten = body ++ Bytes chunks := by
          rcases List.append_eq_append_iff.mp hbytes with
            ⟨left, hhead, hrest⟩ | ⟨body, htext, hrest⟩
          · have hnone : left = [] := by
              by_contra hleft
              exact hlonger ⟨left, hleft, hhead⟩
            rw [hnone, List.append_nil] at hhead
            rw [hnone, List.nil_append] at hrest
            exact ⟨[], by rw [hhead, List.append_nil], hrest.symm⟩
          · exact ⟨body, htext, hrest⟩
        rcases hwhole with ⟨body, htext, hrest⟩
        rcases reading_whole hline hblock hreading htext with
          ⟨next, request, hstep, hcontext, hbuf, hdescribes, hbody⟩
        rw [htext]
        by_cases hnone : body = []
        · rw [hnone, List.append_nil, endsAtReads_tail,
            handsExactly_of_whole hstep ⟨hdescribes, hbody.trans hnone⟩]
          rw [hnone] at hbuf
          rw [hnone, List.nil_append] at hrest
          cases heads with
          | nil =>
              apply iff_of_true
              · exact handsExactly_nothing hcontext hbuf hrest.symm
              · intro k hk
                cases hk
          | cons head heads =>
              cases hheads head List.mem_cons_self with
              | @mk line' block' hline' hblock' =>
                  have hmore' : line' ++ kCRLF ++ block' ≠ [] := by
                    simp [kCRLF]
                  exact ih hline' hblock'
                    (fun r hr => hheads r (List.mem_cons_of_mem _ hr))
                    (reading_nil line' hcontext hbuf) (List.nil_append _).symm
                    hmore' hrest.symm
        · apply iff_of_false
          · rw [handsExactly_cons hstep]
            intro hexists
            rcases hexists with ⟨last, tr, _, hall, _⟩
            cases hall with
            | cons hown _ => exact hnone (hbody.symm.trans hown.2)
          · intro hends
            rcases hends 0 (Nat.succ_pos _) with
              ⟨before, after, _, hbefore⟩
            rw [List.take_succ_cons, List.take_zero, List.flatten_cons,
              List.flatten_nil, List.append_nil,
              List.append_assoc] at hbefore
            have hover := List.append_eq_nil_iff.mp
              (List.append_right_eq_self.mp hbefore)
            exact hnone hover.1

/--
What a read hands over has been removed from the buffer exactly when nothing
follows the blank line; and the reads hand over the requests, each once and
without a body, and leave nothing, exactly when each request ends with a read.
-/
theorem framing_iff (chunks : List Chunk) (heads : List (List Byte)) :
    (forall session tr chunk next es request,
      ServerMachine.Run Start chunks = some (session, tr) ->
      ServerMachine.Step session chunk = some (next, es) ->
      Event.httpCallback request ∈ es ->
      exists head rest, session.buf.Readable ++ chunk.2 = head ++ rest ∧
        IsRest session head ∧
        (next.buf.Readable = rest.drop request.body_.length <-> rest = [])) ∧
    ((forall head, head ∈ heads -> IsHead head) ->
      Bytes chunks = heads.flatten ->
      (HandsExactly Start chunks heads <->
        forall k, k < heads.length ->
          exists before after, chunks = before ++ after ∧
            Bytes before = (heads.take (k + 1)).flatten)) := by
  constructor
  · intro session tr chunk next es request hrun hstep hmem
    rcases step_hands (run_between hrun) hstep hmem with
      ⟨head, body, htext, hrest, hbody, hbuf⟩
    refine ⟨head, body, htext, hrest, ?_⟩
    rw [hbuf, hbody, List.drop_length]
  · intro hheads hbytes
    have hempty : Start.buf.Readable = [] := readable_new _
    cases heads with
    | nil =>
        apply iff_of_true
        · exact handsExactly_nothing rfl hempty hbytes
        · intro k hk
          cases hk
    | cons head heads =>
        cases hheads head List.mem_cons_self with
        | @mk line block hline hblock =>
            have hmore : line ++ kCRLF ++ block ≠ [] := by simp [kCRLF]
            exact handsExactly_iff_of_reading hline hblock
              (fun r hr => hheads r (List.mem_cons_of_mem _ hr))
              (reading_nil line rfl hempty) (List.nil_append _).symm hmore
              hbytes

def FirstHead : List Byte := Ascii "GET / HTTP/1.1\r\n\r\n"

def SecondHead : List Byte := Ascii "HEAD /a HTTP/1.0\r\nHost: x\r\n\r\n"

theorem isHead_of_two : forall head, head ∈ [FirstHead, SecondHead] ->
    IsHead head := by
  have hfirst : IsLine Pattern.RequestLine (Ascii "GET / HTTP/1.1") :=
    ⟨by decide +kernel, Regex.fullMatch_isSome.mp (by decide +kernel)⟩
  have hsecond : IsLine Pattern.RequestLine (Ascii "HEAD /a HTTP/1.0") :=
    ⟨by decide +kernel, Regex.fullMatch_isSome.mp (by decide +kernel)⟩
  have hheader : IsLine Pattern.HeaderLine (Ascii "Host: x") :=
    ⟨by decide +kernel, Regex.fullMatch_isSome.mp (by decide +kernel)⟩
  intro head hmem
  rcases List.mem_cons.mp hmem with rfl | hrest
  · exact IsHead.mk hfirst IsHeaderBlock.blank
  · cases List.mem_singleton.mp hrest
    exact IsHead.mk hsecond (IsHeaderBlock.header hheader IsHeaderBlock.blank)

/-- The second request comes in two reads of its own. -/
theorem framing_of_separate_reads :
    HandsExactly Start
      [(1, FirstHead), (2, SecondHead.take 5), (3, SecondHead.drop 5)]
      [FirstHead, SecondHead] := by
  have hbytes : Bytes
      [(1, FirstHead), (2, SecondHead.take 5), (3, SecondHead.drop 5)] =
        [FirstHead, SecondHead].flatten := by decide +kernel
  apply ((framing_iff _ _).2 isHead_of_two hbytes).mpr
  intro k hk
  match k, hk with
  | 0, _ =>
      exact ⟨[(1, FirstHead)], [(2, SecondHead.take 5), (3, SecondHead.drop 5)],
        rfl, by decide +kernel⟩
  | 1, _ => exact ⟨_, [], (List.append_nil _).symm, hbytes⟩

/-- Two requests in one read: the second one is the body of the first. -/
theorem framing_of_one_read :
    (forall head, head ∈ [FirstHead, SecondHead] -> IsHead head) ∧
      Bytes [(1, FirstHead ++ SecondHead)] = [FirstHead, SecondHead].flatten ∧
      (exists session request,
        ServerMachine.Run Start [(1, FirstHead ++ SecondHead)] =
            some (session, [Event.httpCallback request]) ∧
          request.body_ = SecondHead ∧ session.buf.Readable = SecondHead) ∧
      ¬HandsExactly Start [(1, FirstHead ++ SecondHead)]
        [FirstHead, SecondHead] := by
  have hbytes : Bytes [(1, FirstHead ++ SecondHead)] =
      [FirstHead, SecondHead].flatten := by decide +kernel
  have hreading : Reading (Ascii "GET / HTTP/1.1") [] Start :=
    reading_nil _ rfl (readable_new _)
  have hline : IsLine Pattern.RequestLine (Ascii "GET / HTTP/1.1") :=
    ⟨by decide +kernel, Regex.fullMatch_isSome.mp (by decide +kernel)⟩
  have hwhole : [] ++ ((1, FirstHead ++ SecondHead) : Chunk).2 =
      Ascii "GET / HTTP/1.1" ++ kCRLF ++ kCRLF ++ SecondHead := rfl
  rcases reading_whole hline IsHeaderBlock.blank hreading hwhole with
    ⟨session, request, hstep, _, hbuf, _, hbody⟩
  refine ⟨isHead_of_two, hbytes, ⟨session, request, ?_, hbody, hbuf⟩, ?_⟩
  · exact Machine.run_singleton hstep
  · rw [handsExactly_cons hstep]
    intro hexists
    rcases hexists with ⟨last, tr, hrun, _, hempty⟩
    cases hrun
    rw [hbuf] at hempty
    exact absurd hempty (by decide +kernel)

end HttpServer
end Net
end Wethands
