import Wethands.Net.Http.RequestLine
import Wethands.Net.Http.Termination
import Wethands.Net.Lines

/-!
# Runs of the parser

Bytes are appended to the buffer, the parser is called, and the context is
reset after a whole request.  The request holds what is in the lines taken off
the buffer; a line that is refused stays and leaves no trace.
-/

namespace Wethands
namespace Net

open Foundation Utils Buffer HttpContext HttpRequestParseState

namespace HttpContext

/-!
# The request that lines determine
-/

/-- The value of the last of these header lines that has the key. -/
def LastValue (headers : List (List Byte)) (key : List Byte) :
    Option (List Byte) :=
  headers.reverse.findSome? (fun line =>
    match Pattern.HeaderLine.FullMatch line with
    | some m => if m 1 = key then some (m 2) else none
    | none => none)

def ReadFrom (line : List Byte) (request : HttpRequest) : Prop :=
  exists m, Pattern.RequestLine.FullMatch line = some m ∧
    HttpRequest.MethodNames request.method_ = m 1 ∧ request.path_ = m 2 ∧
    request.query_ = m 3 ∧ HttpRequest.VersionNames request.version_ = m 4

def Determine (lines : List (List Byte)) (request : HttpRequest) : Prop :=
  match lines with
  | [] => request = HttpRequest.New
  | line :: headers => ReadFrom line request ∧
      forall key, OrderedMap.Lookup request.headers_ key =
        LastValue headers key

theorem lastValue_concat (headers : List (List Byte)) (line key : List Byte) :
    LastValue (headers ++ [line]) key =
      match Pattern.HeaderLine.FullMatch line with
      | some m => if m 1 = key then some (m 2) else LastValue headers key
      | none => LastValue headers key := by
  rw [LastValue, List.reverse_concat, List.findSome?_cons]
  cases Pattern.HeaderLine.FullMatch line with
  | none => rfl
  | some m =>
      by_cases hkey : m 1 = key
      · simp only [if_pos hkey]
      · simp only [if_neg hkey]
        rfl

theorem readFrom_filled {line : List Byte} {m : Nat -> List Byte}
    (hmatch : Pattern.RequestLine.FullMatch line = some m) :
    ReadFrom line (Filled HttpRequest.New m) := by
  have hmethod := Regex.fullMatch_first_group (by decide) hmatch
  rcases mem_methods hmethod with ⟨method, hmethods, hone⟩
  have hversion : m 4 ∈ Pattern.Version.Denotes :=
    Regex.fullMatch_last_group (Regex.EndsIn.seq _ (Regex.EndsIn.seq _
      (Regex.EndsIn.seq _ (Regex.EndsIn.seq _ (Regex.EndsIn.seq _
        (Regex.EndsIn.seq _ Regex.EndsIn.group)))))) hmatch
  rcases RequestLine.mem_version_iff.mp hversion with
    ⟨version, hversions, hfour⟩
  refine ⟨m, hmatch, ?_, rfl, rfl, ?_⟩
  · simp only [Filled, hone, find_method hmethods]
  · simp only [Filled, hfour, find_version hversions]

theorem Determine.addHeader {lines : List (List Byte)}
    {request : HttpRequest} {line : List Byte} {m : Nat -> List Byte}
    (h : Determine lines request) (hne : lines ≠ [])
    (hmatch : Pattern.HeaderLine.FullMatch line = some m) :
    Determine (lines ++ [line]) (request.AddHeader (m 1) (m 2)) := by
  cases lines with
  | nil => exact absurd rfl hne
  | cons first headers =>
      refine ⟨h.1, fun key => ?_⟩
      have hlast := lastValue_concat headers line key
      rw [hmatch] at hlast
      refine Eq.trans ?_ hlast.symm
      rw [HttpRequest.AddHeader, OrderedMap.lookup_assign, h.2]
      exact if_congr equivalent_stringLess rfl rfl

theorem Determine.skip {lines : List (List Byte)} {request : HttpRequest}
    {line : List Byte} (h : Determine lines request) (hne : lines ≠ [])
    (hmatch : Pattern.HeaderLine.FullMatch line = none) :
    Determine (lines ++ [line]) request := by
  cases lines with
  | nil => exact absurd rfl hne
  | cons first headers =>
      refine ⟨h.1, fun key => ?_⟩
      have hlast := lastValue_concat headers line key
      rw [hmatch] at hlast
      exact (h.2 key).trans hlast.symm

theorem Determine.setBody {lines : List (List Byte)} {request : HttpRequest}
    (h : Determine lines request) (hne : lines ≠ []) (b : List Byte) :
    Determine lines (request.SetBody b) := by
  cases lines with
  | nil => exact absurd rfl hne
  | cons first headers => exact h

structure Tells (lines : List (List Byte)) (context : HttpContext) :
    Prop where
  fields : Determine lines context.request_
  fresh : context.state_ = kExpectRequestLine -> context = New
  begun : context.state_ ≠ kExpectRequestLine -> lines ≠ []
  unbegun : context.state_ = kExpectRequestLine -> lines = []

theorem tells_new : Tells [] New where
  fields := rfl
  fresh := fun _ => rfl
  begun := fun h => absurd rfl h
  unbegun := fun _ => rfl

theorem Tells.header {lines : List (List Byte)} {request : HttpRequest}
    {line : List Byte} {m : Nat -> List Byte}
    (h : Tells lines ⟨request, kExpectHeaders⟩)
    (hmatch : Pattern.HeaderLine.FullMatch line = some m) :
    Tells (lines ++ [line])
      ⟨request.AddHeader (m 1) (m 2), kExpectHeaders⟩ := by
  have hne : lines ≠ [] := h.begun (by simp)
  constructor
  · exact h.fields.addHeader hne hmatch
  · intro hstate
    cases hstate
  · intro _
    simp
  · intro hstate
    cases hstate

theorem Tells.blank {lines : List (List Byte)} {request : HttpRequest}
    {line : List Byte} (h : Tells lines ⟨request, kExpectHeaders⟩)
    (hmatch : Pattern.HeaderLine.FullMatch line = none) :
    Tells (lines ++ [line]) ⟨request, kExpectBody⟩ := by
  have hne : lines ≠ [] := h.begun (by simp)
  constructor
  · exact h.fields.skip hne hmatch
  · intro hstate
    cases hstate
  · intro _
    simp
  · intro hstate
    cases hstate

theorem Tells.body {lines : List (List Byte)} {context : HttpContext}
    (h : Tells lines context) (b : List Byte)
    (hstate : context.state_ = kExpectBody) :
    Tells lines ⟨context.request_.SetBody b, kGotAll⟩ := by
  have hne : lines ≠ [] := h.begun (by simp [hstate])
  constructor
  · exact h.fields.setBody hne b
  · intro hstate
    cases hstate
  · exact fun _ => hne
  · intro hstate
    cases hstate

theorem tells_requestLine {line : List Byte} {m : Nat -> List Byte}
    (receiveTime : Timestamp)
    (hmatch : Pattern.RequestLine.FullMatch line = some m) :
    Tells [line]
      ⟨(Filled HttpRequest.New m).SetReceiveTime receiveTime,
        kExpectHeaders⟩ := by
  constructor
  · exact ⟨readFrom_filled hmatch, fun _ => rfl⟩
  · intro hstate
    cases hstate
  · intro _
    simp
  · intro hstate
    cases hstate

/-!
# One iteration
-/

inductive Turn (context : HttpContext) (buf : Buffer) : Parsing -> Prop where
  | takes {line : List Byte} {next : HttpContext} {rest : Buffer} :
      Cut kCRLF buf.Readable = some (line, rest.Readable) ->
      next.state_ ≠ kExpectRequestLine -> next.state_ ≠ kGotAll ->
      (forall lines, Tells lines context -> Tells (lines ++ [line]) next) ->
      Turn context buf (Parsing.Start next rest)
  | rejects :
      (forall receiveTime,
        Iteration receiveTime (Parsing.Start context buf) =
          Except.ok ⟨false, false, context, buf⟩) ->
      Turn context buf ⟨false, false, context, buf⟩
  | waits : Turn context buf ⟨true, false, context, buf⟩
  | body (b : List Byte) : context.state_ = kExpectBody ->
      Turn context buf
        ⟨true, false, ⟨context.request_.SetBody b, kGotAll⟩, buf⟩

theorem turn_requestLine (receiveTime : Timestamp) (buf : Buffer) :
    exists next, Iteration receiveTime (Parsing.Start New buf) =
      Except.ok next ∧ Turn New buf next := by
  by_cases haccepts : exists line rest,
      Cut kCRLF buf.Readable = some (line, rest) ∧
        line ∈ Pattern.RequestLine.Denotes
  · rcases haccepts with ⟨line, rest, hcut, hline⟩
    rcases Option.isSome_iff_exists.mp
      (Regex.fullMatch_isSome.mpr hline) with ⟨m, hmatch⟩
    have hparse : ParseRequestLine New line = Except.ok (true,
        { New with request_ := Filled New.request_ m }) :=
      parseRequestLine_of_match rfl rfl hmatch
    rcases iteration_accepts receiveTime hcut hparse with
      ⟨left, rfl, hiteration⟩
    refine ⟨_, hiteration, Turn.takes hcut (by simp) (by simp) ?_⟩
    intro lines htells
    rw [htells.unbegun rfl]
    exact tells_requestLine receiveTime hmatch
  · have hrejects : forall line rest,
        Cut kCRLF buf.Readable = some (line, rest) ->
          line ∉ Pattern.RequestLine.Denotes :=
      fun line rest hcut hline => haccepts ⟨line, rest, hcut, hline⟩
    exact ⟨_, iteration_rejects hrejects,
      Turn.rejects fun _ => iteration_rejects hrejects⟩

theorem turn_headers (receiveTime : Timestamp) (request : HttpRequest)
    (buf : Buffer) :
    exists next,
      Iteration receiveTime (Parsing.Start ⟨request, kExpectHeaders⟩ buf) =
        Except.ok next ∧ Turn ⟨request, kExpectHeaders⟩ buf next := by
  cases hcut : Cut kCRLF buf.Readable with
  | none => exact ⟨_, iteration_wait hcut, Turn.waits⟩
  | some cut =>
      rcases cut with ⟨line, rest⟩
      rcases iteration_line receiveTime request hcut with
        ⟨left, rfl, hiteration⟩
      refine ⟨_, hiteration, ?_⟩
      cases hmatch : Pattern.HeaderLine.FullMatch line with
      | some m =>
          exact Turn.takes hcut (by simp) (by simp)
            fun _ htells => htells.header hmatch
      | none =>
          by_cases hblank : line = []
          · simp only [if_pos hblank]
            exact Turn.takes hcut (by simp) (by simp)
              fun _ htells => htells.blank hmatch
          · simp only [if_neg hblank]
            apply Turn.rejects
            intro otherTime
            rcases iteration_line otherTime request hcut with
              ⟨_, _, hagain⟩
            rw [hmatch] at hagain
            simp only [if_neg hblank] at hagain
            exact hagain

theorem iteration_turn (receiveTime : Timestamp) {context : HttpContext}
    (buf : Buffer) (hsettled : context.Settled)
    (hunfinished : context.state_ ≠ kGotAll) :
    exists next, Iteration receiveTime (Parsing.Start context buf) =
      Except.ok next ∧ Turn context buf next := by
  rcases context with ⟨request, state⟩
  cases state with
  | kExpectRequestLine =>
      have hnew : HttpContext.mk request kExpectRequestLine = New :=
        hsettled rfl
      rw [hnew]
      exact turn_requestLine receiveTime buf
  | kExpectHeaders => exact turn_headers receiveTime request buf
  | kExpectBody => exact ⟨_, rfl, Turn.body buf.Readable rfl⟩
  | kGotAll => exact absurd rfl hunfinished

/-!
# One call
-/

inductive Takes (receiveTime : Timestamp) :
    HttpContext -> Buffer -> List (List Byte) -> HttpContext -> Buffer ->
      Prop where
  | nil {context : HttpContext} {buf : Buffer} :
      Takes receiveTime context buf [] context buf
  | cons {context mid last : HttpContext} {buf rest left : Buffer}
      {line : List Byte} {lines : List (List Byte)} :
      Iteration receiveTime (Parsing.Start context buf) =
        Except.ok (Parsing.Start mid rest) ->
      Cut kCRLF buf.Readable = some (line, rest.Readable) ->
      Takes receiveTime mid rest lines last left ->
      Takes receiveTime context buf (line :: lines) last left

theorem Takes.areLines {receiveTime : Timestamp} {context last : HttpContext}
    {buf left : Buffer} {lines : List (List Byte)}
    (h : Takes receiveTime context buf lines last left) :
    exists text, AreLines lines text ∧
      buf.Readable = text ++ left.Readable := by
  induction h with
  | nil => exact ⟨[], ⟨rfl, by simp⟩, rfl⟩
  | @cons context mid last buf rest left line lines _ hcut _ ih =>
      rcases ih with ⟨text, hlines, hrest⟩
      rcases (cut_eq_some kCRLF_ne_nil).mp hcut with ⟨hsplit, hends⟩
      have hline : AreLines [line] (line ++ kCRLF) := by
        constructor
        · simp [LineBytes]
        · intro other hother
          rwa [List.mem_singleton.mp hother]
      refine ⟨line ++ kCRLF ++ text, hline.append hlines, ?_⟩
      rw [hsplit, hrest, List.append_assoc, List.append_assoc,
        List.append_assoc]

structure Ended (receiveTime : Timestamp) (context : HttpContext)
    (buf : Buffer) (lines : List (List Byte)) (ok : Bool)
    (last : HttpContext) (left : Buffer) : Prop where
  takes : exists mid, Takes receiveTime context buf lines mid left ∧
    (ok = false -> last = mid)
  tells : forall before, Tells before context -> Tells (before ++ lines) last
  again : ok = false -> forall otherTime,
    last.ParseRequest left otherTime = some (Except.ok (false, last, left))

theorem Ended.cons {receiveTime : Timestamp} {context mid last : HttpContext}
    {buf rest left : Buffer} {line : List Byte} {lines : List (List Byte)}
    {ok : Bool} (h : Ended receiveTime mid rest lines ok last left)
    (hiteration : Iteration receiveTime (Parsing.Start context buf) =
      Except.ok (Parsing.Start mid rest))
    (hcut : Cut kCRLF buf.Readable = some (line, rest.Readable))
    (htells : forall before, Tells before context ->
      Tells (before ++ [line]) mid) :
    Ended receiveTime context buf (line :: lines) ok last left := by
  constructor
  · rcases h.takes with ⟨stop, htakes, hstop⟩
    exact ⟨stop, Takes.cons hiteration hcut htakes, hstop⟩
  · intro before hbefore
    have hlast := h.tells _ (htells before hbefore)
    rwa [List.append_assoc] at hlast
  · exact h.again

theorem loop_ended (receiveTime : Timestamp) (fuel : Nat)
    {context : HttpContext} {buf : Buffer} (hsettled : context.Settled)
    (hunfinished : context.state_ ≠ kGotAll)
    (hfuel : buf.ReadableBytes < fuel) :
    exists lines ok last left,
      Loop receiveTime fuel (Parsing.Start context buf) =
        some (Except.ok (ok, last, left)) ∧
      Ended receiveTime context buf lines ok last left := by
  induction fuel generalizing context buf with
  | zero => exact absurd hfuel (Nat.not_lt_zero _)
  | succ fuel ih =>
      rcases iteration_turn receiveTime buf hsettled hunfinished with
        ⟨next, hiteration, hturn⟩
      rw [loop_of_iteration rfl hiteration]
      cases hturn with
      | @takes line mid rest hcut hbegun hmid htells =>
          have hshorter : rest.ReadableBytes < buf.ReadableBytes :=
            length_cut hcut rfl
          have hsettled : mid.Settled := fun hstate => absurd hstate hbegun
          have hfewer : rest.ReadableBytes < fuel := by omega
          rcases ih hsettled hmid hfewer with
            ⟨lines, ok, last, left, hloop, hended⟩
          exact ⟨line :: lines, ok, last, left, hloop,
            hended.cons hiteration hcut htells⟩
      | rejects hagain =>
          refine ⟨[], false, context, buf, loop_of_done rfl, ?_⟩
          constructor
          · exact ⟨context, Takes.nil, fun _ => rfl⟩
          · intro before hbefore
            rwa [List.append_nil]
          · intro _ otherTime
            rw [ParseRequest]
            exact (loop_of_iteration rfl (hagain otherTime)).trans
              (loop_of_done rfl)
      | waits =>
          refine ⟨[], true, context, buf, loop_of_done rfl, ?_⟩
          constructor
          · exact ⟨context, Takes.nil, fun _ => rfl⟩
          · intro before hbefore
            rwa [List.append_nil]
          · intro hok
            cases hok
      | body b hstate =>
          refine ⟨[], true, _, buf, loop_of_done rfl, ?_⟩
          constructor
          · refine ⟨context, Takes.nil, ?_⟩
            intro hok
            cases hok
          · intro before hbefore
            rw [List.append_nil]
            exact hbefore.body b hstate
          · intro hok
            cases hok

theorem parseRequest_ended (receiveTime : Timestamp) {context : HttpContext}
    (buf : Buffer) (hsettled : context.Settled)
    (hunfinished : context.GotAll = false) :
    exists lines ok last left,
      context.ParseRequest buf receiveTime =
        some (Except.ok (ok, last, left)) ∧
      Ended receiveTime context buf lines ok last left :=
  loop_ended receiveTime (buf.ReadableBytes + 1) hsettled
    (of_decide_eq_false hunfinished) (Nat.lt_succ_self _)

/-!
# Runs
-/

inductive Action where
  | append (data : List Byte)
  | parseRequest (receiveTime : Timestamp)
  | reset

/-- `consumed` are the bytes that a call took off the buffer. -/
inductive ParserEvent where
  | parsed (ok : Bool) (consumed : List Byte)
  | reset
deriving DecidableEq

/-- A call is only made on an unfinished context, and a reset on a whole one. -/
def ParserMachine : Machine HttpServer.Session Action ParserEvent where
  Step session action :=
    match action with
    | Action.append data =>
        some ({ session with buf := session.buf.Append data }, [])
    | Action.parseRequest receiveTime =>
        if session.context.GotAll then none
        else
          match session.context.ParseRequest session.buf receiveTime with
          | some (Except.ok (ok, context, buf)) =>
              some (⟨context, buf⟩, [ParserEvent.parsed ok
                (session.buf.Readable.take
                  (session.buf.ReadableBytes - buf.ReadableBytes))])
          | _ => none
    | Action.reset =>
        if session.context.GotAll then
          some ({ session with context := session.context.Reset },
            [ParserEvent.reset])
        else none

def Consumed (tr : List ParserEvent) : List Byte :=
  tr.foldl (fun text e =>
    match e with
    | ParserEvent.parsed _ consumed => text ++ consumed
    | ParserEvent.reset => []) []

theorem consumed_parsed (tr : List ParserEvent) (ok : Bool)
    (consumed : List Byte) :
    Consumed (tr ++ [ParserEvent.parsed ok consumed]) =
      Consumed tr ++ consumed :=
  List.foldl_concat ..

theorem consumed_reset (tr : List ParserEvent) :
    Consumed (tr ++ [ParserEvent.reset]) = [] :=
  List.foldl_concat ..

def Faithful (session : HttpServer.Session) (tr : List ParserEvent) : Prop :=
  exists lines, AreLines lines (Consumed tr) ∧ Tells lines session.context

theorem take_consumed {buf left : Buffer} {text : List Byte}
    (h : buf.Readable = text ++ left.Readable) :
    buf.Readable.take (buf.ReadableBytes - left.ReadableBytes) = text := by
  rw [<- length_readable, <- length_readable, h, List.length_append,
    Nat.add_sub_cancel, List.take_left]

theorem faithful_step {session next : HttpServer.Session}
    {action : Action} {tr es : List ParserEvent}
    (h : Faithful session tr)
    (hstep : ParserMachine.Step session action = some (next, es)) :
    Faithful next (tr ++ es) := by
  rcases h with ⟨lines, hlines, htells⟩
  cases action with
  | append data =>
      cases hstep
      rw [List.append_nil]
      exact ⟨lines, hlines, htells⟩
  | parseRequest receiveTime =>
      cases hgot : session.context.GotAll with
      | true => simp [ParserMachine, hgot] at hstep
      | false =>
          rcases parseRequest_ended receiveTime session.buf
            (fun hstate => htells.fresh hstate) hgot with
            ⟨more, ok, last, left, hparse, hended⟩
          rcases hended.takes with ⟨mid, htakes, _⟩
          rcases htakes.areLines with ⟨text, hmore, hsplit⟩
          simp only [ParserMachine, hgot, hparse] at hstep
          cases hstep
          rw [Faithful, consumed_parsed, take_consumed hsplit]
          exact ⟨lines ++ more, hlines.append hmore, hended.tells lines htells⟩
  | reset =>
      cases hgot : session.context.GotAll with
      | false => simp [ParserMachine, hgot] at hstep
      | true =>
          simp only [ParserMachine, hgot] at hstep
          cases hstep
          rw [Faithful, consumed_reset]
          exact ⟨[], ⟨rfl, by simp⟩, tells_new⟩

theorem faithful_run {actions : List Action} {session : HttpServer.Session}
    {tr : List ParserEvent}
    (hrun : ParserMachine.Run HttpServer.Start actions =
      some (session, tr)) : Faithful session tr :=
  Machine.run_invariant (I := Faithful) (p := [])
    (fun _ _ _ _ _ hinv hstep => faithful_step hinv hstep)
    ⟨[], ⟨rfl, by simp⟩, tells_new⟩ hrun

/--
The fields of the request are those in the consumed lines, no call runs into a
failed assertion, and a refusal changes nothing and is given again.
-/
structure FailsCleanly (session : HttpServer.Session)
    (tr : List ParserEvent) : Prop where
  determined : exists lines, AreLines lines (Consumed tr) ∧
    Determine lines session.context.request_
  fresh : session.context.state_ = kExpectRequestLine ->
    session.context.request_ = HttpRequest.New
  call : session.context.GotAll = false -> forall receiveTime,
    exists ok last left,
      session.context.ParseRequest session.buf receiveTime =
        some (Except.ok (ok, last, left)) ∧
      (ok = false ->
        (exists lines, Takes receiveTime session.context session.buf lines
          last left) ∧
        forall otherTime, last.ParseRequest left otherTime =
          some (Except.ok (false, last, left)))

/-- After every sequence of appends, calls and resets. -/
theorem parser_fails_cleanly {actions : List Action}
    {session : HttpServer.Session} {tr : List ParserEvent}
    (hrun : ParserMachine.Run HttpServer.Start actions =
      some (session, tr)) : FailsCleanly session tr := by
  rcases faithful_run hrun with ⟨lines, hlines, htells⟩
  constructor
  · exact ⟨lines, hlines, htells.fields⟩
  · intro hstate
    rw [htells.fresh hstate]
    rfl
  · intro hgot receiveTime
    rcases parseRequest_ended receiveTime session.buf
      (fun hstate => htells.fresh hstate) hgot with
      ⟨more, ok, last, left, hparse, hended⟩
    refine ⟨ok, last, left, hparse, ?_⟩
    intro hok
    rcases hended.takes with ⟨mid, htakes, hlast⟩
    rw [hlast hok] at hended ⊢
    exact ⟨⟨more, htakes⟩, hended.again hok⟩

def BadHeaderRun : List Action :=
  [Action.append (Ascii "GET / HTTP/1.1\r\nA: b\r\nbad\r\n"),
    Action.parseRequest 0]

theorem parser_fails_cleanly_bad_header :
    exists session, ParserMachine.Run HttpServer.Start BadHeaderRun =
        some (session, [ParserEvent.parsed false
          (Ascii "GET / HTTP/1.1\r\nA: b\r\n")]) ∧
      session.context.state_ = kExpectHeaders ∧
      session.context.request_.headers_.elems = [(Ascii "A", Ascii "b")] ∧
      FailsCleanly session [ParserEvent.parsed false
        (Ascii "GET / HTTP/1.1\r\nA: b\r\n")] := by
  have hrun : (ParserMachine.Run HttpServer.Start BadHeaderRun).map
      (fun last => ((last.1.context.state_,
        last.1.context.request_.headers_.elems), last.2)) =
        some ((kExpectHeaders, [(Ascii "A", Ascii "b")]),
          [ParserEvent.parsed false
            (Ascii "GET / HTTP/1.1\r\nA: b\r\n")]) := by
    decide +kernel
  rcases ParserMachine.exists_run (fun session =>
    (session.context.state_, session.context.request_.headers_.elems))
    hrun with ⟨session, hsession, hlast⟩
  rcases Prod.mk.inj hlast with ⟨hstate, hheaders⟩
  exact ⟨session, hsession, hstate, hheaders, parser_fails_cleanly hsession⟩

end HttpContext
end Net
end Wethands
