import Wethands.Net.Http.Head

/-!
# Requests that arrive in chunks

`HttpServer::onMessage` calls the parser after each chunk.  The headers do not
depend on the cuts, but a request line that is not there as a whole is rejected,
and the body is what lies in the buffer when the blank line arrives.
-/

namespace Wethands
namespace Net

open Foundation Utils Buffer HttpContext HttpRequestParseState

/-- What one `readv` delivers, with the time of the call. -/
abbrev Chunk : Type := Timestamp × List Byte

def Bytes (chunks : List Chunk) : List Byte := (chunks.map Prod.snd).flatten

@[simp] theorem bytes_nil : Bytes [] = [] := rfl

@[simp] theorem bytes_cons (chunk : Chunk) (chunks : List Chunk) :
    Bytes (chunk :: chunks) = chunk.2 ++ Bytes chunks := rfl

@[simp] theorem bytes_append (first second : List Chunk) :
    Bytes (first ++ second) = Bytes first ++ Bytes second := by
  simp [Bytes]

/-- The calls after a call: none after a rejection or a whole request. -/
def Continue (result : ParseResult) : List Chunk -> ParseResult
  | [] => result
  | (receiveTime, chunk) :: chunks =>
      match result with
      | some (Except.ok (true, context, buf)) =>
          if context.GotAll then result
          else
            Continue (context.ParseRequest (buf.Append chunk) receiveTime)
              chunks
      | _ => result

def Receive (buf : Buffer) (first : Chunk) (others : List Chunk) :
    ParseResult :=
  Continue (HttpContext.New.ParseRequest (buf.Append first.2) first.1) others

def Agree : ParseResult -> ParseResult -> Prop
  | some (Except.ok (ok, context, _)), some (Except.ok (ok', context', _)) =>
      ok = ok' ∧ context.GotAll = context'.GotAll ∧
        SameFields context.request_ context'.request_
  | _, _ => False

instance : DecidableRel Agree
  | some (Except.ok _), some (Except.ok _) =>
      inferInstanceAs (Decidable (_ ∧ _ ∧ _))
  | some (Except.ok _), some (Except.error _) => isFalse id
  | some (Except.ok _), none => isFalse id
  | some (Except.error _), _ => isFalse id
  | none, _ => isFalse id

theorem agree_of_returned {a b : ParseResult} {ok ok' : Bool}
    {context context' : HttpContext} {text text' : List Byte}
    (ha : Returned a ok context text) (hb : Returned b ok' context' text') :
    Agree a b <-> ok = ok' ∧ context.GotAll = context'.GotAll ∧
      SameFields context.request_ context'.request_ := by
  rcases ha with ⟨buf, rfl, _⟩
  rcases hb with ⟨buf', rfl, _⟩
  rfl

/-!
# Behind the request line
-/

theorem agree_of_concluded {a b : ParseResult}
    {last last' : HttpRequest} {left left' : List Byte} {why : Option Stop}
    (ha : Concluded a last left why) (hb : Concluded b last' left' why)
    (hsame : SameFields last last') :
    Agree a b <->
      (why = some Stop.blankLine -> left.drop 2 = left'.drop 2) := by
  cases why with
  | none =>
      rw [agree_of_returned ha hb]
      simp [GotAll, hsame]
  | some why =>
      cases why with
      | badHeader =>
          rw [agree_of_returned ha hb]
          simp [GotAll, hsame]
      | blankLine =>
          rw [agree_of_returned ha hb]
          rcases hsame with ⟨hmethod, hpath, hquery, hversion, hheaders, _⟩
          simp [GotAll, SameFields, HttpRequest.SetBody, hmethod, hpath,
            hquery, hversion, hheaders]

theorem continue_of_wait {last : HttpRequest} {buf : Buffer} {chunk : Chunk}
    {chunks : List Chunk} :
    Continue (some (Except.ok (true, ⟨last, kExpectHeaders⟩, buf)))
      (chunk :: chunks) =
        Continue (ParseRequest ⟨last, kExpectHeaders⟩ (buf.Append chunk.2)
          chunk.1) chunks := by
  simp [Continue, GotAll]

theorem continue_of_halt {result : ParseResult} {last : HttpRequest}
    {left : List Byte} {why : Stop}
    (h : Concluded result last left (some why)) (chunks : List Chunk) :
    Continue result chunks = result := by
  cases chunks with
  | nil => rfl
  | cons chunk chunks =>
      cases why with
      | badHeader =>
          rcases h with ⟨buf, rfl, _⟩
          rfl
      | blankLine =>
          rcases h with ⟨buf, rfl, _⟩
          rfl

/-- The first call halted: what follows is lost, but matters to the body. -/
theorem agree_iff_of_halt {request last whole whole' : HttpRequest}
    {text left rest : List Byte} {why : Stop} {stop : Option Stop}
    {result reference : ParseResult} {chunks : List Chunk}
    (hreads : Reads Headers request text last left (some why))
    (hresult : Concluded result last left (some why))
    (hwhole : Reads Headers request (text ++ Bytes chunks) whole rest stop)
    (hreference : Concluded reference whole' rest stop)
    (hsame : SameFields whole whole') :
    Agree (Continue result chunks) reference <->
      forall before after, chunks = before ++ after ->
        HeadersComplete (text ++ Bytes before) -> Bytes after = [] := by
  rcases (hreads.append_of_halt (Bytes chunks)).unique hwhole with
    ⟨rfl, rfl, rfl⟩
  rw [continue_of_halt hresult,
    agree_of_concluded hresult hreference hsame]
  constructor
  · intro hbody before after hsplit hcomplete
    have hwhy : some why = some Stop.blankLine :=
      stops_at_blankLine (hreads.append_of_halt (Bytes before)) hcomplete
    rw [hwhy] at hreads
    rcases reads_blankLine hreads with ⟨body, rfl⟩
    have hnone : Bytes chunks = [] :=
      List.self_eq_append_right.mp (hbody hwhy)
    rw [hsplit, bytes_append] at hnone
    exact (List.append_eq_nil_iff.mp hnone).2
  · intro hnothing hwhy
    rw [hwhy] at hreads
    have hcomplete := headersComplete_of_reads hreads
    rw [hnothing [] chunks rfl (by rwa [bytes_nil, List.append_nil]),
      List.append_nil]

theorem continue_agrees_iff {request last whole whole' : HttpRequest}
    {text left rest : List Byte} {why stop : Option Stop}
    {result reference : ParseResult} {chunks : List Chunk}
    (hreads : Reads Headers request text last left why)
    (hresult : Concluded result last left why)
    (hwhole : Reads Headers request (text ++ Bytes chunks) whole rest stop)
    (hreference : Concluded reference whole' rest stop)
    (hsame : SameFields whole whole') :
    Agree (Continue result chunks) reference <->
      forall before after, chunks = before ++ after ->
        HeadersComplete (text ++ Bytes before) -> Bytes after = [] := by
  induction chunks generalizing text last left why result with
  | nil =>
      rw [bytes_nil, List.append_nil] at hwhole
      rcases hreads.unique hwhole with ⟨rfl, rfl, rfl⟩
      rw [Continue, agree_of_concluded hresult hreference hsame]
      constructor
      · intro _ before after hsplit _
        rw [(List.append_eq_nil_iff.mp hsplit.symm).2]
        rfl
      · intro _ _
        rfl
  | cons chunk chunks ih =>
      cases why with
      | none =>
          rcases hresult with ⟨buf, rfl, hbuf⟩
          rcases Reads.exists_reads Headers last (left ++ chunk.2) with
            ⟨last, left, why, hnext⟩
          have hlonger :
              Reads Headers request (text ++ chunk.2) last left why :=
            (hreads.append_of_wait chunk.2).mpr hnext
          rw [← hbuf, ← readable_append] at hnext
          rw [bytes_cons, ← List.append_assoc] at hwhole
          rw [continue_of_wait,
            ih hlonger (parseRequest_headers hnext) hwhole]
          constructor
          · intro h before after hsplit hcomplete
            cases before with
            | nil =>
                rw [bytes_nil, List.append_nil] at hcomplete
                cases stops_at_blankLine hreads hcomplete
            | cons head before =>
                cases hsplit
                rw [bytes_cons, ← List.append_assoc] at hcomplete
                exact h before after rfl hcomplete
          · intro h before after hsplit hcomplete
            apply h (chunk :: before) after (congrArg (chunk :: ·) hsplit)
            rwa [bytes_cons, ← List.append_assoc]
      | some why =>
          exact agree_iff_of_halt hreads hresult hwhole hreference hsame

/-!
# The whole request
-/

def RequestLineInFirst (first : Chunk) (others : List Chunk) : Prop :=
  forall line, IsLine Pattern.RequestLine line ->
    line ++ kCRLF <+: Bytes (first :: others) -> line ++ kCRLF <+: first.2

/-- Nothing arrives after the chunk that brings the end of the head. -/
def NothingAfterHead (first : Chunk) (others : List Chunk) : Prop :=
  forall before after head, first :: others = before ++ after ->
    IsHead head -> head <+: Bytes before -> Bytes after = []

theorem cut_of_prefix {pattern : Regex Byte} {line text : List Byte}
    (hline : IsLine pattern line) (h : line ++ kCRLF <+: text) :
    exists rest, Cut kCRLF text = some (line, rest) := by
  rcases h with ⟨rest, rfl⟩
  exact ⟨rest, (cut_eq_some kCRLF_ne_nil).mpr ⟨rfl, hline.1⟩⟩

theorem prefix_of_cut {line rest text : List Byte}
    (h : Cut kCRLF text = some (line, rest)) : line ++ kCRLF <+: text :=
  ⟨rest, ((cut_eq_some kCRLF_ne_nil).mp h).1.symm⟩

theorem continue_of_reject {context : HttpContext} {buf : Buffer}
    (chunks : List Chunk) :
    Continue (some (Except.ok (false, context, buf))) chunks =
      some (Except.ok (false, context, buf)) := by
  cases chunks <;> rfl

theorem prefix_of_isHead {head text : List Byte} (hhead : IsHead head)
    (h : head <+: text) :
    exists line block, IsLine Pattern.RequestLine line ∧
      IsHeaderBlock block ∧ head = line ++ kCRLF ++ block ∧
      line ++ kCRLF <+: text := by
  cases hhead with
  | mk hline hblock =>
      exact ⟨_, _, hline, hblock, rfl, (List.prefix_append _ _).trans h⟩

section Connection

variable {buf : Buffer} {first : Chunk} {others : List Chunk}

theorem agree_of_unacceptable {whole : Buffer} {receiveTime : Timestamp}
    (hempty : buf.Readable = [])
    (hwhole : whole.Readable = Bytes (first :: others))
    (hline : forall line rest,
      Cut kCRLF (Bytes (first :: others)) = some (line, rest) ->
        line ∉ Pattern.RequestLine.Denotes) :
    Agree (Receive buf first others)
      (HttpContext.New.ParseRequest whole receiveTime) := by
  have hfirst : forall line rest,
      Cut kCRLF (buf.Append first.2).Readable = some (line, rest) ->
        line ∉ Pattern.RequestLine.Denotes := by
    intro line rest hcut
    rw [readable_append, hempty, List.nil_append] at hcut
    exact hline line _ (cut_append kCRLF_ne_nil (Bytes others) hcut)
  rw [← hwhole] at hline
  rw [Receive, parseRequest_rejects hfirst, continue_of_reject,
    parseRequest_rejects hline]
  exact ⟨rfl, rfl, rfl, rfl, rfl, rfl, rfl, rfl⟩

theorem conditions_of_unacceptable
    (hline : forall line rest,
      Cut kCRLF (Bytes (first :: others)) = some (line, rest) ->
        line ∉ Pattern.RequestLine.Denotes) :
    RequestLineInFirst first others ∧ NothingAfterHead first others := by
  have hnone : forall line, IsLine Pattern.RequestLine line ->
      ¬line ++ kCRLF <+: Bytes (first :: others) := by
    intro line hmem hprefix
    rcases cut_of_prefix hmem hprefix with ⟨rest, hcut⟩
    exact hline line rest hcut hmem.2
  constructor
  · intro line hmem hprefix
    exact absurd hprefix (hnone line hmem)
  · intro before after head hsplit hhead hprefix
    rcases prefix_of_isHead hhead hprefix with ⟨line, _, hmem, _, _, hfront⟩
    have hbefore : Bytes before <+: Bytes (first :: others) := by
      rw [hsplit, bytes_append]
      exact List.prefix_append _ _
    exact absurd (hfront.trans hbefore) (hnone line hmem)

/-- The request line is cut: the first call rejects what is accepted whole. -/
theorem not_agree_of_cut_line {whole : Buffer} {receiveTime : Timestamp}
    {line rest : List Byte} (hempty : buf.Readable = [])
    (hwhole : Cut kCRLF whole.Readable = some (line, rest))
    (hline : line ∈ Pattern.RequestLine.Denotes)
    (hfirst : Cut kCRLF first.2 = none) :
    ¬Agree (Receive buf first others)
      (HttpContext.New.ParseRequest whole receiveTime) := by
  rcases parseRequestLine_new hline with ⟨context, hparse, hmethod⟩
  rcases Reads.exists_reads Headers
    (context.request_.SetReceiveTime receiveTime) rest with
      ⟨last, left, why, hreads⟩
  have hnone : forall line rest,
      Cut kCRLF (buf.Append first.2).Readable = some (line, rest) ->
        line ∉ Pattern.RequestLine.Denotes := by
    intro line rest hcut
    rw [readable_append, hempty, List.nil_append, hfirst] at hcut
    cases hcut
  have hvalid : last.method_ ≠ HttpRequest.Method.kInvalid := by
    rw [reads_method hreads]
    exact hmethod
  have hreference := parseRequest_accepts hwhole hparse hreads
  have hrejected : Returned (Receive buf first others) false HttpContext.New
      (buf.Append first.2).Readable := by
    rw [Receive, parseRequest_rejects hnone, continue_of_reject]
    exact ⟨_, rfl, rfl⟩
  intro hagree
  cases why with
  | none =>
      cases ((agree_of_returned hrejected hreference).mp hagree).1
  | some why =>
      cases why with
      | blankLine =>
          cases ((agree_of_returned hrejected hreference).mp hagree).1
      | badHeader =>
          have hsame := ((agree_of_returned hrejected hreference).mp hagree).2.2
          exact hvalid hsame.1.symm

theorem agree_iff_of_whole_line {whole : Buffer} {receiveTime : Timestamp}
    {line rest : List Byte} (hempty : buf.Readable = [])
    (hwhole : whole.Readable = Bytes (first :: others))
    (hline : line ∈ Pattern.RequestLine.Denotes)
    (hfirst : Cut kCRLF first.2 = some (line, rest)) :
    Agree (Receive buf first others)
        (HttpContext.New.ParseRequest whole receiveTime) <->
      forall before after, others = before ++ after ->
        HeadersComplete (rest ++ Bytes before) -> Bytes after = [] := by
  rcases parseRequestLine_new hline with ⟨context, hparse, _⟩
  have hcut : Cut kCRLF whole.Readable = some (line, rest ++ Bytes others) := by
    rw [hwhole]
    exact cut_append kCRLF_ne_nil (Bytes others) hfirst
  have hstart : Cut kCRLF (buf.Append first.2).Readable =
      some (line, rest) := by
    rw [readable_append, hempty, List.nil_append, hfirst]
  have hsame : SameFields (context.request_.SetReceiveTime first.1)
      (context.request_.SetReceiveTime receiveTime) :=
    ⟨rfl, rfl, rfl, rfl, rfl, rfl⟩
  rcases Reads.exists_reads Headers
    (context.request_.SetReceiveTime first.1) rest with
      ⟨last, left, why, hreads⟩
  rcases Reads.exists_reads Headers
    (context.request_.SetReceiveTime first.1) (rest ++ Bytes others) with
      ⟨final, tail, stop, hall⟩
  rcases reads_sameFields hall hsame with ⟨final', hall', hfields⟩
  exact continue_agrees_iff hreads (parseRequest_accepts hstart hparse hreads)
    hall (parseRequest_accepts hcut hparse hall') hfields

theorem nothingAfterHead_iff {line rest : List Byte}
    (hline : IsLine Pattern.RequestLine line)
    (hfirst : first.2 = line ++ kCRLF ++ rest) :
    NothingAfterHead first others <->
      forall before after, others = before ++ after ->
        HeadersComplete (rest ++ Bytes before) -> Bytes after = [] := by
  constructor
  · intro h before after hsplit hcomplete
    rcases hcomplete with ⟨block, hblock, hprefix⟩
    apply h (first :: before) after (line ++ kCRLF ++ block)
      (congrArg (first :: ·) hsplit) (IsHead.mk hline hblock)
    rw [bytes_cons, hfirst, List.append_assoc (line ++ kCRLF)]
    exact (List.prefix_append_right_inj _).mpr hprefix
  · intro h before after head hsplit hhead hprefix
    cases before with
    | nil =>
        cases hhead with
        | mk _ _ =>
            have hnil := List.prefix_nil.mp hprefix
            simp [kCRLF] at hnil
    | cons other before =>
        cases hsplit
        rcases prefix_of_isHead hhead hprefix with
          ⟨line', block, hline', hblock, rfl, hfront⟩
        rw [bytes_cons, hfirst,
          List.append_assoc (line ++ kCRLF)] at hprefix hfront
        have hcut : Cut kCRLF (line ++ kCRLF ++ (rest ++ Bytes before)) =
            some (line, rest ++ Bytes before) :=
          (cut_eq_some kCRLF_ne_nil).mpr ⟨rfl, hline.1⟩
        rcases cut_of_prefix hline' hfront with ⟨_, hother⟩
        rw [hcut] at hother
        cases hother
        apply h before after rfl
        exact ⟨block, hblock, (List.prefix_append_right_inj _).mp hprefix⟩

end Connection

/--
Where the cuts fall does not matter exactly when the first chunk brings the
request line and the chunk that brings the end of the head is the last.
-/
theorem chunks_agree_iff (buf : Buffer) (hempty : buf.Readable = [])
    (first : Chunk) (others : List Chunk) (receiveTime : Timestamp) :
    Agree (Receive buf first others)
        (HttpContext.New.ParseRequest
          (buf.Append (Bytes (first :: others))) receiveTime) <->
      RequestLineInFirst first others ∧ NothingAfterHead first others := by
  have hwhole : (buf.Append (Bytes (first :: others))).Readable =
      Bytes (first :: others) := by
    rw [readable_append, hempty, List.nil_append]
  by_cases haccept : exists line rest,
      Cut kCRLF (Bytes (first :: others)) = some (line, rest) ∧
        line ∈ Pattern.RequestLine.Denotes
  · rcases haccept with ⟨line, rest, hcut, hline⟩
    have hmem : IsLine Pattern.RequestLine line :=
      ⟨((cut_eq_some kCRLF_ne_nil).mp hcut).2, hline⟩
    cases hfirst : Cut kCRLF first.2 with
    | none =>
        constructor
        · intro hagree
          rw [← hwhole] at hcut
          exact absurd hagree (not_agree_of_cut_line hempty hcut hline hfirst)
        · intro hboth
          rcases hboth with ⟨hrequestLine, _⟩
          have hprefix := hrequestLine line hmem (prefix_of_cut hcut)
          rcases cut_of_prefix hmem hprefix with ⟨_, hsome⟩
          rw [hfirst] at hsome
          cases hsome
    | some cut =>
        rcases cut with ⟨line', rest'⟩
        have hlonger := cut_append kCRLF_ne_nil (Bytes others) hfirst
        rw [bytes_cons, hlonger] at hcut
        cases hcut
        have hrequestLine : RequestLineInFirst first others := by
          intro other hother hprefix
          rcases cut_of_prefix hother hprefix with ⟨_, hsame⟩
          rw [bytes_cons, hlonger] at hsame
          cases hsame
          exact prefix_of_cut hfirst
        rw [agree_iff_of_whole_line hempty hwhole hline hfirst,
          nothingAfterHead_iff hmem ((cut_eq_some kCRLF_ne_nil).mp hfirst).1]
        exact (and_iff_right hrequestLine).symm
  · have hnone : forall line rest,
        Cut kCRLF (Bytes (first :: others)) = some (line, rest) ->
          line ∉ Pattern.RequestLine.Denotes :=
      fun line rest hcut hline => haccept ⟨line, rest, hcut, hline⟩
    exact iff_of_true (agree_of_unacceptable hempty hwhole hnone)
      (conditions_of_unacceptable hnone)

/-- A header line that is cut does no harm. -/
theorem chunks_agree_iff_header_cut :
    RequestLineInFirst (1, Ascii "GET / HTTP/1.1\r\nHo")
        [(2, Ascii "st: x\r"), (3, Ascii "\n\r\n")] ∧
      NothingAfterHead (1, Ascii "GET / HTTP/1.1\r\nHo")
        [(2, Ascii "st: x\r"), (3, Ascii "\n\r\n")] :=
  (chunks_agree_iff (Buffer.New kInitialSize) (readable_new _) _ _ 4).mp
    (by decide +kernel)

/-- The request line is cut behind its second word. -/
theorem request_line_cut_disagrees :
    ¬Agree
      (Receive (Buffer.New kInitialSize) (1, Ascii "GET / HT")
        [(2, Ascii "TP/1.1\r\n\r\n")])
      (HttpContext.New.ParseRequest
        ((Buffer.New kInitialSize).Append (Ascii "GET / HTTP/1.1\r\n\r\n"))
        3) := by
  decide +kernel

end Net
end Wethands
