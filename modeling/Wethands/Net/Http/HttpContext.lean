import Wethands.Foundation.Regex
import Wethands.Net.Http.HttpRequest

/-!
# The parser of a connection

`ParseRequest` runs a loop over four states.  An iteration takes a line off the
buffer or clears `hasMore`, except in the last state, where it does nothing.
-/

namespace Wethands
namespace Net

open Foundation Utils

/-!
# The two patterns
-/

namespace Pattern

/-- `\s` -/
def IsSpace (b : Byte) : Bool := (9 ≤ b && b ≤ 13) || b == 32

/-- `\w` -/
def IsWordChar (b : Byte) : Bool :=
  (48 ≤ b && b ≤ 57) || (65 ≤ b && b ≤ 90) || (97 ≤ b && b ≤ 122) || b == 95

/-- `[\w/\.]` -/
def IsPathChar (b : Byte) : Bool := IsWordChar b || b == 47 || b == 46

/-- `[%-=&\w]`, where the first three characters are a range. -/
def IsQueryChar (b : Byte) : Bool :=
  (37 ≤ b && b ≤ 61) || b == 38 || IsWordChar b

/-- `.` -/
def IsLineChar (b : Byte) : Bool := b != 10 && b != 13

def Spaces : Regex Byte := Regex.star (Regex.one IsSpace)

def Methods : Regex Byte :=
  Regex.Choice (Regex.Word (Ascii "GET"))
    [Regex.Word (Ascii "POST"), Regex.Word (Ascii "HEAD"),
      Regex.Word (Ascii "PUT"), Regex.Word (Ascii "DELETE")]

def Version : Regex Byte :=
  Regex.seq (Regex.Word (Ascii "HTTP/1."))
    (Regex.one (fun b => b == 48 || b == 49))

def Target : Regex Byte :=
  Regex.seq Spaces
    (Regex.seq (Regex.group 2 (Regex.Plus (Regex.one IsPathChar)))
      (Regex.seq (Regex.Opt (Regex.one (fun b => b == 63)))
        (Regex.seq (Regex.group 3 (Regex.star (Regex.one IsQueryChar)))
          (Regex.seq Spaces (Regex.group 4 Version)))))

/--
`(GET|POST|HEAD|PUT|DELETE)\s*([\w/\.]+)[\?]?([%-=&\w]*)\s*(HTTP/1\.[01])`
-/
def RequestLine : Regex Byte := Regex.seq (Regex.group 1 Methods) Target

/-- `([^:]+):\s*(.+)` -/
def HeaderLine : Regex Byte :=
  Regex.seq (Regex.group 1 (Regex.Plus (Regex.one (fun b => b != 58))))
    (Regex.seq (Regex.one (fun b => b == 58))
      (Regex.seq Spaces (Regex.group 2 (Regex.Plus (Regex.one IsLineChar)))))

end Pattern

/-!
# The loop
-/

namespace HttpContext

inductive HttpRequestParseState where
  | kExpectRequestLine
  | kExpectHeaders
  | kExpectBody
  | kGotAll
deriving DecidableEq

end HttpContext

open HttpContext

structure HttpContext where
  request_ : HttpRequest
  state_ : HttpRequestParseState

namespace HttpContext

open HttpRequestParseState

def New : HttpContext where
  request_ := HttpRequest.New
  state_ := kExpectRequestLine

def GotAll (context : HttpContext) : Bool := context.state_ = kGotAll

def ParseRequestLine (context : HttpContext) (line : List Byte) :
    Outcome (Bool × HttpContext) :=
  match Pattern.RequestLine.FullMatch line with
  | some m => do
      let (_, request) <- context.request_.SetMethod (m 1)
      let request := request.SetPath (m 2)
      let request := request.SetQuery (m 3)
      let (_, request) <- request.SetVersion (m 4)
      Except.ok (true, { context with request_ := request })
  | none => Except.ok (false, context)

/-- The variables of `ParseRequest`. -/
structure Parsing where
  ok : Bool
  hasMore : Bool
  context : HttpContext
  buf : Buffer

def Iteration (receiveTime : Timestamp) (parsing : Parsing) : Outcome Parsing :=
  let context := parsing.context
  let buf := parsing.buf
  match context.state_ with
  | kExpectRequestLine =>
      match buf.FindCRLF with
      | some crlf => do
          let (parsed, context) <-
            context.ParseRequestLine (buf.Readable.take crlf)
          if parsed then
            let buf <- buf.RetrieveUntil (crlf + 2)
            let request := context.request_.SetReceiveTime receiveTime
            Except.ok { parsing with
              context := { request_ := request, state_ := kExpectHeaders }
              buf := buf }
          else
            Except.ok { parsing with
              ok := false, hasMore := false, context := context }
      | none => Except.ok { parsing with ok := false, hasMore := false }
  | kExpectHeaders =>
      match buf.FindCRLF with
      | some crlf =>
          match Pattern.HeaderLine.FullMatch (buf.Readable.take crlf) with
          | some m => do
              let buf <- buf.RetrieveUntil (crlf + 2)
              let request := context.request_.AddHeader (m 1) (m 2)
              Except.ok { parsing with
                context := { context with request_ := request }, buf := buf }
          | none =>
              if crlf = 0 then do
                let buf <- buf.RetrieveUntil (crlf + 2)
                Except.ok { parsing with
                  context := { context with state_ := kExpectBody }
                  buf := buf }
              else Except.ok { parsing with ok := false, hasMore := false }
      | none => Except.ok { parsing with hasMore := false }
  | kExpectBody =>
      let request := context.request_.SetBody buf.Readable
      Except.ok { parsing with
        context := { request_ := request, state_ := kGotAll }
        hasMore := false }
  | kGotAll => Except.ok parsing

/-- What a call comes to, where `none` means that it is still running. -/
abbrev ParseResult : Type := Option (Outcome (Bool × HttpContext × Buffer))

def Loop (receiveTime : Timestamp) (fuel : Nat) (parsing : Parsing) :
    ParseResult :=
  if parsing.hasMore then
    match fuel with
    | 0 => none
    | fuel + 1 =>
        match Iteration receiveTime parsing with
        | Except.ok next => Loop receiveTime fuel next
        | Except.error failure => some (Except.error failure)
  else some (Except.ok (parsing.ok, parsing.context, parsing.buf))

/--
Each line that the loop takes has at least two bytes, so that one iteration
more than there are bytes is enough for a loop that ends.
-/
def ParseRequest (context : HttpContext) (buf : Buffer)
    (receiveTime : Timestamp) : ParseResult :=
  Loop receiveTime (buf.ReadableBytes + 1)
    { ok := true, hasMore := true, context := context, buf := buf }

/-!
# What the patterns accept
-/

theorem mem_methods {text : List Byte}
    (h : text ∈ Pattern.Methods.Denotes) :
    exists method, method ∈ HttpRequest.Methods ∧
      text = HttpRequest.MethodNames method := by
  rcases Regex.mem_denotes_choice.mp h with hget | ⟨r, hr, hother⟩
  · exact ⟨HttpRequest.Method.kGet, List.mem_cons_self,
      Regex.mem_denotes_word.mp hget⟩
  · simp only [List.mem_cons, List.not_mem_nil, or_false] at hr
    rcases hr with rfl | rfl | rfl | rfl
    all_goals
      rw [Regex.mem_denotes_word.mp hother]
    · exact ⟨HttpRequest.Method.kPost, by decide, rfl⟩
    · exact ⟨HttpRequest.Method.kHead, by decide, rfl⟩
    · exact ⟨HttpRequest.Method.kPut, by decide, rfl⟩
    · exact ⟨HttpRequest.Method.kDelete, by decide, rfl⟩

theorem setMethod_ok (request : HttpRequest) {text : List Byte}
    (hfresh : request.method_ = HttpRequest.Method.kInvalid)
    (h : text ∈ Pattern.Methods.Denotes) :
    exists method, method ≠ HttpRequest.Method.kInvalid ∧
      request.SetMethod text =
        Except.ok (true, { request with method_ := method }) := by
  rcases mem_methods h with ⟨method, hmem, rfl⟩
  cases hfind : HttpRequest.Methods.find? (fun other =>
      HttpRequest.MethodNames method = HttpRequest.MethodNames other) with
  | none =>
      have hnone := List.find?_eq_none.mp hfind method hmem
      simp at hnone
  | some found =>
      have hvalid : forall m, m ∈ HttpRequest.Methods ->
          m ≠ HttpRequest.Method.kInvalid := by decide
      have hne := hvalid found (List.mem_of_find?_eq_some hfind)
      refine ⟨found, hne, ?_⟩
      rw [HttpRequest.SetMethod, if_pos hfresh]
      simp [hfind, hne]

theorem parseRequestLine_new {line : List Byte}
    (h : line ∈ Pattern.RequestLine.Denotes) :
    exists context, New.ParseRequestLine line = Except.ok (true, context) ∧
      context.request_.method_ ≠ HttpRequest.Method.kInvalid := by
  rcases Option.isSome_iff_exists.mp (Regex.fullMatch_isSome.mpr h) with
    ⟨m, hmatch⟩
  have hcapture : m 1 ∈ Pattern.Methods.Denotes :=
    Regex.fullMatch_first_group (by decide) hmatch
  rcases setMethod_ok HttpRequest.New rfl hcapture with
    ⟨method, hmethod, hset⟩
  have hparse : exists request,
      New.ParseRequestLine line =
        Except.ok (true, { New with request_ := request }) ∧
      request.method_ = method := by
    rw [ParseRequestLine, hmatch]
    exact ⟨_, by simp only [New, hset]; rfl, rfl⟩
  rcases hparse with ⟨request, hparse, heq⟩
  exact ⟨_, hparse, heq ▸ hmethod⟩

end HttpContext
end Net
end Wethands
