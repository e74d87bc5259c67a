import Mathlib.Logic.Relation
import Wethands.Net.Http.HttpServer

/-!
# The end of the parser's loop

An iteration takes bytes, moves the state forward or clears `hasMore`, except
in the last state: a call on a context that was not reset runs for ever.
-/

namespace Wethands
namespace Net

open Foundation Utils Buffer HttpContext HttpRequestParseState

namespace HttpContext

/-- The contexts that a user of the class can have. -/
inductive Reachable : HttpContext -> Prop where
  | new : Reachable New
  | parseRequest {context next : HttpContext} {buf after : Buffer}
      {receiveTime : Timestamp} {ok : Bool} :
      Reachable context ->
      context.ParseRequest buf receiveTime =
        some (Except.ok (ok, next, after)) ->
      Reachable next
  | reset {context : HttpContext} :
      Reachable context -> Reachable context.Reset

def HttpRequestParseState.Place : HttpRequestParseState -> Nat
  | kExpectRequestLine => 0
  | kExpectHeaders => 1
  | kExpectBody => 2
  | kGotAll => 3

def Parsing.Start (context : HttpContext) (buf : Buffer) : Parsing where
  ok := true
  hasMore := true
  context := context
  buf := buf

def Advances (parsing next : Parsing) : Prop :=
  next.buf.ReadableBytes < parsing.buf.ReadableBytes ∨
    parsing.context.state_.Place < next.context.state_.Place ∨
    next.hasMore = false

def Iterates (receiveTime : Timestamp) (parsing next : Parsing) : Prop :=
  parsing.hasMore = true ∧ Iteration receiveTime parsing = Except.ok next

structure Terminates (context : HttpContext) (buf : Buffer)
    (receiveTime : Timestamp) : Prop where
  returns : exists fuel answer,
    Loop receiveTime fuel (Parsing.Start context buf) =
      some (Except.ok answer)
  advances : forall parsing,
    Relation.ReflTransGen (Iterates receiveTime)
      (Parsing.Start context buf) parsing ->
    parsing.hasMore = true ->
    exists next, Iteration receiveTime parsing = Except.ok next ∧
      Advances parsing next

/-- A context that waits for a request line has nothing of a request. -/
def Settled (context : HttpContext) : Prop :=
  context.state_ = kExpectRequestLine -> context = New

/-- Between two iterations of a call that began in another state. -/
structure Underway (parsing : Parsing) : Prop where
  settled : parsing.context.Settled
  ok : parsing.hasMore = true -> parsing.ok = true
  unfinished : parsing.hasMore = true -> parsing.context.state_ ≠ kGotAll

/-!
# One iteration
-/

theorem length_cut {buf next : Buffer} {line rest : List Byte}
    (hcut : Cut kCRLF buf.Readable = some (line, rest))
    (hnext : next.Readable = rest) :
    next.ReadableBytes < buf.ReadableBytes := by
  have hsplit := ((cut_eq_some kCRLF_ne_nil).mp hcut).1
  rw [← length_readable, ← length_readable, hnext, hsplit, List.length_append,
    List.length_append]
  have hcrlf : kCRLF.length = 2 := rfl
  omega

def GoesOn (parsing : Parsing) (next : Parsing) : Prop :=
  Underway next ∧ (next.hasMore = false ∨
    next.buf.ReadableBytes < parsing.buf.ReadableBytes)

theorem iteration_requestLine (receiveTime : Timestamp) (buf : Buffer) :
    exists next, Iteration receiveTime ⟨true, true, New, buf⟩ =
        Except.ok next ∧ GoesOn ⟨true, true, New, buf⟩ next := by
  by_cases haccepts : exists line rest,
      Cut kCRLF buf.Readable = some (line, rest) ∧
        line ∈ Pattern.RequestLine.Denotes
  · rcases haccepts with ⟨line, rest, hcut, hline⟩
    rcases parseRequestLine_new hline with ⟨context, hparse, _⟩
    rcases iteration_accepts receiveTime hcut hparse with
      ⟨next, hreadable, hiteration⟩
    refine ⟨_, hiteration, ?_, Or.inr (length_cut hcut hreadable)⟩
    constructor <;> simp [Settled]
  · have hrejects : forall line rest,
        Cut kCRLF buf.Readable = some (line, rest) ->
          line ∉ Pattern.RequestLine.Denotes :=
      fun line rest hcut hline => haccepts ⟨line, rest, hcut, hline⟩
    refine ⟨_, iteration_rejects hrejects, ?_, Or.inl rfl⟩
    constructor <;> simp [Settled]

theorem iteration_headers (receiveTime : Timestamp) (request : HttpRequest)
    (buf : Buffer) :
    exists next,
      Iteration receiveTime ⟨true, true, ⟨request, kExpectHeaders⟩, buf⟩ =
        Except.ok next ∧
      GoesOn ⟨true, true, ⟨request, kExpectHeaders⟩, buf⟩ next := by
  cases hcut : Cut kCRLF buf.Readable with
  | none =>
      refine ⟨_, iteration_wait hcut, ?_, Or.inl rfl⟩
      constructor <;> simp [Settled]
  | some cut =>
      rcases cut with ⟨line, rest⟩
      rcases iteration_line receiveTime request hcut with
        ⟨next, hreadable, hiteration⟩
      have hshorter := length_cut hcut hreadable
      refine ⟨_, hiteration, ?_⟩
      cases Pattern.HeaderLine.FullMatch line with
      | some m =>
          refine ⟨?_, Or.inr hshorter⟩
          constructor <;> simp [Settled]
      | none =>
          by_cases hblank : line = []
          · simp only [if_pos hblank]
            refine ⟨?_, Or.inr hshorter⟩
            constructor <;> simp [Settled]
          · simp only [if_neg hblank]
            refine ⟨?_, Or.inl rfl⟩
            constructor <;> simp [Settled]

theorem iteration_goesOn (receiveTime : Timestamp) {parsing : Parsing}
    (h : Underway parsing) (hmore : parsing.hasMore = true) :
    exists next, Iteration receiveTime parsing = Except.ok next ∧
      GoesOn parsing next := by
  rcases parsing with ⟨ok, hasMore, ⟨request, state⟩, buf⟩
  cases hmore
  cases h.ok rfl
  cases state with
  | kExpectRequestLine =>
      have hnew : HttpContext.mk request kExpectRequestLine = New :=
        h.settled rfl
      rw [hnew]
      exact iteration_requestLine receiveTime buf
  | kExpectHeaders => exact iteration_headers receiveTime request buf
  | kExpectBody =>
      refine ⟨_, rfl, ?_, Or.inl rfl⟩
      constructor <;> simp [Settled]
  | kGotAll => exact absurd rfl (h.unfinished rfl)

/-!
# The whole loop
-/

theorem loop_returns (receiveTime : Timestamp) (fuel : Nat)
    {parsing : Parsing} (h : Underway parsing)
    (hfuel : parsing.buf.ReadableBytes < fuel) :
    exists ok context buf, Loop receiveTime fuel parsing =
      some (Except.ok (ok, context, buf)) ∧ context.Settled := by
  induction fuel generalizing parsing with
  | zero => exact absurd hfuel (Nat.not_lt_zero _)
  | succ fuel ih =>
      cases hmore : parsing.hasMore with
      | false => exact ⟨_, _, _, loop_of_done hmore, h.settled⟩
      | true =>
          rcases iteration_goesOn receiveTime h hmore with
            ⟨next, hiteration, hnext, hdone | hshorter⟩
          · rw [loop_of_iteration hmore hiteration]
            exact ⟨_, _, _, loop_of_done hdone, hnext.settled⟩
          · rw [loop_of_iteration hmore hiteration]
            exact ih hnext (by omega)

theorem underway_of_iterates {receiveTime : Timestamp}
    {first parsing : Parsing} (h : Underway first)
    (hiterates : Relation.ReflTransGen (Iterates receiveTime) first parsing) :
    Underway parsing := by
  induction hiterates with
  | refl => exact h
  | tail _ hlast ih =>
      rcases iteration_goesOn receiveTime ih hlast.1 with
        ⟨next, hiteration, hnext⟩
      cases hiteration.symm.trans hlast.2
      exact hnext.1

theorem underway_start {context : HttpContext} (buf : Buffer)
    (hsettled : context.Settled) (hunfinished : context.state_ ≠ kGotAll) :
    Underway (Parsing.Start context buf) where
  settled := hsettled
  ok := fun _ => rfl
  unfinished := fun _ => hunfinished

theorem loop_gotAll (receiveTime : Timestamp) (fuel : Nat)
    {parsing : Parsing} (hmore : parsing.hasMore = true)
    (hstate : parsing.context.state_ = kGotAll) :
    Loop receiveTime fuel parsing = none := by
  induction fuel with
  | zero => rw [Loop, if_pos hmore]
  | succ fuel ih =>
      have hsame : Iteration receiveTime parsing = Except.ok parsing := by
        simp only [Iteration, hstate]
      rw [loop_of_iteration hmore hsame, ih]

theorem settled_of_reachable {context : HttpContext}
    (h : Reachable context) : context.Settled := by
  induction h with
  | new => exact fun _ => rfl
  | reset => exact fun _ => rfl
  | @parseRequest context next buf after receiveTime ok _ hparse ih =>
      by_cases hstate : context.state_ = kGotAll
      · rw [ParseRequest, loop_gotAll receiveTime _ rfl hstate] at hparse
        cases hparse
      · rcases loop_returns receiveTime (buf.ReadableBytes + 1)
          (underway_start buf ih hstate) (Nat.lt_succ_self _) with
          ⟨ok', context', buf', hloop, hsettled⟩
        cases hparse.symm.trans hloop
        exact hsettled

theorem not_terminates_of_gotAll {context : HttpContext}
    (hgot : context.GotAll = true) (buf : Buffer) (receiveTime : Timestamp) :
    ¬ Terminates context buf receiveTime := by
  intro h
  rcases h.returns with ⟨fuel, answer, hloop⟩
  have hstate : context.state_ = kGotAll := of_decide_eq_true hgot
  rw [loop_gotAll receiveTime fuel rfl hstate] at hloop
  cases hloop

/-- A call returns exactly when the context has not got all of a request. -/
theorem terminates_iff {context : HttpContext} (h : Reachable context)
    (buf : Buffer) (receiveTime : Timestamp) :
    Terminates context buf receiveTime <-> context.GotAll = false := by
  have hsettled := settled_of_reachable h
  rw [GotAll, decide_eq_false_iff_not]
  constructor
  · intro h hstate
    exact not_terminates_of_gotAll (decide_eq_true hstate) buf receiveTime h
  · intro hstate
    have hunderway := underway_start buf hsettled hstate
    constructor
    · rcases loop_returns receiveTime _ hunderway (Nat.lt_succ_self _) with
        ⟨ok, next, after, hloop, _⟩
      exact ⟨_, _, hloop⟩
    · intro parsing hiterates hmore
      have hbetween := underway_of_iterates hunderway hiterates
      rcases iteration_goesOn receiveTime hbetween hmore with
        ⟨next, hiteration, _, hdone | hshorter⟩
      · exact ⟨next, hiteration, Or.inr (Or.inr hdone)⟩
      · exact ⟨next, hiteration, Or.inl hshorter⟩

/--
Behind the request `GET / HTTP/1.1` without headers no further call returns,
whatever the buffer holds.
-/
theorem terminates_counterexample :
    exists context after,
      New.ParseRequest ((Buffer.New kInitialSize).Append
          (Ascii "GET / HTTP/1.1\r\n\r\n")) 0 =
        some (Except.ok (true, context, after)) ∧
      Reachable context ∧
      forall buf receiveTime, ¬ Terminates context buf receiveTime := by
  have hparse : (New.ParseRequest ((Buffer.New kInitialSize).Append
      (Ascii "GET / HTTP/1.1\r\n\r\n")) 0).any (fun call =>
        call.toOption.any (fun last => last.1 && last.2.1.GotAll)) = true := by
    decide +kernel
  rcases (Option.any_eq_true _ _).mp hparse with ⟨call, hcall, hgot⟩
  rcases call with failure | ⟨ok, context, after⟩
  · cases hgot
  · rcases Bool.and_eq_true_iff.mp hgot with ⟨hok, hgot⟩
    cases hok
    exact ⟨context, after, hcall, Reachable.parseRequest Reachable.new hcall,
      fun buf receiveTime => not_terminates_of_gotAll hgot buf receiveTime⟩

theorem terminates_iff_of_new :
    Terminates New ((Buffer.New kInitialSize).Append (Ascii "GET /")) 0 :=
  (terminates_iff Reachable.new _ 0).mpr rfl

end HttpContext
end Net
end Wethands
