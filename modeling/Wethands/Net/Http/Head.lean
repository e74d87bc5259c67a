import Wethands.Foundation.Reader
import Wethands.Net.Http.HttpContext

/-!
# The head of a request

The head is the request line and the header lines, up to the blank line.
Behind the request line the parser is a reader of a growing text.
-/

namespace Wethands
namespace Net

open Foundation Utils Buffer HttpContext HttpRequestParseState

/-!
# The shape of a head
-/

def IsLine (pattern : Regex Byte) (line : List Byte) : Prop :=
  Ends kCRLF line ∧ line ∈ pattern.Denotes

/-- Header lines and the blank line behind them. -/
inductive IsHeaderBlock : List Byte -> Prop where
  | blank : IsHeaderBlock kCRLF
  | header {line block : List Byte} :
      IsLine Pattern.HeaderLine line -> IsHeaderBlock block ->
      IsHeaderBlock (line ++ kCRLF ++ block)

inductive IsHead : List Byte -> Prop where
  | mk {line block : List Byte} :
      IsLine Pattern.RequestLine line -> IsHeaderBlock block ->
      IsHead (line ++ kCRLF ++ block)

def HeadersComplete (text : List Byte) : Prop :=
  exists block, IsHeaderBlock block ∧ block <+: text

/-!
# The reader of header lines
-/

inductive Stop where
  | blankLine
  | badHeader
deriving DecidableEq

def NextHeader (request : HttpRequest) (text : List Byte) :
    Progress HttpRequest Byte Stop :=
  match Cut kCRLF text with
  | none => Progress.wait
  | some (line, rest) =>
      match Pattern.HeaderLine.FullMatch line with
      | some m => Progress.take (request.AddHeader (m 1) (m 2)) rest
      | none =>
          if line = [] then Progress.halt Stop.blankLine
          else Progress.halt Stop.badHeader

theorem nextHeader_eq_take {request next : HttpRequest}
    {text rest : List Byte} :
    NextHeader request text = Progress.take next rest <->
      exists line m, Cut kCRLF text = some (line, rest) ∧
        Pattern.HeaderLine.FullMatch line = some m ∧
        request.AddHeader (m 1) (m 2) = next := by
  unfold NextHeader
  constructor
  · intro h
    split at h
    · cases h
    · rename_i line left hcut
      split at h
      · rename_i m hmatch
        cases h
        exact ⟨line, m, hcut, hmatch, rfl⟩
      · split at h <;> cases h
  · intro hexists
    rcases hexists with ⟨line, m, hcut, hmatch, rfl⟩
    simp only [hcut, hmatch]

theorem nextHeader_eq_halt {request : HttpRequest} {text : List Byte}
    {why : Stop} :
    NextHeader request text = Progress.halt why <->
      exists line rest, Cut kCRLF text = some (line, rest) ∧
        Pattern.HeaderLine.FullMatch line = none ∧
        why = if line = [] then Stop.blankLine else Stop.badHeader := by
  unfold NextHeader
  constructor
  · intro h
    split at h
    · cases h
    · rename_i line rest hcut
      split at h
      · cases h
      · rename_i hmatch
        refine ⟨line, rest, hcut, hmatch, ?_⟩
        split at h
        · rename_i hline
          cases h
          rw [if_pos hline]
        · rename_i hline
          cases h
          rw [if_neg hline]
  · intro hsuch
    rcases hsuch with ⟨line, rest, hcut, hmatch, rfl⟩
    simp only [hcut, hmatch]
    split <;> rfl

theorem nextHeader_eq_wait {request : HttpRequest} {text : List Byte} :
    NextHeader request text = Progress.wait <-> Cut kCRLF text = none := by
  unfold NextHeader
  constructor
  · intro h
    split at h
    · assumption
    · split at h
      · cases h
      · split at h <;> cases h
  · intro hcut
    simp only [hcut]

/-- Only whole lines count, so that more text does not matter. -/
def Headers : Reader HttpRequest Byte Stop where
  Next := NextHeader
  take_shorter := by
    intro request text next rest h
    rcases nextHeader_eq_take.mp h with ⟨line, m, hcut, _, _⟩
    rw [((cut_eq_some kCRLF_ne_nil).mp hcut).1]
    simp only [List.length_append]
    have hcrlf : kCRLF.length = 2 := rfl
    omega
  take_append := by
    intro request text next rest more h
    rcases nextHeader_eq_take.mp h with ⟨line, m, hcut, hmatch, hnext⟩
    exact nextHeader_eq_take.mpr
      ⟨line, m, cut_append kCRLF_ne_nil more hcut, hmatch, hnext⟩
  halt_append := by
    intro request text why more h
    rcases nextHeader_eq_halt.mp h with ⟨line, rest, hcut, hmatch, hwhy⟩
    exact nextHeader_eq_halt.mpr
      ⟨line, _, cut_append kCRLF_ne_nil more hcut, hmatch, hwhy⟩

theorem reads_blankLine {request last : HttpRequest} {text left : List Byte}
    (h : Reads Headers request text last left (some Stop.blankLine)) :
    exists body, left = kCRLF ++ body := by
  generalize hwhy : some Stop.blankLine = stop at h
  induction h with
  | wait _ => cases hwhy
  | halt hnext =>
      cases hwhy
      rcases nextHeader_eq_halt.mp hnext with ⟨line, rest, hcut, _, hstop⟩
      split at hstop
      · rename_i hline
        rw [hline] at hcut
        exact ⟨rest, ((cut_eq_some kCRLF_ne_nil).mp hcut).1⟩
      · cases hstop
  | take _ _ ih => exact ih hwhy

theorem reads_of_headersComplete {text : List Byte}
    (h : HeadersComplete text) (request : HttpRequest) :
    exists last left,
      Reads Headers request text last left (some Stop.blankLine) := by
  rcases h with ⟨block, hblock, body, rfl⟩
  induction hblock generalizing request with
  | blank =>
      have hcut : Cut kCRLF (kCRLF ++ body) = some ([], body) :=
        (cut_eq_some kCRLF_ne_nil).mpr ⟨rfl, ends_nil⟩
      have hnext : NextHeader request (kCRLF ++ body) =
          Progress.halt Stop.blankLine :=
        nextHeader_eq_halt.mpr ⟨[], body, hcut, rfl, rfl⟩
      exact ⟨request, _, Reads.halt hnext⟩
  | header hline hblock ih =>
      rename_i line block
      rcases Option.isSome_iff_exists.mp
        (Regex.fullMatch_isSome.mpr hline.2) with ⟨m, hmatch⟩
      rcases ih (request.AddHeader (m 1) (m 2)) with ⟨last, left, hrest⟩
      refine ⟨last, left, Reads.take ?_ hrest⟩
      refine nextHeader_eq_take.mpr ⟨line, m, ?_, hmatch, rfl⟩
      exact (cut_eq_some kCRLF_ne_nil).mpr
        ⟨List.append_assoc _ _ _, hline.1⟩

theorem headersComplete_of_reads {request last : HttpRequest}
    {text left : List Byte}
    (h : Reads Headers request text last left (some Stop.blankLine)) :
    HeadersComplete text := by
  generalize hwhy : some Stop.blankLine = stop at h
  induction h with
  | wait _ => cases hwhy
  | halt hnext =>
      cases hwhy
      rcases reads_blankLine (Reads.halt hnext) with ⟨body, rfl⟩
      exact ⟨kCRLF, IsHeaderBlock.blank, List.prefix_append _ _⟩
  | take hnext _ ih =>
      rcases nextHeader_eq_take.mp hnext with ⟨line, m, hcut, hmatch, _⟩
      rcases (cut_eq_some kCRLF_ne_nil).mp hcut with ⟨rfl, hends⟩
      rcases ih hwhy with ⟨block, hblock, hprefix⟩
      have hline : line ∈ Pattern.HeaderLine.Denotes :=
        Regex.fullMatch_isSome.mp (by rw [hmatch]; rfl)
      refine ⟨_, IsHeaderBlock.header ⟨hends, hline⟩ hblock, ?_⟩
      exact List.prefix_append_right_inj _ |>.mpr hprefix

theorem stops_at_blankLine {request last : HttpRequest}
    {text left : List Byte} {why : Option Stop}
    (h : Reads Headers request text last left why)
    (hcomplete : HeadersComplete text) : why = some Stop.blankLine := by
  rcases reads_of_headersComplete hcomplete request with ⟨_, _, hblank⟩
  exact (h.unique hblank).2.2

def SameFields (a b : HttpRequest) : Prop :=
  a.method_ = b.method_ ∧ a.path_ = b.path_ ∧ a.query_ = b.query_ ∧
    a.version_ = b.version_ ∧ a.headers_ = b.headers_ ∧ a.body_ = b.body_

instance : DecidableRel SameFields := fun _ _ =>
  inferInstanceAs (Decidable (_ ∧ _ ∧ _ ∧ _ ∧ _ ∧ _))

theorem reads_sameFields {request last other : HttpRequest}
    {text left : List Byte} {why : Option Stop}
    (h : Reads Headers request text last left why)
    (hsame : SameFields request other) :
    exists last', Reads Headers other text last' left why ∧
      SameFields last last' := by
  induction h generalizing other with
  | wait hnext =>
      have hcut := nextHeader_eq_wait.mp hnext
      exact ⟨other, Reads.wait (nextHeader_eq_wait.mpr hcut), hsame⟩
  | halt hnext =>
      have hhalt := nextHeader_eq_halt.mp hnext
      exact ⟨other, Reads.halt (nextHeader_eq_halt.mpr hhalt), hsame⟩
  | take hnext _ ih =>
      rcases nextHeader_eq_take.mp hnext with ⟨line, m, hcut, hmatch, rfl⟩
      rcases hsame with ⟨hmethod, hpath, hquery, hversion, hheaders, hbody⟩
      have hadd : SameFields (HttpRequest.AddHeader _ (m 1) (m 2))
          (other.AddHeader (m 1) (m 2)) :=
        ⟨hmethod, hpath, hquery, hversion,
          by simp only [HttpRequest.AddHeader, hheaders], hbody⟩
      rcases ih hadd with ⟨last', hreads, hlast⟩
      refine ⟨last', Reads.take ?_ hreads, hlast⟩
      exact nextHeader_eq_take.mpr ⟨line, m, hcut, hmatch, rfl⟩

theorem reads_method {request last : HttpRequest} {text left : List Byte}
    {why : Option Stop} (h : Reads Headers request text last left why) :
    last.method_ = request.method_ := by
  induction h with
  | wait _ => rfl
  | halt _ => rfl
  | take hnext _ ih =>
      rcases nextHeader_eq_take.mp hnext with ⟨line, m, _, _, rfl⟩
      exact ih

/-!
# The loop follows the reader
-/

def Returned (result : ParseResult) (ok : Bool) (context : HttpContext)
    (text : List Byte) : Prop :=
  exists buf, result = some (Except.ok (ok, context, buf)) ∧
    buf.Readable = text

def Concluded (result : ParseResult) (last : HttpRequest)
    (left : List Byte) : Option Stop -> Prop
  | none =>
      Returned result true ⟨last, kExpectHeaders⟩ left
  | some Stop.badHeader =>
      Returned result false ⟨last, kExpectHeaders⟩ left
  | some Stop.blankLine =>
      Returned result true ⟨last.SetBody (left.drop 2), kGotAll⟩ (left.drop 2)

theorem loop_of_iteration {receiveTime : Timestamp} {fuel : Nat}
    {parsing next : Parsing} (hmore : parsing.hasMore = true)
    (h : Iteration receiveTime parsing = Except.ok next) :
    Loop receiveTime (fuel + 1) parsing = Loop receiveTime fuel next := by
  rw [Loop, if_pos hmore, h]

theorem loop_of_done {receiveTime : Timestamp} {fuel : Nat}
    {parsing : Parsing} (hdone : parsing.hasMore = false) :
    Loop receiveTime fuel parsing =
      some (Except.ok (parsing.ok, parsing.context, parsing.buf)) := by
  unfold Loop
  simp [hdone]

theorem loop_body {receiveTime : Timestamp} {fuel : Nat}
    {request : HttpRequest} {buf : Buffer} :
    Loop receiveTime (fuel + 1)
      ⟨true, true, ⟨request, kExpectBody⟩, buf⟩ =
        some (Except.ok
          (true, ⟨request.SetBody buf.Readable, kGotAll⟩, buf)) := by
  rw [loop_of_iteration rfl rfl, loop_of_done rfl]

theorem iteration_line (receiveTime : Timestamp) (request : HttpRequest)
    {buf : Buffer} {line rest : List Byte}
    (hcut : Cut kCRLF buf.Readable = some (line, rest)) :
    exists next, next.Readable = rest ∧
      Iteration receiveTime ⟨true, true, ⟨request, kExpectHeaders⟩, buf⟩ =
        Except.ok (match Pattern.HeaderLine.FullMatch line with
          | some m =>
              ⟨true, true,
                ⟨request.AddHeader (m 1) (m 2), kExpectHeaders⟩, next⟩
          | none =>
              if line = [] then
                ⟨true, true, ⟨request, kExpectBody⟩, next⟩
              else ⟨false, false, ⟨request, kExpectHeaders⟩, buf⟩) := by
  rcases findCRLF_of_cut hcut with ⟨hfind, hline, next, hnext, hreadable⟩
  refine ⟨next, hreadable, ?_⟩
  simp only [Iteration, hfind, hline]
  cases Pattern.HeaderLine.FullMatch line with
  | some m =>
      simp only [hnext]
      rfl
  | none =>
      by_cases hempty : line = []
      · simp only [hempty, List.length_nil] at hnext ⊢
        simp only [hnext]
        rfl
      · have hlength : line.length ≠ 0 := fun h =>
          hempty (List.length_eq_zero_iff.mp h)
        simp only [if_neg hempty, if_neg hlength]

theorem iteration_wait {receiveTime : Timestamp} {request : HttpRequest}
    {buf : Buffer} (hcut : Cut kCRLF buf.Readable = none) :
    Iteration receiveTime ⟨true, true, ⟨request, kExpectHeaders⟩, buf⟩ =
      Except.ok ⟨true, false, ⟨request, kExpectHeaders⟩, buf⟩ := by
  simp only [Iteration, findCRLF_of_no_cut hcut]

theorem concluded_of_reads {receiveTime : Timestamp}
    {request last : HttpRequest} {text left : List Byte} {why : Option Stop}
    (h : Reads Headers request text last left why) {fuel : Nat} {buf : Buffer}
    (htext : buf.Readable = text) (hfuel : text.length < fuel) :
    Concluded (Loop receiveTime fuel
      ⟨true, true, ⟨request, kExpectHeaders⟩, buf⟩) last left why := by
  obtain ⟨fuel, rfl⟩ : exists n, fuel = n + 1 :=
    Nat.exists_eq_succ_of_ne_zero (by omega)
  induction h generalizing fuel buf with
  | wait hnext =>
      have hcut := nextHeader_eq_wait.mp hnext
      rw [← htext] at hcut
      refine ⟨buf, ?_, htext⟩
      rw [loop_of_iteration rfl (iteration_wait hcut), loop_of_done rfl]
  | halt hnext =>
      rcases nextHeader_eq_halt.mp hnext with ⟨line, rest, hcut, hmatch, rfl⟩
      have hsplit := ((cut_eq_some kCRLF_ne_nil).mp hcut).1
      rw [← htext] at hcut
      rcases iteration_line receiveTime _ hcut with
        ⟨next, hreadable, hiteration⟩
      rw [hmatch] at hiteration
      rw [loop_of_iteration rfl hiteration]
      by_cases hline : line = []
      · -- The body is taken by one iteration more.
        obtain ⟨fuel, rfl⟩ : exists n, fuel = n + 1 := by
          apply Nat.exists_eq_succ_of_ne_zero
          rw [hsplit, List.length_append, List.length_append] at hfuel
          have hcrlf : kCRLF.length = 2 := rfl
          omega
        have hbody : rest = (line ++ kCRLF ++ rest).drop 2 := by
          rw [hline]
          rfl
        simp only [if_pos hline]
        rw [loop_body, hreadable, hsplit]
        refine ⟨next, ?_, ?_⟩
        · rw [← hbody]
        · rw [hreadable, ← hbody]
      · simp only [if_neg hline]
        exact ⟨buf, loop_of_done rfl, htext⟩
  | take hnext hrest ih =>
      rcases nextHeader_eq_take.mp hnext with ⟨line, m, hcut, hmatch, rfl⟩
      have hshorter := Headers.take_shorter hnext
      rw [← htext] at hcut
      rcases iteration_line receiveTime _ hcut with
        ⟨next, hreadable, hiteration⟩
      rw [hmatch] at hiteration
      obtain ⟨fuel, rfl⟩ : exists n, fuel = n + 1 :=
        Nat.exists_eq_succ_of_ne_zero (by omega)
      rw [loop_of_iteration rfl hiteration]
      exact ih hreadable _ (by omega)

/-!
# Calls of the parser
-/

theorem parseRequest_headers {receiveTime : Timestamp}
    {request last : HttpRequest} {buf : Buffer} {left : List Byte}
    {why : Option Stop}
    (h : Reads Headers request buf.Readable last left why) :
    Concluded (ParseRequest ⟨request, kExpectHeaders⟩ buf receiveTime)
      last left why :=
  concluded_of_reads h rfl (by rw [length_readable]; exact Nat.lt_succ_self _)

theorem iteration_rejects {receiveTime : Timestamp} {buf : Buffer}
    (h : forall line rest, Cut kCRLF buf.Readable = some (line, rest) ->
      line ∉ Pattern.RequestLine.Denotes) :
    Iteration receiveTime ⟨true, true, HttpContext.New, buf⟩ =
      Except.ok ⟨false, false, HttpContext.New, buf⟩ := by
  cases hcut : Cut kCRLF buf.Readable with
  | none =>
      simp only [Iteration, HttpContext.New, findCRLF_of_no_cut hcut]
  | some cut =>
      rcases cut with ⟨line, rest⟩
      rcases findCRLF_of_cut hcut with ⟨hfind, hline, _⟩
      have hmatch : Pattern.RequestLine.FullMatch line = none := by
        rw [← Option.not_isSome_iff_eq_none, Regex.fullMatch_isSome]
        exact h line rest hcut
      simp only [Iteration, HttpContext.New, hfind, hline,
        ParseRequestLine, hmatch]
      rfl

theorem iteration_accepts (receiveTime : Timestamp) {buf : Buffer}
    {line rest : List Byte} {context : HttpContext}
    (hcut : Cut kCRLF buf.Readable = some (line, rest))
    (hparse :
      HttpContext.New.ParseRequestLine line = Except.ok (true, context)) :
    exists next, next.Readable = rest ∧
      Iteration receiveTime ⟨true, true, HttpContext.New, buf⟩ =
        Except.ok ⟨true, true,
          ⟨context.request_.SetReceiveTime receiveTime, kExpectHeaders⟩,
          next⟩ := by
  rcases findCRLF_of_cut hcut with ⟨hfind, hline, next, hnext, hreadable⟩
  refine ⟨next, hreadable, ?_⟩
  have hstate : HttpContext.New.state_ = kExpectRequestLine := rfl
  simp only [Iteration, hstate, hfind, hline, hparse]
  show (do let buf <- buf.RetrieveUntil (line.length + 2); _) = _
  rw [hnext]
  rfl

theorem parseRequest_rejects {receiveTime : Timestamp} {buf : Buffer}
    (h : forall line rest, Cut kCRLF buf.Readable = some (line, rest) ->
      line ∉ Pattern.RequestLine.Denotes) :
    ParseRequest HttpContext.New buf receiveTime =
      some (Except.ok (false, HttpContext.New, buf)) := by
  rw [ParseRequest, loop_of_iteration rfl (iteration_rejects h),
    loop_of_done rfl]

theorem parseRequest_accepts {receiveTime : Timestamp} {buf : Buffer}
    {line rest left : List Byte} {context : HttpContext} {last : HttpRequest}
    {why : Option Stop}
    (hcut : Cut kCRLF buf.Readable = some (line, rest))
    (hparse : HttpContext.New.ParseRequestLine line = Except.ok (true, context))
    (h : Reads Headers (context.request_.SetReceiveTime receiveTime) rest
      last left why) :
    Concluded (ParseRequest HttpContext.New buf receiveTime) last left why := by
  rcases iteration_accepts receiveTime hcut hparse with
    ⟨next, hreadable, hiteration⟩
  rw [ParseRequest, loop_of_iteration rfl hiteration]
  apply concluded_of_reads h hreadable
  have hsplit := ((cut_eq_some kCRLF_ne_nil).mp hcut).1
  rw [← length_readable, hsplit, List.length_append, List.length_append]
  have hcrlf : kCRLF.length = 2 := rfl
  omega

end Net
end Wethands
