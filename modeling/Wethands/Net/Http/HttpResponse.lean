import Wethands.Net.Http.HttpRequest
import Wethands.Net.InetAddress
import Wethands.Net.Lines

/-!
# Responses

A response is a block of lines, a blank line and the body.  Unless the
connection is to be closed, a line tells the length of the body.
-/

namespace Wethands
namespace Net

open Foundation Buffer

namespace HttpResponse

inductive HttpStatusCode where
  | kUnknown
  | k200Ok
  | k301MovedPermanently
  | k400BadRequest
  | k404NotFound
deriving DecidableEq

def HttpStatusCode.Value : HttpStatusCode -> Nat
  | kUnknown => 0
  | k200Ok => 200
  | k301MovedPermanently => 301
  | k400BadRequest => 400
  | k404NotFound => 404

end HttpResponse

open HttpResponse

structure HttpResponse where
  statusCode_ : HttpStatusCode
  statusMessage_ : List Byte
  closeConnection_ : Bool
  headers_ : OrderedMap (List Byte) StringLess
  body_ : List Byte

namespace HttpResponse

def New (close : Bool) : HttpResponse where
  statusCode_ := HttpStatusCode.kUnknown
  statusMessage_ := []
  closeConnection_ := close
  headers_ := OrderedSet.Empty _
  body_ := []

def AddHeader (response : HttpResponse) (key value : List Byte) :
    HttpResponse :=
  { response with
    headers_ := OrderedMap.Assign response.headers_ key value }

/-- What `snprintf` leaves in a buffer of 32 bytes, the last one a zero. -/
def Snprintf (text : List Byte) : List Byte := text.take 31

def AppendHeader (output : Buffer) (p : List Byte × List Byte) : Buffer :=
  (((output.Append p.1).Append (Ascii ": ")).Append p.2).Append kCRLF

def AppendToBuffer (response : HttpResponse) (output : Buffer) : Buffer :=
  let output := output.Append (Snprintf
    (Ascii "HTTP/1.1 " ++ Decimal response.statusCode_.Value ++ Ascii " "))
  let output := output.Append response.statusMessage_
  let output := output.Append kCRLF
  let output :=
    if response.closeConnection_ then
      output.Append (Ascii "Connection: close\r\n")
    else
      (output.Append (Snprintf (Ascii "Content-Length: " ++
        Decimal response.body_.length ++ kCRLF))).Append
          (Ascii "Connection: Keep-Alive\r\n")
  let output := response.headers_.elems.foldl AppendHeader output
  let output := output.Append kCRLF
  output.Append response.body_

/-!
# The lines of a response
-/

def StatusLine (response : HttpResponse) : List Byte :=
  Ascii "HTTP/1.1 " ++ Decimal response.statusCode_.Value ++ Ascii " " ++
    response.statusMessage_

def ContentLengthLine (response : HttpResponse) : List Byte :=
  Ascii "Content-Length: " ++ Decimal response.body_.length

def ConnectionLines (response : HttpResponse) : List (List Byte) :=
  if response.closeConnection_ then [Ascii "Connection: close"]
  else [response.ContentLengthLine, Ascii "Connection: Keep-Alive"]

def HeaderLine (p : List Byte × List Byte) : List Byte :=
  p.1 ++ Ascii ": " ++ p.2

def Block (response : HttpResponse) : List (List Byte) :=
  response.StatusLine ::
    (response.ConnectionLines ++ response.headers_.elems.map HeaderLine)

def Text (response : HttpResponse) : List Byte :=
  LineBytes response.Block ++ kCRLF ++ response.body_

/-- No text of the user contains a part of the end of a line. -/
structure OneLiners (response : HttpResponse) : Prop where
  message : forall b, b ∈ response.statusMessage_ -> b ≠ 13 ∧ b ≠ 10
  headers : forall p, p ∈ response.headers_ ->
    (forall b, b ∈ p.1 -> b ≠ 13 ∧ b ≠ 10) ∧
      forall b, b ∈ p.2 -> b ≠ 13 ∧ b ≠ 10

theorem readable_appendHeaders (output : Buffer)
    (headers : List (List Byte × List Byte)) :
    (headers.foldl AppendHeader output).Readable =
      output.Readable ++ LineBytes (headers.map HeaderLine) := by
  induction headers generalizing output with
  | nil => simp
  | cons p headers ih =>
      rw [List.foldl_cons, ih]
      simp [AppendHeader, HeaderLine]

theorem snprintf_eq {text : List Byte} (h : text.length ≤ 31) :
    Snprintf text = text :=
  List.take_of_length_le h

theorem decimal_length {n k : Nat} (hk : 0 < k) (h : n < 10 ^ k) :
    (Decimal n).length ≤ k := by
  rw [Decimal, List.length_map]
  exact (Nat.length_toDigits_le_iff (by decide) hk).mpr h

theorem readable_appendToBuffer (response : HttpResponse) (output : Buffer)
    (hbody : response.body_.length < 10 ^ 13) :
    (response.AppendToBuffer output).Readable =
      output.Readable ++ response.Text := by
  have hcode : (Decimal response.statusCode_.Value).length ≤ 3 := by
    apply decimal_length (by decide)
    cases response.statusCode_ <;> decide
  have hstatus : Snprintf (Ascii "HTTP/1.1 " ++
      Decimal response.statusCode_.Value ++ Ascii " ") =
        Ascii "HTTP/1.1 " ++ Decimal response.statusCode_.Value ++
          Ascii " " := by
    apply snprintf_eq
    have hfirst : (Ascii "HTTP/1.1 ").length = 9 := rfl
    have hlast : (Ascii " ").length = 1 := rfl
    rw [List.length_append, List.length_append, hfirst, hlast]
    omega
  have hlength : Snprintf (Ascii "Content-Length: " ++
      Decimal response.body_.length ++ kCRLF) =
        response.ContentLengthLine ++ kCRLF := by
    apply snprintf_eq
    have hdigits := decimal_length (k := 13) (by decide) hbody
    have hfirst : (Ascii "Content-Length: ").length = 16 := rfl
    have hlast : kCRLF.length = 2 := rfl
    rw [List.length_append, List.length_append, hfirst, hlast]
    omega
  have hclose : Ascii "Connection: close\r\n" =
      Ascii "Connection: close" ++ kCRLF := by decide +kernel
  have halive : Ascii "Connection: Keep-Alive\r\n" =
      Ascii "Connection: Keep-Alive" ++ kCRLF := by decide +kernel
  rw [AppendToBuffer, hstatus, hlength, hclose, halive]
  cases hconn : response.closeConnection_ with
  | true =>
      simp [readable_appendHeaders, hconn, Text, Block, ConnectionLines,
        StatusLine]
  | false =>
      simp [readable_appendHeaders, hconn, Text, Block, ConnectionLines,
        StatusLine]

/-!
# The first blank line
-/

theorem plain_of {line : List Byte} (hne : line ≠ [])
    (h : forall b, b ∈ line -> b ≠ 13 ∧ b ≠ 10) : Plain line :=
  ⟨hne, fun hmem => (h 13 hmem).1 rfl⟩

theorem decimal_oneLine {n : Nat} {b : Byte} (h : b ∈ Decimal n) :
    b ≠ 13 ∧ b ≠ 10 := by
  have hrange := mem_decimal h
  constructor
  · rintro rfl
    exact absurd hrange.1 (by decide)
  · rintro rfl
    exact absurd hrange.1 (by decide)

theorem statusLine_oneLine {response : HttpResponse}
    (h : response.OneLiners) {b : Byte} (hb : b ∈ response.StatusLine) :
    b ≠ 13 ∧ b ≠ 10 := by
  have hversion : forall b, b ∈ Ascii "HTTP/1.1 " -> b ≠ 13 ∧ b ≠ 10 := by
    decide +kernel
  have hspace : forall b, b ∈ Ascii " " -> b ≠ 13 ∧ b ≠ 10 := by
    decide +kernel
  simp only [StatusLine, List.mem_append] at hb
  rcases hb with ((hfirst | hcode) | hsecond) | hmessage
  · exact hversion b hfirst
  · exact decimal_oneLine hcode
  · exact hspace b hsecond
  · exact h.message b hmessage

theorem connectionLines_oneLine {response : HttpResponse} {line : List Byte}
    (hline : line ∈ response.ConnectionLines) :
    line ≠ [] ∧ forall b, b ∈ line -> b ≠ 13 ∧ b ≠ 10 := by
  have hlength : forall b, b ∈ Ascii "Content-Length: " ->
      b ≠ 13 ∧ b ≠ 10 := by
    decide +kernel
  unfold ConnectionLines at hline
  split at hline
  · rw [List.mem_singleton.mp hline]
    decide +kernel
  · rcases List.mem_cons.mp hline with rfl | hline
    · constructor
      · simp [ContentLengthLine, Ascii]
      · intro b hb
        rcases List.mem_append.mp hb with hname | hdigits
        · exact hlength b hname
        · exact decimal_oneLine hdigits
    · rw [List.mem_singleton.mp hline]
      decide +kernel

theorem headerLine_oneLine {response : HttpResponse}
    (h : response.OneLiners) {p : List Byte × List Byte}
    (hp : p ∈ response.headers_) :
    HeaderLine p ≠ [] ∧
      forall b, b ∈ HeaderLine p -> b ≠ 13 ∧ b ≠ 10 := by
  have hcolon : forall b, b ∈ Ascii ": " -> b ≠ 13 ∧ b ≠ 10 := by
    decide +kernel
  constructor
  · simp [HeaderLine, Ascii]
  · intro b hb
    simp only [HeaderLine, List.mem_append] at hb
    rcases hb with (hname | hsep) | hvalue
    · exact (h.headers p hp).1 b hname
    · exact hcolon b hsep
    · exact (h.headers p hp).2 b hvalue

theorem block_oneLine {response : HttpResponse} (h : response.OneLiners)
    {line : List Byte} (hline : line ∈ response.Block) :
    line ≠ [] ∧ forall b, b ∈ line -> b ≠ 13 ∧ b ≠ 10 := by
  rcases List.mem_cons.mp hline with rfl | hrest
  · constructor
    · simp [StatusLine, Ascii]
    · intro b hb
      exact statusLine_oneLine h hb
  · rcases List.mem_append.mp hrest with hconn | hheader
    · exact connectionLines_oneLine hconn
    · rcases List.mem_map.mp hheader with ⟨p, hp, rfl⟩
      exact headerLine_oneLine h hp

theorem cut_text {response : HttpResponse} (h : response.OneLiners)
    (more : List Byte) :
    exists head, head ++ kCRLF = LineBytes response.Block ∧
      Cut kBlankLine (response.Text ++ more) =
        some (head, response.body_ ++ more) := by
  have hne : response.Block ≠ [] := List.cons_ne_nil _ _
  rcases cut_blankLine hne (fun line hline =>
      plain_of (block_oneLine h hline).1 (block_oneLine h hline).2)
    (response.body_ ++ more) with
    ⟨head, hhead, hcut⟩
  refine ⟨head, hhead, ?_⟩
  rw [Text, List.append_assoc, hcut]

/-!
# A peer
-/

def IsDigit (b : Byte) : Bool := 48 ≤ b && b ≤ 57

def DecimalValue (digits : List Byte) : Nat :=
  digits.foldl (fun n b => 10 * n + (b.toNat - 48)) 0

def ContentLength (head : List Byte) : Option Nat :=
  (Cut (kCRLF ++ Ascii "Content-Length: ") head).map
    fun parts => DecimalValue (parts.2.takeWhile IsDigit)

/-- A body of the length that the lines before it tell, and what follows. -/
def Receive (text : List Byte) : Option (List Byte × List Byte) :=
  match Cut kBlankLine text with
  | none => none
  | some (head, rest) =>
      (ContentLength head).map fun n => (rest.take n, rest.drop n)

def ReceiveAll : Nat -> List Byte -> Option (List (List Byte) × List Byte)
  | 0, text => some ([], text)
  | n + 1, text =>
      match Receive text with
      | none => none
      | some (body, rest) =>
          (ReceiveAll n rest).map fun last => (body :: last.1, last.2)

theorem decimalValue_decimal (n : Nat) : DecimalValue (Decimal n) = n := by
  have hdigits : forall (cs : List Char) (k : Nat),
      (forall c, c ∈ cs -> c.toNat ≤ 57) ->
      (cs.map (fun c => UInt8.ofNat c.toNat)).foldl
        (fun n b => 10 * n + (b.toNat - 48)) k =
          Nat.ofDigitChars 10 cs k := by
    intro cs
    induction cs with
    | nil =>
        intro k _
        rw [Nat.ofDigitChars_nil]
        rfl
    | cons c cs ih =>
        intro k hcs
        have hc : c.toNat ≤ 57 := hcs c List.mem_cons_self
        have hbyte : (UInt8.ofNat c.toNat).toNat = c.toNat :=
          UInt8.toNat_ofNat_of_lt' (Nat.lt_of_le_of_lt hc (by decide))
        rw [List.map_cons, List.foldl_cons, hbyte, Nat.ofDigitChars_cons,
          ih _ fun c hc => hcs c (List.mem_cons_of_mem _ hc)]
        rfl
  rw [DecimalValue, Decimal,
    hdigits _ 0 fun c hc => (mem_toDigits_lt hc).2]
  simp

theorem takeWhile_decimal (n : Nat) (more : List Byte) :
    (Decimal n ++ kCRLF ++ more).takeWhile IsDigit = Decimal n := by
  have hdigits : forall b, b ∈ Decimal n -> IsDigit b = true := by
    intro b hb
    have hrange := mem_decimal hb
    simp only [IsDigit, Bool.and_eq_true, decide_eq_true_eq,
      UInt8.le_iff_toNat_le]
    exact hrange
  rw [List.append_assoc, List.takeWhile_append_of_pos hdigits]
  have hstop : (kCRLF ++ more).takeWhile IsDigit = [] := rfl
  rw [hstop, List.append_nil]

theorem lineBytes_ends {lines : List (List Byte)} (h : lines ≠ []) :
    exists front, LineBytes lines = front ++ kCRLF := by
  rcases List.eq_nil_or_concat' lines with hnil | ⟨others, line, rfl⟩
  · exact absurd hnil h
  · exact ⟨LineBytes others ++ line, by simp⟩

theorem contentLength_head {response : HttpResponse} {head : List Byte}
    (h : response.OneLiners) (halive : response.closeConnection_ = false)
    (hhead : head ++ kCRLF = LineBytes response.Block) :
    ContentLength head = some response.body_.length := by
  have hne : Ascii "Connection: Keep-Alive" ::
      response.headers_.elems.map HeaderLine ≠ [] := List.cons_ne_nil _ _
  rcases lineBytes_ends hne with ⟨front, hfront⟩
  have hblock : LineBytes response.Block = response.StatusLine ++ kCRLF ++
      (response.ContentLengthLine ++ kCRLF ++
        LineBytes (Ascii "Connection: Keep-Alive" ::
          response.headers_.elems.map HeaderLine)) := by
    rw [Block, ConnectionLines, halive]
    rfl
  have hsplit : head = response.StatusLine ++
      (kCRLF ++ Ascii "Content-Length: ") ++
        (Decimal response.body_.length ++ kCRLF ++ front) := by
    apply List.append_cancel_right
    rw [hhead, hblock, hfront]
    simp [ContentLengthLine]
  have hends : Ends (kCRLF ++ Ascii "Content-Length: ")
      response.StatusLine := by
    apply ends_of_not_mem
    intro hmem
    exact (statusLine_oneLine h hmem).1 rfl
  have hcut : Cut (kCRLF ++ Ascii "Content-Length: ") head =
      some (response.StatusLine,
        Decimal response.body_.length ++ kCRLF ++ front) :=
    (cut_eq_some (List.cons_ne_nil _ _)).mpr ⟨hsplit, hends⟩
  rw [ContentLength, hcut, Option.map_some, takeWhile_decimal,
    decimalValue_decimal]

theorem receive_text {response : HttpResponse} (h : response.OneLiners)
    (halive : response.closeConnection_ = false) (more : List Byte) :
    Receive (response.Text ++ more) = some (response.body_, more) := by
  rcases cut_text h more with ⟨head, hhead, hcut⟩
  rw [Receive, hcut]
  simp only [contentLength_head h halive hhead, Option.map_some]
  rw [List.take_left, List.drop_left]

theorem receiveAll_texts {responses : List HttpResponse}
    (h : forall response, response ∈ responses ->
      response.OneLiners ∧ response.closeConnection_ = false)
    (more : List Byte) :
    ReceiveAll responses.length (responses.flatMap Text ++ more) =
      some (responses.map HttpResponse.body_, more) := by
  induction responses with
  | nil => rfl
  | cons response responses ih =>
      rcases h response List.mem_cons_self with ⟨hone, halive⟩
      have hrest := ih fun other hother =>
        h other (List.mem_cons_of_mem _ hother)
      rw [List.length_cons, List.flatMap_cons, List.append_assoc,
        ReceiveAll, receive_text hone halive]
      simp only [hrest]
      rfl

/-!
# Framing
-/

structure Framed (response : HttpResponse) (output : Buffer) : Prop where
  appended : (response.AppendToBuffer output).Readable =
    output.Readable ++ (LineBytes response.Block ++ kCRLF ++ response.body_)
  blank_line : exists head, head ++ kCRLF = LineBytes response.Block ∧
    Cut kBlankLine (LineBytes response.Block ++ kCRLF ++ response.body_) =
      some (head, response.body_)
  one_line : forall line, line ∈ response.Block ->
    line ≠ [] ∧ forall b, b ∈ line -> b ≠ 13 ∧ b ≠ 10
  once : (response.headers_.elems.map Prod.fst).Nodup
  close : response.closeConnection_ = true ->
    Ascii "Connection: close" ∈ response.Block
  keepAlive : response.closeConnection_ = false ->
    Ascii "Connection: Keep-Alive" ∈ response.Block ∧
      exists digits, Ascii "Content-Length: " ++ digits ∈ response.Block ∧
        DecimalValue digits = response.body_.length
  in_step : response.closeConnection_ = false -> forall more,
    Receive (LineBytes response.Block ++ kCRLF ++ response.body_ ++ more) =
      some (response.body_, more)

theorem response_framed {response : HttpResponse} (output : Buffer)
    (h : response.OneLiners) (hbody : response.body_.length < 10 ^ 13) :
    response.Framed output := by
  constructor
  · exact readable_appendToBuffer response output hbody
  · have hcut := cut_text h []
    simp only [List.append_nil] at hcut
    exact hcut
  · intro line hline
    exact block_oneLine h hline
  · apply List.pairwise_map.mpr
    apply response.headers_.sorted.imp
    intro p q hless heq
    have hself : StringLess p.1 p.1 := by
      rwa [ByKey, <- heq] at hless
    exact irrefl_of StringLess p.1 hself
  · intro hclose
    simp [Block, ConnectionLines, hclose]
  · intro halive
    constructor
    · simp [Block, ConnectionLines, halive]
    · refine ⟨Decimal response.body_.length, ?_, decimalValue_decimal _⟩
      simp [Block, ConnectionLines, halive, ContentLengthLine]
  · intro halive more
    exact receive_text h halive more

def OkResponse : HttpResponse :=
  { New false with
    statusCode_ := HttpStatusCode.k200Ok
    statusMessage_ := Ascii "ok"
    body_ := Ascii "<p>\r\n\r\n</p>" }

/-- The body may contain what ends the lines. -/
theorem response_framed_ok :
    (OkResponse.AddHeader (Ascii "Content-Type") (Ascii "text/html")).Framed
      (Buffer.New kInitialSize) := by
  apply response_framed
  · constructor
    · decide +kernel
    · decide +kernel
  · decide +kernel

end HttpResponse
end Net
end Wethands
