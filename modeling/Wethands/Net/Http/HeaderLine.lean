import Mathlib.Data.List.DropRight
import Wethands.Foundation.Regex.Greedy
import Wethands.Net.Http.Head

/-!
# Two ways to add a header line

One version of `AddHeader` is given the place of the colon and cuts the line
itself; the parser cuts it with a pattern.
-/

namespace Wethands
namespace Net

open Foundation Utils Buffer HttpContext HttpRequestParseState

namespace HttpRequest

/-- `isspace` of glibc: the answer for whitespace is one bit of a table. -/
def Isspace (b : Byte) : Nat := if Pattern.IsSpace b then 8192 else 0

/--
`while (!value.empty() & isspace(*value.rbegin())) value.pop_back();` on a
value whose last byte comes first.  Both operands of `&` are evaluated, so that
the last byte of an empty value is read, and their bits are compared.
-/
def PopSpaces : List Byte -> Outcome (List Byte)
  | [] => Except.error Failure.danglingPointer
  | b :: rest =>
      if 1 &&& Isspace b ≠ 0 then PopSpaces rest else Except.ok (b :: rest)

/-- The version for a line whose colon is at a given place. -/
def AddHeaderAt (request : HttpRequest) (line : List Byte) (colon : Nat) :
    Outcome HttpRequest :=
  match (line)[colon]? with
  | none => Except.error Failure.danglingPointer
  | some b =>
      if b = 58 then do
        let field := line.take colon
        let value := (line.drop (colon + 1)).dropWhile Pattern.IsSpace
        let value <- PopSpaces value.reverse
        Except.ok (request.AddHeader field value.reverse)
      else Except.error Failure.assertion

/-- The bit of `isspace` is not that of `true`, so nothing is taken off. -/
theorem popSpaces_eq {text : List Byte} (h : text ≠ []) :
    PopSpaces text = Except.ok text := by
  cases text with
  | nil => exact absurd rfl h
  | cons b rest =>
      have hbits : 1 &&& Isspace b = 0 := by
        unfold Isspace
        split <;> rfl
      rw [PopSpaces, hbits]
      rfl

end HttpRequest

/-!
# The parts of a line
-/

namespace HeaderLine

def Colon (line : List Byte) : Nat := line.idxOf 58

def Field (line : List Byte) : List Byte := line.take (Colon line)

def Behind (line : List Byte) : List Byte := line.drop (Colon line + 1)

def Value (line : List Byte) : List Byte :=
  ((Behind line).dropWhile Pattern.IsSpace).rdropWhile Pattern.IsSpace

variable {line : List Byte}

theorem line_eq (h : (58 : Byte) ∈ line) :
    line = Field line ++ 58 :: Behind line := by
  have hlt : Colon line < line.length := List.idxOf_lt_length_iff.mpr h
  have hget : (line)[Colon line] = 58 := List.getElem_idxOf hlt
  have hdrop := List.drop_eq_getElem_cons hlt
  rw [hget] at hdrop
  rw [Field, Behind, <- hdrop, List.take_append_drop]

theorem field_no_colon {b : Byte} (hb : b ∈ Field line) :
    (b != 58) = true := by
  rcases List.mem_iff_getElem.mp hb with ⟨i, hi, rfl⟩
  have hlt : i < Colon line := by
    rw [Field, List.length_take] at hi
    omega
  have hne := List.not_of_lt_findIdx (p := (· == 58)) hlt
  simpa [Field] using hne

def NotBlank (line : List Byte) : Prop :=
  (Behind line).dropWhile Pattern.IsSpace ≠ []

theorem addHeaderAt_value (request : HttpRequest)
    (hcolon : (58 : Byte) ∈ line) :
    request.AddHeaderAt line (Colon line) =
      (HttpRequest.PopSpaces
        ((Behind line).dropWhile Pattern.IsSpace).reverse).map
          (fun value => request.AddHeader (Field line) value.reverse) := by
  have hget : (line)[Colon line]? = some 58 := by
    have hlt : Colon line < line.length := List.idxOf_lt_length_iff.mpr hcolon
    rw [List.getElem?_eq_getElem hlt]
    exact congrArg some (List.getElem_idxOf hlt)
  simp only [HttpRequest.AddHeaderAt, hget, if_true]
  rfl

theorem addHeaderAt_eq (request : HttpRequest) (hcolon : (58 : Byte) ∈ line)
    (hblank : NotBlank line) :
    request.AddHeaderAt line (Colon line) =
      Except.ok (request.AddHeader (Field line)
        ((Behind line).dropWhile Pattern.IsSpace)) := by
  have hne : ((Behind line).dropWhile Pattern.IsSpace).reverse ≠ [] :=
    List.reverse_ne_nil_iff.mpr hblank
  rw [addHeaderAt_value request hcolon, HttpRequest.popSpaces_eq hne]
  simp only [Except.map, List.reverse_reverse]

/-- The last byte of an empty value is read. -/
theorem addHeaderAt_blank (request : HttpRequest)
    (hcolon : (58 : Byte) ∈ line) (hblank : ¬NotBlank line) :
    request.AddHeaderAt line (Colon line) =
      Except.error Failure.danglingPointer := by
  rw [addHeaderAt_value request hcolon, not_not.mp hblank]
  rfl

theorem fullMatch_eq (hcolon : (58 : Byte) ∈ line) (hfield : Field line ≠ [])
    (hline : forall b, b ∈ line -> Pattern.IsLineChar b = true)
    (hblank : NotBlank line) :
    exists m, Pattern.HeaderLine.FullMatch line = some m ∧
      m 1 = Field line ∧ m 2 = (Behind line).dropWhile Pattern.IsSpace := by
  have htext := line_eq hcolon
  have hbehind : Behind line = (Behind line).takeWhile Pattern.IsSpace ++
      (Behind line).dropWhile Pattern.IsSpace :=
    List.takeWhile_append_dropWhile.symm
  have hspaces : forall b, b ∈ (Behind line).takeWhile Pattern.IsSpace ->
      Pattern.IsSpace b = true := fun b hb => List.mem_takeWhile_imp hb
  have hstops := stops_dropWhile Pattern.IsSpace (Behind line)
  have hvalue : forall b, b ∈ (Behind line).dropWhile Pattern.IsSpace ->
      Pattern.IsLineChar b = true := by
    intro b hb
    apply hline
    rw [htext]
    exact List.mem_append_right _ (List.mem_cons_of_mem _
      ((List.dropWhile_suffix _).mem hb))
  have hcolonStops : Stops (fun b : Byte => b != 58)
      (58 :: Behind line) := by
    intro b hb
    cases hb
    rfl
  have hmatch : exists last, Regex.Prefers Pattern.HeaderLine
      (Matching.Start line) last ∧ last.rest = [] ∧
        last.captures 1 = Field line ∧
        last.captures 2 = (Behind line).dropWhile Pattern.IsSpace :=
    ⟨_, Regex.prefers_seq (Regex.prefers_group
        (Regex.prefers_plus hfield htext (fun b hb => field_no_colon hb)
          hcolonStops) htext)
      (Regex.prefers_seq (Regex.prefers_one rfl rfl)
      (Regex.prefers_seq (Regex.prefers_star hbehind hspaces hstops)
      (Regex.prefers_group (Regex.prefers_plus hblank
        (List.append_nil _).symm hvalue (stops_nil _))
        (List.append_nil _).symm))), rfl, rfl, rfl⟩
  rcases hmatch with ⟨last, hprefers, hend, hcaptured⟩
  exact ⟨_, Regex.fullMatch_of_prefers hprefers hend, hcaptured⟩

theorem fullMatch_of_no_field (hcolon : (58 : Byte) ∈ line)
    (hfield : Field line = []) :
    Pattern.HeaderLine.FullMatch line = none := by
  have htext := line_eq hcolon
  rw [hfield, List.nil_append] at htext
  -- The first byte is a colon, and a field starts with anything else.
  rw [htext]
  simp [Regex.FullMatch, Pattern.HeaderLine, Regex.Plus, Regex.Results,
    Matching.Start]

/-!
# When the two ways agree
-/

structure PathsAgree (request : HttpRequest) (line : List Byte) : Prop where
  pointer : request.AddHeaderAt line (Colon line) =
    Except.ok (request.AddHeader (Field line) (Value line))
  regex : forall (receiveTime : Timestamp) (buf : Buffer) (rest : List Byte),
    buf.Readable = line ++ kCRLF ++ rest ->
      exists next : Buffer, next.Readable = rest ∧
        Iteration receiveTime
            ⟨true, true, ⟨request, kExpectHeaders⟩, buf⟩ =
          Except.ok ⟨true, true,
            ⟨request.AddHeader (Field line) (Value line), kExpectHeaders⟩,
            next⟩

/-- There is a field, and the last byte behind it is not whitespace. -/
def EndsInText (line : List Byte) : Prop :=
  Field line ≠ [] ∧ exists b, (Behind line).getLast? = some b ∧
    Pattern.IsSpace b = false

theorem value_eq_iff : Value line = (Behind line).dropWhile Pattern.IsSpace <->
    forall b, ((Behind line).dropWhile Pattern.IsSpace).getLast? = some b ->
      Pattern.IsSpace b = false := by
  rw [Value, List.rdropWhile_eq_self_iff]
  constructor
  · intro h b hb
    rcases List.getLast?_eq_some_iff.mp hb with ⟨front, hfront⟩
    simpa [hfront] using h
  · intro h hne
    simpa using h _ (List.getLast?_eq_some_getLast hne)

theorem getLast_behind (hblank : NotBlank line) :
    (Behind line).getLast? =
      ((Behind line).dropWhile Pattern.IsSpace).getLast? := by
  have hbehind : Behind line = (Behind line).takeWhile Pattern.IsSpace ++
      (Behind line).dropWhile Pattern.IsSpace :=
    List.takeWhile_append_dropWhile.symm
  conv_lhs => rw [hbehind]
  exact List.getLast?_append_of_ne_nil _ hblank

theorem notBlank_of_endsInText (h : EndsInText line) : NotBlank line := by
  rcases h with ⟨_, b, hlast, hspace⟩
  intro hblank
  have hb := List.dropWhile_eq_nil_iff.mp hblank b
    (List.mem_of_getLast? hlast)
  rw [hspace] at hb
  cases hb

theorem cut_line {rest : List Byte}
    (hline : forall b, b ∈ line -> Pattern.IsLineChar b = true) :
    Cut kCRLF (line ++ kCRLF ++ rest) = some (line, rest) := by
  apply (cut_eq_some kCRLF_ne_nil).mpr
  refine ⟨rfl, ends_of_not_mem ?_⟩
  intro hmem
  have hreturn : Pattern.IsLineChar 13 = true := hline 13 hmem
  revert hreturn
  decide

theorem iteration_header (receiveTime : Timestamp) (request : HttpRequest)
    {buf : Buffer} {rest : List Byte}
    (hcolon : (58 : Byte) ∈ line) (hfield : Field line ≠ [])
    (hline : forall b, b ∈ line -> Pattern.IsLineChar b = true)
    (hblank : NotBlank line) (hbuf : buf.Readable = line ++ kCRLF ++ rest) :
    exists next : Buffer, next.Readable = rest ∧
      Iteration receiveTime ⟨true, true, ⟨request, kExpectHeaders⟩, buf⟩ =
        Except.ok ⟨true, true, ⟨request.AddHeader (Field line)
          ((Behind line).dropWhile Pattern.IsSpace), kExpectHeaders⟩,
          next⟩ := by
  have hcut : Cut kCRLF buf.Readable = some (line, rest) := by
    rw [hbuf]
    exact cut_line hline
  rcases iteration_line receiveTime request hcut with
    ⟨next, hreadable, hiteration⟩
  rcases fullMatch_eq hcolon hfield hline hblank with
    ⟨m, hmatch, hkey, hvalue⟩
  simp only [hmatch, hkey, hvalue] at hiteration
  exact ⟨next, hreadable, hiteration⟩

theorem iteration_no_field {request : HttpRequest} {buf : Buffer}
    {rest : List Byte} (receiveTime : Timestamp)
    (hcolon : (58 : Byte) ∈ line) (hfield : Field line = [])
    (hline : forall b, b ∈ line -> Pattern.IsLineChar b = true)
    (hbuf : buf.Readable = line ++ kCRLF ++ rest) :
    Iteration receiveTime ⟨true, true, ⟨request, kExpectHeaders⟩, buf⟩ =
      Except.ok ⟨false, false, ⟨request, kExpectHeaders⟩, buf⟩ := by
  have hcut : Cut kCRLF buf.Readable = some (line, rest) := by
    rw [hbuf]
    exact cut_line hline
  rcases iteration_line receiveTime request hcut with
    ⟨next, _, hiteration⟩
  rw [fullMatch_of_no_field hcolon hfield] at hiteration
  simpa [List.ne_nil_of_mem hcolon] using hiteration

theorem endsInText_of_pathsAgree {request : HttpRequest}
    (hline : forall b, b ∈ line -> Pattern.IsLineChar b = true)
    (hcolon : (58 : Byte) ∈ line) (h : PathsAgree request line) :
    EndsInText line := by
  have hblank : NotBlank line := by
    by_contra hblank
    have hpointer := h.pointer
    rw [addHeaderAt_blank request hcolon hblank] at hpointer
    cases hpointer
  let buf := (Buffer.New 0).Append (line ++ kCRLF)
  have hbuf : buf.Readable = line ++ kCRLF ++ [] := by simp [buf]
  rcases h.regex 0 buf [] hbuf with ⟨next, _, hnext⟩
  have hfield : Field line ≠ [] := by
    intro hfield
    rw [iteration_no_field 0 hcolon hfield hline hbuf] at hnext
    cases hnext
  rcases iteration_header 0 request hcolon hfield hline hblank hbuf with
    ⟨other, _, hother⟩
  rw [hnext] at hother
  have hheaders : (request.AddHeader (Field line) (Value line)).headers_ =
      (request.AddHeader (Field line)
        ((Behind line).dropWhile Pattern.IsSpace)).headers_ := by
    injection hother with hother
    injection hother with _ _ hcontext _
    injection hcontext with hrequest
    rw [hrequest]
  have hlast := value_eq_iff.mp (OrderedMap.assign_injective hheaders)
  rw [<- getLast_behind hblank] at hlast
  refine ⟨hfield, ?_⟩
  cases hsome : (Behind line).getLast? with
  | none =>
      rw [getLast_behind hblank, List.getLast?_eq_none_iff] at hsome
      exact absurd hsome hblank
  | some b => exact ⟨b, rfl, hlast b hsome⟩

/--
For a line without the end of a line in it: the two ways agree exactly when the
colon has a field before it and, behind it, a text that does not end in
whitespace.
-/
theorem pathsAgree_iff (request : HttpRequest)
    (hline : forall b, b ∈ line -> Pattern.IsLineChar b = true)
    (hcolon : exists i, 0 < i ∧ (line)[i]? = some 58) :
    PathsAgree request line <-> EndsInText line := by
  rcases hcolon with ⟨i, _, hi⟩
  have hcolon : (58 : Byte) ∈ line := List.mem_of_getElem? hi
  constructor
  · exact endsInText_of_pathsAgree hline hcolon
  · intro h
    have hblank := notBlank_of_endsInText h
    rcases h with ⟨hfield, b, hlast, hspace⟩
    have hvalue : Value line =
        (Behind line).dropWhile Pattern.IsSpace := by
      apply value_eq_iff.mpr
      intro c hc
      rw [<- getLast_behind hblank, hlast, Option.some.injEq] at hc
      rw [<- hc]
      exact hspace
    constructor
    · rw [hvalue]
      exact addHeaderAt_eq request hcolon hblank
    · intro receiveTime buf rest hbuf
      rw [hvalue]
      exact iteration_header receiveTime request hcolon hfield hline hblank hbuf

theorem pathsAgree_host :
    PathsAgree HttpRequest.New (Ascii "Host: a:80") := by
  apply (pathsAgree_iff HttpRequest.New ?_ ?_).mpr
  · exact ⟨by decide +kernel, 48, by decide +kernel, by decide⟩
  · decide +kernel
  · exact ⟨4, by decide, by decide +kernel⟩

/-- A field without a value. -/
theorem not_pathsAgree_of_empty_value :
    ¬PathsAgree HttpRequest.New (Ascii "Accept:") := by
  intro h
  have hpointer := h.pointer
  have hblank : HttpRequest.New.AddHeaderAt (Ascii "Accept:")
      (Colon (Ascii "Accept:")) = Except.error Failure.danglingPointer :=
    addHeaderAt_blank HttpRequest.New (by decide +kernel)
      (not_not.mpr (by decide +kernel))
  rw [hblank] at hpointer
  cases hpointer

end HeaderLine
end Net
end Wethands
