import Wethands.Net.Buffer

/-!
# Lines

A line ends with CRLF.  A text of lines can be cut in one way only, and a blank
line ends it.
-/

namespace Wethands
namespace Net

open Foundation Buffer

def LineBytes (lines : List (List Byte)) : List Byte :=
  lines.flatMap fun line => line ++ kCRLF

@[simp] theorem lineBytes_nil : LineBytes [] = [] := rfl

@[simp] theorem lineBytes_cons (line : List Byte) (lines : List (List Byte)) :
    LineBytes (line :: lines) = line ++ kCRLF ++ LineBytes lines := rfl

@[simp] theorem lineBytes_append (first second : List (List Byte)) :
    LineBytes (first ++ second) = LineBytes first ++ LineBytes second :=
  List.flatMap_append

def AreLines (lines : List (List Byte)) (text : List Byte) : Prop :=
  text = LineBytes lines ∧ forall line, line ∈ lines -> Ends kCRLF line

theorem AreLines.append {first second : List (List Byte)}
    {text more : List Byte} (h : AreLines first text)
    (hmore : AreLines second more) :
    AreLines (first ++ second) (text ++ more) := by
  constructor
  · rw [h.1, hmore.1, lineBytes_append]
  · intro line hline
    rcases List.mem_append.mp hline with hfirst | hsecond
    · exact h.2 line hfirst
    · exact hmore.2 line hsecond

theorem AreLines.unique {lines others : List (List Byte)} {text : List Byte}
    (h : AreLines lines text) (hother : AreLines others text) :
    lines = others := by
  induction lines generalizing others text with
  | nil =>
      cases others with
      | nil => rfl
      | cons other others =>
          have hsame := h.1.symm.trans hother.1
          simp [kCRLF] at hsame
  | cons line lines ih =>
      cases others with
      | nil =>
          have hsame := h.1.symm.trans hother.1
          simp [kCRLF] at hsame
      | cons other others =>
          have hcut : Cut kCRLF text = some (line, LineBytes lines) :=
            (cut_eq_some kCRLF_ne_nil).mpr ⟨h.1, h.2 line (by simp)⟩
          have hcut' : Cut kCRLF text = some (other, LineBytes others) :=
            (cut_eq_some kCRLF_ne_nil).mpr
              ⟨hother.1, hother.2 other (by simp)⟩
          rw [hcut, Option.some.injEq, Prod.mk.injEq] at hcut'
          rcases hcut' with ⟨rfl, hrest⟩
          have hlines : AreLines lines (LineBytes lines) :=
            ⟨rfl, fun l hl => h.2 l (List.mem_cons_of_mem _ hl)⟩
          have hothers : AreLines others (LineBytes lines) :=
            ⟨hrest, fun l hl => hother.2 l (List.mem_cons_of_mem _ hl)⟩
          rw [ih hlines hothers]

/-!
# The blank line
-/

def kBlankLine : List Byte := kCRLF ++ kCRLF

theorem kBlankLine_ne_nil : kBlankLine ≠ [] := List.cons_ne_nil _ _

/-- Not blank, and without the byte that starts the end of a line. -/
def Plain (line : List Byte) : Prop := line ≠ [] ∧ (13 : Byte) ∉ line

theorem search_crlf {b : Byte} {text : List Byte} (hb : b ≠ 13) :
    Search kBlankLine (kCRLF ++ b :: text) =
      2 + Search kBlankLine (b :: text) := by
  have hfirst : kBlankLine.isPrefixOf (13 :: 10 :: b :: text) = false := by
    simp [kBlankLine, kCRLF, List.isPrefixOf, Ne.symm hb]
  have hsecond : kBlankLine.isPrefixOf (10 :: b :: text) = false := by
    simp [kBlankLine, kCRLF, List.isPrefixOf]
  show Search kBlankLine (13 :: 10 :: b :: text) = _
  rw [Search, hfirst, Search, hsecond]
  simp only [Bool.false_eq_true, if_false]
  omega

theorem Plain.cons_append {line : List Byte} (h : Plain line)
    (more : List Byte) : exists b text, b ≠ 13 ∧ line ++ more = b :: text := by
  cases line with
  | nil => exact absurd rfl h.1
  | cons b line =>
      refine ⟨b, line ++ more, ?_, rfl⟩
      rintro rfl
      exact h.2 List.mem_cons_self

theorem ends_lines {front : List (List Byte)} {line : List Byte}
    (hfront : forall other, other ∈ front -> Plain other)
    (hline : Plain line) :
    Ends kBlankLine (LineBytes front ++ line) := by
  induction front with
  | nil => exact ends_of_not_mem hline.2
  | cons other front ih =>
      have hother : Plain other := hfront other List.mem_cons_self
      have hfront' : forall l, l ∈ front -> Plain l :=
        fun l hl => hfront l (List.mem_cons_of_mem _ hl)
      have hstart : exists b text, b ≠ 13 ∧
          LineBytes front ++ line ++ kBlankLine = b :: text := by
        cases front with
        | nil => exact hline.cons_append kBlankLine
        | cons next front =>
            rw [lineBytes_cons, List.append_assoc, List.append_assoc,
              List.append_assoc]
            exact (hfront' next List.mem_cons_self).cons_append _
      rcases hstart with ⟨b, text, hb, htext⟩
      have hrest : Search kBlankLine (b :: text) =
          (LineBytes front ++ line).length := by
        rw [<- htext]
        exact ih hfront'
      calc Search kBlankLine (LineBytes (other :: front) ++ line ++ kBlankLine)
          = Search kBlankLine (other ++ (kCRLF ++ b :: text)) := by
            rw [<- htext]
            simp only [lineBytes_cons, List.append_assoc]
        _ = other.length + Search kBlankLine (kCRLF ++ b :: text) :=
            search_of_not_mem hother.2
        _ = other.length + (2 + (LineBytes front ++ line).length) := by
            rw [search_crlf hb, hrest]
        _ = (LineBytes (other :: front) ++ line).length := by
            have hcrlf : kCRLF.length = 2 := rfl
            simp only [lineBytes_cons, List.length_append, hcrlf]
            omega

theorem cut_blankLine {lines : List (List Byte)} (hne : lines ≠ [])
    (hlines : forall line, line ∈ lines -> Plain line) (rest : List Byte) :
    exists head, head ++ kCRLF = LineBytes lines ∧
      Cut kBlankLine (LineBytes lines ++ kCRLF ++ rest) =
        some (head, rest) := by
  rcases List.eq_nil_or_concat' lines with hnil | ⟨front, line, rfl⟩
  · exact absurd hnil hne
  · have hends : Ends kBlankLine (LineBytes front ++ line) := by
      apply ends_lines
      · intro other hother
        exact hlines other (List.mem_append_left _ hother)
      · exact hlines line (by simp)
    refine ⟨LineBytes front ++ line, by simp, ?_⟩
    apply (cut_eq_some kBlankLine_ne_nil).mpr
    exact ⟨by simp [kBlankLine], hends⟩

end Net
end Wethands
