import Wethands.Foundation.Regex

/-!
# The way that a matcher tries first

Where the first way to go on is never given up, the captures can be read off
the text.  A repetition takes the whole run of symbols that it accepts.
-/

namespace Wethands
namespace Foundation

variable {α : Type}

/-!
# Runs
-/

def Stops (p : α -> Bool) (text : List α) : Prop :=
  forall a, text.head? = some a -> p a = false

theorem stops_nil (p : α -> Bool) : Stops p [] := by
  intro a ha
  cases ha

theorem stops_append {p : α -> Bool} {first second : List α}
    (hfirst : forall a, a ∈ first -> p a = false)
    (hsecond : first = [] -> Stops p second) : Stops p (first ++ second) := by
  cases first with
  | nil => exact hsecond rfl
  | cons b first =>
      intro a ha
      rw [List.cons_append, List.head?_cons, Option.some.injEq] at ha
      rw [← ha]
      exact hfirst b List.mem_cons_self

theorem stops_dropWhile (p : α -> Bool) (text : List α) :
    Stops p (text.dropWhile p) := by
  intro a ha
  have hnot := List.head?_dropWhile_not p text
  rw [ha] at hnot
  exact hnot

theorem run_unique {p : α -> Bool} {run run' rest rest' : List α}
    (hrun : forall a, a ∈ run -> p a = true) (hstops : Stops p rest)
    (hrun' : forall a, a ∈ run' -> p a = true) (hstops' : Stops p rest')
    (h : run ++ rest = run' ++ rest') : run = run' ∧ rest = rest' := by
  induction run generalizing run' with
  | nil =>
      cases run' with
      | nil => exact ⟨rfl, h⟩
      | cons a run' =>
          have hhead : rest.head? = some a := by
            rw [List.nil_append] at h
            rw [h]
            rfl
          have hboth := hstops a hhead
          rw [hrun' a List.mem_cons_self] at hboth
          cases hboth
  | cons a run ih =>
      cases run' with
      | nil =>
          have hhead : rest'.head? = some a := by
            rw [List.nil_append] at h
            rw [← h]
            rfl
          have hboth := hstops' a hhead
          rw [hrun a List.mem_cons_self] at hboth
          cases hboth
      | cons b run' =>
          rw [List.cons_append, List.cons_append, List.cons.injEq] at h
          rcases h with ⟨rfl, htail⟩
          rcases ih (fun c hc => hrun c (List.mem_cons_of_mem _ hc))
            (fun c hc => hrun' c (List.mem_cons_of_mem _ hc)) htail with
            ⟨rfl, hrest⟩
          exact ⟨rfl, hrest⟩

namespace Regex

/-!
# The first result
-/

/-- The first way to match that the matcher tries. -/
def Prefers (r : Regex α) (m last : Matching α) : Prop :=
  (r.Results m).head? = some last

variable {m mid last : Matching α}

theorem prefers_iff {r : Regex α} :
    Prefers r m last <-> exists others, r.Results m = last :: others :=
  List.head?_eq_some_iff

theorem prefers_seq {first second : Regex α} (hfirst : Prefers first m mid)
    (hsecond : Prefers second mid last) :
    Prefers (seq first second) m last := by
  rcases prefers_iff.mp hfirst with ⟨others, hmid⟩
  rcases prefers_iff.mp hsecond with ⟨others', hlast⟩
  rw [prefers_iff, Results, hmid, List.flatMap_cons, hlast]
  exact ⟨_, rfl⟩

theorem prefers_alt_left {first second : Regex α} (h : Prefers first m last) :
    Prefers (alt first second) m last := by
  rcases prefers_iff.mp h with ⟨others, hlast⟩
  rw [prefers_iff, Results, hlast]
  exact ⟨_, rfl⟩

theorem prefers_opt_empty {r : Regex α} (hnone : r.Results m = []) :
    Prefers (Opt r) m m := by
  rw [Prefers, Opt, Results, hnone]
  rfl

theorem prefers_group {n : Nat} {body : Regex α} {text : List α}
    (h : Prefers body m last) (htext : m.rest = text ++ last.rest) :
    Prefers (group n body) m (last.Capture n text) := by
  rcases prefers_iff.mp h with ⟨others, hlast⟩
  have htake : m.rest.take (m.rest.length - last.rest.length) = text := by
    rw [htext, List.length_append, Nat.add_sub_cancel, List.take_left]
  rw [prefers_iff, Results, hlast, List.map_cons, htake]
  exact ⟨_, rfl⟩

theorem results_one_of_stops {p : α -> Bool} (h : Stops p m.rest) :
    (one p).Results m = [] := by
  unfold Results
  split
  · rfl
  · rename_i a rest hrest
    have hno : p a = false := h a (by rw [hrest]; rfl)
    simp [hno]

theorem results_one {p : α -> Bool} {a : α} {rest : List α}
    (hrest : m.rest = a :: rest) (ha : p a = true) :
    (one p).Results m = [{ m with rest := rest }] := by
  unfold Results
  rw [hrest]
  simp [ha]

theorem prefers_one {p : α -> Bool} {a : α} {rest : List α}
    (hrest : m.rest = a :: rest) (ha : p a = true) :
    Prefers (one p) m { m with rest := rest } := by
  rw [Prefers, results_one hrest ha]
  rfl

theorem head_repeat_one {p : α -> Bool} {run rest : List α} {fuel : Nat}
    (hrest : m.rest = run ++ rest) (hrun : forall a, a ∈ run -> p a = true)
    (hstops : Stops p rest) (hfuel : run.length ≤ fuel) :
    (Repeat (one p).Results fuel m).head? = some { m with rest := rest } := by
  induction run generalizing m fuel with
  | nil =>
      rw [List.nil_append] at hrest
      subst hrest
      cases fuel with
      | zero => rfl
      | succ fuel =>
          rw [Repeat, results_one_of_stops hstops]
          rfl
  | cons a run ih =>
      cases fuel with
      | zero => exact absurd hfuel (Nat.not_succ_le_zero _)
      | succ fuel =>
          rw [List.cons_append] at hrest
          have hmore : (Repeat (one p).Results fuel
              { m with rest := run ++ rest }).head? =
                some { m with rest := rest } :=
            ih rfl (fun b hb => hrun b (List.mem_cons_of_mem _ hb))
              (Nat.le_of_succ_le_succ hfuel)
          rw [Repeat, results_one hrest (hrun a List.mem_cons_self),
            List.filter_cons_of_pos (by simp [hrest]), List.filter_nil,
            List.flatMap_singleton, List.head?_append, hmore, Option.some_or]

theorem prefers_star {p : α -> Bool} {run rest : List α}
    (hrest : m.rest = run ++ rest) (hrun : forall a, a ∈ run -> p a = true)
    (hstops : Stops p rest) :
    Prefers (star (one p)) m { m with rest := rest } := by
  apply head_repeat_one hrest hrun hstops
  rw [hrest, List.length_append]
  exact Nat.le_add_right _ _

theorem prefers_plus {p : α -> Bool} {run rest : List α} (hne : run ≠ [])
    (hrest : m.rest = run ++ rest) (hrun : forall a, a ∈ run -> p a = true)
    (hstops : Stops p rest) :
    Prefers (Plus (one p)) m { m with rest := rest } := by
  cases run with
  | nil => exact absurd rfl hne
  | cons a run =>
      apply prefers_seq (prefers_one hrest (hrun a List.mem_cons_self))
      exact prefers_star rfl
        (fun b hb => hrun b (List.mem_cons_of_mem _ hb)) hstops

/-!
# Words and choices
-/

theorem prefers_word [DecidableEq α] {word rest : List α}
    (hrest : m.rest = word ++ rest) :
    Prefers (Word word) m { m with rest := rest } := by
  induction word generalizing m with
  | nil =>
      rw [List.nil_append] at hrest
      subst hrest
      rfl
  | cons a word ih =>
      apply prefers_seq (prefers_one hrest (decide_eq_true rfl))
      exact ih rfl

theorem results_word_eq_nil [DecidableEq α] {word : List α}
    (h : ¬word <+: m.rest) : (Word word).Results m = [] := by
  rw [List.eq_nil_iff_forall_not_mem]
  intro last hlast
  rcases results_sound hlast with ⟨text, htext, hrest⟩
  rw [mem_denotes_word.mp htext] at hrest
  exact h ⟨last.rest, hrest.symm⟩

theorem results_choice (first : Regex α) (others : List (Regex α))
    (m : Matching α) : (Choice first others).Results m =
      (first :: others).flatMap (fun r => r.Results m) := by
  induction others generalizing first with
  | nil => simp [Choice]
  | cons second others ih =>
      show (Choice (alt first second) others).Results m = _
      rw [ih, List.flatMap_cons, Results, List.flatMap_cons, List.flatMap_cons,
        List.append_assoc]

/-- An alternative is tried after those before it have failed. -/
theorem prefers_choice {first r : Regex α} {others before after :
      List (Regex α)}
    (hsplit : first :: others = before ++ r :: after)
    (hbefore : forall q, q ∈ before -> q.Results m = [])
    (h : Prefers r m last) : Prefers (Choice first others) m last := by
  rcases prefers_iff.mp h with ⟨rest, hlast⟩
  have hnone : before.flatMap (fun q => q.Results m) = [] :=
    List.flatMap_eq_nil_iff.mpr hbefore
  rw [prefers_iff, results_choice, hsplit, List.flatMap_append, hnone,
    List.nil_append, List.flatMap_cons, hlast]
  exact ⟨_, rfl⟩

theorem fullMatch_of_prefers {r : Regex α} {text : List α}
    (h : Prefers r (Matching.Start text) last) (hend : last.rest = []) :
    r.FullMatch text = some last.captures := by
  rcases prefers_iff.mp h with ⟨others, hlast⟩
  simp [FullMatch, hlast, hend]

end Regex
end Foundation
end Wethands
