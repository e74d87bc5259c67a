import Mathlib.Data.List.Basic

/-!
# The first occurrence of a pattern

A text is cut at the first occurrence of a pattern.  More text behind a cut
does not move it.
-/

namespace Wethands
namespace Foundation

variable {α : Type} [DecidableEq α]

/--
The position of the first occurrence of a pattern, and the end of the text when
there is none.
-/
def Search (pattern : List α) : List α -> Nat
  | [] => 0
  | head :: rest =>
      if pattern.isPrefixOf (head :: rest) then 0
      else Search pattern rest + 1

def Cut (pattern text : List α) : Option (List α × List α) :=
  let position := Search pattern text
  if position = text.length then none
  else some (text.take position, text.drop (position + pattern.length))

def Ends (pattern before : List α) : Prop :=
  Search pattern (before ++ pattern) = before.length

instance (pattern before : List α) : Decidable (Ends pattern before) :=
  inferInstanceAs (Decidable (_ = _))

variable {pattern before rest text : List α}

theorem isPrefixOf_append_append (front rest : List α) :
    pattern.isPrefixOf (front ++ pattern ++ rest) =
      pattern.isPrefixOf (front ++ pattern) := by
  rw [Bool.eq_iff_iff, List.isPrefixOf_iff_prefix, List.isPrefixOf_iff_prefix]
  constructor
  · intro h
    exact List.prefix_of_prefix_length_le h (List.prefix_append _ _) (by simp)
  · intro h
    exact h.trans (List.prefix_append _ _)

theorem search_append (hne : pattern ≠ []) :
    Search pattern (before ++ pattern ++ rest) =
      Search pattern (before ++ pattern) := by
  induction before with
  | nil =>
      cases pattern with
      | nil => exact absurd rfl hne
      | cons a pattern => simp [Search]
  | cons a before ih =>
      have hfront : pattern.isPrefixOf (a :: (before ++ pattern ++ rest)) =
          pattern.isPrefixOf (a :: (before ++ pattern)) :=
        isPrefixOf_append_append (a :: before) rest
      simp only [List.cons_append]
      rw [Search, Search, hfront, ih]

theorem ends_nil : Ends pattern [] := by
  cases pattern <;> simp [Ends, Search]

theorem search_of_not_mem {a : α} {tail : List α} (h : a ∉ before) :
    Search (a :: tail) (before ++ rest) =
      before.length + Search (a :: tail) rest := by
  induction before with
  | nil => exact (Nat.zero_add _).symm
  | cons b before ih =>
      rcases not_or.mp (mt List.mem_cons.mpr h) with ⟨hne, hrest⟩
      rw [List.cons_append, Search, ih hrest, List.length_cons,
        if_neg (by simp [hne])]
      omega

theorem ends_of_not_mem {a : α} {tail : List α} (h : a ∉ before) :
    Ends (a :: tail) before := by
  rw [Ends, search_of_not_mem h]
  have hfound : Search (a :: tail) (a :: tail) = 0 := by simp [Search]
  rw [hfound, Nat.add_zero]

theorem search_split (h : Search pattern text ≠ text.length) :
    exists before rest, text = before ++ pattern ++ rest ∧
      Ends pattern before ∧ Search pattern text = before.length := by
  induction text with
  | nil => exact absurd rfl h
  | cons head tail ih =>
      rw [Search] at h ⊢
      split
      · rename_i hfront
        rcases List.isPrefixOf_iff_prefix.mp hfront with ⟨rest, hrest⟩
        exact ⟨[], rest, hrest.symm, ends_nil, rfl⟩
      · rename_i hfront
        rw [if_neg hfront, List.length_cons] at h
        rcases ih (fun heq => h (congrArg (· + 1) heq)) with
          ⟨before, rest, rfl, hends, hsearch⟩
        refine ⟨head :: before, rest, rfl, ?_, ?_⟩
        · have hfront : ¬pattern.isPrefixOf (head :: (before ++ pattern)) := by
            have hsame : pattern.isPrefixOf
                (head :: (before ++ pattern ++ rest)) =
                  pattern.isPrefixOf (head :: (before ++ pattern)) :=
              isPrefixOf_append_append (head :: before) rest
            rwa [← hsame]
          show Search pattern (head :: (before ++ pattern)) = _
          rw [Search, if_neg hfront, List.length_cons, hends]
        · rw [hsearch, List.length_cons]

theorem cut_eq_some (hne : pattern ≠ []) :
    Cut pattern text = some (before, rest) <->
      text = before ++ pattern ++ rest ∧ Ends pattern before := by
  unfold Cut
  constructor
  · intro h
    dsimp only at h
    split at h
    · cases h
    · rename_i hfound
      rcases search_split hfound with ⟨front, tail, htext, hends, hsearch⟩
      rw [hsearch, htext, ← List.length_append, List.drop_left,
        List.append_assoc, List.take_left] at h
      cases h
      exact ⟨htext, hends⟩
  · intro hboth
    rcases hboth with ⟨rfl, hends⟩
    have hpos : 0 < pattern.length := List.length_pos_iff.mpr hne
    have hsearch : Search pattern (before ++ pattern ++ rest) =
        before.length := by
      rw [search_append hne, hends]
    rw [hsearch, if_neg]
    · rw [← List.length_append, List.drop_left, List.append_assoc,
        List.take_left]
    · rw [List.length_append, List.length_append]
      omega

theorem cut_append (hne : pattern ≠ []) (more : List α)
    (h : Cut pattern text = some (before, rest)) :
    Cut pattern (text ++ more) = some (before, rest ++ more) := by
  rcases (cut_eq_some hne).mp h with ⟨rfl, hends⟩
  apply (cut_eq_some hne).mpr
  exact ⟨List.append_assoc _ _ _, hends⟩

/-!
# What a search finds
-/

def FirstAt (pattern text : List α) (k : Nat) : Prop :=
  pattern <+: text.drop k ∧ forall j, j < k -> ¬pattern <+: text.drop j

omit [DecidableEq α] in
theorem firstAt_cons {head : α} {k : Nat}
    (h : ¬pattern <+: head :: rest) :
    FirstAt pattern (head :: rest) k <->
      exists j, k = j + 1 ∧ FirstAt pattern rest j := by
  constructor
  · intro hboth
    rcases hboth with ⟨hat, hbefore⟩
    cases k with
    | zero => exact absurd hat h
    | succ k =>
        refine ⟨k, rfl, hat, ?_⟩
        intro j hj
        exact hbefore (j + 1) (Nat.succ_lt_succ hj)
  · intro hexists
    rcases hexists with ⟨k, rfl, hat, hbefore⟩
    refine ⟨hat, ?_⟩
    intro j hj
    cases j with
    | zero => exact h
    | succ j => exact hbefore j (Nat.lt_of_succ_lt_succ hj)

theorem firstAt_iff (hne : pattern ≠ []) {k : Nat} :
    FirstAt pattern text k <->
      Search pattern text = k ∧ k ≠ text.length := by
  induction text generalizing k with
  | nil =>
      constructor
      · intro hpair
        rcases hpair with ⟨hat, _⟩
        rw [List.drop_nil] at hat
        exact absurd (List.prefix_nil.mp hat) hne
      · intro hpair
        rcases hpair with ⟨rfl, hk⟩
        exact absurd rfl hk
  | cons head tail ih =>
      rw [Search]
      by_cases hfront : pattern <+: head :: tail
      · rw [if_pos (List.isPrefixOf_iff_prefix.mpr hfront)]
        constructor
        · intro hboth
          rcases hboth with ⟨_, hbefore⟩
          cases k with
          | zero => exact ⟨rfl, (Nat.succ_ne_zero _).symm⟩
          | succ k => exact absurd hfront (hbefore 0 (Nat.succ_pos k))
        · intro hpair
          rcases hpair with ⟨rfl, _⟩
          exact ⟨hfront, fun j hj => absurd hj (Nat.not_lt_zero j)⟩
      · rw [if_neg (mt List.isPrefixOf_iff_prefix.mp hfront),
          firstAt_cons hfront, List.length_cons]
        constructor
        · intro hexists
          rcases hexists with ⟨j, rfl, hfirst⟩
          rcases ih.mp hfirst with ⟨hsearch, hj⟩
          exact ⟨congrArg (· + 1) hsearch, fun heq => hj (by omega)⟩
        · intro hpair
          rcases hpair with ⟨rfl, hk⟩
          refine ⟨Search pattern tail, rfl, ih.mpr ⟨rfl, ?_⟩⟩
          intro heq
          exact hk (congrArg (· + 1) heq)

theorem search_eq_length_iff (hne : pattern ≠ []) :
    Search pattern text = text.length <->
      forall j, ¬pattern <+: text.drop j := by
  constructor
  · intro h j hj
    induction j using Nat.strongRecOn with
    | ind j ih =>
        have hfirst : FirstAt pattern text j := ⟨hj, ih⟩
        rcases (firstAt_iff hne).mp hfirst with ⟨hsearch, hlen⟩
        exact hlen (hsearch.symm.trans h)
  · intro h
    by_contra hfound
    have hfirst := (firstAt_iff hne).mpr ⟨rfl, hfound⟩
    exact h _ hfirst.1

end Foundation
end Wethands
