import Mathlib.Data.List.Pairwise
import Mathlib.Order.Defs.Unbundled

/-!
# Sets ordered by a comparison

A set in the sense of a sorted container: it is given a comparison, keeps its
elements in that order, and takes two elements for the same one when neither
comes before the other.
-/

namespace Wethands
namespace Foundation

structure OrderedSet {α : Type} (lt : α -> α -> Prop) where
  elems : List α
  sorted : elems.Pairwise lt

namespace OrderedSet

instance {α : Type} {lt : α -> α -> Prop} [DecidableEq α] :
    DecidableEq (OrderedSet lt) := fun s t =>
  decidable_of_iff (s.elems = t.elems) (by
    rcases s with ⟨elems, _⟩
    rcases t with ⟨elems', _⟩
    rw [mk.injEq])

variable {α : Type} {lt : α -> α -> Prop}

instance : Membership α (OrderedSet lt) where
  mem s a := a ∈ s.elems

theorem mem_def {s : OrderedSet lt} {a : α} : a ∈ s <-> a ∈ s.elems := Iff.rfl

def Empty (lt : α -> α -> Prop) : OrderedSet lt where
  elems := []
  sorted := List.Pairwise.nil

def Equivalent (lt : α -> α -> Prop) (a b : α) : Prop :=
  ¬lt a b ∧ ¬lt b a

instance [DecidableRel lt] (a b : α) : Decidable (Equivalent lt a b) :=
  inferInstanceAs (Decidable (_ ∧ _))

theorem Equivalent.symm {a b : α} (h : Equivalent lt a b) :
    Equivalent lt b a :=
  ⟨h.2, h.1⟩

theorem Equivalent.trans [IsStrictWeakOrder α lt] {a b c : α}
    (hab : Equivalent lt a b) (hbc : Equivalent lt b c) : Equivalent lt a c :=
  IsStrictWeakOrder.incomp_trans a b c hab hbc

theorem eq_of_equivalent {s : OrderedSet lt} {a b : α} (ha : a ∈ s)
    (hb : b ∈ s) (h : Equivalent lt a b) : a = b := by
  have hsymm : Std.Symm (fun a b => lt a b ∨ lt b a) := ⟨fun _ _ => Or.symm⟩
  have hordered : s.elems.Pairwise (fun a b => lt a b ∨ lt b a) :=
    s.sorted.imp Or.inl
  by_contra hne
  rcases hordered.forall ha hb hne with hab | hba
  · exact h.1 hab
  · exact h.2 hba

section Operations

variable [DecidableRel lt]

def Find (s : OrderedSet lt) (a : α) : Option α :=
  s.elems.find? (fun b => decide (Equivalent lt b a))

def Erase (s : OrderedSet lt) (a : α) : OrderedSet lt where
  elems := s.elems.filter (fun b => decide (¬Equivalent lt b a))
  sorted := s.sorted.filter _

/-- The elements before `a`, in order. -/
def Before (s : OrderedSet lt) (a : α) : List α :=
  s.elems.filter (fun b => decide (lt b a))

/-- What is left when the elements before `a` are taken out. -/
def EraseBefore (s : OrderedSet lt) (a : α) : OrderedSet lt where
  elems := s.elems.filter (fun b => decide (¬lt b a))
  sorted := s.sorted.filter _

theorem sorted_insert [IsStrictWeakOrder α lt] (s : OrderedSet lt) (a : α) :
    (s.elems.filter (fun b => decide (lt b a)) ++
      a :: s.elems.filter (fun b => decide (lt a b))).Pairwise lt := by
  rw [List.pairwise_append, List.pairwise_cons]
  refine ⟨s.sorted.filter _, ⟨?_, s.sorted.filter _⟩, ?_⟩
  · intro b hb
    simpa using (List.mem_filter.mp hb).2
  · intro b hb c hc
    have hba : lt b a := by simpa using (List.mem_filter.mp hb).2
    rcases List.mem_cons.mp hc with rfl | hc
    · exact hba
    · have hac : lt a c := by simpa using (List.mem_filter.mp hc).2
      exact IsTrans.trans b a c hba hac

def Insert [IsStrictWeakOrder α lt] (s : OrderedSet lt) (a : α) :
    OrderedSet lt × Bool :=
  match s.Find a with
  | some _ => (s, false)
  | none => (⟨_, sorted_insert s a⟩, true)

/-!
# Lookup
-/

theorem find_eq_none {s : OrderedSet lt} {a : α} :
    s.Find a = none <-> forall b, b ∈ s -> ¬Equivalent lt b a := by
  simp [Find, mem_def]

theorem find_eq_some {s : OrderedSet lt} {a b : α} (h : s.Find a = some b) :
    b ∈ s ∧ Equivalent lt b a :=
  ⟨List.mem_of_find?_eq_some h, by simpa using List.find?_some h⟩

/-!
# Membership after each operation
-/

theorem insert_of_find_none [IsStrictWeakOrder α lt] {s : OrderedSet lt} {a : α}
    (h : s.Find a = none) :
    (s.Insert a).2 = true ∧ (s.Insert a).1.elems =
      s.elems.filter (fun b => decide (lt b a)) ++
        a :: s.elems.filter (fun b => decide (lt a b)) := by
  simp [Insert, h]

theorem mem_insert [IsStrictWeakOrder α lt] {s : OrderedSet lt} {a b : α}
    (h : s.Find a = none) : b ∈ (s.Insert a).1 <-> b = a ∨ b ∈ s := by
  rw [mem_def, (insert_of_find_none h).2]
  constructor
  · intro hb
    rcases List.mem_append.mp hb with hbefore | hrest
    · exact Or.inr (List.mem_filter.mp hbefore).1
    · rcases List.mem_cons.mp hrest with heq | hafter
      · exact Or.inl heq
      · exact Or.inr (List.mem_filter.mp hafter).1
  · rintro (rfl | hb)
    · simp
    · have hne : ¬Equivalent lt b a := find_eq_none.mp h b hb
      have hcase : lt b a ∨ lt a b := by
        by_contra hnone
        exact hne (not_or.mp hnone)
      rcases hcase with hba | hab
      · exact List.mem_append.mpr
          (Or.inl (List.mem_filter.mpr ⟨hb, by simpa using hba⟩))
      · exact List.mem_append.mpr (Or.inr (List.mem_cons.mpr
          (Or.inr (List.mem_filter.mpr ⟨hb, by simpa using hab⟩))))

theorem mem_erase {s : OrderedSet lt} {a b : α} :
    b ∈ s.Erase a <-> b ∈ s ∧ ¬Equivalent lt b a := by
  simp [mem_def, Erase]

theorem mem_before {s : OrderedSet lt} {a b : α} :
    b ∈ s.Before a <-> b ∈ s ∧ lt b a := by
  simp [mem_def, Before]

theorem mem_eraseBefore {s : OrderedSet lt} {a b : α} :
    b ∈ s.EraseBefore a <-> b ∈ s ∧ ¬lt b a := by
  simp [mem_def, EraseBefore]

theorem insert_perm [IsStrictWeakOrder α lt] {s : OrderedSet lt} {a : α}
    (h : s.Find a = none) : (s.Insert a).1.elems.Perm (a :: s.elems) := by
  have hafter : s.elems.filter (fun b => decide (lt a b)) =
      s.elems.filter (fun b => !decide (lt b a)) := by
    apply List.filter_congr
    intro b hb
    have hne : ¬Equivalent lt b a := find_eq_none.mp h b hb
    by_cases hba : lt b a
    · simp [hba, asymm hba]
    · have hab : lt a b := by
        by_contra hnot
        exact hne ⟨hba, hnot⟩
      simp [hba, hab]
  rw [(insert_of_find_none h).2, hafter]
  exact List.perm_middle.trans
    ((List.filter_append_perm (fun b => decide (lt b a)) s.elems).cons a)

theorem before_append_perm (s : OrderedSet lt) (a : α) :
    (s.Before a ++ (s.EraseBefore a).elems).Perm s.elems := by
  simpa [Before, EraseBefore] using
    List.filter_append_perm (fun b => decide (lt b a)) s.elems

end Operations

/-!
# The first element
-/

theorem elems_eq_nil {s : OrderedSet lt} (h : s.elems.head? = none) {a : α} :
    a ∉ s := by
  simp [mem_def, List.head?_eq_none_iff.mp h]

theorem head_before {s : OrderedSet lt} {first a : α}
    (h : s.elems.head? = some first) (ha : a ∈ s) :
    a = first ∨ lt first a := by
  rcases List.head?_eq_some_iff.mp h with ⟨rest, hrest⟩
  have hsorted := s.sorted
  rw [hrest, List.pairwise_cons] at hsorted
  rw [mem_def, hrest] at ha
  rcases List.mem_cons.mp ha with heq | hmem
  · exact Or.inl heq
  · exact Or.inr (hsorted.1 a hmem)

theorem head_mem {s : OrderedSet lt} {first : α}
    (h : s.elems.head? = some first) : first ∈ s :=
  List.mem_of_head? h

end OrderedSet
end Foundation
end Wethands
