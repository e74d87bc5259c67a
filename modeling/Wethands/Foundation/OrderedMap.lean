import Wethands.Foundation.OrderedSet

/-!
# Maps ordered by a comparison of their keys

A map is a set of pairs that are compared by their keys alone.
-/

namespace Wethands
namespace Foundation

variable {κ ν : Type} {lt : κ -> κ -> Prop}

def ByKey (ν : Type) (lt : κ -> κ -> Prop) (a b : κ × ν) : Prop := lt a.1 b.1

instance [DecidableRel lt] : DecidableRel (ByKey ν lt) :=
  fun a b => inferInstanceAs (Decidable (lt a.1 b.1))

instance [IsStrictWeakOrder κ lt] : IsStrictWeakOrder (κ × ν) (ByKey ν lt) where
  irrefl a := irrefl_of lt a.1
  trans a b c := trans_of lt (a := a.1) (b := b.1) (c := c.1)
  incomp_trans a b c := IsStrictWeakOrder.incomp_trans a.1 b.1 c.1

abbrev OrderedMap (ν : Type) (lt : κ -> κ -> Prop) : Type :=
  OrderedSet (ByKey ν lt)

namespace OrderedMap

variable [DecidableRel lt]

def Assign [IsStrictWeakOrder κ lt] (m : OrderedMap ν lt) (key : κ)
    (value : ν) : OrderedMap ν lt :=
  ((m.Erase (key, value)).Insert (key, value)).1

def Remove (m : OrderedMap ν lt) (key : κ) : OrderedMap ν lt where
  elems := m.elems.filter
    (fun entry => decide (¬OrderedSet.Equivalent lt entry.1 key))
  sorted := m.sorted.filter _

def Lookup (m : OrderedMap ν lt) (key : κ) : Option ν :=
  (m.elems.find? (fun entry =>
    decide (OrderedSet.Equivalent lt entry.1 key))).map Prod.snd

theorem mem_assign [IsStrictWeakOrder κ lt] {m : OrderedMap ν lt} {key : κ}
    {value : ν} {entry : κ × ν} : entry ∈ Assign m key value <->
      entry = (key, value) ∨
        entry ∈ m ∧ ¬OrderedSet.Equivalent lt entry.1 key := by
  have hnone : (m.Erase (key, value)).Find (key, value) = none :=
    OrderedSet.find_eq_none.mpr (fun b hb => (OrderedSet.mem_erase.mp hb).2)
  rw [Assign, OrderedSet.mem_insert hnone, OrderedSet.mem_erase]
  rfl

theorem assign_injective [IsStrictWeakOrder κ lt] {m : OrderedMap ν lt}
    {key : κ} {value value' : ν}
    (h : Assign m key value = Assign m key value') : value = value' := by
  have hmem : (key, value) ∈ Assign m key value :=
    mem_assign.mpr (Or.inl rfl)
  rw [h] at hmem
  rcases mem_assign.mp hmem with heq | ⟨_, hne⟩
  · exact congrArg Prod.snd heq
  · exact absurd ⟨irrefl_of lt key, irrefl_of lt key⟩ hne

theorem mem_remove {m : OrderedMap ν lt} {key : κ} {entry : κ × ν} :
    entry ∈ Remove m key <->
      entry ∈ m ∧ ¬OrderedSet.Equivalent lt entry.1 key := by
  simp [OrderedSet.mem_def, Remove]

theorem lookup_eq_some [IsStrictWeakOrder κ lt] {m : OrderedMap ν lt}
    {key : κ} {value : ν} : Lookup m key = some value <->
      exists entry, entry ∈ m ∧ entry.2 = value ∧
        OrderedSet.Equivalent lt entry.1 key := by
  constructor
  · intro h
    rcases Option.map_eq_some_iff.mp h with ⟨entry, hfind, hvalue⟩
    have hkey := List.find?_some hfind
    exact ⟨entry, List.mem_of_find?_eq_some hfind, hvalue,
      of_decide_eq_true hkey⟩
  · intro hentry
    rcases hentry with ⟨entry, hmem, hvalue, hkey⟩
    cases hfind : m.elems.find? (fun entry =>
        decide (OrderedSet.Equivalent lt entry.1 key)) with
    | none =>
        have hnone := List.find?_eq_none.mp hfind entry hmem
        exact absurd (decide_eq_true hkey) hnone
    | some other =>
        have hother := List.find?_some hfind
        have hsame : OrderedSet.Equivalent lt other.1 entry.1 :=
          (of_decide_eq_true hother).trans hkey.symm
        have heq : other = entry := OrderedSet.eq_of_equivalent
          (List.mem_of_find?_eq_some hfind) hmem hsame
        rw [Lookup, hfind, heq, Option.map_some, hvalue]

theorem lookup_assign [IsStrictWeakOrder κ lt] (m : OrderedMap ν lt)
    (key : κ) (value : ν) (other : κ) :
    Lookup (Assign m key value) other =
      if OrderedSet.Equivalent lt key other then some value
      else Lookup m other := by
  ext found
  split
  · rename_i hsame
    rw [lookup_eq_some, Option.some.injEq]
    constructor
    · intro hentry
      rcases hentry with ⟨entry, hmem, hvalue, hkey⟩
      rcases mem_assign.mp hmem with rfl | ⟨_, hnot⟩
      · exact hvalue
      · exact absurd (hkey.trans hsame.symm) hnot
    · intro hvalue
      exact ⟨(key, value), mem_assign.mpr (Or.inl rfl), hvalue, hsame⟩
  · rename_i hdiffer
    rw [lookup_eq_some, lookup_eq_some]
    constructor
    · intro hentry
      rcases hentry with ⟨entry, hmem, hvalue, hkey⟩
      rcases mem_assign.mp hmem with rfl | ⟨hold, _⟩
      · exact absurd hkey hdiffer
      · exact ⟨entry, hold, hvalue, hkey⟩
    · intro hentry
      rcases hentry with ⟨entry, hmem, hvalue, hkey⟩
      refine ⟨entry, mem_assign.mpr (Or.inr ⟨hmem, ?_⟩), hvalue, hkey⟩
      exact fun hsame => hdiffer (hsame.symm.trans hkey)

end OrderedMap
end Foundation
end Wethands
