import Mathlib.Data.List.Basic

/-!
# Slices of a block of memory

A block is a list of cells.  A slice is given by two positions, and a copy
overwrites as many cells as it brings.
-/

namespace Wethands
namespace Foundation

variable {α : Type}

/-- The cells from position `i` up to position `j`. -/
def Slice (block : List α) (i j : Nat) : List α :=
  (block.drop i).take (j - i)

def Overwrite (block : List α) (i : Nat) (cells : List α) : List α :=
  block.take i ++ cells ++ block.drop (i + cells.length)

@[simp] theorem slice_self (block : List α) (i : Nat) :
    Slice block i i = [] := by
  simp [Slice]

@[simp] theorem length_slice {block : List α} {i j : Nat}
    (hj : j ≤ block.length) : (Slice block i j).length = j - i := by
  simp only [Slice, List.length_take, List.length_drop]
  omega

theorem length_overwrite (block cells : List α) {i : Nat}
    (h : i + cells.length ≤ block.length) :
    (Overwrite block i cells).length = block.length := by
  simp only [Overwrite, List.length_append, List.length_take,
    List.length_drop]
  omega

theorem slice_drop (block : List α) (i n j : Nat) :
    Slice block (i + n) j = (Slice block i j).drop n := by
  rw [Slice, Slice, List.drop_take, List.drop_drop, Nat.sub_sub]

theorem slice_append {block extra : List α} {i j : Nat}
    (hi : i ≤ j) (hj : j ≤ block.length) :
    Slice (block ++ extra) i j = Slice block i j := by
  have hskip : i ≤ block.length := Nat.le_trans hi hj
  rw [Slice, Slice, List.drop_append_of_le_length hskip,
    List.take_append_of_le_length]
  rw [List.length_drop]
  omega

/-- A slice that ends with a copy is the slice before it and the copy. -/
theorem slice_overwrite {block : List α} (cells : List α) {i j : Nat}
    (hi : i ≤ j) (hj : j ≤ block.length) :
    Slice (Overwrite block j cells) i (j + cells.length) =
      Slice block i j ++ cells := by
  have htake : (block.take j).length = j := by
    rw [List.length_take]
    omega
  have hdrop : (Overwrite block j cells).drop i =
      ((block.take j).drop i ++ cells) ++ block.drop (j + cells.length) := by
    rw [Overwrite, List.drop_append_of_le_length, List.drop_append_of_le_length]
    · omega
    · rw [List.length_append]
      omega
  have hlength : ((block.take j).drop i ++ cells).length =
      j + cells.length - i := by
    rw [List.length_append, List.length_drop]
    omega
  have hslice : (block.take j).drop i = Slice block i j := by
    rw [Slice, List.drop_take]
  rw [Slice, hdrop, ← hlength, List.take_left, hslice]

theorem slice_overwrite_front {block : List α} (cells : List α) {i j : Nat}
    (hi : cells.length ≤ i) (hij : i ≤ j) (hj : j ≤ block.length) :
    Slice (Overwrite block (i - cells.length) cells) (i - cells.length) j =
      cells ++ Slice block i j := by
  have htake : (block.take (i - cells.length)).length = i - cells.length := by
    rw [List.length_take]
    omega
  have hdrop : (Overwrite block (i - cells.length) cells).drop
      (i - cells.length) = cells ++ block.drop i := by
    have hskip : i - cells.length + cells.length = i := by omega
    rw [Overwrite, hskip, List.append_assoc]
    exact List.drop_left' htake
  have hlength : j - (i - cells.length) = cells.length + (j - i) := by omega
  rw [Slice, hdrop, hlength, List.take_length_add_append, Slice]

theorem slice_take (block : List α) {i j n : Nat} (hn : n ≤ j - i) :
    Slice block i (j - n) = (Slice block i j).take (j - i - n) := by
  rw [Slice, Slice, List.take_take]
  congr 1
  omega

/-!
# Copies inside of a block
-/

/-- A position that `n` cells from `i` on and `n` cells from `j` on share. -/
def Overlap (i j n : Nat) : Prop :=
  exists k, (i ≤ k ∧ k < i + n) ∧ j ≤ k ∧ k < j + n

theorem overlap_iff {i j n : Nat} :
    Overlap i j n <-> 0 < n ∧ i < j + n ∧ j < i + n := by
  constructor
  · intro hexists
    rcases hexists with ⟨k, ⟨hi, hi'⟩, hj, hj'⟩
    omega
  · intro hbounds
    rcases Nat.le_total i j with hle | hle
    · exact ⟨j, ⟨hle, hbounds.2.2⟩, Nat.le_refl j, by omega⟩
    · exact ⟨i, ⟨Nat.le_refl i, by omega⟩, hle, hbounds.2.1⟩

/-- A copy to the front is clear of its source when it goes far enough. -/
theorem not_overlap_iff_of_lt {i j n : Nat} (h : j < i) :
    ¬Overlap i j n <-> n = 0 ∨ j + n ≤ i := by
  rw [overlap_iff]
  omega

end Foundation
end Wethands
