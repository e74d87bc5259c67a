import Mathlib.Data.Nat.ModEq
import Wethands.Foundation.Fifo
import Wethands.Foundation.Outcome

/-!
# The circular queue

The queue has room for `capacity` elements from the start and grows its vector
up to it; from then on the slots are overwritten.  Its users append only when it
is not full and remove only when it is not empty.
-/

namespace Wethands
namespace Utils

open Foundation

/-- `capacity` is what `vec_` has reserved. -/
structure CircularQueue (T : Type) where
  beginIndex_ : Nat
  endIndex_ : Nat
  size_ : Nat
  count_ : Nat
  vec_ : List T
  capacity : Nat
deriving DecidableEq

namespace CircularQueue

open Fifo (Operation FifoMachine Pending)

variable {T : Type}

def New (T : Type) (maxSize : Nat) : CircularQueue T where
  beginIndex_ := 0
  endIndex_ := 0
  size_ := 0
  count_ := 0
  vec_ := []
  capacity := maxSize

def Empty (queue : CircularQueue T) : Bool := queue.size_ = 0

def Full (queue : CircularQueue T) : Bool := queue.size_ = queue.capacity

def Store (queue : CircularQueue T) (x : T) : Outcome (CircularQueue T) :=
  if queue.count_ < queue.capacity then
    Except.ok { queue with
      vec_ := queue.vec_ ++ [x]
      count_ := queue.count_ + 1 }
  else if queue.endIndex_ < queue.vec_.length then
    Except.ok { queue with vec_ := queue.vec_.set queue.endIndex_ x }
  else Except.error Failure.danglingPointer

def Remainder (n divisor : Nat) : Outcome Nat :=
  if divisor = 0 then Except.error Failure.danglingPointer
  else Except.ok (n % divisor)

def PushBack (queue : CircularQueue T) (x : T) : Outcome (CircularQueue T) :=
  match queue.Store x with
  | Except.error failure => Except.error failure
  | Except.ok queue =>
      match Remainder (queue.endIndex_ + 1) queue.capacity with
      | Except.error failure => Except.error failure
      | Except.ok endIndex =>
          Except.ok { queue with
            endIndex_ := endIndex
            size_ := queue.size_ + 1 }

def PopFront (queue : CircularQueue T) : Outcome (CircularQueue T) :=
  match Remainder (queue.beginIndex_ + 1) queue.capacity with
  | Except.error failure => Except.error failure
  | Except.ok beginIndex =>
      Except.ok { queue with
        beginIndex_ := beginIndex
        size_ := queue.size_ - 1 }

def Front (queue : CircularQueue T) : Option T :=
  queue.vec_[queue.beginIndex_]?

/-!
# The elements of a circular queue

They lie from `beginIndex_` on, around the end of the vector.  As long as the
vector grows nothing has gone around.
-/

structure Holds (queue : CircularQueue T) (xs : List T) : Prop where
  length : queue.vec_.length = queue.count_
  count_le : queue.count_ ≤ queue.capacity
  size : queue.size_ = xs.length
  size_le : xs.length ≤ queue.capacity
  begin_lt : queue.beginIndex_ < queue.capacity
  end_eq : queue.endIndex_ =
    (queue.beginIndex_ + queue.size_) % queue.capacity
  item : forall i x, xs[i]? = some x ->
    queue.vec_[(queue.beginIndex_ + i) % queue.capacity]? = some x
  growing : queue.count_ < queue.capacity ->
    queue.beginIndex_ + queue.size_ = queue.count_

theorem holds_new {maxSize : Nat} (h : 0 < maxSize) :
    Holds (New T maxSize) [] where
  length := rfl
  count_le := Nat.zero_le maxSize
  size := rfl
  size_le := Nat.zero_le maxSize
  begin_lt := h
  end_eq := (Nat.zero_mod maxSize).symm
  item := by simp
  growing := fun _ => rfl

variable {queue : CircularQueue T} {xs : List T}

theorem empty_iff (h : Holds queue xs) : queue.Empty = true <-> xs = [] := by
  rw [Empty, decide_eq_true_iff, h.size, List.length_eq_zero_iff]

theorem full_iff (h : Holds queue xs) :
    queue.Full = true <-> xs.length = queue.capacity := by
  rw [Full, decide_eq_true_iff, h.size]

theorem Holds.capacity_ne_zero (h : Holds queue xs) : queue.capacity ≠ 0 :=
  Nat.ne_zero_of_lt h.begin_lt

theorem remainder_ok {divisor : Nat} (h : divisor ≠ 0) (n : Nat) :
    Remainder n divisor = Except.ok (n % divisor) :=
  if_neg h

theorem length_lt (h : Holds queue xs) (hroom : queue.Full = false) :
    xs.length < queue.capacity := by
  refine Nat.lt_of_le_of_ne h.size_le (fun heq => ?_)
  rw [(full_iff h).mpr heq] at hroom
  cases hroom

theorem place_injective {capacity start i j : Nat} (hi : i < capacity)
    (hj : j < capacity)
    (h : (start + i) % capacity = (start + j) % capacity) : i = j := by
  have hmod : i ≡ j [MOD capacity] := Nat.ModEq.add_left_cancel rfl h
  exact hmod.eq_of_lt_of_lt hi hj

/-- A vector that does not grow any more has a slot to overwrite. -/
theorem end_lt (h : Holds queue xs) (hgrown : queue.capacity ≤ queue.count_) :
    queue.endIndex_ < queue.vec_.length := by
  rw [h.end_eq, h.length]
  have hpositive := Nat.lt_of_le_of_lt (Nat.zero_le _) h.begin_lt
  exact Nat.lt_of_lt_of_le (Nat.mod_lt _ hpositive) hgrown

theorem store_ok (h : Holds queue xs) (x : T) : exists vec count,
      queue.Store x = Except.ok { queue with vec_ := vec, count_ := count } ∧
      vec.length = count ∧ count ≤ queue.capacity ∧
      vec[queue.endIndex_]? = some x ∧
      (forall place, place ≠ queue.endIndex_ -> place < queue.vec_.length ->
        vec[place]? = queue.vec_[place]?) ∧
      (count < queue.capacity ->
        queue.beginIndex_ + xs.length + 1 = count) := by
  have hend := h.end_eq
  rw [h.size] at hend
  unfold Store
  split
  · rename_i hgrows
    have hplace : queue.beginIndex_ + xs.length = queue.count_ := by
      rw [← h.size]
      exact h.growing hgrows
    rw [hplace, Nat.mod_eq_of_lt hgrows, ← h.length] at hend
    refine ⟨queue.vec_ ++ [x], queue.count_ + 1, rfl, ?_, hgrows, ?_, ?_, ?_⟩
    · simp [h.length]
    · simp [hend]
    · intro place _ hlt
      exact List.getElem?_append_left hlt
    · intro _
      rw [hplace]
  · rename_i hfull
    have hlt := end_lt h (Nat.le_of_not_lt hfull)
    rw [if_pos hlt]
    refine ⟨queue.vec_.set queue.endIndex_ x, queue.count_, rfl, ?_,
      h.count_le, ?_, ?_, ?_⟩
    · rw [List.length_set, h.length]
    · exact List.getElem?_set_self hlt
    · intro place hne _
      exact List.getElem?_set_ne hne.symm
    · intro hless
      exact absurd hless hfull

theorem holds_pushBack (h : Holds queue xs) (hroom : queue.Full = false)
    (x : T) : exists next, queue.PushBack x = Except.ok next ∧
      Holds next (xs ++ [x]) ∧ next.capacity = queue.capacity := by
  have hless := length_lt h hroom
  rcases store_ok h x with
    ⟨vec, count, hstore, hlength, hcount, hnew, hold, hgrowing⟩
  have hpush : queue.PushBack x = Except.ok { queue with
      vec_ := vec
      count_ := count
      endIndex_ := (queue.endIndex_ + 1) % queue.capacity
      size_ := queue.size_ + 1 } := by
    rw [PushBack, hstore]
    dsimp only
    rw [remainder_ok h.capacity_ne_zero]
  refine ⟨_, hpush, ?_, rfl⟩
  have hend := h.end_eq
  rw [h.size] at hend
  constructor
  · exact hlength
  · exact hcount
  · simp [h.size]
  · rw [List.length_append]
    exact hless
  · exact h.begin_lt
  · show (queue.endIndex_ + 1) % queue.capacity =
      (queue.beginIndex_ + (queue.size_ + 1)) % queue.capacity
    rw [hend, Nat.mod_add_mod, h.size, Nat.add_assoc]
  · intro i y hy
    rcases Nat.lt_trichotomy i xs.length with hlt | rfl | hgt
    · rw [List.getElem?_append_left hlt] at hy
      have hitem := h.item i y hy
      have hne : (queue.beginIndex_ + i) % queue.capacity ≠
          queue.endIndex_ := by
        rw [hend]
        intro heq
        exact Nat.ne_of_lt hlt
          (place_injective (hlt.trans hless) hless heq)
      exact (hold _ hne (List.getElem?_eq_some_iff.mp hitem).1).trans hitem
    · rw [List.getElem?_concat_length] at hy
      cases hy
      rw [hend] at hnew
      exact hnew
    · rw [List.getElem?_eq_none (by simp; omega)] at hy
      cases hy
  · intro hgrows
    show queue.beginIndex_ + (queue.size_ + 1) = count
    rw [h.size]
    exact hgrowing hgrows

theorem front_eq {x : T} (h : Holds queue (x :: xs)) :
    queue.Front = some x := by
  have hitem := h.item 0 x rfl
  rwa [Nat.add_zero, Nat.mod_eq_of_lt h.begin_lt] at hitem

theorem holds_popFront {x : T} (h : Holds queue (x :: xs)) :
    exists next, queue.PopFront = Except.ok next ∧ Holds next xs ∧
      next.capacity = queue.capacity := by
  have hsize : queue.size_ = xs.length + 1 := h.size
  have hpop : queue.PopFront = Except.ok { queue with
      beginIndex_ := (queue.beginIndex_ + 1) % queue.capacity
      size_ := queue.size_ - 1 } := by
    rw [PopFront, remainder_ok h.capacity_ne_zero]
  refine ⟨_, hpop, ?_, rfl⟩
  constructor
  · exact h.length
  · exact h.count_le
  · show queue.size_ - 1 = xs.length
    omega
  · exact Nat.le_of_succ_le h.size_le
  · exact Nat.mod_lt _ (Nat.lt_of_le_of_lt (Nat.zero_le _) h.begin_lt)
  · show queue.endIndex_ = ((queue.beginIndex_ + 1) % queue.capacity +
      (queue.size_ - 1)) % queue.capacity
    rw [Nat.mod_add_mod, h.end_eq]
    congr 1
    omega
  · intro i y hy
    have hitem := h.item (i + 1) y (by rwa [List.getElem?_cons_succ])
    show queue.vec_[((queue.beginIndex_ + 1) % queue.capacity + i) %
      queue.capacity]? = some y
    rwa [Nat.mod_add_mod, Nat.add_assoc, Nat.add_comm 1 i]
  · intro hgrows
    have hplace := h.growing hgrows
    show (queue.beginIndex_ + 1) % queue.capacity + (queue.size_ - 1) =
      queue.count_
    have hlt : queue.count_ < queue.capacity := hgrows
    rw [Nat.mod_eq_of_lt (by omega)]
    omega

theorem begin_lt_length {x : T} (h : Holds queue (x :: xs)) :
    queue.beginIndex_ < queue.vec_.length :=
  (List.getElem?_eq_some_iff.mp (front_eq h)).1

/-!
# The queue as a list
-/

def Allowed (queue : CircularQueue T) : Operation T -> Prop
  | Operation.pushBack _ => queue.Full = false
  | Operation.front | Operation.popFront => queue.Empty = false

instance decidableAllowed (queue : CircularQueue T) :
    (op : Operation T) -> Decidable (queue.Allowed op)
  | Operation.pushBack _ => inferInstanceAs (Decidable (queue.Full = false))
  | Operation.front => inferInstanceAs (Decidable (queue.Empty = false))
  | Operation.popFront => inferInstanceAs (Decidable (queue.Empty = false))

def Perform (queue : CircularQueue T) :
    Operation T -> Call (CircularQueue T) T
  | Operation.pushBack x =>
      match queue.PushBack x with
      | Except.error failure => Except.error failure
      | Except.ok next => Except.ok (next, [])
  | Operation.front =>
      match queue.Front with
      | none => Except.error Failure.danglingPointer
      | some x => Except.ok (queue, [x])
  | Operation.popFront =>
      match queue.PopFront with
      | Except.error failure => Except.error failure
      | Except.ok next => Except.ok (next, [])

/-- The events are the elements that `front` has returned. -/
def CircularMachine (T : Type) :
    Machine (CircularQueue T) (Operation T) T where
  Step queue op := Answer (queue.Perform op)

/-- The elements from `beginIndex_` on, `size_` of them. -/
def Elements (queue : CircularQueue T) : List (Option T) :=
  (List.range queue.size_).map
    fun i => queue.vec_[(queue.beginIndex_ + i) % queue.capacity]?

theorem Holds.elements (h : Holds queue xs) :
    queue.Elements = xs.map some := by
  apply List.ext_getElem
  · simp [Elements, h.size]
  · intro i hleft hright
    rw [List.length_map] at hright
    rw [List.getElem_map]
    simp only [Elements, List.getElem_map, List.getElem_range]
    exact h.item i xs[i] (List.getElem?_eq_getElem hright)

theorem exists_cons (h : Holds queue xs) (hempty : queue.Empty = false) :
    exists x rest, xs = x :: rest := by
  apply List.exists_cons_of_ne_nil
  intro hnil
  rw [(empty_iff h).mpr hnil] at hempty
  cases hempty

theorem step_simulates {capacity : Nat} {op : Operation T}
    (h : Holds queue xs ∧ queue.capacity = capacity)
    (hallowed : queue.Allowed op) :
    exists next ys es, (CircularMachine T).Step queue op = some (next, es) ∧
      (FifoMachine T capacity).Step xs op = some (ys, es) ∧
      Holds next ys ∧ next.capacity = capacity := by
  rcases h with ⟨hholds, rfl⟩
  cases op with
  | pushBack x =>
      rcases holds_pushBack hholds hallowed x with
        ⟨next, hpush, hnext, hcapacity⟩
      have hroom := length_lt hholds hallowed
      refine ⟨next, xs ++ [x], [], ?_, if_pos hroom, hnext, hcapacity⟩
      simp only [CircularMachine, Perform, hpush, Answer]
  | front =>
      rcases exists_cons hholds hallowed with ⟨x, rest, rfl⟩
      refine ⟨queue, x :: rest, [x], ?_, rfl, hholds, rfl⟩
      simp only [CircularMachine, Perform, front_eq hholds, Answer]
  | popFront =>
      rcases exists_cons hholds hallowed with ⟨x, rest, rfl⟩
      rcases holds_popFront hholds with ⟨next, hpop, hnext, hcapacity⟩
      refine ⟨next, rest, [], ?_, rfl, hnext, hcapacity⟩
      simp only [CircularMachine, Perform, hpop, Answer]

structure Represents (capacity : Nat) (queue : CircularQueue T)
    (xs : List T) : Prop where
  reserved : queue.capacity = capacity
  count_le : queue.count_ ≤ capacity
  elements : queue.Elements = xs.map some
  size_le : queue.size_ ≤ capacity
  empty : queue.Empty = true <-> xs = []
  full : queue.Full = true <-> xs.length = capacity
  front : queue.Empty = false -> queue.beginIndex_ < queue.vec_.length
  overwrite : queue.Full = false -> capacity ≤ queue.count_ ->
    queue.endIndex_ < queue.vec_.length
  divisor : queue.Full = false ∨ queue.Empty = false -> queue.capacity ≠ 0

theorem Holds.represents (h : Holds queue xs) :
    Represents queue.capacity queue xs where
  reserved := rfl
  count_le := h.count_le
  elements := h.elements
  size_le := by
    rw [h.size]
    exact h.size_le
  empty := empty_iff h
  full := full_iff h
  front := by
    intro hempty
    rcases exists_cons h hempty with ⟨x, rest, rfl⟩
    exact begin_lt_length h
  overwrite := fun _ hgrown => end_lt h hgrown
  divisor := fun _ => h.capacity_ne_zero

/-- Without room the queue is empty and full at once. -/
theorem represents_zero : Represents 0 (New T 0) [] where
  reserved := rfl
  count_le := Nat.le_refl 0
  elements := rfl
  size_le := Nat.le_refl 0
  empty := ⟨fun _ => rfl, fun _ => rfl⟩
  full := ⟨fun _ => rfl, fun _ => rfl⟩
  front := fun hempty => by cases hempty
  overwrite := fun hfull => by cases hfull
  divisor := fun hsome => by rcases hsome with hfull | hempty <;> contradiction

theorem not_allowed_zero (op : Operation T) : ¬(New T 0).Allowed op := by
  intro hallowed
  cases op <;> cases hallowed

/--
Whatever its users do with it, the queue behaves as a list does: no access is
out of bounds, no remainder is by zero, and its elements are those that were
pushed and not popped yet, in order.
-/
theorem refines_fifo (capacity : Nat) {ops : List (Operation T)}
    (hallowed : (CircularMachine T).Guarded Allowed (New T capacity) ops) :
    exists queue tr,
      (CircularMachine T).Run (New T capacity) ops = some (queue, tr) ∧
      (FifoMachine T capacity).Run [] ops = some (Pending ops, tr) ∧
      Represents capacity queue (Pending ops) := by
  rcases Nat.eq_zero_or_pos capacity with rfl | hpositive
  · cases ops with
    | nil => exact ⟨New T 0, [], rfl, rfl, represents_zero⟩
    | cons op rest => exact absurd hallowed.1 (not_allowed_zero op)
  · have hstart : Holds (New T capacity) [] ∧
        (New T capacity).capacity = capacity := ⟨holds_new hpositive, rfl⟩
    rcases Machine.run_simulates (fun _ _ _ hrelated hmeets =>
      step_simulates hrelated hmeets) hstart hallowed with
      ⟨queue, xs, tr, hrun, hfifo, hholds, rfl⟩
    have hpending := Fifo.run_pending hfifo
    subst hpending
    exact ⟨queue, tr, hrun, hfifo, hholds.represents⟩

def TwoSlots : List (Operation Nat) :=
  [Operation.pushBack 1, Operation.pushBack 2, Operation.front,
    Operation.popFront, Operation.pushBack 3, Operation.front,
    Operation.popFront]

theorem refines_fifo_of_two_slots : exists queue tr,
    (CircularMachine Nat).Run (New Nat 2) TwoSlots = some (queue, tr) ∧
      (FifoMachine Nat 2).Run [] TwoSlots = some ([3], tr) ∧
      Represents 2 queue [3] := by
  have hallowed : (CircularMachine Nat).Guarded Allowed (New Nat 2)
      TwoSlots := by decide
  have hpending : Pending TwoSlots = [3] := by decide
  rw [← hpending]
  exact refines_fifo 2 hallowed

end CircularQueue
end Utils
end Wethands
