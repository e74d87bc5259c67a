import Wethands.Foundation.Machine

/-!
# Bounded queues

The elements are a list.  Whoever wants to append one waits until there is room,
and whoever wants to see or to remove the first one until there is one.
-/

namespace Wethands
namespace Foundation

namespace Fifo

inductive Operation (T : Type) where
  | pushBack (x : T)
  | front
  | popFront
deriving DecidableEq

variable {T : Type}

def Perform (capacity : Nat) (xs : List T) :
    Operation T -> Option (List T × List T)
  | Operation.pushBack x =>
      if xs.length < capacity then some (xs ++ [x], []) else none
  | Operation.front =>
      match xs with
      | [] => none
      | x :: _ => some (xs, [x])
  | Operation.popFront =>
      match xs with
      | [] => none
      | _ :: rest => some (rest, [])

def FifoMachine (T : Type) (capacity : Nat) :
    Machine (List T) (Operation T) T where
  Step := Perform capacity

/-!
# What is in the queue
-/

def Operation.Pushed : Operation T -> List T
  | pushBack x => [x]
  | front | popFront => []

def Operation.Pops : Operation T -> Nat
  | popFront => 1
  | pushBack _ | front => 0

def Pushed (ops : List (Operation T)) : List T :=
  ops.flatMap Operation.Pushed

def Pops (ops : List (Operation T)) : Nat :=
  (ops.map Operation.Pops).sum

def Pending (ops : List (Operation T)) : List T :=
  (Pushed ops).drop (Pops ops)

theorem pushed_cons (op : Operation T) (ops : List (Operation T)) :
    Pushed (op :: ops) = op.Pushed ++ Pushed ops :=
  List.flatMap_cons

theorem pops_cons (op : Operation T) (ops : List (Operation T)) :
    Pops (op :: ops) = op.Pops + Pops ops :=
  List.sum_cons

variable {capacity : Nat} {xs ys : List T} {tr : List T}

theorem perform_eq_some {op : Operation T}
    (h : Perform capacity xs op = some (ys, tr)) :
    op.Pops ≤ xs.length ∧ ys = (xs ++ op.Pushed).drop op.Pops := by
  cases op with
  | pushBack x =>
      simp only [Perform] at h
      split at h
      · cases h
        exact ⟨Nat.zero_le _, rfl⟩
      · cases h
  | front =>
      cases xs with
      | nil => cases h
      | cons x rest =>
          cases h
          exact ⟨Nat.zero_le _, (List.append_nil _).symm⟩
  | popFront =>
      cases xs with
      | nil => cases h
      | cons x rest =>
          cases h
          exact ⟨Nat.succ_le_succ (Nat.zero_le _), (List.append_nil _).symm⟩

theorem run_eq_drop {ops : List (Operation T)}
    (hrun : (FifoMachine T capacity).Run xs ops = some (ys, tr)) :
    ys = (xs ++ Pushed ops).drop (Pops ops) := by
  induction ops generalizing xs tr with
  | nil =>
      cases hrun
      exact (List.append_nil _).symm
  | cons op rest ih =>
      rcases Machine.run_cons_eq_some.mp hrun with
        ⟨mid, es, tail, hone, hrest, _⟩
      rcases perform_eq_some hone with ⟨hpops, rfl⟩
      rw [ih hrest, pushed_cons, pops_cons, ← List.append_assoc,
        ← List.drop_drop]
      congr 1
      exact (List.drop_append_of_le_length (by simp; omega)).symm

theorem run_pending {ops : List (Operation T)}
    (hrun : (FifoMachine T capacity).Run [] ops = some (ys, tr)) :
    ys = Pending ops :=
  run_eq_drop hrun

end Fifo
end Foundation
end Wethands
