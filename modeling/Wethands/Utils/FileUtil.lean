import Mathlib.Data.List.Range
import Wethands.Foundation.Machine

/-!
# Appending to a log file

`Append` calls `fwrite_unlocked` until the whole line is taken or a call takes
nothing.  A call may take fewer bytes than it was asked to.
-/

namespace Wethands
namespace Utils
namespace FileUtil

open Foundation

/-- `fp_` holds the bytes handed to the stream since the file was opened. -/
structure AppendFile where
  fp_ : List UInt8
  writtenBytes_ : Nat
deriving DecidableEq

/--
The results of the calls of `fwrite_unlocked` that one `Append` makes, numbered
from zero.  Each result is at most the count asked for.
-/
abbrev Fwrite : Type := Nat -> (asked : Nat) -> Fin (asked + 1)

/-- One call `fwrite_unlocked(line, 1, asked, fp_)` and the count it took. -/
structure Piece where
  start : Nat
  asked : Nat
  taken : Nat
deriving DecidableEq

def HandedOver (pieces : List Piece) : List Nat :=
  pieces.flatMap fun piece => List.range' piece.start piece.taken

@[simp] theorem handedOver_nil : HandedOver [] = [] := rfl

@[simp] theorem handedOver_cons (piece : Piece) (pieces : List Piece) :
    HandedOver (piece :: pieces) =
      List.range' piece.start piece.taken ++ HandedOver pieces := rfl

namespace AppendFile

def New : AppendFile := { fp_ := [], writtenBytes_ := 0 }

def Take (file : AppendFile) (line : List UInt8) (piece : Piece) :
    AppendFile :=
  { file with fp_ := file.fp_ ++ (line.drop piece.start).take piece.taken }

def Count (file : AppendFile) (n : Nat) : AppendFile :=
  { file with writtenBytes_ := file.writtenBytes_ + n }

def AppendLoop (line : List UInt8) (fwrite : Fwrite) (call remain : Nat)
    (file : AppendFile) : AppendFile × List Piece :=
  let n : Nat := fwrite call remain
  -- Every call of the loop is passed `line` itself.
  let piece : Piece := { start := 0, asked := remain, taken := n }
  if n = 0 then
    ((file.Take line piece).Count (line.length - remain), [piece])
  else if 0 < remain - n then
    let rest := AppendLoop line fwrite (call + 1) (remain - n)
      (file.Take line piece)
    (rest.1, piece :: rest.2)
  else
    ((file.Take line piece).Count line.length, [piece])
termination_by remain
decreasing_by omega

def Append (file : AppendFile) (line : List UInt8) (fwrite : Fwrite) :
    AppendFile × List Piece :=
  AppendLoop line fwrite 0 line.length file

/-!
# One call

However short the results are, the bookkeeping is right: the counter grows by
the bytes that the stream was handed.
-/

def Bytes (line : List UInt8) (places : List Nat) : List UInt8 :=
  places.filterMap fun i => (line)[i]?

theorem bytes_range (line : List UInt8) (n : Nat) :
    Bytes line (List.range n) = line.take n := by
  induction n with
  | zero => simp [Bytes]
  | succ n ih =>
      rw [List.range_succ, Bytes, List.filterMap_append, List.take_add_one]
      change Bytes line (List.range n) ++ _ = _
      rw [ih]
      cases h : (line)[n]? <;> simp [h]

theorem bytes_length {line : List UInt8} {places : List Nat}
    (h : forall i, i ∈ places -> i < line.length) :
    (Bytes line places).length = places.length := by
  induction places with
  | nil => rfl
  | cons i places ih =>
      have hi : i < line.length := h i (by simp)
      have hrest := ih fun j hj => h j (List.mem_cons_of_mem _ hj)
      simpa [Bytes, hi] using hrest

structure Accounts (line : List UInt8) (remain : Nat) (file last : AppendFile)
    (pieces : List Piece) : Prop where
  inside : forall i, i ∈ HandedOver pieces -> i < line.length
  stream : last.fp_ = file.fp_ ++ Bytes line (HandedOver pieces)
  counted : last.writtenBytes_ =
    file.writtenBytes_ + (line.length - remain) + (HandedOver pieces).length

theorem Accounts.cons {line : List UInt8} {remain asked n : Nat}
    {file last : AppendFile} {pieces : List Piece}
    (h : Accounts line (remain - n)
      (file.Take line { start := 0, asked := asked, taken := n }) last pieces)
    (hn : n ≤ remain) (hremain : remain ≤ line.length) :
    Accounts line remain file last
      ({ start := 0, asked := asked, taken := n } :: pieces) := by
  constructor
  · intro i hi
    rw [handedOver_cons, List.mem_append] at hi
    rcases hi with hfirst | hrest
    · have hi : 0 ≤ i ∧ i < 0 + n := List.mem_range'_1.mp hfirst
      omega
    · exact h.inside i hrest
  · rw [h.stream]
    simp [Take, Bytes, List.filterMap_append, <- List.range_eq_range',
      <- bytes_range]
  · rw [h.counted]
    simp [Take]
    omega

theorem appendLoop_accounts {line : List UInt8} {remain : Nat}
    (fwrite : Fwrite) (call : Nat) (file : AppendFile)
    (hremain : remain ≤ line.length) :
    Accounts line remain file (AppendLoop line fwrite call remain file).1
      (AppendLoop line fwrite call remain file).2 := by
  fun_induction AppendLoop with
  | case1 call remain file n piece hn =>
      constructor
      · simp [piece, hn]
      · simp [piece, hn, Take, Count, Bytes]
      · simp [piece, hn, Take, Count]
  | case2 call remain file n piece hn hrest rest ih =>
      exact (ih (by omega)).cons (by omega) hremain
  | case3 call remain file n piece hn hrest =>
      have hall : n = remain := by omega
      constructor
      · simpa [piece, hall] using fun i hi => Nat.lt_of_lt_of_le hi hremain
      · simp [piece, Take, Count, <- bytes_range, List.range_eq_range']
      · simp [piece, Take, Count, hall]
        omega

theorem append_accounts (file : AppendFile) (line : List UInt8)
    (fwrite : Fwrite) :
    Accounts line line.length file (file.Append line fwrite).1
      (file.Append line fwrite).2 :=
  appendLoop_accounts fwrite 0 file le_rfl

theorem Accounts.counted_eq {line : List UInt8} {file last : AppendFile}
    {pieces : List Piece}
    (h : Accounts line line.length file last pieces)
    (hcounted : file.writtenBytes_ = file.fp_.length) :
    last.writtenBytes_ = last.fp_.length := by
  rw [h.counted, h.stream, List.length_append, bytes_length h.inside]
  omega

/-!
# Short writes

A second call starts again at the first byte of the line.
-/

structure InOrder (line : List UInt8) (pieces : List Piece) : Prop where
  once : exists n, n ≤ line.length ∧ HandedOver pieces = List.range n
  whole : (forall piece, piece ∈ pieces -> piece.taken ≠ 0) ->
    HandedOver pieces = List.range line.length

def NotResumed (line : List UInt8) (fwrite : Fwrite) : Prop :=
  let n : Nat := fwrite 0 line.length
  n = 0 ∨ n = line.length ∨ (fwrite 1 (line.length - n) : Nat) = 0

instance (line : List UInt8) (fwrite : Fwrite) :
    Decidable (NotResumed line fwrite) :=
  inferInstanceAs (Decidable (_ ∨ _ ∨ _))

theorem appendLoop_pieces (line : List UInt8) (fwrite : Fwrite)
    (call remain : Nat) (file : AppendFile) :
    exists mid, (AppendLoop line fwrite call remain file).2 =
      { start := 0, asked := remain, taken := fwrite call remain } ::
        if (fwrite call remain : Nat) = 0 ∨
          remain ≤ (fwrite call remain : Nat) then []
        else (AppendLoop line fwrite (call + 1)
          (remain - fwrite call remain) mid).2 := by
  rw [AppendLoop]
  split
  · rename_i hzero
    exact ⟨file, by simp [hzero]⟩
  · rename_i hzero
    split
    · let piece : Piece :=
        { start := 0, asked := remain, taken := fwrite call remain }
      refine ⟨file.Take line piece, ?_⟩
      rw [if_neg (by omega)]
    · exact ⟨file, by rw [if_pos (by omega)]⟩

theorem range_append_zero_ne {n k : Nat} {places : List Nat} (hn : n ≠ 0) :
    List.range n ++ 0 :: places ≠ List.range k := by
  intro h
  have hget := congrArg (fun xs => xs[n]?) h
  rcases Nat.lt_or_ge n k with hlt | hge
  · simp [hlt] at hget
    omega
  · simp [hge] at hget

theorem inOrder_single {line : List UInt8} {asked n : Nat}
    (hle : n ≤ line.length) (hwhole : n = 0 ∨ n = line.length) :
    InOrder line [{ start := 0, asked := asked, taken := n }] := by
  constructor
  · exact ⟨n, hle, by simp [List.range_eq_range']⟩
  · intro htaken
    have hn : n ≠ 0 :=
      htaken { start := 0, asked := asked, taken := n } (by simp)
    rcases hwhole with hzero | hall
    · exact absurd hzero hn
    · simp [hall, List.range_eq_range']

theorem append_inOrder_iff (file : AppendFile) (line : List UInt8)
    (fwrite : Fwrite) :
    InOrder line (file.Append line fwrite).2 <-> NotResumed line fwrite := by
  rcases appendLoop_pieces line fwrite 0 line.length file with ⟨mid, hpieces⟩
  rw [Append, hpieces, NotResumed]
  generalize hn : (fwrite 0 line.length : Nat) = n
  have hle : n ≤ line.length := by omega
  by_cases hstop : n = 0 ∨ line.length ≤ n
  · rw [if_pos hstop]
    have hwhole : n = 0 ∨ n = line.length := by omega
    constructor
    · intro _
      show n = 0 ∨ n = line.length ∨ _
      omega
    · intro _
      exact inOrder_single hle hwhole
  · rw [if_neg hstop]
    rcases appendLoop_pieces line fwrite 1 (line.length - n) mid with
      ⟨next, hrest⟩
    rw [Nat.zero_add, hrest]
    generalize hm : (fwrite 1 (line.length - n) : Nat) = m
    constructor
    · intro h
      rcases h.once with ⟨k, _, horder⟩
      cases m with
      | zero => exact Or.inr (Or.inr rfl)
      | succ m =>
          simp only [handedOver_cons, List.range'_succ,
            <- List.range_eq_range', List.cons_append] at horder
          exact absurd horder (range_append_zero_ne (by omega))
    · intro h
      have hzero : m = 0 := by
        change n = 0 ∨ n = line.length ∨ _ at h
        omega
      subst hzero
      constructor
      · exact ⟨n, hle, by simp [List.range_eq_range']⟩
      · intro htaken
        exact absurd rfl (htaken
          { start := 0, asked := line.length - n, taken := 0 } (by simp))

/-!
# Runs

One input is a line together with the results of the calls made for it; the
answer is what `Append` handed to the stream.
-/

def AppendMachine :
    Machine AppendFile (List UInt8 × Fwrite) (List Piece) where
  Step file input :=
    some ((file.Append input.1 input.2).1, [(file.Append input.1 input.2).2])

theorem run_counted {calls : List (List UInt8 × Fwrite)}
    {file last : AppendFile} {answers : List (List Piece)}
    (hstart : file.writtenBytes_ = file.fp_.length)
    (hrun : AppendMachine.Run file calls = some (last, answers)) :
    last.writtenBytes_ = last.fp_.length := by
  refine Machine.run_invariant (p := [])
    (I := fun file _ => file.writtenBytes_ = file.fp_.length) ?_ hstart hrun
  rintro file _ ⟨line, fwrite⟩ next _ hcounted hstep
  cases hstep
  exact (file.append_accounts line fwrite).counted_eq hcounted

theorem run_returns (file : AppendFile) (calls : List (List UInt8 × Fwrite)) :
    exists last answers,
      AppendMachine.Run file calls = some (last, answers) := by
  induction calls generalizing file with
  | nil => exact ⟨file, [], rfl⟩
  | cons call rest ih =>
      rcases ih (file.Append call.1 call.2).1 with ⟨last, answers, hrest⟩
      exact ⟨last, _, Machine.run_cons_eq_some.mpr
        ⟨_, _, answers, rfl, hrest, rfl⟩⟩

/-- `Append` hands over a prefix in order and counts what it handed over. -/
structure Survives (file : AppendFile) (line : List UInt8)
    (last : AppendFile) (pieces : List Piece) : Prop where
  in_order : InOrder line pieces
  stream : last.fp_ = file.fp_ ++ Bytes line (HandedOver pieces)
  counted : last.writtenBytes_ =
    file.writtenBytes_ + (HandedOver pieces).length

theorem append_survives_iff (calls : List (List UInt8 × Fwrite))
    (line : List UInt8) (fwrite : Fwrite) :
    exists file answers, AppendMachine.Run New calls = some (file, answers) ∧
      file.writtenBytes_ = file.fp_.length ∧
      (file.Survives line (file.Append line fwrite).1
          (file.Append line fwrite).2 <->
        NotResumed line fwrite) := by
  rcases run_returns New calls with ⟨file, answers, hrun⟩
  refine ⟨file, answers, hrun, run_counted rfl hrun, ?_⟩
  have haccounts := file.append_accounts line fwrite
  rw [<- append_inOrder_iff file line fwrite]
  constructor
  · intro h
    exact h.in_order
  · intro h
    constructor
    · exact h
    · exact haccounts.stream
    · rw [haccounts.counted, Nat.sub_self, Nat.add_zero]

def TwoThenTwo : Fwrite := fun _ asked => Fin.ofNat (asked + 1) 2

theorem append_resends :
    (New.Append [48, 49, 50, 51] TwoThenTwo).1.fp_ = [48, 49, 48, 49] ∧
      ¬ New.Survives [48, 49, 50, 51]
        (New.Append [48, 49, 50, 51] TwoThenTwo).1
        (New.Append [48, 49, 50, 51] TwoThenTwo).2 := by
  constructor
  · decide +kernel
  · intro h
    have hresumed := (append_inOrder_iff New [48, 49, 50, 51] TwoThenTwo).mp
      h.in_order
    revert hresumed
    decide

end AppendFile
end FileUtil
end Utils
end Wethands
