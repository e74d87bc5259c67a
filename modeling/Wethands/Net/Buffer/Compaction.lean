import Wethands.Net.Buffer.Deque

/-!
# The copy inside of a buffer

`CheckAndMakePlace` moves the readable bytes to the front with `memcpy`, which
is not for regions that overlap.  A comment there says that an overlap does no
harm because the target lies before the source.
-/

namespace Wethands
namespace Net

open Foundation

namespace Buffer

/-- Room for `len` bytes is found by moving the readable ones to the front. -/
def Compacts (buffer : Buffer) (len : Nat) : Prop :=
  ¬len ≤ buffer.WritableBytes ∧
    len + kInitPrependSize ≤ buffer.WritableBytes + buffer.PrependableBytes

/-- The two regions of the `memcpy`, if it is called, share no byte. -/
def CopiesApart (buffer : Buffer) (len : Nat) : Prop :=
  buffer.Compacts len ->
    ¬Overlap buffer.readIndex_ kInitPrependSize buffer.ReadableBytes

/-- What a command hands to `CheckAndMakePlace` is copied apart. -/
def CommandApart (buffer : Buffer) : Command -> Prop
  | Command.append data => CopiesApart buffer data.length
  | Command.readFd (some bytes) =>
      ¬bytes.length ≤ buffer.WritableBytes ->
        forall h : (bytes.take buffer.WritableBytes).length ≤
            buffer.WritableBytes,
          CopiesApart (buffer.Write (bytes.take buffer.WritableBytes) h)
            (bytes.drop buffer.WritableBytes).length
  | _ => True

/--
The readable bytes that are moved, if they are, are none or at most as many as
the places that they are moved by.  Behind a full read there is no room at the
end of the vector, and all bytes from `readIndex_` on are readable.
-/
def Roomy (buffer : Buffer) : Command -> Prop
  | Command.append data =>
      ¬data.length ≤ buffer.WritableBytes ->
        data.length + kInitPrependSize ≤
          buffer.WritableBytes + buffer.PrependableBytes ->
        buffer.ReadableBytes = 0 ∨
          kInitPrependSize + buffer.ReadableBytes ≤ buffer.readIndex_
  | Command.readFd (some bytes) =>
      ¬bytes.length ≤ buffer.WritableBytes ->
        bytes.length - buffer.WritableBytes + kInitPrependSize ≤
          buffer.PrependableBytes ->
        buffer.ReadableBytes + buffer.WritableBytes = 0 ∨
          kInitPrependSize + buffer.ReadableBytes + buffer.WritableBytes ≤
            buffer.readIndex_
  | _ => True

theorem copiesApart_iff (buffer : Buffer) (len : Nat) :
    CopiesApart buffer len <->
      (buffer.Compacts len -> buffer.ReadableBytes = 0 ∨
        kInitPrependSize + buffer.ReadableBytes ≤ buffer.readIndex_) := by
  refine imp_congr_right (fun hcompacts => ?_)
  apply not_overlap_iff_of_lt
  exact (buffer.checkAndMakePlace_asserts len).1 hcompacts.1 hcompacts.2

theorem sizes_write (buffer : Buffer) {bytes : List Byte}
    (hmore : ¬bytes.length ≤ buffer.WritableBytes)
    (h : (bytes.take buffer.WritableBytes).length ≤ buffer.WritableBytes) :
    (buffer.Write (bytes.take buffer.WritableBytes) h).WritableBytes = 0 ∧
      (buffer.Write (bytes.take buffer.WritableBytes) h).ReadableBytes =
        buffer.ReadableBytes + buffer.WritableBytes := by
  have hlength : (bytes.take buffer.WritableBytes).length =
      buffer.WritableBytes := by
    rw [List.length_take]
    omega
  have hread := buffer.read_le
  have hwrite := buffer.write_le
  constructor
  · show (Overwrite buffer.buffer_ buffer.writeIndex_ _).length -
      (buffer.writeIndex_ + _) = 0
    rw [length_overwrite, hlength]
    · unfold WritableBytes
      omega
    · rw [hlength]
      unfold WritableBytes
      omega
  · show buffer.writeIndex_ + _ - buffer.readIndex_ = _
    rw [hlength]
    unfold ReadableBytes
    omega

theorem commandApart_iff (buffer : Buffer) (command : Command) :
    CommandApart buffer command <-> Roomy buffer command := by
  cases command with
  | append data =>
      show CopiesApart buffer data.length <-> _
      rw [copiesApart_iff]
      exact and_imp
  | readFd result =>
      cases result with
      | none => exact Iff.rfl
      | some bytes =>
          refine imp_congr_right (fun hmore => ?_)
          have hfirst : (bytes.take buffer.WritableBytes).length ≤
              buffer.WritableBytes := by
            rw [List.length_take]
            exact Nat.min_le_left _ _
          rcases sizes_write buffer hmore hfirst with ⟨hfull, hreadable⟩
          rw [forall_prop_of_true hfirst, copiesApart_iff, Compacts, hfull,
            hreadable, List.length_drop, ← Nat.add_assoc, Nat.zero_add]
          show (_ ∧ _ -> _ ∨ _ ≤ buffer.readIndex_) <-> _
          constructor
          · intro hcopies hfits
            exact hcopies ⟨by omega, hfits⟩
          · intro hroomy hcompacts
            exact hroomy hcompacts.2
  | _ => exact Iff.rfl

/-!
# Runs
-/

variable {ι : Type} [DecidableEq ι]

def OnBuffer (P : Buffer -> Command -> Prop) (family : ι -> Option Buffer) :
    Operation ι -> Prop
  | Operation.on i command =>
      forall buffer, family i = some buffer -> P buffer command
  | _ => True

omit [DecidableEq ι] in
theorem onBuffer_congr {P Q : Buffer -> Command -> Prop}
    (h : forall buffer command, P buffer command <-> Q buffer command)
    (family : ι -> Option Buffer) (op : Operation ι) :
    OnBuffer P family op <-> OnBuffer Q family op := by
  cases op with
  | on i command => exact forall₂_congr (fun buffer _ => h buffer command)
  | _ => exact Iff.rfl

/--
Whatever has been done to the buffers before, no `memcpy` gets regions that
overlap exactly when the bytes that are moved are moved far enough each time.
-/
theorem copies_apart_iff (ops : List (Operation ι)) :
    (BufferMachine ι).Guarded (OnBuffer CommandApart) (fun _ => none) ops <->
      (BufferMachine ι).Guarded (OnBuffer Roomy) (fun _ => none) ops :=
  Machine.guarded_congr (onBuffer_congr commandApart_iff) _ ops

def OneTaken : List (Operation Unit) :=
  [Operation.construct () 4, Operation.on () (Command.append [1, 2, 3, 4]),
    Operation.on () (Command.retrieve 1),
    Operation.on () (Command.append [5])]

theorem compaction_overlaps :
    ¬(BufferMachine Unit).Guarded (OnBuffer CommandApart) (fun _ => none)
      OneTaken := by
  intro hguarded
  have hapart := hguarded.2.2.2.1 _ rfl
  exact hapart ⟨by decide, by decide⟩ ⟨9, by decide⟩

end Buffer
end Net
end Wethands
