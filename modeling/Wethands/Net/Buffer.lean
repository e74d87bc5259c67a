import Wethands.Foundation.Outcome
import Wethands.Foundation.Search
import Wethands.Foundation.Slice

/-!
# Buffers

The readable bytes lie between the two indices of a vector that grows when
bytes are appended.  A pointer into the readable bytes is its distance from
`Peek()`.
-/

namespace Wethands
namespace Net

open Foundation

abbrev Byte : Type := UInt8

namespace Buffer

def kInitialSize : Nat := 1024

def kInitPrependSize : Nat := 8

def kCRLF : List Byte := [13, 10]

/-- The size of the second block that `ReadFd` reads into. -/
def ExtraSize : Nat := 65536

end Buffer

open Buffer

structure Buffer where
  buffer_ : List Byte
  readIndex_ : Nat
  writeIndex_ : Nat
  prepend_le : kInitPrependSize ≤ buffer_.length
  read_le : readIndex_ ≤ writeIndex_
  write_le : writeIndex_ ≤ buffer_.length

namespace Buffer

def New (initialSize : Nat) : Buffer where
  buffer_ := List.replicate (kInitPrependSize + initialSize) 0
  readIndex_ := kInitPrependSize
  writeIndex_ := kInitPrependSize
  prepend_le := by simp
  read_le := Nat.le_refl _
  write_le := by simp

def ReadableBytes (buffer : Buffer) : Nat :=
  buffer.writeIndex_ - buffer.readIndex_

def WritableBytes (buffer : Buffer) : Nat :=
  buffer.buffer_.length - buffer.writeIndex_

def PrependableBytes (buffer : Buffer) : Nat :=
  buffer.readIndex_

/-- The bytes between `Peek()` and `BeginWrite()`. -/
def Readable (buffer : Buffer) : List Byte :=
  Slice buffer.buffer_ buffer.readIndex_ buffer.writeIndex_

@[simp] theorem length_readable (buffer : Buffer) :
    buffer.Readable.length = buffer.ReadableBytes :=
  length_slice buffer.write_le

@[simp] theorem readable_new (initialSize : Nat) :
    (New initialSize).Readable = [] :=
  slice_self _ _

/-!
# Taking bytes out
-/

def RetrieveAll (buffer : Buffer) : Buffer where
  buffer_ := buffer.buffer_
  readIndex_ := kInitPrependSize
  writeIndex_ := kInitPrependSize
  prepend_le := buffer.prepend_le
  read_le := Nat.le_refl _
  write_le := buffer.prepend_le

def Retrieve (buffer : Buffer) (len : Nat) : Outcome Buffer :=
  if len ≤ buffer.ReadableBytes then
    if h : len < buffer.ReadableBytes then
      Except.ok
        { buffer with
          readIndex_ := buffer.readIndex_ + len
          read_le := by
            unfold ReadableBytes at h
            omega }
    else Except.ok buffer.RetrieveAll
  else Except.error Failure.assertion

/-- `end` is given by its distance from `Peek()`, which it does not precede. -/
def RetrieveUntil (buffer : Buffer) (end_ : Nat) : Outcome Buffer :=
  if end_ ≤ buffer.ReadableBytes then buffer.Retrieve end_
  else Except.error Failure.assertion

theorem retrieve_ok (buffer : Buffer) {len : Nat}
    (h : len ≤ buffer.ReadableBytes) :
    exists next, buffer.Retrieve len = Except.ok next ∧
      next.Readable = buffer.Readable.drop len := by
  unfold Retrieve
  rw [if_pos h]
  split
  · refine ⟨_, rfl, ?_⟩
    exact slice_drop _ _ _ _
  · refine ⟨_, rfl, ?_⟩
    have hall : buffer.Readable.drop len = [] := by
      apply List.drop_eq_nil_of_le
      rw [length_readable]
      omega
    rw [hall]
    exact slice_self _ _

theorem readable_of_retrieve {buffer next : Buffer} {len : Nat}
    (h : buffer.Retrieve len = Except.ok next) :
    len ≤ buffer.ReadableBytes ∧
      next.Readable = buffer.Readable.drop len := by
  by_cases hlen : len ≤ buffer.ReadableBytes
  · rcases buffer.retrieve_ok hlen with ⟨other, hother, hreadable⟩
    rw [h] at hother
    cases hother
    exact ⟨hlen, hreadable⟩
  · simp [Retrieve, hlen] at h

def RetrieveAsString (buffer : Buffer) (len : Nat) :
    Outcome (Buffer × List Byte) :=
  if len ≤ buffer.ReadableBytes then
    (buffer.Retrieve len).map fun next => (next, buffer.Readable.take len)
  else Except.error Failure.assertion

theorem retrieveAsString_ok (buffer : Buffer) {len : Nat}
    (h : len ≤ buffer.ReadableBytes) :
    exists next,
      buffer.RetrieveAsString len =
        Except.ok (next, buffer.Readable.take len) ∧
      next.Readable = buffer.Readable.drop len := by
  rcases buffer.retrieve_ok h with ⟨next, hnext, hreadable⟩
  refine ⟨next, ?_, hreadable⟩
  rw [RetrieveAsString, if_pos h, hnext]
  rfl

def Unwrite (buffer : Buffer) (len : Nat) : Outcome Buffer :=
  if h : len ≤ buffer.ReadableBytes then
    Except.ok
      { buffer with
        writeIndex_ := buffer.writeIndex_ - len
        read_le := by
          have := buffer.read_le
          unfold ReadableBytes at h
          omega
        write_le := Nat.le_trans (Nat.sub_le _ _) buffer.write_le }
  else Except.error Failure.assertion

theorem unwrite_ok (buffer : Buffer) {len : Nat}
    (h : len ≤ buffer.ReadableBytes) :
    exists next, buffer.Unwrite len = Except.ok next ∧
      next.Readable =
        buffer.Readable.take (buffer.Readable.length - len) := by
  refine ⟨_, dif_pos h, ?_⟩
  rw [length_readable]
  exact slice_take _ h

/-!
# Putting bytes in
-/

def Prepend (buffer : Buffer) (data : List Byte) : Outcome Buffer :=
  if h : data.length ≤ buffer.PrependableBytes then
    have hlength : (Overwrite buffer.buffer_
        (buffer.readIndex_ - data.length) data).length =
          buffer.buffer_.length := by
      have := buffer.read_le
      have := buffer.write_le
      unfold PrependableBytes at h
      exact length_overwrite _ _ (by omega)
    Except.ok
      { buffer_ := Overwrite buffer.buffer_
          (buffer.readIndex_ - data.length) data
        readIndex_ := buffer.readIndex_ - data.length
        writeIndex_ := buffer.writeIndex_
        prepend_le := by
          rw [hlength]
          exact buffer.prepend_le
        read_le := Nat.le_trans (Nat.sub_le _ _) buffer.read_le
        write_le := by
          rw [hlength]
          exact buffer.write_le }
  else Except.error Failure.assertion

theorem prepend_ok (buffer : Buffer) {data : List Byte}
    (h : data.length ≤ buffer.PrependableBytes) :
    exists next, buffer.Prepend data = Except.ok next ∧
      next.Readable = data ++ buffer.Readable := by
  refine ⟨_, dif_pos h, ?_⟩
  exact slice_overwrite_front data h buffer.read_le buffer.write_le

/-- What a caller does with `BeginWrite()` before it calls `HasWriten`. -/
def Store (buffer : Buffer) (data : List Byte)
    (h : data.length ≤ buffer.WritableBytes) : Buffer where
  buffer_ := Overwrite buffer.buffer_ buffer.writeIndex_ data
  readIndex_ := buffer.readIndex_
  writeIndex_ := buffer.writeIndex_
  prepend_le := by
    have := buffer.write_le
    unfold WritableBytes at h
    rw [length_overwrite _ _ (by omega)]
    exact buffer.prepend_le
  read_le := buffer.read_le
  write_le := by
    have := buffer.write_le
    unfold WritableBytes at h
    rw [length_overwrite _ _ (by omega)]
    exact this

def HasWriten (buffer : Buffer) (len : Nat) : Outcome Buffer :=
  if h : len ≤ buffer.WritableBytes then
    Except.ok
      { buffer with
        writeIndex_ := buffer.writeIndex_ + len
        read_le := Nat.le_add_right_of_le buffer.read_le
        write_le := by
          have := buffer.write_le
          unfold WritableBytes at h
          omega }
  else Except.error Failure.assertion

theorem hasWriten_ok (buffer : Buffer) {data : List Byte}
    (h : data.length ≤ buffer.WritableBytes) :
    exists next,
      (buffer.Store data h).HasWriten data.length = Except.ok next ∧
      next.Readable = buffer.Readable ++ data := by
  have hroom : data.length ≤ (buffer.Store data h).WritableBytes := by
    have hwrite := buffer.write_le
    unfold WritableBytes at h
    show data.length ≤ (Overwrite buffer.buffer_ buffer.writeIndex_ data).length
      - buffer.writeIndex_
    rw [length_overwrite _ _ (by omega)]
    exact h
  refine ⟨_, dif_pos hroom, ?_⟩
  exact slice_overwrite data buffer.read_le buffer.write_le

theorem prepend_le_overwrite (buffer : Buffer) : kInitPrependSize ≤
    (Overwrite buffer.buffer_ kInitPrependSize buffer.Readable).length := by
  simp only [Overwrite, List.length_append, List.length_take]
  have := buffer.prepend_le
  omega

theorem write_le_overwrite (buffer : Buffer) :
    kInitPrependSize + buffer.ReadableBytes ≤
      (Overwrite buffer.buffer_ kInitPrependSize buffer.Readable).length := by
  simp only [Overwrite, List.length_append, List.length_take, length_readable]
  have := buffer.prepend_le
  omega

def CheckAndMakePlace (buffer : Buffer) (len : Nat) : Buffer :=
  if len ≤ buffer.WritableBytes then buffer
  else if h : len + kInitPrependSize ≤
      buffer.WritableBytes + buffer.PrependableBytes then
    { buffer_ := Overwrite buffer.buffer_ kInitPrependSize buffer.Readable
      readIndex_ := kInitPrependSize
      writeIndex_ := kInitPrependSize + buffer.ReadableBytes
      prepend_le := buffer.prepend_le_overwrite
      read_le := Nat.le_add_right _ _
      write_le := buffer.write_le_overwrite }
  else
    { buffer_ := buffer.buffer_ ++ List.replicate
        (buffer.writeIndex_ + len - buffer.buffer_.length) 0
      readIndex_ := buffer.readIndex_
      writeIndex_ := buffer.writeIndex_
      prepend_le := by
        rw [List.length_append]
        exact Nat.le_add_right_of_le buffer.prepend_le
      read_le := buffer.read_le
      write_le := by
        rw [List.length_append]
        exact Nat.le_add_right_of_le buffer.write_le }

theorem checkAndMakePlace_asserts (buffer : Buffer) (len : Nat) :
    (¬len ≤ buffer.WritableBytes ->
      len + kInitPrependSize ≤
        buffer.WritableBytes + buffer.PrependableBytes ->
      kInitPrependSize < buffer.readIndex_) ∧
    (buffer.CheckAndMakePlace len).ReadableBytes = buffer.ReadableBytes ∧
      len ≤ (buffer.CheckAndMakePlace len).WritableBytes := by
  constructor
  · intro hfull hplace
    simp only [PrependableBytes] at hplace
    omega
  · have hle := buffer.write_le
    have hread := buffer.read_le
    unfold CheckAndMakePlace
    split
    · exact ⟨rfl, ‹_›⟩
    · split
      · rename_i hplace
        have hlength : kInitPrependSize + buffer.Readable.length ≤
            buffer.buffer_.length -> _ :=
          length_overwrite buffer.buffer_ buffer.Readable
        simp only [PrependableBytes, WritableBytes, ReadableBytes,
          length_readable] at hplace hlength ⊢
        omega
      · simp only [WritableBytes, ReadableBytes, List.length_append,
          List.length_replicate, true_and]
        omega

@[simp] theorem readable_checkAndMakePlace (buffer : Buffer) (len : Nat) :
    (buffer.CheckAndMakePlace len).Readable = buffer.Readable := by
  unfold CheckAndMakePlace
  split
  · rfl
  · split
    · have hmove := slice_overwrite buffer.Readable
        (Nat.le_refl kInitPrependSize) buffer.prepend_le
      rw [length_readable, slice_self, List.nil_append] at hmove
      exact hmove
    · exact slice_append buffer.read_le buffer.write_le

def Write (buffer : Buffer) (data : List Byte)
    (h : data.length ≤ buffer.WritableBytes) : Buffer where
  buffer_ := Overwrite buffer.buffer_ buffer.writeIndex_ data
  readIndex_ := buffer.readIndex_
  writeIndex_ := buffer.writeIndex_ + data.length
  prepend_le := by
    rw [length_overwrite]
    · exact buffer.prepend_le
    · have := buffer.write_le
      unfold WritableBytes at h
      omega
  read_le := Nat.le_add_right_of_le buffer.read_le
  write_le := by
    have := buffer.write_le
    unfold WritableBytes at h
    rw [length_overwrite] <;> omega

@[simp] theorem readable_write (buffer : Buffer) (data : List Byte)
    (h : data.length ≤ buffer.WritableBytes) :
    (buffer.Write data h).Readable = buffer.Readable ++ data :=
  slice_overwrite data buffer.read_le buffer.write_le

def Append (buffer : Buffer) (data : List Byte) : Buffer :=
  (buffer.CheckAndMakePlace data.length).Write data
    (buffer.checkAndMakePlace_asserts data.length).2.2

@[simp] theorem readable_append (buffer : Buffer) (data : List Byte) :
    (buffer.Append data).Readable = buffer.Readable ++ data := by
  simp [Append]

/-- The writable bytes and, unless these are many, a second block. -/
def ReadCapacity (buffer : Buffer) : Nat :=
  if ExtraSize ≤ buffer.WritableBytes then buffer.WritableBytes
  else buffer.WritableBytes + ExtraSize

/-- `bytes` is what `readv` delivers. -/
def ReadFd (buffer : Buffer) (bytes : List Byte) : Outcome Buffer :=
  let writable := buffer.WritableBytes
  if bytes.length ≤ buffer.ReadCapacity then
    if h : bytes.length ≤ writable then Except.ok (buffer.Write bytes h)
    else
      Except.ok
        ((buffer.Write (bytes.take writable)
          (by rw [List.length_take]; exact Nat.min_le_left _ _)).Append
          (bytes.drop writable))
  else Except.error Failure.impossible

theorem readable_of_readFd {buffer next : Buffer} {bytes : List Byte}
    (h : buffer.ReadFd bytes = Except.ok next) :
    next.Readable = buffer.Readable ++ bytes := by
  unfold ReadFd at h
  dsimp only at h
  split at h
  · split at h
    · cases h
      exact readable_write _ _ _
    · cases h
      rw [readable_append, readable_write, List.append_assoc,
        List.take_append_drop]
  · cases h

/-!
# Looking for the end of a line
-/

def FindCRLF (buffer : Buffer) : Option Nat :=
  let crlf := Search kCRLF buffer.Readable
  if crlf = buffer.ReadableBytes then none else some crlf

theorem kCRLF_ne_nil : kCRLF ≠ [] := List.cons_ne_nil _ _

theorem findCRLF_of_no_cut {buffer : Buffer}
    (h : Cut kCRLF buffer.Readable = none) : buffer.FindCRLF = none := by
  unfold Cut at h
  dsimp only at h
  split at h
  · rename_i hnone
    rw [length_readable] at hnone
    exact if_pos hnone
  · cases h

theorem findCRLF_of_cut {buffer : Buffer} {line rest : List Byte}
    (h : Cut kCRLF buffer.Readable = some (line, rest)) :
    buffer.FindCRLF = some line.length ∧
      buffer.Readable.take line.length = line ∧
      exists next, buffer.RetrieveUntil (line.length + 2) = Except.ok next ∧
        next.Readable = rest := by
  have htext : buffer.Readable = line ++ kCRLF ++ rest :=
    ((cut_eq_some kCRLF_ne_nil).mp h).1
  have hbytes : buffer.ReadableBytes = line.length + 2 + rest.length := by
    rw [← length_readable, htext, List.length_append, List.length_append]
    rfl
  have hfind : Search kCRLF buffer.Readable = line.length := by
    rw [htext, search_append kCRLF_ne_nil]
    exact ((cut_eq_some kCRLF_ne_nil).mp h).2
  refine ⟨?_, ?_, ?_⟩
  · simp only [FindCRLF, hfind]
    rw [if_neg]
    omega
  · rw [htext, List.append_assoc, List.take_left]
  · have hle : line.length + 2 ≤ buffer.ReadableBytes := by omega
    rcases buffer.retrieve_ok hle with ⟨next, hnext, hreadable⟩
    refine ⟨next, ?_, ?_⟩
    · rw [RetrieveUntil, if_pos hle, hnext]
    · have hskip : line.length + 2 = (line ++ kCRLF).length := by
        rw [List.length_append]
        rfl
      rw [hreadable, htext, hskip, List.drop_left]

end Buffer
end Net
end Wethands
