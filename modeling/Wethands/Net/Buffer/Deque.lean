import Mathlib.Logic.Function.Basic
import Wethands.Foundation.Machine
import Wethands.Net.Buffer

/-!
# A buffer is a byte deque

Any number of buffers under any sequence of operations behave like as many
lists of bytes.  The asserted precondition of an operation is what its caller
owes; the assertions inside the operations are checked by the steps.
-/

namespace Wethands
namespace Net

open Foundation

namespace Buffer

/-- `hasWriten` comes after its caller has put the bytes at `BeginWrite()`. -/
inductive Command where
  | append (data : List Byte)
  | prepend (data : List Byte)
  | retrieve (len : Nat)
  | retrieveUntil (end_ : Nat)
  | retrieveAll
  | retrieveAsString (len : Nat)
  | retrieveAllAsString
  | hasWriten (data : List Byte)
  | unwrite (len : Nat)
  | readFd (result : Option (List Byte))

inductive Event where
  | returned (bytes : List Byte)
deriving DecidableEq

def NewAsserts (initialSize : Nat) : Prop :=
  (New initialSize).ReadableBytes = 0 ∧
    (New initialSize).WritableBytes = initialSize ∧
    (New initialSize).PrependableBytes = kInitPrependSize

instance (initialSize : Nat) : Decidable (NewAsserts initialSize) :=
  inferInstanceAs (Decidable (_ ∧ _))

/-- The assertions of `CheckAndMakePlace`. -/
def PlaceAsserts (buffer : Buffer) (len : Nat) : Prop :=
  (¬len ≤ buffer.WritableBytes ->
    len + kInitPrependSize ≤
      buffer.WritableBytes + buffer.PrependableBytes ->
    kInitPrependSize < buffer.readIndex_) ∧
  (buffer.CheckAndMakePlace len).ReadableBytes = buffer.ReadableBytes ∧
    len ≤ (buffer.CheckAndMakePlace len).WritableBytes

instance (buffer : Buffer) (len : Nat) : Decidable (PlaceAsserts buffer len) :=
  inferInstanceAs (Decidable (_ ∧ _))

def Asserted (buffer : Buffer) : Command -> Prop
  | Command.append _ => True
  | Command.prepend data => data.length ≤ buffer.PrependableBytes
  | Command.retrieve len => len ≤ buffer.ReadableBytes
  | Command.retrieveUntil end_ => end_ ≤ buffer.ReadableBytes
  | Command.retrieveAll => True
  | Command.retrieveAsString len => len ≤ buffer.ReadableBytes
  | Command.retrieveAllAsString => True
  | Command.hasWriten data => data.length ≤ buffer.WritableBytes
  | Command.unwrite len => len ≤ buffer.ReadableBytes
  | Command.readFd none => True
  | Command.readFd (some bytes) => bytes.length ≤ buffer.ReadCapacity

instance (buffer : Buffer) (command : Command) :
    Decidable (Asserted buffer command) := by
  unfold Asserted
  split <;> infer_instance

def InnerAsserts (buffer : Buffer) : Command -> Prop
  | Command.append data => PlaceAsserts buffer data.length
  | Command.readFd (some bytes) =>
      forall h : (bytes.take buffer.WritableBytes).length ≤
          buffer.WritableBytes,
        PlaceAsserts (buffer.Write (bytes.take buffer.WritableBytes) h)
          (bytes.drop buffer.WritableBytes).length
  | _ => True

instance (buffer : Buffer) (command : Command) :
    Decidable (InnerAsserts buffer command) := by
  unfold InnerAsserts
  split <;> infer_instance

def Silently : Outcome Buffer -> Option (Buffer × List Event)
  | Except.ok next => some (next, [])
  | Except.error _ => none

def Returning : Outcome (Buffer × List Byte) -> Option (Buffer × List Event)
  | Except.ok (next, bytes) => some (next, [Event.returned bytes])
  | Except.error _ => none

def Execute (buffer : Buffer) (command : Command) :
    Option (Buffer × List Event) :=
  if InnerAsserts buffer command then
    match command with
    | Command.append data => some (buffer.Append data, [])
    | Command.prepend data => Silently (buffer.Prepend data)
    | Command.retrieve len => Silently (buffer.Retrieve len)
    | Command.retrieveUntil end_ => Silently (buffer.RetrieveUntil end_)
    | Command.retrieveAll => some (buffer.RetrieveAll, [])
    | Command.retrieveAsString len => Returning (buffer.RetrieveAsString len)
    | Command.retrieveAllAsString =>
        Returning (buffer.RetrieveAsString buffer.ReadableBytes)
    | Command.hasWriten data =>
        if h : data.length ≤ buffer.WritableBytes then
          Silently ((buffer.Store data h).HasWriten data.length)
        else none
    | Command.unwrite len => Silently (buffer.Unwrite len)
    | Command.readFd none => some (buffer, [])
    | Command.readFd (some bytes) => Silently (buffer.ReadFd bytes)
  else none

/-!
# The abstract deque
-/

def Command.Apply (bytes : List Byte) :
    Command -> Option (List Byte × List Event)
  | append data => some (bytes ++ data, [])
  | prepend data => some (data ++ bytes, [])
  | retrieve len =>
      if len ≤ bytes.length then some (bytes.drop len, []) else none
  | retrieveUntil end_ =>
      if end_ ≤ bytes.length then some (bytes.drop end_, []) else none
  | retrieveAll => some ([], [])
  | retrieveAsString len =>
      if len ≤ bytes.length then
        some (bytes.drop len, [Event.returned (bytes.take len)])
      else none
  | retrieveAllAsString => some ([], [Event.returned bytes])
  | hasWriten data => some (bytes ++ data, [])
  | unwrite len =>
      if len ≤ bytes.length then some (bytes.take (bytes.length - len), [])
      else none
  | readFd none => some (bytes, [])
  | readFd (some data) => some (bytes ++ data, [])

theorem innerAsserts (buffer : Buffer) (command : Command) :
    InnerAsserts buffer command := by
  unfold InnerAsserts
  split
  · exact checkAndMakePlace_asserts _ _
  · exact fun _ => checkAndMakePlace_asserts _ _
  · trivial

theorem execute_refines {buffer : Buffer} {command : Command}
    (h : Asserted buffer command) :
    exists next es, buffer.Execute command = some (next, es) ∧
      command.Apply buffer.Readable = some (next.Readable, es) := by
  unfold Execute
  rw [if_pos (innerAsserts buffer command)]
  cases command with
  | append data =>
      refine ⟨_, _, rfl, ?_⟩
      rw [readable_append]
      rfl
  | prepend data =>
      rcases buffer.prepend_ok h with ⟨next, hnext, hreadable⟩
      refine ⟨next, [], ?_, ?_⟩
      · simp only [hnext, Silently]
      · rw [hreadable]
        rfl
  | retrieve len =>
      have hlen : len ≤ buffer.ReadableBytes := h
      rcases buffer.retrieve_ok h with ⟨next, hnext, hreadable⟩
      refine ⟨next, [], ?_, ?_⟩
      · simp only [hnext, Silently]
      · rw [Command.Apply, length_readable, if_pos hlen, hreadable]
  | retrieveUntil end_ =>
      have hlen : end_ ≤ buffer.ReadableBytes := h
      rcases buffer.retrieve_ok h with ⟨next, hnext, hreadable⟩
      refine ⟨next, [], ?_, ?_⟩
      · simp only [RetrieveUntil, if_pos hlen, hnext,
          Silently]
      · rw [Command.Apply, length_readable, if_pos hlen, hreadable]
  | retrieveAll =>
      refine ⟨_, _, rfl, ?_⟩
      rw [show buffer.RetrieveAll.Readable = [] from slice_self _ _]
      rfl
  | retrieveAsString len =>
      have hlen : len ≤ buffer.ReadableBytes := h
      rcases buffer.retrieveAsString_ok hlen with ⟨next, hnext, hreadable⟩
      refine ⟨next, [Event.returned (buffer.Readable.take len)], ?_, ?_⟩
      · simp only [hnext, Returning]
      · rw [Command.Apply, length_readable, if_pos hlen, hreadable]
  | retrieveAllAsString =>
      rcases buffer.retrieveAsString_ok (Nat.le_refl _) with
        ⟨next, hnext, hreadable⟩
      rw [← length_readable, List.take_length] at hnext
      rw [← length_readable, List.drop_length] at hreadable
      refine ⟨next, [Event.returned buffer.Readable], ?_, ?_⟩
      · simp only [← length_readable, hnext, Returning]
      · rw [hreadable]
        rfl
  | hasWriten data =>
      have hroom : data.length ≤ buffer.WritableBytes := h
      rcases buffer.hasWriten_ok hroom with ⟨next, hnext, hreadable⟩
      refine ⟨next, [], ?_, ?_⟩
      · simp only [dif_pos hroom, hnext, Silently]
      · rw [hreadable]
        rfl
  | unwrite len =>
      have hlen : len ≤ buffer.ReadableBytes := h
      rcases buffer.unwrite_ok h with ⟨next, hnext, hreadable⟩
      refine ⟨next, [], ?_, ?_⟩
      · simp only [hnext, Silently]
      · rw [Command.Apply, length_readable, if_pos hlen, hreadable,
          length_readable]
  | readFd result =>
      cases result with
      | none => exact ⟨buffer, [], rfl, rfl⟩
      | some bytes =>
          cases hread : buffer.ReadFd bytes with
          | error failure =>
              unfold ReadFd at hread
              dsimp only at hread
              rw [if_pos (show bytes.length ≤ _ from h)] at hread
              split at hread <;> cases hread
          | ok next =>
              refine ⟨next, [], ?_, ?_⟩
              · simp only [hread, Silently]
              · rw [readable_of_readFd hread]
                rfl

/-!
# Sizes
-/

def Command.Growth : Command -> Nat
  | append data => data.length
  | readFd (some bytes) => bytes.length
  | _ => 0

theorem length_append_le (buffer : Buffer) (data : List Byte) :
    (buffer.Append data).buffer_.length ≤
      buffer.buffer_.length + data.length := by
  have hwrite := buffer.write_le
  have hread := buffer.read_le
  have hplace : (buffer.CheckAndMakePlace data.length).buffer_.length ≤
      buffer.buffer_.length + data.length := by
    unfold CheckAndMakePlace
    split
    · omega
    · split
      · show (Overwrite _ _ _).length ≤ _
        rw [length_overwrite]
        · omega
        · simp only [length_readable, ReadableBytes, WritableBytes,
            PrependableBytes] at *
          omega
      · show (buffer.buffer_ ++ List.replicate _ _).length ≤ _
        rw [List.length_append, List.length_replicate]
        omega
  have hroom := (buffer.checkAndMakePlace_asserts data.length).2.2
  have hlast := (buffer.CheckAndMakePlace data.length).write_le
  show (Overwrite _ _ data).length ≤ _
  rw [length_overwrite]
  · exact hplace
  · unfold WritableBytes at hroom
    omega

theorem length_write (buffer : Buffer) (data : List Byte)
    (h : data.length ≤ buffer.WritableBytes) :
    (buffer.Write data h).buffer_.length = buffer.buffer_.length := by
  have hwrite := buffer.write_le
  unfold WritableBytes at h
  exact length_overwrite _ _ (by omega)

theorem length_retrieve {buffer next : Buffer} {len : Nat}
    (h : buffer.Retrieve len = Except.ok next) :
    next.buffer_.length = buffer.buffer_.length := by
  unfold Retrieve at h
  split at h
  · split at h <;> cases h <;> rfl
  · cases h

theorem length_readFd_le {buffer next : Buffer} {bytes : List Byte}
    (h : buffer.ReadFd bytes = Except.ok next) :
    next.buffer_.length ≤ buffer.buffer_.length + bytes.length := by
  unfold ReadFd at h
  dsimp only at h
  split at h
  · split at h
    · cases h
      rw [length_write]
      exact Nat.le_add_right _ _
    · cases h
      apply Nat.le_trans (length_append_le _ _)
      rw [length_write, List.length_drop]
      omega
  · cases h

theorem silently_eq_some {call : Outcome Buffer} {next : Buffer}
    {es : List Event} (h : Silently call = some (next, es)) :
    call = Except.ok next := by
  cases call with
  | error failure => cases h
  | ok other =>
      cases h
      rfl

theorem returning_eq_some {call : Outcome (Buffer × List Byte)}
    {next : Buffer} {es : List Event} (h : Returning call = some (next, es)) :
    exists bytes, call = Except.ok (next, bytes) := by
  cases call with
  | error failure => cases h
  | ok other =>
      cases h
      exact ⟨_, rfl⟩

theorem length_retrieveAsString {buffer next : Buffer} {len : Nat}
    {bytes : List Byte}
    (h : buffer.RetrieveAsString len = Except.ok (next, bytes)) :
    next.buffer_.length = buffer.buffer_.length := by
  unfold RetrieveAsString at h
  split at h
  · cases hnext : buffer.Retrieve len with
    | error failure =>
        rw [hnext] at h
        cases h
    | ok other =>
        rw [hnext] at h
        cases h
        exact length_retrieve hnext
  · cases h

theorem length_execute_le {buffer next : Buffer} {command : Command}
    {es : List Event} (h : buffer.Execute command = some (next, es)) :
    next.buffer_.length ≤ buffer.buffer_.length + command.Growth := by
  unfold Execute at h
  rw [if_pos (innerAsserts buffer command)] at h
  cases command with
  | append data =>
      cases h
      exact length_append_le _ _
  | prepend data =>
      have hcall := silently_eq_some h
      unfold Prepend at hcall
      split at hcall
      · rename_i hfront
        cases hcall
        have hread := buffer.read_le
        have hwrite := buffer.write_le
        unfold PrependableBytes at hfront
        exact Nat.le_of_eq (length_overwrite _ _ (by omega))
      · cases hcall
  | retrieve len => exact Nat.le_of_eq (length_retrieve (silently_eq_some h))
  | retrieveUntil end_ =>
      have hcall := silently_eq_some h
      unfold RetrieveUntil at hcall
      split at hcall
      · exact Nat.le_of_eq (length_retrieve hcall)
      · cases hcall
  | retrieveAll =>
      cases h
      exact Nat.le_refl _
  | retrieveAsString len =>
      rcases returning_eq_some h with ⟨bytes, hcall⟩
      exact Nat.le_of_eq (length_retrieveAsString hcall)
  | retrieveAllAsString =>
      rcases returning_eq_some h with ⟨bytes, hcall⟩
      exact Nat.le_of_eq (length_retrieveAsString hcall)
  | hasWriten data =>
      dsimp only at h
      split at h
      · have hcall := silently_eq_some h
        unfold HasWriten at hcall
        split at hcall
        · cases hcall
          rename_i hroom _
          exact Nat.le_of_eq (length_write buffer data hroom)
        · cases hcall
      · cases h
  | unwrite len =>
      have hcall := silently_eq_some h
      unfold Unwrite at hcall
      split at hcall
      · cases hcall
        exact Nat.le_refl _
      · cases hcall
  | readFd result =>
      cases result with
      | none =>
          cases h
          exact Nat.le_refl _
      | some bytes => exact length_readFd_le (silently_eq_some h)

/-!
# Many buffers
-/

variable {ι : Type} [DecidableEq ι]

inductive Operation (ι : Type) where
  | construct (i : ι) (initialSize : Nat)
  | on (i : ι) (command : Command)
  | swap (i j : ι)

def StepOf {α : Type} (family : ι -> Option α) (i : ι)
    (step : α -> Option (α × List Event)) :
    Option ((ι -> Option α) × List Event) :=
  match family i with
  | none => none
  | some a =>
      match step a with
      | none => none
      | some (b, es) => some (Function.update family i (some b), es)

def SwapOf {α : Type} (family : ι -> Option α) (i j : ι) :
    Option ((ι -> Option α) × List Event) :=
  match family i, family j with
  | some a, some b =>
      some (Function.update (Function.update family i (some b)) j (some a), [])
  | _, _ => none

def BufferMachine (ι : Type) [DecidableEq ι] :
    Machine (ι -> Option Buffer) (Operation ι) Event where
  Step family
    | Operation.construct i initialSize =>
        if NewAsserts initialSize then
          some (Function.update family i (some (New initialSize)), [])
        else none
    | Operation.on i command =>
        StepOf family i fun buffer => buffer.Execute command
    | Operation.swap i j => SwapOf family i j

def DequeMachine (ι : Type) [DecidableEq ι] :
    Machine (ι -> Option (List Byte)) (Operation ι) Event where
  Step family
    | Operation.construct i _ => some (Function.update family i (some []), [])
    | Operation.on i command =>
        StepOf family i fun bytes => command.Apply bytes
    | Operation.swap i j => SwapOf family i j

def MayCall (family : ι -> Option Buffer) : Operation ι -> Prop
  | Operation.construct _ _ => True
  | Operation.on i command =>
      match family i with
      | none => False
      | some buffer => buffer.Asserted command
  | Operation.swap i j => (family i).isSome ∧ (family j).isSome

instance (family : ι -> Option Buffer) (op : Operation ι) :
    Decidable (MayCall family op) := by
  unfold MayCall
  split
  · infer_instance
  · split <;> infer_instance
  · infer_instance

def Contents (family : ι -> Option Buffer) : ι -> Option (List Byte) :=
  Option.map Readable ∘ family

theorem contents_update (family : ι -> Option Buffer) (i : ι)
    (buffer : Buffer) :
    Contents (Function.update family i (some buffer)) =
      Function.update (Contents family) i (some buffer.Readable) :=
  Function.comp_update (Option.map Readable) family i (some buffer)

theorem newAsserts (initialSize : Nat) : NewAsserts initialSize := by
  refine ⟨rfl, ?_, rfl⟩
  simp [New, WritableBytes]

omit [DecidableEq ι] in
theorem exists_of_mayCall {family : ι -> Option Buffer} {i : ι}
    {command : Command} (h : MayCall family (Operation.on i command)) :
    exists buffer, family i = some buffer ∧ buffer.Asserted command := by
  cases hbuffer : family i with
  | none => simp [MayCall, hbuffer] at h
  | some buffer =>
      simp only [MayCall, hbuffer] at h
      exact ⟨buffer, rfl, h⟩

theorem step_refines (family : ι -> Option Buffer) (op : Operation ι)
    (h : MayCall family op) :
    exists next es, (BufferMachine ι).Step family op = some (next, es) ∧
      (DequeMachine ι).Step (Contents family) op =
        some (Contents next, es) := by
  cases op with
  | construct i initialSize =>
      refine ⟨_, _, if_pos (newAsserts initialSize), ?_⟩
      rw [contents_update, readable_new]
      rfl
  | on i command =>
      rcases exists_of_mayCall h with ⟨buffer, hbuffer, hasserted⟩
      rcases execute_refines hasserted with ⟨next, es, hone, habstract⟩
      refine ⟨Function.update family i (some next), es, ?_, ?_⟩
      · simp only [BufferMachine, StepOf, hbuffer, hone]
      · have hbytes : Contents family i = some buffer.Readable := by
          rw [Contents, Function.comp_apply, hbuffer]
          rfl
        simp only [DequeMachine, StepOf, hbytes, habstract, contents_update]
  | swap i j =>
      rcases Option.isSome_iff_exists.mp h.1 with ⟨a, ha⟩
      rcases Option.isSome_iff_exists.mp h.2 with ⟨b, hb⟩
      refine ⟨Function.update (Function.update family i (some b)) j (some a),
        [], ?_, ?_⟩
      · simp only [BufferMachine, SwapOf, ha, hb]
      · have hi : Contents family i = some a.Readable := by
          rw [Contents, Function.comp_apply, ha]
          rfl
        have hj : Contents family j = some b.Readable := by
          rw [Contents, Function.comp_apply, hb]
          rfl
        simp only [DequeMachine, SwapOf, hi, hj, contents_update]

def Operation.Growth : Operation ι -> Nat
  | construct _ initialSize => initialSize
  | on _ command => command.Growth
  | swap _ _ => 0

/-- No vector is longer than its reserved prefix and `n` bytes. -/
def AtMost (n : Nat) (family : ι -> Option Buffer) : Prop :=
  forall i buffer, family i = some buffer ->
    buffer.buffer_.length ≤ kInitPrependSize + n

theorem AtMost.update {family : ι -> Option Buffer} {n : Nat} {i : ι}
    {buffer : Buffer} (h : AtMost n family)
    (hbuffer : buffer.buffer_.length ≤ kInitPrependSize + n) :
    AtMost n (Function.update family i (some buffer)) := by
  intro j other hother
  rw [Function.update_apply] at hother
  split at hother
  · cases hother
    exact hbuffer
  · exact h j other hother

omit [DecidableEq ι] in
theorem AtMost.mono {family : ι -> Option Buffer} {m n : Nat} (hle : m ≤ n)
    (h : AtMost m family) : AtMost n family := by
  intro i buffer hbuffer
  exact Nat.le_trans (h i buffer hbuffer) (Nat.add_le_add_left hle _)

theorem step_atMost (n : Nat) (family : ι -> Option Buffer)
    (op : Operation ι) (next : ι -> Option Buffer) (es : List Event)
    (h : AtMost n family)
    (hstep : (BufferMachine ι).Step family op = some (next, es)) :
    AtMost (n + op.Growth) next := by
  have hmore : AtMost (n + op.Growth) family := h.mono (Nat.le_add_right _ _)
  cases op with
  | construct i initialSize =>
      simp only [BufferMachine, if_pos (newAsserts initialSize)] at hstep
      cases hstep
      apply hmore.update
      simp only [New, List.length_replicate, Operation.Growth]
      omega
  | on i command =>
      simp only [BufferMachine, StepOf] at hstep
      split at hstep
      · cases hstep
      · rename_i buffer hbuffer
        split at hstep
        · cases hstep
        · rename_i other es' hone
          cases hstep
          apply hmore.update
          have hlength := length_execute_le hone
          have hold := h i buffer hbuffer
          show _ ≤ kInitPrependSize + (n + command.Growth)
          omega
  | swap i j =>
      simp only [BufferMachine, SwapOf] at hstep
      split at hstep
      · rename_i a b ha hb
        cases hstep
        exact (hmore.update (hmore j b hb)).update (hmore i a ha)
      · cases hstep

/-!
# What `FindCRLF` finds
-/

theorem findCRLF_eq_some (buffer : Buffer) (k : Nat) :
    buffer.FindCRLF = some k <-> FirstAt kCRLF buffer.Readable k := by
  rw [firstAt_iff kCRLF_ne_nil, length_readable, FindCRLF]
  split
  · rename_i hend
    constructor
    · intro h
      cases h
    · intro hboth
      rcases hboth with ⟨hk, hne⟩
      exact absurd (hk.symm.trans hend) hne
  · rename_i hend
    constructor
    · intro h
      cases h
      exact ⟨rfl, hend⟩
    · intro hpair
      rcases hpair with ⟨hk, _⟩
      rw [hk]

theorem findCRLF_eq_none (buffer : Buffer) :
    buffer.FindCRLF = none <->
      forall k, ¬kCRLF <+: buffer.Readable.drop k := by
  rw [← search_eq_length_iff kCRLF_ne_nil, length_readable, FindCRLF]
  split
  · rename_i hend
    exact ⟨fun _ => hend, fun _ => rfl⟩
  · rename_i hend
    constructor
    · intro h
      cases h
    · intro h
      exact absurd h hend

/-!
# The refinement
-/

/--
Every sequence of operations that may be called is carried out by the buffers,
and the readable bytes are what the deques hold.  The vectors are no longer
than their reserved prefixes and all that was put in, so that below `2 ^ 63`
bytes no index wraps.
-/
theorem buffers_refine_deques {ops : List (Operation ι)}
    (h : (BufferMachine ι).Guarded MayCall (fun _ => none) ops) :
    exists family tr,
      (BufferMachine ι).Run (fun _ => none) ops = some (family, tr) ∧
      (DequeMachine ι).Run (fun _ => none) ops =
        some (Contents family, tr) ∧
      forall i buffer, family i = some buffer ->
        buffer.readIndex_ ≤ buffer.writeIndex_ ∧
          buffer.writeIndex_ ≤ buffer.buffer_.length ∧
          buffer.buffer_.length ≤
            kInitPrependSize + (ops.map Operation.Growth).sum ∧
          (forall k, buffer.FindCRLF = some k <->
            FirstAt kCRLF buffer.Readable k) ∧
          (buffer.FindCRLF = none <->
            forall k, ¬kCRLF <+: buffer.Readable.drop k) := by
  have hstart : AtMost (ι := ι) 0 fun _ => none := by
    intro i buffer hbuffer
    cases hbuffer
  rcases Machine.run_refines step_refines h with ⟨family, tr, hrun, hdeque⟩
  refine ⟨family, tr, hrun, hdeque, ?_⟩
  intro i buffer hbuffer
  have hsize := Machine.run_bounded step_atMost hstart hrun i buffer hbuffer
  rw [Nat.zero_add] at hsize
  exact ⟨buffer.read_le, buffer.write_le, hsize, buffer.findCRLF_eq_some,
    buffer.findCRLF_eq_none⟩

def TwoBuffers : List (Operation Bool) :=
  [Operation.construct true 4, Operation.construct false 0,
    Operation.on true (Command.append [13, 10, 3]),
    Operation.on true (Command.retrieve 2),
    Operation.on true (Command.append [4, 5]),
    Operation.on true (Command.prepend [1, 2]),
    Operation.on true (Command.unwrite 1),
    Operation.on true (Command.hasWriten [7]),
    Operation.on false (Command.readFd (some [9, 13, 10])),
    Operation.on false (Command.readFd none), Operation.swap true false,
    Operation.on false (Command.retrieveAsString 4),
    Operation.on true (Command.retrieveUntil 1)]

theorem buffers_refine_deques_of_two :
    exists family,
      (BufferMachine Bool).Run (fun _ => none) TwoBuffers =
        some (family, [Event.returned [1, 2, 3, 4]]) ∧
      Contents family true = some [13, 10] ∧
      Contents family false = some [7] := by
  have hguard : (BufferMachine Bool).Guarded MayCall (fun _ => none)
      TwoBuffers := by decide +kernel
  rcases buffers_refine_deques hguard with ⟨family, tr, hrun, hdeque, _⟩
  have hvalue : ((DequeMachine Bool).Run (fun _ => none) TwoBuffers).map
      (fun last => ((last.1 true, last.1 false), last.2)) =
        some ((some [13, 10], some [7]), [Event.returned [1, 2, 3, 4]]) := by
    decide +kernel
  rw [hdeque] at hvalue
  simp only [Option.map_some, Option.some.injEq, Prod.mk.injEq] at hvalue
  rcases hvalue with ⟨⟨htrue, hfalse⟩, rfl⟩
  exact ⟨family, hrun, htrue, hfalse⟩

end Buffer
end Net
end Wethands
