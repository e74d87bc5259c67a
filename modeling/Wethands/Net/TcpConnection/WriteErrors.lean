import Wethands.Net.TcpConnection.Model

/-!
# Write errors

A write to the socket is made by `SendInLoop`, when nothing is waiting, and by
`HandleWrite`.  The two treat an error apart from each other.
-/

namespace Wethands
namespace Net

open Foundation

namespace TcpConnection

/-- The errors of `write` that the peer or the network brings about. -/
inductive PeerErrno where
  | EPIPE
  | ECONNRESET
  | ETIMEDOUT
  | EHOSTUNREACH
  | ENETUNREACH
  | EAGAIN
  | EINTR
deriving DecidableEq

/-- The case of the `switch` that the error falls under. -/
def PeerErrno.Case : PeerErrno -> Errno
  | EPIPE => Errno.EPIPE
  | EINTR => Errno.EINTR
  | EAGAIN => Errno.EWOULDBLOCK
  | ECONNRESET => Errno.other
  | ETIMEDOUT => Errno.other
  | EHOSTUNREACH => Errno.other
  | ENETUNREACH => Errno.other

variable {ThreadId : Type}

/-!
# The writes that fail
-/

/-- The bytes of the write that `SendInLoop` makes, and its error. -/
def FailedSend (world : World ThreadId) (data : List Byte) :
    WriteResult -> Option (List Byte × Errno)
  | WriteResult.wrote _ => none
  | WriteResult.failed errno =>
      if world.conn.state_ = States.kConnected ∧
          world.conn.socketChannel_.IsWriting = false ∧
          world.conn.outputBuffer_.ReadableBytes = 0 then some (data, errno)
      else none

def FailedDirect (world : World ThreadId) :
    Input ThreadId -> Option (List Byte × Errno)
  | Input.api (Api.send data result) => FailedSend world data result
  | Input.runFunctor result =>
      if world.stack = [] then
        match world.pendingFunctors_ with
        | Functor.sendInLoop data :: _ => FailedSend world data result
        | _ => none
      else none
  | _ => none

def FailedDeferred (world : World ThreadId) :
    Input ThreadId -> Option (List Byte × Errno)
  | Input.handleWrite (WriteResult.failed errno) =>
      if world.stack = [] ∧
          world.conn.socketChannel_.registeredToPoller = true ∧
          world.conn.socketChannel_.IsWriting = true then
        some (world.conn.outputBuffer_.Readable, errno)
      else none
  | _ => none

theorem of_failedSend {world : World ThreadId} {data bytes : List Byte}
    {result : WriteResult} {errno : Errno}
    (h : FailedSend world data result = some (bytes, errno)) :
    (world.conn.state_ = States.kConnected ∧
      world.conn.socketChannel_.IsWriting = false ∧
      world.conn.outputBuffer_.ReadableBytes = 0) ∧
      data = bytes ∧ result = WriteResult.failed errno := by
  cases result with
  | wrote n => cases h
  | failed errno' =>
      rw [FailedSend] at h
      split at h
      · rename_i hdirect
        cases h
        exact ⟨hdirect, rfl, rfl⟩
      · cases h

theorem readable_appendRemaining (world : World ThreadId)
    (remaining : List Byte) :
    (AppendRemaining world remaining).conn.outputBuffer_.Readable =
      world.conn.outputBuffer_.Readable ++ remaining := by
  simp [AppendRemaining]

theorem state_appendRemaining (world : World ThreadId)
    (remaining : List Byte) :
    (AppendRemaining world remaining).conn.state_ = world.conn.state_ := by
  unfold AppendRemaining QueueInLoop
  dsimp only
  split <;> rfl

theorem sendInLoop_failed {world : World ThreadId} {data bytes : List Byte}
    {result : WriteResult} {errno : Errno}
    (h : FailedSend world data result = some (bytes, errno)) :
    exists es, SendInLoop world data result =
      if errno = Errno.other then Except.error Failure.sysFatal
      else Except.ok (AppendRemaining world bytes, es) := by
  rcases of_failedSend h with ⟨hdirect, rfl, rfl⟩
  rw [SendInLoop, if_neg (not_not.mpr hdirect.1), if_pos hdirect.2]
  cases errno with
  | other => exact ⟨[], rfl⟩
  | EPIPE => exact ⟨_, rfl⟩
  | EINTR => exact ⟨_, rfl⟩
  | EWOULDBLOCK => exact ⟨_, rfl⟩

section Threads

variable [DecidableEq ThreadId]

theorem perform_failedDirect {world : World ThreadId} {i : Input ThreadId}
    {bytes : List Byte} {errno : Errno}
    (h : FailedDirect world i = some (bytes, errno)) :
    world.conn.outputBuffer_.Readable = [] ∧
      exists mid es, mid.conn = world.conn ∧ Perform world i =
        if errno = Errno.other then Except.error Failure.sysFatal
        else Except.ok (AppendRemaining mid bytes, es) := by
  unfold FailedDirect at h
  split at h
  · rename_i data result
    rcases of_failedSend h with ⟨⟨hstate, _, hempty⟩, _⟩
    rcases sendInLoop_failed h with ⟨es, hsend⟩
    refine ⟨?_, world, es, rfl, ?_⟩
    · rw [<- List.length_eq_zero_iff, Buffer.length_readable, hempty]
    · rw [<- hsend]
      exact if_neg (not_not.mpr hstate)
  · rename_i result
    split at h
    · rename_i hstack
      split at h
      · rename_i data rest hfunctors
        rcases of_failedSend h with ⟨⟨_, _, hempty⟩, _⟩
        have htaken : FailedSend { world with pendingFunctors_ := rest }
            data result = some (bytes, errno) := h
        rcases sendInLoop_failed htaken with ⟨es, hsend⟩
        refine ⟨?_, { world with pendingFunctors_ := rest }, es, rfl, ?_⟩
        · rw [<- List.length_eq_zero_iff, Buffer.length_readable, hempty]
        · rw [<- hsend]
          simp only [Perform, InLoop, if_pos hstack, RunFunctor, hfunctors]
      · cases h
    · cases h
  · cases h

theorem perform_failedDeferred {world : World ThreadId} {i : Input ThreadId}
    {bytes : List Byte} {errno : Errno}
    (h : FailedDeferred world i = some (bytes, errno)) :
    bytes = world.conn.outputBuffer_.Readable ∧
      Perform world i = Except.ok (world, []) := by
  unfold FailedDeferred at h
  split at h
  · split at h
    · rename_i hevent
      cases h
      refine ⟨rfl, ?_⟩
      simp only [Perform, OnEvent, InLoop, if_pos hevent.1,
        if_pos hevent.2.1]
      rfl
    · cases h
  · cases h

/-!
# The connections of a process

An answer that does not come ends the process, and every connection with it.
-/

variable {ConnId : Type} [DecidableEq ConnId]

def ProcessMachine (ConnId ThreadId : Type) [DecidableEq ConnId]
    [DecidableEq ThreadId] :
    Machine (ConnId -> World ThreadId) (ConnId × Input ThreadId)
      (ConnId × Event) where
  Step process input :=
    match Perform (process input.1) input.2 with
    | Except.error _ => none
    | Except.ok (world, es) =>
        some (Function.update process input.1 world,
          es.map (fun e => (input.1, e)))

def StartProcess (ThreadId : Type) (closeCallback : ConnId -> CloseCallback) :
    ConnId -> World ThreadId :=
  fun id => Init ThreadId (closeCallback id)

/--
A write that fails because of the peer leaves its bytes in the output buffer,
the state as it was, and the process running.
-/
def Contained (process : ConnId -> World ThreadId)
    (input : ConnId × Input ThreadId) : Prop :=
  forall (errno : PeerErrno) (bytes : List Byte),
    FailedDirect (process input.1) input.2 = some (bytes, errno.Case) ∨
      FailedDeferred (process input.1) input.2 = some (bytes, errno.Case) ->
    exists next es,
      (ProcessMachine ConnId ThreadId).Step process input = some (next, es) ∧
        (next input.1).conn.outputBuffer_.Readable = bytes ∧
        (next input.1).conn.state_ = (process input.1).conn.state_ ∧
        forall other, other ≠ input.1 -> next other = process other

/-- A direct write fails with none but the errors that the code names. -/
def Named (process : ConnId -> World ThreadId)
    (input : ConnId × Input ThreadId) : Prop :=
  (FailedDirect (process input.1) input.2).map Prod.snd ≠ some Errno.other

instance (process : ConnId -> World ThreadId)
    (input : ConnId × Input ThreadId) : Decidable (Named process input) :=
  inferInstanceAs (Decidable (_ ≠ _))

theorem contained_iff (process : ConnId -> World ThreadId)
    (input : ConnId × Input ThreadId) :
    Contained process input <-> Named process input := by
  constructor
  · intro h hother
    rcases Option.map_eq_some_iff.mp hother with ⟨⟨bytes, _⟩, hdirect, rfl⟩
    rcases h PeerErrno.ECONNRESET bytes (Or.inl hdirect) with
      ⟨next, es, hstep, _⟩
    rcases perform_failedDirect hdirect with ⟨_, mid, es', _, hperform⟩
    rw [if_pos rfl] at hperform
    simp only [ProcessMachine, hperform] at hstep
    cases hstep
  · rintro hnamed errno bytes (hdirect | hdeferred)
    · rcases perform_failedDirect hdirect with
        ⟨hempty, mid, es, hconn, hperform⟩
      have hcase : errno.Case ≠ Errno.other := by
        intro hother
        apply hnamed
        rw [hdirect, hother]
        rfl
      rw [if_neg hcase] at hperform
      refine ⟨Function.update process input.1 (AppendRemaining mid bytes),
        es.map (fun e => (input.1, e)), ?_, ?_, ?_, ?_⟩
      · simp only [ProcessMachine, hperform]
      · rw [Function.update_self, readable_appendRemaining, hconn, hempty,
          List.nil_append]
      · rw [Function.update_self, state_appendRemaining, hconn]
      · intro other hother
        exact Function.update_of_ne hother _ _
    · rcases perform_failedDeferred hdeferred with ⟨rfl, hperform⟩
      refine ⟨process, [], ?_, rfl, rfl, fun _ _ => rfl⟩
      simp only [ProcessMachine, hperform, Function.update_eq_self]
      rfl

/--
On every run of a process: the write errors are contained exactly when no
direct write meets an error that the `switch` does not name.
-/
theorem write_errors_contained_iff (closeCallback : ConnId -> CloseCallback)
    (inputs : List (ConnId × Input ThreadId)) :
    (ProcessMachine ConnId ThreadId).Guarded Contained
        (StartProcess ThreadId closeCallback) inputs <->
      (ProcessMachine ConnId ThreadId).Guarded Named
        (StartProcess ThreadId closeCallback) inputs :=
  Machine.guarded_congr contained_iff _ inputs

end Threads

def ResetRun : List (Bool × Input Unit) :=
  [(true, Input.runFunctor (WriteResult.wrote 0)), (true, Input.returns),
    (true, Input.api (Api.send [1]
      (WriteResult.failed PeerErrno.ECONNRESET.Case)))]

theorem reset_not_contained :
    ¬(ProcessMachine Bool Unit).Guarded Contained
      (StartProcess Unit (fun _ => CloseCallback.sameLoop)) ResetRun := by
  intro h
  have hnamed := (Machine.guarded_congr contained_iff _ _).mp h
  revert hnamed
  decide +kernel

end TcpConnection
end Net
end Wethands
