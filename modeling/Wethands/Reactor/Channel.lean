import Mathlib.Data.BitVec
import Wethands.Foundation.Outcome

/-!
# Channels

The interest of a descriptor in events, as a mask for the poller.  The poller
itself is left out: what is registered with it is the mask of the channel.
-/

namespace Wethands
namespace Reactor

open Foundation

structure Channel where
  events_ : BitVec 32
  registeredToPoller : Bool
deriving DecidableEq

namespace Channel

def EPOLLIN : BitVec 32 := 1

def EPOLLPRI : BitVec 32 := 2

def EPOLLOUT : BitVec 32 := 4

def EPOLLERR : BitVec 32 := 8

def EPOLLHUP : BitVec 32 := 16

def EPOLLRDHUP : BitVec 32 := 8192

def kNoneEvent : BitVec 32 := 0

/-- The conjunction is the logical one, so that its value is a truth value. -/
def kReadEvent : BitVec 32 :=
  if EPOLLIN ≠ 0 ∧ EPOLLPRI ≠ 0 then 1 else 0

def kWriteEvent : BitVec 32 := EPOLLOUT

def New : Channel where
  events_ := kNoneEvent
  registeredToPoller := false

def RegisterToPoller (channel : Channel) : Channel :=
  { channel with registeredToPoller := true }

def EnableReading (channel : Channel) : Channel :=
  RegisterToPoller { channel with events_ := channel.events_ ||| kReadEvent }

def DisableReading (channel : Channel) : Channel :=
  RegisterToPoller { channel with events_ := channel.events_ &&& ~~~kReadEvent }

def EnableWriting (channel : Channel) : Channel :=
  RegisterToPoller { channel with events_ := channel.events_ ||| kWriteEvent }

def DisableWriting (channel : Channel) : Channel :=
  RegisterToPoller
    { channel with events_ := channel.events_ &&& ~~~kWriteEvent }

def DisableAll (channel : Channel) : Channel :=
  RegisterToPoller { channel with events_ := kNoneEvent }

def IsReading (channel : Channel) : Bool :=
  channel.events_ &&& kReadEvent ≠ 0

def IsWriting (channel : Channel) : Bool :=
  channel.events_ &&& kWriteEvent ≠ 0

def IsRegistered (channel : Channel) : Bool := channel.registeredToPoller

def RemoveFromPoller (channel : Channel) : Outcome Channel :=
  if channel.events_ = kNoneEvent then
    Except.ok { channel with registeredToPoller := false }
  else Except.error Failure.assertion

/-!
# Interest in writing after each change
-/

@[simp] theorem isWriting_new : New.IsWriting = false := rfl

@[simp] theorem isWriting_enableWriting (channel : Channel) :
    channel.EnableWriting.IsWriting = true := by
  have hbit : (channel.events_ ||| kWriteEvent) &&& kWriteEvent ≠ 0 := by
    intro hzero
    have hbits := congrArg (fun mask => mask.getLsbD 2) hzero
    simp [kWriteEvent, EPOLLOUT] at hbits
  exact decide_eq_true hbit

@[simp] theorem isWriting_disableWriting (channel : Channel) :
    channel.DisableWriting.IsWriting = false := by
  simp [IsWriting, DisableWriting, RegisterToPoller, BitVec.and_assoc]

@[simp] theorem isWriting_disableAll (channel : Channel) :
    channel.DisableAll.IsWriting = false := by
  simp [IsWriting, DisableAll, RegisterToPoller, kNoneEvent]

/-- The two interests are different bits. -/
@[simp] theorem isWriting_enableReading (channel : Channel) :
    channel.EnableReading.IsWriting = channel.IsWriting := by
  have hdisjoint : kWriteEvent &&& kReadEvent = 0 := by decide
  simp [IsWriting, EnableReading, RegisterToPoller, BitVec.and_comm,
    BitVec.and_or_distrib_left, hdisjoint]

@[simp] theorem isWriting_disableReading (channel : Channel) :
    channel.DisableReading.IsWriting = channel.IsWriting := by
  have hdisjoint : ~~~kReadEvent &&& kWriteEvent = kWriteEvent := by decide
  simp [IsWriting, DisableReading, RegisterToPoller, BitVec.and_assoc,
    hdisjoint]

/-!
# Interest in reading after each change
-/

@[simp] theorem isReading_disableReading (channel : Channel) :
    channel.DisableReading.IsReading = false := by
  simp [IsReading, DisableReading, RegisterToPoller, BitVec.and_assoc]

@[simp] theorem isReading_disableAll (channel : Channel) :
    channel.DisableAll.IsReading = false := by
  simp [IsReading, DisableAll, RegisterToPoller, kNoneEvent]

@[simp] theorem isReading_enableWriting (channel : Channel) :
    channel.EnableWriting.IsReading = channel.IsReading := by
  have hdisjoint : kReadEvent &&& kWriteEvent = 0 := by decide
  simp [IsReading, EnableWriting, RegisterToPoller, BitVec.and_comm,
    BitVec.and_or_distrib_left, hdisjoint]

@[simp] theorem isReading_disableWriting (channel : Channel) :
    channel.DisableWriting.IsReading = channel.IsReading := by
  have hdisjoint : ~~~kWriteEvent &&& kReadEvent = kReadEvent := by decide
  simp [IsReading, DisableWriting, RegisterToPoller, BitVec.and_assoc,
    hdisjoint]

@[simp] theorem isReading_enableReading (channel : Channel) :
    channel.EnableReading.IsReading = true := by
  have hbit : (channel.events_ ||| kReadEvent) &&& kReadEvent ≠ 0 := by
    intro hzero
    have hbits := congrArg (fun mask => mask.getLsbD 0) hzero
    simp [kReadEvent, EPOLLIN, EPOLLPRI] at hbits
  exact decide_eq_true hbit

theorem removeFromPoller_disableAll (channel : Channel) :
    channel.DisableAll.RemoveFromPoller =
      Except.ok { events_ := kNoneEvent, registeredToPoller := false } := by
  simp [RemoveFromPoller, DisableAll, RegisterToPoller]

/-!
# The interests that there are
-/

def Interests : List (BitVec 32) :=
  [kNoneEvent, kReadEvent, kWriteEvent, kReadEvent ||| kWriteEvent]

/-- Only the two interests of the class are ever set. -/
def Masked (channel : Channel) : Prop :=
  channel.events_ ∈ Interests

def Adjusts (channel next : Channel) : Prop :=
  next = channel ∨
    next.registeredToPoller = true ∧ (channel.Masked -> next.Masked)

theorem masked_none (registeredToPoller : Bool) :
    Masked { events_ := kNoneEvent
             registeredToPoller := registeredToPoller } :=
  List.mem_cons_self

theorem adjusts_of_interests (channel : Channel)
    (change : BitVec 32 -> BitVec 32)
    (hchange : Interests.all
      (fun events_ => decide (change events_ ∈ Interests)) = true) :
    Adjusts channel (RegisterToPoller
      { channel with events_ := change channel.events_ }) := by
  refine Or.inr ⟨rfl, fun hmasked => ?_⟩
  have hmember : change channel.events_ ∈ Interests := by
    simpa using List.all_eq_true.mp hchange channel.events_ hmasked
  exact hmember

theorem adjusts_enableReading (channel : Channel) :
    Adjusts channel channel.EnableReading :=
  adjusts_of_interests channel (fun events_ => events_ ||| kReadEvent)
    (by decide)

theorem adjusts_disableReading (channel : Channel) :
    Adjusts channel channel.DisableReading :=
  adjusts_of_interests channel (fun events_ => events_ &&& ~~~kReadEvent)
    (by decide)

theorem adjusts_enableWriting (channel : Channel) :
    Adjusts channel channel.EnableWriting :=
  adjusts_of_interests channel (fun events_ => events_ ||| kWriteEvent)
    (by decide)

theorem adjusts_disableWriting (channel : Channel) :
    Adjusts channel channel.DisableWriting :=
  adjusts_of_interests channel (fun events_ => events_ &&& ~~~kWriteEvent)
    (by decide)

theorem adjusts_disableAll (channel : Channel) :
    Adjusts channel channel.DisableAll :=
  adjusts_of_interests channel (fun _ => kNoneEvent) (by decide)

end Channel
end Reactor
end Wethands
