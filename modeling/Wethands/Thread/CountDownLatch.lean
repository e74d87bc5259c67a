import Wethands.Foundation.Monitor

/-!
# The latch

`CountDown`, `Wait` and `GetCount` are the calls of a monitor over the count.
-/

namespace Wethands
namespace Thread
namespace CountDownLatch

open Foundation

inductive Cond where
  | cond_
deriving DecidableEq

inductive Request where
  | countDown
  | wait
  | getCount
deriving DecidableEq

inductive Event where
  | countedDown
  | waited
  | count (count_ : Int)
deriving DecidableEq

def CountDown (count_ : Int) : Verdict Int Cond Event :=
  let count_ := count_ - 1
  Verdict.ends count_ Event.countedDown
    (fun _ => if count_ = 0 then Signal.all else Signal.quiet)

def Wait (count_ : Int) : Verdict Int Cond Event :=
  if 0 < count_ then Verdict.waits Cond.cond_
  else Verdict.ends count_ Event.waited (fun _ => Signal.quiet)

def GetCount (count_ : Int) : Verdict Int Cond Event :=
  Verdict.ends count_ (Event.count count_) (fun _ => Signal.quiet)

def Section (request : Request) (count_ : Int) : Verdict Int Cond Event :=
  match request with
  | Request.countDown => CountDown count_
  | Request.wait => Wait count_
  | Request.getCount => GetCount count_

def LatchMonitor : Monitor Int Request Cond Event where
  Section := Section
  WaitsOn := fun _ => Cond.cond_
  waits_on := fun _ _ cond _ => by
    cases cond
    rfl

def Conds : List Cond := [Cond.cond_]

theorem mem_conds (cond : Cond) : cond ∈ Conds := by
  cases cond
  exact List.mem_singleton.mpr rfl

theorem count_pos_of_waits {request : Request} {count_ : Int} {cond : Cond}
    (h : LatchMonitor.Section request count_ = Verdict.waits cond) :
    request = Request.wait ∧ 0 < count_ := by
  cases request with
  | countDown => cases h
  | wait =>
      change Wait count_ = Verdict.waits cond at h
      unfold Wait at h
      split at h
      · exact ⟨rfl, ‹_›⟩
      · cases h
  | getCount => cases h

inductive Ends (count_ : Int) : Request -> Int -> Event ->
    (Cond -> Signal) -> Prop where
  | countedDown :
      Ends count_ Request.countDown (count_ - 1) Event.countedDown
        (fun _ => if count_ - 1 = 0 then Signal.all else Signal.quiet)
  | waited : count_ ≤ 0 ->
      Ends count_ Request.wait count_ Event.waited (fun _ => Signal.quiet)
  | counted :
      Ends count_ Request.getCount count_ (Event.count count_)
        (fun _ => Signal.quiet)

theorem section_ends {request : Request} {count_ next : Int} {event : Event}
    {signals : Cond -> Signal}
    (h : LatchMonitor.Section request count_ =
      Verdict.ends next event signals) :
    Ends count_ request next event signals := by
  cases request with
  | countDown =>
      cases h
      exact Ends.countedDown
  | wait =>
      change Wait count_ = Verdict.ends next event signals at h
      unfold Wait at h
      split at h
      · cases h
      · cases h
        exact Ends.waited (by omega)
  | getCount =>
      cases h
      exact Ends.counted

end CountDownLatch
end Thread
end Wethands
