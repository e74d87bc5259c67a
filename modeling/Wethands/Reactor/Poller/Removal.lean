import Wethands.Reactor.Poller

/-!
# Removing a channel that is not registered

`epoll_ctl` returns -1 and leaves the error in `errno`, but the poller compares
what it returns with `ENOENT`.
-/

namespace Wethands
namespace Reactor

open Foundation

namespace Poller

variable {ι : Type} [DecidableEq ι]

/-!
# The two tests of the return value
-/

def ENOENT : Int := 2

def Returned : Except Errno (Epoll ι) -> Int
  | Except.error _ => -1
  | Except.ok _ => 0

/-- The interest list behind a call, which an error leaves as it was. -/
def Afterwards (epoll : Epoll ι) : Except Errno (Epoll ι) -> Epoll ι
  | Except.error _ => epoll
  | Except.ok next => next

/-- `RemoveChannel` branch by branch. -/
def RemoveTesting (fd : ι -> Int) (poller : Poller ι) (i : ι) :
    Call (Poller ι) Event :=
  let result := EpollCtl poller.epoll Op.EPOLL_CTL_DEL (fd i)
    { events := (poller.channels i).events_, ptr := i }
  let ret := Returned result
  let erased := { poller with
    channels_ := Function.update poller.channels_ (fd i) none
    epoll := Afterwards poller.epoll result }
  let event := Event.epollCtl Op.EPOLL_CTL_DEL
    (poller.epoll.interests (fd i)).isSome
  if ret = ENOENT then Except.ok (erased, [event])
  else if ret < 0 then Except.error Failure.sysFatal
  else Except.ok (erased, [event])

omit [DecidableEq ι] in
/-- The branch that only logs is never taken. -/
theorem removeTesting_eq (fd : ι -> Int) (poller : Poller ι) (i : ι) :
    RemoveTesting fd poller i = RemoveChannel fd poller i := by
  unfold RemoveTesting RemoveChannel Control
  cases hresult : EpollCtl poller.epoll Op.EPOLL_CTL_DEL (fd i)
    { events := (poller.channels i).events_, ptr := i } with
  | error errno => simp [hresult, Returned, ENOENT]
  | ok epoll => simp [hresult, Returned, ENOENT, Afterwards]

/-!
# What the table holds

In any run, orderly or not, an entry of the kernel belongs to a registered
channel with that descriptor, which is also the one in the map.
-/

variable {fd : ι -> Int} {poller : Poller ι} {i : ι}

structure Tabled (fd : ι -> Int) (poller : Poller ι) : Prop where
  entry : forall n entry, poller.epoll.interests n = some entry ->
    poller.epoll.isOpen n = true ∧ poller.channels_ n = some entry.ptr ∧
      fd entry.ptr = n ∧
      (poller.channels entry.ptr).registeredToPoller = true

omit [DecidableEq ι] in
theorem tabled_init (isOpen : Int -> Bool) :
    Tabled fd (Init isOpen : Poller ι) where
  entry := by
    intro n entry hentry
    cases hentry

theorem tabled_renew (h : Tabled fd poller) {channel : Channel}
    (hopen : poller.epoll.isOpen (fd i) = true) :
    Tabled fd (Renew fd poller i channel (EntryOf i channel)) where
  entry := by
    intro n entry hentry
    change Function.update poller.epoll.interests (fd i) _ n = some entry
      at hentry
    show poller.epoll.isOpen n = true ∧
      Function.update poller.channels_ (fd i) _ n = some entry.ptr ∧
      fd entry.ptr = n ∧ (Function.update poller.channels i channel
        entry.ptr).registeredToPoller = true
    by_cases hn : n = fd i
    · subst hn
      rw [Function.update_self] at hentry ⊢
      have hregistered : channel.registeredToPoller = true := by
        by_contra hnot
        rw [EntryOf, if_neg hnot] at hentry
        cases hentry
      rw [EntryOf, if_pos hregistered] at hentry
      cases hentry
      rw [Function.update_self, EntryOf, if_pos hregistered]
      exact ⟨hopen, rfl, rfl, hregistered⟩
    · rw [Function.update_of_ne hn] at hentry ⊢
      rcases h.entry n entry hentry with ⟨hisOpen, hmap, hfd, hregistered⟩
      have hother : entry.ptr ≠ i := by
        intro hsame
        rw [hsame] at hfd
        exact hn hfd.symm
      rw [Function.update_of_ne hother]
      exact ⟨hisOpen, hmap, hfd, hregistered⟩

omit [DecidableEq ι] in
theorem control_yields (op : Op) (entry : Option ι) :
    Yields (Control fd poller op i entry) (fun next _ =>
      poller.epoll.isOpen (fd i) = true ∧
        ((poller.epoll.interests (fd i)).isSome = false <->
          op = Op.EPOLL_CTL_ADD) ∧
        next = { poller with
          channels_ := Function.update poller.channels_ (fd i) entry
          epoll := { poller.epoll with
            interests := Function.update poller.epoll.interests (fd i)
              (if op = Op.EPOLL_CTL_DEL then none
              else some { events := (poller.channels i).events_
                          ptr := i }) } }) := by
  unfold Control EpollCtl
  by_cases hopen : poller.epoll.isOpen (fd i)
  · cases op <;> cases hentry : poller.epoll.interests (fd i) <;>
      simp [hopen]
  · simp [hopen]

theorem adjust_yields (change : BitVec 32 -> BitVec 32) :
    Yields (Adjust fd poller i change) (fun next _ =>
      poller.epoll.isOpen (fd i) = true ∧
        next = Renew fd poller i
          { events_ := change (poller.channels i).events_
            registeredToPoller := true }
          (some { events := change (poller.channels i).events_
                  ptr := i })) := by
  unfold Adjust RegisterToPoller UpdateChannel
  apply Yields.in_turn
  refine (control_yields _ _).mono (fun mid es hmid => ?_)
  rcases hmid with ⟨hopen, _, rfl⟩
  rw [yields_ok]
  refine ⟨hopen, ?_⟩
  have hadds : ¬(if ((SetChannel poller i { poller.channels i with
      events_ := change (poller.channels i).events_ }).channels
        i).registeredToPoller
      then Op.EPOLL_CTL_MOD else Op.EPOLL_CTL_ADD) = Op.EPOLL_CTL_DEL := by
    split <;> simp
  rw [if_neg hadds]
  simp [SetChannel, Renew, Channel.RegisterToPoller]

theorem removeFromPoller_yields :
    Yields (RemoveFromPoller fd poller i) (fun next _ =>
      poller.epoll.isOpen (fd i) = true ∧
        (poller.epoll.interests (fd i)).isSome = true ∧
        next = Renew fd poller i
          { poller.channels i with registeredToPoller := false } none) := by
  unfold RemoveFromPoller RemoveChannel
  refine Yields.assert (fun _ => ?_)
  apply Yields.in_turn
  refine (control_yields _ _).mono (fun mid es hmid => ?_)
  rcases hmid with ⟨hopen, hadds, rfl⟩
  rw [yields_ok]
  refine ⟨hopen, ?_, ?_⟩
  · rw [← Bool.not_eq_false, hadds]
    simp
  · simp [SetChannel, Renew]

theorem callChannel_yields (request : Request) :
    Yields (CallChannel fd poller i request) (fun next _ =>
      poller.epoll.isOpen (fd i) = true ∧
        next = Renew fd poller i (Asked (poller.channels i) request)
          (EntryOf i (Asked (poller.channels i) request))) := by
  cases request with
  | removeFromPoller =>
      exact removeFromPoller_yields.mono
        (fun next es hnext => ⟨hnext.1, hnext.2.2⟩)
  | enableReading =>
      exact adjust_yields (fun events_ => events_ ||| Channel.kReadEvent)
  | disableReading =>
      exact adjust_yields (fun events_ => events_ &&& ~~~Channel.kReadEvent)
  | enableWriting =>
      exact adjust_yields (fun events_ => events_ ||| Channel.kWriteEvent)
  | disableWriting =>
      exact adjust_yields (fun events_ => events_ &&& ~~~Channel.kWriteEvent)
  | disableAll => exact adjust_yields (fun _ => Channel.kNoneEvent)

theorem tabled_step {input : Input ι} (h : Tabled fd poller) :
    Yields (Perform fd poller input) (fun next _ => Tabled fd next) := by
  cases input with
  | call i request =>
      refine (callChannel_yields request).mono (fun next es hnext => ?_)
      rcases hnext with ⟨hopen, rfl⟩
      exact tabled_renew h hopen
  | opened n =>
      refine yields_ok.mpr ⟨fun m entry hentry => ?_⟩
      rcases h.entry m entry hentry with ⟨hisOpen, hrest⟩
      refine ⟨?_, hrest⟩
      show Function.update poller.epoll.isOpen n true m = true
      by_cases hm : m = n
      · rw [hm, Function.update_self]
      · rwa [Function.update_of_ne hm]
  | closed n =>
      refine yields_ok.mpr ⟨fun m entry hentry => ?_⟩
      change Function.update poller.epoll.interests n none m = some entry
        at hentry
      show Function.update poller.epoll.isOpen n false m = true ∧ _
      by_cases hm : m = n
      · rw [hm, Function.update_self] at hentry
        cases hentry
      · rw [Function.update_of_ne hm] at hentry ⊢
        exact h.entry m entry hentry

theorem tabled_run {isOpen : Int -> Bool} {inputs : List (Input ι)}
    {tr : List Event}
    (hrun : (PollerMachine fd).Run (Init isOpen) inputs = some (poller, tr)) :
    Tabled fd poller :=
  Machine.run_invariant (p := []) (I := fun poller _ => Tabled fd poller)
    (fun _ _ _ next es htabled hstep =>
      tabled_step htabled next es (answer_eq_some.mp hstep))
    (tabled_init isOpen) hrun

/-!
# A channel that is not registered
-/

def RemovesNothing (fd : ι -> Int) (poller : Poller ι) (i : ι) : Prop :=
  exists next es, RemoveFromPoller fd poller i = Except.ok (next, es) ∧
    next.channels_ = poller.channels_ ∧
    next.epoll.interests = poller.epoll.interests

/-- The call deletes what another registered channel has in both tables. -/
def Evicts (fd : ι -> Int) (poller : Poller ι) (i j : ι) : Prop :=
  j ≠ i ∧ fd j = fd i ∧ poller.channels_ (fd i) = some j ∧
    exists next es, RemoveFromPoller fd poller i = Except.ok (next, es) ∧
      next.channels_ (fd i) = none ∧ next.epoll.interests (fd i) = none ∧
      (next.channels j).registeredToPoller = true

theorem not_removesNothing (poller : Poller ι) (i : ι) :
    ¬RemovesNothing fd poller i := by
  intro hexists
  rcases hexists with ⟨next, es, hcall, _, hinterests⟩
  rcases removeFromPoller_yields next es hcall with ⟨_, hsome, rfl⟩
  have hnone := congrFun hinterests (fd i)
  change Function.update poller.epoll.interests (fd i) none (fd i) = _ at hnone
  rw [Function.update_self] at hnone
  rw [← hnone] at hsome
  cases hsome

theorem removeFromPoller_absent
    (hnone : poller.epoll.interests (fd i) = none)
    (hevents : (poller.channels i).events_ = Channel.kNoneEvent) :
    RemoveFromPoller fd poller i = Except.error Failure.sysFatal := by
  by_cases hopen : poller.epoll.isOpen (fd i) = true <;>
    simp [RemoveFromPoller, RemoveChannel, Control, EpollCtl, Assert, Then,
      hopen, hnone, hevents]

theorem removeFromPoller_evicts (h : Tabled fd poller)
    {entry : Interest ι}
    (hentry : poller.epoll.interests (fd i) = some entry)
    (hevents : (poller.channels i).events_ = Channel.kNoneEvent)
    (hunregistered : (poller.channels i).registeredToPoller = false) :
    Evicts fd poller i entry.ptr := by
  rcases h.entry (fd i) entry hentry with ⟨hopen, hmap, hfd, hregistered⟩
  have hne : entry.ptr ≠ i := by
    intro hsame
    rw [hsame, hunregistered] at hregistered
    cases hregistered
  have hcall : RemoveFromPoller fd poller i = Except.ok
      (Renew fd poller i { poller.channels i with registeredToPoller := false }
        none, [Event.epollCtl Op.EPOLL_CTL_DEL true]) := by
    simp [RemoveFromPoller, RemoveChannel, Control, EpollCtl, Assert, Then,
      SetChannel, Renew, hopen, hentry, hevents]
  refine ⟨hne, hfd, hmap, _, _, hcall, ?_, ?_, ?_⟩
  · exact Function.update_self _ _ _
  · exact Function.update_self _ _ _
  · show (Function.update poller.channels i _ entry.ptr).registeredToPoller =
      true
    rwa [Function.update_of_ne hne]

/--
In every state that is reached, the removal of a channel that is not
registered ends the process or evicts another channel.  It never does nothing.
-/
theorem unregistered_removal_harms {isOpen : Int -> Bool}
    {inputs : List (Input ι)} {tr : List Event}
    (hrun : (PollerMachine fd).Run (Init isOpen) inputs = some (poller, tr))
    (hevents : (poller.channels i).events_ = Channel.kNoneEvent)
    (hunregistered : (poller.channels i).registeredToPoller = false) :
    ¬RemovesNothing fd poller i ∧
      (RemoveFromPoller fd poller i = Except.error Failure.sysFatal ∨
        exists j, Evicts fd poller i j) := by
  refine ⟨not_removesNothing poller i, ?_⟩
  cases hentry : poller.epoll.interests (fd i) with
  | none => exact Or.inl (removeFromPoller_absent hentry hevents)
  | some entry =>
      apply Or.inr
      exact ⟨entry.ptr, removeFromPoller_evicts (tabled_run hrun) hentry
        hevents hunregistered⟩

def Reused : List (Input Bool) :=
  [Input.opened 5, Input.call true Request.enableReading,
    Input.call true Request.disableAll,
    Input.call true Request.removeFromPoller, Input.closed 5,
    Input.opened 5, Input.call false Request.enableReading]

theorem unregistered_removal_harms_of_reused :
    exists poller tr,
      (PollerMachine (fun _ : Bool => 5)).Run (Init fun _ => false) Reused =
        some (poller, tr) ∧
      (RemoveFromPoller (fun _ => 5) poller true =
          Except.error Failure.sysFatal ∨
        exists j, Evicts (fun _ => 5) poller true j) := by
  have heval : exists tr, ((PollerMachine (fun _ : Bool => 5)).Run
      (Init fun _ => false) Reused).map
        (fun last => (last.1.channels true, last.2)) =
      some (Channel.New, tr) :=
    ⟨[Event.epollCtl Op.EPOLL_CTL_ADD false,
      Event.epollCtl Op.EPOLL_CTL_MOD true,
      Event.epollCtl Op.EPOLL_CTL_DEL true,
      Event.epollCtl Op.EPOLL_CTL_ADD false], by decide +kernel⟩
  rcases heval with ⟨tr, heval⟩
  rcases (PollerMachine (fun _ : Bool => 5)).exists_run
    (fun poller => poller.channels true) heval with ⟨poller, hrun, hstale⟩
  have hharms := unregistered_removal_harms hrun (by rw [hstale]; rfl)
    (by rw [hstale]; rfl)
  exact ⟨poller, tr, hrun, hharms.2⟩

/-- A channel that was never registered takes the entry of another one. -/
theorem stale_channel_evicts :
    exists poller tr,
      (PollerMachine (fun _ : Bool => 5)).Run (Init fun _ => true)
        [Input.call false Request.enableReading] = some (poller, tr) ∧
      poller.channels true = Channel.New ∧
      ¬RemovesNothing (fun _ => 5) poller true ∧
      (RemoveFromPoller (fun _ => 5) poller true).map
          (fun last => (last.1.channels_ 5,
            last.1.HasChannel (fun _ => 5) false,
            (last.1.channels false).IsRegistered)) =
        Except.ok (none, false, true) := by
  refine ⟨_, _, rfl, by decide, not_removesNothing _ true, by decide⟩

end Poller
end Reactor
end Wethands
