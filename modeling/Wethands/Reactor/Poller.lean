import Mathlib.Data.Fintype.Defs
import Mathlib.Logic.Function.Basic
import Wethands.Foundation.Machine
import Wethands.Reactor.Channel

/-!
# The poller

The channels of one loop, the map of the poller and the table of the kernel.
A channel is its place in a family, and its descriptor never changes.
-/

namespace Wethands
namespace Reactor

open Foundation

namespace Poller

/-- `struct epoll_event` with the pointer to the channel. -/
structure Interest (ι : Type) where
  events : BitVec 32
  ptr : ι
deriving DecidableEq

inductive Op where
  | EPOLL_CTL_ADD
  | EPOLL_CTL_MOD
  | EPOLL_CTL_DEL
deriving DecidableEq

inductive Errno where
  | EBADF
  | EEXIST
  | ENOENT
deriving DecidableEq

structure Epoll (ι : Type) where
  isOpen : Int -> Bool
  interests : Int -> Option (Interest ι)

/-- A call of `epoll_ctl`, and whether there was an entry. -/
inductive Event where
  | epollCtl (op : Op) (present : Bool)
deriving DecidableEq

end Poller

open Poller

structure Poller (ι : Type) where
  channels : ι -> Channel
  channels_ : Int -> Option ι
  epoll : Epoll ι

namespace Poller

variable {ι : Type}

def Init (isOpen : Int -> Bool) : Poller ι where
  channels := fun _ => Channel.New
  channels_ := fun _ => none
  epoll := { isOpen := isOpen, interests := fun _ => none }

/-!
# The kernel
-/

def EpollCtl (epoll : Epoll ι) (op : Op) (fd : Int) (ev : Interest ι) :
    Except Errno (Epoll ι) :=
  if epoll.isOpen fd then
    match op, epoll.interests fd with
    | Op.EPOLL_CTL_ADD, some _ => Except.error Errno.EEXIST
    | Op.EPOLL_CTL_ADD, none =>
        Except.ok { epoll with
          interests := Function.update epoll.interests fd (some ev) }
    | Op.EPOLL_CTL_MOD, some _ =>
        Except.ok { epoll with
          interests := Function.update epoll.interests fd (some ev) }
    | Op.EPOLL_CTL_DEL, some _ =>
        Except.ok { epoll with
          interests := Function.update epoll.interests fd none }
    | _, none => Except.error Errno.ENOENT
  else Except.error Errno.EBADF

/-!
# Functions of the poller and of its channels
-/

section Channels

variable [DecidableEq ι] (fd : ι -> Int)

def SetChannel (poller : Poller ι) (i : ι) (channel : Channel) : Poller ι :=
  { poller with channels := Function.update poller.channels i channel }

/-- A call of `epoll_ctl` for a channel; the process ends when it fails. -/
def Control (poller : Poller ι) (op : Op) (i : ι) (entry : Option ι) :
    Call (Poller ι) Event :=
  let ev := { events := (poller.channels i).events_, ptr := i }
  match EpollCtl poller.epoll op (fd i) ev with
  | Except.error _ => Except.error Failure.sysFatal
  | Except.ok epoll =>
      Except.ok ({ poller with
        channels_ := Function.update poller.channels_ (fd i) entry
        epoll := epoll },
        [Event.epollCtl op (poller.epoll.interests (fd i)).isSome])

def UpdateChannel (poller : Poller ι) (i : ι) : Call (Poller ι) Event :=
  Control fd poller
    (if (poller.channels i).registeredToPoller then Op.EPOLL_CTL_MOD
    else Op.EPOLL_CTL_ADD) i (some i)

/-- The return value is never `ENOENT`, so that an error is fatal here too. -/
def RemoveChannel (poller : Poller ι) (i : ι) : Call (Poller ι) Event :=
  Control fd poller Op.EPOLL_CTL_DEL i none

def HasChannel (poller : Poller ι) (i : ι) : Bool :=
  poller.channels_ (fd i) = some i

def RegisterToPoller (poller : Poller ι) (i : ι) : Call (Poller ι) Event :=
  Then (UpdateChannel fd poller i) (fun poller =>
    Except.ok (SetChannel poller i (poller.channels i).RegisterToPoller, []))

def Adjust (poller : Poller ι) (i : ι)
    (change : BitVec 32 -> BitVec 32) : Call (Poller ι) Event :=
  RegisterToPoller fd
    (SetChannel poller i { poller.channels i with
      events_ := change (poller.channels i).events_ }) i

def EnableReading (poller : Poller ι) (i : ι) : Call (Poller ι) Event :=
  Adjust fd poller i (fun events_ => events_ ||| Channel.kReadEvent)

def DisableReading (poller : Poller ι) (i : ι) : Call (Poller ι) Event :=
  Adjust fd poller i (fun events_ => events_ &&& ~~~Channel.kReadEvent)

def EnableWriting (poller : Poller ι) (i : ι) : Call (Poller ι) Event :=
  Adjust fd poller i (fun events_ => events_ ||| Channel.kWriteEvent)

def DisableWriting (poller : Poller ι) (i : ι) : Call (Poller ι) Event :=
  Adjust fd poller i (fun events_ => events_ &&& ~~~Channel.kWriteEvent)

def DisableAll (poller : Poller ι) (i : ι) : Call (Poller ι) Event :=
  Adjust fd poller i (fun _ => Channel.kNoneEvent)

def RemoveFromPoller (poller : Poller ι) (i : ι) : Call (Poller ι) Event :=
  Assert ((poller.channels i).events_ = Channel.kNoneEvent)
    (Then (RemoveChannel fd poller i) (fun poller =>
      Except.ok (SetChannel poller i
        { poller.channels i with registeredToPoller := false }, [])))

/-!
# Runs
-/

inductive Request where
  | enableReading
  | disableReading
  | enableWriting
  | disableWriting
  | disableAll
  | removeFromPoller
deriving DecidableEq

inductive Input (ι : Type) where
  | call (i : ι) (request : Request)
  | opened (fd : Int)
  | closed (fd : Int)

def CallChannel (poller : Poller ι) (i : ι) :
    Request -> Call (Poller ι) Event
  | Request.enableReading => EnableReading fd poller i
  | Request.disableReading => DisableReading fd poller i
  | Request.enableWriting => EnableWriting fd poller i
  | Request.disableWriting => DisableWriting fd poller i
  | Request.disableAll => DisableAll fd poller i
  | Request.removeFromPoller => RemoveFromPoller fd poller i

/-- The kernel drops the entry of a descriptor that is closed. -/
def Perform (poller : Poller ι) : Input ι -> Call (Poller ι) Event
  | Input.call i request => CallChannel fd poller i request
  | Input.opened n =>
      Except.ok ({ poller with epoll := { poller.epoll with
        isOpen := Function.update poller.epoll.isOpen n true } }, [])
  | Input.closed n =>
      Except.ok ({ poller with epoll := {
        isOpen := Function.update poller.epoll.isOpen n false
        interests := Function.update poller.epoll.interests n none } }, [])

def PollerMachine : Machine (Poller ι) (Input ι) Event where
  Step poller i := Answer (Perform fd poller i)

/-!
# Three copies of one registration
-/

structure Agree (poller : Poller ι) : Prop where
  registry : forall n i, poller.channels_ n = some i <->
    fd i = n ∧ (poller.channels i).registeredToPoller = true
  interests : forall n, poller.epoll.interests n =
    (poller.channels_ n).map (fun i =>
      { events := (poller.channels i).events_, ptr := i })
  opened : forall i, (poller.channels i).registeredToPoller = true ->
    poller.epoll.isOpen (fd i) = true

/--
What the owners of the channels promise: a channel is used with an open
descriptor that no other registered channel has, it is only removed when it is
registered without interest, and its descriptor is not closed before.
-/
def Proper (poller : Poller ι) : Input ι -> Prop
  | Input.call i Request.removeFromPoller =>
      (poller.channels i).registeredToPoller = true ∧
        (poller.channels i).events_ = Channel.kNoneEvent
  | Input.call i _ =>
      poller.epoll.isOpen (fd i) = true ∧
        forall j, (poller.channels j).registeredToPoller = true ->
          fd j = fd i -> j = i
  | Input.opened _ => True
  | Input.closed n =>
      forall j, (poller.channels j).registeredToPoller = true -> fd j ≠ n

instance [Fintype ι] (poller : Poller ι) (i : Input ι) :
    Decidable (Proper fd poller i) := by
  unfold Proper
  split <;> infer_instance

omit [DecidableEq ι] in
theorem agree_init (isOpen : Int -> Bool) :
    Agree fd (Init isOpen : Poller ι) where
  registry := by simp [Init, Channel.New]
  interests := fun _ => rfl
  opened := by simp [Init, Channel.New]

variable {fd} {poller next : Poller ι} {i : ι}

theorem hasChannel_eq (h : Agree fd poller) (i : ι) :
    HasChannel fd poller i = (poller.channels i).registeredToPoller := by
  rw [HasChannel, Bool.eq_iff_iff, decide_eq_true_iff, h.registry]
  exact and_iff_right rfl

omit [DecidableEq ι] in
theorem interests_eq_none (h : Agree fd poller)
    (hdistinct : forall j, (poller.channels j).registeredToPoller = true ->
      fd j = fd i -> j = i)
    (hunregistered : (poller.channels i).registeredToPoller = false) :
    poller.epoll.interests (fd i) = none := by
  rw [h.interests, Option.map_eq_none_iff, Option.eq_none_iff_forall_ne_some]
  intro j hj
  rcases (h.registry (fd i) j).mp hj with ⟨hfd, hregistered⟩
  rw [hdistinct j hregistered hfd, hunregistered] at hregistered
  cases hregistered

omit [DecidableEq ι] in
theorem interests_eq_some (h : Agree fd poller)
    (hregistered : (poller.channels i).registeredToPoller = true) :
    poller.epoll.interests (fd i) =
      some { events := (poller.channels i).events_, ptr := i } := by
  rw [h.interests, (h.registry (fd i) i).mpr ⟨rfl, hregistered⟩,
    Option.map_some]

/-!
# What a call does
-/

def Renew (fd : ι -> Int) (poller : Poller ι) (i : ι) (channel : Channel)
    (entry : Option (Interest ι)) : Poller ι where
  channels := Function.update poller.channels i channel
  channels_ := Function.update poller.channels_ (fd i)
    (entry.map Interest.ptr)
  epoll := { poller.epoll with
    interests := Function.update poller.epoll.interests (fd i) entry }

def EntryOf (i : ι) (channel : Channel) : Option (Interest ι) :=
  if channel.registeredToPoller then
    some { events := channel.events_, ptr := i } else none

/-- `ADD` is used for an entry that is absent, `MOD` and `DEL` for one there. -/
def Event.Fitting : Event -> Prop
  | Event.epollCtl op present => op = Op.EPOLL_CTL_ADD <-> present = false

theorem adjust_spec (h : Agree fd poller) (change : BitVec 32 -> BitVec 32)
    (hopen : poller.epoll.isOpen (fd i) = true)
    (hdistinct : forall j, (poller.channels j).registeredToPoller = true ->
      fd j = fd i -> j = i) :
    exists event, Adjust fd poller i change = Except.ok
        (Renew fd poller i
          { events_ := change (poller.channels i).events_
            registeredToPoller := true }
          (some { events := change (poller.channels i).events_, ptr := i }),
          [event]) ∧ event.Fitting := by
  cases hregistered : (poller.channels i).registeredToPoller with
  | false =>
      have hnone := interests_eq_none h hdistinct hregistered
      refine ⟨Event.epollCtl Op.EPOLL_CTL_ADD false, ?_,
        by simp [Event.Fitting]⟩
      simp [Adjust, RegisterToPoller, UpdateChannel, Control, EpollCtl, Then,
        SetChannel, Channel.RegisterToPoller, Renew, hopen, hregistered, hnone]
  | true =>
      have hsome := interests_eq_some h hregistered
      refine ⟨Event.epollCtl Op.EPOLL_CTL_MOD true, ?_, by simp [Event.Fitting]⟩
      simp [Adjust, RegisterToPoller, UpdateChannel, Control, EpollCtl, Then,
        SetChannel, Channel.RegisterToPoller, Renew, hopen, hregistered, hsome]

theorem removeFromPoller_spec (h : Agree fd poller)
    (hregistered : (poller.channels i).registeredToPoller = true)
    (hnone : (poller.channels i).events_ = Channel.kNoneEvent) :
    RemoveFromPoller fd poller i = Except.ok
      (Renew fd poller i
        { events_ := Channel.kNoneEvent, registeredToPoller := false } none,
        [Event.epollCtl Op.EPOLL_CTL_DEL true]) := by
  have hopen := h.opened i hregistered
  have hsome := interests_eq_some h hregistered
  simp [RemoveFromPoller, RemoveChannel, Control, EpollCtl, Then, SetChannel,
    Assert, Renew, hopen, hsome, hnone]

theorem registry_renew (h : Agree fd poller) {channel : Channel}
    (hdistinct : forall j, (poller.channels j).registeredToPoller = true ->
      fd j = fd i -> j = i) (n : Int) (j : ι) :
    (Renew fd poller i channel (EntryOf i channel)).channels_ n = some j <->
      fd j = n ∧ ((Renew fd poller i channel (EntryOf i channel)).channels
        j).registeredToPoller = true := by
  show Function.update poller.channels_ (fd i) _ n = some j <->
    fd j = n ∧ (Function.update poller.channels i channel
      j).registeredToPoller = true
  by_cases hn : n = fd i
  · subst hn
    rw [Function.update_self, EntryOf]
    by_cases hj : j = i
    · subst hj
      rw [Function.update_self]
      cases channel.registeredToPoller <;> simp
    · rw [Function.update_of_ne hj]
      have hother : ¬(fd j = fd i ∧
          (poller.channels j).registeredToPoller = true) :=
        fun hboth => hj (hdistinct j hboth.2 hboth.1)
      refine iff_of_false (fun heq => ?_) hother
      split at heq
      · exact hj (Option.some.inj heq).symm
      · cases heq
  · rw [Function.update_of_ne hn, h.registry]
    by_cases hj : j = i
    · subst hj
      exact iff_of_false (fun hboth => hn hboth.1.symm)
        (fun hboth => hn hboth.1.symm)
    · rw [Function.update_of_ne hj]

theorem agree_renew (h : Agree fd poller) {channel : Channel}
    (hopen : poller.epoll.isOpen (fd i) = true)
    (hdistinct : forall j, (poller.channels j).registeredToPoller = true ->
      fd j = fd i -> j = i) :
    Agree fd (Renew fd poller i channel (EntryOf i channel)) where
  registry := registry_renew h hdistinct
  interests := by
    intro n
    show Function.update poller.epoll.interests (fd i) _ n =
      (Function.update poller.channels_ (fd i) _ n).map _
    by_cases hn : n = fd i
    · subst hn
      rw [Function.update_self, Function.update_self, EntryOf]
      split
      · simp [Renew]
      · rfl
    · rw [Function.update_of_ne hn, Function.update_of_ne hn, h.interests]
      refine Option.map_congr (fun j hj => ?_)
      have hne : j ≠ i := by
        rintro rfl
        exact hn ((h.registry n j).mp hj).1.symm
      show _ =
        Interest.mk (Function.update poller.channels i channel j).events_ j
      rw [Function.update_of_ne hne]
  opened := by
    intro j hj
    by_cases hji : j = i
    · subst hji
      exact hopen
    · apply h.opened j
      have hsame : Function.update poller.channels i channel j =
          poller.channels j := Function.update_of_ne hji _ _
      change (Function.update poller.channels i channel
        j).registeredToPoller = true at hj
      rwa [hsame] at hj

def Asked (channel : Channel) : Request -> Channel
  | Request.enableReading => channel.EnableReading
  | Request.disableReading => channel.DisableReading
  | Request.enableWriting => channel.EnableWriting
  | Request.disableWriting => channel.DisableWriting
  | Request.disableAll => channel.DisableAll
  | Request.removeFromPoller => { channel with registeredToPoller := false }

theorem callChannel_spec (h : Agree fd poller) {request : Request}
    (hproper : Proper fd poller (Input.call i request)) :
    exists event, CallChannel fd poller i request = Except.ok
        (Renew fd poller i (Asked (poller.channels i) request)
          (EntryOf i (Asked (poller.channels i) request)), [event]) ∧
      event.Fitting := by
  cases request with
  | removeFromPoller =>
      refine ⟨Event.epollCtl Op.EPOLL_CTL_DEL true, ?_, by simp [Event.Fitting]⟩
      show RemoveFromPoller fd poller i = _
      rw [removeFromPoller_spec h hproper.1 hproper.2, Asked, hproper.2]
      rfl
  | enableReading =>
      exact adjust_spec h (fun events_ => events_ ||| Channel.kReadEvent)
        hproper.1 hproper.2
  | disableReading =>
      exact adjust_spec h (fun events_ => events_ &&& ~~~Channel.kReadEvent)
        hproper.1 hproper.2
  | enableWriting =>
      exact adjust_spec h (fun events_ => events_ ||| Channel.kWriteEvent)
        hproper.1 hproper.2
  | disableWriting =>
      exact adjust_spec h (fun events_ => events_ &&& ~~~Channel.kWriteEvent)
        hproper.1 hproper.2
  | disableAll =>
      exact adjust_spec h (fun _ => Channel.kNoneEvent)
        hproper.1 hproper.2

omit [DecidableEq ι] in
theorem proper_call (h : Agree fd poller) {request : Request}
    (hproper : Proper fd poller (Input.call i request)) :
    poller.epoll.isOpen (fd i) = true ∧
      forall j, (poller.channels j).registeredToPoller = true ->
        fd j = fd i -> j = i := by
  cases request with
  | removeFromPoller =>
      refine ⟨h.opened i hproper.1, fun j hj hfd => ?_⟩
      have hmine := (h.registry (fd i) i).mpr ⟨rfl, hproper.1⟩
      have hother := (h.registry (fd i) j).mpr ⟨hfd, hj⟩
      exact Option.some.inj (hother.symm.trans hmine)
  | _ => exact hproper

/-!
# Reading and writing
-/

def ReadingAfter (reading : Bool) : Request -> Bool
  | Request.enableReading => true
  | Request.disableReading | Request.disableAll => false
  | Request.enableWriting | Request.disableWriting
  | Request.removeFromPoller => reading

def WritingAfter (writing : Bool) : Request -> Bool
  | Request.enableWriting => true
  | Request.disableWriting | Request.disableAll => false
  | Request.enableReading | Request.disableReading
  | Request.removeFromPoller => writing

theorem isReading_asked (channel : Channel) (request : Request) :
    (Asked channel request).IsReading =
      ReadingAfter channel.IsReading request := by
  cases request <;> simp [Asked, ReadingAfter]
  rfl

theorem isWriting_asked (channel : Channel) (request : Request) :
    (Asked channel request).IsWriting =
      WritingAfter channel.IsWriting request := by
  cases request <;> simp [Asked, WritingAfter]
  rfl

structure Answered (fd : ι -> Int) (poller : Poller ι) (input : Input ι)
    (next : Poller ι) (es : List Event) : Prop where
  agree : Agree fd next
  fitting : forall event, event ∈ es -> event.Fitting
  called : forall i request, input = Input.call i request ->
    (next.channels i).IsReading =
        ReadingAfter (poller.channels i).IsReading request ∧
      (next.channels i).IsWriting =
        WritingAfter (poller.channels i).IsWriting request
  others : forall j, (forall request, input ≠ Input.call j request) ->
    next.channels j = poller.channels j

theorem perform_answered (h : Agree fd poller) (input : Input ι)
    (hproper : Proper fd poller input) :
    exists next es, Perform fd poller input = Except.ok (next, es) ∧
      Answered fd poller input next es := by
  cases input with
  | call i request =>
      rcases callChannel_spec h hproper with ⟨event, hcall, hfits⟩
      rcases proper_call h hproper with ⟨hopen, hdistinct⟩
      refine ⟨_, _, hcall, agree_renew h hopen hdistinct, ?_, ?_, ?_⟩
      · simpa using hfits
      · intro i request hparts
        rcases hparts with ⟨⟩
        show (Function.update poller.channels i _ i).IsReading = _ ∧
          (Function.update poller.channels i _ i).IsWriting = _
        rw [Function.update_self, isReading_asked, isWriting_asked]
        exact ⟨rfl, rfl⟩
      · intro j hj
        apply Function.update_of_ne
        rintro rfl
        exact hj request rfl
  | opened n =>
      refine ⟨_, _, rfl, ⟨h.registry, h.interests, ?_⟩, by simp, by simp,
        fun _ _ => rfl⟩
      intro i hi
      show Function.update poller.epoll.isOpen n true (fd i) = true
      by_cases hn : fd i = n
      · rw [hn, Function.update_self]
      · rw [Function.update_of_ne hn]
        exact h.opened i hi
  | closed n =>
      refine ⟨_, _, rfl, ⟨h.registry, ?_, ?_⟩, by simp, by simp,
        fun _ _ => rfl⟩
      · intro m
        show Function.update poller.epoll.interests n none m = _
        by_cases hm : m = n
        · subst hm
          have hnone : poller.channels_ m = none := by
            rw [Option.eq_none_iff_forall_ne_some]
            intro j hj
            rcases (h.registry m j).mp hj with ⟨hfd, hregistered⟩
            exact hproper j hregistered hfd
          rw [Function.update_self]
          show none = (poller.channels_ m).map _
          rw [hnone, Option.map_none]
        · rw [Function.update_of_ne hm]
          exact h.interests m
      · intro i hi
        show Function.update poller.epoll.isOpen n false (fd i) = true
        rw [Function.update_of_ne (hproper i hi)]
        exact h.opened i hi

theorem agree_run {isOpen : Int -> Bool} {inputs : List (Input ι)}
    {tr : List Event}
    (hproper : (PollerMachine fd).Guarded (Proper fd) (Init isOpen) inputs)
    (hrun : (PollerMachine fd).Run (Init isOpen) inputs = some (poller, tr)) :
    Agree fd poller ∧ forall event, event ∈ tr -> event.Fitting := by
  apply Machine.run_invariant_of_guard (p := [])
    (I := fun poller tr => Agree fd poller ∧
      forall event, event ∈ tr -> event.Fitting)
    ?_ ⟨agree_init fd isOpen, by simp⟩ hproper hrun
  rintro poller tr input next es ⟨hagree, hfits⟩ hinput hstep
  rcases perform_answered hagree input hinput with
    ⟨next', es', hperform, hanswered⟩
  have hsame := (answer_eq_some.mp hstep).symm.trans hperform
  cases hsame
  refine ⟨hanswered.agree, fun event hevent => ?_⟩
  rcases List.mem_append.mp hevent with hearlier | hnew
  · exact hfits event hearlier
  · exact hanswered.fitting event hnew

/--
The three copies agree in every state that is reached, every call of
`epoll_ctl` was the one that fits, and the next proper call comes back too.
-/
theorem registration_agrees {isOpen : Int -> Bool} {inputs : List (Input ι)}
    {tr : List Event}
    (hproper : (PollerMachine fd).Guarded (Proper fd) (Init isOpen) inputs)
    (hrun : (PollerMachine fd).Run (Init isOpen) inputs = some (poller, tr)) :
    Agree fd poller ∧
      (forall i, HasChannel fd poller i = (poller.channels i).IsRegistered) ∧
      (forall event, event ∈ tr -> event.Fitting) ∧
      forall input, Proper fd poller input ->
        exists next es, (PollerMachine fd).Step poller input =
            some (next, es) ∧
          Answered fd poller input next es := by
  rcases agree_run hproper hrun with ⟨hagree, hfits⟩
  refine ⟨hagree, hasChannel_eq hagree, hfits, fun input hinput => ?_⟩
  rcases perform_answered hagree input hinput with
    ⟨next, es, hperform, hanswered⟩
  exact ⟨next, es, answer_eq_some.mpr hperform, hanswered⟩

end Channels

def SharedDescriptor : List (Input Bool) :=
  [Input.opened 5, Input.call true Request.disableAll,
    Input.call true Request.enableReading,
    Input.call true Request.disableAll,
    Input.call true Request.removeFromPoller,
    Input.call true Request.enableWriting,
    Input.call true Request.disableAll,
    Input.call true Request.removeFromPoller, Input.closed 5,
    Input.opened 5, Input.call false Request.enableReading,
    Input.call false Request.enableWriting]

theorem registration_agrees_of_shared_descriptor :
    exists poller tr,
      (PollerMachine (fun _ : Bool => 5)).Run (Init fun _ => false)
        SharedDescriptor = some (poller, tr) ∧
      Agree (fun _ => 5) poller ∧ poller.channels_ 5 = some false ∧
      (forall event, event ∈ tr -> event.Fitting) := by
  have heval : exists tr, ((PollerMachine (fun _ : Bool => 5)).Run
      (Init fun _ => false) SharedDescriptor).map
        (fun last => (last.1.channels_ 5, last.2)) =
      some (some false, tr) := by
    exact ⟨[Event.epollCtl Op.EPOLL_CTL_ADD false,
      Event.epollCtl Op.EPOLL_CTL_MOD true,
      Event.epollCtl Op.EPOLL_CTL_MOD true,
      Event.epollCtl Op.EPOLL_CTL_DEL true,
      Event.epollCtl Op.EPOLL_CTL_ADD false,
      Event.epollCtl Op.EPOLL_CTL_MOD true,
      Event.epollCtl Op.EPOLL_CTL_DEL true,
      Event.epollCtl Op.EPOLL_CTL_ADD false,
      Event.epollCtl Op.EPOLL_CTL_MOD true], by decide +kernel⟩
  rcases heval with ⟨tr, heval⟩
  rcases (PollerMachine (fun _ : Bool => 5)).exists_run
    (fun poller => poller.channels_ 5) heval with ⟨poller, hrun, hchannel⟩
  have hagrees := registration_agrees (by decide +kernel) hrun
  exact ⟨poller, tr, hrun, hagrees.1, hchannel, hagrees.2.2.1⟩

end Poller
end Reactor
end Wethands
