import Wethands.Foundation.Slice
import Wethands.Reactor.Poller
import Wethands.Utils.Timestamp

/-!
# Waiting for events

`Poll` as the loop calls it, over and over, with the calls of the channels in
between.  The answers of `epoll_wait` are inputs.
-/

namespace Wethands
namespace Reactor

open Foundation Utils

namespace Poller

def kEventListSize_ : Nat := 16

/-- What `epoll_wait` answers: -1 and an errno, or the entries it wrote. -/
inductive Waited (ι : Type) where
  | failed (errno : Int)
  | ready (entries : List (Interest ι))

structure Polling (ι : Type) extends Poller ι where
  revents_ : ι -> BitVec 32
  events_ : List (Interest (Option ι))
  activeChannels : List ι
  errno : Int

namespace Polling

variable {ι : Type}

def Blank : Interest (Option ι) where
  events := 0
  ptr := none

def Init (isOpen : Int -> Bool) : Polling ι where
  toPoller := Poller.Init isOpen
  revents_ := fun _ => 0
  events_ := List.replicate kEventListSize_ Blank
  activeChannels := []
  errno := 0

/-!
# One call
-/

/-- The return value of `epoll_wait`. -/
def NumEvents : Waited ι -> Int
  | Waited.failed _ => -1
  | Waited.ready entries => entries.length

/-- A conversion to `size_t`. -/
def StaticCast (n : Int) : Nat := (n % 2 ^ 64).toNat

def Written (entry : Interest ι) : Interest (Option ι) where
  events := entry.events
  ptr := some entry.ptr

/-- The count is an `int`, and the kernel stays inside the array. -/
def EpollWait (polling : Polling ι) :
    Waited ι -> Call (Polling ι) (Event ⊕ Timestamp)
  | Waited.failed errno => Except.ok ({ polling with errno := errno }, [])
  | Waited.ready entries =>
      if entries.length ≤ polling.events_.length ∧ entries.length < 2 ^ 31 then
        Except.ok ({ polling with
          events_ := Overwrite polling.events_ 0 (entries.map Written) }, [])
      else Except.error Failure.impossible

variable [DecidableEq ι]

def Activate (polling : Polling ι) :
    List (Interest (Option ι)) -> Call (Polling ι) (Event ⊕ Timestamp)
  | [] => Except.ok (polling, [])
  | entry :: rest =>
      match entry.ptr with
      | none => Except.error Failure.danglingPointer
      | some channel =>
          Activate { polling with
            activeChannels := polling.activeChannels ++ [channel]
            revents_ := Function.update polling.revents_ channel entry.events }
            rest

/--
`now` is what the clock reads, and `logged` the errno that the log leaves.  A
resized array is filled up with zeros.
-/
def Poll (polling : Polling ι) (waited : Waited ι) (now : Timestamp)
    (logged : Int) : Call (Polling ι) (Event ⊕ Timestamp) :=
  Then (EpollWait polling waited) (fun polling =>
    let numEvents := NumEvents waited
    let savedErrno := polling.errno
    Then (Activate { polling with errno := logged }
      (polling.events_.take numEvents.toNat)) (fun polling =>
        Assert (polling.activeChannels.length = StaticCast numEvents)
          (Except.ok ({ polling with
            events_ :=
              if StaticCast numEvents = polling.events_.length then
                polling.events_ ++ List.replicate polling.events_.length Blank
              else polling.events_
            errno := savedErrno }, [Sum.inr now]))))

def Turn (polling : Polling ι) (waited : Waited ι) (now : Timestamp)
    (logged : Int) : Call (Polling ι) (Event ⊕ Timestamp) :=
  Poll { polling with activeChannels := [] } waited now logged

/-!
# Runs
-/

inductive Input (ι : Type) where
  | poll (waited : Waited ι) (now : Timestamp) (logged : Int)
  | other (input : Poller.Input ι)

def Perform (fd : ι -> Int) (polling : Polling ι) :
    Input ι -> Call (Polling ι) (Event ⊕ Timestamp)
  | Input.poll waited now logged => Turn polling waited now logged
  | Input.other input =>
      match Poller.Perform fd polling.toPoller input with
      | Except.error failure => Except.error failure
      | Except.ok (poller, es) =>
          Except.ok ({ polling with toPoller := poller }, es.map Sum.inl)

def PollingMachine (fd : ι -> Int) :
    Machine (Polling ι) (Input ι) (Event ⊕ Timestamp) where
  Step polling input := Answer (Perform fd polling input)

/-!
# What a call does
-/

def Reported : Waited ι -> List (Interest ι)
  | Waited.failed _ => []
  | Waited.ready entries => entries

def Marked (revents_ : ι -> BitVec 32) :
    List (Interest ι) -> ι -> BitVec 32
  | [] => revents_
  | entry :: rest =>
      Marked (Function.update revents_ entry.ptr entry.events) rest

/--
The reported channels are active, in order, each with the mask that was
reported last for it; nothing else of a channel has changed.
-/
structure Handled (polling : Polling ι) (waited : Waited ι)
    (now : Timestamp) (next : Polling ι) (es : List (Event ⊕ Timestamp)) :
    Prop where
  active : next.activeChannels = (Reported waited).map Interest.ptr
  reported : forall before entry after,
    Reported waited = before ++ entry :: after ->
    (forall later, later ∈ after -> later.ptr ≠ entry.ptr) ->
    next.revents_ entry.ptr = entry.events
  unreported : forall i, i ∉ next.activeChannels ->
    next.revents_ i = polling.revents_ i
  poller : next.toPoller = polling.toPoller
  capacity : next.events_.length =
    if NumEvents waited = polling.events_.length then
      2 * polling.events_.length
    else polling.events_.length
  errno : next.errno = match waited with
    | Waited.failed errno => errno
    | Waited.ready _ => polling.errno
  returned : es = [Sum.inr now]

theorem marked_of_not_mem {revents_ : ι -> BitVec 32}
    {entries : List (Interest ι)} {i : ι}
    (h : i ∉ entries.map Interest.ptr) :
    Marked revents_ entries i = revents_ i := by
  induction entries generalizing revents_ with
  | nil => rfl
  | cons entry rest ih =>
      rw [List.map_cons, List.mem_cons, not_or] at h
      rw [Marked, ih h.2]
      exact Function.update_of_ne h.1 _ _

theorem marked_of_last {revents_ : ι -> BitVec 32}
    {before after : List (Interest ι)} {entry : Interest ι}
    (h : forall later, later ∈ after -> later.ptr ≠ entry.ptr) :
    Marked revents_ (before ++ entry :: after) entry.ptr = entry.events := by
  induction before generalizing revents_ with
  | nil =>
      have hnot : entry.ptr ∉ after.map Interest.ptr := by
        simpa using h
      rw [List.nil_append, Marked, marked_of_not_mem hnot]
      exact Function.update_self _ _ _
  | cons first rest ih => exact ih

theorem activate_written (entries : List (Interest ι)) (polling : Polling ι) :
    Activate polling (entries.map Written) = Except.ok ({ polling with
      activeChannels := polling.activeChannels ++ entries.map Interest.ptr
      revents_ := Marked polling.revents_ entries }, []) := by
  induction entries generalizing polling with
  | nil => simp [Activate, Marked]
  | cons entry rest ih =>
      rw [List.map_cons, Activate]
      simp only [Written]
      rw [ih]
      simp [Marked]

/-!
# Every answer of the kernel
-/

variable {polling next : Polling ι} {now : Timestamp} {logged : Int}

theorem take_overwrite {α : Type} (block cells : List α) :
    (Overwrite block 0 cells).take cells.length = cells := by
  simp [Overwrite]

omit [DecidableEq ι] in
theorem staticCast_length {entries : List (Interest ι)}
    (h : entries.length < 2 ^ 31) :
    StaticCast (NumEvents (Waited.ready entries)) = entries.length := by
  have hsmall : (entries.length : Int) < 2 ^ 64 := by omega
  rw [StaticCast, NumEvents, Int.emod_eq_of_lt (by omega) hsmall,
    Int.toNat_natCast]

omit [DecidableEq ι] in
theorem epollWait_ready (polling : Polling ι) {entries : List (Interest ι)}
    (hcount : entries.length ≤ polling.events_.length)
    (hint : entries.length < 2 ^ 31) :
    exists events_, events_.length = polling.events_.length ∧
      events_.take (NumEvents (Waited.ready entries)).toNat =
        entries.map Written ∧
      EpollWait polling (Waited.ready entries) =
        Except.ok ({ polling with events_ := events_ }, []) := by
  have hnumEvents : (NumEvents (Waited.ready entries)).toNat =
      (entries.map Written).length := by
    simp [NumEvents]
  refine ⟨Overwrite polling.events_ 0 (entries.map Written), ?_, ?_, ?_⟩
  · apply length_overwrite
    simpa using hcount
  · rw [hnumEvents, take_overwrite]
  · exact if_pos ⟨hcount, hint⟩

/-- `-1` as a size is not the length of an empty list. -/
theorem turn_failed (errno : Int) :
    Turn polling (Waited.failed errno) now logged =
      Except.error Failure.assertion := by
  simp [Turn, Poll, EpollWait, Then, Activate, NumEvents, StaticCast, Assert]

theorem turn_ready {entries : List (Interest ι)}
    (hcount : entries.length ≤ polling.events_.length)
    (hint : entries.length < 2 ^ 31) :
    exists next es,
      Turn polling (Waited.ready entries) now logged =
        Except.ok (next, es) ∧
      Handled polling (Waited.ready entries) now next es := by
  have hcast := staticCast_length hint
  rcases epollWait_ready { polling with activeChannels := [] } hcount hint
    with ⟨events_, hlength, htake, hwait⟩
  have hcall : Turn polling (Waited.ready entries) now logged =
      Except.ok ({ polling with
        activeChannels := entries.map Interest.ptr
        revents_ := Marked polling.revents_ entries
        events_ :=
          if entries.length = events_.length then
            events_ ++ List.replicate events_.length Blank
          else events_ },
        [Sum.inr now]) := by
    simp [Turn, Poll, hwait, Then, htake, activate_written, hcast, Assert]
  refine ⟨_, _, hcall, rfl, ?_, ?_, rfl, ?_, rfl, rfl⟩
  · intro before entry after hsplit hlast
    change entries = _ at hsplit
    show Marked polling.revents_ entries entry.ptr = entry.events
    rw [hsplit]
    exact marked_of_last hlast
  · exact fun i hi => marked_of_not_mem hi
  · have hall : NumEvents (Waited.ready entries) = polling.events_.length <->
        entries.length = events_.length := by
      rw [hlength]
      exact Int.natCast_inj
    show List.length (if _ then _ else _) = _
    simp only [hall]
    split
    · rw [List.length_append, List.length_replicate, hlength, Nat.two_mul]
    · exact hlength

def PollHandles (polling : Polling ι) : Input ι -> Prop
  | Input.poll waited now logged =>
      Turn polling waited now logged = Except.error Failure.impossible ∨
        exists next es, Turn polling waited now logged =
            Except.ok (next, es) ∧
          Handled polling waited now next es
  | Input.other _ => True

/-- `epoll_wait` does not fail. -/
def Answered : Input ι -> Prop
  | Input.poll (Waited.failed _) _ _ => False
  | Input.poll (Waited.ready _) _ _ => True
  | Input.other _ => True

theorem not_pollHandles_failed {errno : Int} :
    ¬PollHandles polling (Input.poll (Waited.failed errno) now logged) := by
  rw [PollHandles, turn_failed]
  simp

theorem pollHandles_iff (polling : Polling ι) (input : Input ι) :
    PollHandles polling input <-> Answered input := by
  cases input with
  | other input => exact Iff.rfl
  | poll waited now logged =>
      cases waited with
      | failed errno => exact iff_of_false not_pollHandles_failed id
      | ready entries =>
          refine iff_of_true ?_ trivial
          by_cases hfits : entries.length ≤ polling.events_.length ∧
              entries.length < 2 ^ 31
          · exact Or.inr (turn_ready hfits.1 hfits.2)
          · apply Or.inl
            have hwait : EpollWait { polling with activeChannels := [] }
                (Waited.ready entries) = Except.error Failure.impossible :=
              if_neg hfits
            rw [Turn, Poll, hwait]
            rfl

theorem capacity_run {fd : ι -> Int} {isOpen : Int -> Bool}
    {inputs : List (Input ι)} {tr : List (Event ⊕ Timestamp)}
    (hrun : (PollingMachine fd).Run (Init isOpen) inputs =
      some (polling, tr)) :
    exists n, polling.events_.length = kEventListSize_ * 2 ^ n := by
  refine Machine.run_invariant (p := [])
    (I := fun polling _ => exists n,
      polling.events_.length = kEventListSize_ * 2 ^ n)
    ?_ ⟨0, List.length_replicate⟩ hrun
  intro polling _ input next es hcapacity hstep
  have hperform := answer_eq_some.mp hstep
  rcases hcapacity with ⟨n, hn⟩
  cases input with
  | other input =>
      rw [Perform] at hperform
      split at hperform
      · cases hperform
      · cases hperform
        exact ⟨n, hn⟩
  | poll waited now logged =>
      have hhandles := pollHandles_iff polling (Input.poll waited now logged)
      cases waited with
      | failed errno =>
          rw [Perform, turn_failed] at hperform
          cases hperform
      | ready entries =>
          rcases hhandles.mpr trivial with himpossible | ⟨_, _, hcall, hdone⟩
          · rw [Perform, himpossible] at hperform
            cases hperform
          · cases hcall.symm.trans hperform
            rw [hdone.capacity, hn]
            split
            · exact ⟨n + 1, by rw [Nat.pow_succ]; ac_rfl⟩
            · exact ⟨n, rfl⟩

/--
In a run every call of `Poll` handles its answer exactly when no call of
`epoll_wait` has failed.
-/
theorem polls_handled_iff (fd : ι -> Int) (isOpen : Int -> Bool)
    (inputs : List (Input ι)) :
    (PollingMachine fd).Guarded PollHandles (Init isOpen) inputs <->
      (PollingMachine fd).Guarded (fun _ input => Answered input)
        (Init isOpen) inputs :=
  Machine.guarded_congr pollHandles_iff (Init isOpen) inputs

def Interrupted : List (Input Bool) :=
  [Input.other (Poller.Input.call true Request.enableReading),
    Input.poll (Waited.ready [{ events := Channel.EPOLLIN, ptr := true }])
      1000 0,
    Input.poll (Waited.failed 4) 2000 0]

theorem poll_asserts_when_interrupted :
    ¬(PollingMachine (fun _ : Bool => 5)).Guarded PollHandles
      (Init fun _ => true) Interrupted := by
  intro hguarded
  exact not_pollHandles_failed hguarded.2.2.1

end Polling
end Poller
end Reactor
end Wethands
