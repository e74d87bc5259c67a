import Mathlib.Logic.Function.Basic
import Wethands.Foundation.Flow
import Wethands.Foundation.Machine

/-!
# The acceptor and its reserve

The table tells which descriptors are open, and whether the acceptor owns
them.  What the kernel answers is an input, and logging preserves `errno`.
-/

namespace Wethands
namespace Net

open Foundation

namespace Acceptor

inductive Owner where
  | acceptor
  | other
deriving DecidableEq

inductive Errno where
  | EAGAIN
  | ECONNABORTED
  | EPROTO
  | EINTR
  | EMFILE
  | other
deriving DecidableEq

/-- What `accept4` answers. -/
inductive Accepted where
  | connected (connfd : Int)
  | failed (errno : Errno)
deriving DecidableEq

/-- A call of `CloseFd`, and who owned the descriptor if it was open. -/
inductive Event where
  | closeFd (fd : Int) (owner : Option Owner)
deriving DecidableEq

/--
`accept` and `open` answer with a descriptor, or with -1 for which `none`
stands.
-/
inductive Input where
  | construct (listenFd : Int) (opened : Option Int)
  | setNewConnectionCallback (callable : Bool)
  | handleRead (accepted : Accepted) (second reopened : Option Int)
  | destroy
  | opened (fd : Int)
  | closed (fd : Int)

end Acceptor

open Acceptor

/-- The callback is only known to be there or not. -/
structure Acceptor where
  alive : Bool
  listenSocket_ : Int
  newConnectionCallback_ : Bool
  placeholderFd_ : Int
  table : Int -> Option Owner

namespace Acceptor

def Unborn : Acceptor where
  alive := false
  listenSocket_ := -1
  newConnectionCallback_ := false
  placeholderFd_ := -1
  table := fun _ => none

/-!
# Member functions
-/

def Give (acceptor : Acceptor) (fd : Int) (owner : Owner) : Acceptor :=
  { acceptor with table := Function.update acceptor.table fd (some owner) }

/-- `close` fails for a descriptor that is not open, and ends the process. -/
def CloseFd (acceptor : Acceptor) (fd : Int) : Flow Acceptor Event :=
  match acceptor.table fd with
  | none => (Except.error Failure.sysFatal, [Event.closeFd fd none])
  | some owner =>
      (Except.ok { acceptor with
        table := Function.update acceptor.table fd none },
        [Event.closeFd fd (some owner)])

/-- `placeholderFd_` becomes what a call has answered. -/
def Reserve (acceptor : Acceptor) : Option Int -> Acceptor
  | none => { acceptor with placeholderFd_ := -1 }
  | some fd => { Give acceptor fd Owner.acceptor with placeholderFd_ := fd }

def Construct (acceptor : Acceptor) (listenFd : Int) (opened : Option Int) :
    Acceptor :=
  Reserve (Give { acceptor with
    alive := true
    listenSocket_ := listenFd
    newConnectionCallback_ := false } listenFd Owner.acceptor) opened

/-- The errors of `accept4` that `Socket::Accept` hands on. -/
def Errno.Handled : Errno -> Bool
  | Errno.EAGAIN | Errno.ECONNABORTED | Errno.EPROTO | Errno.EINTR
  | Errno.EMFILE => true
  | Errno.other => false

def HandleRead (acceptor : Acceptor) (accepted : Accepted)
    (second reopened : Option Int) : Flow Acceptor Event :=
  match accepted with
  | Accepted.connected connfd =>
      if acceptor.newConnectionCallback_ then
        (Except.ok (Give acceptor connfd Owner.other), [])
      else CloseFd (Give acceptor connfd Owner.acceptor) connfd
  | Accepted.failed errno =>
      if errno.Handled then
        if errno = Errno.EMFILE then
          Flow.Then (CloseFd acceptor acceptor.placeholderFd_)
            (fun acceptor =>
              let acceptor := Reserve acceptor second
              Flow.Then (CloseFd acceptor acceptor.placeholderFd_)
                (fun acceptor => (Except.ok (Reserve acceptor reopened), [])))
        else (Except.ok acceptor, [])
      else (Except.error Failure.sysFatal, [])

/-- The destructor, and behind it the one of `listenSocket_`. -/
def Destroy (acceptor : Acceptor) : Flow Acceptor Event :=
  Flow.Then (CloseFd acceptor acceptor.placeholderFd_) (fun acceptor =>
    Flow.Then (CloseFd acceptor acceptor.listenSocket_) (fun acceptor =>
      (Except.ok { acceptor with alive := false }, [])))

def Perform (acceptor : Acceptor) : Input -> Flow Acceptor Event
  | Input.construct listenFd opened =>
      (Except.ok (Construct acceptor listenFd opened), [])
  | Input.setNewConnectionCallback callable =>
      (Except.ok { acceptor with newConnectionCallback_ := callable }, [])
  | Input.handleRead accepted second reopened =>
      HandleRead acceptor accepted second reopened
  | Input.destroy => Destroy acceptor
  | Input.opened fd => (Except.ok (Give acceptor fd Owner.other), [])
  | Input.closed fd =>
      (Except.ok { acceptor with
        table := Function.update acceptor.table fd none }, [])

def AcceptorMachine : Machine Acceptor Input Event where
  Step acceptor i := Answer (Flow.Finish (Perform acceptor i))

/-!
# The kernel
-/

/-- A descriptor that a call answers with, if it does, was not open before. -/
def New (isFree : Int -> Prop) : Option Int -> Prop
  | none => True
  | some fd => 0 ≤ fd ∧ isFree fd

instance (isFree : Int -> Prop) [DecidablePred isFree] (answer : Option Int) :
    Decidable (New isFree answer) := by
  cases answer <;> unfold New <;> infer_instance

/--
Members are called between construction and destruction.  On the way through
the reserve its own number is free.
-/
def Answers (acceptor : Acceptor) : Input -> Prop
  | Input.construct listenFd opened =>
      acceptor.alive = false ∧
        New (fun fd => acceptor.table fd = none) (some listenFd) ∧
        New (fun fd => acceptor.table fd = none ∧ fd ≠ listenFd) opened
  | Input.handleRead (Accepted.connected connfd) _ _ =>
      acceptor.alive = true ∧
        New (fun fd => acceptor.table fd = none) (some connfd)
  | Input.handleRead (Accepted.failed errno) second reopened =>
      acceptor.alive = true ∧ errno ≠ Errno.other ∧
        (errno = Errno.EMFILE ->
          New (fun fd => fd = acceptor.placeholderFd_ ∨
            acceptor.table fd = none) second ∧
          New (fun fd => fd = acceptor.placeholderFd_ ∨
            acceptor.table fd = none) reopened)
  | Input.setNewConnectionCallback _ | Input.destroy => acceptor.alive = true
  | Input.opened fd => New (fun fd => acceptor.table fd = none) (some fd)
  | Input.closed fd => acceptor.table fd = some Owner.other

instance (acceptor : Acceptor) (i : Input) :
    Decidable (Answers acceptor i) := by
  unfold Answers
  split <;> infer_instance

/-!
# What is asked of a step
-/

def Event.Owned : Event -> Prop
  | Event.closeFd _ owner => owner = some Owner.acceptor

/-- The inputs that close `placeholderFd_`. -/
def Input.Uses : Input -> Prop
  | handleRead (Accepted.failed Errno.EMFILE) _ _ | destroy => True
  | _ => False

def Input.IsRead : Input -> Prop
  | handleRead _ _ _ => True
  | _ => False

def Reserved (acceptor : Acceptor) : Prop :=
  acceptor.table acceptor.placeholderFd_ = some Owner.acceptor

def Recognised (acceptor : Acceptor) : Prop :=
  acceptor.placeholderFd_ < 0 ∧
    forall i, i.Uses -> forall e, e ∈ (Perform acceptor i).2 -> e.Owned

structure Served (acceptor : Acceptor) (i : Input) : Prop where
  survives : (Perform acceptor i).1 ≠ Except.error Failure.sysFatal
  owned : forall e, e ∈ (Perform acceptor i).2 -> e.Owned
  reserved : forall next, (Perform acceptor i).1 = Except.ok next ->
    i.IsRead -> Reserved next ∨ Recognised next

/--
The reserve is there when it is read or closed, and when it has been given up
for a connection, there was a connection and the reserve has been opened again.
-/
def Replenished (acceptor : Acceptor) : Input -> Prop
  | Input.handleRead accepted second reopened =>
      0 ≤ acceptor.placeholderFd_ ∧
        (accepted = Accepted.failed Errno.EMFILE ->
          second.isSome = true ∧ reopened.isSome = true)
  | Input.destroy => 0 ≤ acceptor.placeholderFd_
  | _ => True

instance (acceptor : Acceptor) (i : Input) :
    Decidable (Replenished acceptor i) := by
  unfold Replenished
  split <;> infer_instance

structure Holds (acceptor : Acceptor) : Prop where
  numbered : forall fd, fd < 0 -> acceptor.table fd = none
  listens : acceptor.alive = true ->
    acceptor.table acceptor.listenSocket_ = some Owner.acceptor
  reserve : acceptor.alive = true ->
    acceptor.placeholderFd_ = -1 ∨
      Reserved acceptor ∧ acceptor.placeholderFd_ ≠ acceptor.listenSocket_

theorem holds_unborn : Holds Unborn where
  numbered := fun _ _ => rfl
  listens := by decide
  reserve := fun _ => Or.inl rfl

variable {acceptor next : Acceptor} {fd : Int}

theorem closeFd_open {owner : Owner} (h : acceptor.table fd = some owner) :
    CloseFd acceptor fd = (Except.ok { acceptor with
      table := Function.update acceptor.table fd none },
      [Event.closeFd fd (some owner)]) := by
  simp [CloseFd, h]

theorem closeFd_closed (h : acceptor.table fd = none) :
    CloseFd acceptor fd =
      (Except.error Failure.sysFatal, [Event.closeFd fd none]) := by
  simp [CloseFd, h]

/-!
# The reserve
-/

theorem reserved_iff (h : Holds acceptor) (halive : acceptor.alive = true) :
    Reserved acceptor <-> 0 ≤ acceptor.placeholderFd_ := by
  constructor
  · intro hreserved
    by_contra hnegative
    have hnone := h.numbered _ (Int.not_le.mp hnegative)
    cases hnone.symm.trans hreserved
  · intro hpositive
    rcases h.reserve halive with hmissing | ⟨hreserved, _⟩
    · rw [hmissing] at hpositive
      exact absurd hpositive (by decide)
    · exact hreserved

theorem table_of_not_reserved (h : Holds acceptor)
    (halive : acceptor.alive = true) (hnot : ¬Reserved acceptor) :
    acceptor.table acceptor.placeholderFd_ = none := by
  rw [reserved_iff h halive] at hnot
  exact h.numbered _ (Int.not_le.mp hnot)

theorem not_recognised
    (hmissing : acceptor.table acceptor.placeholderFd_ = none) :
    ¬Recognised acceptor := by
  intro hrecognised
  have hcloses := hrecognised.2 Input.destroy trivial
    (Event.closeFd acceptor.placeholderFd_ none)
    (by simp [Perform, Destroy, closeFd_closed hmissing, Flow.Then])
  cases hcloses

theorem reserved_or_recognised (h : Holds acceptor)
    (halive : acceptor.alive = true) :
    Reserved acceptor ∨ Recognised acceptor <->
      0 ≤ acceptor.placeholderFd_ := by
  rw [← reserved_iff h halive]
  refine ⟨fun hor => hor.resolve_right ?_, Or.inl⟩
  intro hrecognised
  exact not_recognised (h.numbered _ hrecognised.1) hrecognised

def Reopened (acceptor : Acceptor) (fd : Int) (reopened : Option Int) :
    Acceptor :=
  Reserve { acceptor with
    placeholderFd_ := fd
    table := Function.update (Function.update acceptor.table
      acceptor.placeholderFd_ none) fd none } reopened

theorem handleRead_connection (h : Reserved acceptor) (fd : Int)
    (reopened : Option Int) :
    HandleRead acceptor (Accepted.failed Errno.EMFILE) (some fd) reopened =
      (Except.ok (Reopened acceptor fd reopened),
        [Event.closeFd acceptor.placeholderFd_ (some Owner.acceptor),
          Event.closeFd fd (some Owner.acceptor)]) := by
  simp only [HandleRead, Errno.Handled, if_true]
  rw [closeFd_open h]
  simp [Flow.Then, Reserve, Give, CloseFd, Reopened]

/-- Without a connection the descriptor that is closed is -1. -/
theorem handleRead_no_connection (h : Reserved acceptor)
    (hnumbered : acceptor.table (-1) = none) (reopened : Option Int) :
    (HandleRead acceptor (Accepted.failed Errno.EMFILE) none reopened).1 =
      Except.error Failure.sysFatal := by
  have hstill : Function.update acceptor.table acceptor.placeholderFd_ none
      (-1) = none := by
    rw [Function.update_apply, hnumbered, ite_self]
  simp only [HandleRead, Errno.Handled, if_true]
  rw [closeFd_open h]
  simp [Flow.Then, Reserve, CloseFd, hstill]

theorem handleRead_no_reserve
    (hmissing : acceptor.table acceptor.placeholderFd_ = none)
    (second reopened : Option Int) :
    (HandleRead acceptor (Accepted.failed Errno.EMFILE) second reopened).1 =
      Except.error Failure.sysFatal := by
  simp [HandleRead, Errno.Handled, closeFd_closed hmissing, Flow.Then]

/-!
# Steps
-/

theorem holds_update (h : Holds acceptor) {owner : Option Owner}
    (hfd : 0 ≤ fd) (hother : acceptor.table fd ≠ some Owner.acceptor) :
    Holds { acceptor with
      table := Function.update acceptor.table fd owner } where
  numbered := by
    intro n hn
    have hne : n ≠ fd := by omega
    show Function.update acceptor.table fd owner n = none
    rw [Function.update_of_ne hne]
    exact h.numbered n hn
  listens := by
    intro halive
    have hlistens := h.listens halive
    have hne : acceptor.listenSocket_ ≠ fd := by
      intro hsame
      exact hother (hsame ▸ hlistens)
    exact (Function.update_of_ne hne _ _).trans hlistens
  reserve := by
    intro halive
    rcases h.reserve halive with hmissing | ⟨hreserved, hapart⟩
    · exact Or.inl hmissing
    · have hne : acceptor.placeholderFd_ ≠ fd := by
        intro hsame
        exact hother (hsame ▸ hreserved)
      exact Or.inr ⟨(Function.update_of_ne hne _ _).trans hreserved, hapart⟩

theorem holds_reserve {opened : Option Int}
    (hnumbered : forall fd, fd < 0 -> acceptor.table fd = none)
    (hlistens : acceptor.table acceptor.listenSocket_ = some Owner.acceptor)
    (hnew : New (fun fd => fd ≠ acceptor.listenSocket_) opened) :
    Holds (Reserve acceptor opened) := by
  cases opened with
  | none => exact ⟨hnumbered, fun _ => hlistens, fun _ => Or.inl rfl⟩
  | some fd =>
      refine ⟨?_, fun _ => ?_, fun _ => Or.inr ⟨?_, hnew.2⟩⟩
      · intro n hn
        have hne : n ≠ fd := by
          have hfd := hnew.1
          omega
        exact (Function.update_of_ne hne _ _).trans (hnumbered n hn)
      · exact (Function.update_of_ne hnew.2.symm _ _).trans hlistens
      · exact Function.update_self _ _ _

theorem New.mono {p q : Int -> Prop} {answer : Option Int} (h : New p answer)
    (himp : forall fd, p fd -> q fd) : New q answer := by
  cases answer with
  | none => trivial
  | some fd => exact ⟨h.1, himp fd h.2⟩

theorem holds_reopened (h : Holds acceptor) (halive : acceptor.alive = true)
    (hreserved : Reserved acceptor) {reopened : Option Int}
    (hfirst : New (fun fd => fd = acceptor.placeholderFd_ ∨
      acceptor.table fd = none) (some fd))
    (hsecond : New (fun fd => fd = acceptor.placeholderFd_ ∨
      acceptor.table fd = none) reopened) :
    Holds (Reopened acceptor fd reopened) := by
  have hlistens := h.listens halive
  have hapart : acceptor.placeholderFd_ ≠ acceptor.listenSocket_ := by
    have hthere := (reserved_iff h halive).mp hreserved
    rcases h.reserve halive with hmissing | ⟨_, hapart⟩
    · omega
    · exact hapart
  have hfree : forall n, n = acceptor.placeholderFd_ ∨
      acceptor.table n = none -> n ≠ acceptor.listenSocket_ := by
    intro n hn hsame
    rcases hn with hreserve | hnone
    · exact hapart (hreserve.symm.trans hsame)
    · rw [hsame, hlistens] at hnone
      cases hnone
  apply holds_reserve
  · intro n hn
    show Function.update (Function.update acceptor.table _ none) fd none n =
      none
    rw [Function.update_apply, Function.update_apply, h.numbered n hn,
      ite_self, ite_self]
  · show Function.update (Function.update acceptor.table _ none) fd none
      acceptor.listenSocket_ = some Owner.acceptor
    rw [Function.update_of_ne (hfree fd hfirst.2).symm,
      Function.update_of_ne hapart.symm, hlistens]
  · exact hsecond.mono hfree

theorem step_eq_some {i : Input} {es : List Event} :
    AcceptorMachine.Step acceptor i = some (next, es) <->
      Perform acceptor i = (Except.ok next, es) := by
  unfold AcceptorMachine
  rw [answer_eq_some]
  rcases Perform acceptor i with ⟨failure | last, es'⟩ <;>
    simp [Flow.Finish]

theorem handleRead_connected (h : Holds acceptor) {connfd : Int}
    (hnew : New (fun fd => acceptor.table fd = none) (some connfd))
    (second reopened : Option Int) :
    exists owner es,
      HandleRead acceptor (Accepted.connected connfd) second reopened =
        (Except.ok { acceptor with
          table := Function.update acceptor.table connfd owner }, es) ∧
      (forall e, e ∈ es -> e.Owned) ∧
      Holds { acceptor with
        table := Function.update acceptor.table connfd owner } := by
  have hholds : forall owner, Holds { acceptor with
      table := Function.update acceptor.table connfd owner } := by
    intro owner
    exact holds_update h hnew.1 (by rw [hnew.2]; simp)
  by_cases hcallback : acceptor.newConnectionCallback_ = true
  · exact ⟨some Owner.other, [],
      by simp [HandleRead, hcallback, Give], by simp, hholds _⟩
  · refine ⟨none, [Event.closeFd connfd (some Owner.acceptor)], ?_, ?_,
      hholds _⟩
    · simp [HandleRead, hcallback, Give, CloseFd]
    · simp [Event.Owned]

theorem served_iff_of_kept {i : Input} {es : List Event}
    (hperform : Perform acceptor i = (Except.ok next, es))
    (howned : forall e, e ∈ es -> e.Owned) (hread : i.IsRead)
    (hnext : Holds next) (halive : next.alive = true) :
    Served acceptor i <-> 0 ≤ next.placeholderFd_ := by
  rw [← reserved_or_recognised hnext halive]
  constructor
  · intro hserved
    exact hserved.reserved next (by rw [hperform]) hread
  · intro hreserved
    refine ⟨by simp [hperform], by simpa [hperform] using howned, ?_⟩
    intro last hlast _
    rw [hperform] at hlast
    cases hlast
    exact hreserved

theorem not_served {i : Input}
    (h : (Perform acceptor i).1 = Except.error Failure.sysFatal) :
    ¬Served acceptor i :=
  fun hserved => hserved.survives h

theorem served_iff_exhausted (h : Holds acceptor)
    (halive : acceptor.alive = true) {second reopened : Option Int}
    (hsecond : New (fun fd => fd = acceptor.placeholderFd_ ∨
      acceptor.table fd = none) second)
    (hreopened : New (fun fd => fd = acceptor.placeholderFd_ ∨
      acceptor.table fd = none) reopened) :
    Served acceptor (Input.handleRead (Accepted.failed Errno.EMFILE) second
        reopened) <->
      0 ≤ acceptor.placeholderFd_ ∧ second.isSome = true ∧
        reopened.isSome = true := by
  by_cases hreserved : Reserved acceptor
  · have hthere := (reserved_iff h halive).mp hreserved
    cases second with
    | none =>
        refine iff_of_false (not_served ?_) (by simp)
        exact handleRead_no_connection hreserved (h.numbered _ (by decide)) _
    | some fd =>
        have hholds := holds_reopened h halive hreserved hsecond hreopened
        have hstill : (Reopened acceptor fd reopened).alive = true := by
          cases reopened <;> exact halive
        have hperform : Perform acceptor (Input.handleRead
            (Accepted.failed Errno.EMFILE) (some fd) reopened) = _ :=
          handleRead_connection hreserved fd reopened
        rw [served_iff_of_kept hperform (by simp [Event.Owned]) trivial hholds
          hstill]
        cases reopened with
        | none => simp [Reopened, Reserve]
        | some n =>
            have hn : 0 ≤ n := hreopened.1
            simp [Reopened, Reserve, hthere, hn]
  · have hnone := table_of_not_reserved h halive hreserved
    refine iff_of_false (not_served (handleRead_no_reserve hnone _ _)) ?_
    rw [← reserved_iff h halive]
    exact fun hboth => hreserved hboth.1

theorem destroy_reserved (h : Holds acceptor) (halive : acceptor.alive = true)
    (hreserved : Reserved acceptor) :
    Destroy acceptor =
      (Except.ok { acceptor with
        alive := false
        table := Function.update (Function.update acceptor.table
          acceptor.placeholderFd_ none) acceptor.listenSocket_ none },
        [Event.closeFd acceptor.placeholderFd_ (some Owner.acceptor),
          Event.closeFd acceptor.listenSocket_ (some Owner.acceptor)]) := by
  have hthere := (reserved_iff h halive).mp hreserved
  have hapart : acceptor.listenSocket_ ≠ acceptor.placeholderFd_ := by
    rcases h.reserve halive with hmissing | ⟨_, hapart⟩
    · omega
    · exact hapart.symm
  have hlistens : Function.update acceptor.table acceptor.placeholderFd_ none
      acceptor.listenSocket_ = some Owner.acceptor := by
    rw [Function.update_of_ne hapart, h.listens halive]
  rw [Destroy, closeFd_open hreserved]
  simp [Flow.Then, CloseFd, hlistens]

theorem served_iff_destroy (h : Holds acceptor)
    (halive : acceptor.alive = true) :
    Served acceptor Input.destroy <-> 0 ≤ acceptor.placeholderFd_ := by
  rw [← reserved_iff h halive]
  constructor
  · intro hserved
    by_contra hnot
    have hnone := table_of_not_reserved h halive hnot
    exact hserved.survives
      (by simp [Perform, Destroy, closeFd_closed hnone, Flow.Then])
  · intro hreserved
    have hperform : Perform acceptor Input.destroy = _ :=
      destroy_reserved h halive hreserved
    refine ⟨by simp [hperform], by simp [hperform, Event.Owned], ?_⟩
    exact fun _ _ hread => hread.elim

theorem served_quiet {i : Input} (hperform : Perform acceptor i =
    (Except.ok next, [])) (hread : ¬i.IsRead) : Served acceptor i :=
  ⟨by simp [hperform], by simp [hperform], fun _ _ h => absurd h hread⟩

theorem handleRead_transient {errno : Errno} (hhandled : errno ≠ Errno.other)
    (hmore : errno ≠ Errno.EMFILE) (second reopened : Option Int) :
    HandleRead acceptor (Accepted.failed errno) second reopened =
      (Except.ok acceptor, []) := by
  cases errno <;> simp_all [HandleRead, Errno.Handled]

theorem served_iff (h : Holds acceptor) {i : Input}
    (hanswers : Answers acceptor i) :
    Served acceptor i <-> Replenished acceptor i := by
  cases i with
  | construct | setNewConnectionCallback | opened | closed =>
      exact iff_of_true (served_quiet rfl id) trivial
  | destroy => exact served_iff_destroy h hanswers
  | handleRead accepted second reopened =>
      cases accepted with
      | connected connfd =>
          rcases hanswers with ⟨halive, hnew⟩
          rcases handleRead_connected h hnew second reopened with
            ⟨owner, es, hperform, howned, hnext⟩
          change Perform acceptor (Input.handleRead
            (Accepted.connected connfd) second reopened) = _ at hperform
          rw [served_iff_of_kept hperform howned trivial hnext halive]
          simp [Replenished]
      | failed errno =>
          rcases hanswers with ⟨halive, hhandled, hnew⟩
          by_cases hexhausted : errno = Errno.EMFILE
          · subst hexhausted
            rcases hnew rfl with ⟨hsecond, hreopened⟩
            rw [served_iff_exhausted h halive hsecond hreopened]
            simp [Replenished]
          · have hperform : Perform acceptor (Input.handleRead
                (Accepted.failed errno) second reopened) = _ :=
              handleRead_transient hhandled hexhausted second reopened
            rw [served_iff_of_kept hperform (by simp) trivial h halive]
            simp [Replenished, hexhausted]

theorem holds_step {i : Input} {es : List Event} (h : Holds acceptor)
    (hanswers : Answers acceptor i) (hreplenished : Replenished acceptor i)
    (hstep : AcceptorMachine.Step acceptor i = some (next, es)) :
    Holds next := by
  have hperform := step_eq_some.mp hstep
  cases i with
  | construct listenFd opened =>
      rcases hanswers with ⟨_, hlisten, hopened⟩
      cases hperform
      refine holds_reserve ?_ (Function.update_self _ _ _)
        (hopened.mono (fun fd hfd => hfd.2))
      intro n hn
      have hlistenFd := hlisten.1
      have hne : n ≠ listenFd := by omega
      exact (Function.update_of_ne hne _ _).trans (h.numbered n hn)
  | setNewConnectionCallback callable =>
      cases hperform
      exact ⟨h.numbered, h.listens, h.reserve⟩
  | opened fd =>
      cases hperform
      exact holds_update h hanswers.1 (by rw [hanswers.2]; simp)
  | closed fd =>
      cases hperform
      refine holds_update h ?_ ?_
      · by_contra hnegative
        have hnone := h.numbered fd (Int.not_le.mp hnegative)
        cases hnone.symm.trans hanswers
      · rw [show acceptor.table fd = some Owner.other from hanswers]
        decide
  | destroy =>
      have hreserved := (reserved_iff h hanswers).mpr hreplenished
      cases (destroy_reserved h hanswers hreserved).symm.trans hperform
      refine ⟨fun n hn => ?_, fun hborn => ?_, fun hborn => ?_⟩
      · show Function.update (Function.update acceptor.table _ none) _ none n =
          none
        rw [Function.update_apply, Function.update_apply, h.numbered n hn,
          ite_self, ite_self]
      · cases hborn
      · cases hborn
  | handleRead accepted second reopened =>
      cases accepted with
      | connected connfd =>
          rcases hanswers with ⟨halive, hnew⟩
          rcases handleRead_connected h hnew second reopened with
            ⟨owner, es', hcall, _, hnext⟩
          cases hcall.symm.trans hperform
          exact hnext
      | failed errno =>
          rcases hanswers with ⟨halive, hhandled, hnew⟩
          by_cases hexhausted : errno = Errno.EMFILE
          · subst hexhausted
            rcases hreplenished with ⟨hthere, hboth⟩
            have hreserved := (reserved_iff h halive).mpr hthere
            rcases Option.isSome_iff_exists.mp (hboth rfl).1 with ⟨fd, rfl⟩
            cases (handleRead_connection hreserved fd reopened).symm.trans
              hperform
            exact holds_reopened h halive hreserved (hnew rfl).1 (hnew rfl).2
          · cases (handleRead_transient hhandled hexhausted second
              reopened).symm.trans hperform
            exact h

/--
While the kernel answers as it may, every step of a run is served as it should
exactly when the reserve is there and is replenished.
-/
theorem served_run_iff {inputs : List Input}
    (hanswers : AcceptorMachine.Guarded Answers Unborn inputs) :
    AcceptorMachine.Guarded Served Unborn inputs <->
      AcceptorMachine.Guarded Replenished Unborn inputs :=
  Machine.Guarded.congr (I := Holds)
    (fun _ _ h hone => served_iff h hone)
    (fun _ _ _ _ h hone htwo hstep => holds_step h hone htwo hstep)
    holds_unborn hanswers

def Episodes : List Input :=
  [Input.construct 3 (some 4), Input.setNewConnectionCallback true,
    Input.handleRead (Accepted.connected 5) none none,
    Input.handleRead (Accepted.failed Errno.EMFILE) (some 4) (some 4),
    Input.handleRead (Accepted.failed Errno.EAGAIN) none none,
    Input.handleRead (Accepted.failed Errno.EMFILE) (some 4) (some 6),
    Input.closed 5, Input.destroy]

theorem episodes_served : AcceptorMachine.Guarded Served Unborn Episodes :=
  (served_run_iff (by decide +kernel)).mpr (by decide +kernel)

/-- The pending connection has gone before the second `accept`. -/
theorem exhaustion_ends_process :
    AcceptorMachine.Guarded Answers Unborn
        [Input.construct 3 (some 4),
          Input.handleRead (Accepted.failed Errno.EMFILE) none (some 4)] ∧
      ¬AcceptorMachine.Guarded Served Unborn
        [Input.construct 3 (some 4),
          Input.handleRead (Accepted.failed Errno.EMFILE) none (some 4)] := by
  refine ⟨by decide +kernel, fun hguarded => ?_⟩
  exact hguarded.2.1.survives rfl

end Acceptor
end Net
end Wethands
