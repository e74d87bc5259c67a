import Wethands.Thread.CountDownLatch

/-!
# Mutexes and conditions, step by step

An object with a lock, its conditions, and the threads inside of its member
functions.  A step is one call of the thread library, one store of `holder_`, or
the code of the critical section up to its next wait or its first signal, so a
run is an arbitrary interleaving of these.
-/

namespace Wethands
namespace Thread

open Foundation

/-- `mutex_` is the owner of the mutex; in `holder_` nobody stands for zero. -/
structure MutexLock (ThreadId : Type) where
  mutex_ : Option ThreadId
  holder_ : Option ThreadId

namespace MutexLock

variable {ThreadId : Type}

def New (ThreadId : Type) : MutexLock ThreadId where
  mutex_ := none
  holder_ := none

def AssignHolder (lock : MutexLock ThreadId) (tid : ThreadId) :
    MutexLock ThreadId :=
  { lock with holder_ := some tid }

def UnassignHolder (lock : MutexLock ThreadId) : MutexLock ThreadId :=
  { lock with holder_ := none }

/-- `pthread_mutex_lock` comes back when nobody owns the mutex. -/
def Acquire (lock : MutexLock ThreadId) (tid : ThreadId) :
    Outcome (MutexLock ThreadId) :=
  match lock.mutex_ with
  | none => Except.ok { lock with mutex_ := some tid }
  | some _ => Except.error Failure.impossible

variable [DecidableEq ThreadId]

def LockedByThisThread (lock : MutexLock ThreadId) (tid : ThreadId) : Bool :=
  lock.holder_ == some tid

/-- To unlock a mutex that another thread owns is undefined. -/
def Release (lock : MutexLock ThreadId) (tid : ThreadId) :
    Outcome (MutexLock ThreadId) :=
  if lock.mutex_ = some tid then Except.ok { lock with mutex_ := none }
  else Except.error Failure.danglingPointer

end MutexLock

namespace Condition

/--
Where a thread is in a member function.  `lock` and `awake` are in front of
`pthread_mutex_lock`, `assign` and `reassign` in front of `AssignHolder`, `wait`
and `unlock` in front of `UnassignHolder`, and `sleep` and `release` in front of
the call that gives the mutex away.  `notify` has the conditions that are still
to be signalled.
-/
inductive Place (Request Cond Event : Type) where
  | outside
  | lock (request : Request)
  | assign (request : Request)
  | body (request : Request)
  | wait (request : Request) (cond : Cond)
  | sleep (request : Request) (cond : Cond)
  | asleep (request : Request) (cond : Cond)
  | awake (request : Request)
  | reassign (request : Request)
  | notify (request : Request) (event : Event) (signals : Cond -> Signal)
      (left : List Cond)
  | unlock (request : Request)
  | release (request : Request)

namespace Place

variable {Request Cond Event : Type}

def Request? : Place Request Cond Event -> Option Request
  | outside | unlock _ | release _ => none
  | lock request | assign request | body request | wait request _ |
    sleep request _ | asleep request _ | awake request | reassign request |
    notify request _ _ _ => some request

/-- The member function that the thread is in, up to the unlocking. -/
def Inside? : Place Request Cond Event -> Option Request
  | unlock request | release request => some request
  | place => place.Request?

def Owns : Place Request Cond Event -> Bool
  | outside | lock _ | asleep _ _ | awake _ => false
  | assign _ | body _ | wait _ _ | sleep _ _ | reassign _ | notify _ _ _ _ |
    unlock _ | release _ => true

/-- The thread is behind `AssignHolder` and in front of `UnassignHolder`. -/
def Holds : Place Request Cond Event -> Bool
  | body _ | wait _ _ | notify _ _ _ _ |
    unlock _ => true
  | outside | lock _ | assign _ | sleep _ _ | asleep _ _ | awake _ |
    reassign _ | release _ => false

theorem owns_of_holds {place : Place Request Cond Event}
    (h : place.Holds = true) : place.Owns = true := by
  cases place <;> first | rfl | cases h

end Place

/-- `waiters` are the threads inside of `pthread_cond_wait`. -/
structure Shared (ThreadId Data Request Cond Event : Type) where
  data : Data
  lock_ : MutexLock ThreadId
  places : ThreadId -> Place Request Cond Event
  waiters : List (Monitor.Sleeper ThreadId Cond)

variable {ThreadId Data Request Cond Event : Type}

def Init (ThreadId Request Cond Event : Type) (data : Data) :
    Shared ThreadId Data Request Cond Event where
  data := data
  lock_ := MutexLock.New ThreadId
  places := fun _ => Place.outside
  waiters := []

inductive Input (ThreadId Request Cond : Type) where
  | call (tid : ThreadId) (request : Request)
  | next (tid : ThreadId)
  | notify (tid : ThreadId) (chosen : List (Monitor.Sleeper ThreadId Cond))
  | spurious (sleeper : Monitor.Sleeper ThreadId Cond)

section Steps

variable [DecidableEq ThreadId] [DecidableEq Cond]

def Move (shared : Shared ThreadId Data Request Cond Event)
    (lock_ : MutexLock ThreadId) (tid : ThreadId)
    (place : Place Request Cond Event) :
    Shared ThreadId Data Request Cond Event :=
  { shared with
    lock_ := lock_
    places := Function.update shared.places tid place }

def Woken (tids : List ThreadId)
    (places : ThreadId -> Place Request Cond Event) (tid : ThreadId) :
    Place Request Cond Event :=
  match places tid with
  | Place.asleep request cond =>
      if tid ∈ tids then Place.awake request else Place.asleep request cond
  | place => place

instance : LawfulBEq (Monitor.Sleeper ThreadId Cond) :=
  inferInstance

def Wake (shared : Shared ThreadId Data Request Cond Event)
    (chosen : List (Monitor.Sleeper ThreadId Cond)) :
    Shared ThreadId Data Request Cond Event :=
  { shared with
    places := Woken (chosen.map Monitor.Sleeper.tid) shared.places
    waiters := shared.waiters.filter (fun s => decide (s ∉ chosen)) }

def Begin (shared : Shared ThreadId Data Request Cond Event) (tid : ThreadId)
    (request : Request) :
    Call (Shared ThreadId Data Request Cond Event) Event :=
  match shared.places tid with
  | Place.outside =>
      Except.ok (Move shared shared.lock_ tid (Place.lock request), [])
  | _ => Except.error Failure.impossible

/-- `pthread_mutex_lock`, and then the thread goes on at `place`. -/
def Lock (shared : Shared ThreadId Data Request Cond Event) (tid : ThreadId)
    (place : Place Request Cond Event) :
    Call (Shared ThreadId Data Request Cond Event) Event :=
  match shared.lock_.Acquire tid with
  | Except.error failure => Except.error failure
  | Except.ok lock_ => Except.ok (Move shared lock_ tid place, [])

/-- `pthread_mutex_unlock`. -/
def Unlock (shared : Shared ThreadId Data Request Cond Event)
    (tid : ThreadId) : Call (Shared ThreadId Data Request Cond Event) Event :=
  match shared.lock_.Release tid with
  | Except.error failure => Except.error failure
  | Except.ok lock_ => Except.ok (Move shared lock_ tid Place.outside, [])

/-- `pthread_cond_wait` gives the mutex away and waits, in one step. -/
def CondWait (shared : Shared ThreadId Data Request Cond Event)
    (tid : ThreadId) (request : Request) (cond : Cond) :
    Call (Shared ThreadId Data Request Cond Event) Event :=
  match shared.lock_.Release tid with
  | Except.error failure => Except.error failure
  | Except.ok lock_ =>
      Except.ok
        ({ Move shared lock_ tid (Place.asleep request cond) with
          waiters := { tid := tid, cond := cond } :: shared.waiters }, [])

/-- The code under the lock; `conds` is the order of its signals. -/
def Body (M : Monitor Data Request Cond Event) (conds : List Cond)
    (shared : Shared ThreadId Data Request Cond Event) (tid : ThreadId)
    (request : Request) :
    Call (Shared ThreadId Data Request Cond Event) Event :=
  match M.Section request shared.data with
  | Verdict.waits cond =>
      Except.ok (Move shared shared.lock_ tid (Place.wait request cond), [])
  | Verdict.ends data event signals =>
      Except.ok
        ({ Move shared shared.lock_ tid
            (Place.notify request event signals conds) with data := data }, [])
  | Verdict.fails failure => Except.error failure

def Next (M : Monitor Data Request Cond Event) (conds : List Cond)
    (shared : Shared ThreadId Data Request Cond Event) (tid : ThreadId) :
    Call (Shared ThreadId Data Request Cond Event) Event :=
  let lock_ := shared.lock_
  match shared.places tid with
  | Place.outside => Except.error Failure.impossible
  | Place.lock request => Lock shared tid (Place.assign request)
  | Place.assign request =>
      Except.ok
        (Move shared (lock_.AssignHolder tid) tid (Place.body request), [])
  | Place.body request => Body M conds shared tid request
  | Place.wait request cond =>
      Assert (lock_.LockedByThisThread tid = true)
        (Except.ok
          (Move shared lock_.UnassignHolder tid (Place.sleep request cond), []))
  | Place.sleep request cond => CondWait shared tid request cond
  | Place.asleep _ _ => Except.error Failure.impossible
  | Place.awake request => Lock shared tid (Place.reassign request)
  | Place.reassign request =>
      Except.ok
        (Move shared (lock_.AssignHolder tid) tid (Place.body request), [])
  | Place.notify request event _ [] =>
      Except.ok (Move shared lock_ tid (Place.unlock request), [event])
  | Place.notify _ _ _ (_ :: _) => Except.error Failure.impossible
  | Place.unlock request =>
      Except.ok
        (Move shared lock_.UnassignHolder tid (Place.release request), [])
  | Place.release _ => Unlock shared tid

/-- The signals of one condition only. -/
def Only (signals : Cond -> Signal) (cond : Cond) : Cond -> Signal :=
  fun other => if other = cond then signals cond else Signal.quiet

/-- `pthread_cond_signal` or `pthread_cond_broadcast`, or neither. -/
def NotifyNext (shared : Shared ThreadId Data Request Cond Event)
    (tid : ThreadId) (chosen : List (Monitor.Sleeper ThreadId Cond)) :
    Call (Shared ThreadId Data Request Cond Event) Event :=
  match shared.places tid with
  | Place.notify request event signals (cond :: left) =>
      if Monitor.Answers (Only signals cond) shared.waiters chosen then
        Except.ok
          (Wake (Move shared shared.lock_ tid
            (Place.notify request event signals left)) chosen, [])
      else Except.error Failure.impossible
  | _ => Except.error Failure.impossible

def Perform (M : Monitor Data Request Cond Event) (conds : List Cond)
    (shared : Shared ThreadId Data Request Cond Event) :
    Input ThreadId Request Cond ->
      Call (Shared ThreadId Data Request Cond Event) Event
  | Input.call tid request => Begin shared tid request
  | Input.next tid => Next M conds shared tid
  | Input.notify tid chosen => NotifyNext shared tid chosen
  | Input.spurious sleeper =>
      if sleeper ∈ shared.waiters then Except.ok (Wake shared [sleeper], [])
      else Except.error Failure.impossible

def SharedMachine (M : Monitor Data Request Cond Event) (conds : List Cond)
    (ThreadId : Type) [DecidableEq ThreadId] :
    Machine (Shared ThreadId Data Request Cond Event)
      (Input ThreadId Request Cond) Event where
  Step shared i := Answer (Perform M conds shared i)

/-!
# What a step can do
-/

inductive Goes (M : Monitor Data Request Cond Event)
    (shared : Shared ThreadId Data Request Cond Event) (tid : ThreadId) :
    Place Request Cond Event -> MutexLock ThreadId ->
      Place Request Cond Event -> Prop where
  | lock (request : Request) :
      shared.lock_.mutex_ = none ->
      Goes M shared tid (Place.lock request)
        { shared.lock_ with mutex_ := some tid } (Place.assign request)
  | assign (request : Request) :
      Goes M shared tid (Place.assign request)
        (shared.lock_.AssignHolder tid) (Place.body request)
  | waits (request : Request) (cond : Cond) :
      M.Section request shared.data = Verdict.waits cond ->
      Goes M shared tid (Place.body request) shared.lock_
        (Place.wait request cond)
  | unassign (request : Request) (cond : Cond) :
      shared.lock_.holder_ = some tid ->
      Goes M shared tid (Place.wait request cond)
        shared.lock_.UnassignHolder (Place.sleep request cond)
  | relock (request : Request) :
      shared.lock_.mutex_ = none ->
      Goes M shared tid (Place.awake request)
        { shared.lock_ with mutex_ := some tid } (Place.reassign request)
  | reassign (request : Request) :
      Goes M shared tid (Place.reassign request)
        (shared.lock_.AssignHolder tid) (Place.body request)
  | unlock (request : Request) :
      Goes M shared tid (Place.unlock request)
        shared.lock_.UnassignHolder (Place.release request)
  | release (request : Request) :
      shared.lock_.mutex_ = some tid ->
      Goes M shared tid (Place.release request)
        { shared.lock_ with mutex_ := none } Place.outside

inductive Transition (M : Monitor Data Request Cond Event)
    (conds : List Cond) (shared : Shared ThreadId Data Request Cond Event) :
    Input ThreadId Request Cond -> Shared ThreadId Data Request Cond Event ->
      List Event -> Prop where
  | call (tid : ThreadId) (request : Request) :
      shared.places tid = Place.outside ->
      Transition M conds shared (Input.call tid request)
        (Move shared shared.lock_ tid (Place.lock request)) []
  | goes (tid : ThreadId) (lock_ : MutexLock ThreadId)
      (place : Place Request Cond Event) :
      Goes M shared tid (shared.places tid) lock_ place ->
      Transition M conds shared (Input.next tid)
        (Move shared lock_ tid place) []
  | sleeps (tid : ThreadId) (request : Request) (cond : Cond) :
      shared.places tid = Place.sleep request cond ->
      shared.lock_.mutex_ = some tid ->
      Transition M conds shared (Input.next tid)
        { Move shared { shared.lock_ with mutex_ := none } tid
            (Place.asleep request cond) with
          waiters := { tid := tid, cond := cond } :: shared.waiters } []
  | ends (tid : ThreadId) (request : Request) (data : Data) (event : Event)
      (signals : Cond -> Signal) :
      shared.places tid = Place.body request ->
      M.Section request shared.data = Verdict.ends data event signals ->
      Transition M conds shared (Input.next tid)
        { Move shared shared.lock_ tid
            (Place.notify request event signals conds) with data := data } []
  | notifies (tid : ThreadId) (request : Request) (event : Event)
      (signals : Cond -> Signal) (cond : Cond) (left : List Cond)
      (chosen : List (Monitor.Sleeper ThreadId Cond)) :
      shared.places tid = Place.notify request event signals (cond :: left) ->
      Monitor.Answers (Only signals cond) shared.waiters chosen ->
      Transition M conds shared (Input.notify tid chosen)
        (Wake (Move shared shared.lock_ tid
          (Place.notify request event signals left)) chosen) []
  | leaves (tid : ThreadId) (request : Request) (event : Event)
      (signals : Cond -> Signal) :
      shared.places tid = Place.notify request event signals [] ->
      Transition M conds shared (Input.next tid)
        (Move shared shared.lock_ tid (Place.unlock request)) [event]
  | spurious (sleeper : Monitor.Sleeper ThreadId Cond) :
      sleeper ∈ shared.waiters ->
      Transition M conds shared (Input.spurious sleeper)
        (Wake shared [sleeper]) []

variable {M : Monitor Data Request Cond Event} {conds : List Cond}
  {shared next : Shared ThreadId Data Request Cond Event} {es : List Event}

theorem lock_transition {tid : ThreadId} {place : Place Request Cond Event}
    (h : shared.lock_.mutex_ = none ->
      Goes M shared tid (shared.places tid)
        { shared.lock_ with mutex_ := some tid } place) :
    Yields (Lock shared tid place)
      (Transition M conds shared (Input.next tid)) := by
  unfold Lock MutexLock.Acquire
  cases hmutex : shared.lock_.mutex_ with
  | some owner => exact yields_error
  | none => exact yields_ok.mpr (Transition.goes tid _ place (h hmutex))

theorem unlock_transition {tid : ThreadId} {request : Request}
    (hplace : shared.places tid = Place.release request) :
    Yields (Unlock shared tid)
      (Transition M conds shared (Input.next tid)) := by
  unfold Unlock MutexLock.Release
  by_cases hmutex : shared.lock_.mutex_ = some tid
  · rw [if_pos hmutex]
    refine yields_ok.mpr (Transition.goes tid _ Place.outside ?_)
    rw [hplace]
    exact Goes.release request hmutex
  · rw [if_neg hmutex]
    exact yields_error

theorem condWait_transition {tid : ThreadId} {request : Request} {cond : Cond}
    (hplace : shared.places tid = Place.sleep request cond) :
    Yields (CondWait shared tid request cond)
      (Transition M conds shared (Input.next tid)) := by
  unfold CondWait MutexLock.Release
  by_cases hmutex : shared.lock_.mutex_ = some tid
  · rw [if_pos hmutex]
    exact yields_ok.mpr (Transition.sleeps tid request cond hplace hmutex)
  · rw [if_neg hmutex]
    exact yields_error

theorem body_transition {tid : ThreadId} {request : Request}
    (hplace : shared.places tid = Place.body request) :
    Yields (Body M conds shared tid request)
      (Transition M conds shared (Input.next tid)) := by
  unfold Body
  cases hsection : M.Section request shared.data with
  | waits cond =>
      refine yields_ok.mpr (Transition.goes tid _ _ ?_)
      rw [hplace]
      exact Goes.waits request cond hsection
  | ends data event signals =>
      exact yields_ok.mpr
        (Transition.ends tid request data event signals hplace hsection)
  | fails failure => exact yields_error

theorem next_transition (tid : ThreadId) :
    Yields (Next M conds shared tid)
      (Transition M conds shared (Input.next tid)) := by
  have hgoes : forall {lock_ place},
      Goes M shared tid (shared.places tid) lock_ place ->
      Yields (Except.ok (Move shared lock_ tid place, []))
        (Transition M conds shared (Input.next tid)) :=
    fun h => yields_ok.mpr (Transition.goes tid _ _ h)
  unfold Next
  cases hplace : shared.places tid with
  | outside => exact yields_error
  | lock request =>
      refine lock_transition (fun hmutex => ?_)
      rw [hplace]
      exact Goes.lock request hmutex
  | assign request =>
      rw [hplace] at hgoes
      exact hgoes (Goes.assign request)
  | body request => exact body_transition hplace
  | wait request cond =>
      rw [hplace] at hgoes
      refine Yields.assert (fun hholder => hgoes ?_)
      exact Goes.unassign request cond (beq_iff_eq.mp hholder)
  | sleep request cond => exact condWait_transition hplace
  | asleep request cond => exact yields_error
  | awake request =>
      refine lock_transition (fun hmutex => ?_)
      rw [hplace]
      exact Goes.relock request hmutex
  | reassign request =>
      rw [hplace] at hgoes
      exact hgoes (Goes.reassign request)
  | notify request event signals left =>
      cases left with
      | nil =>
          exact yields_ok.mpr
            (Transition.leaves tid request event signals hplace)
      | cons cond left => exact yields_error
  | unlock request =>
      rw [hplace] at hgoes
      exact hgoes (Goes.unlock request)
  | release request => exact unlock_transition hplace

theorem begin_transition {tid : ThreadId} {request : Request} :
    Yields (Begin shared tid request)
      (Transition M conds shared (Input.call tid request)) := by
  unfold Begin
  split
  · exact yields_ok.mpr (Transition.call tid request ‹_›)
  · exact yields_error

theorem notifyNext_transition {tid : ThreadId}
    {chosen : List (Monitor.Sleeper ThreadId Cond)} :
    Yields (NotifyNext shared tid chosen)
      (Transition M conds shared (Input.notify tid chosen)) := by
  unfold NotifyNext
  split
  · rename_i request event signals cond left hplace
    exact Yields.only_if (fun hanswers => yields_ok.mpr
      (Transition.notifies tid request event signals cond left chosen hplace
        hanswers))
  · exact yields_error

theorem perform_transition (i : Input ThreadId Request Cond) :
    Yields (Perform M conds shared i) (Transition M conds shared i) := by
  cases i with
  | call tid request => exact begin_transition
  | next tid => exact next_transition tid
  | notify tid chosen => exact notifyNext_transition
  | spurious sleeper =>
      exact Yields.only_if (fun hmem =>
        yields_ok.mpr (Transition.spurious sleeper hmem))

/-!
# Who is inside of the object
-/

omit [DecidableEq Cond] in
theorem inside_update {places : ThreadId -> Place Request Cond Event}
    {tid other : ThreadId} {place : Place Request Cond Event}
    {request : Request}
    (hplace : place.Inside? = none ∨ place.Inside? = (places tid).Inside?)
    (h : (Function.update places tid place other).Inside? = some request) :
    (places other).Inside? = some request := by
  by_cases hother : other = tid
  · subst hother
    rw [Function.update_self] at h
    rcases hplace with hplace | hplace
    · rw [hplace] at h
      cases h
    · rw [← hplace]
      exact h
  · rwa [Function.update_of_ne hother] at h

omit [DecidableEq Cond] in
theorem inside_woken (tids : List ThreadId)
    (places : ThreadId -> Place Request Cond Event) (tid : ThreadId) :
    (Woken tids places tid).Inside? = (places tid).Inside? := by
  unfold Woken
  split
  · rename_i request cond hasleep
    rw [hasleep]
    split <;> rfl
  · rfl

theorem inside_step {i : Input ThreadId Request Cond} {tid : ThreadId}
    {request : Request} (hstep : Transition M conds shared i next es)
    (h : (next.places tid).Inside? = some request) :
    (shared.places tid).Inside? = some request ∨
      i = Input.call tid request := by
  cases hstep with
  | call other asked hplace =>
      change (Function.update shared.places other (Place.lock asked)
        tid).Inside? = some request at h
      by_cases hother : tid = other
      · subst hother
        rw [Function.update_self] at h
        cases h
        exact Or.inr rfl
      · rw [Function.update_of_ne hother] at h
        exact Or.inl h
  | goes other lock_ place hgoes =>
      refine Or.inl (inside_update ?_ h)
      generalize shared.places other = current at hgoes
      cases hgoes with
      | release asked hmutex => exact Or.inl rfl
      | lock | assign | waits | unassign | relock | reassign | unlock =>
          exact Or.inr rfl
  | sleeps other asked cond hplace hmutex =>
      refine Or.inl (inside_update (Or.inr ?_) h)
      rw [hplace]
      rfl
  | ends other asked data event signals hplace hends =>
      refine Or.inl (inside_update (Or.inr ?_) h)
      rw [hplace]
      rfl
  | notifies other asked event signals cond left chosen hplace hanswers =>
      change (Woken _ (Function.update shared.places other _) tid).Inside? =
        some request at h
      rw [inside_woken] at h
      refine Or.inl (inside_update (Or.inr ?_) h)
      rw [hplace]
      rfl
  | leaves other asked event signals hplace =>
      refine Or.inl (inside_update (Or.inr ?_) h)
      rw [hplace]
      rfl
  | spurious sleeper hmem =>
      change (Woken _ shared.places tid).Inside? = some request at h
      rw [inside_woken] at h
      exact Or.inl h

/-!
# Who has the lock
-/

/-- A pointer to the one thread whose place has a property. -/
def PointsTo (p : Option ThreadId) (f : Place Request Cond Event -> Bool)
    (places : ThreadId -> Place Request Cond Event) : Prop :=
  forall tid, f (places tid) = true <-> p = some tid

omit [DecidableEq Cond] in
theorem PointsTo.same {f : Place Request Cond Event -> Bool}
    {p : Option ThreadId} {places : ThreadId -> Place Request Cond Event}
    (h : PointsTo p f places) {tid : ThreadId}
    {place : Place Request Cond Event} (hsame : f place = f (places tid)) :
    PointsTo p f (Function.update places tid place) := by
  intro other
  by_cases hother : other = tid
  · subst hother
    rw [Function.update_self, hsame]
    exact h other
  · rw [Function.update_of_ne hother]
    exact h other

omit [DecidableEq Cond] in
theorem PointsTo.gain {f : Place Request Cond Event -> Bool}
    {places : ThreadId -> Place Request Cond Event}
    {tid : ThreadId} {place : Place Request Cond Event}
    (halone : forall other, other ≠ tid -> f (places other) = false)
    (hplace : f place = true) :
    PointsTo (some tid) f (Function.update places tid place) := by
  intro other
  by_cases hother : other = tid
  · subst hother
    rw [Function.update_self]
    exact iff_of_true hplace rfl
  · rw [Function.update_of_ne hother, halone other hother]
    refine iff_of_false Bool.false_ne_true (fun heq => hother ?_)
    exact (Option.some.inj heq).symm

omit [DecidableEq Cond] in
theorem PointsTo.lose {f : Place Request Cond Event -> Bool}
    {places : ThreadId -> Place Request Cond Event}
    {tid : ThreadId} {place : Place Request Cond Event}
    (halone : forall other, other ≠ tid -> f (places other) = false)
    (hplace : f place = false) :
    PointsTo none f (Function.update places tid place) := by
  intro other
  refine iff_of_false (fun htrue => ?_) (Option.some_ne_none other).symm
  by_cases hother : other = tid
  · rw [hother, Function.update_self, hplace] at htrue
    cases htrue
  · rw [Function.update_of_ne hother, halone other hother] at htrue
    cases htrue

omit [DecidableEq Cond] in
theorem PointsTo.woken {f : Place Request Cond Event -> Bool}
    {p : Option ThreadId} {places : ThreadId -> Place Request Cond Event}
    (h : PointsTo p f places) (tids : List ThreadId)
    (hasleep : forall request cond,
      f (Place.awake request) = f (Place.asleep request cond)) :
    PointsTo p f (Woken tids places) := by
  intro tid
  have hsame : f (Woken tids places tid) = f (places tid) := by
    unfold Woken
    split
    · rename_i request cond hplace
      rw [hplace]
      split
      · exact hasleep request cond
      · rfl
    · rfl
  rw [hsame]
  exact h tid

structure Disciplined (shared : Shared ThreadId Data Request Cond Event) :
    Prop where
  owner : PointsTo shared.lock_.mutex_ Place.Owns shared.places
  holder : PointsTo shared.lock_.holder_ Place.Holds shared.places

omit [DecidableEq ThreadId] [DecidableEq Cond] in
theorem disciplined_init (data : Data) :
    Disciplined (Init ThreadId Request Cond Event data) := by
  constructor <;>
    exact fun tid => iff_of_false Bool.false_ne_true (by
      intro heq
      cases heq)

omit [DecidableEq ThreadId] [DecidableEq Cond] in
/-- While a thread has the mutex, no other one does. -/
theorem Disciplined.alone (h : Disciplined shared) {tid : ThreadId}
    (howns : (shared.places tid).Owns = true) {other : ThreadId}
    (hother : other ≠ tid) : (shared.places other).Owns = false := by
  rw [Bool.eq_false_iff]
  intro htrue
  have hboth := ((h.owner other).mp htrue).symm.trans ((h.owner tid).mp howns)
  exact hother (Option.some.inj hboth)

omit [DecidableEq ThreadId] [DecidableEq Cond] in
theorem Disciplined.free (h : Disciplined shared)
    (hmutex : shared.lock_.mutex_ = none) (tid : ThreadId) :
    (shared.places tid).Owns = false := by
  rw [Bool.eq_false_iff]
  intro htrue
  rw [(h.owner tid).mp htrue] at hmutex
  cases hmutex

omit [DecidableEq ThreadId] [DecidableEq Cond] in
theorem Disciplined.not_holds (h : Disciplined shared) {tid : ThreadId}
    (howns : (shared.places tid).Owns = true) {other : ThreadId}
    (hother : other ≠ tid) : (shared.places other).Holds = false := by
  rw [Bool.eq_false_iff]
  intro htrue
  have hfalse := h.alone howns hother
  rw [Place.owns_of_holds htrue] at hfalse
  cases hfalse

omit [DecidableEq Cond] in
theorem Disciplined.stay (h : Disciplined shared) {tid : ThreadId}
    {place : Place Request Cond Event}
    (howns : place.Owns = (shared.places tid).Owns)
    (hholds : place.Holds = (shared.places tid).Holds) :
    Disciplined (Move shared shared.lock_ tid place) :=
  ⟨h.owner.same howns, h.holder.same hholds⟩

omit [DecidableEq Cond] in
theorem disciplined_goes (h : Disciplined shared) {tid : ThreadId}
    {lock_ : MutexLock ThreadId} {place : Place Request Cond Event}
    (hgoes : Goes M shared tid (shared.places tid) lock_ place) :
    Disciplined (Move shared lock_ tid place) := by
  generalize hfrom : shared.places tid = current at hgoes
  cases hgoes with
  | lock request hmutex | relock request hmutex =>
      constructor
      · exact PointsTo.gain (fun other _ => h.free hmutex other) rfl
      · refine h.holder.same ?_
        rw [hfrom]
        rfl
  | assign request | reassign request =>
      have howns : (shared.places tid).Owns = true := by
        rw [hfrom]
        rfl
      constructor
      · refine h.owner.same ?_
        rw [howns]
        rfl
      · exact PointsTo.gain (fun other hother => h.not_holds howns hother) rfl
  | waits request cond hsection =>
      refine h.stay ?_ ?_ <;>
        rw [hfrom] <;> rfl
  | unassign request cond hholder =>
      have howns : (shared.places tid).Owns = true := by
        rw [hfrom]
        rfl
      constructor
      · refine h.owner.same ?_
        rw [howns]
        rfl
      · exact PointsTo.lose (fun other hother => h.not_holds howns hother) rfl
  | unlock request =>
      have howns : (shared.places tid).Owns = true := by
        rw [hfrom]
        rfl
      constructor
      · refine h.owner.same ?_
        rw [howns]
        rfl
      · exact PointsTo.lose (fun other hother => h.not_holds howns hother) rfl
  | release request hmutex =>
      have howns := (h.owner tid).mpr hmutex
      constructor
      · exact PointsTo.lose (fun other hother => h.alone howns hother) rfl
      · refine h.holder.same ?_
        rw [hfrom]
        rfl

theorem disciplined_step (h : Disciplined shared)
    {i : Input ThreadId Request Cond}
    (hstep : Transition M conds shared i next es) : Disciplined next := by
  cases hstep with
  | call tid request hplace =>
      refine h.stay ?_ ?_ <;> rw [hplace] <;> rfl
  | goes tid lock_ place hgoes => exact disciplined_goes h hgoes
  | sleeps tid request cond hplace hmutex =>
      have howns := (h.owner tid).mpr hmutex
      constructor
      · exact PointsTo.lose (fun other hother => h.alone howns hother) rfl
      · refine h.holder.same ?_
        rw [hplace]
        rfl
  | ends tid request data event signals hplace hsection =>
      have hstay : Disciplined (Move shared shared.lock_ tid
          (Place.notify request event signals conds)) :=
        h.stay (by rw [hplace]; rfl) (by rw [hplace]; rfl)
      exact ⟨hstay.owner, hstay.holder⟩
  | notifies tid request event signals cond left chosen hplace hanswers =>
      have hstay : Disciplined (Move shared shared.lock_ tid
          (Place.notify request event signals left)) :=
        h.stay (by rw [hplace]; rfl) (by rw [hplace]; rfl)
      exact ⟨hstay.owner.woken _ (fun _ _ => rfl),
        hstay.holder.woken _ (fun _ _ => rfl)⟩
  | leaves tid request event signals hplace =>
      refine h.stay ?_ ?_ <;> rw [hplace] <;> rfl
  | spurious sleeper hmem =>
      exact ⟨h.owner.woken _ (fun _ _ => rfl),
        h.holder.woken _ (fun _ _ => rfl)⟩

theorem run_disciplined {inputs : List (Input ThreadId Request Cond)}
    {data : Data} {tr : List Event}
    (hrun : (SharedMachine M conds ThreadId).Run
      (Init ThreadId Request Cond Event data) inputs = some (shared, tr)) :
    Disciplined shared :=
  Machine.run_invariant (I := fun shared _ => Disciplined shared) (p := [])
    (fun _ _ i _ _ hinv hone => disciplined_step hinv
      (perform_transition i _ _ (answer_eq_some.mp hone)))
    (disciplined_init data) hrun

/-!
# No assertion fails
-/

/-- A failure that comes from the code under the lock, not from the lock. -/
def FailsItself (M : Monitor Data Request Cond Event)
    (shared : Shared ThreadId Data Request Cond Event)
    (i : Input ThreadId Request Cond) (failure : Failure) : Prop :=
  exists tid request, i = Input.next tid ∧
    shared.places tid = Place.body request ∧
    M.Section request shared.data = Verdict.fails failure

omit [DecidableEq Cond] in
theorem lock_fails {tid : ThreadId} {place : Place Request Cond Event}
    {failure : Failure}
    (hfails : Lock shared tid place = Except.error failure) :
    failure = Failure.impossible := by
  unfold Lock MutexLock.Acquire at hfails
  cases hmutex : shared.lock_.mutex_ with
  | none =>
      rw [hmutex] at hfails
      cases hfails
  | some owner =>
      rw [hmutex] at hfails
      cases hfails
      rfl

omit [DecidableEq Cond] in
theorem Disciplined.release_ok (h : Disciplined shared) {tid : ThreadId}
    (howns : (shared.places tid).Owns = true) :
    shared.lock_.Release tid =
      Except.ok { shared.lock_ with mutex_ := none } :=
  if_pos ((h.owner tid).mp howns)

omit [DecidableEq Cond] in
theorem body_fails {tid : ThreadId} {request : Request} {failure : Failure}
    (hfails : Body M conds shared tid request = Except.error failure) :
    M.Section request shared.data = Verdict.fails failure := by
  unfold Body at hfails
  cases hsection : M.Section request shared.data with
  | waits cond | ends data event signals =>
      rw [hsection] at hfails
      cases hfails
  | fails other =>
      rw [hsection] at hfails
      cases hfails
      rfl

omit [DecidableEq Cond] in
theorem next_fails (h : Disciplined shared) {tid : ThreadId}
    {failure : Failure}
    (hfails : Next M conds shared tid = Except.error failure) :
    failure = Failure.impossible ∨
      FailsItself M shared (Input.next tid) failure := by
  unfold Next at hfails
  cases hplace : shared.places tid with
  | outside | asleep request cond =>
      rw [hplace] at hfails
      cases hfails
      exact Or.inl rfl
  | lock request | awake request =>
      rw [hplace] at hfails
      exact Or.inl (lock_fails hfails)
  | assign request | reassign request | unlock request =>
      rw [hplace] at hfails
      cases hfails
  | body request =>
      rw [hplace] at hfails
      exact Or.inr ⟨tid, request, rfl, hplace, body_fails hfails⟩
  | wait request cond =>
      have hholds : shared.lock_.LockedByThisThread tid = true := by
        refine beq_iff_eq.mpr ((h.holder tid).mp ?_)
        rw [hplace]
        rfl
      rw [hplace] at hfails
      dsimp only at hfails
      rw [Assert, if_pos hholds] at hfails
      cases hfails
  | sleep request cond =>
      have howns : (shared.places tid).Owns = true := by
        rw [hplace]
        rfl
      have hrelease := h.release_ok howns
      rw [hplace] at hfails
      dsimp only at hfails
      rw [CondWait, hrelease] at hfails
      cases hfails
  | notify request event signals left =>
      rw [hplace] at hfails
      cases left with
      | nil => cases hfails
      | cons cond left =>
          cases hfails
          exact Or.inl rfl
  | release request =>
      have howns : (shared.places tid).Owns = true := by
        rw [hplace]
        rfl
      have hrelease := h.release_ok howns
      rw [hplace] at hfails
      dsimp only at hfails
      rw [Unlock, hrelease] at hfails
      cases hfails

theorem perform_fails (h : Disciplined shared)
    {i : Input ThreadId Request Cond} {failure : Failure}
    (hfails : Perform M conds shared i = Except.error failure) :
    failure = Failure.impossible ∨ FailsItself M shared i failure := by
  cases i with
  | call tid request =>
      change Begin shared tid request = Except.error failure at hfails
      unfold Begin at hfails
      split at hfails <;> cases hfails
      exact Or.inl rfl
  | next tid => exact next_fails h hfails
  | notify tid chosen =>
      change NotifyNext shared tid chosen = Except.error failure at hfails
      unfold NotifyNext at hfails
      split at hfails
      · split at hfails <;> cases hfails
        exact Or.inl rfl
      · cases hfails
        exact Or.inl rfl
  | spurious sleeper =>
      refine Or.inl ?_
      by_cases hmem : sleeper ∈ shared.waiters
      · rw [Perform, if_pos hmem] at hfails
        cases hfails
      · rw [Perform, if_neg hmem] at hfails
        cases hfails
        rfl

omit [DecidableEq ThreadId] [DecidableEq Cond] in
/-- An object that no thread is inside of may be destroyed. -/
theorem Disciplined.unlocked (h : Disciplined shared)
    (hnobody : forall tid, (shared.places tid).Owns = false) :
    shared.lock_ = MutexLock.New ThreadId := by
  have hmutex : shared.lock_.mutex_ = none := by
    cases howner : shared.lock_.mutex_ with
    | none => rfl
    | some tid =>
        have howns := (h.owner tid).mpr howner
        rw [hnobody tid] at howns
        cases howns
  have hholder : shared.lock_.holder_ = none := by
    cases hheld : shared.lock_.holder_ with
    | none => rfl
    | some tid =>
        have howns := Place.owns_of_holds ((h.holder tid).mpr hheld)
        rw [hnobody tid] at howns
        cases howns
  calc
    shared.lock_ = MutexLock.mk shared.lock_.mutex_ shared.lock_.holder_ := rfl
    _ = MutexLock.New ThreadId := by
      rw [hmutex, hholder]
      rfl

theorem locked_exactly {inputs : List (Input ThreadId Request Cond)}
    {data : Data} {tr : List Event}
    (hrun : (SharedMachine M conds ThreadId).Run
      (Init ThreadId Request Cond Event data) inputs = some (shared, tr)) :
    (forall tid other, (shared.places tid).Owns = true ->
      (shared.places other).Owns = true -> other = tid) ∧
    (forall tid, shared.lock_.LockedByThisThread tid =
      (shared.places tid).Holds) ∧
    ((forall tid, (shared.places tid).Owns = false) ->
      shared.lock_ = MutexLock.New ThreadId) ∧
    forall i failure, Perform M conds shared i = Except.error failure ->
      failure = Failure.impossible ∨ FailsItself M shared i failure := by
  have h := run_disciplined hrun
  refine ⟨?_, ?_, h.unlocked, fun i failure => perform_fails h⟩
  · intro tid other htid hother
    by_contra hne
    rw [h.alone htid hne] at hother
    cases hother
  · intro tid
    rw [Bool.eq_iff_iff, h.holder tid]
    exact beq_iff_eq

end Steps

/--
A thread waits for a latch and has been woken by another one, which still has
the lock.
-/
theorem locked_exactly_of_latch :
    exists shared tr,
      (SharedMachine CountDownLatch.LatchMonitor CountDownLatch.Conds Nat).Run
        (Init Nat CountDownLatch.Request CountDownLatch.Cond
          CountDownLatch.Event (1 : Int))
        [Input.call 0 CountDownLatch.Request.wait, Input.next 0, Input.next 0,
          Input.next 0, Input.next 0, Input.next 0,
          Input.call 1 CountDownLatch.Request.countDown, Input.next 1,
          Input.next 1, Input.next 1,
          Input.notify 1 [⟨0, CountDownLatch.Cond.cond_⟩]] =
          some (shared, tr) ∧
      shared.lock_ = { mutex_ := some 1, holder_ := some 1 } ∧
      (forall tid other, (shared.places tid).Owns = true ->
        (shared.places other).Owns = true -> other = tid) ∧
      (forall tid, shared.lock_.LockedByThisThread tid =
        (shared.places tid).Holds) ∧
      forall i failure,
        Perform CountDownLatch.LatchMonitor CountDownLatch.Conds shared i =
          Except.error failure ->
        failure = Failure.impossible ∨
          FailsItself CountDownLatch.LatchMonitor shared i failure := by
  have heval : ((SharedMachine CountDownLatch.LatchMonitor
      CountDownLatch.Conds Nat).Run
      (Init Nat CountDownLatch.Request CountDownLatch.Cond
        CountDownLatch.Event (1 : Int))
      [Input.call 0 CountDownLatch.Request.wait, Input.next 0, Input.next 0,
        Input.next 0, Input.next 0, Input.next 0,
        Input.call 1 CountDownLatch.Request.countDown, Input.next 1,
        Input.next 1, Input.next 1,
        Input.notify 1 [⟨0, CountDownLatch.Cond.cond_⟩]]).map
      (fun last => ((last.1.lock_.mutex_, last.1.lock_.holder_), last.2)) =
      some ((some 1, some 1), []) := by
    decide +kernel
  rcases (SharedMachine CountDownLatch.LatchMonitor
    CountDownLatch.Conds Nat).exists_run
      (fun shared => (shared.lock_.mutex_, shared.lock_.holder_)) heval
    with ⟨shared, hrun, hlock⟩
  have hexactly := locked_exactly hrun
  refine ⟨shared, _, hrun, ?_, hexactly.1, hexactly.2.1, hexactly.2.2.2⟩
  cases hlocked : shared.lock_ with
  | mk mutex_ holder_ =>
      rw [hlocked] at hlock
      cases hlock
      rfl

end Condition
end Thread
end Wethands
