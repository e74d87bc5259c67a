import Wethands.Net.Connector.Attempt

/-!
# What `Stop` promises

`Stop` sets `stop_` at once and leaves the rest to `StopInLoop`.  `StartInLoop`
and `Retry` look at the flag and `HandleWrite` does not, and a test that was
passed before is not made again.
-/

namespace Wethands
namespace Net

open Foundation Utils Reactor

namespace Connector

variable {world next : World}

/--
No thread is in `Stop` when `Restart` is called, `Stop` does not return to
another thread while the loop thread is between a test or the handling of an
event and what it does then, and no connection is made while `StopInLoop` is
queued.
-/
def Heeded (world : World) (i : Input) : Prop :=
  match i with
  | Input.restart => world.stopping = 0
  | Input.remoteRunInLoop =>
      world.control ≠ Control.startInLoop ∧
        world.control ≠ Control.handleWrite
  | Input.handleEvent revents isError isSelfConnect =>
      ¬(world.connector.stop_ = true ∧
        Functor.stopInLoop ∈ world.functors ∧
        revents &&& Channel.EPOLLOUT ≠ 0 ∧ isError = 0 ∧
        isSelfConnect = false ∧ world.connector.newConnectionCallback_ = true)
  | _ => True

instance (world : World) (i : Input) : Decidable (Heeded world i) := by
  unfold Heeded
  split <;> infer_instance

/-- `Stop` has returned. -/
structure Halted (world : World) : Prop where
  stop : world.connector.stop_ = true
  control : world.control ≠ Control.startInLoop ∧
    world.control ≠ Control.handleWrite
  queued : world.connector.connecting_ = true ->
    Functor.stopInLoop ∈ world.functors

/-- `StopInLoop` has run. -/
structure Cleared (world : World) : Prop where
  resting : world.connector.connecting_ = false
  control : world.control = Control.outside
  queue : NoRetry world.queue world.retries
  stay : world.connector.stop_ = true ∨
    (forall i, i ∈ Rest world.batch -> i.sequence_ ∉ world.retries) ∧
      ¬StartPending world.started world.functors

/-- The flag is set while another thread is in `Stop`, and at first. -/
structure Heard (world : World) (stopped cleared : Prop) : Prop where
  stored : 0 < world.stopping -> world.connector.stop_ = true
  queued : StartPending world.started world.functors ->
    Functor.stopInLoop ∈ world.functors -> world.connector.stop_ = true
  halted : stopped -> Halted world
  cleared : cleared -> Cleared world

/-- What a step leaves when it answers with the events `es`. -/
structure Reply (stopped cleared : Prop) (next : World) (es : List Event) :
    Prop where
  heard : Heard next
    (Event.stopReturned ∈ es ∨ stopped ∧ Event.restart ∉ es)
    (Event.stopInLoop ∈ es ∨ cleared ∧ Event.restart ∉ es)
  quiet : Event.stopReturned ∈ es ∨ stopped ∧ Event.restart ∉ es ->
    Event.connect ∉ es ∧ Event.newConnection ∉ es

def Event.Plain : Event -> Bool
  | resumed _ => true
  | _ => false

variable {stopped cleared : Prop} {es : List Event}

theorem reply_plain (h : Heard world stopped cleared)
    (hplain : forall e, e ∈ es -> e.Plain = true)
    (hstored : 0 < next.stopping -> next.connector.stop_ = true)
    (hqueued : StartPending next.started next.functors ->
      Functor.stopInLoop ∈ next.functors -> next.connector.stop_ = true)
    (hhalted : Halted world -> Halted next)
    (hcleared : Cleared world -> Cleared next) :
    Reply stopped cleared next es := by
  have hnot : forall e, e.Plain = false -> e ∉ es := by
    intro e he hmem
    rw [hplain e hmem] at he
    cases he
  refine ⟨⟨hstored, hqueued, ?_, ?_⟩, fun _ => ⟨hnot _ rfl, hnot _ rfl⟩⟩
  · rintro (hmem | ⟨hstopped, _⟩)
    · exact absurd hmem (hnot _ rfl)
    · exact hhalted (h.halted hstopped)
  · rintro (hmem | ⟨hdone, _⟩)
    · exact absurd hmem (hnot _ rfl)
    · exact hcleared (h.cleared hdone)

theorem reply_running (h : Heard world stopped cleared) (hnot : ¬stopped)
    (hopen : ¬Cleared world) (hreturned : Event.stopReturned ∉ es)
    (hdone : Event.stopInLoop ∉ es)
    (hstored : 0 < next.stopping -> next.connector.stop_ = true)
    (hqueued : StartPending next.started next.functors ->
      Functor.stopInLoop ∈ next.functors -> next.connector.stop_ = true) :
    Reply stopped cleared next es := by
  refine ⟨⟨hstored, hqueued, ?_, ?_⟩, ?_⟩
  · rintro (hmem | ⟨hstopped, _⟩)
    · exact absurd hmem hreturned
    · exact absurd hstopped hnot
  · rintro (hmem | ⟨hcleared, _⟩)
    · exact absurd hmem hdone
    · exact absurd (h.cleared hcleared) hopen
  · rintro (hmem | ⟨hstopped, _⟩)
    · exact absurd hmem hreturned
    · exact absurd hstopped hnot

theorem Cleared.set_of_pending (h : Cleared world)
    (hpending : StartPending world.started world.functors) :
    world.connector.stop_ = true := by
  rcases h.stay with hset | ⟨_, hstarted⟩
  · exact hset
  · exact absurd hpending hstarted

theorem Cleared.queued (h : Cleared world) (hqueued : Queued world next) :
    Cleared next := by
  rcases hqueued with ⟨queue, batch, rfl, hspared⟩
  refine ⟨h.resting, h.control, ?_, h.stay.imp_right ?_⟩
  · exact fun i hi hown => h.queue i (hspared.spares.mem i hi hown) hown
  · intro hboth
    rcases hboth with ⟨hrest, hstarted⟩
    refine ⟨fun i hi hown => ?_, hstarted⟩
    rcases hspared.rest i hi with htimers | hmem
    · exact h.queue i htimers hown
    · exact hrest i hmem hown

theorem reply_queued (h : Heard world stopped cleared)
    (hnext : es = [] ∧ Queued world next) : Reply stopped cleared next es := by
  rcases hnext with ⟨rfl, hqueued⟩
  have hcleared := fun hdone : Cleared world => hdone.queued hqueued
  rcases hqueued with ⟨queue, batch, rfl, _⟩
  exact reply_plain h (by simp) h.stored h.queued
    (fun hhalted => ⟨hhalted.stop, hhalted.control, hhalted.queued⟩) hcleared

/-!
# The steps that have to do with `Stop`
-/

theorem Heard.restart (htidy : Tidy world)
    (horderly : Orderly world Input.restart)
    (hheeded : Heeded world Input.restart) :
    Ensures (Restart world) (Reply stopped cleared) := by
  refine Ensures.mono (restart_spec htidy.timers htidy.shape)
    (fun next es hnext => ?_)
  rcases hnext with ⟨rfl, connector, queue, rfl, _⟩
  refine ⟨⟨?_, ?_, by simp, by simp⟩, by simp⟩
  · intro hstopping
    have hzero : world.stopping = 0 := hheeded
    have hpos : 0 < world.stopping := hstopping
    omega
  · exact fun hpending => absurd hpending horderly.1

theorem Heard.runTimer (htidy : Tidy world)
    (h : Heard world stopped cleared) :
    Ensures (RunTimer world) (Reply stopped cleared) := by
  refine Ensures.mono (runTimer_spec htidy.timers) (fun next es hnext => ?_)
  rcases hnext with ⟨rfl, mid, hqueued, rfl | ⟨⟨i, hown, hi⟩, _, rfl⟩⟩
  · exact reply_queued h ⟨rfl, hqueued⟩
  · have hmid := fun hdone : Cleared world => hdone.queued hqueued
    rcases hqueued with ⟨queue, batch, rfl, _⟩
    refine reply_plain h (by simp) h.stored h.queued ?_ ?_
    · intro hhalted
      refine ⟨hhalted.stop, ?_, hhalted.queued⟩
      simp [hhalted.stop]
    · intro hdone
      have hstop : world.connector.stop_ = true := by
        rcases hdone.stay with hstop | ⟨hrest, _⟩
        · exact hstop
        · rcases hi with htimers | hmem
          · exact absurd hown (hdone.queue i htimers)
          · exact absurd hown (hrest i hmem)
      refine ⟨hdone.resting, ?_, (hmid hdone).queue, Or.inl hstop⟩
      simp [hstop]

theorem Heard.start {functors : List Functor} (htidy : Tidy world)
    (h : Heard world stopped cleared)
    (hpending : StartPending world.started world.functors)
    (hmem : forall functor, functor ∈ functors -> functor ∈ world.functors)
    (hstop : Functor.stopInLoop ∈ world.functors ->
      Functor.stopInLoop ∈ functors) :
    Ensures (StartInLoop { world with
      functors := functors
      started := true }) (Reply stopped cleared) := by
  have hresting := (htidy.unstarted hpending).1
  rw [startInLoop_eq]
  refine reply_plain h (by simp) h.stored ?_ ?_ ?_
  · intro _ hqueued
    exact h.queued hpending (hmem _ hqueued)
  · intro hhalted
    refine ⟨hhalted.stop, ?_, fun hconnecting => ?_⟩
    · simp [hhalted.stop]
    · exact hstop (hhalted.queued hconnecting)
  · intro hdone
    have hset := hdone.set_of_pending hpending
    refine ⟨hresting, ?_, hdone.queue, Or.inl hset⟩
    simp [hset]

theorem cleared_of_stopInLoop (htidy : Tidy world)
    (houtside : world.control = Control.outside)
    (hstay : world.connector.stop_ = true ∨
      (forall i, i ∈ Rest world.batch -> i.sequence_ ∉ world.retries) ∧
        ¬StartPending world.started world.functors) :
    Ensures (StopInLoop world) (fun next es =>
      es = [Event.stopInLoop] ∧ Cleared next ∧
        next.connector.stop_ = world.connector.stop_ ∧
        next.stopping = world.stopping ∧ next.started = world.started ∧
        next.functors = world.functors) := by
  refine Ensures.mono (stopInLoop_spec htidy.timers htidy.shape)
    (fun next es hnext => ?_)
  rcases hnext with ⟨rfl, hresting, queue, dispatch, rfl, _, _, hqueue⟩
  exact ⟨rfl, ⟨hresting, houtside, hqueue, hstay⟩, rfl, rfl, rfl, rfl⟩

theorem Cleared.halted (h : Cleared world)
    (hstop : world.connector.stop_ = true) : Halted world := by
  refine ⟨hstop, by simp [h.control], fun hconnecting => ?_⟩
  rw [h.resting] at hconnecting
  cases hconnecting

theorem Heard.stop (htidy : Tidy world)
    (houtside : world.control = Control.outside) :
    Ensures (Stop world) (Reply stopped cleared) := by
  have hset : Tidy { world with connector := { world.connector with
      stop_ := true } } := htidy.setStop
  apply Ensures.in_turn
  refine Ensures.mono (cleared_of_stopInLoop hset houtside (Or.inl rfl))
    (fun next es hnext => ?_)
  rcases hnext with ⟨rfl, hdone, hstop, _⟩
  refine ⟨⟨fun _ => hstop, fun _ _ => hstop, ?_, fun _ => hdone⟩, by simp⟩
  exact fun _ => hdone.halted hstop

theorem Heard.runFunctor (htidy : Tidy world)
    (h : Heard world stopped cleared) :
    Ensures (RunFunctor world) (Reply stopped cleared) := by
  apply ensures_when
  intro hparts
  rcases hparts with ⟨houtside, _, hbatch⟩
  split
  · exact ensures_impossible
  · rename_i rest hfunctors
    have hmem : Functor.startInLoop ∈ world.functors := by
      rw [hfunctors]
      exact List.mem_cons_self
    have hrest : forall functor, functor ∈ rest ->
        functor ∈ world.functors := by
      intro functor hin
      rw [hfunctors]
      exact List.mem_cons_of_mem _ hin
    have hstart := Heard.start htidy h (Or.inr hmem) hrest (by simp [hfunctors])
    rwa [← htidy.started_of_mem hmem] at hstart
  · rename_i rest hfunctors
    have hset : StartPending world.started rest ->
        world.connector.stop_ = true := by
      intro hpending
      apply h.queued (startPending_of_cons hfunctors hpending)
      rw [hfunctors]
      exact List.mem_cons_self
    have hstay : world.connector.stop_ = true ∨
        (forall i, i ∈ Rest world.batch -> i.sequence_ ∉ world.retries) ∧
          ¬StartPending world.started rest := by
      by_cases hpending : StartPending world.started rest
      · exact Or.inl (hset hpending)
      · refine Or.inr ⟨?_, hpending⟩
        rw [hbatch]
        exact fun i hi => absurd hi List.not_mem_nil
    refine Ensures.mono (cleared_of_stopInLoop (htidy.takeStop hfunctors)
      houtside hstay) (fun next es hnext => ?_)
    rcases hnext with ⟨rfl, hdone, hstop, hstopping, hstarted, hfunctors'⟩
    refine ⟨⟨?_, ?_, ?_, fun _ => hdone⟩, by simp⟩
    · rw [hstop, hstopping]
      exact h.stored
    · rw [hstop, hstarted, hfunctors']
      exact fun hpending _ => hset hpending
    · rintro (hfalse | ⟨hstopped, _⟩)
      · simp at hfalse
      · exact hdone.halted (hstop.trans (h.halted hstopped).stop)

theorem Heard.handleEvent {revents : BitVec 32} {isError : Nat}
    {isSelfConnect : Bool} (htidy : Tidy world)
    (h : Heard world stopped cleared)
    (hheeded :
      Heeded world (Input.handleEvent revents isError isSelfConnect)) :
    Ensures (HandleEvent world revents isError isSelfConnect)
      (Reply stopped cleared) := by
  unfold HandleEvent
  split
  · rename_i hdispatch
    cases (htidy.shape.ahead false hdispatch).1
  · rename_i hdispatch
    have hconnecting := (htidy.connecting hdispatch).1
    have hnot : ¬Cleared world := by
      intro hdone
      have hfalse := hdone.resting
      rw [hconnecting.1] at hfalse
      cases hfalse
    dsimp only
    split
    · rename_i hwritable
      refine Ensures.mono (handleWrite_spec hconnecting (by simp))
        (fun next es hnext => ?_)
      rcases hnext with ⟨rfl, ⟨_, _, _, rfl, _, hstop, _⟩, hcontrol⟩
      refine reply_plain h (by simp) ?_ ?_ ?_ (fun hdone => absurd hdone hnot)
      · exact fun hstopping => hstop.trans (h.stored hstopping)
      · exact fun hpending hmem => hstop.trans (h.queued hpending hmem)
      · intro hhalted
        have hqueued := hhalted.queued hconnecting.1
        refine ⟨hstop.trans hhalted.stop, ?_, fun _ => hqueued⟩
        rcases hcontrol with ⟨_, herror, hself, hcallback⟩ | hsame | hretry
        · exact absurd ⟨hhalted.stop, hqueued, hwritable, herror, hself,
            hcallback⟩ hheeded
        · rw [hsame]
          exact hhalted.control
        · rw [hretry]
          simp [hhalted.stop]
    · exact reply_plain h (by simp) h.stored h.queued
        (fun hhalted => ⟨hhalted.stop, hhalted.control, hhalted.queued⟩)
        (fun hdone => absurd hdone hnot)
  · exact ensures_impossible

/-!
# Every step
-/

section Clock

variable {clock : Nat -> Timestamp}

theorem perform_reply {i : Input} (htidy : Tidy world)
    (h : Heard world stopped cleared) (horderly : Orderly world i)
    (hheeded : Heeded world i) :
    Ensures (Perform clock world i) (Reply stopped cleared) := by
  -- Within the code of the connector `StopInLoop` has not just run.
  have hinside : world.control ≠ Control.outside -> ¬Cleared world :=
    fun hcontrol hdone => hcontrol hdone.control
  cases i with
  | start =>
      apply ensures_when
      intro hboth
      rcases hboth with ⟨_, hfresh⟩
      exact Heard.start htidy h (Or.inl hfresh) (fun _ hmem => hmem)
        (fun hmem => hmem)
  | restart =>
      exact ensures_when (fun _ => Heard.restart htidy horderly hheeded)
  | stop => exact ensures_when (fun houtside => Heard.stop htidy houtside)
  | remoteStart =>
      refine ensures_when (fun hfresh => ?_)
      have hpending : StartPending world.started world.functors :=
        Or.inl hfresh
      refine reply_plain h (by simp) h.stored ?_ ?_ ?_
      · intro _ hmem
        exact h.queued hpending (by simpa using hmem)
      · intro hhalted
        exact ⟨hhalted.stop, hhalted.control, fun hconnecting =>
          List.mem_append.mpr (Or.inl (hhalted.queued hconnecting))⟩
      · intro hdone
        exact ⟨hdone.resting, hdone.control, hdone.queue,
          Or.inl (hdone.set_of_pending hpending)⟩
  | remoteStop =>
      exact reply_plain h (by simp) (fun _ => rfl) (fun _ _ => rfl)
        (fun hhalted => ⟨rfl, hhalted.control, hhalted.queued⟩)
        (fun hdone => ⟨hdone.resting, hdone.control, hdone.queue, Or.inl rfl⟩)
  | remoteRunInLoop =>
      refine ensures_when (fun hstopping => ?_)
      have hset := h.stored hstopping
      refine ⟨⟨fun _ => hset, fun _ _ => hset, fun _ => ?_, ?_⟩, by simp⟩
      · exact ⟨hset, hheeded, fun _ =>
          List.mem_append.mpr (Or.inr List.mem_cons_self)⟩
      · rintro (hfalse | ⟨hdone, _⟩)
        · simp at hfalse
        · have hcleared := h.cleared hdone
          exact ⟨hcleared.resting, hcleared.control, hcleared.queue,
            Or.inl hset⟩
  | runFunctor => exact Heard.runFunctor htidy h
  | startInLoop =>
      refine ensures_when (fun hcontrol => ?_)
      rw [startInLoop_eq]
      refine reply_plain h (by simp) h.stored h.queued ?_ ?_
      · intro hhalted
        refine ⟨hhalted.stop, ?_, hhalted.queued⟩
        simp [hhalted.stop]
      · exact fun hdone => absurd hdone (hinside (by simp [hcontrol]))
  | attempt savedErrno =>
      refine ensures_when (fun hcontrol => ?_)
      have hidle := (htidy.inside (by simp [hcontrol])).1
      refine Ensures.mono (attempt_spec hidle) (fun next es hnext => ?_)
      rcases hnext with ⟨rfl, ⟨_, _, _, rfl, _, hstop, _⟩⟩
      have hnot : ¬stopped :=
        fun hstopped => (h.halted hstopped).control.1 hcontrol
      apply reply_running h hnot (hinside (by simp [hcontrol]))
      · simp
      · simp
      · exact fun hstopping => hstop.trans (h.stored hstopping)
      · exact fun hpending hmem => hstop.trans (h.queued hpending hmem)
  | newConnection =>
      refine ensures_when (fun hcontrol => ?_)
      have hnot : ¬stopped :=
        fun hstopped => (h.halted hstopped).control.2 hcontrol
      exact reply_running h hnot (hinside (by simp [hcontrol])) (by simp)
        (by simp) h.stored h.queued
  | runAfter timer =>
      refine ensures_when (fun hcontrol => ?_)
      have hnone := (htidy.inside (by simp [hcontrol])).2.2
      refine Ensures.mono (runAfter_moves htidy.timers hnone)
        (fun next es hnext => ?_)
      rcases hnext with ⟨rfl, _, _, _, _, rfl, _⟩
      refine reply_plain h (by simp) h.stored h.queued ?_ ?_
      · exact fun hhalted => ⟨hhalted.stop, by simp, hhalted.queued⟩
      · exact fun hdone => absurd hdone (hinside (by simp [hcontrol]))
  | poll =>
      refine ensures_when (fun _ => ?_)
      exact reply_plain h (by simp) h.stored h.queued
        (fun hhalted => ⟨hhalted.stop, hhalted.control, hhalted.queued⟩)
        (fun hdone => ⟨hdone.resting, hdone.control, hdone.queue, hdone.stay⟩)
  | handleEvent revents isError isSelfConnect =>
      exact ensures_when (fun _ => Heard.handleEvent htidy h hheeded)
  | resume =>
      refine ensures_when (fun _ => ?_)
      unfold Resume
      split
      · exact reply_plain h (by simp [Event.Plain]) h.stored h.queued
          (fun hhalted => ⟨hhalted.stop, hhalted.control, hhalted.queued⟩)
          (fun hdone =>
            ⟨hdone.resting, hdone.control, hdone.queue, hdone.stay⟩)
      · exact ensures_impossible
  | timers op =>
      exact (timers_spec htidy.timers).mono (fun _ _ => reply_queued h)
  | runTimerFunctor =>
      refine ensures_when (fun hdraining => ?_)
      exact (runTimerFunctor_spec htidy.timers hdraining.2.2).mono
        (fun _ _ => reply_queued h)
  | timerExpires =>
      exact (timerExpires_spec htidy.timers).mono (fun _ _ => reply_queued h)
  | handleRead =>
      exact ensures_when (fun _ =>
        (handleRead_spec htidy.timers).mono (fun _ _ => reply_queued h))
  | runTimer => exact ensures_when (fun _ => Heard.runTimer htidy h)
  | restartOrDelete =>
      exact ensures_when (fun _ =>
        (restartOrDelete_spec htidy.timers).mono (fun _ _ => reply_queued h))
  | rearm =>
      exact ensures_when (fun _ =>
        (rearm_spec htidy.timers).mono (fun _ _ => reply_queued h))

/-!
# Runs
-/

/-- Behind a `Stop` that returned nothing is made, up to the next `Restart`. -/
def Silent (tr : List Event) : Prop :=
  forall before after, tr = before ++ Event.stopReturned :: after ->
    Event.restart ∉ after ->
    Event.connect ∉ after ∧ Event.newConnection ∉ after

theorem Heard.mono {stopped' cleared' : Prop}
    (h : Heard world stopped cleared) (hstopped : stopped' -> stopped)
    (hcleared : cleared' -> cleared) : Heard world stopped' cleared' :=
  ⟨h.stored, h.queued, fun hstop => h.halted (hstopped hstop),
    fun hdone => h.cleared (hcleared hdone)⟩

theorem Silent.append {tr : List Event} (h : Silent tr)
    (hquiet : Event.stopReturned ∈ es ∨
      Since Event.stopReturned Event.restart tr ∧ Event.restart ∉ es ->
        Event.connect ∉ es ∧ Event.newConnection ∉ es) :
    Silent (tr ++ es) := by
  intro before after hsplit hrestart
  rcases split_append hsplit with ⟨mid, hfirst, rfl⟩ | ⟨mid, _, hsecond⟩
  · rw [List.mem_append, not_or] at hrestart
    have hmid := h before mid hfirst hrestart.1
    have hes := hquiet (Or.inr ⟨⟨before, mid, hfirst, hrestart.1⟩,
      hrestart.2⟩)
    simp only [List.mem_append, not_or]
    exact ⟨⟨hmid.1, hes.1⟩, hmid.2, hes.2⟩
  · subst hsecond
    have hes := hquiet (Or.inl (by simp))
    simp only [List.mem_append, List.mem_cons, not_or] at hes
    exact ⟨hes.1.2.2, hes.2.2.2⟩

/-- The conditions under which `Stop` is final. -/
def OrderlyStop (world : World) (i : Input) : Prop :=
  Orderly world i ∧ Heeded world i

instance (world : World) (i : Input) : Decidable (OrderlyStop world i) :=
  inferInstanceAs (Decidable (_ ∧ _))

/--
Once `Stop` has returned, no attempt is made and no connection handed over
until `Restart`; once `StopInLoop` has run, the queue holds no retry and no
channel is registered.
-/
theorem stop_means_stop {newConnectionCallback : Bool} {inputs : List Input}
    {tr : List Event}
    (hrun : (ConnectorMachine clock).Run (Init newConnectionCallback) inputs =
      some (world, tr))
    (hguard : (ConnectorMachine clock).Guarded OrderlyStop
      (Init newConnectionCallback) inputs) :
    (forall before after, tr = before ++ Event.stopReturned :: after ->
      Event.restart ∉ after ->
      Event.connect ∉ after ∧ Event.newConnection ∉ after) ∧
    forall before after, tr = before ++ Event.stopInLoop :: after ->
      Event.restart ∉ after ->
      (forall i, i ∈ world.queue.timers_ -> i.sequence_ ∉ world.retries) ∧
        world.connector.Registered = false := by
  have hinit : Heard (Init newConnectionCallback)
      (Since Event.stopReturned Event.restart [])
      (Since Event.stopInLoop Event.restart []) := by
    refine ⟨by simp [Init], by simp [Init], ?_, ?_⟩
    · exact fun hsince => absurd hsince not_since_nil
    · exact fun hsince => absurd hsince not_since_nil
  have hlast := Machine.run_invariant_of_guard
    (I := fun world tr => Tidy world ∧
      Heard world (Since Event.stopReturned Event.restart tr)
        (Since Event.stopInLoop Event.restart tr) ∧ Silent tr) (p := [])
    (fun s tr i t es hinv hcond hstep => by
      rcases hinv with ⟨htidy, hheard, hsilent⟩
      have hboth := (ensures_iff.mp ((perform_spec htidy hcond.1).and
        (perform_reply htidy hheard hcond.1 hcond.2))).2 t es
          (answer_eq_some.mp hstep)
      refine ⟨hboth.1, ?_, hsilent.append hboth.2.quiet⟩
      exact hboth.2.heard.mono since_append since_append)
    ⟨tidy_init newConnectionCallback, hinit, by simp [Silent]⟩ hguard hrun
  rw [List.nil_append] at hlast
  rcases hlast with ⟨htidy, hheard, hsilent⟩
  refine ⟨hsilent, ?_⟩
  intro before after hsplit hrestart
  have hdone := hheard.cleared ⟨before, after, hsplit, hrestart⟩
  exact ⟨hdone.queue, (htidy.shape.idle hdone.resting).1.unregistered⟩

/-- `HandleWrite` does not look at `stop_`. -/
theorem newConnection_after_stop :
    exists inputs world before after,
      (ConnectorMachine LateClock).Run (Init true) inputs =
        some (world, before ++ Event.stopReturned :: after) ∧
      Event.restart ∉ after ∧ Event.newConnection ∈ after := by
  have heval : ((ConnectorMachine LateClock).Run (Init true) [Input.start,
      Input.attempt EINPROGRESS, Input.poll, Input.remoteStop,
      Input.remoteRunInLoop, Input.handleEvent Channel.EPOLLOUT 0 false,
      Input.newConnection]).map (fun last => (last.1.connector, last.2)) =
      some ({ Connector.New true with
        socketChannel_ := some Channel.New
        stop_ := true }, [Event.connect, Event.stopReturned,
          Event.newConnection]) := by
    decide +kernel
  rcases (ConnectorMachine LateClock).exists_run
    (fun world => world.connector) heval with ⟨world, hrun, _⟩
  exact ⟨_, world, [Event.connect], [Event.newConnection], hrun, by decide,
    by decide⟩

/-- Another thread stops a connector that waits for its retry. -/
theorem stop_means_stop_of_retry :
    exists world tr,
      (ConnectorMachine LateClock).Run (Init true) [Input.start,
        Input.attempt ECONNREFUSED, Input.runAfter 1, Input.remoteStop,
        Input.remoteRunInLoop, Input.runFunctor] = some (world, tr) ∧
      tr = [Event.connect, Event.stopReturned] ++ Event.stopInLoop :: [] ∧
      world.retries = [1] ∧
      (forall i, i ∈ world.queue.timers_ -> i.sequence_ ∉ world.retries) ∧
      world.connector.Registered = false := by
  have heval : ((ConnectorMachine LateClock).Run (Init true) [Input.start,
      Input.attempt ECONNREFUSED, Input.runAfter 1, Input.remoteStop,
      Input.remoteRunInLoop, Input.runFunctor]).map
      (fun last => (last.1.retries, last.2)) =
      some ([1], [Event.connect, Event.stopReturned, Event.stopInLoop]) := by
    decide +kernel
  rcases (ConnectorMachine LateClock).exists_run
    (fun world => world.retries) heval with ⟨world, hrun, hretries⟩
  have hstop := stop_means_stop hrun (by decide +kernel)
  exact ⟨world, _, hrun, rfl, hretries,
    hstop.2 [Event.connect, Event.stopReturned] [] rfl (by decide)⟩

end Clock
end Connector
end Net
end Wethands
