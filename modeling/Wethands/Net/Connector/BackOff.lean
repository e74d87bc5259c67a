import Wethands.Net.Connector.Finished
import Wethands.Net.Connector.Retries

/-!
# How long a connector waits

Each failure in a row doubles the time to the next attempt, up to a bound, and
`Restart` starts over.  A retry is not called before its time, and once only,
whatever is called meanwhile.
-/

namespace Wethands
namespace Net

open Foundation Utils Reactor

namespace Connector

open TimerQueue (HoldsBatch OneShot Circulates)

/-- `moment` is the clock reading that the delay is added to. -/
inductive Sight where
  | restarted
  | scheduled (moment : Timestamp) (delay : Nat) (timerIdx : TimerIndex)
  | fired (now : Timestamp) (timerIdx : TimerIndex)
deriving DecidableEq

/-- The retries that were scheduled since the last `Restart`. -/
def Failures (seen : List Sight) : Nat :=
  seen.foldl (fun n sight =>
    match sight with
    | Sight.restarted => 0
    | Sight.scheduled _ _ _ => n + 1
    | Sight.fired _ _ => n) 0

def BackOff (failures : Nat) : Nat :=
  min (kInitRetryDelay * 2 ^ failures) kMaxRetryDelay

theorem backOff_succ (failures : Nat) :
    (if BackOff failures * 2 > kMaxRetryDelay then kMaxRetryDelay
      else BackOff failures * 2) = BackOff (failures + 1) := by
  have hnext : BackOff (failures + 1) =
      min (kInitRetryDelay * 2 ^ failures * 2) kMaxRetryDelay := by
    rw [BackOff, Nat.pow_succ, Nat.mul_assoc]
  rw [hnext]
  unfold BackOff kMaxRetryDelay
  split <;> omega

theorem failures_append (seen : List Sight) (sight : Sight) :
    Failures (seen ++ [sight]) =
      match sight with
      | Sight.restarted => 0
      | Sight.scheduled _ _ _ => Failures seen + 1
      | Sight.fired _ _ => Failures seen := by
  rw [Failures, List.foldl_append]
  rfl

def Paced (before : List Sight) : Sight -> Prop
  | Sight.restarted => True
  | Sight.scheduled moment delay timerIdx =>
      delay = BackOff (Failures before) ∧
        timerIdx.expiration_ = AddSeconds moment (Delay delay)
  | Sight.fired now timerIdx =>
      (exists moment delay,
        Sight.scheduled moment delay timerIdx ∈ before ∧
          AddSeconds moment (Delay delay) ≤ now) ∧
      forall earlier, Sight.fired earlier timerIdx ∉ before

variable {world next : World} {seen : List Sight}

structure Attends (world : World) (seen : List Sight) : Prop where
  held : HoldsBatch world.queue (Held world.batch) []
  oneShot : OneShot world.queue world.retries
  circulates : Circulates world.queue world.connector.timerIdx_
  delay : world.connector.retryDelay_ = BackOff (Failures seen)
  pending : forall i, Waits world.queue world.retries world.batch i ->
    (exists moment delay, Sight.scheduled moment delay i ∈ seen) ∧
      forall now, Sight.fired now i ∉ seen
  numbered : forall now i, Sight.fired now i ∈ seen ->
    i.sequence_ ∈ world.retries
  due : forall batch i, world.batch = some batch -> i ∈ batch.rest ->
    i.expiration_ ≤ batch.now
  history : Machine.Each Paced seen

theorem attends_init (newConnectionCallback : Bool) :
    Attends (Init newConnectionCallback) [] where
  held := timers_init.held
  oneShot := timers_init.oneShot
  circulates := timers_init.circulates
  delay := rfl
  pending := by simp [Init, Waits]
  numbered := by simp
  due := by simp [Init]
  history := Machine.each_nil

/-!
# Steps that are about something else
-/

structure Alike (world next : World) : Prop where
  queue : next.queue = world.queue
  retries : next.retries = world.retries
  batch : next.batch = world.batch
  timerIdx_ : next.connector.timerIdx_ = world.connector.timerIdx_
  retryDelay_ : next.connector.retryDelay_ = world.connector.retryDelay_

theorem Alike.trans {mid : World} (first : Alike world mid)
    (second : Alike mid next) : Alike world next where
  queue := second.queue.trans first.queue
  retries := second.retries.trans first.retries
  batch := second.batch.trans first.batch
  timerIdx_ := second.timerIdx_.trans first.timerIdx_
  retryDelay_ := second.retryDelay_.trans first.retryDelay_

theorem Attends.spared {queue : TimerQueue} {batch : Option Batch}
    (h : Attends world seen)
    (hspared : Spared world.queue queue world.retries world.batch batch)
    (hdue : forall b i, batch = some b -> i ∈ b.rest ->
      i.expiration_ ≤ b.now) :
    Attends { world with queue := queue, batch := batch } seen where
  held := hspared.held
  oneShot := hspared.spares.oneShot
  circulates := hspared.spares.circulates h.circulates
  delay := h.delay
  pending := by
    intro i hwaits
    refine h.pending i ⟨hwaits.1, ?_⟩
    rcases hwaits.2 with htimers | hrest
    · exact Or.inl (hspared.spares.mem i htimers hwaits.1)
    · exact hspared.rest i hrest
  numbered := h.numbered
  due := hdue
  history := h.history

theorem Attends.alike (h : Attends world seen) (hsame : Alike world next) :
    Attends next seen := by
  rcases hsame with ⟨hqueue, hretries, hbatch, hidx, hdelay⟩
  constructor
  · rw [hqueue, hbatch]
    exact h.held
  · rw [hqueue, hretries]
    exact h.oneShot
  · rw [hqueue, hidx]
    exact h.circulates
  · rw [hdelay]
    exact h.delay
  · rw [hqueue, hretries, hbatch]
    exact h.pending
  · rw [hretries]
    exact h.numbered
  · rw [hbatch]
    exact h.due
  · exact h.history

theorem startInLoop_alike (world : World) :
    Yields (StartInLoop world) (fun next _ => Alike world next) := by
  unfold StartInLoop
  split <;> exact yields_ok.mpr ⟨rfl, rfl, rfl, rfl, rfl⟩

theorem retry_alike {mid : World} (h : Alike world mid) :
    Yields (Retry mid) (fun next _ => Alike world next) := by
  refine (retry_yields mid).mono (fun next es hanswer => ?_)
  rcases hanswer with ⟨_, rfl | rfl⟩
  · exact h.trans ⟨rfl, rfl, rfl, rfl, rfl⟩
  · exact h.trans ⟨rfl, rfl, rfl, rfl, rfl⟩

theorem attempt_alike (world : World) (savedErrno : Nat) :
    Yields (Attempt world savedErrno) (fun next _ => Alike world next) := by
  refine Yields.assert (fun _ => Yields.in_turn ?_)
  refine (resetChannel_yields _).mono (fun mid es hmid => ?_)
  rcases hmid with ⟨rfl, dispatch, rfl⟩
  refine Yields.in_turn (yields_ok.mpr ?_)
  split
  · refine Yields.in_turn (registerForConnecting_yields.mono ?_)
    intro mid es hmid
    rcases hmid with ⟨rfl, channel, rfl⟩
    exact yields_ok.mpr ⟨rfl, rfl, rfl, rfl, rfl⟩
  · split
    · exact retry_alike ⟨rfl, rfl, rfl, rfl, rfl⟩
    · refine (resetChannel_yields _).mono (fun next es hnext => ?_)
      rcases hnext with ⟨rfl, other, rfl⟩
      exact ⟨rfl, rfl, rfl, rfl, rfl⟩

theorem handleWrite_alike (world : World) (isError : Nat)
    (isSelfConnect : Bool) :
    Yields (HandleWrite world isError isSelfConnect)
      (fun next _ => Alike world next) := by
  refine Yields.in_turn ((unregisterForConnecting_yields world).mono ?_)
  intro mid es hmid
  rcases hmid with ⟨rfl, channel, rfl⟩
  dsimp only
  have hretry : Yields (Retry { world with
      connector := { world.connector with
        socketChannel_ := some channel
        connecting_ := false } }) (fun next _ => Alike world next) :=
    retry_alike ⟨rfl, rfl, rfl, rfl, rfl⟩
  split
  · split
    · split
      · exact hretry
      · split
        · exact yields_ok.mpr ⟨rfl, rfl, rfl, rfl, rfl⟩
        · exact yields_ok.mpr ⟨rfl, rfl, rfl, rfl, rfl⟩
    · exact hretry
  · exact yields_error

/-!
# Steps of the timer queue
-/

section Clock

variable {clock : Nat -> Timestamp}

theorem yields_onQueue_of_ok {call : Call TimerQueue TimerQueue.Event}
    {Q : World -> List Event -> Prop}
    (h : forall queue es, call = Except.ok (queue, es) ->
      Q { world with queue := queue } []) :
    Yields (OnQueue world call) Q := by
  intro next es hnext
  unfold OnQueue at hnext
  split at hnext
  · cases hnext
  · rename_i queue es'
    cases hnext
    exact h queue es' rfl

theorem onQueue_attends {call : Call TimerQueue TimerQueue.Event}
    (h : Attends world seen)
    (hcall : forall queue es, call = Except.ok (queue, es) ->
      TimerQueue.Spares world.queue queue world.retries ∧
        HoldsBatch queue (Held world.batch) []) :
    Yields (OnQueue world call) (fun next _ => Attends next seen) := by
  refine yields_onQueue_of_ok (fun queue es hqueue => ?_)
  rcases hcall queue es hqueue with ⟨hspares, hheld⟩
  exact h.spared ⟨hspares, hheld, fun i hi => Or.inr hi⟩ h.due

/-- Whatever `CancelTimer` finds, it adds nothing. -/
theorem cancelRetry_attends (h : Attends world seen) :
    Yields (CancelRetry world) (fun next _ => Attends next seen) := by
  refine onQueue_attends h (fun queue es hcall => ?_)
  have hop : TimerQueue.RunOp (fun _ => 0) world.queue
      (TimerQueue.Op.cancelTimer world.connector.timerIdx_) =
        Except.ok (queue, es) := by
    simp only [TimerQueue.RunOp, TimerQueue.CancelTimer,
      if_pos h.circulates, hcall]
  exact ⟨TimerQueue.cancelTimerInLoop_spares h.oneShot hcall,
    runOp_holdsBatch h.held hop⟩

theorem stopInLoop_attends (h : Attends world seen) :
    Yields (StopInLoop world) (fun next _ => Attends next seen) := by
  refine Yields.in_turn (clearConnecting_yields.mono (fun mid es hmid => ?_))
  rcases hmid with ⟨rfl, channel, rfl⟩
  have hmid : Attends { world with
      connector := { world.connector with
        socket_ := false
        socketChannel_ := channel
        connecting_ := false } } seen :=
    h.alike ⟨rfl, rfl, rfl, rfl, rfl⟩
  refine Yields.in_turn ((cancelRetry_attends hmid).mono ?_)
  intro cancelled es hcancelled
  refine Yields.in_turn ((resetChannel_yields none).mono ?_)
  intro last es' hlast
  rcases hlast with ⟨rfl, dispatch, rfl⟩
  exact yields_ok.mpr (hcancelled.alike ⟨rfl, rfl, rfl, rfl, rfl⟩)

theorem Attends.restarted (h : Attends world seen) :
    Attends { world with
      connector := { world.connector with retryDelay_ := kInitRetryDelay } }
      (seen ++ [Sight.restarted]) where
  held := h.held
  oneShot := h.oneShot
  circulates := h.circulates
  delay := by
    rw [failures_append]
    rfl
  pending := by
    intro i hwaits
    rcases h.pending i hwaits with ⟨⟨moment, delay, hmem⟩, hnever⟩
    refine ⟨⟨moment, delay, List.mem_append.mpr (Or.inl hmem)⟩, ?_⟩
    intro now hfired
    rcases List.mem_append.mp hfired with hold | hlast
    · exact hnever now hold
    · simp at hlast
  numbered := by
    intro now i hfired
    rcases List.mem_append.mp hfired with hold | hlast
    · exact h.numbered now i hold
    · simp at hlast
  due := h.due
  history := h.history.append_singleton trivial

theorem restart_attends (h : Attends world seen) :
    Yields (Restart world)
      (fun next _ => Attends next (seen ++ [Sight.restarted])) := by
  refine Yields.in_turn (yields_ok.mpr ?_)
  refine Yields.in_turn (clearConnecting_yields.mono (fun mid es hmid => ?_))
  rcases hmid with ⟨rfl, channel, rfl⟩
  refine (cancelRetry_attends ?_).mono (fun next es hnext => hnext)
  exact h.restarted.alike ⟨rfl, rfl, rfl, rfl, rfl⟩

theorem handleRead_attends (h : Attends world seen) :
    Yields (HandleRead clock world) (fun next _ => Attends next seen) := by
  unfold HandleRead
  split
  · exact yields_error
  · rename_i hbatch
    have hsound : TimerQueue.Sound world.queue [] := by
      simpa [Held, hbatch] using h.held.sound
    refine yields_ok.mpr (h.spared ⟨?_, ?_, ?_⟩ ?_)
    · exact TimerQueue.getExpired_spares h.oneShot _ _ _
    · exact hsound.holdsBatch _ _ _
    · exact fun i hi => Or.inl (OrderedSet.mem_before.mp hi).1
    · intro b i hb hi
      cases hb
      have hless := (OrderedSet.mem_before.mp hi).2
      rw [TimerIndex.less_iff] at hless
      simp only [TimerQueue.Sentry] at hless
      lia

theorem restartOrDelete_attends (h : Attends world seen) :
    Yields (RestartOrDelete clock world)
      (fun next _ => Attends next seen) := by
  unfold RestartOrDelete
  split
  · rename_i now i rest hbatch
    have hheld : HoldsBatch world.queue (i :: rest) [] := by
      simpa [Held, hbatch] using h.held
    refine yields_onQueue_of_ok (fun queue es hcall => ?_)
    refine h.spared ⟨?_, ?_, ?_⟩ ?_
    · exact TimerQueue.restartOrDelete_spares h.oneShot hcall
    · exact TimerQueue.restartOrDelete_holdsBatch hheld hcall
    · intro j hj
      rw [hbatch]
      exact Or.inr hj
    · intro b j hb hj
      cases hb
      have hdue : j.expiration_ ≤ now := h.due _ j hbatch hj
      exact hdue
  · exact yields_error

theorem rearm_attends (h : Attends world seen) :
    Yields (Rearm clock world) (fun next _ => Attends next seen) := by
  unfold Rearm
  split
  · rename_i now hbatch
    have hsound : TimerQueue.Sound world.queue [] := by
      simpa [Held, hbatch] using h.held.sound
    have hspares : TimerQueue.Spares world.queue
        (TimerQueue.Rearm clock world.queue).1 world.retries :=
      TimerQueue.rearm_spares h.oneShot
    rcases TimerQueue.rearm_frame clock world.queue with
      ⟨timerfd, readings, es, hrearm, _⟩
    rw [hrearm] at hspares ⊢
    refine yields_ok.mpr (h.spared ⟨hspares, ?_, ?_⟩ ?_)
    · exact ⟨hsound.set_timerfd _ _, by simp [Held]⟩
    · exact fun i hi => absurd hi List.not_mem_nil
    · intro b i hb
      cases hb
  · exact yields_error

/-!
# A retry is called
-/

def See (clock : Nat -> Timestamp) (world : World) (i : Input)
    (answer : World × List Event) : List Sight :=
  match i with
  | Input.restart => [Sight.restarted]
  | Input.runAfter _ =>
      [Sight.scheduled (clock world.queue.readings)
        world.connector.retryDelay_ answer.1.connector.timerIdx_]
  | Input.runTimer =>
      match world.batch with
      | some ⟨now, none, timerIndex :: _⟩ =>
          if timerIndex.sequence_ ∈ world.retries then
            [Sight.fired now timerIndex]
          else []
      | _ => []
  | _ => []

theorem Attends.running_not_waits {now : Timestamp} {i : TimerIndex}
    {rest : List TimerIndex} (h : Attends world seen)
    (hbatch : world.batch =
      some { now := now, running := none, rest := i :: rest })
    {j : TimerIndex} (hj : j ∈ world.queue.timers_ ∨ j ∈ rest) : j ≠ i := by
  have hheld : HoldsBatch world.queue (i :: rest) [] := by
    simpa [Held, hbatch] using h.held
  have hnodup : i.timer_ ∉ TimerQueue.Owners world.queue
      (rest.map TimerIndex.timer_) := by
    have hgood := hheld.sound.1
    simpa using hgood.not_mem_of_hand
  rintro rfl
  apply hnodup
  rcases hj with htimers | hmem
  · exact TimerQueue.mem_owners_of_mem htimers
  · exact List.mem_append.mpr
      (Or.inl (List.mem_map.mpr ⟨j, hmem, rfl⟩))

theorem Attends.fired {now : Timestamp} {i : TimerIndex}
    {rest : List TimerIndex} (h : Attends world seen)
    (hbatch : world.batch =
      some { now := now, running := none, rest := i :: rest })
    (hretry : i.sequence_ ∈ world.retries) :
    Attends { world with
      batch := some { now := now, running := some i, rest := rest } }
      (seen ++ [Sight.fired now i]) := by
  have hfirst : i ∈ Rest world.batch := by
    rw [hbatch]
    exact List.mem_cons_self
  have hrest : forall j, j ∈ rest -> j ∈ Rest world.batch := by
    intro j hj
    rw [hbatch]
    exact List.mem_cons_of_mem _ hj
  rcases h.pending i ⟨hretry, Or.inr hfirst⟩ with
    ⟨⟨moment, delay, hmem⟩, hnever⟩
  constructor
  · have hheld := h.held
    rwa [hbatch] at hheld
  · exact h.oneShot
  · exact h.circulates
  · rw [failures_append]
    exact h.delay
  · intro j hwaits
    have hne := h.running_not_waits hbatch hwaits.2
    rcases h.pending j ⟨hwaits.1, hwaits.2.imp_right (hrest j)⟩ with
      ⟨⟨moment', delay', hmem'⟩, hnever'⟩
    refine ⟨⟨moment', delay', List.mem_append.mpr (Or.inl hmem')⟩, ?_⟩
    intro earlier hfired
    rcases List.mem_append.mp hfired with hold | hlast
    · exact hnever' earlier hold
    · cases List.mem_singleton.mp hlast
      exact hne rfl
  · intro earlier j hfired
    rcases List.mem_append.mp hfired with hold | hlast
    · exact h.numbered earlier j hold
    · cases List.mem_singleton.mp hlast
      exact hretry
  · intro b j hb hj
    cases hb
    have hdue : j.expiration_ ≤ now :=
      h.due _ j hbatch (List.mem_cons_of_mem _ hj)
    exact hdue
  · refine h.history.append_singleton ⟨⟨moment, delay, hmem, ?_⟩, hnever⟩
    rcases List.append_of_mem hmem with ⟨before, after, hsplit⟩
    rw [← (h.history _ _ _ hsplit).2]
    exact h.due _ i hbatch List.mem_cons_self

theorem runTimer_attends (h : Attends world seen) :
    Yields (RunTimer world) (fun next es =>
      Attends next (seen ++ See clock world Input.runTimer (next, es))) := by
  unfold RunTimer
  split
  · rename_i now i rest hbatch
    simp only [See, hbatch]
    split
    · exact yields_error
    · split
      · rename_i hretry
        refine (startInLoop_alike _).mono (fun next es hsame => ?_)
        exact (h.fired hbatch hretry).alike hsame
      · refine yields_ok.mpr ?_
        rw [List.append_nil]
        refine h.spared ⟨TimerQueue.Spares.refl h.oneShot, ?_, ?_⟩ ?_
        · have hheld := h.held
          rwa [hbatch] at hheld
        · intro j hj
          rw [hbatch]
          exact Or.inr (List.mem_cons_of_mem _ hj)
        · intro b j hb hj
          cases hb
          have hdue : j.expiration_ ≤ now :=
            h.due _ j hbatch (List.mem_cons_of_mem _ hj)
          exact hdue
  · exact yields_error

/-!
# A retry is scheduled
-/

theorem cons_oneShot {queue : TimerQueue} {own : List Nat} {s : Nat}
    (hone : OneShot queue [s]) (h : OneShot queue own) :
    OneShot queue (s :: own) := by
  constructor
  · intro r hr
    rcases List.mem_cons.mp hr with rfl | hold
    · exact hone.le r List.mem_cons_self
    · exact h.le r hold
  · intro a t ht hmem
    rcases List.mem_cons.mp hmem with hnew | hold
    · exact hone.once a t ht (by simp [hnew])
    · exact h.once a t ht hold
  · intro a r ha hr hmem
    rcases List.mem_cons.mp hmem with rfl | hold
    · exact hone.inside a r ha hr List.mem_cons_self
    · exact h.inside a r ha hr hold

theorem addTimer_expiration {queue next : TimerQueue} {timer : Address}
    {delay : Seconds} {es : List TimerQueue.Event}
    (hcall : TimerQueue.AddTimer clock queue timer
      (TimerQueue.Request.runAfter delay) = Except.ok (next, es))
    {i : TimerIndex} {rest : List TimerIndex} (hissued : next.issued =
      i :: rest) :
    i.expiration_ = AddSeconds (clock queue.readings) delay := by
  rcases then_eq_ok.mp hcall with ⟨made, _, _, hnew, hrest, _⟩
  rcases then_eq_ok.mp hrest with ⟨added, _, _, hadd, hissue, _⟩
  rcases TimerQueue.addTimerInLoop_eq_ok hadd with
    ⟨t, _, _, _, _, _, rfl, _, _⟩
  rcases TimerQueue.issue_eq_ok hissue with ⟨u, hu, _, rfl⟩
  unfold TimerQueue.NewTimer at hnew
  split at hnew
  · cases hnew
  · cases hnew
    simp only [Function.update_self, Option.some.injEq] at hu
    subst hu
    rw [← (List.cons.inj hissued).1]
    rfl

theorem runAfter_attends {timer : Address} (h : Attends world seen) :
    Yields (RunAfter clock world timer) (fun next es =>
      Attends next
        (seen ++ See clock world (Input.runAfter timer) (next, es))) := by
  refine Yields.in_turn (yields_onQueue_of_ok (fun queue es hcall => ?_))
  -- The new number on its own.
  have halone : Timers world.queue [] world.batch
      world.connector.timerIdx_ :=
    ⟨h.held, ⟨by simp, by simp, by simp⟩, h.circulates, by simp [Waits]⟩
  rcases (ensures_iff.mp (runAfter_spec halone (by simp [Waits]))).2 _ _
    hcall with ⟨i, rest, hissued, hnew⟩
  have hspares := TimerQueue.addTimer_spares h.oneShot hcall
  have hfresh : i.sequence_ = world.queue.count_ + 1 := by
    rcases addTimer_runAfter hcall with ⟨t, _, _, hseq, _, _, rfl⟩
    rw [← (List.cons.inj hissued).1]
    exact hseq
  have hnot : i.sequence_ ∉ world.retries := h.oneShot.not_mem hfresh
  dsimp only
  rw [hissued]
  refine yields_ok.mpr ?_
  simp only [See]
  constructor
  · exact hnew.held
  · exact cons_oneShot hnew.oneShot hspares.oneShot
  · exact hnew.circulates
  · rw [failures_append, ← backOff_succ, ← h.delay]
  · intro j hwaits
    rcases List.mem_cons.mp hwaits.1 with hsame | hold
    · have hj : j = i := hnew.only j ⟨by simp [hsame], hwaits.2⟩
      subst hj
      refine ⟨⟨_, _, List.mem_append.mpr (Or.inr List.mem_cons_self)⟩, ?_⟩
      intro now hfired
      rcases List.mem_append.mp hfired with hearlier | hlast
      · exact hnot (h.numbered now j hearlier)
      · simp at hlast
    · have hbefore : Waits world.queue world.retries world.batch j :=
        ⟨hold, hwaits.2.imp_left (fun hj => hspares.mem j hj hold)⟩
      rcases h.pending j hbefore with ⟨⟨moment, delay, hmem⟩, hnever⟩
      refine ⟨⟨moment, delay, List.mem_append.mpr (Or.inl hmem)⟩, ?_⟩
      intro now hfired
      rcases List.mem_append.mp hfired with hearlier | hlast
      · exact hnever now hearlier
      · simp at hlast
  · intro now j hfired
    rcases List.mem_append.mp hfired with hearlier | hlast
    · exact List.mem_cons_of_mem _ (h.numbered now j hearlier)
    · simp at hlast
  · exact h.due
  · refine h.history.append_singleton ⟨h.delay, ?_⟩
    exact addTimer_expiration hcall hissued

/-!
# Steps and runs
-/

theorem Attends.apart {call : Call World Event} (h : Attends world seen)
    (hcall : Yields call (fun next _ => Alike world next)) :
    Yields call (fun next _ => Attends next seen) :=
  hcall.mono (fun _ _ hsame => h.alike hsame)

theorem runFunctor_attends (h : Attends world seen) :
    Yields (RunFunctor world) (fun next _ => Attends next seen) := by
  refine yields_when (fun _ => ?_)
  split
  · exact yields_error
  · rename_i rest _
    have htaken : Attends { world with functors := rest } seen :=
      h.alike ⟨rfl, rfl, rfl, rfl, rfl⟩
    exact htaken.apart (startInLoop_alike _)
  · rename_i rest _
    have htaken : Attends { world with functors := rest } seen :=
      h.alike ⟨rfl, rfl, rfl, rfl, rfl⟩
    exact stopInLoop_attends htaken

theorem handleEvent_attends (h : Attends world seen) (revents : BitVec 32)
    (isError : Nat) (isSelfConnect : Bool) :
    Yields (HandleEvent world revents isError isSelfConnect)
      (fun next _ => Attends next seen) := by
  unfold HandleEvent
  have hhandling : Attends { world with
      dispatch := Dispatch.handling true } seen :=
    h.alike ⟨rfl, rfl, rfl, rfl, rfl⟩
  split
  · exact yields_error
  · dsimp only
    split
    · exact hhandling.apart (handleWrite_alike _ _ _)
    · exact yields_ok.mpr hhandling
  · exact yields_error

theorem resume_alike (world : World) :
    Yields (Resume world) (fun next _ => Alike world next) := by
  unfold Resume
  split
  · exact yields_ok.mpr ⟨rfl, rfl, rfl, rfl, rfl⟩
  · exact yields_error

theorem timers_attends {op : TimerQueue.Op} (h : Attends world seen) :
    Yields (OnQueue world (TimerQueue.RunOp clock world.queue op))
      (fun next _ => Attends next seen) :=
  onQueue_attends h (fun _ _ hcall =>
    ⟨TimerQueue.runOp_spares h.oneShot hcall, runOp_holdsBatch h.held hcall⟩)

theorem runTimerFunctor_attends (h : Attends world seen)
    (hbatch : world.batch = none) :
    Yields (OnQueue world (TimerQueue.RunFunctor clock world.queue))
      (fun next _ => Attends next seen) := by
  have hsound : TimerQueue.Sound world.queue [] := by
    simpa [Held, hbatch] using h.held.sound
  refine onQueue_attends h (fun queue es hcall => ?_)
  refine ⟨TimerQueue.runFunctor_spares h.oneShot hcall, ?_⟩
  rw [hbatch]
  exact ⟨(TimerQueue.runFunctor_keeps hsound hcall).1, by simp [Held]⟩

theorem timerExpires_attends (h : Attends world seen) :
    Yields (OnQueue world (TimerQueue.TimerExpires world.queue))
      (fun next _ => Attends next seen) := by
  refine onQueue_attends h (fun queue es hcall => ?_)
  refine ⟨TimerQueue.timerExpires_spares h.oneShot hcall, ?_⟩
  unfold TimerQueue.TimerExpires at hcall
  split at hcall
  · cases hcall
    exact ⟨h.held.sound.set_timerfd _ _, h.held.live⟩
  · cases hcall

theorem perform_unseen {i : Input}
    (hunseen : forall answer, See clock world i answer = [])
    (h : Yields (Perform clock world i) (fun next _ => Attends next seen)) :
    Yields (Perform clock world i) (fun next es =>
      Attends next (seen ++ See clock world i (next, es))) := by
  refine h.mono (fun next es hnext => ?_)
  rwa [hunseen, List.append_nil]

theorem perform_attends {i : Input} (h : Attends world seen) :
    Yields (Perform clock world i) (fun next es =>
      Attends next (seen ++ See clock world i (next, es))) := by
  cases i with
  | restart => exact yields_when (fun _ => restart_attends h)
  | runAfter timer => exact yields_when (fun _ => runAfter_attends h)
  | runTimer => exact yields_when (fun _ => runTimer_attends h)
  | start =>
      refine perform_unseen (fun _ => rfl) (yields_when (fun _ => ?_))
      have hstarted : Attends { world with started := true } seen :=
        h.alike ⟨rfl, rfl, rfl, rfl, rfl⟩
      exact hstarted.apart (startInLoop_alike _)
  | stop =>
      refine perform_unseen (fun _ => rfl) (yields_when (fun _ => ?_))
      have hset : Attends { world with
          connector := { world.connector with stop_ := true } } seen :=
        h.alike ⟨rfl, rfl, rfl, rfl, rfl⟩
      refine Yields.in_turn ((stopInLoop_attends hset).mono ?_)
      exact fun next es hnext => yields_ok.mpr hnext
  | remoteStart | remoteRunInLoop | poll =>
      refine perform_unseen (fun _ => rfl) (yields_when (fun _ => ?_))
      exact yields_ok.mpr (h.alike ⟨rfl, rfl, rfl, rfl, rfl⟩)
  | remoteStop =>
      refine perform_unseen (fun _ => rfl) (yields_ok.mpr ?_)
      exact h.alike ⟨rfl, rfl, rfl, rfl, rfl⟩
  | runFunctor =>
      exact perform_unseen (fun _ => rfl) (runFunctor_attends h)
  | startInLoop =>
      refine perform_unseen (fun _ => rfl) (yields_when (fun _ => ?_))
      exact h.apart (startInLoop_alike world)
  | attempt savedErrno =>
      refine perform_unseen (fun _ => rfl) (yields_when (fun _ => ?_))
      exact h.apart (attempt_alike world savedErrno)
  | newConnection =>
      refine perform_unseen (fun _ => rfl) (yields_when (fun _ => ?_))
      exact yields_ok.mpr (h.alike ⟨rfl, rfl, rfl, rfl, rfl⟩)
  | handleEvent revents isError isSelfConnect =>
      refine perform_unseen (fun _ => rfl) (yields_when (fun _ => ?_))
      exact handleEvent_attends h _ _ _
  | resume =>
      refine perform_unseen (fun _ => rfl) (yields_when (fun _ => ?_))
      exact h.apart (resume_alike world)
  | timers op => exact perform_unseen (fun _ => rfl) (timers_attends h)
  | runTimerFunctor =>
      refine perform_unseen (fun _ => rfl) (yields_when (fun hidle => ?_))
      exact runTimerFunctor_attends h hidle.2.2
  | timerExpires =>
      exact perform_unseen (fun _ => rfl) (timerExpires_attends h)
  | handleRead =>
      refine perform_unseen (fun _ => rfl) (yields_when (fun _ => ?_))
      exact handleRead_attends h
  | restartOrDelete =>
      refine perform_unseen (fun _ => rfl) (yields_when (fun _ => ?_))
      exact restartOrDelete_attends h
  | rearm =>
      refine perform_unseen (fun _ => rfl) (yields_when (fun _ => ?_))
      exact rearm_attends h

def Sights (clock : Nat -> Timestamp) (newConnectionCallback : Bool)
    (inputs : List Input) : List Sight :=
  (ConnectorMachine clock).Collect (See clock) (Init newConnectionCallback)
    inputs

theorem run_attends {newConnectionCallback : Bool} {inputs : List Input}
    {tr : List Event}
    (hrun : (ConnectorMachine clock).Run (Init newConnectionCallback) inputs =
      some (world, tr)) :
    Attends world (Sights clock newConnectionCallback inputs) :=
  Machine.run_collects (I := fun seen world _ => Attends world seen)
    (r := []) (p := [])
    (fun _ _ _ _ next es hinv hstep =>
      perform_attends hinv next es (answer_eq_some.mp hstep))
    (attends_init newConnectionCallback) hrun

/--
Every delay is the one that the failures since the last `Restart` make of it,
and every retry that is called was scheduled, is due and has not been called
before.  This takes no condition on the calls of the user, whose own timers
are in the same queue.
-/
theorem retries_back_off {newConnectionCallback : Bool} {inputs : List Input}
    {tr : List Event}
    (hrun : (ConnectorMachine clock).Run (Init newConnectionCallback) inputs =
      some (world, tr)) :
    Machine.Each Paced (Sights clock newConnectionCallback inputs) :=
  (run_attends hrun).history

/-!
# Refused three times

The second attempt is a retry, and the third one is made by `Restart`.
-/

def Refused : List Input :=
  [Input.start, Input.attempt ECONNREFUSED, Input.runAfter 1,
    Input.timerExpires, Input.handleRead, Input.runTimer,
    Input.attempt ECONNREFUSED, Input.runAfter 3, Input.restartOrDelete,
    Input.rearm, Input.restart, Input.startInLoop,
    Input.attempt ECONNREFUSED, Input.runAfter 2]

def FourTenths (n : Nat) : Timestamp :=
  400000 * n

theorem retries_back_off_of_refused :
    exists world tr,
      (ConnectorMachine FourTenths).Run (Init true) Refused =
        some (world, tr) ∧
      Sights FourTenths true Refused =
        [Sight.scheduled 0 1 ⟨1, 1000000, 1⟩,
          Sight.fired 1200000 ⟨1, 1000000, 1⟩,
          Sight.scheduled 1600000 2 ⟨3, 3600000, 2⟩, Sight.restarted,
          Sight.scheduled 3600000 1 ⟨2, 4600000, 3⟩] ∧
      Machine.Each Paced (Sights FourTenths true Refused) := by
  have heval : ((ConnectorMachine FourTenths).Run (Init true) Refused).map
      (fun last => (last.1.control, last.2)) =
      some (Control.outside, [Event.connect, Event.connect, Event.restart,
        Event.connect]) := by
    decide +kernel
  rcases (ConnectorMachine FourTenths).exists_run
    (fun world => world.control) heval with ⟨world, hrun, _⟩
  exact ⟨world, _, hrun, by decide +kernel, retries_back_off hrun⟩

end Clock
end Connector
end Net
end Wethands
