import Wethands.Thread.Mutex

/-!
# Member functions as critical sections

A run of an object, one call of the thread library after the other, is a run of
its monitor, in which a critical section is one step.  The step of the monitor
that ends a section is made when the last signal has been sent.
-/

namespace Wethands
namespace Thread
namespace Condition

open Foundation

variable {ThreadId Data Request Cond Event : Type}

/-!
# Signals that are sent one after the other
-/

/-- `chosen` answers the signals of all conditions that are not `left`. -/
def AnswersBut (left : List Cond) (signals : Cond -> Signal)
    (sleepers chosen : List (Monitor.Sleeper ThreadId Cond)) : Prop :=
  chosen.Nodup ∧
    (forall s, s ∈ chosen -> s ∈ sleepers ∧ signals s.cond ≠ Signal.quiet) ∧
    forall s, s ∈ sleepers -> s.cond ∉ left ->
      (signals s.cond = Signal.one -> exists t, t ∈ chosen ∧ t.cond = s.cond) ∧
        (signals s.cond = Signal.all -> s ∈ chosen)

theorem answers_of_answersBut {signals : Cond -> Signal}
    {sleepers chosen : List (Monitor.Sleeper ThreadId Cond)}
    (h : AnswersBut [] signals sleepers chosen) :
    Monitor.Answers signals sleepers chosen :=
  ⟨h.1, h.2.1, fun s hs => h.2.2 s hs List.not_mem_nil⟩

theorem answersBut_all {conds : List Cond} {signals : Cond -> Signal}
    (hconds : forall cond, signals cond ≠ Signal.quiet -> cond ∈ conds)
    (sleepers : List (Monitor.Sleeper ThreadId Cond)) :
    AnswersBut conds signals sleepers [] := by
  refine ⟨List.nodup_nil, ?_, ?_⟩
  · intro s hs
    cases hs
  · intro s _ hleft
    have hquiet : signals s.cond = Signal.quiet := by
      by_contra hloud
      exact hleft (hconds s.cond hloud)
    rw [hquiet]
    constructor <;>
      · intro hloud
        cases hloud

/-- `conds` has all conditions that a section signals. -/
def Complete (M : Monitor Data Request Cond Event) (conds : List Cond) :
    Prop :=
  forall request data data' event signals,
    M.Section request data = Verdict.ends data' event signals ->
    forall cond, signals cond ≠ Signal.quiet -> cond ∈ conds

section Steps

variable [DecidableEq ThreadId] [DecidableEq Cond]

theorem AnswersBut.next {cond : Cond} {left : List Cond}
    {signals : Cond -> Signal}
    {sleepers chosen more : List (Monitor.Sleeper ThreadId Cond)}
    (h : AnswersBut (cond :: left) signals sleepers chosen)
    (hmore : Monitor.Answers (Only signals cond)
      (sleepers.filter (fun s => decide (s ∉ chosen))) more) :
    AnswersBut left signals sleepers (more ++ chosen) := by
  have hnew : forall s, s ∈ more -> s ∈ sleepers ∧ s ∉ chosen ∧
      s.cond = cond ∧ signals s.cond ≠ Signal.quiet := by
    intro s hs
    rcases hmore.2.1 s hs with ⟨hfilter, hloud⟩
    rcases List.mem_filter.mp hfilter with ⟨hsleeps, hfresh⟩
    by_cases hcond : s.cond = cond
    · rw [Only, if_pos hcond] at hloud
      rw [hcond]
      exact ⟨hsleeps, of_decide_eq_true hfresh, rfl, hloud⟩
    · rw [Only, if_neg hcond] at hloud
      exact absurd rfl hloud
  refine ⟨?_, ?_, ?_⟩
  · refine List.nodup_append'.mpr ⟨hmore.1, h.1, ?_⟩
    intro s hs hold
    exact (hnew s hs).2.1 hold
  · intro s hs
    rcases List.mem_append.mp hs with hs | hs
    · exact ⟨(hnew s hs).1, (hnew s hs).2.2.2⟩
    · exact h.2.1 s hs
  · intro s hs hleft
    by_cases hcond : s.cond = cond
    · by_cases hchosen : s ∈ chosen
      · have hin := List.mem_append_right more hchosen
        exact ⟨fun _ => ⟨s, hin, rfl⟩, fun _ => hin⟩
      · have hasked := hmore.2.2 s
          (List.mem_filter.mpr ⟨hs, decide_eq_true hchosen⟩)
        rw [Only, if_pos hcond, ← hcond] at hasked
        constructor
        · intro hone
          rcases hasked.1 hone with ⟨t, ht, hsame⟩
          exact ⟨t, List.mem_append_left chosen ht, hsame⟩
        · exact fun hall => List.mem_append_left chosen (hasked.2 hall)
    · have hbefore := h.2.2 s hs (by
        intro hmem
        rcases List.mem_cons.mp hmem with heq | hmem
        · exact hcond heq
        · exact hleft hmem)
      constructor
      · intro hone
        rcases hbefore.1 hone with ⟨t, ht, hsame⟩
        exact ⟨t, List.mem_append_right more ht, hsame⟩
      · exact fun hall => List.mem_append_right more (hbefore.2 hall)

theorem AnswersBut.erase {left : List Cond} {signals : Cond -> Signal}
    {sleepers chosen : List (Monitor.Sleeper ThreadId Cond)}
    {sleeper : Monitor.Sleeper ThreadId Cond}
    (h : AnswersBut left signals sleepers chosen)
    (hother : sleeper ∉ chosen) :
    AnswersBut left signals (sleepers.erase sleeper) chosen := by
  refine ⟨h.1, ?_, ?_⟩
  · intro s hs
    rcases h.2.1 s hs with ⟨hsleeps, hloud⟩
    have hne : s ≠ sleeper := by
      rintro rfl
      exact hother hs
    exact ⟨(List.mem_erase_of_ne hne).mpr hsleeps, hloud⟩
  · intro s hs
    exact h.2.2 s (List.mem_of_mem_erase hs)

/-!
# Waiters
-/

def Waiting (places : ThreadId -> Place Request Cond Event)
    (waiters : List (Monitor.Sleeper ThreadId Cond)) : Prop :=
  forall tid cond, { tid := tid, cond := cond } ∈ waiters <->
    exists request, places tid = Place.asleep request cond

omit [DecidableEq Cond] in
theorem waiting_update {places : ThreadId -> Place Request Cond Event}
    {waiters : List (Monitor.Sleeper ThreadId Cond)} {tid : ThreadId}
    {place : Place Request Cond Event} (h : Waiting places waiters)
    (hfrom : forall request cond, places tid ≠ Place.asleep request cond)
    (hto : forall request cond, place ≠ Place.asleep request cond) :
    Waiting (Function.update places tid place) waiters := by
  intro other cond
  rw [h other cond]
  by_cases hother : other = tid
  · subst hother
    rw [Function.update_self]
    refine iff_of_false ?_ ?_
    · rintro ⟨request, hplace⟩
      exact hfrom request cond hplace
    · rintro ⟨request, hplace⟩
      exact hto request cond hplace
  · rw [Function.update_of_ne hother]

omit [DecidableEq Cond] in
theorem woken_of_ne {tids : List ThreadId}
    {places : ThreadId -> Place Request Cond Event} {tid : ThreadId}
    (hplace : forall request cond, places tid ≠ Place.asleep request cond) :
    Woken tids places tid = places tid := by
  unfold Woken
  split
  · rename_i request cond hasleep
    exact absurd hasleep (hplace request cond)
  · rfl

omit [DecidableEq Cond] in
theorem woken_eq_asleep {tids : List ThreadId}
    {places : ThreadId -> Place Request Cond Event} {tid : ThreadId}
    {request : Request} {cond : Cond} :
    Woken tids places tid = Place.asleep request cond <->
      places tid = Place.asleep request cond ∧ tid ∉ tids := by
  unfold Woken
  split
  · rename_i asked other hasleep
    by_cases hmem : tid ∈ tids
    · rw [if_pos hmem, hasleep]
      simp [hmem]
    · rw [if_neg hmem, hasleep]
      simp [hmem]
  · rename_i hplace
    refine ⟨fun heq => absurd heq (hplace request cond), ?_⟩
    rintro ⟨heq, _⟩
    exact heq

omit [DecidableEq Cond] in
/-- Only `awake` is a place that a thread is brought to. -/
theorem eq_of_woken_eq {tids : List ThreadId}
    {places : ThreadId -> Place Request Cond Event} {tid : ThreadId}
    {place : Place Request Cond Event}
    (h : Woken tids places tid = place)
    (hplace : forall request, place ≠ Place.awake request) :
    places tid = place := by
  unfold Woken at h
  split at h
  · rename_i request cond hasleep
    split at h
    · exact absurd h.symm (hplace request)
    · rw [hasleep, h]
  · exact h

omit [DecidableEq Cond] in
theorem request_woken (tids : List ThreadId)
    (places : ThreadId -> Place Request Cond Event) (tid : ThreadId) :
    (Woken tids places tid).Request? = (places tid).Request? := by
  unfold Woken
  split
  · rename_i request cond hasleep
    rw [hasleep]
    split <;> rfl
  · rfl

theorem waiting_wake {places : ThreadId -> Place Request Cond Event}
    {waiters chosen : List (Monitor.Sleeper ThreadId Cond)}
    (h : Waiting places waiters)
    (hchosen : forall s, s ∈ chosen -> s ∈ waiters) :
    Waiting (Woken (chosen.map Monitor.Sleeper.tid) places)
      (waiters.filter (fun s => decide (s ∉ chosen))) := by
  intro tid cond
  have honly : { tid := tid, cond := cond } ∈ waiters ->
      (tid ∈ chosen.map Monitor.Sleeper.tid <->
        { tid := tid, cond := cond } ∈ chosen) := by
    intro hwaits
    refine ⟨fun hmem => ?_, fun hmem => List.mem_map_of_mem hmem⟩
    rcases List.mem_map.mp hmem with ⟨s, hs, rfl⟩
    rcases (h s.tid cond).mp hwaits with ⟨request, hplace⟩
    rcases (h s.tid s.cond).mp (hchosen s hs) with ⟨asked, hother⟩
    rw [hplace] at hother
    cases hother
    exact hs
  rw [List.mem_filter, decide_eq_true_iff]
  constructor
  · rintro ⟨hwaits, hfresh⟩
    rcases (h tid cond).mp hwaits with ⟨request, hplace⟩
    refine ⟨request, woken_eq_asleep.mpr ⟨hplace, fun hmem => ?_⟩⟩
    exact hfresh ((honly hwaits).mp hmem)
  · rintro ⟨request, hplace⟩
    rcases woken_eq_asleep.mp hplace with ⟨hbefore, hfresh⟩
    have hwaits := (h tid cond).mpr ⟨request, hbefore⟩
    exact ⟨hwaits, fun hmem => hfresh ((honly hwaits).mpr hmem)⟩

/-!
# The relation
-/

def Quiet (shared : Shared ThreadId Data Request Cond Event)
    (state : Monitor.State ThreadId Data Request Cond) : Prop :=
  state.data = shared.data ∧ state.sleepers = shared.waiters ∧
    forall tid request event signals left,
      shared.places tid ≠ Place.notify request event signals left

/-- A thread has changed the data, and has signalled some conditions. -/
structure Notifying (M : Monitor Data Request Cond Event)
    (shared : Shared ThreadId Data Request Cond Event)
    (state : Monitor.State ThreadId Data Request Cond) (tid : ThreadId)
    (request : Request) (event : Event) (signals : Cond -> Signal)
    (left : List Cond) (chosen : List (Monitor.Sleeper ThreadId Cond)) :
    Prop where
  place : shared.places tid = Place.notify request event signals left
  ends : M.Section request state.data =
    Verdict.ends shared.data event signals
  up : tid ∉ state.sleepers.map Monitor.Sleeper.tid
  answers : AnswersBut left signals state.sleepers chosen
  waiters : shared.waiters =
    state.sleepers.filter (fun s => decide (s ∉ chosen))

structure Matches (M : Monitor Data Request Cond Event)
    (shared : Shared ThreadId Data Request Cond Event)
    (state : Monitor.State ThreadId Data Request Cond) : Prop where
  disciplined : Disciplined shared
  orderly : Monitor.Orderly M state
  calls : forall tid, state.calls tid = (shared.places tid).Request?
  waiting : Waiting shared.places shared.waiters
  awake : forall s, s ∈ state.woken -> forall request cond,
    shared.places s.tid ≠ Place.asleep request cond
  decided : forall tid request cond,
    shared.places tid = Place.wait request cond ∨
      shared.places tid = Place.sleep request cond ->
    M.Section request shared.data = Verdict.waits cond
  signalled : Quiet shared state ∨
    exists tid request event signals left chosen,
      Notifying M shared state tid request event signals left chosen

variable {M : Monitor Data Request Cond Event} {conds : List Cond}
  {shared next : Shared ThreadId Data Request Cond Event}
  {state : Monitor.State ThreadId Data Request Cond} {es : List Event}

theorem matches_init (data : Data) :
    Matches M (Init ThreadId Request Cond Event data)
      (Monitor.Init ThreadId Request Cond data) where
  disciplined := disciplined_init data
  orderly := Monitor.orderly_init data
  calls := fun _ => rfl
  waiting := by
    intro tid cond
    refine iff_of_false List.not_mem_nil ?_
    rintro ⟨request, hplace⟩
    cases hplace
  awake := by
    intro s hs
    cases hs
  decided := by
    intro tid request cond hplace
    rcases hplace with hplace | hplace <;> cases hplace
  signalled := by
    refine Or.inl ⟨rfl, rfl, ?_⟩
    intro tid request event signals left hplace
    cases hplace

theorem Notifying.tid_eq {tid other : ThreadId} {request : Request}
    {event : Event} {signals : Cond -> Signal} {left : List Cond}
    {chosen : List (Monitor.Sleeper ThreadId Cond)}
    (h : Notifying M shared state other request event signals left chosen)
    (hdisciplined : Disciplined shared)
    (howns : (shared.places tid).Owns = true) : tid = other := by
  by_contra hne
  have hfalse := hdisciplined.alone howns (Ne.symm hne)
  rw [h.place] at hfalse
  cases hfalse

theorem Matches.quiet (h : Matches M shared state) {tid : ThreadId}
    (howns : (shared.places tid).Owns = true)
    (hother : forall request event signals left,
      shared.places tid ≠ Place.notify request event signals left) :
    Quiet shared state := by
  rcases h.signalled with hquiet |
    ⟨other, request, event, signals, left, chosen, hnotifying⟩
  · exact hquiet
  · have heq := hnotifying.tid_eq h.disciplined howns
    rw [← heq] at hnotifying
    exact absurd hnotifying.place (hother request event signals left)

theorem Matches.notifying (h : Matches M shared state) {tid : ThreadId}
    {request : Request} {event : Event} {signals : Cond -> Signal}
    {left : List Cond}
    (hplace : shared.places tid = Place.notify request event signals left) :
    exists chosen,
      Notifying M shared state tid request event signals left chosen := by
  rcases h.signalled with ⟨_, _, hnobody⟩ |
    ⟨other, asked, event', signals', left', chosen, hnotifying⟩
  · exact absurd hplace (hnobody tid request event signals left)
  · have howns : (shared.places tid).Owns = true := by
      rw [hplace]
      rfl
    have heq := hnotifying.tid_eq h.disciplined howns
    subst heq
    have hsame := hnotifying.place
    rw [hplace] at hsame
    cases hsame
    exact ⟨chosen, hnotifying⟩

theorem Matches.not_waiting (h : Matches M shared state) {tid : ThreadId}
    (hplace : forall request cond,
      shared.places tid ≠ Place.asleep request cond) :
    tid ∉ shared.waiters.map Monitor.Sleeper.tid := by
  intro hmem
  rcases List.mem_map.mp hmem with ⟨s, hs, rfl⟩
  rcases (h.waiting s.tid s.cond).mp hs with ⟨request, hasleep⟩
  exact hplace request s.cond hasleep

/-!
# Steps of one thread
-/

def Plain : Place Request Cond Event -> Prop
  | Place.asleep _ _ | Place.notify _ _ _ _ => False
  | _ => True

theorem Matches.moved (h : Matches M shared state) {tid : ThreadId}
    {lock_ : MutexLock ThreadId} {place : Place Request Cond Event}
    (hdisciplined : Disciplined (Move shared lock_ tid place))
    (horderly : Monitor.Orderly M { state with
      calls := Function.update state.calls tid place.Request? })
    (hfrom : Plain (shared.places tid)) (hto : Plain place)
    (hdecided : forall request cond,
      place = Place.wait request cond ∨ place = Place.sleep request cond ->
      M.Section request shared.data = Verdict.waits cond) :
    Matches M (Move shared lock_ tid place)
      { state with
        calls := Function.update state.calls tid place.Request? } where
  disciplined := hdisciplined
  orderly := horderly
  calls := by
    intro other
    show Function.update state.calls tid place.Request? other =
      (Function.update shared.places tid place other).Request?
    by_cases hother : other = tid
    · subst hother
      rw [Function.update_self, Function.update_self]
    · rw [Function.update_of_ne hother, Function.update_of_ne hother]
      exact h.calls other
  waiting := by
    refine waiting_update h.waiting ?_ ?_
    · intro request cond hplace
      rw [hplace] at hfrom
      exact hfrom
    · rintro request cond rfl
      exact hto
  awake := by
    intro s hs request cond hasleep
    change Function.update shared.places tid place s.tid = _ at hasleep
    by_cases hother : s.tid = tid
    · rw [hother, Function.update_self] at hasleep
      rw [hasleep] at hto
      exact hto
    · rw [Function.update_of_ne hother] at hasleep
      exact h.awake s hs request cond hasleep
  decided := by
    intro other request cond hplace
    change Function.update shared.places tid place other = _ ∨
      Function.update shared.places tid place other = _ at hplace
    by_cases hother : other = tid
    · rw [hother, Function.update_self] at hplace
      exact hdecided request cond hplace
    · rw [Function.update_of_ne hother] at hplace
      exact h.decided other request cond hplace
  signalled := by
    rcases h.signalled with ⟨hdata, hwaiters, hnobody⟩ |
      ⟨other, request, event, signals, left, chosen, hnotifying⟩
    · refine Or.inl ⟨hdata, hwaiters, ?_⟩
      intro other request event signals left hplace
      change Function.update shared.places tid place other = _ at hplace
      by_cases hother : other = tid
      · rw [hother, Function.update_self] at hplace
        rw [hplace] at hto
        exact hto
      · rw [Function.update_of_ne hother] at hplace
        exact hnobody other request event signals left hplace
    · have hother : other ≠ tid := by
        rintro rfl
        rw [hnotifying.place] at hfrom
        exact hfrom
      exact Or.inr ⟨other, request, event, signals, left, chosen,
        { hnotifying with
          place := by
            change Function.update shared.places tid place other = _
            rw [Function.update_of_ne hother, hnotifying.place] }⟩

/-- What a thread does by itself, the monitor does not see. -/
theorem matches_goes (h : Matches M shared state) {tid : ThreadId}
    {lock_ : MutexLock ThreadId} {place : Place Request Cond Event}
    (hgoes : Goes M shared tid (shared.places tid) lock_ place) :
    Matches M (Move shared lock_ tid place) state := by
  have hparts : Plain (shared.places tid) ∧ Plain place ∧
      place.Request? = (shared.places tid).Request? := by
    generalize shared.places tid = current at hgoes
    cases hgoes <;> exact ⟨trivial, trivial, rfl⟩
  rcases hparts with ⟨hfrom, hto, hrequest⟩
  have hsame : Function.update state.calls tid place.Request? =
      state.calls := by
    rw [hrequest, ← h.calls tid, Function.update_eq_self]
  have hdecided : forall request cond,
      place = Place.wait request cond ∨ place = Place.sleep request cond ->
      M.Section request shared.data = Verdict.waits cond := by
    intro request cond hplace
    generalize hcurrent : shared.places tid = current at hgoes
    rcases hplace with rfl | rfl
    · cases hgoes with
      | waits _ _ hsection => exact hsection
    · cases hgoes with
      | unassign _ _ hholder =>
          exact h.decided tid request cond (Or.inl hcurrent)
  have hmoved := h.moved (disciplined_goes h.disciplined hgoes)
    (hsame.symm ▸ h.orderly) hfrom hto hdecided
  rwa [hsame] at hmoved

theorem Matches.step_disciplined (h : Matches M shared state)
    {i : Input ThreadId Request Cond}
    (hstep : Transition M ([] : List Cond) shared i next es) :
    Disciplined next :=
  disciplined_step h.disciplined hstep

theorem Matches.step_orderly (h : Matches M shared state)
    {other : Monitor.State ThreadId Data Request Cond}
    (hstep : Monitor.Transition M state other ([] : List Event)) :
    Monitor.Orderly M other :=
  Monitor.orderly_step h.orderly hstep

theorem matches_call (h : Matches M shared state) {tid : ThreadId}
    {request : Request} (hplace : shared.places tid = Place.outside) :
    exists next, Monitor.Begin state tid request =
        Except.ok (next, ([] : List Event)) ∧
      Matches M (Move shared shared.lock_ tid (Place.lock request)) next := by
  have hidle : state.calls tid = none := by
    rw [h.calls tid, hplace]
    rfl
  refine ⟨{ state with
    calls := Function.update state.calls tid (some request) }, ?_, ?_⟩
  · rw [Monitor.Begin, hidle]
  · have hdisciplined : Disciplined (Move shared shared.lock_ tid
        (Place.lock request)) :=
      h.step_disciplined (Transition.call tid request hplace)
    refine h.moved hdisciplined ?_ ?_ trivial ?_
    · exact h.step_orderly (Monitor.Transition.call tid request hidle)
    · rw [hplace]
      trivial
    · intro other cond heither
      rcases heither with heither | heither <;> cases heither

theorem matches_sleeps (h : Matches M shared state) {tid : ThreadId}
    {request : Request} {cond : Cond}
    (hplace : shared.places tid = Place.sleep request cond)
    (hmutex : shared.lock_.mutex_ = some tid) :
    exists next, Monitor.Enter M state tid [] = Except.ok (next, []) ∧
      Matches M
        { Move shared { shared.lock_ with mutex_ := none } tid
            (Place.asleep request cond) with
          waiters := { tid := tid, cond := cond } :: shared.waiters }
        next := by
  have howns := (h.disciplined.owner tid).mpr hmutex
  rcases h.quiet howns (by simp [hplace]) with ⟨hdata, hsleepers, hnobody⟩
  have hup : tid ∉ state.sleepers.map Monitor.Sleeper.tid := by
    rw [hsleepers]
    exact h.not_waiting (by simp [hplace])
  have hcall : state.calls tid = some request := by
    rw [h.calls tid, hplace]
    rfl
  have hwaits := h.decided tid request cond (Or.inr hplace)
  rw [← hdata] at hwaits
  have hcond := M.waits_on request state.data cond hwaits
  subst hcond
  refine ⟨_, Monitor.enter_waits hcall hup hwaits, ?_⟩
  constructor
  case disciplined =>
    exact h.step_disciplined
      (Transition.sleeps tid request _ hplace hmutex)
  case orderly =>
    exact h.step_orderly
      (Monitor.Transition.waits tid request hcall hup hwaits)
  case calls =>
    intro other
    show state.calls other = (Function.update shared.places tid
      (Place.asleep request (M.WaitsOn request)) other).Request?
    by_cases hother : other = tid
    · subst hother
      rw [Function.update_self, hcall]
      rfl
    · rw [Function.update_of_ne hother]
      exact h.calls other
  case waiting =>
    intro other cond
    show _ <-> exists asked, Function.update shared.places tid
      (Place.asleep request (M.WaitsOn request)) other =
        Place.asleep asked cond
    rw [List.mem_cons, h.waiting other cond]
    by_cases hother : other = tid
    · subst hother
      rw [Function.update_self]
      simp [hplace, eq_comm]
    · rw [Function.update_of_ne hother]
      simp [hother]
  case awake =>
    intro s hs asked cond hasleep
    rcases List.mem_filter.mp hs with ⟨hwoken, hother⟩
    change Function.update shared.places tid _ s.tid = _ at hasleep
    rw [Function.update_of_ne (of_decide_eq_true hother)] at hasleep
    exact h.awake s hwoken asked cond hasleep
  case decided =>
    intro other asked cond heither
    change Function.update shared.places tid _ other = _ ∨
      Function.update shared.places tid _ other = _ at heither
    by_cases hother : other = tid
    · rw [hother, Function.update_self] at heither
      rcases heither with heither | heither <;> cases heither
    · rw [Function.update_of_ne hother] at heither
      exact h.decided other asked cond heither
  case signalled =>
    refine Or.inl ⟨hdata, ?_, ?_⟩
    · show _ :: state.sleepers = _ :: shared.waiters
      rw [hsleepers]
    · intro other asked event signals left hnotify
      change Function.update shared.places tid _ other = _ at hnotify
      by_cases hother : other = tid
      · rw [hother, Function.update_self] at hnotify
        cases hnotify
      · rw [Function.update_of_ne hother] at hnotify
        exact hnobody other asked event signals left hnotify

theorem matches_ends (hconds : Complete M conds)
    (h : Matches M shared state) {tid : ThreadId} {request : Request}
    {data : Data} {event : Event} {signals : Cond -> Signal}
    (hplace : shared.places tid = Place.body request)
    (hends : M.Section request shared.data =
      Verdict.ends data event signals) :
    Matches M
      { Move shared shared.lock_ tid
          (Place.notify request event signals conds) with data := data }
      state := by
  have howns : (shared.places tid).Owns = true := by
    rw [hplace]
    rfl
  rcases h.quiet howns (by simp [hplace]) with ⟨hdata, hsleepers, hnobody⟩
  constructor
  case disciplined =>
    exact disciplined_step h.disciplined
      (Transition.ends tid request data event signals hplace hends)
  case orderly => exact h.orderly
  case calls =>
    intro other
    show state.calls other = (Function.update shared.places tid
      (Place.notify request event signals conds) other).Request?
    by_cases hother : other = tid
    · subst hother
      rw [Function.update_self, h.calls other, hplace]
      rfl
    · rw [Function.update_of_ne hother]
      exact h.calls other
  case waiting =>
    exact waiting_update h.waiting (by simp [hplace]) (by simp)
  case awake =>
    intro s hs asked cond hasleep
    change Function.update shared.places tid _ s.tid = _ at hasleep
    by_cases hother : s.tid = tid
    · rw [hother, Function.update_self] at hasleep
      cases hasleep
    · rw [Function.update_of_ne hother] at hasleep
      exact h.awake s hs asked cond hasleep
  case decided =>
    intro other asked cond heither
    change Function.update shared.places tid _ other = _ ∨
      Function.update shared.places tid _ other = _ at heither
    by_cases hother : other = tid
    · rw [hother, Function.update_self] at heither
      rcases heither with heither | heither <;> cases heither
    · -- Another thread would have the mutex as well.
      rw [Function.update_of_ne hother] at heither
      have hfalse := h.disciplined.alone howns hother
      rcases heither with heither | heither <;>
        rw [heither] at hfalse <;> cases hfalse
  case signalled =>
    refine Or.inr ⟨tid, request, event, signals, conds, [], ?_⟩
    constructor
    case place => exact Function.update_self tid _ shared.places
    case ends =>
      rw [hdata]
      exact hends
    case up =>
      rw [hsleepers]
      exact h.not_waiting (by simp [hplace])
    case answers =>
      have hall := hconds request shared.data data event signals hends
      exact answersBut_all hall state.sleepers
    case waiters => simp [Move, hsleepers]

theorem Matches.notified (h : Matches M shared state) {tid : ThreadId}
    {request : Request} {event : Event} {signals : Cond -> Signal}
    {cond : Cond} {left : List Cond}
    {more : List (Monitor.Sleeper ThreadId Cond)}
    (hplace : shared.places tid =
      Place.notify request event signals (cond :: left))
    (hmore : Monitor.Answers (Only signals cond) shared.waiters more) :
    Matches M
      (Wake (Move shared shared.lock_ tid
        (Place.notify request event signals left)) more) state := by
  have howns : (shared.places tid).Owns = true := by
    rw [hplace]
    rfl
  rcases h.notifying hplace with ⟨chosen, hnotifying⟩
  have hwaiting : Waiting
      (Function.update shared.places tid
        (Place.notify request event signals left)) shared.waiters :=
    waiting_update h.waiting (by simp [hplace]) (by simp)
  constructor
  case disciplined =>
    exact h.step_disciplined
      (Transition.notifies tid request event signals cond left more hplace
        hmore)
  case orderly => exact h.orderly
  case calls =>
    intro other
    show state.calls other = (Woken (more.map Monitor.Sleeper.tid)
      (Function.update shared.places tid
        (Place.notify request event signals left)) other).Request?
    rw [request_woken, h.calls other]
    by_cases hother : other = tid
    · subst hother
      rw [Function.update_self, hplace]
      rfl
    · rw [Function.update_of_ne hother]
  case waiting =>
    exact waiting_wake hwaiting (fun s hs => (hmore.2.1 s hs).1)
  case awake =>
    intro s hs asked cond hasleep
    have hbefore := (woken_eq_asleep.mp hasleep).1
    change Function.update shared.places tid _ s.tid = _ at hbefore
    by_cases hother : s.tid = tid
    · rw [hother, Function.update_self] at hbefore
      cases hbefore
    · rw [Function.update_of_ne hother] at hbefore
      exact h.awake s hs asked cond hbefore
  case decided =>
    intro other asked cond heither
    have hbefore : Function.update shared.places tid
          (Place.notify request event signals left) other =
            Place.wait asked cond ∨
        Function.update shared.places tid
          (Place.notify request event signals left) other =
            Place.sleep asked cond := by
      rcases heither with heither | heither
      · exact Or.inl (eq_of_woken_eq heither (by simp))
      · exact Or.inr (eq_of_woken_eq heither (by simp))
    by_cases hother : other = tid
    · rw [hother, Function.update_self] at hbefore
      rcases hbefore with hbefore | hbefore <;> cases hbefore
    · rw [Function.update_of_ne hother] at hbefore
      exact h.decided other asked cond hbefore
  case signalled =>
    refine Or.inr ⟨tid, request, event, signals, left, more ++ chosen, ?_⟩
    constructor
    case place =>
      show Woken _ (Function.update shared.places tid _) tid = _
      rw [woken_of_ne (by simp), Function.update_self]
    case ends => exact hnotifying.ends
    case up => exact hnotifying.up
    case answers =>
      rw [hnotifying.waiters] at hmore
      exact hnotifying.answers.next hmore
    case waiters =>
      show shared.waiters.filter (fun s => decide (s ∉ more)) = _
      rw [hnotifying.waiters, List.filter_filter]
      refine List.filter_congr (fun s _ => ?_)
      simp [not_or]

theorem matches_leaves (h : Matches M shared state) {tid : ThreadId}
    {request : Request} {event : Event} {signals : Cond -> Signal}
    (hplace : shared.places tid = Place.notify request event signals []) :
    exists chosen next,
      Monitor.Enter M state tid chosen = Except.ok (next, [event]) ∧
      Matches M (Move shared shared.lock_ tid (Place.unlock request)) next := by
  have howns : (shared.places tid).Owns = true := by
    rw [hplace]
    rfl
  rcases h.notifying hplace with ⟨chosen, hnotifying⟩
  have hcall : state.calls tid = some request := by
    rw [h.calls tid, hplace]
    rfl
  have hanswers := answers_of_answersBut hnotifying.answers
  refine ⟨chosen, _,
    Monitor.enter_ends hcall hnotifying.up hnotifying.ends hanswers, ?_⟩
  constructor
  case disciplined =>
    exact h.step_disciplined
      (Transition.leaves tid request event signals hplace)
  case orderly =>
    exact Monitor.orderly_step h.orderly
      (Monitor.Transition.ends tid request shared.data event signals chosen
        hcall hnotifying.up hnotifying.ends hanswers)
  case calls =>
    intro other
    show Function.update state.calls tid none other =
      (Function.update shared.places tid (Place.unlock request)
        other).Request?
    by_cases hother : other = tid
    · subst hother
      rw [Function.update_self, Function.update_self]
      rfl
    · rw [Function.update_of_ne hother, Function.update_of_ne hother]
      exact h.calls other
  case waiting =>
    exact waiting_update h.waiting (by simp [hplace]) (by simp)
  case awake =>
    intro s hs asked cond hasleep
    change Function.update shared.places tid (Place.unlock request)
      s.tid = _ at hasleep
    have hother : s.tid ≠ tid := by
      intro heq
      rw [heq, Function.update_self] at hasleep
      cases hasleep
    rw [Function.update_of_ne hother] at hasleep
    rcases List.mem_append.mp hs with hchosen | hwoken
    · -- One that has been chosen is not among the waiters any more.
      have hwaits := (h.waiting s.tid cond).mpr ⟨asked, hasleep⟩
      rw [hnotifying.waiters] at hwaits
      rcases List.mem_filter.mp hwaits with ⟨hsleeps, hfresh⟩
      have heq := Monitor.Orderly.eq_of_tid h.orderly hsleeps
        (hanswers.2.1 s hchosen).1 rfl
      rw [heq] at hfresh
      exact of_decide_eq_true hfresh hchosen
    · exact h.awake s (List.mem_filter.mp hwoken).1 asked cond hasleep
  case decided =>
    intro other asked cond heither
    change Function.update shared.places tid _ other = _ ∨
      Function.update shared.places tid _ other = _ at heither
    by_cases hother : other = tid
    · rw [hother, Function.update_self] at heither
      rcases heither with heither | heither <;> cases heither
    · rw [Function.update_of_ne hother] at heither
      exact h.decided other asked cond heither
  case signalled =>
    refine Or.inl ⟨rfl, hnotifying.waiters.symm, ?_⟩
    intro other asked event' signals' left' hnotify
    change Function.update shared.places tid _ other = _ at hnotify
    by_cases hother : other = tid
    · rw [hother, Function.update_self] at hnotify
      cases hnotify
    · rw [Function.update_of_ne hother] at hnotify
      have hfalse := h.disciplined.alone howns hother
      rw [hnotify] at hfalse
      cases hfalse

theorem matches_spurious (h : Matches M shared state)
    {sleeper : Monitor.Sleeper ThreadId Cond}
    (hmem : sleeper ∈ shared.waiters) :
    exists next, Monitor.Spurious state sleeper =
        Except.ok (next, ([] : List Event)) ∧
      Matches M (Wake shared [sleeper]) next := by
  have hsleeps : sleeper ∈ state.sleepers := by
    rcases h.signalled with ⟨_, hsleepers, _⟩ |
      ⟨tid, request, event, signals, left, chosen, hnotifying⟩
    · rw [hsleepers]
      exact hmem
    · rw [hnotifying.waiters] at hmem
      exact (List.mem_filter.mp hmem).1
  have herase : state.sleepers.erase sleeper =
      state.sleepers.filter (fun s => decide (s ∉ [sleeper])) := by
    rw [h.orderly.nodup.erase_eq_filter]
    refine List.filter_congr (fun s _ => ?_)
    simp [bne, beq_eq_decide]
  have hup : forall s, s ∈ [sleeper] -> s ∈ shared.waiters := by
    intro s hs
    rwa [List.mem_singleton.mp hs]
  refine ⟨_, if_pos hsleeps, ?_⟩
  constructor
  case disciplined =>
    exact h.step_disciplined
      (Transition.spurious sleeper hmem)
  case orderly =>
    exact h.step_orderly (Monitor.Transition.spurious sleeper hsleeps)
  case calls =>
    intro other
    show state.calls other = (Woken _ shared.places other).Request?
    rw [request_woken]
    exact h.calls other
  case waiting => exact waiting_wake h.waiting hup
  case awake =>
    intro s hs asked cond hasleep
    rcases woken_eq_asleep.mp hasleep with ⟨hbefore, hfresh⟩
    rcases List.mem_cons.mp hs with rfl | hwoken
    · exact hfresh (List.mem_singleton.mpr rfl)
    · exact h.awake s hwoken asked cond hbefore
  case decided =>
    intro other asked cond heither
    refine h.decided other asked cond ?_
    rcases heither with heither | heither
    · exact Or.inl (eq_of_woken_eq heither (by simp))
    · exact Or.inr (eq_of_woken_eq heither (by simp))
  case signalled =>
    rcases h.signalled with ⟨hdata, hsleepers, hnobody⟩ |
      ⟨tid, request, event, signals, left, chosen, hnotifying⟩
    · refine Or.inl ⟨hdata, ?_, ?_⟩
      · show state.sleepers.erase sleeper =
          shared.waiters.filter (fun s => decide (s ∉ [sleeper]))
        rw [herase, hsleepers]
      · intro other request event signals left hnotify
        exact hnobody other request event signals left
          (eq_of_woken_eq hnotify (by simp))
    · refine Or.inr ⟨tid, request, event, signals, left, chosen, ?_⟩
      have hother : sleeper ∉ chosen := by
        rw [hnotifying.waiters] at hmem
        exact of_decide_eq_true (List.mem_filter.mp hmem).2
      constructor
      case place =>
        have hplace := hnotifying.place
        show Woken _ shared.places tid = _
        rw [woken_of_ne (by simp [hplace]), hplace]
      case ends => exact hnotifying.ends
      case up =>
        intro hstill
        rcases List.mem_map.mp hstill with ⟨s, hs, htid⟩
        exact hnotifying.up
          (List.mem_map.mpr ⟨s, List.mem_of_mem_erase hs, htid⟩)
      case answers => exact hnotifying.answers.erase hother
      case waiters =>
        show shared.waiters.filter (fun s => decide (s ∉ [sleeper])) =
          (state.sleepers.erase sleeper).filter _
        rw [herase, hnotifying.waiters, List.filter_filter,
          List.filter_filter]
        refine List.filter_congr (fun s _ => ?_)
        exact Bool.and_comm _ _

/-!
# Runs
-/

theorem step_abstracts (hconds : Complete M conds)
    {i : Input ThreadId Request Cond} (h : Matches M shared state)
    (hstep : (SharedMachine M conds ThreadId).Step shared i =
      some (next, es)) :
    exists inputs last,
      (Monitor.MonitorMachine M ThreadId).Run state inputs =
        some (last, es) ∧ Matches M next last := by
  have hsingle : forall (input : Monitor.Input ThreadId Request Cond)
      {last es},
      Monitor.Perform M state input = Except.ok (last, es) ->
      (Monitor.MonitorMachine M ThreadId).Run state [input] =
        some (last, es) :=
    fun _ _ _ hcall => Machine.run_singleton (answer_eq_some.mpr hcall)
  cases perform_transition i _ _ (answer_eq_some.mp hstep) with
  | call tid request hplace =>
      rcases matches_call h hplace with ⟨last, hcall, hlast⟩
      exact ⟨_, last, hsingle (Monitor.Input.call tid request) hcall,
        hlast⟩
  | goes tid lock_ place hgoes =>
      exact ⟨[], state, rfl, matches_goes h hgoes⟩
  | sleeps tid request cond hplace hmutex =>
      rcases matches_sleeps h hplace hmutex with ⟨last, hcall, hlast⟩
      exact ⟨_, last, hsingle (Monitor.Input.enter tid []) hcall,
        hlast⟩
  | ends tid request data event signals hplace hends =>
      exact ⟨[], state, rfl, matches_ends hconds h hplace hends⟩
  | notifies tid request event signals cond left chosen hplace hanswers =>
      exact ⟨[], state, rfl, h.notified hplace hanswers⟩
  | leaves tid request event signals hplace =>
      rcases matches_leaves h hplace with ⟨chosen, last, hcall, hlast⟩
      exact ⟨_, last,
        hsingle (Monitor.Input.enter tid chosen) hcall, hlast⟩
  | spurious sleeper hmem =>
      rcases matches_spurious h hmem with ⟨last, hcall, hlast⟩
      exact ⟨_, last,
        hsingle (Monitor.Input.spurious sleeper) hcall, hlast⟩

theorem run_matches (hconds : Complete M conds)
    {inputs : List (Input ThreadId Request Cond)} {data : Data}
    {tr : List Event}
    (hrun : (SharedMachine M conds ThreadId).Run
      (Init ThreadId Request Cond Event data) inputs = some (shared, tr)) :
    exists others state,
      (Monitor.MonitorMachine M ThreadId).Run
        (Monitor.Init ThreadId Request Cond data) others =
          some (state, tr) ∧ Matches M shared state :=
  Machine.run_abstracts (fun _ _ _ _ _ h => step_abstracts hconds h)
    (matches_init data) hrun

/-- When all threads in the object are asleep, the monitor is blocked. -/
theorem Matches.blocked (h : Matches M shared state)
    (hasleep : forall tid, (shared.places tid).Inside? ≠ none ->
      exists request cond, shared.places tid = Place.asleep request cond) :
    state.data = shared.data ∧ state.sleepers = shared.waiters ∧
      forall tid, state.calls tid ≠ none -> Monitor.Blocked state tid := by
  rcases h.signalled with ⟨hdata, hsleepers, _⟩ |
    ⟨tid, request, event, signals, left, chosen, hnotifying⟩
  · refine ⟨hdata, hsleepers, fun tid hcall => ?_⟩
    rw [h.calls tid] at hcall
    have hinside : (shared.places tid).Inside? ≠ none := by
      intro hnone
      refine hcall ?_
      generalize shared.places tid = place at hnone
      cases place <;> first | exact hnone | rfl
    rcases hasleep tid hinside with ⟨request, cond, hplace⟩
    constructor
    · rw [hsleepers]
      exact List.mem_map.mpr
        ⟨_, (h.waiting tid cond).mpr ⟨request, hplace⟩, rfl⟩
    · intro hwoken
      rcases List.mem_map.mp hwoken with ⟨s, hs, rfl⟩
      exact h.awake s hs request cond hplace
  · rcases hasleep tid (by simp [hnotifying.place, Place.Inside?,
      Place.Request?]) with ⟨asked, cond, hplace⟩
    rw [hnotifying.place] at hplace
    cases hplace

/--
The member functions are atomic: what a run does is what critical sections do
one after the other, in the order in which they end.
-/
theorem sections_atomic (hconds : Complete M conds)
    {inputs : List (Input ThreadId Request Cond)} {data : Data}
    {tr : List Event}
    (hrun : (SharedMachine M conds ThreadId).Run
      (Init ThreadId Request Cond Event data) inputs = some (shared, tr)) :
    exists others state,
      (Monitor.MonitorMachine M ThreadId).Run
        (Monitor.Init ThreadId Request Cond data) others =
          some (state, tr) ∧
      (forall tid, state.calls tid = (shared.places tid).Request?) ∧
      ((forall tid request event signals left,
          shared.places tid ≠ Place.notify request event signals left) ->
        state.data = shared.data ∧ state.sleepers = shared.waiters) ∧
      forall tid request event signals left,
        shared.places tid = Place.notify request event signals left ->
        M.Section request state.data =
          Verdict.ends shared.data event signals := by
  rcases run_matches hconds hrun with ⟨others, state, hother, hmatches⟩
  refine ⟨others, state, hother, hmatches.calls, ?_, ?_⟩
  · intro hnobody
    rcases hmatches.signalled with ⟨hdata, hsleepers, _⟩ |
      ⟨tid, request, event, signals, left, chosen, hnotifying⟩
    · exact ⟨hdata, hsleepers⟩
    · exact absurd hnotifying.place
        (hnobody tid request event signals left)
  · intro tid request event signals left hplace
    rcases hmatches.notifying hplace with ⟨chosen, hnotifying⟩
    exact hnotifying.ends

end Steps

/-- The run of `locked_exactly_of_latch` to the end of both calls. -/
theorem sections_atomic_of_latch :
    exists shared others state,
      (SharedMachine CountDownLatch.LatchMonitor CountDownLatch.Conds Nat).Run
        (Init Nat CountDownLatch.Request CountDownLatch.Cond
          CountDownLatch.Event (1 : Int))
        [Input.call 0 CountDownLatch.Request.wait, Input.next 0, Input.next 0,
          Input.next 0, Input.next 0, Input.next 0,
          Input.call 1 CountDownLatch.Request.countDown, Input.next 1,
          Input.next 1, Input.next 1,
          Input.notify 1 [⟨0, CountDownLatch.Cond.cond_⟩], Input.next 1,
          Input.next 1, Input.next 1, Input.next 0, Input.next 0,
          Input.next 0, Input.notify 0 [], Input.next 0] =
          some (shared, [CountDownLatch.Event.countedDown,
            CountDownLatch.Event.waited]) ∧
      (Monitor.MonitorMachine CountDownLatch.LatchMonitor Nat).Run
        (Monitor.Init Nat CountDownLatch.Request CountDownLatch.Cond
          (1 : Int)) others =
          some (state, [CountDownLatch.Event.countedDown,
            CountDownLatch.Event.waited]) := by
  have heval : ((SharedMachine CountDownLatch.LatchMonitor
      CountDownLatch.Conds Nat).Run
      (Init Nat CountDownLatch.Request CountDownLatch.Cond
        CountDownLatch.Event (1 : Int))
      [Input.call 0 CountDownLatch.Request.wait, Input.next 0, Input.next 0,
        Input.next 0, Input.next 0, Input.next 0,
        Input.call 1 CountDownLatch.Request.countDown, Input.next 1,
        Input.next 1, Input.next 1,
        Input.notify 1 [⟨0, CountDownLatch.Cond.cond_⟩], Input.next 1,
        Input.next 1, Input.next 1, Input.next 0, Input.next 0,
        Input.next 0, Input.notify 0 [], Input.next 0]).map
      (fun last => (last.1.data, last.2)) =
      some ((0 : Int), [CountDownLatch.Event.countedDown,
        CountDownLatch.Event.waited]) := by
    decide +kernel
  rcases (SharedMachine CountDownLatch.LatchMonitor
    CountDownLatch.Conds Nat).exists_run (fun shared => shared.data) heval
    with ⟨shared, hrun, _⟩
  rcases sections_atomic (fun _ _ _ _ _ _ cond _ =>
    CountDownLatch.mem_conds cond) hrun with
    ⟨others, state, hother, _⟩
  exact ⟨shared, others, state, hrun, hother⟩

end Condition
end Thread
end Wethands
