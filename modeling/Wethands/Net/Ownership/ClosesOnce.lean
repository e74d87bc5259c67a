import Wethands.Net.Ownership.Dispatch
import Wethands.Net.TcpConnection.Core

/-!
# One event, one close

`HandleEvent` makes its tests on one mask, one after the other, and the
callbacks between them may close the connection.  Neither the test for
`EPOLLHUP` nor `ForceClose` asks whether it is closed already.
-/

namespace Wethands
namespace Net

open Foundation Reactor

namespace Ownership

open TcpConnection (World Functor Frame Caller Callback CloseCallback States
  ReadResult WriteResult Api RemoteApi View Refines MayForceClose)

variable {ThreadId : Type} {owned next : Owned ThreadId}

/-!
# Where `HandleClose` is entered
-/

def Runs (owned : Owned ThreadId) (revents : BitVec 32) (branch : Branch) :
    Prop :=
  owned.world.stack = [] ∧ 0 < References owned ∧
    revents &&& branch.Mask ≠ 0

instance (owned : Owned ThreadId) (revents : BitVec 32) (branch : Branch) :
    Decidable (Runs owned revents branch) :=
  inferInstanceAs (Decidable (_ ∧ _ ∧ _))

/-- The branch that a step of `HandleEvent` takes, with what a read gets. -/
def Taken? (owned : Owned ThreadId) :
    Input ThreadId -> Option (Branch × ReadResult)
  | Input.handleEvent read _ =>
      match owned.dispatch with
      | Dispatch.ahead revents =>
          if Runs owned revents Branch.read then some (Branch.read, read)
          else none
      | _ => none
  | Input.resume read _ =>
      match owned.dispatch with
      | Dispatch.handling revents (branch :: _) =>
          if Runs owned revents branch then some (branch, read) else none
      | _ => none
  | _ => none

/-- User code calls `ForceClose`, and its condition lets it through. -/
def Forces (owned : Owned ThreadId) : Input ThreadId -> Prop
  | Input.api Api.forceClose => Reachable owned ∧ MayForceClose owned.world
  | _ => False

instance (owned : Owned ThreadId) (i : Input ThreadId) :
    Decidable (Forces owned i) := by
  unfold Forces
  split <;> infer_instance

/--
The state in which a step enters `HandleClose`.  `ForceClose` has stored
`kDisconnecting` before; no functor runs during `HandleEvent`.
-/
def Entry (owned : Owned ThreadId) (i : Input ThreadId) : Option States :=
  if Forces owned i then some States.kDisconnecting
  else
    match Taken? owned i with
    | some (Branch.read, ReadResult.received []) =>
        some owned.world.conn.state_
    | some (Branch.close, _) => some owned.world.conn.state_
    | _ => none

/-- What `HandleClose` asserts. -/
def Closable (state_ : States) : Prop :=
  state_ = States.kConnected ∨ state_ = States.kDisconnecting

instance (state_ : States) : Decidable (Closable state_) :=
  inferInstanceAs (Decidable (_ ∨ _))

/-!
# One dispatch
-/

/-- The step belongs to the running `HandleEvent`. -/
def InHandleEvent (past : Owned ThreadId × List Event) :
    Input ThreadId -> Prop
  | Input.handleEvent _ _ => True
  | _ => past.1.dispatch.Handling = true

instance (past : Owned ThreadId × List Event) (i : Input ThreadId) :
    Decidable (InHandleEvent past i) := by
  unfold InHandleEvent
  split <;> infer_instance

def HasClosed (past : Owned ThreadId × List Event) : Prop :=
  Event.conn TcpConnection.Event.handleClose ∈ past.2

instance (past : Owned ThreadId × List Event) : Decidable (HasClosed past) :=
  inferInstanceAs (Decidable (_ ∈ _))

/-- `HandleClose` is entered for the first time, and its assertion holds. -/
def EntersOnce (past : Owned ThreadId × List Event) (i : Input ThreadId) :
    Prop :=
  forall state_, state_ ∈ Entry past.1 i ->
    ¬HasClosed past ∧ Closable state_

instance (past : Owned ThreadId × List Event) (i : Input ThreadId) :
    Decidable (EntersOnce past i) :=
  inferInstanceAs (Decidable (forall state_, state_ ∈ Entry past.1 i -> _))

/-- After the close there is an `EPOLLHUP` to handle, or a `ForceClose`. -/
def ClosesAgain (past : Owned ThreadId × List Event) (i : Input ThreadId) :
    Prop :=
  HasClosed past ∧
    (Forces past.1 i ∨ (Taken? past.1 i).map Prod.fst = some Branch.close)

instance (past : Owned ThreadId × List Event) (i : Input ThreadId) :
    Decidable (ClosesAgain past i) :=
  inferInstanceAs (Decidable (_ ∧ (_ ∨ _)))

/-!
# The ways into `HandleClose`
-/

theorem mayForceClose (world : World ThreadId) : MayForceClose world :=
  Or.inr (by decide)

theorem taken_handleEvent {revents : BitVec 32} {read : ReadResult}
    {write : WriteResult} (hdispatch : owned.dispatch = Dispatch.ahead revents)
    (hruns : Runs owned revents Branch.read) :
    Taken? owned (Input.handleEvent read write) = some (Branch.read, read) := by
  simp only [Taken?, hdispatch, if_pos hruns]

theorem taken_resume {revents : BitVec 32} {branch : Branch}
    {left : List Branch} {read : ReadResult} {write : WriteResult}
    (hdispatch : owned.dispatch = Dispatch.handling revents (branch :: left))
    (hruns : Runs owned revents branch) :
    Taken? owned (Input.resume read write) = some (branch, read) := by
  simp only [Taken?, hdispatch, if_pos hruns]

theorem unclosing_of_entry {i : Input ThreadId} {branch : Branch}
    {read : ReadResult} (hentry : Entry owned i = none)
    (htaken : Taken? owned i = some (branch, read)) :
    (branch = Branch.read -> read ≠ ReadResult.received []) ∧
      branch ≠ Branch.close := by
  unfold Entry at hentry
  rw [htaken] at hentry
  constructor
  · rintro rfl rfl
    split at hentry <;> cases hentry
  · rintro rfl
    split at hentry <;> cases hentry

theorem taken_cases {i : Input ThreadId} {branch : Branch} {read : ReadResult}
    (h : Taken? owned i = some (branch, read)) :
    (exists revents write, i = Input.handleEvent read write ∧
      owned.dispatch = Dispatch.ahead revents ∧ branch = Branch.read ∧
      Runs owned revents branch) ∨
    exists revents left write, i = Input.resume read write ∧
      owned.dispatch = Dispatch.handling revents (branch :: left) ∧
      Runs owned revents branch := by
  unfold Taken? at h
  split at h
  · rename_i read' write
    split at h
    · rename_i revents hdispatch
      split at h
      · cases h
        exact Or.inl ⟨revents, write, rfl, hdispatch, rfl, ‹_›⟩
      · cases h
    · cases h
  · rename_i read' write
    split at h
    · rename_i revents first left hdispatch
      split at h
      · cases h
        exact Or.inr ⟨revents, left, write, rfl, hdispatch, ‹_›⟩
      · cases h
    · cases h
  · cases h

theorem entry_cases {i : Input ThreadId} {state_ : States}
    (h : Entry owned i = some state_) :
    Forces owned i ∧ state_ = States.kDisconnecting ∨
    state_ = owned.world.conn.state_ ∧
      (Taken? owned i = some (Branch.read, ReadResult.received []) ∨
        exists read, Taken? owned i = some (Branch.close, read)) := by
  unfold Entry at h
  split at h
  · cases h
    exact Or.inl ⟨‹_›, rfl⟩
  · split at h
    · cases h
      exact Or.inr ⟨rfl, Or.inl ‹_›⟩
    · rename_i read htaken
      cases h
      exact Or.inr ⟨rfl, Or.inr ⟨read, htaken⟩⟩
    · cases h

/-!
# Steps that close, and steps that do not
-/

theorem closed_ofConnection {es : List Event} :
    Event.conn TcpConnection.Event.handleClose ∈ es <->
      TcpConnection.Event.handleClose ∈
        es.filterMap Event.OfConnection := by
  rw [List.mem_filterMap]
  constructor
  · intro hmem
    exact ⟨_, hmem, rfl⟩
  · intro hexists
    rcases hexists with ⟨e, hmem, hsome⟩
    cases e with
    | conn event =>
        cases hsome
        exact hmem
    | executed functor => cases hsome
    | resumed => cases hsome
    | destroyed => cases hsome

theorem forceClose_closes {world : World ThreadId}
    (hmay : MayForceClose world) :
    Yields (TcpConnection.ForceClose world)
      (fun _ es => TcpConnection.Event.handleClose ∈ es) := by
  unfold TcpConnection.ForceClose
  rw [if_pos hmay]
  refine Yields.in_turn (yields_ok.mpr ?_)
  unfold TcpConnection.ForceCloseInLoop
  rw [if_pos (Or.inr rfl)]
  refine (TcpConnection.handleClose_closes _).mono (fun next es hclosed => ?_)
  simp [hclosed]

theorem handleRead_closes (world : World ThreadId) :
    Yields (TcpConnection.HandleRead world (ReadResult.received []))
      (fun _ es => TcpConnection.Event.handleClose ∈ es) := by
  unfold TcpConnection.HandleRead
  dsimp only
  split
  · exact yields_error
  · rw [if_pos rfl]
    exact TcpConnection.handleClose_closes _

theorem handleRead_open (world : World ThreadId) {result : ReadResult}
    (hresult : result ≠ ReadResult.received []) :
    Yields (TcpConnection.HandleRead world result)
      (fun _ es => ¬Closes es) := by
  unfold TcpConnection.HandleRead
  split
  · exact yields_ok.mpr (by simp [Closes])
  · rename_i bytes
    split
    · exact yields_error
    · have hbytes : bytes ≠ [] := by
        rintro rfl
        exact hresult rfl
      dsimp only
      rw [if_neg hbytes]
      split
      · exact yields_ok.mpr (by simp [Closes])
      · exact yields_ok.mpr (by simp [Closes])

structure StaysOpen (world next : World ThreadId)
    (es : List TcpConnection.Event) : Prop where
  open_ : TcpConnection.Event.handleClose ∉ es
  state : Closable world.conn.state_ -> Closable next.conn.state_

theorem staysOpen_refl (world : World ThreadId) : StaysOpen world world [] :=
  ⟨by simp, fun h => h⟩

section Threads

variable [DecidableEq ThreadId]

theorem staysOpen_of_path {world next : World ThreadId}
    {es : List TcpConnection.Event}
    (hpath : Path (TcpConnection.Core.Step true) (View world) (View next) es)
    (hopen : ¬Closes es) : StaysOpen world next es := by
  have hlast := Path.invariant
    (I := fun core tr => TcpConnection.Event.handleClose ∉ tr ∧
      (Closable world.conn.state_ -> Closable core.state_))
    (A := fun e => e ≠ TcpConnection.Event.called Callback.close) (p := [])
    ?_ ⟨by simp, fun h => h⟩ (by rintro e he rfl; exact hopen he) hpath
  · exact ⟨hlast.1, hlast.2⟩
  · rintro core tr last es ⟨hnot, hstate⟩ hallowed hstep
    rw [List.mem_append, not_or]
    cases hstep with
    | closed => exact absurd rfl (hallowed _ (by simp))
    | closedHere => exact absurd rfl (hallowed _ (by simp))
    | established => exact ⟨⟨hnot, by simp⟩, fun _ => Or.inl rfl⟩
    | shutdown => exact ⟨⟨hnot, by simp⟩, fun _ => Or.inr rfl⟩
    | shutdownStored => exact ⟨⟨hnot, by simp⟩, fun _ => Or.inr rfl⟩
    | forceClose => exact ⟨⟨hnot, by simp⟩, fun _ => Or.inr rfl⟩
    | tookShutdown =>
        refine ⟨⟨hnot, ?_⟩, hstate⟩
        unfold TcpConnection.Core.ShutdownEvents
        split <;> simp
    | _ => exact ⟨⟨hnot, by simp⟩, hstate⟩

theorem staysOpen_of_call {world : World ThreadId}
    {call : Call (World ThreadId) TcpConnection.Event}
    (hrefines : Refines true world call)
    (hopen : Yields call (fun _ es => ¬Closes es)) :
    Yields call (StaysOpen world) :=
  fun next es hcall =>
    staysOpen_of_path (hrefines next es hcall) (hopen next es hcall)

theorem remoteCall_open (world : World ThreadId) (tid : ThreadId)
    (api : RemoteApi) :
    Yields (TcpConnection.RemoteCall world tid api)
      (fun _ es => ¬Closes es) := by
  unfold TcpConnection.RemoteCall
  split
  · split <;> exact yields_ok.mpr (by simp [Closes])
  · split <;> exact yields_ok.mpr (by simp [Closes])
  · split <;> exact yields_ok.mpr (by simp [Closes])
  · exact yields_ok.mpr (by simp [Closes])
  · exact yields_ok.mpr (by simp [Closes])

theorem remoteNext_open (world : World ThreadId) (tid : ThreadId) :
    Yields (TcpConnection.RemoteNext world tid)
      (fun _ es => ¬Closes es) := by
  unfold TcpConnection.RemoteNext
  split
  · exact yields_error
  all_goals exact yields_ok.mpr (by simp [Closes])

omit [DecidableEq ThreadId] in
theorem open_of_quiet {mid : World ThreadId}
    {call : Call (World ThreadId) TcpConnection.Event}
    (h : Yields call (Quiet False mid)) :
    Yields call (fun _ es => ¬Closes es) :=
  h.mono (fun _ _ hquiet hcloses => hquiet.closes hcloses)

theorem runBranch_staysOpen {world : World ThreadId} {read : ReadResult}
    {write : WriteResult} {branch : Branch}
    (hread : branch = Branch.read -> read ≠ ReadResult.received [])
    (hclose : branch ≠ Branch.close) :
    Yields (RunBranch world read write branch) (StaysOpen world) := by
  cases branch with
  | read =>
      exact staysOpen_of_call (TcpConnection.refines_handleRead world read)
        (handleRead_open world (hread rfl))
  | write =>
      exact staysOpen_of_call (TcpConnection.refines_handleWrite world write)
        (open_of_quiet (handleWrite_quiet world write))
  | error => exact yields_ok.mpr (staysOpen_refl world)
  | close => exact absurd rfl hclose

theorem makes_staysOpen {i : Input ThreadId}
    {call : Call (World ThreadId) TcpConnection.Event}
    (hdrain : owned.drain = none)
    (hevent : forall read write, i ≠ Input.handleEvent read write)
    (hresume : forall read write, i ≠ Input.resume read write)
    (hforce : i ≠ Input.api Api.forceClose) (hmakes : Makes owned i call) :
    Yields call (StaysOpen owned.world) := by
  cases hmakes with
  | api api =>
      have hother : api ≠ Api.forceClose := by
        rintro rfl
        exact hforce rfl
      apply staysOpen_of_call (TcpConnection.refines_callApi (Or.inl rfl))
      exact (callApi_effect owned.world api).mono
        (fun _ _ heffect hcloses => hother (heffect.closes hcloses))
  | returns hstack =>
      exact staysOpen_of_call (TcpConnection.refines_return owned.world)
        (open_of_quiet (return_quiet hstack))
  | handleEvent read write branch => exact absurd rfl (hevent read write)
  | resume read write branch => exact absurd rfl (hresume read write)
  | runFunctor result hsome hfunctors =>
      rw [hdrain] at hsome
      cases hsome
  | removeConnectionInLoop =>
      apply staysOpen_of_call
        (TcpConnection.refines_removeConnectionInLoop owned.world)
      unfold TcpConnection.RemoveConnectionInLoop
      split
      · exact yields_error
      · exact yields_ok.mpr (by simp [Closes])
  | remoteCall tid api =>
      exact staysOpen_of_call
        (TcpConnection.refines_remoteCall owned.world tid api)
        (remoteCall_open owned.world tid api)
  | remoteNext tid =>
      exact staysOpen_of_call (TcpConnection.refines_remoteNext (Or.inl rfl))
        (remoteNext_open owned.world tid)

/-!
# One step
-/

theorem act_staysOpen {i : Input ThreadId} (hdrain : owned.drain = none)
    (hentry : Entry owned i = none) :
    Yields (Act owned i) (fun next es =>
      StaysOpen owned.world next.world (es.filterMap Event.OfConnection)) := by
  have hrefl := staysOpen_refl owned.world
  cases i with
  | handleEvent read write =>
      refine yields_when (fun hstack => yields_handleEvent ?_)
      intro revents hdispatch halive
      refine test_cases (fun _ => hrefl) (fun hmask => ?_)
      rcases unclosing_of_entry hentry
        (taken_handleEvent hdispatch ⟨hstack, halive, hmask⟩) with
        ⟨hread, hclose⟩
      exact runBranch_staysOpen hread hclose
  | resume read write =>
      refine yields_when (fun hstack => yields_resume ?_ ?_)
      · exact fun _ _ _ => hrefl
      · intro revents branch left halive hdispatch
        refine test_cases (fun _ => hrefl) (fun hmask => ?_)
        rcases unclosing_of_entry hentry
          (taken_resume hdispatch ⟨hstack, halive, hmask⟩) with
          ⟨hread, hclose⟩
        exact runBranch_staysOpen hread hclose
  | api api =>
      by_cases hforce : api = Api.forceClose
      · subst hforce
        apply yields_when
        intro hreachable
        have hforces : Forces owned (Input.api Api.forceClose) :=
          ⟨hreachable, mayForceClose owned.world⟩
        rw [Entry, if_pos hforces] at hentry
        cases hentry
      · exact act_world hrefl (fun _ hmakes =>
          makes_staysOpen hdrain (by simp) (by simp) (by simp [hforce])
            hmakes)
  | _ =>
      exact act_world hrefl (fun _ hmakes =>
        makes_staysOpen hdrain (by simp) (by simp) (by simp) hmakes)

theorem act_taken {P : World ThreadId -> List TcpConnection.Event -> Prop}
    {i : Input ThreadId} {branch : Branch} {read : ReadResult}
    (htaken : Taken? owned i = some (branch, read))
    (hcall : forall write,
      Yields (RunBranch owned.world read write branch) P) :
    Yields (Act owned i) (fun next es =>
      P next.world (es.filterMap Event.OfConnection)) := by
  rcases taken_cases htaken with
    ⟨revents, write, rfl, hdispatch, rfl, _, _, hmask⟩ |
    ⟨revents, left, write, rfl, hdispatch, _, _, hmask⟩
  · refine yields_when (fun _ => yields_handleEvent ?_)
    intro revents' hsame _
    rw [hdispatch] at hsame
    cases hsame
    exact test_cases (fun hzero => absurd hzero hmask) (fun _ => hcall write)
  · refine yields_when (fun _ => yields_resume ?_ ?_)
    · intro revents' _ hsame
      rw [hdispatch] at hsame
      cases hsame
    · intro revents' branch' left' _ hsame
      rw [hdispatch] at hsame
      cases hsame
      exact test_cases (fun hzero => absurd hzero hmask) (fun _ => hcall write)

theorem act_closes {i : Input ThreadId} {state_ : States}
    (hentry : Entry owned i = some state_) :
    Yields (Act owned i) (fun _ es =>
      Event.conn TcpConnection.Event.handleClose ∈ es) := by
  simp only [closed_ofConnection]
  rcases entry_cases hentry with ⟨hforces, _⟩ | ⟨_, hread | ⟨read, hclose⟩⟩
  · unfold Forces at hforces
    split at hforces
    · exact yields_when (fun _ =>
        within_world (forceClose_closes hforces.2))
    · cases hforces
  · exact act_taken hread (fun _ => handleRead_closes owned.world)
  · exact act_taken hclose
      (fun _ => TcpConnection.handleClose_closes owned.world)

theorem perform_of_connection
    {P : World ThreadId -> List TcpConnection.Event -> Prop}
    {i : Input ThreadId}
    (h : Yields (Act owned i) (fun next es =>
      P next.world (es.filterMap Event.OfConnection))) :
    Yields (Perform owned i) (fun next es =>
      P next.world (es.filterMap Event.OfConnection)) := by
  refine yields_settle (h.mono (fun next es hnext => ?_))
  split
  · intro _
    have hnone : [Event.destroyed].filterMap Event.OfConnection = [] := rfl
    rw [List.filterMap_append, hnone, List.append_nil]
    exact hnext
  · exact hnext

/-!
# The course of a dispatch
-/

def ReadBehind (owned : Owned ThreadId) : Prop :=
  forall revents left, owned.dispatch = Dispatch.handling revents left ->
    Branch.read ∉ left

theorem act_readBehind (h : ReadBehind owned) (i : Input ThreadId) :
    Yields (Act owned i) (fun next _ => ReadBehind next) := by
  have hkeeps : forall next : Owned ThreadId,
      next.dispatch = owned.dispatch -> ReadBehind next := by
    intro next hsame revents left hdispatch
    exact h revents left (hsame ▸ hdispatch)
  have hmoved := act_dispatch owned i
  cases i with
  | handleEvent read write =>
      refine yields_when (fun _ => yields_handleEvent ?_)
      intro revents _ _
      refine (test_dispatch revents _ _ read write).mono ?_
      intro next es hnext revents' left hdispatch
      rw [hnext] at hdispatch
      cases hdispatch
      decide
  | resume read write =>
      refine yields_when (fun _ => yields_resume ?_ ?_)
      · intro revents _ _ revents' left hdispatch
        cases hdispatch
      · intro revents branch left _ hbefore
        refine (test_dispatch revents branch left read write).mono ?_
        intro next es hnext revents' left' hdispatch
        rw [hnext] at hdispatch
        cases hdispatch
        exact fun hmem => h revents _ hbefore (List.mem_cons_of_mem _ hmem)
  | poll revents =>
      refine hmoved.mono (fun next es hnext revents' left hdispatch => ?_)
      rw [hnext.2.1] at hdispatch
      cases hdispatch
  | _ => exact hmoved.mono (fun next es hsame => hkeeps next hsame)

structure Ongoing (past : Owned ThreadId × List Event) : Prop where
  sound : exists tr, Sound past.1 tr
  readBehind : ReadBehind past.1
  fresh : forall revents, past.1.dispatch = Dispatch.ahead revents ->
    ¬HasClosed past
  closable : ¬HasClosed past -> Closable past.1.world.conn.state_

theorem Dispatch.Handling.busy {dispatch : Dispatch}
    (h : dispatch.Handling = true) :
    dispatch ≠ Dispatch.idle ∧
      forall revents, dispatch ≠ Dispatch.ahead revents := by
  cases dispatch with
  | idle => cases h
  | ahead revents => cases h
  | handling revents left => simp

theorem act_takesUp {past : Owned ThreadId × List Event}
    {i : Input ThreadId} (h : InHandleEvent past i) :
    Yields (Act past.1 i) (fun next _ =>
      past.1.dispatch ≠ Dispatch.idle ∧
        forall revents, next.dispatch ≠ Dispatch.ahead revents) := by
  refine (act_dispatch past.1 i).mono (fun next es hmoved => ?_)
  cases i with
  | handleEvent read write =>
      rcases hmoved.2 with ⟨revents, hbefore, hhandling⟩
      exact ⟨by simp [hbefore], (Dispatch.Handling.busy hhandling).2⟩
  | resume read write =>
      exact ⟨(Dispatch.Handling.busy h).1, hmoved.2⟩
  | poll revents =>
      exact absurd hmoved.1 (Dispatch.Handling.busy h).1
  | _ =>
      have hbusy := Dispatch.Handling.busy h
      rw [show next.dispatch = past.1.dispatch from hmoved]
      exact hbusy

theorem Ongoing.step {past later : Owned ThreadId × List Event}
    {i : Input ThreadId} {es : List Event} (h : Ongoing past)
    (hbelongs : InHandleEvent past i)
    (hstep : (OwnedMachine ThreadId).Recorded.Step past i =
      some (later, es)) : Ongoing later := by
  rcases past with ⟨owned, tr⟩
  rcases later with ⟨next, tr'⟩
  rcases Machine.recorded_step.mp hstep with ⟨hone, rfl⟩
  have hperform := answer_eq_some.mp hone
  rcases h.sound with ⟨before, hsound⟩
  have htaken := perform_of_act (act_takesUp hbelongs) next es hperform
  constructor
  · exact ⟨_, perform_sound hsound i next es hperform⟩
  · exact perform_of_act (act_readBehind h.readBehind i) next es hperform
  · intro revents hahead
    exact absurd hahead (htaken.2 revents)
  · intro hnot
    have hbefore : ¬HasClosed (owned, tr) := fun hclosed =>
      hnot (List.mem_append.mpr (Or.inl hclosed))
    have hentry : Entry owned i = none := by
      by_contra hsome
      rcases Option.ne_none_iff_exists'.mp hsome with ⟨state_, hentry⟩
      have hcloses := act_closes hentry
      simp only [closed_ofConnection] at hcloses
      have hmem := perform_of_connection (P := fun _ es =>
        TcpConnection.Event.handleClose ∈ es) hcloses next es hperform
      exact hnot (List.mem_append.mpr
        (Or.inr (closed_ofConnection.mpr hmem)))
    have hdrain : owned.drain = none := hsound.exclusive htaken.1
    have hstays := perform_of_connection (P := StaysOpen owned.world)
      (act_staysOpen hdrain hentry) next es hperform
    exact hstays.state (h.closable hbefore)

omit [DecidableEq ThreadId] in
theorem entersOnce_iff {past : Owned ThreadId × List Event}
    {i : Input ThreadId} (h : Ongoing past) :
    EntersOnce past i <-> ¬ClosesAgain past i := by
  constructor
  · intro honce hboth
    rcases hboth with ⟨hclosed, hagain⟩
    have hentry : exists state_, state_ ∈ Entry past.1 i := by
      unfold Entry
      split
      · exact ⟨_, rfl⟩
      · rcases hagain with hforces | hclose
        · exact absurd hforces ‹_›
        · rcases Option.map_eq_some_iff.mp hclose with
            ⟨⟨branch, read⟩, htaken, hbranch⟩
          cases hbranch
          rw [htaken]
          exact ⟨_, rfl⟩
    rcases hentry with ⟨state_, hmem⟩
    exact (honce state_ hmem).1 hclosed
  · intro hnot state_ hmem
    rcases entry_cases hmem with
      ⟨hforces, rfl⟩ | ⟨rfl, hread | ⟨read, hclose⟩⟩
    · exact ⟨fun hclosed => hnot ⟨hclosed, Or.inl hforces⟩, Or.inr rfl⟩
    · have hfresh : ¬HasClosed past := by
        rcases taken_cases hread with
          ⟨revents, _, _, hdispatch, _, _⟩ |
          ⟨revents, left, _, _, hdispatch, _⟩
        · exact h.fresh revents hdispatch
        · exact absurd List.mem_cons_self (h.readBehind revents _ hdispatch)
      exact ⟨hfresh, h.closable hfresh⟩
    · have hfresh : ¬HasClosed past := fun hclosed =>
        hnot ⟨hclosed, Or.inr (by rw [hclose]; rfl)⟩
      exact ⟨hfresh, h.closable hfresh⟩

theorem run_sound {closeCallback : CloseCallback}
    {inputs : List (Input ThreadId)} {tr : List Event}
    (hrun : (OwnedMachine ThreadId).Run (Init ThreadId closeCallback) inputs =
      some (owned, tr)) : Sound owned tr := by
  have hlast := Machine.run_invariant (I := Sound) (p := [])
    (fun s tr i t es hsound hstep =>
      perform_sound hsound i t es (answer_eq_some.mp hstep))
    (sound_init closeCallback) hrun
  rwa [List.nil_append] at hlast

/--
The dispatch of an event to an open connection enters `HandleClose` at most
once, and where its assertion holds, exactly when no `EPOLLHUP` is handled and
no `ForceClose` is called after the connection has been closed.
-/
theorem closes_once_iff {closeCallback : CloseCallback}
    {before inputs : List (Input ThreadId)} {tr : List Event}
    (hrun : (OwnedMachine ThreadId).Run (Init ThreadId closeCallback) before =
      some (owned, tr))
    {revents : BitVec 32} (hahead : owned.dispatch = Dispatch.ahead revents)
    (hopen : Closable owned.world.conn.state_)
    (hdispatch : (OwnedMachine ThreadId).Recorded.Guarded InHandleEvent
      (owned, []) inputs) :
    (OwnedMachine ThreadId).Recorded.Guarded EntersOnce (owned, []) inputs <->
      (OwnedMachine ThreadId).Recorded.Guarded
        (fun past i => ¬ClosesAgain past i) (owned, []) inputs := by
  have hstart : Ongoing (owned, []) := by
    constructor
    · exact ⟨tr, run_sound hrun⟩
    · intro revents' left hhandling
      rw [hahead] at hhandling
      cases hhandling
    · simp [HasClosed]
    · exact fun _ => hopen
  exact Machine.Guarded.congr (I := Ongoing)
    (fun past i hongoing _ => entersOnce_iff hongoing)
    (fun past i later es hongoing hbelongs _ hstep =>
      hongoing.step hbelongs hstep)
    hstart hdispatch

end Threads

/-!
# The peer closes

The end of the stream is read.  With `EPOLLHUP` in the same mask, the last
branch closes the connection again.
-/

def Reported (revents : BitVec 32) : List (Input Unit) :=
  [Input.swap, Input.runFunctor (WriteResult.wrote 0), Input.returns,
    Input.drained, Input.poll revents]

def EndOfStream : List (Input Unit) :=
  Input.handleEvent (ReadResult.received []) (WriteResult.wrote 0) ::
    List.replicate 3
      (Input.resume (ReadResult.received []) (WriteResult.wrote 0))

def StartTrace : List Event :=
  [Event.executed Functor.connectionEstablished,
    Event.conn (TcpConnection.Event.stored States.kConnecting
      States.kConnected),
    Event.conn (TcpConnection.Event.called
      (Callback.connection States.kConnected))]

theorem closes_once_counterexample :
    ¬ forall closeCallback (before inputs : List (Input Unit)) owned tr revents,
      (OwnedMachine Unit).Run (Init Unit closeCallback) before =
        some (owned, tr) ->
      owned.dispatch = Dispatch.ahead revents ->
      Closable owned.world.conn.state_ ->
      (OwnedMachine Unit).Recorded.Guarded InHandleEvent (owned, []) inputs ->
      (OwnedMachine Unit).Recorded.Guarded EntersOnce (owned, [])
        inputs := by
  intro hclaim
  have heval : ((OwnedMachine Unit).Run (Init Unit CloseCallback.otherLoop)
      (Reported (Channel.EPOLLIN ||| Channel.EPOLLHUP))).map
      (fun last => ((last.1.dispatch, last.1.world.conn.state_,
        decide ((OwnedMachine Unit).Recorded.Guarded InHandleEvent
          (last.1, []) EndOfStream),
        decide ((OwnedMachine Unit).Recorded.Guarded EntersOnce
          (last.1, []) EndOfStream)), last.2)) =
      some ((Dispatch.ahead (Channel.EPOLLIN ||| Channel.EPOLLHUP),
        States.kConnected, true, false), StartTrace) := by
    decide +kernel
  rcases (OwnedMachine Unit).exists_run (fun owned =>
    (owned.dispatch, owned.world.conn.state_,
      decide ((OwnedMachine Unit).Recorded.Guarded InHandleEvent
        (owned, []) EndOfStream),
      decide ((OwnedMachine Unit).Recorded.Guarded EntersOnce
        (owned, []) EndOfStream))) heval with ⟨owned, hrun, hlast⟩
  simp only [Prod.mk.injEq, decide_eq_true_eq, decide_eq_false_iff_not]
    at hlast
  rcases hlast with ⟨hdispatch, hstate, hbelongs, htwice⟩
  exact htwice (hclaim _ _ _ owned _ _ hrun hdispatch (Or.inl hstate)
    hbelongs)

theorem closes_once_of_end :
    exists owned,
      (OwnedMachine Unit).Run (Init Unit CloseCallback.otherLoop)
        (Reported Channel.EPOLLIN) = some (owned, StartTrace) ∧
      (OwnedMachine Unit).Recorded.Guarded EntersOnce (owned, [])
        EndOfStream := by
  have heval : ((OwnedMachine Unit).Run (Init Unit CloseCallback.otherLoop)
      (Reported Channel.EPOLLIN)).map
      (fun last => ((last.1.dispatch, last.1.world.conn.state_,
        decide ((OwnedMachine Unit).Recorded.Guarded InHandleEvent
          (last.1, []) EndOfStream),
        decide ((OwnedMachine Unit).Recorded.Guarded
          (fun past i => ¬ClosesAgain past i) (last.1, []) EndOfStream)),
        last.2)) =
      some ((Dispatch.ahead Channel.EPOLLIN, States.kConnected, true, true),
        StartTrace) := by
    decide +kernel
  rcases (OwnedMachine Unit).exists_run (fun owned =>
    (owned.dispatch, owned.world.conn.state_,
      decide ((OwnedMachine Unit).Recorded.Guarded InHandleEvent
        (owned, []) EndOfStream),
      decide ((OwnedMachine Unit).Recorded.Guarded
        (fun past i => ¬ClosesAgain past i) (owned, []) EndOfStream))) heval
    with ⟨owned, hrun, hlast⟩
  simp only [Prod.mk.injEq, decide_eq_true_eq] at hlast
  rcases hlast with ⟨hdispatch, hstate, hbelongs, honce⟩
  exact ⟨owned, hrun, (closes_once_iff hrun hdispatch (Or.inl hstate)
    hbelongs).mpr honce⟩

end Ownership
end Net
end Wethands
