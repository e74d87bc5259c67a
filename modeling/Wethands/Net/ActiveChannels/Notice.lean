import Wethands.Net.ActiveChannels.Dispatch

/-!
# Messages and the disconnect notice

The parts of a loop do not share their connections, so what a connection hands
over depends on its own steps only.
-/

namespace Wethands
namespace Net

open Foundation Utils Reactor

namespace ActiveChannels

open Ownership (Owned Sound Silent)
open TcpConnection (Callback CloseCallback States ReadResult WriteResult)

variable {ThreadId ι κ : Type} {loop : Loop ThreadId ι κ}

def Notice (i : ι) : Event ι κ :=
  Event.connection i (Ownership.Event.conn (TcpConnection.Event.called
    (Callback.connection States.kDisconnected)))

def Message (i : ι) : Event ι κ :=
  Event.connection i (Ownership.Event.conn
    (TcpConnection.Event.called Callback.message))

structure Hushes (loop next : Loop ThreadId ι κ) (es : List (Event ι κ)) :
    Prop where
  told : forall i, i ∈ next.told <-> i ∈ loop.told ∨ Notice i ∈ es
  silent : forall i, Silent (next.connections i) (i ∈ next.told)
  mute : forall i, i ∈ loop.told -> Message i ∉ es
  after : forall i front back, es = front ++ Notice i :: back ->
    Message i ∉ back

theorem hushes_init (closeCallback : ι -> CloseCallback)
    (newConnectionCallback : κ -> Bool) :
    Hushes (Init ThreadId closeCallback newConnectionCallback)
      (Init ThreadId closeCallback newConnectionCallback) [] where
  told := by simp
  silent := by
    intro i
    have hnobody : (i ∈ (Init ThreadId closeCallback
        newConnectionCallback).told) = False := by simp [Init]
    rw [hnobody]
    exact Ownership.silent_init (closeCallback i)
  mute := by simp
  after := by simp

theorem Hushes.trans {mid next : Loop ThreadId ι κ}
    {es es' : List (Event ι κ)} (first : Hushes loop mid es)
    (second : Hushes mid next es') : Hushes loop next (es ++ es') where
  told := by
    intro i
    rw [second.told, first.told, List.mem_append, or_assoc]
  silent := second.silent
  mute := by
    intro i htold hmem
    rcases List.mem_append.mp hmem with hfirst | hsecond
    · exact first.mute i htold hfirst
    · exact second.mute i ((first.told i).mpr (Or.inl htold)) hsecond
  after := by
    intro i front back hsplit
    rcases split_append hsplit with ⟨mid', hfirst, rfl⟩ | ⟨mid', _, hsecond⟩
    · have htold : i ∈ mid.told := (first.told i).mpr
        (Or.inr (by rw [hfirst]; simp))
      rw [List.mem_append, not_or]
      exact ⟨first.after i front mid' hfirst, second.mute i htold⟩
    · exact second.after i mid' back hsecond

theorem Hushes.still {next : Loop ThreadId ι κ} {es : List (Event ι κ)}
    (hsilent : forall i, Silent (loop.connections i) (i ∈ loop.told))
    (hconnections : next.connections = loop.connections)
    (htold : next.told = loop.told)
    (hes : forall i event, Event.connection i event ∉ es) :
    Hushes loop next es where
  told := by
    intro i
    rw [htold]
    simp [Notice, hes i]
  silent := by
    intro i
    rw [hconnections, htold]
    exact hsilent i
  mute := fun i _ => hes i _
  after := by
    intro i front back hsplit
    have hmem : Notice i ∈ es := by
      rw [hsplit]
      simp
    exact absurd hmem (hes i _)

/-- No connection starts to read after its user has been told of its end. -/
def ReadsNoMore (loop : Loop ThreadId ι κ) : Input ThreadId ι κ -> Prop
  | Input.connection i input =>
      i ∈ loop.told ->
        Ownership.StartsRead (loop.connections i) input = false
  | _ => True

theorem message_mem {i j : ι} {es : List Ownership.Event} :
    (Message i : Event ι κ) ∈ es.map (Event.connection j) <->
      i = j ∧ ¬Ownership.Mute es := by
  constructor
  · intro hmem
    rcases List.mem_map.mp hmem with ⟨event, hevent, heq⟩
    cases heq
    exact ⟨rfl, fun hmute => hmute hevent⟩
  · intro hboth
    rcases hboth with ⟨rfl, hnot⟩
    exact List.mem_map_of_mem (not_not.mp hnot)

theorem notice_mem {i j : ι} {es : List Ownership.Event} :
    (Notice i : Event ι κ) ∈ es.map (Event.connection j) <->
      i = j ∧ Ownership.Told es := by
  constructor
  · intro hmem
    rcases List.mem_map.mp hmem with ⟨event, hevent, heq⟩
    cases heq
    exact ⟨rfl, hevent⟩
  · intro hpair
    rcases hpair with ⟨rfl, htold⟩
    exact List.mem_map_of_mem htold

theorem onConnector_hushes [DecidableEq κ] (clock : Nat -> Timestamp)
    (hsilent : forall i, Silent (loop.connections i) (i ∈ loop.told)) (k : κ)
    (input : Connector.Input) :
    Yields (OnConnector clock loop k input) (Hushes loop) := by
  unfold OnConnector
  split
  · exact yields_error
  · exact yields_ok.mpr (Hushes.still hsilent rfl rfl (by simp))

section Sources

variable [DecidableEq ι] [DecidableEq ThreadId]

instance (loop : Loop ThreadId ι κ) (i : Input ThreadId ι κ) :
    Decidable (ReadsNoMore loop i) := by
  apply Input.casesOn (motive := fun i => Decidable (ReadsNoMore loop i)) i
  all_goals intros; dsimp only [ReadsNoMore]; infer_instance

omit [DecidableEq ThreadId] in
theorem told_moved {i j : ι} {owned : Owned ThreadId}
    {es : List Ownership.Event} :
    j ∈ (Moved loop i owned es).told <->
      j ∈ loop.told ∨ j = i ∧ Ownership.Told es := by
  dsimp only [Moved]
  split
  · rename_i htold
    rw [List.mem_cons, or_comm]
    simp [htold]
  · rename_i hnot
    simp [hnot]

omit [DecidableEq ThreadId] in
theorem move_hushes {i : ι}
    {call : Call (Owned ThreadId) Ownership.Event}
    (hsilent : forall j, Silent (loop.connections j) (j ∈ loop.told))
    (hcall : Yields call (Ownership.Replies (i ∈ loop.told))) :
    Yields (Move loop i call) (Hushes loop) := by
  refine yields_move (fun owned es hmoves => ?_)
  have hreplies := hcall owned es hmoves
  constructor
  · intro j
    rw [told_moved, notice_mem]
  · intro j
    rw [told_moved]
    by_cases hsame : j = i
    · subst hsame
      dsimp only [Moved]
      rw [Function.update_self]
      simpa using hreplies.silent
    · dsimp only [Moved]
      rw [Function.update_of_ne hsame]
      simpa [hsame] using hsilent j
  · intro j hbefore hmem
    rcases message_mem.mp hmem with ⟨rfl, hspeaks⟩
    exact hspeaks (hreplies.mute (Or.inl hbefore))
  · intro j front back hsplit hmem
    have hnotice : (Notice j : Event ι κ) ∈
        es.map (Event.connection i) := by
      rw [hsplit]
      simp
    have hmessage : (Message j : Event ι κ) ∈
        es.map (Event.connection i) := by
      rw [hsplit]
      simp [hmem]
    exact (message_mem.mp hmessage).2
      (hreplies.mute (Or.inr (notice_mem.mp hnotice).2))

theorem onConnection_hushes {tr : List Ownership.Event}
    {i : ι}
    (hsilent : forall j, Silent (loop.connections j) (j ∈ loop.told))
    (hsound : Sound (loop.connections i) tr)
    {input : Ownership.Input ThreadId}
    (hclose : Ownership.ClosesNow input = true ->
      (loop.connections i).world.conn.closeCallback_ =
        CloseCallback.sameLoop ->
      forall revents, (loop.connections i).dispatch ≠
        Ownership.Dispatch.ahead revents)
    (hstart : i ∈ loop.told ->
      Ownership.StartsRead (loop.connections i) input = false) :
    Yields (OnConnection loop i input) (Hushes loop) :=
  move_hushes hsilent (Ownership.perform_replies hsound.exclusive (hsilent i)
    hclose hstart)

omit [DecidableEq ι] [DecidableEq ThreadId] in
theorem release_replies {owned : Owned ThreadId} {told : Prop}
    (h : Silent owned told) :
    Yields (Ownership.Settle owned (Release owned))
      (Ownership.Replies told) := by
  apply Ownership.yields_settle
  intro next es hrelease
  rcases release_yields owned next es hrelease with ⟨rfl, functors, rfl⟩
  have hreplies : forall es, ¬Ownership.Told es -> Ownership.Mute es ->
      Ownership.Replies told { owned with
        listed := false
        world := { owned.world with pendingFunctors_ := functors } } es :=
    fun _ htold hmute => h.still rfl (fun hended => hended) rfl htold hmute
  split
  · exact fun _ => hreplies _ (by simp [Ownership.Told])
      (by simp [Ownership.Mute])
  · exact hreplies _ (by simp [Ownership.Told]) (by simp [Ownership.Mute])

omit [DecidableEq ThreadId] in
theorem destroyOwner_hushes
    (hsilent : forall j, Silent (loop.connections j) (j ∈ loop.told)) (i : ι) :
    Yields (DestroyOwner loop i) (Hushes loop) := by
  refine Yields.only_if (fun _ => Yields.in_turn
    ((move_hushes hsilent (release_replies (hsilent i))).mono ?_))
  exact fun mid es hmid => yields_ok.mpr
    (hmid.trans (Hushes.still hmid.silent rfl rfl (by simp)))

theorem ofLoop_hushes {i : ι} {input : Ownership.Input ThreadId}
    (hsilent : forall j, Silent (loop.connections j) (j ∈ loop.told))
    (hsound : exists tr, Sound (loop.connections i) tr)
    (hloop : OfLoop input = true) :
    Yields (OnConnection loop i input) (Hushes loop) := by
  rcases hsound with ⟨tr, hsound⟩
  have hcloses : Ownership.ClosesNow input = false := by
    cases input <;> first | rfl | cases hloop
  have hstarts : Ownership.StartsRead (loop.connections i) input = false := by
    cases input <;> first | rfl | cases hloop
  refine onConnection_hushes hsilent hsound ?_ (fun _ => hstarts)
  intro hforce
  rw [hcloses] at hforce
  cases hforce

variable [DecidableEq κ] (clock : Nat -> Timestamp)

theorem handleEvent_hushes (h : Orderly loop)
    (hsilent : forall i, Silent (loop.connections i) (i ∈ loop.told))
    (read : ReadResult) (write : WriteResult) (revents : BitVec 32)
    (isError : Nat) (isSelfConnect : Bool) :
    Yields (HandleEvent clock loop read write revents isError isSelfConnect)
      (Hushes loop) := by
  unfold HandleEvent
  split
  · rename_i source rest _ _
    let mid : Loop ThreadId ι κ := { loop with
      activeChannels_ := rest
      current := some source }
    have hmid : Hushes loop mid [Event.handleEvent source] :=
      Hushes.still hsilent rfl rfl (by simp)
    have hsilentMid : forall i,
        Silent (mid.connections i) (i ∈ mid.told) := hsilent
    refine Yields.in_turn (yields_ok.mpr ?_)
    refine Yields.mono (Q := Hushes mid) ?_
      (fun next es hnext => hmid.trans hnext)
    cases source with
    | connection i => exact ofLoop_hushes hsilentMid (h.sound i) rfl
    | connector k => exact onConnector_hushes clock hsilentMid k _
    | other fd =>
        exact yields_ok.mpr (Hushes.still hsilentMid rfl rfl (by simp))
  · exact yields_error

theorem resume_hushes (h : Orderly loop)
    (hsilent : forall i, Silent (loop.connections i) (i ∈ loop.told))
    (read : ReadResult) (write : WriteResult) :
    Yields (Resume clock loop read write) (Hushes loop) := by
  have hlast : forall mid es current, Hushes loop mid es ->
      Hushes loop { mid with current := current } (es ++ []) :=
    fun mid es current hmid =>
      hmid.trans (Hushes.still hmid.silent rfl rfl (by simp))
  unfold Resume
  split
  · exact yields_error
  · rename_i i _
    refine Yields.in_turn
      ((ofLoop_hushes hsilent (h.sound i) rfl).mono ?_)
    exact fun mid es hmid => yields_ok.mpr (hlast mid es _ hmid)
  · rename_i k _
    refine Yields.in_turn ((onConnector_hushes clock hsilent k _).mono ?_)
    exact fun mid es hmid => yields_ok.mpr (hlast mid es _ hmid)
  · exact yields_ok.mpr (Hushes.still hsilent rfl rfl (by simp))

theorem poll_hushes (ready : List (Source ι κ × BitVec 32))
    {loop : Loop ThreadId ι κ} (h : Orderly loop)
    (hremoved : loop.removed = [])
    (hsilent : forall i, Silent (loop.connections i) (i ∈ loop.told)) :
    Yields (Poll clock loop ready) (Hushes loop) := by
  induction ready generalizing loop with
  | nil => exact yields_ok.mpr (Hushes.still hsilent rfl rfl (by simp))
  | cons first rest ih =>
      rcases first with ⟨source, revents⟩
      rw [Poll]
      split
      · exact yields_error
      · rename_i hnew
        let joined : Loop ThreadId ι κ := { loop with
          activeChannels_ := loop.activeChannels_ ++ [source] }
        have hjoined : Hushes loop joined [] :=
          Hushes.still hsilent rfl rfl (by simp)
        have hsilentJoined : forall i,
            Silent (joined.connections i) (i ∈ joined.told) := hsilent
        have hreported : Yields (UpdateRevents clock joined revents source)
            (Hushes joined) := by
          cases source with
          | connection i => exact ofLoop_hushes hsilentJoined (h.sound i) rfl
          | connector k => exact onConnector_hushes clock hsilentJoined k _
          | other fd =>
              exact Yields.only_if (fun _ => yields_ok.mpr
                (Hushes.still hsilentJoined rfl rfl (by simp)))
        apply Yields.in_turn
        intro mid es hmid
        have horderly := updateRevents_orderly clock h hremoved hnew revents
          mid es hmid
        have hhushes := hreported mid es hmid
        refine (ih horderly.1 horderly.2 hhushes.silent).mono ?_
        exact fun next es' hnext => hjoined.trans (hhushes.trans hnext)

theorem perform_hushes (h : Orderly loop)
    (hsilent : forall i, Silent (loop.connections i) (i ∈ loop.told))
    {i : Input ThreadId ι κ} (hkeeps : KeepsActive loop i)
    (hreads : ReadsNoMore loop i) :
    Yields (Perform clock loop i) (Hushes loop) := by
  cases i with
  | poll ready =>
      unfold Perform
      dsimp only
      split
      · have hcleared : Orderly { loop with removed := [] } :=
          ⟨h.sound, h.listed, h.connections, h.connectors, h.others, by simp,
            h.nodup⟩
        have hstart : Hushes loop { loop with removed := [] } [] :=
          Hushes.still hsilent rfl rfl (by simp)
        exact (poll_hushes clock ready hcleared rfl hsilent).mono
          (fun next es hnext => hstart.trans hnext)
      · exact yields_error
  | handleEvent read write revents isError isSelfConnect =>
      exact handleEvent_hushes clock h hsilent read write revents isError
        isSelfConnect
  | resume read write => exact resume_hushes clock h hsilent read write
  | connection i input =>
      unfold Perform
      dsimp only
      split
      · rcases h.sound i with ⟨tr, hsound⟩
        refine onConnection_hushes hsilent hsound ?_ hreads
        intro hforce howner revents hahead
        exact hkeeps hforce howner (h.listed i revents hahead)
      · exact yields_error
  | connector k input =>
      unfold Perform
      dsimp only
      split
      · exact onConnector_hushes clock hsilent k input
      · exact yields_error
  | destroyOwner i => exact destroyOwner_hushes hsilent i
  | registerToPoller fd =>
      unfold Perform RegisterToPoller
      dsimp only
      split <;> exact yields_ok.mpr (Hushes.still hsilent rfl rfl (by simp))
  | removeFromPoller fd =>
      exact Yields.only_if (fun _ =>
        yields_ok.mpr (Hushes.still hsilent rfl rfl (by simp)))

/-!
# Runs
-/

/--
When nothing closes a connection of this loop, restarts a connector or removes
another channel that waits for its turn, every channel is handled while it is
registered.  When moreover no connection starts to read after its user has
been told of its end, no message follows the notice.
-/
theorem active_channels_registered {closeCallback : ι -> CloseCallback}
    {newConnectionCallback : κ -> Bool} {inputs : List (Input ThreadId ι κ)}
    {tr : List (Event ι κ)}
    (hrun : (LoopMachine clock).Run
      (Init ThreadId closeCallback newConnectionCallback) inputs =
        some (loop, tr))
    (hguard : (LoopMachine clock).Guarded KeepsActive
      (Init ThreadId closeCallback newConnectionCallback) inputs) :
    (forall source, source ∈ loop.activeChannels_ ->
      source ∉ loop.removed ∧ Present loop source) ∧
    ((LoopMachine clock).Guarded ReadsNoMore
        (Init ThreadId closeCallback newConnectionCallback) inputs ->
      forall i front back, tr = front ++ Notice i :: back ->
        Message i ∉ back) := by
  have hinit : Orderly
      (Init ThreadId closeCallback newConnectionCallback) :=
    orderly_init closeCallback newConnectionCallback
  constructor
  · have horderly := Machine.run_invariant_of_guard
      (I := fun loop _ => Orderly loop) (p := [])
      (fun s tr i t es h hkeeps hstep =>
        perform_orderly clock h hkeeps t es (answer_eq_some.mp hstep))
      hinit hguard hrun
    exact fun source hmem =>
      ⟨horderly.kept source hmem, horderly.present hmem⟩
  · intro hreads
    have hhushes := Machine.run_invariant_of_guard
      (I := fun loop tr => Orderly loop ∧ Hushes
        (Init ThreadId closeCallback newConnectionCallback) loop tr)
      (p := [])
      (fun s tr i t es h hboth hstep =>
        ⟨perform_orderly clock h.1 hboth.1 t es (answer_eq_some.mp hstep),
          h.2.trans (perform_hushes clock h.1 h.2.silent hboth.1 hboth.2 t es
            (answer_eq_some.mp hstep))⟩)
      ⟨hinit, hushes_init closeCallback newConnectionCallback⟩
      (hguard.and hreads) hrun
    rw [List.nil_append] at hhushes
    exact hhushes.2.after

end Sources

/-- Two new connections; user code keeps a pointer to each. -/
def TwoConnections : List (Input Unit Bool Unit) :=
  [false, true].flatMap (fun i =>
    [Ownership.Input.runFunctor (WriteResult.wrote 0),
      Ownership.Input.keep (), Ownership.Input.returns,
      Ownership.Input.drained].map (Input.connection i))

def FirstOfTwo (bytes : List Byte) : List (Input Unit Bool Unit) :=
  [Input.poll [(Source.connection false, Channel.EPOLLIN),
      (Source.connection true, Channel.EPOLLIN)],
    Input.handleEvent (ReadResult.received bytes) (WriteResult.wrote 0) 0 0
      false]

def EventsOf (i : Bool) (events : List TcpConnection.Event) :
    List (Event Bool Unit) :=
  events.map (fun event => Event.connection i (Ownership.Event.conn event))

def EventsOfStart (i : Bool) : List (Event Bool Unit) :=
  Event.connection i
      (Ownership.Event.executed TcpConnection.Functor.connectionEstablished) ::
    EventsOf i [TcpConnection.Event.stored States.kConnecting
        States.kConnected,
      TcpConnection.Event.called (Callback.connection States.kConnected)]

/-- The peer has closed the first of two connections that are readable. -/
theorem active_channels_registered_of_two :
    exists loop front back,
      (LoopMachine (fun _ => 0)).Run
        (Init Unit (fun _ : Bool => CloseCallback.sameLoop)
          (fun _ : Unit => true))
        (TwoConnections ++ FirstOfTwo []) =
          some (loop, front ++ Notice false :: back) ∧
      loop.activeChannels_ = [Source.connection true] ∧
      Source.connection true ∉ loop.removed ∧
      Present loop (Source.connection true) ∧ Message false ∉ back := by
  have heval : ((LoopMachine (fun _ => 0)).Run
      (Init Unit (fun _ : Bool => CloseCallback.sameLoop)
        (fun _ : Unit => true))
      (TwoConnections ++ FirstOfTwo [])).map
      (fun last => (last.1.activeChannels_, last.2)) =
      some ([Source.connection true],
        (EventsOfStart false ++ EventsOfStart true ++
          [Event.handleEvent (Source.connection false)] ++
          EventsOf false [TcpConnection.Event.handleClose,
            TcpConnection.Event.stored States.kConnected
              States.kDisconnected,
            TcpConnection.Event.called Callback.close]) ++
          Notice false :: []) := by
    decide +kernel
  rcases (LoopMachine (fun _ => 0)).exists_run
    (fun loop => loop.activeChannels_) heval with ⟨loop, hrun, hactive⟩
  have hregistered := active_channels_registered (fun _ => 0) hrun
    (by decide +kernel)
  have hpresent := hregistered.1 (Source.connection true) (by simp [hactive])
  exact ⟨loop, _, [], hrun, hactive, hpresent.1, hpresent.2,
    hregistered.2 (by decide +kernel) false _ [] rfl⟩

/-- The callback of the first connection closes the second one. -/
def ClosesSecond : List (Input Unit Bool Unit) :=
  FirstOfTwo [1] ++ [Input.connection true
    (Ownership.Input.api TcpConnection.Api.forceClose)]

def HandlesSecond : List (Input Unit Bool Unit) :=
  [Input.connection true Ownership.Input.returns,
      Input.connection false Ownership.Input.returns] ++
    List.replicate 4
      (Input.resume ReadResult.failed (WriteResult.wrote 0)) ++
    [Input.handleEvent (ReadResult.received [1]) (WriteResult.wrote 0) 0 0
      false]

def EventsOfClose : List (Event Bool Unit) :=
  EventsOfStart false ++ EventsOfStart true ++
    [Event.handleEvent (Source.connection false), Message false] ++
    EventsOf true [
      TcpConnection.Event.stored States.kConnected States.kDisconnecting,
      TcpConnection.Event.handleClose,
      TcpConnection.Event.stored States.kDisconnecting States.kDisconnected,
      TcpConnection.Event.called Callback.close]

theorem channel_handled_after_removal :
    (exists inputs loop tr source,
      (LoopMachine (fun _ => 0)).Run
        (Init Unit (fun _ : Bool => CloseCallback.sameLoop)
          (fun _ : Unit => true)) inputs = some (loop, tr) ∧
      loop.activeChannels_ = [source] ∧ source ∈ loop.removed) ∧
    exists inputs loop front back,
      (LoopMachine (fun _ => 0)).Run
        (Init Unit (fun _ : Bool => CloseCallback.sameLoop)
          (fun _ : Unit => true)) inputs =
          some (loop, front ++ Notice true :: back) ∧
      Message true ∈ back := by
  constructor
  · have heval : ((LoopMachine (fun _ => 0)).Run
        (Init Unit (fun _ : Bool => CloseCallback.sameLoop)
          (fun _ : Unit => true)) (TwoConnections ++ ClosesSecond)).map
        (fun last => ((last.1.activeChannels_, last.1.removed), last.2)) =
        some (([Source.connection true], [Source.connection true]),
          EventsOfClose ++ [Notice true]) := by
      decide +kernel
    rcases (LoopMachine (fun _ => 0)).exists_run
      (fun loop => (loop.activeChannels_, loop.removed)) heval with
      ⟨loop, hrun, hlast⟩
    rcases Prod.mk.inj hlast with ⟨hactive, hremoved⟩
    exact ⟨_, loop, _, Source.connection true, hrun, hactive,
      by simp [hremoved]⟩
  · have heval : ((LoopMachine (fun _ => 0)).Run
        (Init Unit (fun _ : Bool => CloseCallback.sameLoop)
          (fun _ : Unit => true))
        (TwoConnections ++ ClosesSecond ++ HandlesSecond)).map
        (fun last => (last.1.current, last.2)) =
        some (some (Source.connection true),
          EventsOfClose ++ Notice true ::
            (List.replicate 4
              (Event.connection false Ownership.Event.resumed) ++
            [Event.handleEvent (Source.connection true), Message true])) := by
      decide +kernel
    rcases (LoopMachine (fun _ => 0)).exists_run
      (fun loop => loop.current) heval with ⟨loop, hrun, _⟩
    exact ⟨_, loop, _, _, hrun, by simp⟩

end ActiveChannels
end Net
end Wethands
