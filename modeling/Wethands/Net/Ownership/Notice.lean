import Wethands.Net.Ownership.Dispatch

/-!
# No message after the disconnect notice

A connection that has told its user of its end does not read, so epoll does not
report anything that its channel would read for.
-/

namespace Wethands
namespace Net

open Foundation Reactor

namespace Ownership

open TcpConnection (World Functor Frame Caller Callback CloseCallback States
  ReadResult WriteResult Api RemoteApi)

variable {ThreadId : Type} {closing told : Prop} {owned : Owned ThreadId}

def Told (es : List Event) : Prop :=
  Event.conn (TcpConnection.Event.called
    (Callback.connection States.kDisconnected)) ∈ es

def Mute (es : List Event) : Prop :=
  Event.conn (TcpConnection.Event.called Callback.message) ∉ es

theorem reports_of_not_reading {revents : BitVec 32} {channel : Channel}
    (hmasked : channel.Masked) (hreading : channel.IsReading = false)
    (hreports : Reports revents channel.events_) :
    revents &&& Branch.read.Mask = 0 := by
  have hevents : channel.events_ = Channel.kNoneEvent ∨
      channel.events_ = Channel.kWriteEvent := by
    simp only [Channel.Masked, Channel.Interests, List.mem_cons,
      List.not_mem_nil, or_false] at hmasked
    rcases hmasked with hnone | hread | hwrite | hboth
    · exact Or.inl hnone
    · simp [Channel.IsReading, hread, Channel.kReadEvent, Channel.EPOLLIN,
        Channel.EPOLLPRI] at hreading
    · exact Or.inr hwrite
    · simp [Channel.IsReading, hboth, Channel.kReadEvent, Channel.EPOLLIN,
        Channel.EPOLLPRI, Channel.kWriteEvent, Channel.EPOLLOUT] at hreading
  have hmask : ~~~(channel.events_ ||| Channel.EPOLLERR |||
      Channel.EPOLLHUP) &&& Branch.read.Mask = Branch.read.Mask := by
    rcases hevents with hnone | hwrite
    · rw [hnone]
      decide
    · rw [hwrite]
      decide
  rw [Reports] at hreports
  rw [← hmask, ← BitVec.and_assoc, hreports]
  exact BitVec.zero_and

/-- `told` tells whether the user has been told of the end. -/
structure Silent (owned : Owned ThreadId) (told : Prop) : Prop where
  masked : owned.world.conn.socketChannel_.Masked
  branches : forall revents left,
    owned.dispatch = Dispatch.handling revents left -> Branch.read ∉ left
  ended : told -> Ended owned.world
  unread : told -> forall revents, owned.dispatch = Dispatch.ahead revents ->
    revents &&& Branch.read.Mask = 0

/-- What a step leaves, and that it hands no message over after the notice. -/
structure Replies (told : Prop) (next : Owned ThreadId) (es : List Event) :
    Prop where
  silent : Silent next (told ∨ Told es)
  mute : told ∨ Told es -> Mute es

theorem silent_init (closeCallback : CloseCallback) :
    Silent (Init ThreadId closeCallback) False where
  masked := Channel.masked_none false
  branches := by simp [Init]
  ended := fun hfalse => hfalse.elim
  unread := fun hfalse => hfalse.elim

theorem Silent.still {next : Owned ThreadId} {es : List Event}
    (h : Silent owned told)
    (hchannel : next.world.conn.socketChannel_ =
      owned.world.conn.socketChannel_)
    (hended : Ended owned.world -> Ended next.world)
    (hdispatch : next.dispatch = owned.dispatch)
    (htold : ¬Told es) (hmute : Mute es) : Replies told next es := by
  have hbefore : told ∨ Told es -> told := by
    rintro (hold | hnew)
    · exact hold
    · exact absurd hnew htold
  refine ⟨⟨?_, ?_, ?_, ?_⟩, fun _ => hmute⟩
  · rw [hchannel]
    exact h.masked
  · rw [hdispatch]
    exact h.branches
  · exact fun hnow => hended (h.ended (hbefore hnow))
  · intro hnow
    rw [hdispatch]
    exact h.unread (hbefore hnow)

theorem told_map {es : List TcpConnection.Event} :
    Told (es.map Event.conn) <-> Notifies es := by
  simp [Told, Notifies]

theorem mute_map {es : List TcpConnection.Event} :
    Mute (es.map Event.conn) <->
      TcpConnection.Event.called Callback.message ∉ es := by
  simp [Mute]

theorem Silent.within
    {call : Call (World ThreadId) TcpConnection.Event}
    (h : Silent owned told)
    (hcall : Yields call (Quiet closing owned.world))
    (hahead : owned.world.conn.closeCallback_ = CloseCallback.sameLoop ->
      closing -> forall revents, owned.dispatch ≠ Dispatch.ahead revents) :
    Yields (Within owned call) (Replies told) := by
  unfold Within
  split
  · exact yields_error
  · rename_i world es
    have hquiet := yields_ok.mp hcall
    refine yields_ok.mpr ⟨⟨hquiet.masked h.masked, h.branches, ?_, ?_⟩, ?_⟩
    · rintro (hold | hnew)
      · exact hquiet.ended (h.ended hold)
      · exact (hquiet.notified (told_map.mp hnew)).2.2
    · rintro (hold | hnew)
      · exact h.unread hold
      · rcases hquiet.notified (told_map.mp hnew) with ⟨howner, hcloses, _⟩
        intro revents hdispatch
        exact absurd hdispatch
          (hahead howner (hquiet.closes hcloses) revents)
    · exact fun _ => mute_map.mpr hquiet.silent

theorem Replies.after {e : Event} {next : Owned ThreadId} {es : List Event}
    (h : Replies told next es) (he : forall event, e ≠ Event.conn event) :
    Replies told next ([e] ++ es) := by
  have htold : Told ([e] ++ es) <-> Told es := by
    simp [Told, Ne.symm (he _)]
  have hmute : Mute ([e] ++ es) <-> Mute es := by
    simp [Mute, Ne.symm (he _)]
  constructor
  · rw [htold]
    exact h.silent
  · rw [htold, hmute]
    exact h.mute

/-!
# Events of the channel
-/

theorem Silent.taken {revents : BitVec 32} {left : List Branch}
    (h : Silent owned told) (hleft : Branch.read ∉ left) :
    Silent { owned with dispatch := Dispatch.handling revents left } told where
  masked := h.masked
  branches := by
    intro revents' left' hdispatch
    cases hdispatch
    exact hleft
  ended := h.ended
  unread := by simp

theorem runBranch_quiet (world : World ThreadId) (read : ReadResult)
    (write : WriteResult) {branch : Branch} (hbranch : branch ≠ Branch.read) :
    Yields (RunBranch world read write branch) (Quiet True world) := by
  cases branch with
  | read => exact absurd rfl hbranch
  | write => exact handleWrite_quiet world write
  | error => exact yields_ok.mpr (Quiet.refl world)
  | close => exact handleClose_quiet world

theorem Silent.reads {world : World ThreadId}
    {es : List TcpConnection.Event} (h : Silent owned told) (hnot : ¬told)
    (hreads : Reads owned.world world es) :
    Yields (Within owned (Except.ok (world, es))) (Replies told) := by
  have htold : ¬(told ∨ Told (es.map Event.conn)) := by
    rw [told_map, hreads.message]
    simp [hnot, Notifies]
  exact yields_ok.mpr ⟨⟨hreads.masked h.masked, h.branches,
    fun hnow => absurd hnow htold, fun hnow => absurd hnow htold⟩,
    fun hnow => absurd hnow htold⟩

theorem test_replies {revents : BitVec 32} {branch : Branch}
    {left : List Branch} (h : Silent owned told)
    (hleft : Branch.read ∉ left)
    (hread : branch = Branch.read -> told ->
      revents &&& Branch.read.Mask = 0)
    (read : ReadResult) (write : WriteResult) :
    Yields (Test owned revents branch left read write) (Replies told) := by
  have htaken : Silent { owned with
      dispatch := Dispatch.handling revents left } told := h.taken hleft
  unfold Test
  dsimp only
  split
  · rename_i hmask
    by_cases hbranch : branch = Branch.read
    · subst hbranch
      have hnot : ¬told := fun htold => hmask (hread rfl htold)
      have hcall := handleRead_spec owned.world read
      unfold RunBranch
      intro next es hwithin
      cases hresult : TcpConnection.HandleRead owned.world read with
      | error failure =>
          rw [hresult] at hwithin
          cases hwithin
      | ok answer =>
          rw [hresult] at hwithin hcall
          rcases answer with ⟨world, es'⟩
          rcases yields_ok.mp hcall with hquiet | hreads
          · exact htaken.within (yields_ok.mpr hquiet) (by simp) next es
              hwithin
          · exact htaken.reads hnot hreads next es hwithin
    · exact htaken.within (runBranch_quiet _ read write hbranch) (by simp)
  · have hnothing : ¬Told [] := by simp [Told]
    refine yields_ok.mpr ⟨?_, fun _ => by simp [Mute]⟩
    simpa [hnothing] using htaken

theorem handleEvent_replies (h : Silent owned told) (read : ReadResult)
    (write : WriteResult) :
    Yields (HandleEvent owned read write) (Replies told) :=
  yields_handleEvent (fun revents hdispatch _ => test_replies h (by simp)
    (fun _ htold => h.unread htold revents hdispatch) read write)

theorem resume_replies (h : Silent owned told) (read : ReadResult)
    (write : WriteResult) :
    Yields (Resume owned read write) (Replies told) := by
  apply yields_resume
  · intro revents _ hdispatch
    have hnothing : ¬Told [Event.resumed] := by simp [Told]
    refine ⟨⟨h.masked, by simp, ?_, by simp⟩, fun _ => by simp [Mute]⟩
    simpa [hnothing] using h.ended
  · intro revents branch left _ hdispatch
    have hnot := h.branches revents _ hdispatch
    rw [List.mem_cons, not_or] at hnot
    refine (test_replies h hnot.2 ?_ read write).mono ?_
    · exact fun hread => absurd hread.symm hnot.1
    · exact fun next es hnext => hnext.after (by simp)

theorem poll_replies (h : Silent owned told) (revents : BitVec 32) :
    Yields (Poll owned revents) (Replies told) := by
  have hnothing : ¬Told [] := by simp [Told]
  refine yields_when (fun hpoll => yields_ok.mpr ⟨⟨h.masked, by simp, ?_, ?_⟩,
    fun _ => by simp [Mute]⟩)
  · simpa [hnothing] using h.ended
  · intro hnow revents' hdispatch
    cases hdispatch
    have htold : told := by simpa [hnothing] using hnow
    exact reports_of_not_reading h.masked (h.ended htold).2 hpoll.2.2

/-!
# Functors and callbacks
-/

/-- `StartReadInLoop` is about to run. -/
def StartsRead (owned : Owned ThreadId) : Input ThreadId -> Bool
  | Input.api Api.startRead => true
  | Input.runFunctor _ =>
      owned.world.pendingFunctors_.head? = some Functor.startReadInLoop
  | _ => false

/-- User code on the loop closes the connection. -/
def ClosesNow : Input ThreadId -> Bool
  | Input.api Api.forceClose => true
  | _ => false

theorem connectionDestroyed_replies (h : Silent owned told)
    (hidle : owned.dispatch = Dispatch.idle) :
    Yields (Within owned (TcpConnection.ConnectionDestroyed owned.world))
      (Replies told) := by
  unfold Within
  split
  · exact yields_error
  · rename_i world es hcall
    rcases connectionDestroyed_yields owned.world world es hcall with
      ⟨hstate, rfl, rfl⟩
    refine yields_ok.mpr ⟨⟨Channel.masked_none false, h.branches, ?_, ?_⟩,
      fun _ => by simp [Mute]⟩
    · exact fun _ => ⟨Or.inr hstate, by simp [Channel.IsReading,
        Channel.kNoneEvent]⟩
    · intro _ revents hahead
      rw [hidle] at hahead
      cases hahead

theorem Silent.started (h : Silent owned told) (hnot : ¬told) :
    Yields (Within owned (Except.ok
        (TcpConnection.StartReadInLoop owned.world, []))) (Replies told) := by
  have hstarted : Effect False owned.world
      (TcpConnection.StartReadInLoop owned.world) [] :=
    startReadInLoop_effect owned.world
  have hnow : ¬(told ∨ Told []) := by simp [hnot, Told]
  exact yields_ok.mpr ⟨⟨hstarted.masked h.masked, h.branches,
    fun htold => absurd htold hnow, fun htold => absurd htold hnow⟩,
    fun htold => absurd htold hnow⟩

theorem runFunctor_replies (hexclusive : Exclusive owned)
    (h : Silent owned told) (result : WriteResult)
    (hstart : told ->
      owned.world.pendingFunctors_.head? ≠ some Functor.startReadInLoop) :
    Yields (RunFunctor owned result) (Replies told) := by
  apply yields_runFunctor
  intro left ran functor rest hdrain hfunctors _
  have hidle : owned.dispatch = Dispatch.idle := by
    by_contra hbusy
    have hnone := hexclusive hbusy
    simp [hdrain] at hnone
  have htaken : Silent (Taken owned left ran functor rest) told :=
    ⟨h.masked, h.branches, h.ended, h.unread⟩
  refine Yields.mono (Q := Replies told) ?_
    (fun next es hnext => hnext.after (by simp))
  by_cases hdestroyed : functor = Functor.connectionDestroyed
  · rw [runFunctor_connectionDestroyed hfunctors hdestroyed left ran]
    exact connectionDestroyed_replies htaken hidle
  · by_cases hread : functor = Functor.startReadInLoop
    · have hnot : ¬told := by
        intro htold
        rw [hfunctors, hread] at hstart
        exact hstart htold rfl
      have hcall : TcpConnection.RunFunctor owned.world result = Except.ok
          (TcpConnection.StartReadInLoop
            (Taken owned left ran functor rest).world, []) := by
        rw [TcpConnection.RunFunctor, hfunctors, hread]
        rfl
      rw [hcall]
      exact htaken.started hnot
    · refine htaken.within
        (runFunctor_quiet hfunctors result hread hdestroyed) ?_
      simp [Taken, hidle]

theorem return_replies (h : Silent owned told) :
    Yields (Return owned) (Replies told) := by
  refine yields_return (fun frame rest hstack => ?_)
  have hpopped : Silent (Popped owned rest) told :=
    ⟨h.masked, h.branches, h.ended, h.unread⟩
  have hcall : Yields (TcpConnection.Return owned.world)
      (Quiet False (Popped owned rest).world) := return_quiet hstack
  exact hpopped.within hcall (fun _ hfalse => hfalse.elim)

theorem Silent.remote {world : World ThreadId}
    {es : List TcpConnection.Event} (h : Silent owned told)
    (hchannel : world.conn.socketChannel_ = owned.world.conn.socketChannel_)
    (hstate : world.conn.state_ = owned.world.conn.state_ ∨
      world.conn.state_ = States.kDisconnecting) (hplain : Plain es) :
    Yields (Within owned (Except.ok (world, es))) (Replies told) := by
  refine yields_ok.mpr (h.still hchannel ?_ rfl ?_ ?_)
  · intro hended
    refine ⟨?_, by rw [hchannel]; exact hended.2⟩
    rcases hstate with hsame | hleaving
    · rw [hsame]
      exact hended.1
    · exact Or.inl hleaving
  · rw [told_map]
    exact hplain _
  · rw [mute_map]
    exact hplain _

section Threads

variable [DecidableEq ThreadId]

theorem remoteCall_replies (h : Silent owned told) (tid : ThreadId)
    (api : RemoteApi) :
    Yields (Within owned (TcpConnection.RemoteCall owned.world tid api))
      (Replies told) := by
  unfold TcpConnection.RemoteCall
  cases api with
  | send data =>
      dsimp only
      split <;> exact h.remote rfl (Or.inl rfl) (by simp [Plain])
  | shutdown =>
      dsimp only
      split <;> exact h.remote rfl (Or.inl rfl) (by simp [Plain])
  | forceClose =>
      dsimp only
      split <;> exact h.remote rfl (Or.inl rfl) (by simp [Plain])
  | startRead => exact h.remote rfl (Or.inl rfl) (by simp [Plain])
  | stopRead => exact h.remote rfl (Or.inl rfl) (by simp [Plain])

theorem remoteNext_replies (h : Silent owned told) (tid : ThreadId) :
    Yields (Within owned (TcpConnection.RemoteNext owned.world tid))
      (Replies told) := by
  unfold TcpConnection.RemoteNext
  split
  · exact yields_error
  · exact h.remote rfl (Or.inl rfl) (by simp [Plain])
  · exact h.remote rfl (Or.inr rfl) (by simp [Plain])
  · exact h.remote rfl (Or.inl rfl) (by simp [Plain])
  · exact h.remote rfl (Or.inr rfl) (by simp [Plain])
  · exact h.remote rfl (Or.inl rfl) (by simp [Plain])

theorem act_replies (hexclusive : Exclusive owned) (h : Silent owned told)
    {i : Input ThreadId}
    (hclose : ClosesNow i = true ->
      owned.world.conn.closeCallback_ = CloseCallback.sameLoop ->
      forall revents, owned.dispatch ≠ Dispatch.ahead revents)
    (hstart : told -> StartsRead owned i = false) :
    Yields (Act owned i) (Replies told) := by
  have hsame : forall next : Owned ThreadId,
      next.world = owned.world -> next.dispatch = owned.dispatch ->
      Replies told next [] :=
    fun next hworld hdispatch => h.still (by rw [hworld])
      (fun hended => by rw [hworld]; exact hended) hdispatch
      (by simp [Told]) (by simp [Mute])
  cases i with
  | api api =>
      refine yields_when (fun _ => ?_)
      by_cases hread : api = Api.startRead
      · subst hread
        exact h.started (fun htold => by cases hstart htold)
      · apply h.within (callApi_quiet owned.world hread)
        intro howner hforce
        subst hforce
        exact hclose rfl howner
  | returns => exact return_replies h
  | keep tid => exact yields_when (fun _ => yields_ok.mpr (hsame _ rfl rfl))
  | drop tid => exact yields_when (fun _ => yields_ok.mpr (hsame _ rfl rfl))
  | poll revents => exact poll_replies h revents
  | handleEvent read write =>
      exact yields_when (fun _ => handleEvent_replies h read write)
  | resume read write =>
      exact yields_when (fun _ => resume_replies h read write)
  | swap => exact yields_when (fun _ => yields_ok.mpr (hsame _ rfl rfl))
  | runFunctor result =>
      refine yields_when (fun _ => ?_)
      exact runFunctor_replies hexclusive h result
        (fun htold => of_decide_eq_false (hstart htold))
  | drained =>
      exact yields_when (fun _ => yields_drained (fun _ _ => hsame _ rfl rfl))
  | removeConnectionInLoop =>
      unfold Act RemoveConnectionInLoop TcpConnection.RemoveConnectionInLoop
      dsimp only
      split
      · exact yields_error
      · refine yields_ok.mpr (h.still rfl (fun hended => hended) rfl ?_ ?_)
        · simp [Told]
        · simp [Mute]
  | serverDrained =>
      exact yields_when (fun _ => yields_ok.mpr (hsame _ rfl rfl))
  | remoteCall tid api =>
      exact yields_when (fun _ => remoteCall_replies h tid api)
  | remoteNext tid => exact remoteNext_replies h tid

theorem perform_replies (hexclusive : Exclusive owned)
    (h : Silent owned told) {i : Input ThreadId}
    (hclose : ClosesNow i = true ->
      owned.world.conn.closeCallback_ = CloseCallback.sameLoop ->
      forall revents, owned.dispatch ≠ Dispatch.ahead revents)
    (hstart : told -> StartsRead owned i = false) :
    Yields (Perform owned i) (Replies told) := by
  refine yields_settle ((act_replies hexclusive h hclose hstart).mono ?_)
  intro next es hnext
  split
  · intro _
    have htold : Told (es ++ [Event.destroyed]) <-> Told es := by
      simp [Told]
    have hmute : Mute (es ++ [Event.destroyed]) <-> Mute es := by
      simp [Mute]
    constructor
    · rw [htold]
      exact hnext.silent
    · rw [htold, hmute]
      exact hnext.mute
  · exact hnext

end Threads

end Ownership
end Net
end Wethands
