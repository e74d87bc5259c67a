import Wethands.Net.Ownership.Model

/-!
# What a connection does to its references

The code of a connection adds callbacks and functors and takes none away, and
it takes the channel from the poller only when it tells an owner on the same
loop that it is closed.
-/

namespace Wethands
namespace Net

open Foundation Reactor

namespace Ownership

open TcpConnection (World Functor Frame Caller Callback CloseCallback States
  ReadResult WriteResult Api RemoteApi)

variable {ThreadId : Type} {closing : Prop}

/-- Reading is off for good, unless somebody starts it again. -/
def Ended (world : World ThreadId) : Prop :=
  (world.conn.state_ = States.kDisconnecting ∨
    world.conn.state_ = States.kDisconnected) ∧
    world.conn.socketChannel_.IsReading = false

def Closes (es : List TcpConnection.Event) : Prop :=
  TcpConnection.Event.called Callback.close ∈ es

def Notifies (es : List TcpConnection.Event) : Prop :=
  TcpConnection.Event.called (Callback.connection States.kDisconnected) ∈ es

/--
What any code of a connection may do, `ConnectionDestroyed` apart; `closing`
tells whether it may close the connection.
-/
structure Effect (closing : Prop) (world next : World ThreadId)
    (es : List TcpConnection.Event) : Prop where
  stack : world.stack.length ≤ next.stack.length
  functors : exists more,
    next.pendingFunctors_ = world.pendingFunctors_ ++ more
  removals : world.removals ≤ next.removals
  unasked : world.conn.closeCallback_ = CloseCallback.sameLoop ->
    next.removals = world.removals
  callers : next.callers = world.callers
  owner : next.conn.closeCallback_ = world.conn.closeCallback_
  closes : Closes es -> closing
  closed : Closes es ->
    world.stack.length < next.stack.length ∨
      world.conn.closeCallback_ = CloseCallback.otherLoop ∧
        world.removals < next.removals
  registered : world.conn.socketChannel_.registeredToPoller = true ->
    next.conn.socketChannel_.registeredToPoller = true ∨
      world.conn.closeCallback_ = CloseCallback.sameLoop ∧ Closes es
  masked : world.conn.socketChannel_.Masked ->
    next.conn.socketChannel_.Masked

/-- What it may do if it neither starts to read nor has read a message. -/
structure Quiet (closing : Prop) (world next : World ThreadId)
    (es : List TcpConnection.Event) : Prop extends
    Effect closing world next es where
  ended : Ended world -> Ended next
  silent : TcpConnection.Event.called Callback.message ∉ es
  notified : Notifies es ->
    world.conn.closeCallback_ = CloseCallback.sameLoop ∧ Closes es ∧
      Ended next

/-!
# Effects in sequence
-/

theorem Effect.refl (world : World ThreadId) :
    Effect closing world world [] := by
  refine ⟨Nat.le_refl _, ⟨[], by simp⟩, Nat.le_refl _, fun _ => rfl, rfl,
    rfl, ?_, ?_, fun h => Or.inl h, fun h => h⟩
  · simp [Closes]
  · simp [Closes]

theorem Effect.trans {world mid next : World ThreadId}
    {es es' : List TcpConnection.Event} (first : Effect closing world mid es)
    (second : Effect closing mid next es') :
    Effect closing world next (es ++ es') where
  stack := Nat.le_trans first.stack second.stack
  functors := by
    rcases first.functors with ⟨more, hfirst⟩
    rcases second.functors with ⟨more', hsecond⟩
    exact ⟨more ++ more', by rw [hsecond, hfirst, List.append_assoc]⟩
  removals := Nat.le_trans first.removals second.removals
  unasked := fun h =>
    (second.unasked (first.owner ▸ h)).trans (first.unasked h)
  callers := second.callers.trans first.callers
  owner := second.owner.trans first.owner
  closes := by
    intro hcloses
    rcases List.mem_append.mp hcloses with hmem | hmem
    · exact first.closes hmem
    · exact second.closes hmem
  closed := by
    have hstack := first.stack
    have hstack' := second.stack
    have hremovals := first.removals
    have hremovals' := second.removals
    intro hcloses
    rcases List.mem_append.mp hcloses with hmem | hmem
    · rcases first.closed hmem with hgrown | ⟨howner, hgrown⟩
      · exact Or.inl (by omega)
      · exact Or.inr ⟨howner, by omega⟩
    · rcases second.closed hmem with hgrown | ⟨howner, hgrown⟩
      · exact Or.inl (by omega)
      · exact Or.inr ⟨first.owner ▸ howner, by omega⟩
  registered := by
    intro h
    rcases first.registered h with hmid | ⟨howner, hcloses⟩
    · rcases second.registered hmid with hnext | ⟨howner, hcloses⟩
      · exact Or.inl hnext
      · exact Or.inr ⟨first.owner ▸ howner,
          List.mem_append.mpr (Or.inr hcloses)⟩
    · exact Or.inr ⟨howner, List.mem_append.mpr (Or.inl hcloses)⟩
  masked := fun h => second.masked (first.masked h)

theorem Effect.mono {may : Prop} {world next : World ThreadId}
    {es : List TcpConnection.Event} (h : Effect closing world next es)
    (hmay : closing -> may) : Effect may world next es :=
  { h with closes := fun hcloses => hmay (h.closes hcloses) }

theorem Quiet.refl (world : World ThreadId) : Quiet closing world world [] :=
  ⟨Effect.refl world, fun h => h, by simp, by simp [Notifies]⟩

theorem Quiet.trans {world mid next : World ThreadId}
    {es es' : List TcpConnection.Event} (first : Quiet closing world mid es)
    (second : Quiet closing mid next es') :
    Quiet closing world next (es ++ es') where
  toEffect := first.toEffect.trans second.toEffect
  ended := fun h => second.ended (first.ended h)
  silent := by
    intro hmem
    rcases List.mem_append.mp hmem with hfirst | hsecond
    · exact first.silent hfirst
    · exact second.silent hsecond
  notified := by
    intro hnotifies
    rcases List.mem_append.mp hnotifies with hmem | hmem
    · rcases first.notified hmem with ⟨howner, hcloses, hended⟩
      exact ⟨howner, List.mem_append.mpr (Or.inl hcloses),
        second.ended hended⟩
    · rcases second.notified hmem with ⟨howner, hcloses, hended⟩
      exact ⟨first.owner ▸ howner, List.mem_append.mpr (Or.inr hcloses),
        hended⟩

theorem Quiet.in_turn {world : World ThreadId}
    {call : Call (World ThreadId) TcpConnection.Event}
    {second : World ThreadId -> Call (World ThreadId) TcpConnection.Event}
    (hcall : Yields call (Quiet closing world))
    (hsecond : forall mid, Yields (second mid) (Quiet closing mid)) :
    Yields (Then call second) (Quiet closing world) :=
  Yields.in_turn (hcall.mono (fun mid _ hmid =>
    (hsecond mid).mono (fun _ _ hnext => hmid.trans hnext)))

theorem Effect.update {world : World ThreadId} {conn : TcpConnection}
    {es : List TcpConnection.Event}
    (howner : conn.closeCallback_ = world.conn.closeCallback_)
    (hchannel : world.conn.socketChannel_.Adjusts conn.socketChannel_)
    (hcloses : ¬Closes es) :
    Effect closing world { world with conn := conn } es := by
  refine ⟨Nat.le_refl _, ⟨[], by simp⟩, Nat.le_refl _, fun _ => rfl, rfl,
    howner, fun h => absurd h hcloses, fun h => absurd h hcloses, ?_, ?_⟩
  · rcases hchannel with hsame | ⟨hregistered, _⟩
    · rw [hsame]
      exact fun h => Or.inl h
    · exact fun _ => Or.inl hregistered
  · rcases hchannel with hsame | ⟨_, hmasked⟩
    · rw [hsame]
      exact fun h => h
    · exact hmasked

def Plain (es : List TcpConnection.Event) : Prop :=
  forall callback, TcpConnection.Event.called callback ∉ es

theorem Quiet.update {world : World ThreadId} {conn : TcpConnection}
    {es : List TcpConnection.Event}
    (howner : conn.closeCallback_ = world.conn.closeCallback_)
    (hchannel : world.conn.socketChannel_.Adjusts conn.socketChannel_)
    (hended : Ended world -> Ended { world with conn := conn })
    (hplain : Plain es) :
    Quiet closing world { world with conn := conn } es :=
  ⟨Effect.update howner hchannel (hplain _), hended, hplain _,
    fun h => absurd h (hplain _)⟩

theorem Quiet.emit (world : World ThreadId) {es : List TcpConnection.Event}
    (hplain : Plain es) : Quiet closing world world es :=
  Quiet.update rfl (Or.inl rfl) (fun h => h) hplain

theorem Quiet.queueInLoop (world : World ThreadId) (functor : Functor) :
    Quiet closing world (TcpConnection.QueueInLoop world functor) [] :=
  ⟨⟨Nat.le_refl _, ⟨[functor], rfl⟩, Nat.le_refl _, fun _ => rfl, rfl, rfl,
    by simp [Closes], by simp [Closes], fun h => Or.inl h, fun h => h⟩,
    fun h => h, by simp, by simp [Notifies]⟩

theorem invoke_effect (world : World ThreadId) {callback : Callback}
    (frame : Frame) (hclose : callback ≠ Callback.close) :
    Yields (TcpConnection.Invoke world callback frame)
      (Effect closing world) := by
  have hcloses : ¬Closes [TcpConnection.Event.called callback] := by
    simpa [Closes] using Ne.symm hclose
  exact yields_ok.mpr ⟨by simp, ⟨[], by simp⟩, Nat.le_refl _, fun _ => rfl,
    rfl, rfl, fun h => absurd h hcloses, fun h => absurd h hcloses,
    fun h => Or.inl h, fun h => h⟩

theorem invoke_quiet (world : World ThreadId) {callback : Callback}
    (frame : Frame) (hclose : callback ≠ Callback.close)
    (hmessage : callback ≠ Callback.message)
    (hnotice : callback ≠ Callback.connection States.kDisconnected) :
    Yields (TcpConnection.Invoke world callback frame)
      (Quiet closing world) := by
  have heffect : Yields (TcpConnection.Invoke world callback frame)
      (Effect closing world) := invoke_effect world frame hclose
  intro next es hcall
  refine ⟨heffect next es hcall, ?_, ?_, ?_⟩
  · cases hcall
    exact fun h => h
  · cases hcall
    simpa using Ne.symm hmessage
  · cases hcall
    simp [Notifies, Ne.symm hnotice]

theorem store_quiet (world : World ThreadId) {state_ : States}
    (hstate : state_ = States.kDisconnecting ∨
      state_ = States.kDisconnected) :
    Yields (TcpConnection.Store world state_) (Quiet closing world) :=
  yields_ok.mpr (Quiet.update rfl (Or.inl rfl)
    (fun hended => ⟨hstate, hended.2⟩) (by simp [Plain]))

/-!
# Sending
-/

theorem appendRemaining_quiet (world : World ThreadId)
    (remaining : List Byte) {es : List TcpConnection.Event}
    (hplain : Plain es) :
    Quiet closing world (TcpConnection.AppendRemaining world remaining) es := by
  have hchannel : forall channel : Channel, channel.Adjusts
      (if channel.IsWriting then channel else channel.EnableWriting) := by
    intro channel
    split
    · exact Or.inl rfl
    · exact channel.adjusts_enableWriting
  have hreading : forall channel : Channel,
      (if channel.IsWriting then channel
        else channel.EnableWriting).IsReading = channel.IsReading := by
    intro channel
    split <;> simp
  have hended : forall more, Ended world -> Ended { world with
      pendingFunctors_ := world.pendingFunctors_ ++ more
      conn := { world.conn with
        outputBuffer_ := world.conn.outputBuffer_.Append remaining
        socketChannel_ :=
          if world.conn.socketChannel_.IsWriting then
            world.conn.socketChannel_
          else world.conn.socketChannel_.EnableWriting } } :=
    fun _ h => ⟨h.1, (hreading _).trans h.2⟩
  unfold TcpConnection.AppendRemaining
  dsimp only
  split
  · exact (Quiet.queueInLoop world _).trans
      (Quiet.update rfl (hchannel _) (hended _) hplain)
  · exact Quiet.update rfl (hchannel _)
      (fun h => ⟨h.1, (hreading _).trans h.2⟩) hplain

theorem directWrite_quiet (world : World ThreadId) (data : List Byte)
    (result : WriteResult) :
    Yields (TcpConnection.DirectWrite world data result)
      (Quiet closing world) := by
  unfold TcpConnection.DirectWrite
  split
  · split
    · dsimp only
      split
      · refine Quiet.in_turn (yields_ok.mpr (Quiet.emit world ?_)) ?_
        · simp [Plain]
        · exact fun mid =>
          invoke_quiet mid _ (by decide) (by decide) (by decide)
      · exact yields_ok.mpr (appendRemaining_quiet world _ (by simp [Plain]))
    · exact yields_error
  · exact yields_error
  · exact yields_ok.mpr (appendRemaining_quiet world _ (by simp [Plain]))

theorem sendInLoop_quiet (world : World ThreadId) (data : List Byte)
    (result : WriteResult) :
    Yields (TcpConnection.SendInLoop world data result)
      (Quiet closing world) := by
  unfold TcpConnection.SendInLoop
  split
  · exact yields_ok.mpr (Quiet.refl world)
  · split
    · exact Quiet.in_turn
        (yields_ok.mpr (Quiet.emit world (by simp [Plain])))
        (fun mid => directWrite_quiet mid data result)
    · exact yields_ok.mpr (appendRemaining_quiet world _ (by simp [Plain]))

theorem send_quiet (world : World ThreadId) (data : List Byte)
    (result : WriteResult) :
    Yields (TcpConnection.Send world data result) (Quiet closing world) := by
  unfold TcpConnection.Send
  split
  · exact yields_ok.mpr (Quiet.refl world)
  · exact sendInLoop_quiet world data result

/-!
# Reading on and off
-/

theorem startReadInLoop_effect (world : World ThreadId) :
    Effect closing world (TcpConnection.StartReadInLoop world) [] := by
  unfold TcpConnection.StartReadInLoop
  split
  · exact Effect.update rfl (Channel.adjusts_enableReading _)
      (by simp [Closes])
  · exact Effect.refl world

theorem stopReadInLoop_quiet (world : World ThreadId) :
    Quiet closing world (TcpConnection.StopReadInLoop world) [] := by
  unfold TcpConnection.StopReadInLoop
  split
  · refine Quiet.update rfl (Channel.adjusts_disableReading _) ?_
      (by simp [Plain])
    exact fun hended => ⟨hended.1, Channel.isReading_disableReading _⟩
  · exact Quiet.refl world

/-!
# Closing
-/

theorem shutdownInLoop_quiet (world : World ThreadId) :
    Yields (TcpConnection.ShutdownInLoop world) (Quiet closing world) := by
  unfold TcpConnection.ShutdownInLoop
  split <;> exact yields_ok.mpr (Quiet.emit world (by simp [Plain]))

theorem shutdown_quiet (world : World ThreadId) :
    Yields (TcpConnection.Shutdown world) (Quiet closing world) := by
  unfold TcpConnection.Shutdown
  split
  · refine Quiet.in_turn
      (yields_ok.mpr (Quiet.emit world (by simp [Plain]))) (fun mid => ?_)
    exact Quiet.in_turn (store_quiet mid (Or.inl rfl)) shutdownInLoop_quiet
  · exact yields_ok.mpr (Quiet.refl world)

theorem connectionDestroyed_yields (world : World ThreadId) :
    Yields (TcpConnection.ConnectionDestroyed world) (fun next es =>
      world.conn.state_ = States.kDisconnected ∧
      next = { world with
        conn := { world.conn with
          socketChannel_ := { events_ := Channel.kNoneEvent
                              registeredToPoller := false } }
        stack := Frame.callback :: world.stack } ∧
      es = [TcpConnection.Event.called
        (Callback.connection States.kDisconnected)]) := by
  unfold TcpConnection.ConnectionDestroyed
  refine Yields.assert (fun hstate => ?_)
  rw [Channel.removeFromPoller_disableAll]
  exact yields_ok.mpr ⟨hstate, rfl, by rw [hstate]⟩

theorem invokeCloseCallback_quiet (world : World ThreadId) :
    Yields (TcpConnection.InvokeCloseCallback world) (Quiet True world) := by
  unfold TcpConnection.InvokeCloseCallback
  refine Yields.in_turn (yields_ok.mpr ?_)
  split
  · rename_i howner
    refine (connectionDestroyed_yields world).mono ?_
    intro next es hanswer
    rcases hanswer with ⟨hstate, rfl, rfl⟩
    refine ⟨⟨by simp, ⟨[], by simp⟩, Nat.le_refl _, fun _ => rfl, rfl, rfl,
      fun _ => trivial, ?_, ?_, fun _ => Channel.masked_none false⟩, ?_,
      by simp, ?_⟩
    · exact fun _ => Or.inl (by simp)
    · exact fun _ => Or.inr ⟨howner, by simp [Closes]⟩
    · exact fun _ => ⟨Or.inr hstate, by simp [Channel.IsReading,
        Channel.kNoneEvent]⟩
    · exact fun _ => ⟨howner, by simp [Closes], Or.inr hstate,
        by simp [Channel.IsReading, Channel.kNoneEvent]⟩
  · rename_i howner
    refine yields_ok.mpr ⟨⟨Nat.le_refl _, ⟨[], by simp⟩, by simp,
      by simp [howner], rfl, rfl, fun _ => trivial, ?_, fun h => Or.inl h,
      fun h => h⟩, fun h => h, by simp, by simp [Notifies]⟩
    exact fun _ => Or.inr ⟨howner, by simp⟩

theorem handleClose_quiet (world : World ThreadId) :
    Yields (TcpConnection.HandleClose world) (Quiet True world) := by
  unfold TcpConnection.HandleClose
  refine Yields.assert (fun _ => ?_)
  refine Quiet.in_turn (yields_ok.mpr ?_) (fun mid => ?_)
  · exact Quiet.update rfl (Channel.adjusts_disableAll _)
      (fun hended => ⟨hended.1, Channel.isReading_disableAll _⟩)
      (by simp [Plain])
  · exact Quiet.in_turn (store_quiet mid (Or.inr rfl))
      invokeCloseCallback_quiet

theorem forceCloseInLoop_quiet (world : World ThreadId) :
    Yields (TcpConnection.ForceCloseInLoop world) (Quiet True world) := by
  unfold TcpConnection.ForceCloseInLoop
  split
  · exact handleClose_quiet world
  · exact yields_ok.mpr (Quiet.refl world)

theorem forceClose_quiet (world : World ThreadId) :
    Yields (TcpConnection.ForceClose world) (Quiet True world) := by
  unfold TcpConnection.ForceClose
  split
  · exact Quiet.in_turn (store_quiet world (Or.inl rfl))
      forceCloseInLoop_quiet
  · exact yields_ok.mpr (Quiet.refl world)

/-!
# Events of the loop
-/

theorem connectionEstablished_quiet (world : World ThreadId) :
    Yields (TcpConnection.ConnectionEstablished world)
      (Quiet closing world) := by
  unfold TcpConnection.ConnectionEstablished
  refine Yields.assert (fun hstate => ?_)
  refine Yields.in_turn (yields_ok.mpr ?_)
  have hstored : Quiet closing world { world with
      conn := { world.conn with
        socketChannel_ := world.conn.socketChannel_.EnableReading
        state_ := States.kConnected } }
      [TcpConnection.Event.stored world.conn.state_ States.kConnected] := by
    refine Quiet.update rfl (Channel.adjusts_enableReading _) ?_
      (by simp [Plain])
    intro hboth
    rcases hboth with ⟨hclosing | hclosed, _⟩
    · simp [hstate] at hclosing
    · simp [hstate] at hclosed
  exact (invoke_quiet _ _ (by simp) (by simp) (by simp)).mono
    (fun _ _ hnext => hstored.trans hnext)

structure Reads (world next : World ThreadId)
    (es : List TcpConnection.Event) : Prop extends
    Effect False world next es where
  message : es = [TcpConnection.Event.called Callback.message]
  ended : Ended world -> Ended next

theorem invoke_message (world : World ThreadId) :
    Yields (TcpConnection.Invoke world Callback.message Frame.callback)
      (Reads world) := by
  have heffect : Yields (TcpConnection.Invoke world Callback.message
      Frame.callback) (Effect False world) :=
    invoke_effect world Frame.callback (by decide)
  exact yields_ok.mpr ⟨yields_ok.mp heffect, rfl, fun h => h⟩

theorem Reads.after {world mid next : World ThreadId}
    {es : List TcpConnection.Event} (h : Reads mid next es)
    (hmid : Quiet False world mid []) : Reads world next es :=
  ⟨hmid.toEffect.trans h.toEffect, h.message,
    fun hended => h.ended (hmid.ended hended)⟩

theorem handleRead_spec (world : World ThreadId) (result : ReadResult) :
    Yields (TcpConnection.HandleRead world result) (fun next es =>
      Quiet True world next es ∨ Reads world next es) := by
  unfold TcpConnection.HandleRead
  split
  · exact yields_ok.mpr (Or.inl (Quiet.refl world))
  · split
    · exact yields_error
    · rename_i inputBuffer_ _
      have hfilled : forall closing, Quiet closing world { world with
          conn := { world.conn with inputBuffer_ := inputBuffer_ } } [] :=
        fun _ => Quiet.update rfl (Or.inl rfl) (fun h => h)
          (by simp [Plain])
      dsimp only
      split
      · exact (handleClose_quiet _).mono
          (fun _ _ hnext => Or.inl ((hfilled True).trans hnext))
      · split
        · exact (invoke_message _).mono
            (fun _ _ hnext => Or.inr (hnext.after (hfilled False)))
        · exact yields_ok.mpr (Or.inl (hfilled True))

theorem handleWriteCompleted_quiet (world : World ThreadId) :
    Yields (TcpConnection.HandleWriteCompleted world)
      (Quiet closing world) := by
  unfold TcpConnection.HandleWriteCompleted
  split
  · exact shutdownInLoop_quiet world
  · exact yields_ok.mpr (Quiet.refl world)

theorem return_quiet {world : World ThreadId} {frame : Frame}
    {rest : List Frame} (hstack : world.stack = frame :: rest) :
    Yields (TcpConnection.Return world)
      (Quiet closing { world with stack := rest }) := by
  unfold TcpConnection.Return
  rw [hstack]
  cases frame with
  | callback => exact yields_ok.mpr (Quiet.refl _)
  | writeCompleteOfHandleWrite => exact handleWriteCompleted_quiet _

theorem handleWritten_quiet (world : World ThreadId) :
    Yields (TcpConnection.HandleWritten world) (Quiet closing world) := by
  unfold TcpConnection.HandleWritten
  split
  · split
    · exact invoke_quiet world _ (by decide) (by decide) (by decide)
    · exact handleWriteCompleted_quiet world
  · exact yields_ok.mpr (Quiet.refl world)

theorem handleWrite_quiet (world : World ThreadId) (result : WriteResult) :
    Yields (TcpConnection.HandleWrite world result) (Quiet closing world) := by
  unfold TcpConnection.HandleWrite
  split
  · exact yields_ok.mpr (Quiet.refl world)
  · split
    · exact yields_ok.mpr (Quiet.refl world)
    · split
      · split
        · split
          · exact yields_error
          · refine Quiet.in_turn (yields_ok.mpr ?_) handleWritten_quiet
            refine Quiet.update rfl ?_ ?_ (by simp [Plain])
            · dsimp only
              split
              · exact Channel.adjusts_disableWriting _
              · exact Or.inl rfl
            · refine fun hended => ⟨hended.1, ?_⟩
              dsimp only
              split
              · exact (Channel.isReading_disableWriting _).trans hended.2
              · exact hended.2
        · exact yields_ok.mpr (Quiet.refl world)
      · exact yields_error

/-!
# Calls of user code
-/

theorem callApi_quiet (world : World ThreadId) {api : Api}
    (hstart : api ≠ Api.startRead) :
    Yields (TcpConnection.CallApi world api)
      (Quiet (api = Api.forceClose) world) := by
  have hset : forall conn : TcpConnection,
      conn.closeCallback_ = world.conn.closeCallback_ ->
      conn.socketChannel_ = world.conn.socketChannel_ ->
      conn.state_ = world.conn.state_ ->
      Quiet (api = Api.forceClose) world { world with conn := conn } [] := by
    intro conn howner hchannel hstate
    refine Quiet.update howner (Or.inl hchannel) ?_ (by simp [Plain])
    simp [Ended, hchannel, hstate]
  cases api with
  | send data result => exact send_quiet world data result
  | shutdown => exact shutdown_quiet world
  | forceClose =>
      rw [eq_self_iff_true]
      exact forceClose_quiet world
  | startRead => exact absurd rfl hstart
  | stopRead => exact yields_ok.mpr (stopReadInLoop_quiet world)
  | setWriteCompleteCallback set => exact yields_ok.mpr (hset _ rfl rfl rfl)
  | setMessageCallback set => exact yields_ok.mpr (hset _ rfl rfl rfl)
  | setHighWaterMarkCallback set => exact yields_ok.mpr (hset _ rfl rfl rfl)
  | setHighWaterMark highWaterMark =>
      exact yields_ok.mpr (hset _ rfl rfl rfl)
  | retrieve len =>
      unfold TcpConnection.CallApi
      dsimp only
      split
      · exact yields_error
      · exact yields_ok.mpr (hset _ rfl rfl rfl)

theorem callApi_effect (world : World ThreadId) (api : Api) :
    Yields (TcpConnection.CallApi world api)
      (Effect (api = Api.forceClose) world) := by
  by_cases hstart : api = Api.startRead
  · subst hstart
    exact yields_ok.mpr (startReadInLoop_effect world)
  · exact (callApi_quiet world hstart).mono (fun _ _ h => h.toEffect)

/-!
# Functors
-/

theorem runFunctor_quiet {world : World ThreadId} {functor : Functor}
    {rest : List Functor} (hfunctors : world.pendingFunctors_ =
      functor :: rest) (result : WriteResult)
    (hstart : functor ≠ Functor.startReadInLoop)
    (hdestroyed : functor ≠ Functor.connectionDestroyed) :
    Yields (TcpConnection.RunFunctor world result)
      (Quiet True { world with pendingFunctors_ := rest }) := by
  unfold TcpConnection.RunFunctor
  rw [hfunctors]
  cases functor with
  | connectionEstablished => exact connectionEstablished_quiet _
  | sendInLoop data => exact sendInLoop_quiet _ data result
  | startReadInLoop => exact absurd rfl hstart
  | stopReadInLoop => exact yields_ok.mpr (stopReadInLoop_quiet _)
  | shutdownInLoop => exact shutdownInLoop_quiet _
  | forceCloseInLoop => exact forceCloseInLoop_quiet _
  | highWaterMarkCallback bytes =>
      exact invoke_quiet _ _ (by simp) (by simp) (by simp)
  | connectionDestroyed => exact absurd rfl hdestroyed

theorem runFunctor_effect {world : World ThreadId} {functor : Functor}
    {rest : List Functor} (hfunctors : world.pendingFunctors_ =
      functor :: rest) (result : WriteResult)
    (hdestroyed : functor ≠ Functor.connectionDestroyed) :
    Yields (TcpConnection.RunFunctor world result)
      (Effect True { world with pendingFunctors_ := rest }) := by
  by_cases hstart : functor = Functor.startReadInLoop
  · subst hstart
    unfold TcpConnection.RunFunctor
    rw [hfunctors]
    exact yields_ok.mpr (startReadInLoop_effect _)
  · exact (runFunctor_quiet hfunctors result hstart hdestroyed).mono
      (fun _ _ h => h.toEffect)

end Ownership
end Net
end Wethands
