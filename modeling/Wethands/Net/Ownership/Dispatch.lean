import Wethands.Net.Ownership.References

/-!
# The channel among the active ones

What a step does to the event of the channel, and when the channel stays with
the poller.
-/

namespace Wethands
namespace Net

open Foundation Reactor

namespace Ownership

open TcpConnection (World Functor Frame Caller Callback CloseCallback States
  ReadResult WriteResult Api RemoteApi)

variable {ThreadId : Type} {closing : Prop} {owned : Owned ThreadId}

def Dispatch.Handling : Dispatch -> Bool
  | handling _ _ => true
  | _ => false

def Dispatches (owned next : Owned ThreadId) : Input ThreadId -> Prop
  | Input.poll revents =>
      owned.dispatch = Dispatch.idle ∧
        next.dispatch = Dispatch.ahead revents ∧
        owned.world.conn.socketChannel_.registeredToPoller = true ∧
        Reports revents owned.world.conn.socketChannel_.events_ ∧
        next.world = owned.world
  | Input.handleEvent _ _ =>
      0 < References owned ∧
        exists revents, owned.dispatch = Dispatch.ahead revents ∧
          next.dispatch.Handling = true
  | Input.resume _ _ => owned.dispatch.Handling = true ∧
      forall revents, next.dispatch ≠ Dispatch.ahead revents
  | _ => next.dispatch = owned.dispatch

theorem within_dispatch
    (call : Call (World ThreadId) TcpConnection.Event) :
    Yields (Within owned call)
      (fun next _ => next.dispatch = owned.dispatch) := by
  unfold Within
  split
  · exact yields_error
  · exact yields_ok.mpr rfl

theorem test_dispatch (revents : BitVec 32) (branch : Branch)
    (left : List Branch) (read : ReadResult) (write : WriteResult) :
    Yields (Test owned revents branch left read write)
      (fun next _ => next.dispatch = Dispatch.handling revents left) := by
  unfold Test
  dsimp only
  split
  · exact within_dispatch _
  · exact yields_ok.mpr rfl

section Threads

variable [DecidableEq ThreadId]

theorem act_dispatch (owned : Owned ThreadId) (i : Input ThreadId) :
    Yields (Act owned i) (fun next _ => Dispatches owned next i) := by
  cases i with
  | api api => exact yields_when (fun _ => within_dispatch _)
  | returns => exact yields_return (fun _ _ _ => within_dispatch _)
  | keep tid => exact yields_when (fun _ => yields_ok.mpr rfl)
  | drop tid => exact yields_when (fun _ => yields_ok.mpr rfl)
  | poll revents =>
      exact yields_when (fun hpoll => yields_ok.mpr
        ⟨hpoll.1.2.1, rfl, hpoll.2.1, hpoll.2.2, rfl⟩)
  | handleEvent read write =>
      refine yields_when (fun _ => yields_handleEvent ?_)
      intro revents hdispatch halive
      refine (test_dispatch revents _ _ read write).mono ?_
      intro next es hnext
      exact ⟨halive, revents, hdispatch, by rw [hnext]; rfl⟩
  | resume read write =>
      refine yields_when (fun _ => yields_resume ?_ ?_)
      · intro revents _ hdispatch
        exact ⟨by rw [hdispatch]; rfl, by simp⟩
      · intro revents branch left _ hdispatch
        refine (test_dispatch revents branch left read write).mono ?_
        intro next es hnext
        exact ⟨by rw [hdispatch]; rfl, by simp [hnext]⟩
  | swap => exact yields_when (fun _ => yields_ok.mpr rfl)
  | runFunctor result =>
      exact yields_when (fun _ => yields_runFunctor
        (fun _ _ _ _ _ _ _ => within_dispatch _))
  | drained =>
      exact yields_when (fun _ => yields_drained (fun _ _ => rfl))
  | removeConnectionInLoop =>
      unfold Act RemoveConnectionInLoop
      refine Yields.in_turn ((within_dispatch _).mono ?_)
      exact fun next es hnext => yields_ok.mpr hnext
  | serverDrained => exact yields_when (fun _ => yields_ok.mpr rfl)
  | remoteCall tid api => exact yields_when (fun _ => within_dispatch _)
  | remoteNext tid => exact within_dispatch _

end Threads

/-!
# The calls behind an input
-/

inductive Makes [DecidableEq ThreadId] (owned : Owned ThreadId) :
    Input ThreadId -> Call (World ThreadId) TcpConnection.Event -> Prop where
  | api (api : Api) :
      Makes owned (Input.api api) (TcpConnection.CallApi owned.world api)
  | returns {frame : Frame} {rest : List Frame}
      (hstack : owned.world.stack = frame :: rest) :
      Makes owned Input.returns (TcpConnection.Return owned.world)
  | handleEvent (read : ReadResult) (write : WriteResult) (branch : Branch) :
      Makes owned (Input.handleEvent read write)
        (RunBranch owned.world read write branch)
  | resume (read : ReadResult) (write : WriteResult) (branch : Branch) :
      Makes owned (Input.resume read write)
        (RunBranch owned.world read write branch)
  | runFunctor (result : WriteResult) {drain : Drain} {functor : Functor}
      {rest : List Functor} (hdrain : owned.drain = some drain)
      (hfunctors : owned.world.pendingFunctors_ = functor :: rest) :
      Makes owned (Input.runFunctor result)
        (TcpConnection.RunFunctor owned.world result)
  | removeConnectionInLoop :
      Makes owned Input.removeConnectionInLoop
        (TcpConnection.RemoveConnectionInLoop owned.world)
  | remoteCall (tid : ThreadId) (api : RemoteApi) :
      Makes owned (Input.remoteCall tid api)
        (TcpConnection.RemoteCall owned.world tid api)
  | remoteNext (tid : ThreadId) :
      Makes owned (Input.remoteNext tid)
        (TcpConnection.RemoteNext owned.world tid)

def Event.OfConnection : Event -> Option TcpConnection.Event
  | conn e => some e
  | _ => none

theorem ofConnection_map (es : List TcpConnection.Event) :
    (es.map Event.conn).filterMap Event.OfConnection = es := by
  rw [List.filterMap_map]
  exact List.filterMap_some

section Calls

variable {P : World ThreadId -> List TcpConnection.Event -> Prop}

theorem within_world {call : Call (World ThreadId) TcpConnection.Event}
    (hcall : Yields call P) :
    Yields (Within owned call) (fun next es =>
      P next.world (es.filterMap Event.OfConnection)) := by
  unfold Within
  split
  · exact yields_error
  · refine yields_ok.mpr ?_
    rw [ofConnection_map]
    exact yields_ok.mp hcall

theorem test_cases {revents : BitVec 32} {branch : Branch}
    {left : List Branch} {read : ReadResult} {write : WriteResult}
    (hstill : revents &&& branch.Mask = 0 -> P owned.world [])
    (hcall : revents &&& branch.Mask ≠ 0 ->
      Yields (RunBranch owned.world read write branch) P) :
    Yields (Test owned revents branch left read write) (fun next es =>
      P next.world (es.filterMap Event.OfConnection)) := by
  unfold Test
  dsimp only
  split
  · exact within_world (hcall ‹_›)
  · rename_i hmask
    exact yields_ok.mpr (hstill (not_not.mp hmask))

theorem act_world [DecidableEq ThreadId] {i : Input ThreadId}
    (hstill : P owned.world [])
    (hmakes : forall call, Makes owned i call -> Yields call P) :
    Yields (Act owned i) (fun next es =>
      P next.world (es.filterMap Event.OfConnection)) := by
  have hidle : forall (p : Prop) [Decidable p] (next : Owned ThreadId),
      next.world = owned.world -> Yields (When p (Except.ok (next, [])))
        (fun next es => P next.world (es.filterMap Event.OfConnection)) := by
    intro p _ next hsame
    apply yields_when
    intro _
    refine yields_ok.mpr ?_
    rw [hsame]
    exact hstill
  cases i with
  | api api =>
      exact yields_when (fun _ => within_world (hmakes _ (Makes.api api)))
  | returns =>
      apply yields_return
      intro frame rest hstack
      exact within_world (hmakes _ (Makes.returns hstack))
  | keep tid => exact hidle _ _ rfl
  | drop tid => exact hidle _ _ rfl
  | poll revents => exact hidle _ _ rfl
  | handleEvent read write =>
      apply yields_when
      intro _
      apply yields_handleEvent
      intro revents _ _
      exact test_cases (fun _ => hstill)
        (fun _ => hmakes _ (Makes.handleEvent read write _))
  | resume read write =>
      apply yields_when
      intro _
      apply yields_resume
      · exact fun _ _ _ => hstill
      · intro revents branch left _ _
        exact test_cases (fun _ => hstill)
          (fun _ => hmakes _ (Makes.resume read write branch))
  | swap => exact hidle _ _ rfl
  | runFunctor result =>
      apply yields_when
      intro _
      apply yields_runFunctor
      intro left ran functor rest hdrain hfunctors _
      exact within_world (hmakes _ (Makes.runFunctor result hdrain hfunctors))
  | drained =>
      exact yields_when (fun _ => yields_drained (fun _ _ => hstill))
  | removeConnectionInLoop =>
      unfold Act RemoveConnectionInLoop
      apply Yields.in_turn
      refine (within_world (hmakes _ Makes.removeConnectionInLoop)).mono ?_
      intro next es hnext
      refine yields_ok.mpr ?_
      rw [List.append_nil]
      exact hnext
  | serverDrained => exact hidle _ _ rfl
  | remoteCall tid api =>
      exact yields_when
        (fun _ => within_world (hmakes _ (Makes.remoteCall tid api)))
  | remoteNext tid => exact within_world (hmakes _ (Makes.remoteNext tid))

end Calls

/-!
# Registration
-/

/-- Inputs whose code may close the connection. -/
def MayClose : Input ThreadId -> Prop
  | Input.api api => api = Api.forceClose
  | Input.handleEvent _ _ => True
  | Input.resume _ _ => True
  | _ => False

def Registered (owned : Owned ThreadId) : Prop :=
  owned.world.conn.socketChannel_.registeredToPoller = true

theorem registered_of_effect
    {call : Call (World ThreadId) TcpConnection.Event} {world : World ThreadId}
    (hcall : Yields call (Effect closing world))
    (hregistered : world.conn.socketChannel_.registeredToPoller = true)
    (hclosing : world.conn.closeCallback_ = CloseCallback.sameLoop ->
      ¬closing) :
    Yields call (fun next _ =>
      next.conn.socketChannel_.registeredToPoller = true) := by
  refine hcall.mono (fun next es heffect => ?_)
  rcases heffect.registered hregistered with hnext | ⟨hsame, hcloses⟩
  · exact hnext
  · exact absurd (heffect.closes hcloses) (hclosing hsame)

theorem registered_of_channel
    {call : Call (World ThreadId) TcpConnection.Event} {world : World ThreadId}
    (hcall : Yields call (fun next _ =>
      next.conn.socketChannel_ = world.conn.socketChannel_))
    (hregistered : world.conn.socketChannel_.registeredToPoller = true) :
    Yields call (fun next _ =>
      next.conn.socketChannel_.registeredToPoller = true) := by
  refine hcall.mono (fun next es hchannel => ?_)
  rw [hchannel]
  exact hregistered

section Threads

variable [DecidableEq ThreadId]

theorem remoteCall_channel (world : World ThreadId) (tid : ThreadId)
    (api : RemoteApi) :
    Yields (TcpConnection.RemoteCall world tid api)
      (fun next _ => next.conn.socketChannel_ =
        world.conn.socketChannel_) := by
  unfold TcpConnection.RemoteCall
  split
  · split <;> exact yields_ok.mpr rfl
  · split <;> exact yields_ok.mpr rfl
  · split <;> exact yields_ok.mpr rfl
  · exact yields_ok.mpr rfl
  · exact yields_ok.mpr rfl

theorem remoteNext_channel (world : World ThreadId) (tid : ThreadId) :
    Yields (TcpConnection.RemoteNext world tid)
      (fun next _ => next.conn.socketChannel_ =
        world.conn.socketChannel_) := by
  unfold TcpConnection.RemoteNext
  split
  · exact yields_error
  all_goals exact yields_ok.mpr rfl

theorem makes_registered {i : Input ThreadId}
    {call : Call (World ThreadId) TcpConnection.Event}
    (hregistered : Registered owned) (hnone : owned.drain = none)
    (hclosing : owned.world.conn.closeCallback_ = CloseCallback.sameLoop ->
      ¬MayClose i) (hmakes : Makes owned i call) :
    Yields call (fun next _ =>
      next.conn.socketChannel_.registeredToPoller = true) := by
  cases hmakes with
  | api api =>
      exact registered_of_effect (callApi_effect owned.world api) hregistered
        hclosing
  | returns hstack =>
      exact registered_of_effect (return_effect hstack) hregistered
        (fun _ hfalse => hfalse)
  | handleEvent read write branch =>
      exact registered_of_effect (runBranch_effect owned.world read write
        branch) hregistered hclosing
  | resume read write branch =>
      exact registered_of_effect (runBranch_effect owned.world read write
        branch) hregistered hclosing
  | runFunctor result hdrain hfunctors =>
      rw [hnone] at hdrain
      cases hdrain
  | removeConnectionInLoop =>
      unfold TcpConnection.RemoveConnectionInLoop
      split
      · exact yields_error
      · exact yields_ok.mpr hregistered
  | remoteCall tid api =>
      exact registered_of_channel (remoteCall_channel owned.world tid api)
        hregistered
  | remoteNext tid =>
      exact registered_of_channel (remoteNext_channel owned.world tid)
        hregistered

theorem act_registered (hregistered : Registered owned)
    (hdrain : owned.drain = none) {i : Input ThreadId}
    (hclosing : owned.world.conn.closeCallback_ = CloseCallback.sameLoop ->
      ¬MayClose i) :
    Yields (Act owned i) (fun next _ => Registered next) :=
  act_world (P := fun next _ =>
      next.conn.socketChannel_.registeredToPoller = true) hregistered
    (fun _ hmakes => makes_registered hregistered hdrain hclosing hmakes)

end Threads

end Ownership
end Net
end Wethands
