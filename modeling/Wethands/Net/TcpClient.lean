import Wethands.Net.Connector.Attempt
import Wethands.Net.Connector.Finished

/-!
# Clients

A client has a connector and its last connection.  When a connection closes,
the client gives it up and tests `retry_`, and `Restart` of the connector makes
no difference between a client that was stopped and one that was not.
-/

namespace Wethands
namespace Net

open Foundation Utils Reactor

namespace TcpClient

inductive Event where
  | connectCalled
  | stopCalled
  | connector (event : Connector.Event)
  | newConnection (conn : Nat)
  | handleClose (conn : Nat)
deriving DecidableEq

end TcpClient

open TcpClient

/--
`world` is the connector with its loop, a pointer to a connection is its number,
and `closing` counts the calls of `HandleClose` that are within
`ConnectionDestroyed`.  `stopCalled` tells that `Stop` was called and `Connect`
was not called since.
-/
structure TcpClient where
  world : Connector.World
  connection_ : Option Nat
  count_ : Nat
  retry_ : Bool
  closing : Nat
  stopCalled : Bool

namespace TcpClient

def Init : TcpClient where
  world := Connector.Init true
  connection_ := none
  count_ := 0
  retry_ := false
  closing := 0
  stopCalled := false

/-!
# Member functions
-/

def OnConnector (client : TcpClient)
    (call : Call Connector.World Connector.Event) : Call TcpClient Event :=
  match call with
  | Except.error failure => Except.error failure
  | Except.ok (world, es) =>
      Except.ok ({ client with world := world }, es.map Event.connector)

/-- `Connect` on the loop thread. -/
def Connect (client : TcpClient) : Call TcpClient Event :=
  Then (Except.ok ({ client with stopCalled := false },
      [Event.connectCalled])) (fun client =>
    OnConnector client
      (Connector.StartInLoop { client.world with started := true }))

def RemoteConnect (client : TcpClient) : Call TcpClient Event :=
  Except.ok ({ client with
    world := { client.world with
      started := true
      functors := client.world.functors ++ [Connector.Functor.startInLoop] }
    stopCalled := false }, [Event.connectCalled])

/-- `Stop` on the loop thread. -/
def Stop (client : TcpClient) : Call TcpClient Event :=
  Then (Except.ok ({ client with stopCalled := true }, [Event.stopCalled]))
    (fun client => OnConnector client (Connector.Stop client.world))

def NewConnection (client : TcpClient) : Call TcpClient Event :=
  Then (OnConnector client (Connector.NewConnection client.world))
    (fun client => Except.ok ({ client with
      connection_ := some client.count_
      count_ := client.count_ + 1 }, [Event.newConnection client.count_]))

/-- `HandleClose` up to the callback of the user in `ConnectionDestroyed`. -/
def HandleClose (client : TcpClient) (conn : Nat) : Call TcpClient Event :=
  Except.ok ({ client with
    connection_ := none
    closing := client.closing + 1 }, [Event.handleClose conn])

/-- The rest of `HandleClose`. -/
def TestRetry (client : TcpClient) : Call TcpClient Event :=
  let client := { client with closing := client.closing - 1 }
  if client.retry_ then OnConnector client (Connector.Restart client.world)
  else Except.ok (client, [])

/-!
# Steps
-/

/--
A connection that was made may be closed wherever user code runs on the loop
thread, and nothing else of it matters here.
-/
inductive Input where
  | connect
  | remoteConnect
  | stop
  | remoteStop
  | remoteRunInLoop
  | setAutoRetry (on : Bool)
  | newConnection
  | handleClose (conn : Nat)
  | testRetry
  | connector (i : Connector.Input)

/-- What the loop does when no call is running. -/
def OfLoop : Connector.Input -> Bool
  | Connector.Input.runFunctor | Connector.Input.poll
  | Connector.Input.handleEvent _ _ _ | Connector.Input.resume
  | Connector.Input.runTimerFunctor | Connector.Input.handleRead
  | Connector.Input.runTimer | Connector.Input.restartOrDelete
  | Connector.Input.rearm => true
  | _ => false

def When (p : Prop) [Decidable p] (call : Call TcpClient Event) :
    Call TcpClient Event :=
  if p then call else Except.error Failure.impossible

section Clock

variable (clock : Nat -> Timestamp)

def Perform (client : TcpClient) : Input -> Call TcpClient Event
  | Input.connect =>
      When (client.world.control = Connector.Control.outside) client.Connect
  | Input.remoteConnect => client.RemoteConnect
  | Input.stop =>
      When (client.world.control = Connector.Control.outside) client.Stop
  | Input.remoteStop =>
      Then (Except.ok ({ client with stopCalled := true }, [Event.stopCalled]))
        (fun client => OnConnector client
          (Connector.Perform clock client.world Connector.Input.remoteStop))
  | Input.remoteRunInLoop =>
      OnConnector client
        (Connector.Perform clock client.world Connector.Input.remoteRunInLoop)
  | Input.setAutoRetry on => Except.ok ({ client with retry_ := on }, [])
  | Input.newConnection =>
      When (client.world.control = Connector.Control.handleWrite)
        client.NewConnection
  | Input.handleClose conn =>
      When (client.world.control = Connector.Control.outside ∧
        conn < client.count_) (client.HandleClose conn)
  | Input.testRetry =>
      When (client.world.control = Connector.Control.outside ∧
        0 < client.closing) client.TestRetry
  | Input.connector i =>
      When (i.Inner = true ∧ (OfLoop i = true -> client.closing = 0))
        (OnConnector client (Connector.Perform clock client.world i))

def ClientMachine : Machine TcpClient Input Event where
  Step client i := Answer (Perform clock client i)

end Clock

/-!
# What a step does to a client that was stopped
-/

def Quiet (es : List Event) : Prop :=
  Event.connector Connector.Event.connect ∉ es ∧
    forall conn, Event.newConnection conn ∉ es

/-- `StopInLoop` has run. -/
def Stopped : Event := Event.connector Connector.Event.stopInLoop

structure Reply (client next : TcpClient) (es : List Event) : Prop where
  again : Event.connectCalled ∈ es -> es = [Event.connectCalled]
  called : Event.connectCalled ∉ es ->
    Event.stopCalled ∈ es ∨ client.stopCalled = true -> next.stopCalled = true
  stored : next.stopCalled = true -> next.world.connector.stop_ = true
  finished : Event.connectCalled ∉ es -> next.stopCalled = true ->
    Connector.Finished client.world ∨ Stopped ∈ es ->
    Connector.Finished next.world ∧ Quiet es

/-- `stop_` is set while the client is stopped. -/
def Stored (client : TcpClient) : Prop :=
  client.stopCalled = true -> client.world.connector.stop_ = true

variable {client next : TcpClient} {es : List Event}

theorem onConnector_yields {call : Call Connector.World Connector.Event}
    {Q : TcpClient -> List Event -> Prop}
    (h : Yields call (fun world es =>
      Q { client with world := world } (es.map Event.connector))) :
    Yields (OnConnector client call) Q := by
  unfold OnConnector
  split
  · exact yields_error
  · exact yields_ok.mpr (h _ _ rfl)

theorem quiet_of_connector {events : List Connector.Event}
    (h : Connector.Event.connect ∉ events) :
    Quiet (events.map Event.connector) := by
  constructor
  · simpa using h
  · simp

theorem reply_respects {world : Connector.World}
    {events : List Connector.Event} (h : Stored client)
    (hrespects : Connector.Respects client.world world events) :
    Reply client { client with world := world }
      (events.map Event.connector) where
  again := by simp
  called := by simp
  stored := by
    intro hcalled
    rw [hrespects.stop]
    exact h hcalled
  finished := by
    intro _ hcalled hbefore
    have hdone := hrespects.finished (by
      rcases hbefore with hfinished | hstopped
      · exact Or.inl hfinished
      · exact Or.inr ⟨by simpa [Stopped] using hstopped, h hcalled⟩)
    exact ⟨hdone.1, quiet_of_connector hdone.2.1⟩

theorem reply_same (h : Stored client) (hworld : next.world = client.world)
    (hcalled : next.stopCalled = client.stopCalled)
    (hes : es = [] ∨ exists conn, es = [Event.handleClose conn]) :
    Reply client next es := by
  have hnone : Event.connectCalled ∉ es ∧ Event.stopCalled ∉ es ∧
      Stopped ∉ es ∧ Quiet es := by
    rcases hes with rfl | ⟨conn, rfl⟩ <;> simp [Stopped, Quiet]
  constructor
  · exact fun hmem => absurd hmem hnone.1
  · rintro _ (hmem | hbefore)
    · exact absurd hmem hnone.2.1
    · rw [hcalled, hbefore]
  · rw [hcalled, hworld]
    exact h
  · rintro _ _ (hfinished | hmem)
    · rw [hworld]
      exact ⟨hfinished, hnone.2.2.2⟩
    · exact absurd hmem hnone.2.2.1

theorem reply_connect (client : TcpClient) :
    Yields client.Connect (Reply client) := by
  apply Yields.in_turn
  rw [yields_ok]
  apply onConnector_yields
  unfold Connector.StartInLoop
  split
  · rw [yields_ok]
    constructor <;> simp
  · rw [yields_ok]
    constructor <;> simp

theorem reply_stop (houtside :
      client.world.control = Connector.Control.outside) :
    Yields client.Stop (Reply client) := by
  apply Yields.in_turn
  rw [yields_ok]
  apply onConnector_yields
  apply Yields.in_turn
  let mid := { client.world with connector := { client.world.connector with
    stop_ := true } }
  have hmid : mid.control = Connector.Control.outside := houtside
  refine (Connector.stopInLoop_yields hmid).mono (fun world es hworld => ?_)
  rcases hworld with ⟨rfl, hset, hfinished⟩
  rw [yields_ok]
  constructor
  · simp
  · simp
  · exact fun _ => hset
  · exact fun _ _ _ => ⟨hfinished rfl, by simp [Quiet]⟩

theorem reply_testRetry (h : Stored client)
    (hrespected :
      ¬(client.retry_ = true ∧ client.stopCalled = true)) :
    Yields client.TestRetry (Reply client) := by
  unfold TestRetry
  dsimp only
  split
  · rename_i hretry
    have hnot : ¬client.stopCalled = true :=
      fun hcalled => hrespected ⟨hretry, hcalled⟩
    apply onConnector_yields
    intro world es _
    constructor
    · simp
    · simp
    · exact fun hcalled => absurd hcalled hnot
    · exact fun _ hcalled => absurd hcalled hnot
  · exact yields_ok.mpr (reply_same h rfl rfl (Or.inl rfl))

theorem reply_newConnection (h : Stored client) (hcontrol :
      client.world.control = Connector.Control.handleWrite) :
    Yields client.NewConnection (Reply client) := by
  apply Yields.in_turn
  apply onConnector_yields
  rw [Connector.NewConnection, yields_ok, yields_ok]
  constructor
  · simp
  · simp
  · exact h
  · rintro _ _ (hfinished | hmem)
    · rw [hfinished.control] at hcontrol
      cases hcontrol
    · simp [Stopped] at hmem

/-- No `HandleClose` calls `Restart` for a client that was stopped. -/
def Respected (client : TcpClient) : Input -> Prop
  | Input.testRetry => ¬(client.retry_ = true ∧ client.stopCalled = true)
  | _ => True

instance (client : TcpClient) (i : Input) : Decidable (Respected client i) := by
  unfold Respected
  split <;> infer_instance

section Clock

variable {clock : Nat -> Timestamp}

theorem perform_reply (h : Stored client) (i : Input)
    (hrespected : Respected client i) :
    Yields (Perform clock client i) (Reply client) := by
  cases i with
  | connect => exact Yields.only_if (fun _ => reply_connect client)
  | remoteConnect =>
      rw [Perform, RemoteConnect, yields_ok]
      constructor <;> simp
  | stop => exact Yields.only_if (fun houtside => reply_stop houtside)
  | remoteStop =>
      rw [Perform]
      apply Yields.in_turn
      rw [yields_ok]
      apply onConnector_yields
      rw [Connector.Perform, yields_ok]
      constructor
      · simp
      · simp
      · simp
      · rintro _ _ (hfinished | hmem)
        · exact ⟨⟨rfl, hfinished.channel, hfinished.resting,
            hfinished.control⟩, by simp [Quiet]⟩
        · simp [Stopped] at hmem
  | remoteRunInLoop =>
      apply onConnector_yields
      apply Connector.yields_when
      intro _
      rw [yields_ok]
      constructor
      · simp
      · simp
      · exact h
      · rintro _ _ (hfinished | hmem)
        · exact ⟨⟨hfinished.stop, hfinished.channel, hfinished.resting,
            hfinished.control⟩, by simp [Quiet]⟩
        · simp [Stopped] at hmem
  | setAutoRetry on =>
      exact yields_ok.mpr (reply_same h rfl rfl (Or.inl rfl))
  | newConnection =>
      exact Yields.only_if (fun hcontrol => reply_newConnection h hcontrol)
  | handleClose conn =>
      apply Yields.only_if
      exact fun _ => yields_ok.mpr (reply_same h rfl rfl (Or.inr ⟨conn, rfl⟩))
  | testRetry =>
      exact Yields.only_if (fun _ => reply_testRetry h hrespected)
  | connector i =>
      apply Yields.only_if
      intro hboth
      rcases hboth with ⟨hinner, _⟩
      apply onConnector_yields
      exact (Connector.perform_respects hinner).mono
        (fun _ _ => reply_respects h)

/-!
# Runs
-/

/-- Behind a `Stop` that was executed, up to the next `Connect`. -/
def Final (world : Connector.World) (tr : List Event) : Prop :=
  forall before after, tr = before ++ Stopped :: after ->
    Since Event.stopCalled Event.connectCalled before ->
    Event.connectCalled ∉ after -> Connector.Finished world ∧ Quiet after

structure Sound (client : TcpClient) (tr : List Event) : Prop where
  called : Since Event.stopCalled Event.connectCalled tr ->
    client.stopCalled = true
  stored : Stored client
  final : Final client.world tr

theorem sound_init : Sound Init [] where
  called := fun hsince => absurd hsince not_since_nil
  stored := by simp [Stored, Init]
  final := by simp [Final]

theorem quiet_append {first second : List Event} :
    Quiet (first ++ second) <-> Quiet first ∧ Quiet second := by
  simp only [Quiet, List.mem_append, not_or, forall_and]
  exact and_and_and_comm

theorem sound_step {tr : List Event} (h : Sound client tr)
    (hreply : Reply client next es) : Sound next (tr ++ es) := by
  have hcalled : Since Event.stopCalled Event.connectCalled (tr ++ es) ->
      next.stopCalled = true := by
    intro hsince
    by_cases hagain : Event.connectCalled ∈ es
    · rw [hreply.again hagain] at hsince
      rcases since_append hsince with hmem | ⟨_, hnot⟩
      · simp at hmem
      · simp at hnot
    · apply hreply.called hagain
      rcases since_append hsince with hmem | ⟨hbefore, _⟩
      · exact Or.inl hmem
      · exact Or.inr (h.called hbefore)
  refine ⟨hcalled, hreply.stored, ?_⟩
  intro before after hsplit hsince hnot
  have hlast : next.stopCalled = true := by
    apply hcalled
    rw [hsplit]
    apply hsince.append
    rw [List.mem_cons, not_or]
    exact ⟨by decide, hnot⟩
  rcases split_append hsplit with ⟨mid, hfirst, rfl⟩ | ⟨mid, rfl, hsecond⟩
  · rw [List.mem_append, not_or] at hnot
    have hmid := h.final before mid hfirst hsince hnot.1
    have hnext := hreply.finished hnot.2 hlast (Or.inl hmid.1)
    exact ⟨hnext.1, quiet_append.mpr ⟨hmid.2, hnext.2⟩⟩
  · have hmem : Stopped ∈ es := by simp [hsecond]
    have hagain : Event.connectCalled ∉ es := by
      intro hconnect
      rw [hreply.again hconnect] at hmem
      simp [Stopped] at hmem
    have hnext := hreply.finished hagain hlast (Or.inr hmem)
    refine ⟨hnext.1, ?_⟩
    have hquiet := hnext.2
    rw [hsecond, List.append_cons, quiet_append] at hquiet
    exact hquiet.2

/--
Once `Stop` has been executed, no attempt is made and no connection handed over
until `Connect` is called, when no connection that closes finds `retry_` set.
-/
theorem stop_is_final {inputs : List Input} {tr : List Event}
    (hrun : (ClientMachine clock).Run Init inputs = some (client, tr))
    (hguard : (ClientMachine clock).Guarded Respected Init inputs)
    (before after : List Event) (hsplit : tr = before ++ Stopped :: after)
    (hstop : Since Event.stopCalled Event.connectCalled before)
    (hconnect : Event.connectCalled ∉ after) : Quiet after := by
  have hsound := Machine.run_invariant_of_guard (I := Sound) (p := [])
    (fun client tr i next es hinv hinput hstep => sound_step hinv
      (perform_reply hinv.stored i hinput next es (answer_eq_some.mp hstep)))
    sound_init hguard hrun
  exact (hsound.final before after hsplit hstop hconnect).2

end Clock

/-!
# A client that connects again
-/

def Connected : List Input :=
  [Input.setAutoRetry true, Input.connect,
    Input.connector (Connector.Input.attempt Connector.EINPROGRESS),
    Input.connector Connector.Input.poll,
    Input.connector (Connector.Input.handleEvent Channel.EPOLLOUT 0 false),
    Input.newConnection, Input.connector Connector.Input.resume]

def ConnectedEvents : List Event :=
  [Event.connectCalled, Event.connector Connector.Event.connect,
    Event.connector Connector.Event.newConnection, Event.newConnection 0,
    Event.connector (Connector.Event.resumed true)]

/-- The peer closes the connection after `Stop`, and `retry_` is set. -/
theorem attempt_after_stop :
    exists inputs client before after,
      (ClientMachine Connector.LateClock).Run Init inputs =
        some (client, before ++ Stopped :: after) ∧
      Since Event.stopCalled Event.connectCalled before ∧
      Event.connectCalled ∉ after ∧
      Event.connector Connector.Event.connect ∈ after ∧
      Event.newConnection 1 ∈ after := by
  have heval : ((ClientMachine Connector.LateClock).Run Init (Connected ++
      [Input.stop, Input.handleClose 0, Input.testRetry,
        Input.connector Connector.Input.startInLoop] ++
        (Connected.drop 2))).map (fun last => (last.1.count_, last.2)) =
      some (2, (ConnectedEvents ++ [Event.stopCalled]) ++
        Stopped :: [Event.connector Connector.Event.stopReturned,
          Event.handleClose 0, Event.connector Connector.Event.restart,
          Event.connector Connector.Event.connect,
          Event.connector Connector.Event.newConnection,
          Event.newConnection 1,
          Event.connector (Connector.Event.resumed true)]) := by
    decide +kernel
  rcases (ClientMachine Connector.LateClock).exists_run
    (fun client => client.count_) heval with ⟨client, hrun, _⟩
  exact ⟨_, client, _, _, hrun, ⟨ConnectedEvents, [], rfl, by simp⟩,
    by decide, by decide, by decide⟩

/-- The connection closes after `Stop`, and `retry_` was taken back before. -/
theorem stop_is_final_of_close :
    exists client tr after,
      (ClientMachine Connector.LateClock).Run Init (Connected ++
        [Input.stop, Input.setAutoRetry false, Input.handleClose 0,
          Input.testRetry]) = some (client, tr ++ Stopped :: after) ∧
      Event.handleClose 0 ∈ after ∧ Quiet after := by
  have heval : ((ClientMachine Connector.LateClock).Run Init (Connected ++
      [Input.stop, Input.setAutoRetry false, Input.handleClose 0,
        Input.testRetry])).map (fun last => (last.1.count_, last.2)) =
      some (1, (ConnectedEvents ++ [Event.stopCalled]) ++
        Stopped :: [Event.connector Connector.Event.stopReturned,
          Event.handleClose 0]) := by
    decide +kernel
  rcases (ClientMachine Connector.LateClock).exists_run
    (fun client => client.count_) heval with ⟨client, hrun, _⟩
  have hquiet := stop_is_final hrun (by decide +kernel) _ _ rfl
    ⟨ConnectedEvents, [], rfl, by simp⟩ (by decide)
  exact ⟨client, _, _, hrun, by decide, hquiet⟩

end TcpClient
end Net
end Wethands
