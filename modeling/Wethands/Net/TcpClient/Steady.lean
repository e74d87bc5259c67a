import Wethands.Net.Connector.Dormant
import Wethands.Net.TcpClient

/-!
# A client and its connector

The connector makes no attempt while there is a connection, nor while
`HandleClose` is running.  So a connection is handed over only when there is
none, and `Restart` finds nothing in its way.
-/

namespace Wethands
namespace Net

open Foundation Utils Reactor

namespace TcpClient

structure Steady (client : TcpClient) : Prop where
  tidy : Connector.Tidy client.world
  dormant : client.connection_ ≠ none ∨ 0 < client.closing ->
    Connector.Dormant client.world
  alone : client.connection_ ≠ none -> client.closing = 0
  once : client.closing ≤ 1

structure Gone (client : TcpClient) : Prop where
  finished : Connector.Finished client.world
  connection_ : client.connection_ = none
  closing : client.closing = 0

structure Same (client next : TcpClient) (es : List Event) : Prop where
  connection_ : next.connection_ = client.connection_
  count_ : next.count_ = client.count_
  made : forall conn, Event.newConnection conn ∉ es

variable {client : TcpClient}

theorem steady_init : Steady Init where
  tidy := Connector.tidy_init true
  dormant := by simp [Init]
  alone := by simp [Init]
  once := by simp [Init]

theorem Steady.free (h : Steady client)
    (hnot : ¬Connector.Dormant client.world) :
    client.connection_ = none ∧ client.closing = 0 := by
  constructor
  · by_contra hsome
    exact hnot (h.dormant (Or.inl hsome))
  · by_contra hclosing
    exact hnot (h.dormant (Or.inr (Nat.pos_of_ne_zero hclosing)))

theorem Steady.move {next : TcpClient} (h : Steady client)
    (hconnection : next.connection_ = client.connection_)
    (hclosing : next.closing = client.closing)
    (htidy : Connector.Tidy next.world)
    (hdormant : Connector.Dormant client.world ->
      Connector.Dormant next.world) : Steady next where
  tidy := htidy
  dormant := by
    rw [hconnection, hclosing]
    exact fun hbusy => hdormant (h.dormant hbusy)
  alone := by
    rw [hconnection, hclosing]
    exact h.alone
  once := by
    rw [hclosing]
    exact h.once

/-!
# Member functions
-/

theorem Steady.connect (h : Steady client)
    (hfresh : client.world.started = false) :
    Yields client.Connect
      (fun next es => Steady next ∧ Same client next es) := by
  have hpending : Connector.StartPending client.world.started
      client.world.functors := Or.inl hfresh
  have hfree := h.free (fun hdormant => hdormant.started hpending)
  have hstart := h.tidy.start hpending (h.tidy.fresh hfresh)
  refine Yields.in_turn (yields_ok.mpr (onConnector_yields ?_))
  refine hstart.yields.mono (fun world es htidy => ⟨?_, rfl, rfl, by simp⟩)
  exact ⟨htidy, by simp [hfree], by simp [hfree], h.once⟩

theorem Steady.stop (h : Steady client) :
    Yields client.Stop (fun next es => Steady next ∧ Same client next es) := by
  have hset : Connector.Tidy { client.world with
      connector := { client.world.connector with stop_ := true } } :=
    h.tidy.setStop
  have htidy : Yields (Connector.Stop client.world)
      (fun world _ => Connector.Tidy world) :=
    Yields.in_turn (hset.stopInLoop.yields.mono
      (fun _ _ hworld => yields_ok.mpr hworld))
  refine Yields.in_turn (yields_ok.mpr (onConnector_yields ?_))
  intro world es hcall
  refine ⟨h.move rfl rfl (htidy world es hcall) ?_, rfl, rfl, by simp⟩
  exact fun hdormant => hdormant.stop h.tidy world es hcall

theorem Steady.testRetry (h : Steady client)
    (hclosing : 0 < client.closing) :
    Yields client.TestRetry
      (fun next es => Steady next ∧ Same client next es) := by
  have hdormant := h.dormant (Or.inr hclosing)
  have hnone : client.connection_ = none := by
    by_contra hsome
    rw [h.alone hsome] at hclosing
    exact absurd hclosing (by decide)
  have hlast : client.closing - 1 = 0 := by
    have honce := h.once
    omega
  unfold TestRetry
  dsimp only
  split
  · have hrestart := h.tidy.restart (hdormant.orderly h.tidy)
    apply onConnector_yields
    refine hrestart.yields.mono (fun world es htidy => ⟨?_, rfl, rfl, by simp⟩)
    exact ⟨htidy, by simp [hnone, hlast], by simp [hnone], by simp [hlast]⟩
  · refine yields_ok.mpr ⟨⟨h.tidy, fun _ => hdormant, ?_, ?_⟩, rfl, rfl,
      by simp⟩
    · simp [hnone]
    · simp [hlast]

theorem Steady.newConnection (h : Steady client)
    (hcontrol : client.world.control = Connector.Control.handleWrite) :
    Yields client.NewConnection (fun next es =>
      Steady next ∧ client.connection_ = none ∧
        next.connection_ = some client.count_ ∧
        next.count_ = client.count_ + 1 ∧
        es = [Event.connector Connector.Event.newConnection,
          Event.newConnection client.count_]) := by
  have hinside : client.world.control ≠ Connector.Control.outside := by
    simp [hcontrol]
  have hfree := h.free (fun hdormant => hinside hdormant.control)
  apply Yields.in_turn
  apply onConnector_yields
  intro world es hworld
  have hnext := h.tidy.newConnection hinside world es hworld
  cases hworld
  exact yields_ok.mpr ⟨⟨hnext.1, fun _ => hnext.2, fun _ => hfree.2, h.once⟩,
    hfree.1, rfl, rfl, rfl⟩

theorem Steady.handleClose (h : Steady client) {conn : Nat}
    (hconn : client.connection_ = some conn) :
    Yields (client.HandleClose conn) (fun next es =>
      Steady next ∧ next.connection_ = none ∧ next.count_ = client.count_ ∧
        es = [Event.handleClose conn]) := by
  have hsome : client.connection_ ≠ none := by simp [hconn]
  have hclosing := h.alone hsome
  refine yields_ok.mpr ⟨⟨h.tidy, ?_, ?_, ?_⟩, rfl, rfl, rfl⟩
  · exact fun _ => h.dormant (Or.inl hsome)
  · simp
  · simp [hclosing]

/-- `~Connector` calls `Stop`. -/
theorem gone_of_stop (hclosing : client.closing = 0)
    (houtside : client.world.control = Connector.Control.outside) :
    Yields (OnConnector { client with connection_ := none }
        (Connector.Stop client.world))
      (fun next es => Gone next ∧ next.count_ = client.count_ ∧
        forall conn, Event.newConnection conn ∉ es) := by
  apply onConnector_yields
  apply Yields.in_turn
  let mid := { client.world with connector := { client.world.connector with
    stop_ := true } }
  have hmid : mid.control = Connector.Control.outside := houtside
  refine (Connector.stopInLoop_yields hmid).mono (fun world es hworld => ?_)
  refine yields_ok.mpr ⟨⟨hworld.2.2 rfl, rfl, hclosing⟩, rfl, by simp⟩

/-!
# What the loop does
-/

section Clock

variable {clock : Nat -> Timestamp}

theorem Steady.connector (h : Steady client) (i : Connector.Input) :
    Yields (Perform clock client (Input.connector i))
      (fun next es => Steady next ∧ Same client next es) := by
  apply Yields.only_if
  intro hboth
  rcases hboth with ⟨hinner, _⟩
  have horderly : Connector.Orderly client.world i := by
    cases i with
    | restart => cases hinner
    | _ => trivial
  have hspec : Ensures (Connector.Perform clock client.world i)
      (fun world _ => Connector.Tidy world) :=
    Connector.perform_spec h.tidy horderly
  apply onConnector_yields
  intro world es hcall
  refine ⟨h.move rfl rfl (hspec.yields world es hcall) ?_, rfl, rfl, by simp⟩
  exact fun hdormant =>
    Connector.perform_dormant h.tidy hdormant hinner world es hcall

theorem Gone.connector (h : Gone client) (i : Connector.Input) :
    Yields (Perform clock client (Input.connector i))
      (fun next es => Gone next ∧ Same client next es) := by
  apply Yields.only_if
  intro hboth
  apply onConnector_yields
  refine (Connector.perform_respects hboth.1).mono (fun world es hworld => ?_)
  have hfinished := (hworld.finished (Or.inl h.finished)).1
  exact ⟨⟨hfinished, h.connection_, h.closing⟩, rfl, rfl, by simp⟩

end Clock
end TcpClient
end Net
end Wethands
