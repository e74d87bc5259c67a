import Wethands.Net.TcpClient.Whole

/-!
# When a client is safe

`Disconnect` looks for a connection only when there is one, the client goes only
when it has none and no `HandleClose` is running, and nobody uses a connection
that is closed.  Then `connection_` is the connection that is open, and nothing
is left behind the client that would come back to it.
-/

namespace Wethands
namespace Net

open Foundation Utils Reactor

namespace TcpClient

open TcpConnection (Callback CloseCallback States WriteResult ReadResult)
open Ownership (Owned Act)
open Teardown (Kept Keeps)

namespace Owner

variable {ThreadId : Type} {owner next : Owner ThreadId} {tr es : List Event}

/-!
# A connection comes
-/

theorem established_eq (ThreadId : Type) :
    exists owned, Established ThreadId = Except.ok (owned,
      [Ownership.Event.executed TcpConnection.Functor.connectionEstablished,
        Ownership.Event.conn (TcpConnection.Event.stored States.kConnecting
          States.kConnected),
        Ownership.Event.conn (TcpConnection.Event.called
          (Callback.connection States.kConnected))]) :=
  ⟨_, rfl⟩

theorem established_kept [DecidableEq ThreadId] {owned : Owned ThreadId}
    {calls : List Ownership.Event}
    (h : Established ThreadId = Except.ok (owned, calls)) : Kept owned := by
  have hact : Act (Ownership.Init ThreadId CloseCallback.sameLoop)
      (Ownership.Input.runFunctor (WriteResult.wrote 0)) =
        Except.ok (owned, calls) := h
  have hkeeps := Teardown.kept_init.act (by simp) (by simp [Teardown.Reopens])
    (by simp [Teardown.ReadsAgain, Ownership.StartsRead, Ownership.Init,
      TcpConnection.Init]) owned calls hact
  exact hkeeps.kept

theorem Whole.append (h : Whole owner) (hliving : owner.phase = Phase.living)
    (hnone : owner.client.connection_ = none) {client : TcpClient}
    {owned : Owned ThreadId} (hsteady : Steady client) (hkept : Kept owned)
    (hsome : client.connection_ = some owner.client.count_)
    (hcount : client.count_ = owner.client.count_ + 1) :
    Whole { owner with client := client, conns := owner.conns ++ [owned] } where
  running := h.running
  counted := by simp [hcount, h.counted]
  kept := by
    intro conn other hother
    rw [List.getElem?_append] at hother
    split at hother
    · refine ⟨(h.kept conn other hother).1, fun hlisted => ?_⟩
      rw [h.unlisted hnone hother] at hlisted
      cases hlisted
    · rename_i hge
      rcases List.getElem?_eq_some_iff.mp hother with ⟨hlt, heq⟩
      have hlast : conn = owner.conns.length := by
        rw [List.length_singleton] at hlt
        omega
      subst hlast
      rw [List.getElem_singleton] at heq
      rw [← heq]
      refine ⟨hkept, fun _ => ?_⟩
      rw [hsome, h.counted]
  living := fun _ => hsteady
  destroyed := by
    intro hdead
    rw [hliving] at hdead
    cases hdead

theorem Intact.made (h : Intact owner tr) (hwhole : Whole next)
    (hliving : owner.phase = Phase.living)
    (hnone : owner.client.connection_ = none)
    (hsome : next.client.connection_ = some owner.client.count_)
    (hcount : next.client.count_ = owner.client.count_ + 1)
    (hharmless : forall e, e ∈ es -> Harmless e)
    (hnumbered : forall e, e ∈ es -> Numbered (owner.client.count_ + 1) e)
    (hmade : forall conn, Event.client
      (TcpClient.Event.newConnection conn) ∈ es <->
        conn = owner.client.count_)
    (hclosed : forall conn, Event.connection conn (Ownership.Event.conn
      TcpConnection.CloseNotice) ∉ es) : Intact next (tr ++ es) where
  whole := hwhole
  safe := by
    refine ⟨fun _ conn => ?_, harmless_append h.safe.harmless hharmless⟩
    have hbefore := h.safe.connection_ hliving conn
    rw [hnone] at hbefore
    simp only [Open, List.mem_append, hmade, hclosed, or_false]
    rw [hsome, Option.some.injEq]
    constructor
    · rintro rfl
      refine ⟨Or.inr rfl, fun hmem => ?_⟩
      exact absurd (h.numbered _ hmem) (Nat.lt_irrefl _)
    · intro hopen
      rcases hopen with ⟨hold | hnew, hnot⟩
      · cases hbefore.mpr ⟨hold, hnot⟩
      · exact hnew.symm
  numbered := by
    rw [hcount]
    exact numbered_append (Nat.le_succ _) h.numbered hnumbered

theorem Intact.newConnection [DecidableEq ThreadId] (h : Intact owner tr)
    (hliving : owner.phase = Phase.living)
    (hcontrol : owner.client.world.control = Connector.Control.handleWrite)
    (hstep : NewConnection owner = some (next, es)) :
    Intact next (tr ++ ([Event.callback true] ++ es)) := by
  rcases established_eq ThreadId with ⟨owned, hestablished⟩
  have hkept := established_kept hestablished
  have hsteady := h.whole.living hliving
  unfold NewConnection at hstep
  rw [hestablished] at hstep
  dsimp only at hstep
  have hnone : owner.client.connection_ = none := by
    refine (hsteady.free ?_).1
    intro hdormant
    rw [hdormant.control] at hcontrol
    cases hcontrol
  rw [release_none hnone] at hstep
  rcases next_eq_some h.whole.running hstep with ⟨es', hmade, rfl⟩
  dsimp only at hmade
  split at hmade
  · cases hmade
  · rename_i mid told hclient
    rcases onClient_eq_some hclient with ⟨client, told', hok, rfl, rfl⟩
    rcases hsteady.newConnection hcontrol client told' hok with
      ⟨hnext, _, hsome, hcount, rfl⟩
    cases hmade
    have hwhole :=
      h.whole.append hliving hnone hnext hkept hsome hcount
    refine h.made hwhole hliving hnone hsome hcount ?_ ?_ ?_ ?_
    · simp [Harmless]
    · simp [Numbered]
    · simp
    · simp [TcpConnection.CloseNotice]

/-!
# A connection closes
-/

theorem Intact.closed (h : Intact owner tr) (hwhole : Whole next) {conn : Nat}
    (hliving : owner.phase = Phase.living)
    (hsome : owner.client.connection_ = some conn)
    (hnone : next.client.connection_ = none)
    (hcount : next.client.count_ = owner.client.count_)
    (hharmless : forall e, e ∈ es -> Harmless e)
    (hnumbered : forall e, e ∈ es -> Numbered owner.client.count_ e)
    (hmade : forall conn, Event.client
      (TcpClient.Event.newConnection conn) ∉ es)
    (hclosed : Event.connection conn (Ownership.Event.conn
      TcpConnection.CloseNotice) ∈ es) : Intact next (tr ++ es) where
  whole := hwhole
  safe := by
    refine ⟨fun _ other => ⟨fun hother => ?_, fun hopen => ?_⟩,
      harmless_append h.safe.harmless hharmless⟩
    · rw [hnone] at hother
      cases hother
    have hbefore : Open other tr := by
      simp only [Open, List.mem_append, hmade, or_false, not_or] at hopen
      exact ⟨hopen.1, hopen.2.1⟩
    have hsame := (h.safe.connection_ hliving other).mpr hbefore
    rw [hsome, Option.some.injEq] at hsame
    subst hsame
    exact absurd (List.mem_append.mpr (Or.inr hclosed)) hopen.2
  numbered := by
    rw [hcount]
    exact numbered_append (Nat.le_refl _) h.numbered hnumbered

theorem Whole.close (h : Whole owner) (hliving : owner.phase = Phase.living)
    {conn : Nat} {client : TcpClient} {before after : Owned ThreadId}
    (hconn : owner.conns[conn]? = some before)
    (hsome : owner.client.connection_ = some conn) (hafter : Kept after)
    (hgone : after.listed = false) (hsteady : Steady client)
    (hcount : client.count_ = owner.client.count_) :
    Whole { owner with
      client := client
      conns := owner.conns.set conn after } where
  running := h.running
  counted := by
    rw [List.length_set, ← h.counted]
    exact hcount
  kept := by
    intro other owned hother
    rw [List.getElem?_set] at hother
    split at hother
    · rw [if_pos (List.getElem?_eq_some_iff.mp hconn).1] at hother
      cases hother
      refine ⟨hafter, fun hlisted => ?_⟩
      rw [hgone] at hlisted
      cases hlisted
    · rename_i hne
      rcases h.kept other owned hother with ⟨hkept, hlisted⟩
      refine ⟨hkept, fun hyes => absurd ?_ hne⟩
      have hsame := hlisted hyes
      rwa [hsome, Option.some.injEq] at hsame
  living := fun _ => hsteady
  destroyed := by
    intro hdead
    rw [hliving] at hdead
    cases hdead

theorem Intact.handleClose (h : Intact owner tr)
    (hliving : owner.phase = Phase.living) {conn : Nat}
    {before after : Owned ThreadId} {calls : List Ownership.Event}
    (hconn : owner.conns[conn]? = some before)
    (hkeeps : Keeps before after calls)
    (htells : Teardown.TellsServer calls)
    (hstep : HandleClose owner conn before after
      (calls.map (Event.connection conn)) = some (next, es)) :
    Intact next (tr ++ ([Event.callback true] ++ es)) := by
  have hsome := (h.whole.kept conn before hconn).2 (hkeeps.tells htells)
  have hgone : after.listed = false := by
    rw [hkeeps.lists, decide_eq_true htells, Bool.not_true, Bool.and_false]
  have hlt := h.whole.lt_count hconn
  rcases settle_kept hkeeps.kept owner
    (calls.map (Event.connection conn)) with ⟨more, hmore, haside⟩
  unfold HandleClose at hstep
  rw [if_pos hsome] at hstep
  rcases next_eq_some h.whole.running hstep with ⟨es', hclose, rfl⟩
  dsimp only at hclose
  rw [hmore] at hclose
  rcases next_eq_some h.whole.running hclose with ⟨told, hclient, rfl⟩
  rcases onClient_eq_some hclient with ⟨client, told', hok, rfl, rfl⟩
  rcases (h.whole.living hliving).handleClose hsome client told' hok with
    ⟨hnext, hnone, hcount, rfl⟩
  have hlast : Uneventful owner owner more := uneventful_aside rfl rfl haside
  have hwhole :=
    h.whole.close hliving hconn hsome hkeeps.kept hgone hnext hcount
  refine h.closed hwhole hliving hsome hnone hcount ?_ ?_ ?_ ?_
  · simp only [List.mem_append, or_imp, forall_and]
    simpa [Harmless] using hlast.harmless
  · simp only [List.mem_append, or_imp, forall_and]
    simpa [Numbered, hlt] using hlast.numbered
  · simpa using hlast.made
  · have hmem : Ownership.Event.conn TcpConnection.CloseNotice ∈ calls := htells
    simp [hmem]

/-!
# Every step
-/

def Careful (owner : Owner ThreadId) : Input ThreadId -> Prop
  | Input.disconnect => owner.client.connection_ ≠ none
  | Input.destroy =>
      owner.client.connection_ = none ∧ owner.client.closing = 0
  | Input.connection conn i =>
      forall owned, owned ∈ owner.conns[conn]? ->
        ¬Teardown.Reopens owned i ∧ ¬Teardown.ReadsAgain owned i
  | _ => True

instance (owner : Owner ThreadId) (i : Input ThreadId) :
    Decidable (Careful owner i) := by
  unfold Careful
  split <;> infer_instance

theorem Intact.callback (h : Intact owner tr)
    (hthere : ¬Gone owner.client)
    {step : Owner ThreadId -> Result ThreadId}
    (hstep : OfClient owner step = some (next, es)) :
    owner.phase = Phase.living ∧ exists es', step owner = some (next, es') ∧
      es = [Event.callback true] ++ es' := by
  have hliving : owner.phase = Phase.living := by
    by_contra hdead
    exact hthere (h.whole.gone hdead)
  exact ⟨hliving, ofClient_eq_some hliving hstep⟩

theorem Intact.still (h : Intact owner tr)
    (hstep : Whole next ∧ Uneventful owner next es) :
    Intact next (tr ++ es) :=
  h.uneventful hstep.1 hstep.2

section Threads

variable [DecidableEq ThreadId]

theorem Intact.stepConnection (h : Intact owner tr) {conn : Nat}
    {i : Ownership.Input ThreadId} (hserver : OfServer i = false)
    (hcareful : Careful owner (Input.connection conn i))
    (hstep : StepConnection owner conn i = some (next, es)) :
    Intact next (tr ++ es) := by
  unfold StepConnection at hstep
  split at hstep
  · cases hstep
  · rename_i owned hconn
    rcases h.whole.kept conn owned hconn with ⟨hkept, hlisted⟩
    rcases hcareful owned hconn with ⟨hreopens, hagain⟩
    split at hstep
    · rename_i after calls hact
      have hkeeps := hkept.act (by rintro rfl; cases hserver) hreopens hagain
        after calls hact
      split at hstep
      · rename_i htells
        have hsome := hlisted (hkeeps.tells htells)
        have hthere : ¬Gone owner.client := by
          intro hgone
          rw [hgone.connection_] at hsome
          cases hsome
        rcases h.callback hthere hstep with ⟨hliving, es', hclose, rfl⟩
        exact h.handleClose hliving hconn hkeeps htells hclose
      · rename_i hsilent
        have hfront : forall e, e ∈ ([] : List Event) ->
            e.Aside = true ∧ Harmless e := by simp
        exact h.still (h.whole.silent hconn hkeeps hsilent hfront
          (Option.some.inj hstep))
    · rename_i hact
      split at hstep
      · exact absurd hact hkept.sound.return
      · cases hstep
    · cases hstep

section Clock

variable {clock : Nat -> Timestamp}

theorem Intact.perform {i : Input ThreadId} (h : Intact owner tr)
    (hcareful : Careful owner i)
    (hstep : Perform clock owner i = some (next, es)) :
    Intact next (tr ++ es) := by
  have honly : forall {p : Prop} [Decidable p] {step : Result ThreadId},
      When p step = some (next, es) -> p ∧ step = some (next, es) := by
    intro p _ step hwhen
    unfold When at hwhen
    split at hwhen
    · exact ⟨‹p›, hwhen⟩
    · cases hwhen
  cases i with
  | connect =>
      rcases honly hstep with ⟨⟨hcallable, hfresh⟩, hconnect⟩
      have hsteady := h.whole.living hcallable.1
      exact h.still
        (h.whole.onLiving hcallable.1 (hsteady.connect hfresh) hconnect)
  | disconnect =>
      exact h.still (h.whole.disconnect hcareful (honly hstep).2)
  | stop =>
      rcases honly hstep with ⟨hcallable, hstop⟩
      have hsteady := h.whole.living hcallable.1
      exact h.still (h.whole.onLiving hcallable.1 hsteady.stop hstop)
  | setAutoRetry on =>
      rcases honly hstep with ⟨hliving, hset⟩
      have hsteady := h.whole.living hliving
      have hcall : Yields (Except.ok ({ owner.client with retry_ := on }, []))
          (fun client told => Steady client ∧
            Same owner.client client told) := by
        refine yields_ok.mpr ⟨?_, rfl, rfl, by simp⟩
        exact hsteady.move rfl rfl hsteady.tidy (fun hdormant => hdormant)
      exact h.still (h.whole.onLiving hliving hcall hset)
  | getConnection tid => exact h.still (h.whole.connection (honly hstep).2)
  | newConnection =>
      rcases honly hstep with ⟨hcontrol, hnew⟩
      have hthere : ¬Gone owner.client := by
        intro hgone
        rw [hgone.finished.control] at hcontrol
        cases hcontrol
      rcases h.callback hthere hnew with ⟨hliving, es', hmade, rfl⟩
      exact h.newConnection hliving hcontrol hmade
  | testRetry =>
      rcases honly hstep with ⟨⟨_, hclosing⟩, htest⟩
      have hthere : ¬Gone owner.client := by
        intro hgone
        rw [hgone.closing] at hclosing
        cases hclosing
      rcases h.callback hthere htest with ⟨hliving, es', hretry, rfl⟩
      have hsteady := h.whole.living hliving
      have hlast := h.whole.onLiving hliving (hsteady.testRetry hclosing) hretry
      exact h.uneventful hlast.1 ((uneventful_callback owner).trans hlast.2)
  | destroy =>
      rcases honly hstep with ⟨hcallable, hdestroy⟩
      exact h.still
        (h.whole.destroy hcallable hcareful.1 hcareful.2 hdestroy)
  | connector i =>
      refine h.still (h.whole.onClient (fun client told hcall => ?_) hstep)
      cases hphase : owner.phase with
      | living =>
          have hnext := (h.whole.living hphase).connector i client told hcall
          exact ⟨fun _ => hnext.1, by simp, hnext.2⟩
      | destroyed =>
          have hnext := (h.whole.destroyed hphase).connector i client told hcall
          exact ⟨by simp, fun _ => hnext.1, hnext.2⟩
      | aborted => exact absurd hphase h.whole.running
  | connection conn i =>
      rcases honly hstep with ⟨⟨hserver, _⟩, hconnection⟩
      exact h.stepConnection hserver hcareful hconnection

/--
A run whose steps are careful is safe in every state: `connection_` is the
connection that is open, `Disconnect` finds it, no callback comes to a client
that is gone, and every connection goes `kDisconnected` and unregistered.
-/
theorem careful_is_safe {inputs : List (Input ThreadId)}
    (hrun : (OwnerMachine clock).Run (Init ThreadId) inputs =
      some (owner, tr))
    (hguard : (OwnerMachine clock).Guarded Careful (Init ThreadId) inputs) :
    Safe owner tr := by
  have hlast : Intact owner ([] ++ tr) :=
    Machine.run_invariant_of_guard (I := Intact)
      (fun owner tr i next es hinv hcareful hstep => by
        have hperform : Perform clock owner i = some (next, es) := by
          have hwhole : (if owner.phase = Phase.aborted then none
              else Perform clock owner i) = some (next, es) := hstep
          rwa [if_neg hinv.whole.running] at hwhole
        exact hinv.perform hcareful hperform)
      intact_init hguard hrun
  exact hlast.safe

end Clock
end Threads

/-!
# Runs of a client

The peer closes the first connection, the client connects again by itself, and
`Disconnect` leads to the end of the second one.  User code keeps a pointer to
each of them while its channel is handled.
-/

def Writable (conn : Nat) : List (Input Unit) :=
  [Connector.Input.attempt Connector.EINPROGRESS, Connector.Input.poll,
    Connector.Input.handleEvent Channel.EPOLLOUT 0 false].map
      Input.connector ++
    [Input.newConnection,
      Input.connection conn Ownership.Input.returns,
      Input.connection conn Ownership.Input.drained,
      Input.connector Connector.Input.resume]

/-- The peer has closed the connection, up to the end of `HandleClose`. -/
def PeerCloses (conn : Nat) : List (Input Unit) :=
  [Ownership.Input.poll Channel.EPOLLIN,
    Ownership.Input.handleEvent (ReadResult.received []) (WriteResult.wrote 0),
    Ownership.Input.returns].map (Input.connection conn) ++ [Input.testRetry]

def Resumes (conn : Nat) : List (Input Unit) :=
  (List.replicate 4 (Ownership.Input.resume ReadResult.failed
      (WriteResult.wrote 0)) ++ [Ownership.Input.drop ()]).map
    (Input.connection conn)

def ConnectsAgain : List (Input Unit) :=
  [Input.setAutoRetry true, Input.connect] ++ Writable 0 ++
    [Input.getConnection ()] ++ PeerCloses 0 ++
    [Input.connector Connector.Input.startInLoop] ++ (Writable 1).take 1 ++
    Resumes 0 ++ (Writable 1).drop 1 ++
    [Input.getConnection (), Input.disconnect, Input.setAutoRetry false] ++
    PeerCloses 1 ++ [Input.stop, Input.destroy] ++ Resumes 1

theorem careful_is_safe_of_connectsAgain :
    exists owner tr,
      (OwnerMachine Connector.LateClock).Run (Init Unit) ConnectsAgain =
        some (owner, tr) ∧
      owner.phase = Phase.destroyed ∧
      Event.destroyed 1 States.kDisconnected false ∈ tr ∧ Safe owner tr := by
  have heval : ((OwnerMachine Connector.LateClock).Run (Init Unit)
      ConnectsAgain).map (fun last => (last.1.phase,
        decide (Event.destroyed 1 States.kDisconnected false ∈ last.2))) =
      some (Phase.destroyed, true) := by
    decide +kernel
  rcases Option.map_eq_some_iff.mp heval with ⟨⟨owner, tr⟩, hrun, hlast⟩
  rcases Prod.mk.inj hlast with ⟨hphase, hmem⟩
  have hsafe := careful_is_safe hrun (by decide +kernel)
  exact ⟨owner, tr, hrun, hphase, of_decide_eq_true hmem, hsafe⟩

def Unsafe (inputs : List (Input Unit)) : Prop :=
  exists owner tr,
    (OwnerMachine Connector.LateClock).Run (Init Unit) inputs =
      some (owner, tr) ∧ ¬Safe owner tr

theorem unsafe_of_event {inputs : List (Input Unit)} {e : Event}
    (hharm : ¬Harmless e)
    (heval : ((OwnerMachine Connector.LateClock).Run (Init Unit) inputs).map
      (fun last => decide (e ∈ last.2)) = some true) : Unsafe inputs := by
  rcases Option.map_eq_some_iff.mp heval with ⟨⟨owner, tr⟩, hrun, hmem⟩
  refine ⟨owner, tr, hrun, fun hsafe => hharm ?_⟩
  exact hsafe.harmless e (of_decide_eq_true hmem)

/--
`Disconnect` without a connection, a client that goes with the last pointer to
an open connection, and one that goes while user code keeps the connection,
whose peer then closes it.
-/
theorem client_unsafe :
    Unsafe [Input.disconnect] ∧
      Unsafe ([Input.connect] ++ Writable 0 ++ [Input.destroy]) ∧
      Unsafe ([Input.connect] ++ Writable 0 ++
        [Input.getConnection (), Input.destroy] ++
        (PeerCloses 0).take 2) := by
  have hnull : ¬Harmless (Event.disconnect none) := by simp [Harmless]
  have hopen : ¬Harmless (Event.destroyed 0 States.kConnected true) := by
    simp [Harmless]
  have hlate : ¬Harmless (Event.callback false) := by simp [Harmless]
  refine ⟨unsafe_of_event hnull ?_, unsafe_of_event hopen ?_,
    unsafe_of_event hlate ?_⟩
  · decide +kernel
  · decide +kernel
  · decide +kernel

end Owner
end TcpClient
end Net
end Wethands
