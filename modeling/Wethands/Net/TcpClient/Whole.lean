import Wethands.Net.TcpClient.Owner
import Wethands.Net.TcpClient.Steady
import Wethands.Net.Teardown.SameLoop

/-!
# A client and its connections fit together

Only the connection in `connection_` is listed, so that no other one calls the
client.  Most steps neither make nor close a connection, and those that do are
left to the end.
-/

namespace Wethands
namespace Net

open Foundation Utils Reactor

namespace TcpClient

open TcpConnection (States)
open Ownership (Owned References Destructible)
open Teardown (Kept Keeps)

namespace Owner

variable {ThreadId : Type}

/-- `NewConnection` has made the connection, and it has not closed since. -/
def Open (conn : Nat) (tr : List Event) : Prop :=
  Event.client (TcpClient.Event.newConnection conn) ∈ tr ∧
    Event.connection conn (Ownership.Event.conn TcpConnection.CloseNotice) ∉ tr

def Harmless : Event -> Prop
  | Event.client _ => True
  | Event.connection _ _ => True
  | Event.disconnect conn => conn ≠ none
  | Event.callback alive => alive = true
  | Event.destroyed _ state_ registeredToPoller =>
      state_ = States.kDisconnected ∧ registeredToPoller = false

structure Safe (owner : Owner ThreadId) (tr : List Event) : Prop where
  connection_ : owner.phase = Phase.living -> forall conn,
    owner.client.connection_ = some conn <-> Open conn tr
  harmless : forall e, e ∈ tr -> Harmless e

/-!
# What a step leaves
-/

structure Whole (owner : Owner ThreadId) : Prop where
  running : owner.phase ≠ Phase.aborted
  counted : owner.client.count_ = owner.conns.length
  kept : forall (conn : Nat) (owned : Owned ThreadId),
    owner.conns[conn]? = some owned -> Kept owned ∧
      (owned.listed = true -> owner.client.connection_ = some conn)
  living : owner.phase = Phase.living -> Steady owner.client
  destroyed : owner.phase = Phase.destroyed -> Gone owner.client

def Numbered (count : Nat) : Event -> Prop
  | Event.client (TcpClient.Event.newConnection conn) => conn < count
  | Event.connection conn _ => conn < count
  | _ => True

structure Uneventful (owner next : Owner ThreadId) (es : List Event) :
    Prop where
  living : next.phase = Phase.living -> owner.phase = Phase.living
  connection_ : next.client.connection_ = owner.client.connection_
  count_ : next.client.count_ = owner.client.count_
  harmless : forall e, e ∈ es -> Harmless e
  numbered : forall e, e ∈ es -> Numbered owner.client.count_ e
  made : forall conn,
    Event.client (TcpClient.Event.newConnection conn) ∉ es
  closed : forall conn,
    Event.connection conn (Ownership.Event.conn
      TcpConnection.CloseNotice) ∉ es

structure Intact (owner : Owner ThreadId) (tr : List Event) : Prop where
  whole : Whole owner
  safe : Safe owner tr
  numbered : forall e, e ∈ tr -> Numbered owner.client.count_ e

variable {owner next : Owner ThreadId} {tr es : List Event}

theorem intact_init : Intact (Init ThreadId) [] where
  whole := ⟨by simp [Init], rfl, by simp [Init], fun _ => steady_init,
    by simp [Init]⟩
  safe := ⟨by simp [Init, TcpClient.Init, Open], by simp⟩
  numbered := by simp

theorem harmless_append {first second : List Event}
    (hfirst : forall e, e ∈ first -> Harmless e)
    (hsecond : forall e, e ∈ second -> Harmless e) :
    forall e, e ∈ first ++ second -> Harmless e := by
  intro e he
  rcases List.mem_append.mp he with hmem | hmem
  · exact hfirst e hmem
  · exact hsecond e hmem

theorem Numbered.mono {count count' : Nat} {e : Event}
    (h : Numbered count e) (hle : count ≤ count') : Numbered count' e := by
  unfold Numbered at h ⊢
  split <;> simp_all <;> omega

theorem numbered_append {count count' : Nat} {first second : List Event}
    (hle : count ≤ count')
    (hfirst : forall e, e ∈ first -> Numbered count e)
    (hsecond : forall e, e ∈ second -> Numbered count' e) :
    forall e, e ∈ first ++ second -> Numbered count' e := by
  intro e he
  rcases List.mem_append.mp he with hmem | hmem
  · exact (hfirst e hmem).mono hle
  · exact hsecond e hmem

theorem Intact.uneventful (h : Intact owner tr) (hwhole : Whole next)
    (hstep : Uneventful owner next es) : Intact next (tr ++ es) where
  whole := hwhole
  safe := by
    refine ⟨?_, harmless_append h.safe.harmless hstep.harmless⟩
    intro hliving conn
    rw [hstep.connection_, h.safe.connection_ (hstep.living hliving) conn]
    simp [Open, hstep.made, hstep.closed]
  numbered := by
    rw [hstep.count_]
    exact numbered_append (Nat.le_refl _) h.numbered hstep.numbered

/-!
# Steps in sequence
-/

theorem Uneventful.trans {mid : Owner ThreadId} {es' : List Event}
    (first : Uneventful owner mid es) (second : Uneventful mid next es') :
    Uneventful owner next (es ++ es') where
  living := fun hliving => first.living (second.living hliving)
  connection_ := second.connection_.trans first.connection_
  count_ := second.count_.trans first.count_
  harmless := harmless_append first.harmless second.harmless
  numbered := by
    refine numbered_append (Nat.le_refl _) first.numbered ?_
    rw [← first.count_]
    exact second.numbered
  made := by
    intro conn
    rw [List.mem_append, not_or]
    exact ⟨first.made conn, second.made conn⟩
  closed := by
    intro conn
    rw [List.mem_append, not_or]
    exact ⟨first.closed conn, second.closed conn⟩

def Event.Aside : Event -> Bool
  | client _ => false
  | connection _ _ => false
  | _ => true

theorem uneventful_aside (hclient : next.client = owner.client)
    (hphase : next.phase = owner.phase)
    (hes : forall e, e ∈ es -> e.Aside = true ∧ Harmless e) :
    Uneventful owner next es where
  living := by
    rw [hphase]
    exact fun hliving => hliving
  connection_ := by rw [hclient]
  count_ := by rw [hclient]
  harmless := fun e he => (hes e he).2
  numbered := by
    intro e he
    have haside := (hes e he).1
    cases e with
    | client | connection => cases haside
    | disconnect | callback | destroyed => trivial
  made := by
    intro conn he
    cases (hes _ he).1
  closed := by
    intro conn he
    cases (hes _ he).1

theorem Whole.gone (h : Whole owner) (hdead : owner.phase ≠ Phase.living) :
    Gone owner.client := by
  cases hphase : owner.phase with
  | living => exact absurd hphase hdead
  | destroyed => exact h.destroyed hphase
  | aborted => exact absurd hphase h.running

theorem Whole.unlisted (h : Whole owner)
    (hnone : owner.client.connection_ = none) {conn : Nat}
    {owned : Owned ThreadId} (hconn : owner.conns[conn]? = some owned) :
    owned.listed = false := by
  rw [← Bool.not_eq_true]
  intro hlisted
  rw [(h.kept conn owned hconn).2 hlisted] at hnone
  cases hnone

theorem Whole.lt_count (h : Whole owner) {conn : Nat} {owned : Owned ThreadId}
    (hconn : owner.conns[conn]? = some owned) :
    conn < owner.client.count_ := by
  rw [h.counted]
  exact (List.getElem?_eq_some_iff.mp hconn).1

theorem next_eq_some {first last : Owner ThreadId × List Event}
    {second : Owner ThreadId -> Result ThreadId}
    (hrunning : first.1.phase ≠ Phase.aborted)
    (h : Next first second = some last) :
    exists es, second first.1 = some (last.1, es) ∧
      last.2 = first.2 ++ es := by
  unfold Next at h
  rw [if_neg hrunning] at h
  split at h
  · cases h
  · rename_i mid es hsecond
    cases h
    exact ⟨es, hsecond, rfl⟩

theorem onClient_eq_some {call : Call TcpClient TcpClient.Event}
    (h : OnClient owner call = some (next, es)) :
    exists client told, call = Except.ok (client, told) ∧
      next = { owner with client := client } ∧
      es = told.map Event.client := by
  unfold OnClient at h
  split at h
  · cases h
  · rename_i client told
    cases h
    exact ⟨client, told, rfl, rfl, rfl⟩

theorem ofClient_eq_some {step : Owner ThreadId -> Result ThreadId}
    (hliving : owner.phase = Phase.living)
    (h : OfClient owner step = some (next, es)) :
    exists es', step owner = some (next, es') ∧
      es = [Event.callback true] ++ es' := by
  unfold OfClient at h
  rw [if_pos hliving] at h
  exact next_eq_some (by simp [hliving]) h

theorem uneventful_callback (owner : Owner ThreadId) :
    Uneventful owner owner [Event.callback true] :=
  uneventful_aside rfl rfl (by simp [Event.Aside, Harmless])

/-!
# Steps of a connection
-/

theorem Whole.set (h : Whole owner) {conn : Nat} {after : Owned ThreadId}
    (hafter : Kept after) (hlisted : after.listed = true ->
      owner.client.connection_ = some conn) :
    Whole { owner with conns := owner.conns.set conn after } where
  running := h.running
  counted := by
    rw [List.length_set]
    exact h.counted
  kept := by
    intro other owned hother
    rw [List.getElem?_set] at hother
    split at hother
    · rename_i hsame
      split at hother
      · cases hother
        rw [← hsame]
        exact ⟨hafter, hlisted⟩
      · cases hother
    · exact h.kept other owned hother
  living := h.living
  destroyed := h.destroyed

theorem settle_kept {conn : Nat} {before after : Owned ThreadId}
    (hafter : Kept after) (owner : Owner ThreadId) (es : List Event) :
    exists more, Settle owner conn before after es =
        ({ owner with conns := owner.conns.set conn after }, es ++ more) ∧
      forall e, e ∈ more -> e.Aside = true ∧ Harmless e := by
  unfold Settle
  dsimp only
  split
  · rename_i hlast
    have hdestructible := hafter.destructible hlast.2
    refine ⟨[DestroyedEvent conn after], ?_, ?_⟩
    · rw [if_pos hdestructible]
    · intro e he
      rw [List.mem_singleton.mp he]
      exact ⟨rfl, hdestructible⟩
  · exact ⟨[], by simp, by simp⟩

theorem Whole.silent (h : Whole owner) {conn : Nat}
    {before after : Owned ThreadId} {es : List Ownership.Event}
    {front es' : List Event}
    (hconn : owner.conns[conn]? = some before)
    (hkeeps : Keeps before after es) (hsilent : ¬Teardown.TellsServer es)
    (hfront : forall e, e ∈ front -> e.Aside = true ∧ Harmless e)
    (hsettle : Settle owner conn before after
      (front ++ es.map (Event.connection conn)) = (next, es')) :
    Whole next ∧ Uneventful owner next es' := by
  rcases settle_kept hkeeps.kept owner _ with ⟨more, hmore, haside⟩
  rw [hmore] at hsettle
  cases hsettle
  have hcount := h.lt_count hconn
  constructor
  · refine h.set hkeeps.kept (fun hlisted => ?_)
    apply (h.kept conn before hconn).2
    rwa [hkeeps.lists, decide_eq_false hsilent, Bool.not_false,
      Bool.and_true] at hlisted
  · have hcalls : Uneventful owner owner
        (es.map (Event.connection conn)) := by
      refine ⟨fun hliving => hliving, rfl, rfl, ?_, ?_, by simp, ?_⟩
      · simp [Harmless]
      · simp [Numbered, hcount]
      · intro other hmem
        rcases List.mem_map.mp hmem with ⟨event, hevent, heq⟩
        cases heq
        exact hsilent hevent
    have hstart : Uneventful owner owner front :=
      uneventful_aside rfl rfl hfront
    exact (hstart.trans hcalls).trans (uneventful_aside rfl rfl haside)

/-!
# Steps of the client
-/

theorem uneventful_told {told : List TcpClient.Event}
    (hliving : next.phase = Phase.living -> owner.phase = Phase.living)
    (hconnection : next.client.connection_ = owner.client.connection_)
    (hcount : next.client.count_ = owner.client.count_)
    (hmade : forall conn, TcpClient.Event.newConnection conn ∉ told) :
    Uneventful owner next (told.map Event.client) where
  living := hliving
  connection_ := hconnection
  count_ := hcount
  harmless := by simp [Harmless]
  numbered := by
    intro e he
    rcases List.mem_map.mp he with ⟨event, hevent, rfl⟩
    unfold Numbered
    split
    · rename_i heq
      cases heq
      exact absurd hevent (hmade _)
    · trivial
    · trivial
  made := by
    intro conn hmem
    rcases List.mem_map.mp hmem with ⟨event, hevent, heq⟩
    cases heq
    exact hmade conn hevent
  closed := by simp

theorem Whole.onClient (h : Whole owner)
    {call : Call TcpClient TcpClient.Event}
    (hcall : Yields call (fun client told =>
      (owner.phase = Phase.living -> Steady client) ∧
        (owner.phase = Phase.destroyed -> Gone client) ∧
        Same owner.client client told))
    (hstep : OnClient owner call = some (next, es)) :
    Whole next ∧ Uneventful owner next es := by
  rcases onClient_eq_some hstep with ⟨client, told, hok, rfl, rfl⟩
  rcases hcall client told hok with ⟨hsteady, hgone, hsame⟩
  refine ⟨⟨h.running, ?_, ?_, hsteady, hgone⟩, ?_⟩
  · exact hsame.count_.trans h.counted
  · intro conn owned hconn
    rw [hsame.connection_]
    exact h.kept conn owned hconn
  · exact uneventful_told (fun hliving => hliving) hsame.connection_
      hsame.count_ hsame.made

theorem Whole.onLiving (h : Whole owner) (hliving : owner.phase = Phase.living)
    {call : Call TcpClient TcpClient.Event}
    (hcall : Yields call (fun client told =>
      Steady client ∧ Same owner.client client told))
    (hstep : OnClient owner call = some (next, es)) :
    Whole next ∧ Uneventful owner next es := by
  refine h.onClient (hcall.mono (fun client told hclient => ?_)) hstep
  refine ⟨fun _ => hclient.1, fun hdead => ?_, hclient.2⟩
  rw [hliving] at hdead
  cases hdead

theorem Whole.disconnect [DecidableEq ThreadId] (h : Whole owner)
    (hcareful : owner.client.connection_ ≠ none)
    (hstep : owner.Disconnect = some (next, es)) :
    Whole next ∧ Uneventful owner next es := by
  unfold Disconnect at hstep
  split at hstep
  · exact absurd ‹_› hcareful
  · rename_i conn _
    split at hstep
    · cases hstep
    · rename_i owned hconn
      split at hstep
      · cases hstep
      · rename_i after calls hcall
        have hshutdown := (h.kept conn owned hconn).1.shutdown after calls hcall
        have hfront : forall e, e ∈ [Event.disconnect (some conn)] ->
            e.Aside = true ∧ Harmless e := by
          simp [Event.Aside, Harmless]
        exact h.silent hconn hshutdown.1 hshutdown.2 hfront
          (Option.some.inj hstep)

theorem Whole.connection (h : Whole owner) {tid : ThreadId}
    (hstep : owner.Connection tid = some (next, es)) :
    Whole next ∧ Uneventful owner next es := by
  unfold Connection at hstep
  split at hstep
  · cases hstep
    exact ⟨h, uneventful_aside rfl rfl (by simp)⟩
  · rename_i conn hsome
    split at hstep
    · cases hstep
    · rename_i owned hconn
      cases hstep
      refine ⟨h.set ((h.kept conn owned hconn).1.keep tid) (fun _ => hsome), ?_⟩
      exact uneventful_aside rfl rfl (by simp)

theorem release_none (hnone : owner.client.connection_ = none) :
    Release owner = (owner, []) := by
  unfold Release
  rw [hnone]

/-- The destructor finds nothing to let go of. -/
theorem Whole.destroy (h : Whole owner) (hcallable : Callable owner)
    (hnone : owner.client.connection_ = none)
    (hclosing : owner.client.closing = 0)
    (hstep : owner.Destroy = some (next, es)) :
    Whole next ∧ Uneventful owner next es := by
  unfold Destroy at hstep
  rw [release_none hnone] at hstep
  rcases next_eq_some h.running hstep with ⟨es', hdestroy, rfl⟩
  rcases onClient_eq_some hdestroy with ⟨client, told, hok, rfl, rfl⟩
  rcases gone_of_stop hclosing hcallable.2 client told hok with
    ⟨hgone, hcount, hmade⟩
  refine ⟨⟨by simp, hcount.trans h.counted, ?_, by simp, fun _ => hgone⟩, ?_⟩
  · intro conn owned hconn
    refine ⟨(h.kept conn owned hconn).1, fun hlisted => ?_⟩
    rw [h.unlisted hnone hconn] at hlisted
    cases hlisted
  · exact uneventful_told (by simp) (hgone.connection_.trans hnone.symm) hcount
      hmade

end Owner
end TcpClient
end Net
end Wethands
