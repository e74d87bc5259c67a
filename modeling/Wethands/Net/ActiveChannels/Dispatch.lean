import Wethands.Net.ActiveChannels.Model

/-!
# Channels are handled while they are registered

What waits among the active channels keeps its registration, unless user code
closes another connection of the same loop, restarts a connector or takes away
one of the other channels.
-/

namespace Wethands
namespace Net

open Foundation Utils Reactor

namespace ActiveChannels

open Ownership (Owned Sound)
open TcpConnection (Callback CloseCallback States ReadResult WriteResult)

variable {ThreadId ι κ : Type} {loop next : Loop ThreadId ι κ}

structure Awaits (owned : Owned ThreadId) : Prop where
  ahead : exists revents, owned.dispatch = Ownership.Dispatch.ahead revents
  registered : Ownership.Registered owned

structure Orderly (loop : Loop ThreadId ι κ) : Prop where
  sound : forall i, exists tr, Sound (loop.connections i) tr
  listed : forall i revents,
    (loop.connections i).dispatch = Ownership.Dispatch.ahead revents ->
      Source.connection i ∈ loop.activeChannels_
  connections : forall i, Source.connection i ∈ loop.activeChannels_ ->
    Awaits (loop.connections i)
  connectors : forall k, Source.connector k ∈ loop.activeChannels_ ->
    Connector.Waiting (loop.connectors k)
  others : forall fd, Source.other fd ∈ loop.activeChannels_ ->
    fd ∈ loop.registered
  kept : forall source, source ∈ loop.activeChannels_ ->
    source ∉ loop.removed
  nodup : loop.activeChannels_.Nodup

theorem orderly_init (closeCallback : ι -> CloseCallback)
    (newConnectionCallback : κ -> Bool) :
    Orderly (Init ThreadId closeCallback newConnectionCallback) where
  sound := fun i => ⟨[], Ownership.sound_init (closeCallback i)⟩
  listed := by simp [Init, Ownership.Init]
  connections := by simp [Init]
  connectors := by simp [Init]
  others := by simp [Init]
  kept := by simp [Init]
  nodup := List.nodup_nil

theorem Awaits.alive {owned : Owned ThreadId}
    {tr : List Ownership.Event} (h : Awaits owned) (hsound : Sound owned tr) :
    0 < Ownership.References owned := by
  by_contra hdead
  have hunregistered := hsound.unregistered (by omega)
  have hregistered := h.registered
  rw [Ownership.Registered, hunregistered] at hregistered
  cases hregistered

theorem Awaits.not_gone {before after : Owned ThreadId}
    {tr : List Ownership.Event} (h : Awaits after) (hsound : Sound after tr) :
    ¬Gone before after := by
  have halive := h.alive hsound
  rintro (⟨_, hnot⟩ | ⟨_, hdead⟩)
  · exact hnot h.registered
  · omega

theorem not_lost {before after : Connector.World}
    (h : Connector.Waiting after) : ¬Lost before after := by
  rintro (⟨_, hnot⟩ | ⟨_, hdead⟩)
  · rw [h.2] at hnot
    cases hnot
  · rw [h.1] at hdead
    cases hdead

theorem Orderly.of_abandoned (h : Orderly loop) (abandoned : List ι) :
    Orderly { loop with abandoned := abandoned } :=
  ⟨h.sound, h.listed, h.connections, h.connectors, h.others, h.kept, h.nodup⟩

theorem Orderly.of_current (h : Orderly loop)
    (current : Option (Source ι κ)) :
    Orderly { loop with current := current } :=
  ⟨h.sound, h.listed, h.connections, h.connectors, h.others, h.kept, h.nodup⟩

theorem Orderly.pop {fd : Nat} {rest : List (Source ι κ)}
    (h : Orderly loop)
    (hactive : loop.activeChannels_ = Source.other fd :: rest)
    (current : Option (Source ι κ)) :
    Orderly { loop with activeChannels_ := rest, current := current } := by
  have hmem : forall source, source ∈ rest ->
      source ∈ loop.activeChannels_ := by
    intro source hrest
    rw [hactive]
    exact List.mem_cons_of_mem _ hrest
  have hnodup := h.nodup
  rw [hactive, List.nodup_cons] at hnodup
  refine ⟨h.sound, ?_, fun i hrest => h.connections i (hmem _ hrest),
    fun k hrest => h.connectors k (hmem _ hrest),
    fun other hrest => h.others other (hmem _ hrest),
    fun source hrest => h.kept source (hmem _ hrest), hnodup.2⟩
  intro i revents hahead
  have hlisted := h.listed i revents hahead
  rw [hactive] at hlisted
  simpa using hlisted

def Present (loop : Loop ThreadId ι κ) : Source ι κ -> Prop
  | Source.connection i =>
      Ownership.Registered (loop.connections i) ∧
        0 < Ownership.References (loop.connections i)
  | Source.connector k => Connector.Waiting (loop.connectors k)
  | Source.other fd => fd ∈ loop.registered

theorem Orderly.present (h : Orderly loop) {source : Source ι κ}
    (hmem : source ∈ loop.activeChannels_) : Present loop source := by
  cases source with
  | connection i =>
      rcases h.sound i with ⟨tr, hsound⟩
      have hawaits := h.connections i hmem
      exact ⟨hawaits.registered, hawaits.alive hsound⟩
  | connector k => exact h.connectors k hmem
  | other fd => exact h.others fd hmem

section Sources

variable [DecidableEq ι] [DecidableEq κ]

/-- A channel is lost in a step only after its last event was handled. -/
theorem Orderly.kept_after (h : Orderly loop) {own : Source ι κ} {lost : Prop}
    [Decidable lost]
    (hactive : forall source, source ≠ own ->
      (source ∈ next.activeChannels_ <-> source ∈ loop.activeChannels_))
    (hremoved : next.removed =
      if lost then own :: loop.removed else loop.removed)
    (hown : own ∈ next.activeChannels_ -> ¬lost ∧ own ∉ loop.removed)
    {source : Source ι κ} (hmem : source ∈ next.activeChannels_) :
    source ∉ next.removed := by
  rw [hremoved]
  by_cases hsame : source = own
  · subst hsame
    rcases hown hmem with ⟨hthere, hnot⟩
    rw [if_neg hthere]
    exact hnot
  · have hold := h.kept source ((hactive source hsame).mp hmem)
    split
    · rw [List.mem_cons, not_or]
      exact ⟨hsame, hold⟩
    · exact hold

omit [DecidableEq κ] in
theorem yields_move {i : ι} {call : Call (Owned ThreadId) Ownership.Event}
    {Q : Loop ThreadId ι κ -> List (Event ι κ) -> Prop}
    (h : Yields call (fun owned es =>
      Q (Moved loop i owned es) (es.map (Event.connection i)))) :
    Yields (Move loop i call) Q := by
  unfold Move
  split
  · exact yields_error
  · rename_i owned es
    split
    · exact yields_error
    · exact yields_ok.mpr (h owned es rfl)

theorem Orderly.connection (h : Orderly loop) {i : ι} {owned : Owned ThreadId}
    (hconnections : next.connections = Function.update loop.connections i owned)
    (hconnectors : next.connectors = loop.connectors)
    (hregistered : next.registered = loop.registered)
    (hactive : forall source, source ≠ Source.connection i ->
      (source ∈ next.activeChannels_ <-> source ∈ loop.activeChannels_))
    (hnodup : next.activeChannels_.Nodup)
    (hremoved : next.removed = if Gone (loop.connections i) owned then
      Source.connection i :: loop.removed else loop.removed)
    (hsound : exists tr, Sound owned tr)
    (hlisted : forall revents,
      owned.dispatch = Ownership.Dispatch.ahead revents ->
        Source.connection i ∈ next.activeChannels_)
    (hawaits : Source.connection i ∈ next.activeChannels_ ->
      Awaits owned ∧ Source.connection i ∉ loop.removed) :
    Orderly next where
  sound := by
    intro j
    by_cases hsame : j = i
    · subst hsame
      rw [hconnections, Function.update_self]
      exact hsound
    · rw [hconnections, Function.update_of_ne hsame]
      exact h.sound j
  listed := by
    intro j revents hahead
    by_cases hsame : j = i
    · subst hsame
      rw [hconnections, Function.update_self] at hahead
      exact hlisted revents hahead
    · rw [hconnections, Function.update_of_ne hsame] at hahead
      exact (hactive _ (by simp [hsame])).mpr (h.listed j revents hahead)
  connections := by
    intro j hmem
    by_cases hsame : j = i
    · subst hsame
      rw [hconnections, Function.update_self]
      exact (hawaits hmem).1
    · rw [hconnections, Function.update_of_ne hsame]
      exact h.connections j ((hactive _ (by simp [hsame])).mp hmem)
  connectors := by
    intro k hmem
    rw [hconnectors]
    exact h.connectors k ((hactive _ (by simp)).mp hmem)
  others := by
    intro fd hmem
    rw [hregistered]
    exact h.others fd ((hactive _ (by simp)).mp hmem)
  kept := by
    intro source
    refine h.kept_after hactive hremoved ?_
    intro hmem
    rcases hsound with ⟨tr, hsound⟩
    rcases hawaits hmem with ⟨hwaits, hnot⟩
    exact ⟨hwaits.not_gone hsound, hnot⟩
  nodup := hnodup

theorem Orderly.connector (h : Orderly loop) {k : κ} {world : Connector.World}
    (hconnections : next.connections = loop.connections)
    (hconnectors : next.connectors = Function.update loop.connectors k world)
    (hregistered : next.registered = loop.registered)
    (hactive : forall source, source ≠ Source.connector k ->
      (source ∈ next.activeChannels_ <-> source ∈ loop.activeChannels_))
    (hnodup : next.activeChannels_.Nodup)
    (hremoved : next.removed = if Lost (loop.connectors k) world then
      Source.connector k :: loop.removed else loop.removed)
    (hwaits : Source.connector k ∈ next.activeChannels_ ->
      Connector.Waiting world ∧ Source.connector k ∉ loop.removed) :
    Orderly next where
  sound := by
    rw [hconnections]
    exact h.sound
  listed := by
    intro i revents hahead
    rw [hconnections] at hahead
    exact (hactive _ (by simp)).mpr (h.listed i revents hahead)
  connections := by
    intro i hmem
    rw [hconnections]
    exact h.connections i ((hactive _ (by simp)).mp hmem)
  connectors := by
    intro j hmem
    by_cases hsame : j = k
    · subst hsame
      rw [hconnectors, Function.update_self]
      exact (hwaits hmem).1
    · rw [hconnectors, Function.update_of_ne hsame]
      exact h.connectors j ((hactive _ (by simp [hsame])).mp hmem)
  others := by
    intro fd hmem
    rw [hregistered]
    exact h.others fd ((hactive _ (by simp)).mp hmem)
  kept := by
    intro source
    refine h.kept_after hactive hremoved ?_
    intro hmem
    rcases hwaits hmem with ⟨hwaiting, hnot⟩
    exact ⟨not_lost hwaiting, hnot⟩
  nodup := hnodup

/-!
# What keeps the channels in order
-/

/--
While a channel waits for its turn, its connection is not closed by user code
on the loop, if its owner is on this loop, its connector is not restarted, and
it is not taken from the poller, if it is another one.
-/
def KeepsActive (loop : Loop ThreadId ι κ) : Input ThreadId ι κ -> Prop
  | Input.connection i input =>
      Ownership.ClosesNow input = true ->
        (loop.connections i).world.conn.closeCallback_ =
          CloseCallback.sameLoop ->
        Source.connection i ∉ loop.activeChannels_
  | Input.connector k Connector.Input.restart =>
      Source.connector k ∉ loop.activeChannels_
  | Input.removeFromPoller fd => Source.other fd ∉ loop.activeChannels_
  | _ => True

instance : LawfulBEq (Source ι κ) :=
  inferInstance

instance (loop : Loop ThreadId ι κ) (i : Input ThreadId ι κ) :
    Decidable (KeepsActive loop i) := by
  apply Input.casesOn (motive := fun i => Decidable (KeepsActive loop i)) i
  case connector =>
    intro k input
    apply Connector.Input.casesOn
      (motive := fun input => Decidable (KeepsActive loop
        (Input.connector k input))) input
    all_goals intros; dsimp only [KeepsActive]; infer_instance
  all_goals intros; dsimp only [KeepsActive]; infer_instance

variable (clock : Nat -> Timestamp)

theorem onConnector_orderly (h : Orderly loop) {k : κ}
    {input : Connector.Input} (hown : OfLoopConnector input = false)
    (hkeeps : KeepsActive loop (Input.connector k input)) :
    Yields (OnConnector clock loop k input)
      (fun next _ => Orderly next) := by
  unfold OnConnector
  split
  · exact yields_error
  · rename_i world es hperform
    refine yields_ok.mpr (h.connector rfl rfl rfl (fun _ _ => Iff.rfl) h.nodup
      rfl ?_)
    intro hmem
    refine ⟨?_, h.kept _ hmem⟩
    have hrestart : input ≠ Connector.Input.restart := by
      intro hrestart
      subst hrestart
      exact hkeeps hmem
    have hhandle : forall revents isError isSelfConnect,
        input ≠ Connector.Input.handleEvent revents isError isSelfConnect := by
      intro revents isError isSelfConnect hhandle
      subst hhandle
      cases hown
    exact Connector.perform_waiting clock (h.connectors k hmem) hrestart
      hhandle world es hperform

variable [DecidableEq ThreadId]

theorem perform_dispatch {owned : Owned ThreadId}
    {input : Ownership.Input ThreadId} (hown : OfLoop input = false) :
    Yields (Ownership.Perform owned input)
      (fun next _ => next.dispatch = owned.dispatch) := by
  have hmoved := Ownership.perform_of_act (Ownership.act_dispatch owned input)
  cases input with
  | poll revents => cases hown
  | handleEvent read write => cases hown
  | resume read write => cases hown
  | _ => exact hmoved

theorem Awaits.perform {owned : Owned ThreadId} {tr : List Ownership.Event}
    (h : Awaits owned) (hsound : Sound owned tr)
    {input : Ownership.Input ThreadId} (hown : OfLoop input = false)
    (hclose : Ownership.ClosesNow input = true ->
      owned.world.conn.closeCallback_ ≠ CloseCallback.sameLoop) :
    Yields (Ownership.Perform owned input) (fun next _ => Awaits next) := by
  have hbusy : owned.dispatch ≠ Ownership.Dispatch.idle := by
    rcases h.ahead with ⟨revents, hahead⟩
    simp [hahead]
  have hclosing : owned.world.conn.closeCallback_ = CloseCallback.sameLoop ->
      ¬Ownership.MayClose input := by
    intro hsame hmay
    cases input with
    | api api =>
        cases hmay
        exact hclose rfl hsame
    | handleEvent read write => cases hown
    | resume read write => cases hown
    | _ => exact hmay
  intro next es hperform
  constructor
  · rw [perform_dispatch hown next es hperform]
    exact h.ahead
  · exact Ownership.perform_of_act (Ownership.act_registered h.registered
      (hsound.exclusive hbusy) hclosing) next es hperform

theorem onConnection_orderly (h : Orderly loop) {i : ι}
    {input : Ownership.Input ThreadId} (hown : OfLoop input = false)
    (hkeeps : KeepsActive loop (Input.connection i input)) :
    Yields (OnConnection loop i input) (fun next _ => Orderly next) := by
  refine yields_move (fun owned es hperform => ?_)
  rcases h.sound i with ⟨tr, hsound⟩
  refine h.connection rfl rfl rfl (fun _ _ => Iff.rfl) h.nodup rfl
    ⟨_, Ownership.perform_sound hsound input owned es hperform⟩ ?_ ?_
  · intro revents hahead
    rw [perform_dispatch hown owned es hperform] at hahead
    exact h.listed i revents hahead
  · intro hmem
    refine ⟨?_, h.kept _ hmem⟩
    exact (h.connections i hmem).perform hsound hown
      (fun hforce hsame => hkeeps hforce hsame hmem) owned es hperform

/-!
# Owners and other channels
-/

omit [DecidableEq ι] [DecidableEq κ] [DecidableEq ThreadId] in
theorem release_yields (owned : Owned ThreadId) :
    Yields (Release owned) (fun next es => es = [] ∧ exists functors,
      next = { owned with
        listed := false
        world := { owned.world with pendingFunctors_ := functors } }) := by
  unfold Release
  split
  · exact yields_ok.mpr ⟨rfl, _, rfl⟩
  · exact yields_ok.mpr ⟨rfl, _, rfl⟩

omit [DecidableEq ι] [DecidableEq κ] [DecidableEq ThreadId] in
theorem release_sound {owned : Owned ThreadId} {tr : List Ownership.Event}
    (h : Sound owned tr) (hlisted : owned.listed = true) :
    Yields (Ownership.Settle owned (Release owned)) (fun next es =>
      Sound next (tr ++ es) ∧ next.dispatch = owned.dispatch ∧
        next.world.conn = owned.world.conn) := by
  have halive : 0 < Ownership.References owned := by
    simp only [Ownership.References, hlisted, Bool.toNat_true]
    omega
  have hundestroyed : Ownership.Event.destroyed ∉ tr := by
    intro hmem
    have hdead := h.destroyed.mp hmem
    omega
  apply Ownership.yields_settle
  intro next es hrelease
  rcases release_yields owned next es hrelease with ⟨rfl, functors, rfl⟩
  split
  · rename_i hlast
    exact fun hdestructible => ⟨⟨h.tracked, h.exclusive, h.unasked,
      by simp [hlast.2], fun _ => hdestructible.2⟩, rfl, rfl⟩
  · rename_i hlast
    refine ⟨⟨h.tracked, h.exclusive, h.unasked, ?_, ?_⟩, rfl, rfl⟩
    · rw [List.append_nil]
      exact iff_of_false hundestroyed (fun hdead => hlast ⟨halive, hdead⟩)
    · exact fun hdead => absurd ⟨halive, hdead⟩ hlast

omit [DecidableEq ThreadId] in
theorem destroyOwner_orderly (h : Orderly loop) (i : ι) :
    Yields (DestroyOwner loop i) (fun next _ => Orderly next) := by
  refine Yields.only_if (fun hlisted => Yields.in_turn ?_)
  rcases h.sound i with ⟨tr, hsound⟩
  refine yields_move (fun owned es hrelease => yields_ok.mpr ?_)
  rcases release_sound hsound hlisted owned es hrelease with
    ⟨hnext, hdispatch, hconn⟩
  have hmoved : Orderly (Moved loop i owned es) := by
    refine h.connection rfl rfl rfl (fun _ _ => Iff.rfl) h.nodup rfl
      ⟨_, hnext⟩ ?_ ?_
    · intro revents hahead
      rw [hdispatch] at hahead
      exact h.listed i revents hahead
    · intro hmem
      have hawaits := h.connections i hmem
      refine ⟨⟨?_, ?_⟩, h.kept _ hmem⟩
      · rw [hdispatch]
        exact hawaits.ahead
      · rw [Ownership.Registered, hconn]
        exact hawaits.registered
  exact hmoved.of_abandoned _

omit [DecidableEq ι] [DecidableEq κ] [DecidableEq ThreadId] in
theorem registerToPoller_orderly (h : Orderly loop) (fd : Nat) :
    Yields (RegisterToPoller loop fd) (fun next _ => Orderly next) := by
  unfold RegisterToPoller
  split
  · exact yields_ok.mpr h
  · exact yields_ok.mpr ⟨h.sound, h.listed, h.connections, h.connectors,
      fun other hmem => List.mem_cons_of_mem _ (h.others other hmem), h.kept,
      h.nodup⟩

omit [DecidableEq ι] [DecidableEq κ] [DecidableEq ThreadId] in
theorem removeFromPoller_orderly (h : Orderly loop) {fd : Nat}
    (hkeeps : Source.other fd ∉ loop.activeChannels_) :
    Yields (RemoveFromPoller loop fd) (fun next _ => Orderly next) := by
  refine Yields.only_if (fun _ => yields_ok.mpr ⟨h.sound, h.listed,
    h.connections, h.connectors, ?_, ?_, h.nodup⟩)
  · intro other hmem
    have hdiffers : other ≠ fd := by
      rintro rfl
      exact hkeeps hmem
    exact List.mem_filter.mpr ⟨h.others other hmem, by simpa using hdiffers⟩
  · intro source hmem
    have hdiffers : source ≠ Source.other fd := by
      rintro rfl
      exact hkeeps hmem
    rw [List.mem_cons, not_or]
    exact ⟨hdiffers, h.kept source hmem⟩

/-!
# The loop itself
-/

theorem handleEvent_orderly (h : Orderly loop) (read : ReadResult)
    (write : WriteResult) (revents : BitVec 32) (isError : Nat)
    (isSelfConnect : Bool) :
    Yields (HandleEvent clock loop read write revents isError isSelfConnect)
      (fun next _ => Orderly next) := by
  unfold HandleEvent
  split
  · rename_i source rest hactive _
    have hnodup := h.nodup
    rw [hactive, List.nodup_cons] at hnodup
    have hothers : forall other, other ≠ source ->
        (other ∈ rest <-> other ∈ loop.activeChannels_) := by
      intro other hother
      rw [hactive, List.mem_cons, or_iff_right hother]
    refine Yields.in_turn (yields_ok.mpr ?_)
    cases source with
    | connection i =>
        refine yields_move (fun owned es hperform => ?_)
        rcases h.sound i with ⟨tr, hsound⟩
        have hmoved := Ownership.perform_of_act
          (Ownership.act_dispatch _ _) owned es hperform
        refine h.connection rfl rfl rfl hothers hnodup.2 rfl
          ⟨_, Ownership.perform_sound hsound _ owned es hperform⟩ ?_ ?_
        · intro revents' hahead
          rcases hmoved.2 with ⟨_, _, hhandling⟩
          rw [hahead] at hhandling
          cases hhandling
        · exact fun hrest => absurd hrest hnodup.1
    | connector k =>
        dsimp only
        unfold OnConnector
        split
        · exact yields_error
        · exact yields_ok.mpr (h.connector rfl rfl rfl hothers hnodup.2 rfl
            (fun hrest => absurd hrest hnodup.1))
    | other fd => exact yields_ok.mpr (h.pop hactive _)
  · exact yields_error

theorem resume_orderly (h : Orderly loop) (read : ReadResult)
    (write : WriteResult) :
    Yields (Resume clock loop read write) (fun next _ => Orderly next) := by
  unfold Resume
  split
  · exact yields_error
  · rename_i i _
    refine Yields.in_turn (Yields.mono (Q := fun next _ => Orderly next) ?_
      (fun next es hnext => yields_ok.mpr (hnext.of_current _)))
    refine yields_move (fun owned es hperform => ?_)
    rcases h.sound i with ⟨tr, hsound⟩
    have hmoved := Ownership.perform_of_act
      (Ownership.act_dispatch _ _) owned es hperform
    refine h.connection rfl rfl rfl (fun _ _ => Iff.rfl) h.nodup rfl
      ⟨_, Ownership.perform_sound hsound _ owned es hperform⟩ ?_ ?_
    · exact fun revents hahead => absurd hahead (hmoved.2 revents)
    · intro hmem
      rcases (h.connections i hmem).ahead with ⟨revents, hahead⟩
      have hhandling := hmoved.1
      rw [hahead] at hhandling
      cases hhandling
  · rename_i k _
    refine Yields.in_turn (Yields.mono (Q := fun next _ => Orderly next) ?_
      (fun next es hnext => yields_ok.mpr (hnext.of_current _)))
    unfold OnConnector
    split
    · exact yields_error
    · rename_i world es hperform
      refine yields_ok.mpr (h.connector rfl rfl rfl (fun _ _ => Iff.rfl)
        h.nodup rfl ?_)
      intro hmem
      refine ⟨?_, h.kept _ hmem⟩
      exact Connector.perform_waiting clock (h.connectors k hmem) (by simp)
        (by simp) world es hperform
  · exact yields_ok.mpr (h.of_current none)

theorem updateRevents_orderly (h : Orderly loop)
    (hremoved : loop.removed = []) {source : Source ι κ}
    (hnew : source ∉ loop.activeChannels_) (revents : BitVec 32) :
    Yields (UpdateRevents clock { loop with
        activeChannels_ := loop.activeChannels_ ++ [source] } revents source)
      (fun next _ => Orderly next ∧ next.removed = []) := by
  have hothers : forall other, other ≠ source ->
      (other ∈ loop.activeChannels_ ++ [source] <->
        other ∈ loop.activeChannels_) := by
    intro other hother
    simp [hother]
  have hnodup : (loop.activeChannels_ ++ [source]).Nodup := by
    rw [List.nodup_append]
    refine ⟨h.nodup, List.nodup_singleton source, ?_⟩
    intro a ha b hb hsame
    rw [List.mem_singleton] at hb
    exact hnew (hb ▸ hsame ▸ ha)
  have hlast : source ∈ loop.activeChannels_ ++ [source] := by simp
  cases source with
  | connection i =>
      refine yields_move (fun owned es hperform => ?_)
      rcases h.sound i with ⟨tr, hsound⟩
      have hsoundNext := Ownership.perform_sound hsound _ owned es hperform
      have hmoved := Ownership.perform_of_act
        (Ownership.act_dispatch _ _) owned es hperform
      have hawaits : Awaits owned := by
        refine ⟨⟨revents, hmoved.2.1⟩, ?_⟩
        rw [Ownership.Registered, hmoved.2.2.2.2]
        exact hmoved.2.2.1
      have hnot : ¬Gone (loop.connections i) owned :=
        hawaits.not_gone hsoundNext
      refine ⟨h.connection rfl rfl rfl hothers hnodup rfl
        ⟨_, hsoundNext⟩ (fun _ _ => hlast) (fun _ => ⟨hawaits, ?_⟩), ?_⟩
      · simp [hremoved]
      · rw [Moved, if_neg hnot]
        exact hremoved
  | connector k =>
      unfold UpdateRevents OnConnector
      dsimp only
      split
      · exact yields_error
      · rename_i world es hperform
        have hwaiting := Connector.poll_waiting clock _ world es hperform
        have hnot : ¬Lost (loop.connectors k) world := not_lost hwaiting
        refine yields_ok.mpr ⟨h.connector rfl rfl rfl hothers hnodup rfl
          (fun _ => ⟨hwaiting, ?_⟩), ?_⟩
        · simp [hremoved]
        · rw [if_neg hnot]
          exact hremoved
  | other fd =>
      refine Yields.only_if (fun hregistered => yields_ok.mpr
        ⟨⟨h.sound, ?_, ?_, ?_, ?_, ?_, hnodup⟩, hremoved⟩)
      · exact fun i revents hahead =>
          List.mem_append.mpr (Or.inl (h.listed i revents hahead))
      · exact fun i hmem => h.connections i
          ((hothers _ (by simp)).mp hmem)
      · exact fun k hmem => h.connectors k ((hothers _ (by simp)).mp hmem)
      · intro other hmem
        by_cases hsame : other = fd
        · exact hsame ▸ hregistered
        · exact h.others other ((hothers _ (by simp [hsame])).mp hmem)
      · simp [hremoved]

theorem poll_orderly (ready : List (Source ι κ × BitVec 32))
    {loop : Loop ThreadId ι κ} (h : Orderly loop)
    (hremoved : loop.removed = []) :
    Yields (Poll clock loop ready) (fun next _ => Orderly next) := by
  induction ready generalizing loop with
  | nil => exact yields_ok.mpr h
  | cons first rest ih =>
      rcases first with ⟨source, revents⟩
      rw [Poll]
      split
      · exact yields_error
      · rename_i hnew
        refine Yields.in_turn
          ((updateRevents_orderly clock h hremoved hnew revents).mono ?_)
        exact fun next es hnext => ih hnext.1 hnext.2

theorem perform_orderly (h : Orderly loop) {i : Input ThreadId ι κ}
    (hkeeps : KeepsActive loop i) :
    Yields (Perform clock loop i) (fun next _ => Orderly next) := by
  cases i with
  | poll ready =>
      unfold Perform
      dsimp only
      split
      · rename_i hidle
        refine poll_orderly clock ready ?_ rfl
        refine ⟨h.sound, h.listed, h.connections, h.connectors, h.others, ?_,
          h.nodup⟩
        simp
      · exact yields_error
  | handleEvent read write revents isError isSelfConnect =>
      exact handleEvent_orderly clock h read write revents isError
        isSelfConnect
  | resume read write => exact resume_orderly clock h read write
  | connection i input =>
      unfold Perform
      dsimp only
      split
      · exact onConnection_orderly h ‹_› hkeeps
      · exact yields_error
  | connector k input =>
      unfold Perform
      dsimp only
      split
      · exact onConnector_orderly clock h ‹_› hkeeps
      · exact yields_error
  | destroyOwner i => exact destroyOwner_orderly h i
  | registerToPoller fd => exact registerToPoller_orderly h fd
  | removeFromPoller fd => exact removeFromPoller_orderly h hkeeps

end Sources

end ActiveChannels
end Net
end Wethands
