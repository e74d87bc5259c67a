import Wethands.Foundation.Machine
import Wethands.Net.InetAddress

/-!
# The connections of a server

The main loop accepts connections and keeps them in a map by their names.  The
loops of the connections ask for their removal, which waits in the queue of the
main loop unless the caller is on its thread.
-/

namespace Wethands
namespace Net

open Foundation

namespace TcpServer

structure Connection (Loop : Type) where
  name_ : List Byte
  loop_ : Loop
deriving DecidableEq

inductive Task where
  | connectionEstablished (conn : Nat)
  | connectionDestroyed (conn : Nat)
deriving DecidableEq

inductive Event (Loop : Type) where
  | accepted (name : List Byte) (conn : Nat)
  | removed (conn : Nat)
  | runInLoop (loop : Loop) (task : Task)
deriving DecidableEq

end TcpServer

open TcpServer

/--
A pointer to a connection is its place among those that were made, and
`pendingFunctors_` are the removals that wait in the queue of the main loop.
-/
structure TcpServer (Loop : Type) where
  loop_ : Loop
  loops_ : List Loop
  next_ : Nat
  connCount_ : BitVec 32
  conns : List (Connection Loop)
  connections_ : OrderedMap (κ := List Byte) Nat StringLess
  pendingFunctors_ : List Nat

namespace TcpServer

variable {Loop : Type} [DecidableEq Loop]

def Init (loop_ : Loop) (loops_ : List Loop) : TcpServer Loop where
  loop_ := loop_
  loops_ := loops_
  next_ := 0
  connCount_ := 0
  conns := []
  connections_ := OrderedSet.Empty _
  pendingFunctors_ := []

/-!
# Member functions
-/

def NextLoop (server : TcpServer Loop) : Outcome (Loop × TcpServer Loop) :=
  match server.loops_ with
  | [] => Except.ok (server.loop_, server)
  | _ =>
      let next := if server.next_ = server.loops_.length then 0
        else server.next_
      match server.loops_[next]? with
      | some loop => Except.ok (loop, { server with next_ := next + 1 })
      | none => Except.error Failure.danglingPointer

def ConnName (peerAddr : InetAddress) (connCount : BitVec 32) : List Byte :=
  peerAddr.ToString true ++ Ascii "#" ++ ToDecimal connCount.toInt

def NewConnection (server : TcpServer Loop) (peerAddr : InetAddress) :
    Call (TcpServer Loop) (Event Loop) :=
  match server.NextLoop with
  | Except.error failure => Except.error failure
  | Except.ok (ioLoop, server) =>
      let connCount := server.connCount_ + 1
      let connName := ConnName peerAddr connCount
      let conn := server.conns.length
      Except.ok ({ server with
        connCount_ := connCount
        conns := server.conns ++ [{ name_ := connName, loop_ := ioLoop }]
        connections_ :=
          OrderedMap.Assign server.connections_ connName conn },
        [Event.accepted connName conn,
          Event.runInLoop ioLoop (Task.connectionEstablished conn)])

def RemoveConnectionInLoop (server : TcpServer Loop) (conn : Nat) :
    Call (TcpServer Loop) (Event Loop) :=
  match server.conns[conn]? with
  | none => Except.error Failure.impossible
  | some connection =>
      Except.ok ({ server with
        connections_ :=
          OrderedMap.Remove server.connections_ connection.name_ },
        [Event.removed conn,
          Event.runInLoop connection.loop_ (Task.connectionDestroyed conn)])

/-- `RemoveConnection`, called on the thread of a loop. -/
def RemoveConnection (server : TcpServer Loop) (caller : Loop) (conn : Nat) :
    Call (TcpServer Loop) (Event Loop) :=
  if conn < server.conns.length then
    if caller = server.loop_ then server.RemoveConnectionInLoop conn
    else Except.ok ({ server with
      pendingFunctors_ := server.pendingFunctors_ ++ [conn] }, [])
  else Except.error Failure.impossible

def RunFunctor (server : TcpServer Loop) :
    Call (TcpServer Loop) (Event Loop) :=
  match server.pendingFunctors_ with
  | [] => Except.error Failure.impossible
  | conn :: rest =>
      { server with pendingFunctors_ := rest }.RemoveConnectionInLoop conn

inductive Input (Loop : Type) where
  | newConnection (peerAddr : InetAddress)
  | removeConnection (caller : Loop) (conn : Nat)
  | runFunctor

def Perform (server : TcpServer Loop) :
    Input Loop -> Call (TcpServer Loop) (Event Loop)
  | Input.newConnection peerAddr => server.NewConnection peerAddr
  | Input.removeConnection caller conn => server.RemoveConnection caller conn
  | Input.runFunctor => server.RunFunctor

def ServerMachine (Loop : Type) [DecidableEq Loop] :
    Machine (TcpServer Loop) (Input Loop) (Event Loop) where
  Step server i := Answer (server.Perform i)

/-!
# Names
-/

theorem stringLess_equivalent {a b : List Byte} :
    OrderedSet.Equivalent StringLess a b <-> a = b := by
  constructor
  · intro hboth
    rcases hboth with ⟨hab, hba⟩
    have hsame := le_antisymm (not_lt.mp hba) (not_lt.mp hab)
    exact List.map_injective_iff.mpr (fun _ _ => UInt8.toNat_inj.mp) hsame
  · rintro rfl
    exact ⟨irrefl_of StringLess a, irrefl_of StringLess a⟩

theorem toDecimal_count {count : Nat} (h : count < 2 ^ 31) :
    ToDecimal (BitVec.ofNat 32 count).toInt = Decimal count := by
  have hcount : (BitVec.ofNat 32 count).toInt = count := by
    rw [BitVec.toInt_ofNat', Int.bmod_eq_of_le] <;> omega
  rw [hcount, ToDecimal, if_neg (by omega), Int.natAbs_natCast]

theorem connName_injective {first second : InetAddress} {m n : Nat}
    (hm : m < 2 ^ 31) (hn : n < 2 ^ 31)
    (h : ConnName first (BitVec.ofNat 32 m) =
      ConnName second (BitVec.ofNat 32 n)) : m = n := by
  rw [ConnName, ConnName, toDecimal_count hm, toDecimal_count hn,
    List.append_assoc, List.append_assoc] at h
  exact decimal_of_same_text h

def NameOf (server : TcpServer Loop) (conn : Nat) : Option (List Byte) :=
  server.conns[conn]?.map Connection.name_

/-!
# What a step can do
-/

inductive Transition : TcpServer Loop -> TcpServer Loop ->
    List (Event Loop) -> Prop where
  | accepted {server : TcpServer Loop} (peerAddr : InetAddress)
      (ioLoop : Loop) {next_ : Nat} :
      next_ ≤ server.loops_.length ->
      Transition server
        { server with
          next_ := next_
          connCount_ := server.connCount_ + 1
          conns := server.conns ++
            [⟨ConnName peerAddr (server.connCount_ + 1), ioLoop⟩]
          connections_ := OrderedMap.Assign server.connections_
            (ConnName peerAddr (server.connCount_ + 1)) server.conns.length }
        [Event.accepted (ConnName peerAddr (server.connCount_ + 1))
            server.conns.length,
          Event.runInLoop ioLoop
            (Task.connectionEstablished server.conns.length)]
  | removed {server : TcpServer Loop} (conn : Nat)
      (connection : Connection Loop) (pending : List Nat) :
      server.conns[conn]? = some connection ->
      Transition server
        { server with
          connections_ :=
            OrderedMap.Remove server.connections_ connection.name_
          pendingFunctors_ := pending }
        [Event.removed conn,
          Event.runInLoop connection.loop_ (Task.connectionDestroyed conn)]
  | queued {server : TcpServer Loop} (pending : List Nat) :
      Transition server { server with pendingFunctors_ := pending } []

omit [DecidableEq Loop] in
theorem nextLoop_ok {server : TcpServer Loop}
    (h : server.next_ ≤ server.loops_.length) :
    exists ioLoop next_, next_ ≤ server.loops_.length ∧
      server.NextLoop = Except.ok (ioLoop, { server with next_ := next_ }) := by
  rw [NextLoop]
  split
  · exact ⟨server.loop_, server.next_, h, rfl⟩
  · rename_i hne
    have hpos : 0 < server.loops_.length := List.length_pos_iff.mpr hne
    have hlt : (if server.next_ = server.loops_.length then 0
        else server.next_) < server.loops_.length := by
      split <;> omega
    simp only [List.getElem?_eq_getElem hlt]
    exact ⟨_, _, hlt, rfl⟩

omit [DecidableEq Loop] in
theorem newConnection_ok {server : TcpServer Loop}
    (h : server.next_ ≤ server.loops_.length) (peerAddr : InetAddress) :
    exists next es, server.NewConnection peerAddr = Except.ok (next, es) ∧
      Transition server next es := by
  rcases nextLoop_ok h with ⟨ioLoop, next_, hnext, hloop⟩
  refine ⟨_, _, ?_, Transition.accepted peerAddr ioLoop hnext⟩
  rw [NewConnection, hloop]

omit [DecidableEq Loop] in
theorem removeConnectionInLoop_transition {server next : TcpServer Loop}
    {conn : Nat} {pending : List Nat} {es : List (Event Loop)}
    (h : { server with pendingFunctors_ := pending }.RemoveConnectionInLoop
      conn = Except.ok (next, es)) : Transition server next es := by
  unfold RemoveConnectionInLoop at h
  split at h
  · cases h
  · rename_i connection hconn
    cases h
    exact Transition.removed conn connection pending hconn

theorem perform_transition {server next : TcpServer Loop} {i : Input Loop}
    {es : List (Event Loop)} (hnext : server.next_ ≤ server.loops_.length)
    (h : server.Perform i = Except.ok (next, es)) :
    Transition server next es := by
  cases i with
  | newConnection peerAddr =>
      rcases newConnection_ok hnext peerAddr with
        ⟨next', es', hok, htransition⟩
      cases hok.symm.trans h
      exact htransition
  | removeConnection caller conn =>
      rw [Perform, RemoveConnection] at h
      split at h
      · split at h
        · exact removeConnectionInLoop_transition h
        · cases h
          exact Transition.queued _
      · cases h
  | runFunctor =>
      rw [Perform, RunFunctor] at h
      split at h
      · cases h
      · exact removeConnectionInLoop_transition h

/-!
# The invariant
-/

structure Counted (server : TcpServer Loop) : Prop where
  next : server.next_ ≤ server.loops_.length
  count : server.connCount_ = BitVec.ofNat 32 server.conns.length
  named : forall conn name, server.NameOf conn = some name ->
    exists peerAddr, name = ConnName peerAddr (BitVec.ofNat 32 (conn + 1))

structure Exact (server : TcpServer Loop) (tr : List (Event Loop)) : Prop where
  accepted : forall name conn, Event.accepted name conn ∈ tr <->
    server.NameOf conn = some name
  removed : forall conn, Event.removed conn ∈ tr ->
    conn < server.conns.length
  entries : forall name conn, (name, conn) ∈ server.connections_ <->
    Event.accepted name conn ∈ tr ∧ Event.removed conn ∉ tr

omit [DecidableEq Loop] in
theorem counted_init (loop_ : Loop) (loops_ : List Loop) :
    Counted (Init loop_ loops_) := by
  constructor <;> simp [Init, NameOf]

omit [DecidableEq Loop] in
theorem exact_init (loop_ : Loop) (loops_ : List Loop) :
    Exact (Init loop_ loops_) [] := by
  constructor <;> simp [Init, NameOf, OrderedSet.mem_def, OrderedSet.Empty]

omit [DecidableEq Loop] in
theorem nameOf_isSome {server : TcpServer Loop} {conn : Nat}
    {name : List Byte} (h : server.NameOf conn = some name) :
    conn < server.conns.length := by
  rcases Option.map_eq_some_iff.mp h with ⟨connection, hconn, _⟩
  exact (List.getElem?_eq_some_iff.mp hconn).1

omit [DecidableEq Loop] in
theorem names_distinct {server : TcpServer Loop} (h : Counted server)
    (hfew : server.conns.length < 2 ^ 31) {m n : Nat} {name : List Byte}
    (hm : server.NameOf m = some name) (hn : server.NameOf n = some name) :
    m = n := by
  rcases h.named m name hm with ⟨first, hfirst⟩
  rcases h.named n name hn with ⟨second, hsecond⟩
  have hltm := nameOf_isSome hm
  have hltn := nameOf_isSome hn
  have hsame : m + 1 = n + 1 :=
    connName_injective (by omega) (by omega) (hfirst.symm.trans hsecond)
  exact Nat.succ_inj.mp hsame

omit [DecidableEq Loop] in
theorem getElem_append_singleton (conns : List (Connection Loop))
    (connection : Connection Loop) (conn : Nat) (name : List Byte) :
    (conns ++ [connection])[conn]?.map Connection.name_ = some name <->
      conn = conns.length ∧ name = connection.name_ ∨
        conns[conn]?.map Connection.name_ = some name := by
  rw [List.getElem?_append]
  split
  · rename_i hlt
    simp [Nat.ne_of_lt hlt]
  · rename_i hge
    rw [List.getElem?_eq_none (Nat.le_of_not_lt hge), Option.map_none]
    by_cases heq : conn = conns.length
    · subst heq
      simp [eq_comm]
    · have hpos : conn - conns.length ≠ 0 := by omega
      rw [List.getElem?_singleton, if_neg hpos]
      simp [heq]

omit [DecidableEq Loop] in
theorem counted_step {server next : TcpServer Loop} {es : List (Event Loop)}
    (h : Counted server) (hstep : Transition server next es) :
    Counted next := by
  cases hstep with
  | accepted peerAddr ioLoop hnext =>
      have hcount : server.connCount_ + 1 =
          BitVec.ofNat 32 (server.conns.length + 1) := by
        rw [h.count, BitVec.ofNat_add]
        rfl
      constructor
      · exact hnext
      · rw [List.length_append]
        exact hcount
      · intro conn name hname
        rcases (getElem_append_singleton _ _ conn name).mp hname with
          ⟨rfl, rfl⟩ | hold
        · exact ⟨peerAddr, by rw [← hcount]⟩
        · exact h.named conn name hold
  | removed => exact ⟨h.next, h.count, h.named⟩
  | queued => exact ⟨h.next, h.count, h.named⟩

def Changes (server next : TcpServer Loop) (es : List (Event Loop)) : Prop :=
  forall name conn, (name, conn) ∈ next.connections_ <->
    ((name, conn) ∈ server.connections_ ∨ Event.accepted name conn ∈ es) ∧
      Event.removed conn ∉ es

omit [DecidableEq Loop] in
theorem changes_step {server next : TcpServer Loop} {tr es : List (Event Loop)}
    (hcounted : Counted next) (hfew : next.conns.length < 2 ^ 31)
    (h : Exact server tr) (hstep : Transition server next es) :
    Changes server next es := by
  intro name conn
  have hnamed (other : List Byte) (n : Nat)
      (hentry : (other, n) ∈ server.connections_) :
      server.NameOf n = some other :=
    (h.accepted other n).mp ((h.entries other n).mp hentry).1
  cases hstep with
  | accepted peerAddr ioLoop hnext =>
      -- The new name is not that of an entry, so nothing is replaced.
      have hother : (name, conn) ∈ server.connections_ ->
          name ≠ ConnName peerAddr (server.connCount_ + 1) := by
        rintro hentry rfl
        have hold := hnamed _ conn hentry
        have hnew := (getElem_append_singleton server.conns
          ⟨ConnName peerAddr (server.connCount_ + 1), ioLoop⟩ _ _).mpr
            (Or.inl ⟨rfl, rfl⟩)
        have hkept := (getElem_append_singleton server.conns
          ⟨ConnName peerAddr (server.connCount_ + 1), ioLoop⟩ _ _).mpr
            (Or.inr hold)
        have hsame := names_distinct hcounted hfew hkept hnew
        exact Nat.ne_of_lt (nameOf_isSome hold) hsame
      rw [OrderedMap.mem_assign, stringLess_equivalent]
      simp only [Prod.mk.injEq, List.mem_cons, List.not_mem_nil, or_false,
        Event.accepted.injEq, reduceCtorEq, not_false_eq_true, and_true]
      constructor
      · rintro (hnew | ⟨hentry, _⟩)
        · exact Or.inr hnew
        · exact Or.inl hentry
      · rintro (hentry | hnew)
        · exact Or.inr ⟨hentry, hother hentry⟩
        · exact Or.inl hnew
  | removed removedConn connection pending hconn =>
      have hown : server.NameOf removedConn = some connection.name_ := by
        rw [NameOf, hconn, Option.map_some]
      rw [OrderedMap.mem_remove, stringLess_equivalent]
      simp only [List.mem_cons, List.not_mem_nil, or_false, Event.removed.injEq,
        reduceCtorEq]
      apply and_congr_right
      intro hentry
      apply not_congr
      constructor
      · rintro rfl
        exact names_distinct hcounted hfew (hnamed _ conn hentry) hown
      · rintro rfl
        exact Option.some.inj ((hnamed _ conn hentry).symm.trans hown)
  | queued pending =>
      show (name, conn) ∈ server.connections_ <-> _
      simp

omit [DecidableEq Loop] in
theorem exact_step {server next : TcpServer Loop} {tr es : List (Event Loop)}
    (hcounted : Counted next) (hfew : next.conns.length < 2 ^ 31)
    (h : Exact server tr) (hstep : Transition server next es) :
    Exact next (tr ++ es) := by
  have hchanges := changes_step hcounted hfew h hstep
  have hfresh (name : List Byte) (conn : Nat)
      (hnew : Event.accepted name conn ∈ es) : Event.removed conn ∉ tr := by
    cases hstep with
    | accepted peerAddr ioLoop hnext =>
        rcases List.mem_pair.mp hnew with hevent | hevent
        · cases hevent
          exact fun hold => Nat.lt_irrefl _ (h.removed _ hold)
        · cases hevent
    | removed removedConn connection pending hconn => simp at hnew
    | queued pending => simp at hnew
  constructor
  · intro name conn
    rw [List.mem_append, h.accepted]
    cases hstep with
    | accepted peerAddr ioLoop hnext =>
        show _ <-> (server.conns ++ [_])[conn]?.map Connection.name_ = _
        rw [getElem_append_singleton]
        simp [NameOf, or_comm, and_comm]
    | removed removedConn connection pending hconn => simp [NameOf]
    | queued pending => simp [NameOf]
  · intro conn hremoved
    rcases List.mem_append.mp hremoved with hold | hnew
    · have hlt := h.removed conn hold
      cases hstep with
      | accepted peerAddr ioLoop hnext =>
          exact Nat.lt_of_lt_of_le hlt (by simp)
      | removed removedConn connection pending hconn => exact hlt
      | queued pending => exact hlt
    · cases hstep with
      | accepted peerAddr ioLoop hnext => simp at hnew
      | removed removedConn connection pending hconn =>
          have hsame : conn = removedConn := by simpa using hnew
          rw [hsame]
          exact (List.getElem?_eq_some_iff.mp hconn).1
      | queued pending => simp at hnew
  · intro name conn
    rw [hchanges name conn, h.entries, List.mem_append, List.mem_append,
      not_or]
    constructor
    · intro hboth
      rcases hboth with ⟨⟨haccepted, hnot⟩ | hnew, hlast⟩
      · exact ⟨Or.inl haccepted, hnot, hlast⟩
      · exact ⟨Or.inr hnew, hfresh name conn hnew, hlast⟩
    · intro hparts
      rcases hparts with ⟨haccepted | hnew, hnot, hlast⟩
      · exact ⟨Or.inl ⟨haccepted, hnot⟩, hlast⟩
      · exact ⟨Or.inr hnew, hlast⟩

omit [DecidableEq Loop] in
theorem length_step {server next : TcpServer Loop} {es : List (Event Loop)}
    (hstep : Transition server next es) :
    server.conns.length ≤ next.conns.length := by
  cases hstep with
  | accepted => simp
  | removed => exact le_refl _
  | queued => exact le_refl _

def Registered (server : TcpServer Loop) (tr : List (Event Loop)) : Prop :=
  Counted server ∧ (server.conns.length < 2 ^ 31 -> Exact server tr)

theorem registered_run {loop_ : Loop} {loops_ : List Loop}
    {inputs : List (Input Loop)} {server : TcpServer Loop}
    {tr : List (Event Loop)}
    (hrun : (ServerMachine Loop).Run (Init loop_ loops_) inputs =
      some (server, tr)) : Registered server tr := by
  apply Machine.run_invariant (I := Registered) (p := []) ?_
    ⟨counted_init loop_ loops_, fun _ => exact_init loop_ loops_⟩ hrun
  rintro server tr i next es ⟨hcounted, hexact⟩ hstep
  have htransition := perform_transition hcounted.next
    (answer_eq_some.mp hstep)
  have hnext := counted_step hcounted htransition
  refine ⟨hnext, fun hfew => ?_⟩
  have hless := length_step htransition
  exact exact_step hnext hfew (hexact (by omega)) htransition

/--
The names are distinct, an entry stands under the name of its connection, and
the map has exactly the connections that were accepted and not removed.  No step
touches the entry of another connection, and accepting never fails.
-/
theorem registry_exact {loop_ : Loop} {loops_ : List Loop}
    {inputs : List (Input Loop)} {server : TcpServer Loop}
    {tr : List (Event Loop)}
    (hrun : (ServerMachine Loop).Run (Init loop_ loops_) inputs =
      some (server, tr)) (hfew : server.conns.length < 2 ^ 31) :
    (server.conns.map Connection.name_).Nodup ∧
      (forall name conn, (name, conn) ∈ server.connections_ ->
        server.NameOf conn = some name) ∧
      (forall name conn, (name, conn) ∈ server.connections_ <->
        Event.accepted name conn ∈ tr ∧ Event.removed conn ∉ tr) ∧
      (forall i next es, (ServerMachine Loop).Step server i =
          some (next, es) -> next.conns.length < 2 ^ 31 ->
        Changes server next es) ∧
      forall peerAddr, exists next es, (ServerMachine Loop).Step server
        (Input.newConnection peerAddr) = some (next, es) := by
  rcases registered_run hrun with ⟨hcounted, hexact⟩
  have h := hexact hfew
  refine ⟨?_, ?_, h.entries, ?_, ?_⟩
  · rw [List.nodup_iff_injective_get]
    intro m n hsame
    have hname (k : Fin (server.conns.map Connection.name_).length) :
        server.NameOf k = some ((server.conns.map Connection.name_).get k) := by
      rw [NameOf, ← List.getElem?_map, List.getElem?_eq_getElem k.isLt]
      rfl
    apply Fin.ext
    exact names_distinct hcounted hfew (hname m) (hsame ▸ hname n)
  · intro name conn hentry
    exact (h.accepted name conn).mp ((h.entries name conn).mp hentry).1
  · intro i next es hstep hnextFew
    have htransition := perform_transition hcounted.next
      (answer_eq_some.mp hstep)
    exact changes_step (counted_step hcounted htransition) hnextFew h
      htransition
  · intro peerAddr
    rcases newConnection_ok hcounted.next peerAddr with ⟨next, es, hok, _⟩
    exact ⟨next, es, answer_eq_some.mpr hok⟩

def LocalPeer : InetAddress where
  sin_addr := (127, 0, 0, 1)
  sin_port := (31, 144)

def RemovedTwice : List (Input Nat) :=
  [Input.newConnection LocalPeer, Input.newConnection LocalPeer,
    Input.removeConnection 1 0, Input.removeConnection 1 0, Input.runFunctor,
    Input.runFunctor]

theorem registry_exact_of_removed_twice :
    exists server tr,
      (ServerMachine Nat).Run (Init 0 [1, 2]) RemovedTwice =
        some (server, tr) ∧
      server.connections_.elems = [(Ascii "127.0.0.1:8080#2", 1)] ∧
      (server.conns.map Connection.name_).Nodup ∧
      forall name conn, (name, conn) ∈ server.connections_ <->
        Event.accepted name conn ∈ tr ∧ Event.removed conn ∉ tr := by
  have heval : exists tr, ((ServerMachine Nat).Run (Init 0 [1, 2])
      RemovedTwice).map (fun last =>
        ((last.1.connections_.elems, last.1.conns.length), last.2)) =
      some (([(Ascii "127.0.0.1:8080#2", 1)], 2), tr) := by
    exact ⟨[Event.accepted (Ascii "127.0.0.1:8080#1") 0,
      Event.runInLoop 1 (Task.connectionEstablished 0),
      Event.accepted (Ascii "127.0.0.1:8080#2") 1,
      Event.runInLoop 2 (Task.connectionEstablished 1),
      Event.removed 0, Event.runInLoop 1 (Task.connectionDestroyed 0),
      Event.removed 0, Event.runInLoop 1 (Task.connectionDestroyed 0)],
      by decide +kernel⟩
  rcases heval with ⟨tr, heval⟩
  rcases (ServerMachine Nat).exists_run
    (fun server => (server.connections_.elems, server.conns.length)) heval with
    ⟨server, hrun, hlast⟩
  rcases Prod.mk.inj hlast with ⟨helems, hlength⟩
  have hexact := registry_exact hrun (by rw [hlength]; decide)
  exact ⟨server, tr, hrun, helems, hexact.1, hexact.2.2.1⟩

end TcpServer
end Net
end Wethands
