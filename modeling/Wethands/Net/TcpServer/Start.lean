import Wethands.Net.TcpServer
import Wethands.Reactor.EventLoopThreadPool

/-!
# Starting a server

`TcpServer` has a flag of its own for `Start`, besides the one of its thread
pool, and nothing sets it.
-/

namespace Wethands
namespace Net

open Foundation Reactor
open EventLoopThreadPool (Loop)

namespace TcpServer

inductive Notice where
  | pool (event : EventLoopThreadPool.Event)
  | listen
  | connection (event : TcpServer.Event Loop)
deriving DecidableEq

structure Service where
  started_ : Bool
  threadInitCallback_ : Bool
  threadPool_ : EventLoopThreadPool
  listening_ : Bool
  connCount_ : BitVec 32
  conns : List (Connection Loop)
  connections_ : OrderedMap (κ := List Byte) Nat StringLess
  pendingFunctors_ : List Nat

namespace Service

def New (threadInitCallback_ : Bool) : Service where
  started_ := false
  threadInitCallback_ := threadInitCallback_
  threadPool_ := EventLoopThreadPool.New
  listening_ := false
  connCount_ := 0
  conns := []
  connections_ := OrderedSet.Empty _
  pendingFunctors_ := []

def Registry (service : Service) : TcpServer Loop where
  loop_ := Loop.base
  loops_ := service.threadPool_.loops_
  next_ := service.threadPool_.next_
  connCount_ := service.connCount_
  conns := service.conns
  connections_ := service.connections_
  pendingFunctors_ := service.pendingFunctors_

def Absorb (service : Service) (server : TcpServer Loop) : Service :=
  { service with
    threadPool_ := { service.threadPool_ with
      loops_ := server.loops_
      next_ := server.next_ }
    connCount_ := server.connCount_
    conns := server.conns
    connections_ := server.connections_
    pendingFunctors_ := server.pendingFunctors_ }

/-!
# Member functions
-/

def Start (service : Service) (numThreads : Int) : Call Service Notice :=
  Assert (0 ≤ numThreads)
    (if service.started_ then Except.ok (service, [])
    else
      match service.threadPool_.Start numThreads
        service.threadInitCallback_ with
      | Except.error failure => Except.error failure
      | Except.ok (threadPool_, es) =>
          Except.ok ({ service with
            threadPool_ := threadPool_
            listening_ := true }, es.map Notice.pool ++ [Notice.listen]))

/--
The acceptor must be listening, and `NextLoop` asserts that the pool was
started.
-/
def NewConnection (service : Service) (peerAddr : InetAddress) :
    Call Service Notice :=
  if service.listening_ then
    Assert (service.threadPool_.started_ = true)
      (match service.Registry.NewConnection peerAddr with
      | Except.error failure => Except.error failure
      | Except.ok (server, es) =>
          Except.ok (service.Absorb server, es.map Notice.connection))
  else Except.error Failure.impossible

inductive Input where
  | start (numThreads : Nat)
  | newConnection (peerAddr : InetAddress)

def Perform (service : Service) : Input -> Call Service Notice
  | Input.start numThreads => service.Start numThreads
  | Input.newConnection peerAddr => service.NewConnection peerAddr

def ServiceMachine : Machine Service Input Notice where
  Step service i := Answer (service.Perform i)

/-!
# A service that was started
-/

def Input.IsConnection : Input -> Bool
  | start _ => false
  | newConnection _ => true

def InitCallbacks (tr : List Notice) : List Loop :=
  tr.filterMap fun notice =>
    match notice with
    | Notice.pool (EventLoopThreadPool.Event.initCallback loop) => some loop
    | _ => none

def Threads (tr : List Notice) : List Nat :=
  tr.filterMap fun notice =>
    match notice with
    | Notice.pool (EventLoopThreadPool.Event.threadStarted i) => some i
    | _ => none

/-- The loops that a first start of `n` threads makes use of. -/
def LoopsOf (n : Nat) : List Loop :=
  if n = 0 then [Loop.base] else (List.range n).map Loop.thread

/--
Behind a first start the run comes to its end, as it does without the later
starts, and nothing has been started twice.
-/
structure StartedOnce (callback : Bool) (n : Nat) (rest : List Input)
    (last : Service) (tr : List Notice) : Prop where
  run : ServiceMachine.Run (New callback) (Input.start n :: rest) =
    some (last, tr)
  same : ServiceMachine.Run (New callback)
    (Input.start n :: rest.filter Input.IsConnection) = some (last, tr)
  threads : last.threadPool_.threads_ = List.replicate n { started_ := true }
  loops : last.threadPool_.loops_ = (List.range n).map Loop.thread
  started : Threads tr = List.range n
  called : InitCallbacks tr = if callback then LoopsOf n else []
  listened : tr.count Notice.listen = 1

structure Ready (n : Nat) (service : Service) : Prop where
  unflagged : service.started_ = false
  pool : service.threadPool_.started_ = true
  listening : service.listening_ = true
  threads : service.threadPool_.threads_ =
    List.replicate n { started_ := true }
  loops : service.threadPool_.loops_ = (List.range n).map Loop.thread
  next : service.threadPool_.next_ ≤ service.threadPool_.loops_.length

variable {service next : Service} {n : Nat} {callback : Bool}
  {rest : List Input} {tr : List Notice}

def StartNotices (callback : Bool) (n : Nat) : List Notice :=
  (EventLoopThreadPool.Starts callback 0 n ++
    if n = 0 then EventLoopThreadPool.InitCallback callback Loop.base
    else []).map Notice.pool ++ [Notice.listen]

theorem start_first (callback : Bool) (n : Nat) :
    exists service, (New callback).Start n =
      Except.ok (service, StartNotices callback n) ∧ Ready n service := by
  refine ⟨{ New callback with
    threadPool_ := {
      started_ := true
      next_ := 0
      threads_ := List.replicate n { started_ := true }
      loops_ := (List.range n).map Loop.thread }
    listening_ := true }, ?_, rfl, rfl, rfl, rfl, rfl, Nat.zero_le _⟩
  have hstart := EventLoopThreadPool.start_new n callback
  rw [← List.range_eq_range'] at hstart
  simp [Start, New, Assert, hstart, StartNotices]

theorem start_again (h : Ready n service) (numThreads : Nat) :
    service.Start numThreads = Except.error Failure.assertion := by
  have hpool := EventLoopThreadPool.start_started h.pool numThreads
    service.threadInitCallback_
  simp [Start, Assert, h.unflagged, hpool]

theorem newConnection_ready (h : Ready n service) (peerAddr : InetAddress) :
    exists next, exists es : List (TcpServer.Event Loop),
      service.NewConnection peerAddr =
          Except.ok (next, es.map Notice.connection) ∧
        Ready n next := by
  have hround : service.Registry.next_ ≤ service.Registry.loops_.length :=
    h.next
  rcases nextLoop_ok hround with ⟨ioLoop, next_, hnext, hloop⟩
  cases hserver : service.Registry.NewConnection peerAddr with
  | error failure =>
      rw [TcpServer.NewConnection, hloop] at hserver
      cases hserver
  | ok answer =>
      have hcall : service.NewConnection peerAddr = Except.ok
          (service.Absorb answer.1, answer.2.map Notice.connection) := by
        simp [NewConnection, h.listening, h.pool, Assert, hserver]
      refine ⟨_, _, hcall, ?_⟩
      rw [TcpServer.NewConnection, hloop] at hserver
      cases hserver
      exact ⟨h.unflagged, h.pool, h.listening, h.threads, h.loops, hnext⟩

/-!
# Runs behind the first start
-/

theorem isConnection_iff {i : Input} :
    i.IsConnection = true <-> forall m, i ≠ Input.start m := by
  cases i with
  | start m => simp [Input.IsConnection]
  | newConnection peerAddr => simp [Input.IsConnection]

theorem connections_run (h : Ready n service)
    (hrest : forall m, Input.start m ∉ rest) :
    exists last, exists es : List (TcpServer.Event Loop),
      ServiceMachine.Run service rest =
          some (last, es.map Notice.connection) ∧
        Ready n last := by
  induction rest generalizing service with
  | nil => exact ⟨service, [], rfl, h⟩
  | cons i rest ih =>
      cases i with
      | start m => exact absurd List.mem_cons_self (hrest m)
      | newConnection peerAddr =>
          rcases newConnection_ready h peerAddr with ⟨mid, es, hcall, hmid⟩
          rcases ih hmid (fun m hm =>
            hrest m (List.mem_cons_of_mem _ hm)) with
            ⟨last, es', hrun, hlast⟩
          refine ⟨last, es ++ es', ?_, hlast⟩
          rw [List.map_append]
          exact Machine.run_cons_eq_some.mpr
            ⟨mid, _, _, answer_eq_some.mpr hcall, hrun, rfl⟩

theorem not_start_of_run (h : Ready n service)
    (hrun : ServiceMachine.Run service rest = some (next, tr)) (m : Nat) :
    Input.start m ∉ rest := by
  induction rest generalizing service tr with
  | nil => simp
  | cons i rest ih =>
      rcases Machine.run_cons_eq_some.mp hrun with
        ⟨mid, es, tail, hstep, hrest, _⟩
      have hperform := answer_eq_some.mp hstep
      cases i with
      | start numThreads =>
          rw [Perform, start_again h] at hperform
          cases hperform
      | newConnection peerAddr =>
          rcases newConnection_ready h peerAddr with ⟨mid', es', hcall, hmid⟩
          cases hcall.symm.trans hperform
          have hlater := ih hmid hrest
          simp [hlater]

/-!
# What has been started
-/

theorem threads_starts (callback : Bool) (i n : Nat) :
    Threads ((EventLoopThreadPool.Starts callback i n).map Notice.pool) =
      List.range' i n := by
  induction n generalizing i with
  | zero => rfl
  | succ n ih =>
      have hrest := ih (i + 1)
      cases callback <;>
        simp_all [Threads, EventLoopThreadPool.Starts, List.range'_succ,
          EventLoopThreadPool.InitCallback]

theorem initCallbacks_starts (callback : Bool) (i n : Nat) :
    InitCallbacks ((EventLoopThreadPool.Starts callback i n).map
        Notice.pool) =
      if callback then (List.range' i n).map Loop.thread else [] := by
  induction n generalizing i with
  | zero => cases callback <;> rfl
  | succ n ih =>
      have hrest := ih (i + 1)
      cases callback <;>
        simp_all [InitCallbacks, EventLoopThreadPool.Starts,
          List.range'_succ, EventLoopThreadPool.InitCallback]

theorem notices_connection (es : List (TcpServer.Event Loop)) :
    Threads (es.map Notice.connection) = [] ∧
      InitCallbacks (es.map Notice.connection) = [] ∧
      (es.map Notice.connection).count Notice.listen = 0 := by
  induction es with
  | nil => exact ⟨rfl, rfl, rfl⟩
  | cons event rest ih =>
      simpa [Threads, InitCallbacks] using ih

theorem notices_start (callback : Bool) (n : Nat) :
    Threads (StartNotices callback n) = List.range n ∧
      InitCallbacks (StartNotices callback n) =
        (if callback then LoopsOf n else []) ∧
      (StartNotices callback n).count Notice.listen = 1 := by
  have hthreads := threads_starts callback 0 n
  have hcalled := initCallbacks_starts callback 0 n
  rw [← List.range_eq_range'] at hthreads hcalled
  have hnot : forall es : List EventLoopThreadPool.Event,
      (es.map Notice.pool).count Notice.listen = 0 := by
    intro es
    rw [List.count_eq_zero]
    simp
  unfold StartNotices
  rw [List.map_append, List.count_append, List.count_append, hnot, hnot]
  simp only [Threads, InitCallbacks, List.filterMap_append]
    at hthreads hcalled ⊢
  rw [hthreads, hcalled]
  by_cases hzero : n = 0 <;> cases callback <;>
    simp [hzero, EventLoopThreadPool.InitCallback, LoopsOf]

/--
A server is the same behind more starts exactly when there are none: the second
one fails an assertion.
-/
theorem start_once_iff (callback : Bool) (n : Nat) (rest : List Input) :
    (exists last tr, StartedOnce callback n rest last tr) <->
      forall m, Input.start m ∉ rest := by
  rcases start_first callback n with ⟨service, hcall, hready⟩
  have hstep : ServiceMachine.Step (New callback) (Input.start n) =
      some (service, StartNotices callback n) := answer_eq_some.mpr hcall
  constructor
  · intro hexists
    rcases hexists with ⟨last, tr, honce⟩
    rcases Machine.run_cons_eq_some.mp honce.run with
      ⟨mid, es, tail, hfirst, hrest, _⟩
    cases hstep.symm.trans hfirst
    exact not_start_of_run hready hrest
  · intro hnone
    rcases connections_run hready hnone with ⟨last, es, hrun, hlast⟩
    have hwhole := Machine.run_cons_eq_some.mpr
      ⟨service, _, _, hstep, hrun, rfl⟩
    have hall : rest.filter Input.IsConnection = rest := by
      rw [List.filter_eq_self]
      intro i hi
      rw [isConnection_iff]
      intro m hm
      exact hnone m (hm ▸ hi)
    rcases notices_start callback n with ⟨hthreads, hcalled, hlistens⟩
    rcases notices_connection es with ⟨hthreads', hcalled', hlistens'⟩
    refine ⟨last, _, hwhole, by rwa [hall], hlast.threads, hlast.loops, ?_, ?_,
      ?_⟩
    · rw [Threads, List.filterMap_append]
      exact (congrArg₂ _ hthreads hthreads').trans (List.append_nil _)
    · rw [InitCallbacks, List.filterMap_append]
      exact (congrArg₂ _ hcalled hcalled').trans (List.append_nil _)
    · rw [List.count_append, hlistens, hlistens']

/-- Two threads are started, and the second start asks for none. -/
theorem second_start_asserts :
    ¬exists last tr, StartedOnce true 2 [Input.start 0] last tr := by
  intro hexists
  rcases hexists with ⟨last, tr, honce⟩
  have hstuck : ServiceMachine.Run (New true) [Input.start 2, Input.start 0] =
      none := rfl
  cases hstuck.symm.trans honce.run

end Service
end TcpServer
end Net
end Wethands
