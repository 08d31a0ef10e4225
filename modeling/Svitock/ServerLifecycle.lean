import Svitock.Transition

/-!
# Starting and stopping the server

`infrastructure/network/server.cpp` with the parts it starts: the workers of
`core/actor/actor_system.cpp`, the threads of `core/threading/thread_pool.cpp` and
the accepts of the two listeners. A thread is in its loop or has returned. Calls of
`run` and `stop` come one after another; between them connections are accepted.
-/

namespace Svitock

open Transition

namespace Lifecycle

inductive Thread
  | looping
  | returned
  deriving DecidableEq, Repr

structure ActorSystem where
  running : Bool
  workers : List Thread
  deriving DecidableEq, Repr

/-- The new workers find the flag set and loop. -/
def ActorSystem.start (system : ActorSystem) (workerThreads : ℕ) : ActorSystem :=
  if system.running then system
  else ⟨true, system.workers ++ List.replicate workerThreads .looping⟩

/-- The workers find the flag cleared and return, are joined and dropped. -/
def ActorSystem.stop (system : ActorSystem) : ActorSystem :=
  if system.running = false then system else ⟨false, []⟩

structure IoContext where
  stopped : Bool
  deriving DecidableEq, Repr

/-- A thread that calls `run`: on a stopped context it returns at once, otherwise it stays
as long as there is work. -/
def IoContext.run (context : IoContext) (work : Bool) : Thread :=
  if context.stopped then .returned else if work then .looping else .returned

/-- `stop`, which nothing in the server undoes with `restart`. -/
def IoContext.stop (_ : IoContext) : IoContext := ⟨true⟩

structure ThreadPool where
  workGuard : Bool
  workers : List Thread
  deriving DecidableEq, Repr

/-- `pending` says whether operations are outstanding, which are work like the guard. -/
def ThreadPool.start (pool : ThreadPool) (context : IoContext) (pending : Bool) (threads : ℕ) :
    ThreadPool :=
  { pool with
    workers := pool.workers ++
      List.replicate threads (context.run (pool.workGuard || pending)) }

/-- The guard is reset; the threads return from the stopped context, are joined and dropped. -/
def ThreadPool.stop (_ : ThreadPool) : ThreadPool := ⟨false, []⟩

/-- A `WebSocketListener` or an `HttpListener`: the accepts that are outstanding and the
sessions that were started. -/
structure Listener where
  accepts : ℕ
  sessions : ℕ
  deriving DecidableEq, Repr

def Listener.doAccept (listener : Listener) : Listener :=
  { listener with accepts := listener.accepts + 1 }

def Listener.run (listener : Listener) : Listener := listener.doAccept

def Listener.onAccept (listener : Listener) (ok : Bool) : Listener :=
  Listener.doAccept ⟨listener.accepts - 1, if ok then listener.sessions + 1 else listener.sessions⟩

structure ServerConfig where
  actorThreads : ℕ
  networkThreads : ℕ

structure Server where
  running : Bool
  networkIoContext : IoContext
  networkThreadPool : ThreadPool
  actorSystem : ActorSystem
  websocketListener : Listener
  httpListener : Listener
  deriving DecidableEq, Repr

def Server.start : Server :=
  ⟨false, ⟨false⟩, ⟨true, []⟩, ⟨false, []⟩, ⟨0, 0⟩, ⟨0, 0⟩⟩

def Server.run (config : ServerConfig) (server : Server) : Server :=
  if server.running then server
  else
    { server with
      running := true
      websocketListener := server.websocketListener.run
      httpListener := server.httpListener.run
      actorSystem := server.actorSystem.start config.actorThreads
      -- both listeners have an accept outstanding by now
      networkThreadPool := server.networkThreadPool.start server.networkIoContext true
        config.networkThreads }

def Server.stop (server : Server) : Server :=
  if server.running = false then server
  else
    { server with
      running := false
      networkIoContext := server.networkIoContext.stop
      networkThreadPool := server.networkThreadPool.stop
      actorSystem := server.actorSystem.stop }

inductive Call
  | run
  | stop
  deriving DecidableEq, Repr

/-- A call of the owner, or the completion of an accept of either listener. -/
inductive Label
  | call (c : Call)
  | websocketAccept (ok : Bool)
  | httpAccept (ok : Bool)

/-- Handlers run only in a thread that is inside the context. -/
def Server.serves (server : Server) : Bool :=
  server.networkThreadPool.workers.contains .looping

def step (config : ServerConfig) (server : Server) : Label → Option Server
  | .call .run => some (server.run config)
  | .call .stop => some server.stop
  | .websocketAccept ok =>
    if server.serves = true ∧ 0 < server.websocketListener.accepts then
      some { server with websocketListener := server.websocketListener.onAccept ok }
    else none
  | .httpAccept ok =>
    if server.serves = true ∧ 0 < server.httpListener.accepts then
      some { server with httpListener := server.httpListener.onAccept ok }
    else none

def Label.call? : Label → Option Call
  | call c => some c
  | _ => none

/-- A run takes effect unless one is in effect, a stop only if one is. -/
def takesEffect (took : List Call) : Call → Bool
  | .run => took.getLast? != some .run
  | .stop => took.getLast? == some .run

def tookEffect (ls : List Label) : List Call :=
  (ls.filterMap Label.call?).foldl
    (fun took c => if takesEffect took c then took ++ [c] else took) []

/-- What the server should be after the calls `took` took effect. -/
structure Follows (config : ServerConfig) (took : List Call) (server : Server) : Prop where
  started : took.getLast? = some .run →
    server.actorSystem.workers.count .looping = config.actorThreads ∧
      server.networkThreadPool.workers.count .looping = config.networkThreads ∧
      server.networkIoContext.stopped = false ∧
      server.websocketListener.accepts = 1 ∧ server.httpListener.accepts = 1
  stopped : took.getLast? ≠ some .run →
    server.actorSystem.workers.count .looping = 0 ∧
      server.networkThreadPool.workers.count .looping = 0
  runAgain : took.getLast? = some .run → server.run config = server
  stopAgain : took.getLast? ≠ some .run → server.stop = server

variable {config : ServerConfig} {server server' : Server} {took : List Call} {l : Label}
  {ls : List Label}

/-- The state in terms of the calls that took effect: every run adds an accept to each
listener, and after the first stop the context stays stopped. -/
structure Inv (config : ServerConfig) (took : List Call) (server : Server) : Prop where
  running : server.running = (took.getLast? == some .run)
  actors : server.actorSystem =
    ⟨server.running, if server.running then List.replicate config.actorThreads .looping else []⟩
  stopped : server.networkIoContext.stopped = took.contains .stop
  threads : server.networkThreadPool.workers =
    if server.running then
      List.replicate config.networkThreads (if took.contains .stop then .returned else .looping)
    else []
  websocket : server.websocketListener.accepts = took.count .run
  http : server.httpListener.accepts = took.count .run
  balanced : took.count .run = took.count .stop + if server.running then 1 else 0

theorem inv_start : Inv config [] Server.start := by
  constructor <;> rfl

theorem Inv.run (h : Inv config took server) (hr : server.running = false) :
    Inv config (took ++ [.run]) (server.run config) := by
  have hactors := h.actors
  have hthreads := h.threads
  have hbalanced := h.balanced
  rw [hr] at hactors hthreads hbalanced
  simp only [Bool.false_eq_true, if_false] at hactors hthreads hbalanced
  constructor
  · simp [Server.run, hr]
  · simp [Server.run, hr, hactors, ActorSystem.start]
  · simp [Server.run, hr, h.stopped]
  · cases hstop : took.contains Call.stop <;>
      simp_all [Server.run, ThreadPool.start, IoContext.run, h.stopped]
  · simp [Server.run, hr, Listener.run, Listener.doAccept, h.websocket]
  · simp [Server.run, hr, Listener.run, Listener.doAccept, h.http]
  · simp [Server.run, hr, hbalanced]

theorem Inv.stop (h : Inv config took server) (hr : server.running = true) :
    Inv config (took ++ [.stop]) server.stop := by
  have hbalanced := h.balanced
  rw [hr] at hbalanced
  constructor
  · simp [Server.stop, hr]
  · simp [Server.stop, hr, h.actors, ActorSystem.stop]
  · simp [Server.stop, hr, IoContext.stop]
  · simp [Server.stop, hr, ThreadPool.stop]
  · simp [Server.stop, hr, h.websocket]
  · simp [Server.stop, hr, h.http]
  · simpa [Server.stop, hr] using hbalanced

theorem onAccept_accepts {listener : Listener} (h : 0 < listener.accepts) (ok : Bool) :
    (listener.onAccept ok).accepts = listener.accepts := by
  simp only [Listener.onAccept, Listener.doAccept]
  omega

theorem tookEffect_call (ls : List Label) (c : Call) : tookEffect (ls ++ [.call c]) =
    if takesEffect (tookEffect ls) c then tookEffect ls ++ [c] else tookEffect ls := by
  simp only [tookEffect, List.filterMap_append, List.foldl_append]
  rfl

theorem tookEffect_accept (ls : List Label) (hl : l.call? = none) :
    tookEffect (ls ++ [l]) = tookEffect ls := by
  rw [tookEffect, List.filterMap_append, List.filterMap_cons_none hl, List.filterMap_nil,
    List.append_nil]
  rfl

theorem Inv.step (h : Inv config (tookEffect ls) server)
    (hs : step config server l = some server') : Inv config (tookEffect (ls ++ [l])) server' := by
  have hrunning := h.running
  cases l with
  | call c =>
    rw [tookEffect_call]
    cases c with
    | run =>
      obtain rfl := Option.some.inj hs
      cases hr : server.running with
      | true =>
        have hlast : takesEffect (tookEffect ls) .run = false := by simp_all [takesEffect]
        simpa [hlast, Server.run, hr] using h
      | false =>
        have hlast : takesEffect (tookEffect ls) .run = true := by simp_all [takesEffect]
        simpa [hlast] using h.run hr
    | stop =>
      obtain rfl := Option.some.inj hs
      cases hr : server.running with
      | true =>
        have hlast : takesEffect (tookEffect ls) .stop = true := by simp_all [takesEffect]
        simpa [hlast] using h.stop hr
      | false =>
        have hlast : takesEffect (tookEffect ls) .stop = false := by simp_all [takesEffect]
        simpa [hlast, Server.stop, hr] using h
  | websocketAccept ok =>
    simp only [Lifecycle.step] at hs
    split at hs
    · next hready =>
      obtain rfl := Option.some.inj hs
      rw [tookEffect_accept ls rfl]
      exact ⟨h.running, h.actors, h.stopped, h.threads,
        (onAccept_accepts hready.2 ok).trans h.websocket, h.http, h.balanced⟩
    · cases hs
  | httpAccept ok =>
    simp only [Lifecycle.step] at hs
    split at hs
    · next hready =>
      obtain rfl := Option.some.inj hs
      rw [tookEffect_accept ls rfl]
      exact ⟨h.running, h.actors, h.stopped, h.threads, h.websocket,
        (onAccept_accepts hready.2 ok).trans h.http, h.balanced⟩
    · cases hs

theorem inv_of_run (h : Run (step config) Anything Server.start ls server) :
    Inv config (tookEffect ls) server :=
  h.history (I := fun ls server => Inv config (tookEffect ls) server) inv_start
    fun _ _ _ _ hi _ hs => Inv.step hi hs

theorem Inv.runAgain (h : Inv config took server) (hlast : took.getLast? = some .run) :
    server.run config = server := by
  have hr : server.running = true := by simp [h.running, hlast]
  simp [Server.run, hr]

theorem Inv.stopAgain (h : Inv config took server) (hlast : took.getLast? ≠ some .run) :
    server.stop = server := by
  have hr : server.running = false := by simp [h.running, hlast]
  simp [Server.stop, hr]

theorem Inv.not_running (h : Inv config took server) (hlast : took.getLast? ≠ some .run) :
    server.actorSystem.workers.count .looping = 0 ∧
      server.networkThreadPool.workers.count .looping = 0 := by
  have hr : server.running = false := by simp [h.running, hlast]
  rw [h.actors, h.threads, hr]
  exact ⟨rfl, rfl⟩

/-- The first run starts everything; a later one starts the workers again, but leaves the
context stopped and adds an accept to the one that is still outstanding. -/
theorem Inv.started_iff (h : Inv config took server) (hlast : took.getLast? = some .run) :
    (server.actorSystem.workers.count .looping = config.actorThreads ∧
      server.networkThreadPool.workers.count .looping = config.networkThreads ∧
      server.networkIoContext.stopped = false ∧
      server.websocketListener.accepts = 1 ∧ server.httpListener.accepts = 1) ↔
      Call.stop ∉ took := by
  have hr : server.running = true := by simp [h.running, hlast]
  have hbalanced := h.balanced
  rw [hr] at hbalanced
  constructor
  · rintro ⟨-, -, hstopped, -, -⟩
    simpa [h.stopped] using hstopped
  · intro hstop
    -- runs and stops alternate, so that without a stop there was one run only
    have hcount : took.count .run = 1 := by
      rw [hbalanced, List.count_eq_zero.mpr hstop]
      rfl
    have hcontains : took.contains Call.stop = false := by simpa using hstop
    rw [h.actors, h.threads, h.stopped, h.websocket, h.http, hr, hcount, hcontains]
    simp

/-- After any calls the server is as it should be, unless a run took effect after a stop
did and is still in effect. -/
theorem follows_calls_iff (config : ServerConfig) (ls : List Label) (server : Server)
    (h : Run (step config) Anything Server.start ls server) :
    Follows config (tookEffect ls) server ↔
      ((tookEffect ls).getLast? = some .run → Call.stop ∉ tookEffect ls) := by
  have hi := inv_of_run h
  constructor
  · intro hf hlast
    exact (hi.started_iff hlast).mp (hf.started hlast)
  · intro hc
    exact ⟨fun hlast => (hi.started_iff hlast).mpr (hc hlast), hi.not_running, hi.runAgain,
      hi.stopAgain⟩

theorem follows_calls_iff_once :
    ∃ server, Run (step ⟨4, 2⟩) Anything Server.start
        [.call .stop, .call .run, .websocketAccept true, .call .run] server ∧
      server.websocketListener = ⟨1, 1⟩ ∧ Follows ⟨4, 2⟩ [.run] server := by
  obtain ⟨server, hrun, hlistener⟩ : ∃ server, Run (step ⟨4, 2⟩) Anything Server.start
        [.call .stop, .call .run, .websocketAccept true, .call .run] server ∧
      server.websocketListener = ⟨1, 1⟩ := exists_run _ (by decide)
  exact ⟨server, hrun, hlistener, (follows_calls_iff ⟨4, 2⟩ _ server hrun).mpr (by decide)⟩

/-- A server that is stopped and run again serves nobody and has two accepts a listener. -/
theorem restarted_server_is_dead :
    ∃ server, Run (step ⟨4, 2⟩) Anything Server.start
        [.call .run, .call .stop, .call .run] server ∧
      server.networkThreadPool.workers = [.returned, .returned] ∧
      server.httpListener.accepts = 2 ∧
      ¬ Follows ⟨4, 2⟩ (tookEffect [.call .run, .call .stop, .call .run]) server := by
  obtain ⟨server, hrun, hthreads, haccepts⟩ : ∃ server, Run (step ⟨4, 2⟩) Anything Server.start
        [.call .run, .call .stop, .call .run] server ∧
      server.networkThreadPool.workers = [.returned, .returned] ∧
      server.httpListener.accepts = 2 := exists_run _ (by decide)
  refine ⟨server, hrun, hthreads, haccepts, fun hf => ?_⟩
  obtain ⟨-, -, -, -, hone⟩ := hf.started (by decide)
  rw [haccepts] at hone
  cases hone

end Lifecycle

end Svitock
