import Svitock.RuntimeShutdown
import Svitock.SequentialRefinement
import Svitock.Acknowledgement
import Svitock.MailboxWaiting

namespace Svitock

open ActorRuntime Transition

def Label.isWorker : Label → Bool
  | .worker .. => true
  | _ => false

namespace Server

variable {cfg : Config} {w₀ w w' : Server} {l : Label} {ls₀ ls : List Label}

/-- The workers are told to stop after the network, and the network stops between handlers. -/
structure StopOrder (w : Server) : Prop where
  network : w.actorSystem.running = false → w.networkRunning = false
  handlers : w.networkRunning = false → ∀ s ∈ w.sessions, s.executing = none

theorem networkRunning_of_stopActors (h : step cfg w .stopActors = some w') :
    w.networkRunning = false := by
  unfold step at h
  split at h
  · cases h
  · have hguard := (some_of_guard h).1
    simp only [Bool.and_eq_true, Bool.not_eq_true'] at hguard
    exact hguard.1

theorem perform_network (lib : Libraries) (id : Uuid) (now : ℤ)
    (out : Outcome ActorType Envelope (Traced Effect) HandlerError) :
    (w.perform lib id now out).networkRunning = w.networkRunning ∧
      ((∀ s ∈ w.sessions, s.executing = none) →
        ∀ s ∈ (w.perform lib id now out).sessions, s.executing = none) := by
  unfold perform
  split
  · next o sid p =>
    rcases deliver_cases lib w o sid p with ⟨i, s, -, hs, -, h⟩ | ⟨-, h⟩
    · rw [h]
      refine ⟨rfl, fun hall x hx => ?_⟩
      rcases List.mem_or_eq_of_mem_set hx with hx | rfl
      · exact hall x hx
      · exact hall s (List.mem_of_getElem? hs)
    · rw [h]
      exact ⟨rfl, fun hall => hall⟩
  · exact ⟨rfl, fun hall => hall⟩
  · exact ⟨rfl, fun hall => hall⟩
  · exact ⟨rfl, fun hall => hall⟩

theorem StopOrder.step (h : StopOrder w) (hs : step cfg w l = some w') : StopOrder w' := by
  have hrunning (hn : w.networkRunning = true) (hn' : w'.networkRunning = w.networkRunning)
      (hr : w'.actorSystem.running = w.actorSystem.running) : StopOrder w' := by
    refine ⟨fun hf => ?_, fun hf => ?_⟩
    · rw [hr] at hf
      rw [h.network hf] at hn
      cases hn
    · rw [hn', hn] at hf
      cases hf
  cases (step_cases hs).2 with
  | accept hn => exact hrunning hn rfl rfl
  | acceptError => exact h
  | handshake hready _ ok => cases ok <;> exact hrunning hready.1 rfl rfl
  | readFrame hready _ raw => exact hrunning hready.1 rfl rfl
  | readError hready _ => exact hrunning hready.1 rfl rfl
  | posted hready _ => exact hrunning hready.1 rfl rfl
  | writeDone hready _ ok => cases ok <;> exact hrunning hready.1 rfl rfl
  | @dispatch i s raw hi hx =>
    -- a handler that executes keeps the network from stopping
    have hn : w.networkRunning = true := by
      by_contra hne
      have hnone := h.handlers (by simpa using hne) s (List.mem_of_getElem? hi)
      rw [hx] at hnone
      cases hnone
    refine hrunning hn ?_ ?_
    · unfold onRead
      dsimp only
      split <;> rfl
    · unfold onRead
      dsimp only
      split
      · rfl
      · rfl
      · exact receive_running _ _ _ _
  | @worker k out a hk id now =>
    obtain ⟨hn, hsessions⟩ := perform_network (w := { w with actorSystem := a }) cfg.lib id now out
    have hr := (workerStep_move hk).running
    refine ⟨fun hf => ?_, fun hf => ?_⟩
    · rw [perform_actorSystem] at hf
      rw [hn]
      exact h.network (hr.symm.trans hf)
    · rw [hn] at hf
      exact hsessions (h.handlers hf)
  | stopNetwork hx => exact ⟨fun _ => rfl, fun _ => hx⟩
  | stopActors =>
    have hn := networkRunning_of_stopActors hs
    exact ⟨fun _ => hn, fun _ => h.handlers hn⟩
  | stopReturn _ _ => exact ⟨h.network, h.handlers⟩

theorem stopOrder_of_runs (h : Runs cfg (run cfg) ls w) : StopOrder w :=
  h.invariant ⟨by simp [run, ActorSystem.start], by simp [run]⟩ fun _ _ _ hi _ hs => hi.step hs

theorem StopOrder.step_cases (h : StopOrder w) (hr : w.actorSystem.running = false)
    (hs : Server.step cfg w l = some w') :
    (∃ k id now out a, l = .worker k id now ∧
      w.actorSystem.workerStep cfg.runtime k = some (out, a) ∧
      w' = { w with actorSystem := a }.perform cfg.lib id now out) ∨
    (l = .stopReturn ∧ w' = { w with stopReturned := true } ∧
      ∀ x ∈ w.actorSystem.workers, x = .exited) := by
  have hn := h.network hr
  cases (Server.step_cases hs).2 with
  | @worker k out a hk id now => exact .inl ⟨k, id, now, out, a, rfl, hk, rfl⟩
  | stopReturn _ hw => exact .inr ⟨rfl, rfl, hw⟩
  | accept hnet => simp [hn] at hnet
  | acceptError => simp [Server.step, hn] at hs
  | handshake hready _ ok => simp [hn, Ready] at hready
  | readFrame hready _ raw => simp [hn, Ready] at hready
  | readError hready _ => simp [hn, Ready] at hready
  | posted hready _ => simp [hn, Ready] at hready
  | writeDone hready _ ok => simp [hn, Ready] at hready
  | dispatch hi hx =>
    have hnone := h.handlers hn _ (List.mem_of_getElem? hi)
    rw [hx] at hnone
    cases hnone
  | stopNetwork _ => simp [Server.step, hn] at hs
  | stopActors => simp [Server.step, hr] at hs

/-- The chat actor takes the most actions: it stores, echoes and passes on. -/
theorem shortHandlers (cfg : Config) : ShortHandlers 3 cfg.runtime := by
  rintro a ⟨o, p⟩
  rw [Config.runtime, runtime_handle, List.length_map]
  cases a with
  | session => cases p <;> simp [handle, SessionActor.handle]
  | message => cases p <;> simp [handle, MessageActor.handle]
  | chat =>
    cases p with
    | sendMessageEvent event =>
      simp only [handle, ChatActor.handle]
      split <;> simp
    | _ => simp [handle, ChatActor.handle]
  | storage =>
    cases p with
    | storagePersistMessage persist =>
      simp only [handle, StorageActor.handle]
      split
      · simp
      · split <;> simp
    | _ => simp [handle, StorageActor.handle]

theorem order_length_le (cfg : Config) : cfg.order.length ≤ 4 :=
  cfg.nodup.length_le_card

/-- A step after the order to stop keeps it, and uses up a step of a worker. -/
theorem StopOrder.stepsLeft (h : StopOrder w) (hr : w.actorSystem.running = false)
    (hs : Server.step cfg w l = some w') :
    w'.actorSystem.running = false ∧
      w'.actorSystem.stepsLeft 3 + l.isWorker.toNat ≤ w.actorSystem.stepsLeft 3 := by
  rcases h.step_cases hr hs with ⟨k, id, now, out, a, rfl, hk, rfl⟩ | ⟨rfl, rfl, -⟩
  · rw [perform_actorSystem]
    have hmove := workerStep_move hk
    exact ⟨hmove.running.trans hr, hmove.stepsLeft (shortHandlers cfg) hr⟩
  · exact ⟨hr, Nat.le_refl _⟩

theorem stepsLeft_of_runs (h₀ : StopOrder w₀) (hr : w₀.actorSystem.running = false)
    (h : Runs cfg w₀ ls w) :
    StopOrder w ∧ w.actorSystem.running = false ∧
      w.actorSystem.stepsLeft 3 + ls.countP Label.isWorker ≤ w₀.actorSystem.stepsLeft 3 := by
  refine h.history (I := fun ls w => StopOrder w ∧ w.actorSystem.running = false ∧
    w.actorSystem.stepsLeft 3 + ls.countP Label.isWorker ≤ w₀.actorSystem.stepsLeft 3)
    ⟨h₀, hr, by simp⟩ ?_
  rintro ls t l u ⟨horder, hstopped, hle⟩ _ hs
  obtain ⟨hstopped', hstep⟩ := horder.stepsLeft hstopped hs
  refine ⟨horder.step hs, hstopped', ?_⟩
  have hcount : (ls ++ [l]).countP Label.isWorker =
      ls.countP Label.isWorker + l.isWorker.toNat := by
    cases hl : l.isWorker <;> simp [hl]
  omega

/-- As long as some worker is left it can go on, and when none is `stop` can return. -/
theorem stop_progress (hl : LogInv cfg w) (hn : w.networkRunning = false)
    (hr : w.actorSystem.running = false) (hx : w.exception = none) :
    (∃ k, ∀ id now, (step cfg w (.worker k id now)).isSome = true) ∨
      (step cfg w .stopReturn).isSome = true := by
  have hf : w.actorSystem.failed = [] := by
    by_contra hne
    exact hl.failed hne hx
  by_cases hall : w.actorSystem.workers.all Worker.isExited = true
  · right
    simp [step, hx, hn, hr, hall]
  · left
    rw [List.all_eq_true, not_forall] at hall
    obtain ⟨x, hx'⟩ := hall
    obtain ⟨hmem, hne⟩ := Classical.not_imp.mp hx'
    obtain ⟨k, hk⟩ := List.mem_iff_getElem?.mp hmem
    refine ⟨k, fun id now => ?_⟩
    have hexited : x ≠ .exited := by
      rintro rfl
      exact hne rfl
    have hsome : (w.actorSystem.workerStep cfg.runtime k).isSome = true :=
      workerStep_isSome hf hk hexited
    obtain ⟨⟨out, a⟩, hstep⟩ := Option.isSome_iff_exists.mp hsome
    simp [step, hx, hstep]

theorem frozen_of_stopReturned (h₀ : Runs cfg (run cfg) ls₀ w) (hs : w.stopReturned = true)
    (hr : w.actorSystem.running = false) {w' : Server} (h : Runs cfg w ls w') : w' = w := by
  have horder := stopOrder_of_runs h₀
  have hexited := exited_of_stopReturned h₀ hs
  refine h.invariant (I := fun u => u = w) rfl ?_
  rintro t l u rfl _ hstep
  rcases horder.step_cases hr hstep with ⟨k, id, now, out, a, -, hk, -⟩ | ⟨-, rfl, -⟩
  · obtain ⟨x, hx, hne⟩ := (workerStep_turn hk).not_exited
    have hx' := List.all_eq_true.mp hexited x (List.mem_of_getElem? hx)
    cases x with
    | exited => exact absurd rfl hne
    | _ => cases hx'
  · rw [← hs]

/-- After the workers were told to stop, whatever waits in the mailboxes, they take at most
21 steps each in any interleaving; until then some worker can go on or `stop` can return,
unless an exception has ended the process; and after `stop` has returned nothing changes. -/
theorem stop_terminates (h₀ : Runs cfg (run cfg) ls₀ w₀)
    (hstop : w₀.actorSystem.running = false) (h : Runs cfg w₀ ls w) :
    ls.countP Label.isWorker ≤ 21 * cfg.actorThreads ∧
    (w.exception = none →
      (∃ k, ∀ id now, (step cfg w (.worker k id now)).isSome = true) ∨
        (step cfg w .stopReturn).isSome = true) ∧
    (w.stopReturned = true → ∀ ls' w', Runs cfg w ls' w' → w' = w) := by
  obtain ⟨horder, hr, hle⟩ := stepsLeft_of_runs (stopOrder_of_runs h₀) hstop h
  refine ⟨?_, stop_progress (logInv_of_runs (h₀.trans h)) (horder.network hr) hr,
    fun hreturned ls' w' h' => frozen_of_stopReturned (h₀.trans h) hreturned hr h'⟩
  have hround : w₀.actorSystem.stepsLeft 3 ≤
      cfg.actorThreads * (cfg.order.length * (3 + 2) + 1) := by
    rw [← workers_of_runs h₀]
    exact stepsLeft_le (shortHandlers cfg) (inRound_of_runs h₀) (holdsSuffix_of_runs h₀)
  have horderLength := order_length_le cfg
  calc ls.countP Label.isWorker
    _ ≤ w₀.actorSystem.stepsLeft 3 := by omega
    _ ≤ cfg.actorThreads * (cfg.order.length * (3 + 2) + 1) := hround
    _ ≤ cfg.actorThreads * 21 := Nat.mul_le_mul_left _ (by omega)
    _ = 21 * cfg.actorThreads := Nat.mul_comm _ _

/-- The order to stop finds the worker in the middle of a round, with a message waiting. -/
theorem stop_terminates_in_a_round :
    ∃ w₀ w, Runs (Sample.config [Sample.greeting] 4 1) (run (Sample.config [Sample.greeting] 4 1))
        (Sample.connect 0 ++ Sample.frame 0 Sample.greeting ++ Sample.work 0 2 ++
          [.stopNetwork, .stopActors]) w₀ ∧
      Runs (Sample.config [Sample.greeting] 4 1) w₀ (Sample.work 0 11 ++ [.stopReturn]) w ∧
      w.stopReturned = true ∧
      (Sample.work 0 11 ++ [Label.stopReturn]).countP Label.isWorker ≤ 21 * 1 ∧
      ∀ ls' w', Runs (Sample.config [Sample.greeting] 4 1) w ls' w' → w' = w := by
  obtain ⟨w₀, w, hrun, hdrain, hstop, hreturned⟩ : ∃ w₀ w,
      Runs (Sample.config [Sample.greeting] 4 1) (run (Sample.config [Sample.greeting] 4 1))
        (Sample.connect 0 ++ Sample.frame 0 Sample.greeting ++ Sample.work 0 2 ++
          [.stopNetwork, .stopActors]) w₀ ∧
      Runs (Sample.config [Sample.greeting] 4 1) w₀ (Sample.work 0 11 ++ [.stopReturn]) w ∧
      w₀.actorSystem.running = false ∧ w.stopReturned = true :=
    exists_run_run _ (by decide +kernel)
  obtain ⟨hbound, -, hfrozen⟩ := stop_terminates hrun hstop hdrain
  exact ⟨w₀, w, hrun, hdrain, hreturned, hbound, hfrozen hreturned⟩

end Server

end Svitock
