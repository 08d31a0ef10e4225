import Svitock.CrashFreedom
import Svitock.RuntimeTermination

namespace Svitock

open ActorRuntime Relation

/-- What handling an envelope costs in steps, with the envelopes it leads to. -/
def price : ActorType → Envelope → ℕ
  | .session, _ => 3
  | .storage, _ => 3
  | .chat, _ => 14
  | .message, _ => 17

theorem affordable_price (lib : Libraries) (order : List ActorType) :
    Affordable price (runtime lib order) := by
  rintro a ⟨o, p⟩
  rw [runtime_handle]
  cases a with
  | session => cases p <;> simp [handle, SessionActor.handle, trace, actCost, price]
  | message => cases p <;> simp [handle, MessageActor.handle, trace, actCost, price]
  | chat =>
    cases p with
    | sendMessageEvent event =>
      simp only [handle, ChatActor.handle]
      split <;> simp [trace, actCost, price]
    | _ => simp [handle, ChatActor.handle, price]
  | storage =>
    cases p with
    | storagePersistMessage persist =>
      simp only [handle, StorageActor.handle]
      split
      · simp [trace, actCost, price]
      · split <;> simp [trace, actCost, price]
    | _ => simp [handle, StorageActor.handle, price]

namespace Server

variable {cfg : Config} {w₀ w w' : Server}
  {out : Outcome ActorType Envelope (Traced Effect) HandlerError}

def WorkerStep (cfg : Config) (out : Outcome ActorType Envelope (Traced Effect) HandlerError)
    (w w' : Server) : Prop :=
  ∃ k id now a, w.actorSystem.workerStep cfg.runtime k = some (out, a) ∧
    step cfg w (.worker k id now) = some w'

/-- A look at an empty mailbox, or at the head of the loop. -/
def Idles (cfg : Config) (w w' : Server) : Prop := WorkerStep cfg .idle w w'

def Works (cfg : Config) (w w' : Server) : Prop := ∃ out, out ≠ .idle ∧ WorkerStep cfg out w w'

/-- The next step of work, after any number of idle ones. A schedule is a sequence
of these. -/
def Advances (cfg : Config) (w w' : Server) : Prop :=
  ∃ t, ReflTransGen (Idles cfg) w t ∧ Works cfg t w'

theorem WorkerStep.spec (h : WorkerStep cfg out w w') :
    w.exception = none ∧ Move cfg.runtime w.actorSystem out w'.actorSystem ∧ Worked w out w' := by
  obtain ⟨k, id, now, a, hk, hs⟩ := h
  have hx := (step_cases hs).1
  obtain rfl : { w with actorSystem := a }.perform cfg.lib id now out = w' := by
    simpa [step, hx, hk] using hs
  rw [perform_actorSystem]
  exact ⟨hx, workerStep_move hk, worked_of_workerStep cfg.lib w a id now out⟩

theorem workerStep_of_some (hx : w.exception = none) {k : ℕ} {a : ActorSystem}
    (hk : w.actorSystem.workerStep cfg.runtime k = some (out, a)) :
    ∃ w', WorkerStep cfg out w w' ∧ w'.actorSystem = a := by
  refine ⟨{ w with actorSystem := a }.perform cfg.lib 0 0 out, ⟨k, 0, 0, a, hk, ?_⟩, by simp⟩
  simp [step, hx, hk]

/-- Idle steps of the actor system are idle steps of the server. -/
theorem idles_of_idleSteps (hx : w.exception = none) {a : ActorSystem}
    (h : ReflTransGen (IdleStep cfg.runtime) w.actorSystem a) :
    ∃ t, ReflTransGen (Idles cfg) w t ∧ t.actorSystem = a ∧ t.exception = none := by
  induction h with
  | refl => exact ⟨w, .refl, rfl, hx⟩
  | tail _ hs ih =>
    obtain ⟨t, ht, rfl, htx⟩ := ih
    obtain ⟨k, hk⟩ := hs
    obtain ⟨u, hu, rfl⟩ := workerStep_of_some htx hk
    exact ⟨u, ht.tail hu, rfl, (hu.spec.2.2.unfailed rfl).trans htx⟩

theorem advances_of_advance (hx : w.exception = none) {a : ActorSystem}
    (h : Advance cfg.runtime w.actorSystem a) : ∃ w', Advances cfg w w' := by
  obtain ⟨b, hb, k, out, ho, hk⟩ := h
  obtain ⟨t, ht, rfl, htx⟩ := idles_of_idleSteps hx hb
  obtain ⟨u, hu, -⟩ := workerStep_of_some htx hk
  exact ⟨u, t, ht, out, ho, hu⟩

theorem budget_lt_of_advances (h : Advances cfg w w') :
    budget price w'.actorSystem < budget price w.actorSystem := by
  obtain ⟨t, ht, out, ho, hw⟩ := h
  have hidle : budget price t.actorSystem = budget price w.actorSystem := by
    clear hw
    induction ht with
    | refl => rfl
    | tail _ hs ih => exact (budget_idle hs.spec.2.1).trans ih
  rw [← hidle]
  exact budget_lt (affordable_price cfg.lib cfg.order) hw.spec.2.1 ho

theorem no_infinite_schedule (f : ℕ → Server) : ¬ ∀ n, Advances cfg (f n) (f (n + 1)) := by
  intro hf
  have hbound : ∀ n, budget price (f n).actorSystem + n ≤ budget price (f 0).actorSystem := by
    intro n
    induction n with
    | zero => exact le_rfl
    | succ n ih =>
      have hlt := budget_lt_of_advances (hf n)
      omega
  have hlast := hbound (budget price (f 0).actorSystem + 1)
  omega

structure Working (cfg : Config) (w : Server) : Prop where
  exception : w.exception = none
  failed : w.actorSystem.failed = []
  running : w.actorSystem.running = true
  live : ∃ x ∈ w.actorSystem.workers, x ≠ .exited
  pending : Everywhere (fun _ (m : Envelope) => Storable cfg.lib m.value) w.actorSystem

theorem Working.step (h : Working cfg w) (hs : WorkerStep cfg out w w') : Working cfg w' := by
  obtain ⟨-, hm, hw⟩ := hs.spec
  obtain ⟨hp, hf⟩ := h.pending.move (closed_storable cfg.lib cfg.order) hm
  have hnone : out.failures = [] := by
    simpa [hm.failed] using hf
  exact ⟨(hw.unfailed hnone).trans h.exception, hf.trans h.failed, hm.running.trans h.running,
    hm.live h.running, hp⟩

structure Added (cfg : Config) (w₀ w : Server) (ys : List (Traced Effect)) : Prop where
  emitted : w.actorSystem.emitted = w₀.actorSystem.emitted ++ ys
  records : w.records = w₀.records ++ ys.filterMap created?
  handed : w.handed = w₀.handed ++ ys.filterMap w₀.handOver
  locked : w.locked = w₀.locked
  store : (storageTrail cfg.lib).weight.account w.actorSystem =
    (storageTrail cfg.lib).weight.account w₀.actorSystem
  session : sessionTrail.weight.account w.actorSystem =
    sessionTrail.weight.account w₀.actorSystem

theorem Added.step {ys : List (Traced Effect)} (h : Added cfg w₀ w ys)
    (hs : WorkerStep cfg out w w') : Added cfg w₀ w' (ys ++ out.outputs) := by
  obtain ⟨-, hm, hw⟩ := hs.spec
  have hover : w.handOver = w₀.handOver := by
    funext x
    unfold handOver
    rw [h.locked]
  refine ⟨?_, ?_, ?_, hw.locked.trans h.locked, ?_, ?_⟩
  · rw [hm.emitted, h.emitted, List.append_assoc]
  · rw [hw.records, h.records, List.filterMap_append, List.append_assoc]
  · rw [hw.handed, h.handed, hover, List.filterMap_append, List.append_assoc]
  · exact (Weight.account_move (storageTrail_along cfg.lib cfg.order).conserved hm).trans h.store
  · exact (Weight.account_move (sessionTrail_along cfg.lib cfg.order).conserved hm).trans h.session

theorem added_of_schedule (hw : Working cfg w₀) (h : ReflTransGen (Advances cfg) w₀ w) :
    Working cfg w ∧ ∃ ys, Added cfg w₀ w ys := by
  have hrefl : Added cfg w₀ w₀ [] := ⟨by simp, by simp, by simp, rfl, rfl, rfl⟩
  induction h with
  | refl => exact ⟨hw, [], hrefl⟩
  | tail _ ha ih =>
    obtain ⟨t, ht, out, -, hs⟩ := ha
    have hidle : Working cfg t ∧ ∃ ys, Added cfg w₀ t ys := by
      clear hs
      induction ht with
      | refl => exact ih
      | tail _ hi ih =>
        obtain ⟨hwork, ys, hys⟩ := ih
        exact ⟨hwork.step hi, _, hys.step hi⟩
    obtain ⟨hwork, ys, hys⟩ := hidle
    exact ⟨hwork.step hs, _, hys.step hs⟩

theorem Working.empty (h : Working cfg w) (hmax : ∀ w', ¬ Advances cfg w w') :
    (∀ a, (w.actorSystem.mailbox a).queue = []) ∧
      ∀ x ∈ w.actorSystem.workers, ∀ a todo rest, x ≠ .busy a todo rest := by
  obtain ⟨hq, hb⟩ := empty_of_no_advance h.failed h.running h.live
    fun a (ha : Advance cfg.runtime w.actorSystem a) => by
      obtain ⟨w', hw'⟩ := advances_of_advance h.exception ha
      exact hmax w' hw'
  exact ⟨fun a => hq a (cfg.complete a), hb⟩

/-- The outputs of two drained schedules differ in their order only. -/
theorem perm_outputs {β : Type*} {T : Trail ActorType Envelope (Traced Effect) β} {w₁ w₂ : Server}
    {ys₁ ys₂ : List (Traced Effect)} (hw₁ : Working cfg w₁) (hw₂ : Working cfg w₂)
    (hmax₁ : ∀ w, ¬ Advances cfg w₁ w) (hmax₂ : ∀ w, ¬ Advances cfg w₂ w)
    (he₁ : w₁.actorSystem.emitted = w₀.actorSystem.emitted ++ ys₁)
    (he₂ : w₂.actorSystem.emitted = w₀.actorSystem.emitted ++ ys₂)
    (hd : w₁.actorSystem.dropped = w₂.actorSystem.dropped)
    (ha : (T.weight (ε := HandlerError)).account w₁.actorSystem = T.weight.account w₂.actorSystem) :
    (ys₁.flatMap T.output).Perm (ys₂.flatMap T.output) := by
  obtain ⟨hq₁, hb₁⟩ := hw₁.empty hmax₁
  obtain ⟨hq₂, hb₂⟩ := hw₂.empty hmax₂
  rw [Trail.account_of_empty hq₁ hb₁ hw₁.failed, Trail.account_of_empty hq₂ hb₂ hw₂.failed, hd,
    he₁, he₂] at ha
  have hperm := Multiset.coe_eq_coe.mp (add_left_cancel ha)
  rw [List.flatMap_append, List.flatMap_append] at hperm
  exact (List.perm_append_left_iff _).mp hperm

theorem filterMap_handOver (w : Server) (ys : List (Traced Effect)) :
    ys.filterMap w.handOver = (ys.filterMap delivered?).filterMap fun d =>
      (w.locked d.2.1).map fun i => ⟨d.1, i, d.2.2⟩ := by
  rw [List.filterMap_filterMap]
  apply List.filterMap_congr
  intro x _
  obtain ⟨o, e | e⟩ := x <;> rfl

/-- From any contents of the mailboxes and the workers' hands, no schedule goes on
for ever, a schedule that cannot go on has emptied the mailboxes, and two such
schedules without a dropped send have created the same records and handed each
session the same payloads. -/
theorem quiescence_and_confluence (h : Working cfg w₀) :
    (∀ f : ℕ → Server, f 0 = w₀ → ¬ ∀ n, Advances cfg (f n) (f (n + 1))) ∧
    (∀ w, ReflTransGen (Advances cfg) w₀ w → (∀ w', ¬ Advances cfg w w') →
      ∀ a, (w.actorSystem.mailbox a).queue = []) ∧
    ∀ w₁ w₂, ReflTransGen (Advances cfg) w₀ w₁ → ReflTransGen (Advances cfg) w₀ w₂ →
      (∀ w, ¬ Advances cfg w₁ w) → (∀ w, ¬ Advances cfg w₂ w) →
      w₁.actorSystem.dropped = w₀.actorSystem.dropped →
      w₂.actorSystem.dropped = w₀.actorSystem.dropped →
      (w₁.creates.map (·.value.record)).Perm (w₂.creates.map (·.value.record)) ∧
      ∀ i, ((w₁.handed.filter (·.session == i)).map (·.payload)).Perm
        ((w₂.handed.filter (·.session == i)).map (·.payload)) := by
  refine ⟨fun f _ => no_infinite_schedule f, fun w hs hmax => ?_, ?_⟩
  · exact ((added_of_schedule h hs).1.empty hmax).1
  intro w₁ w₂ hs₁ hs₂ hmax₁ hmax₂ hd₁ hd₂
  obtain ⟨hw₁, ys₁, h₁⟩ := added_of_schedule h hs₁
  obtain ⟨hw₂, ys₂, h₂⟩ := added_of_schedule h hs₂
  have hd := hd₁.trans hd₂.symm
  have hstore := perm_outputs hw₁ hw₂ hmax₁ hmax₂ h₁.emitted h₂.emitted hd
    (h₁.store.trans h₂.store.symm)
  have hsession := perm_outputs hw₁ hw₂ hmax₁ hmax₂ h₁.emitted h₂.emitted hd
    (h₁.session.trans h₂.session.symm)
  rw [outputs_storageTrail, outputs_storageTrail] at hstore
  rw [outputs_sessionTrail, outputs_sessionTrail] at hsession
  constructor
  · have hrecords : w₁.records.Perm w₂.records := by
      rw [h₁.records, h₂.records]
      exact hstore.append_left _
    simpa [records, Function.comp_def] using hrecords.map (·.value)
  · intro i
    have hhanded : w₁.handed.Perm w₂.handed := by
      rw [h₁.handed, h₂.handed, filterMap_handOver, filterMap_handOver]
      exact (hsession.filterMap _).append_left _
    exact (hhanded.filter _).map _

/-- Every schedule can be continued to one that cannot go on. -/
theorem exists_maximal_schedule (cfg : Config) (w₀ : Server) :
    ∃ w, ReflTransGen (Advances cfg) w₀ w ∧ ∀ w', ¬ Advances cfg w w' := by
  induction hb : budget price w₀.actorSystem using Nat.strong_induction_on generalizing w₀ with
  | _ n ih =>
    by_cases h : ∃ w', Advances cfg w₀ w'
    · obtain ⟨w', hw'⟩ := h
      obtain ⟨w, hs, hmax⟩ := ih _ (hb ▸ budget_lt_of_advances hw') w' rfl
      exact ⟨w, .head hw' hs, hmax⟩
    · exact ⟨w₀, .refl, fun w' hw' => h ⟨w', hw'⟩⟩

theorem quiescence_and_confluence_one_message :
    ∃ w₀ w, (w₀.actorSystem.mailbox .message).queue.length = 1 ∧
      ReflTransGen (Advances (Sample.config [Sample.greeting] 4 2)) w₀ w ∧
      ∀ a, (w.actorSystem.mailbox a).queue = [] := by
  obtain ⟨w₀, hrun, hqueue, hframes, hfailed, hrunning, hworkers⟩ : ∃ w,
      Runs (Sample.config [Sample.greeting] 4 2) (run (Sample.config [Sample.greeting] 4 2))
        (Sample.connect 0 ++ Sample.frame 0 Sample.greeting) w ∧
      (w.actorSystem.mailbox .message).queue.length = 1 ∧
      (∀ f ∈ w.frames, harmless (Sample.libraries [Sample.greeting]) f.raw = true) ∧
      w.actorSystem.failed.length = 0 ∧ w.actorSystem.running = true ∧
      w.actorSystem.workers.any (!·.isExited) = true :=
    Transition.exists_run _ (by decide +kernel)
  have hcrash := crashFree_of_runs hrun hframes
  have hlive : ∃ x ∈ w₀.actorSystem.workers, x ≠ .exited := by
    obtain ⟨x, hx, hne⟩ := List.any_eq_true.mp hworkers
    refine ⟨x, hx, ?_⟩
    rintro rfl
    cases hne
  have hwork : Working (Sample.config [Sample.greeting] 4 2) w₀ := ⟨hcrash.exception,
    List.eq_nil_of_length_eq_zero hfailed, hrunning, hlive, hcrash.pending⟩
  obtain ⟨w, hs, hmax⟩ := exists_maximal_schedule (Sample.config [Sample.greeting] 4 2) w₀
  exact ⟨w₀, w, hqueue, hs, (quiescence_and_confluence hwork).2.1 w hs hmax⟩

end Server

end Svitock
