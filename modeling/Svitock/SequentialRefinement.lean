import Svitock.ServerHistory

namespace Svitock

open ActorRuntime Transition

/-- Storing each message event directly. -/
def storeAll (lib : Libraries) (accepted : List (ActorType × Envelope)) : List (Traced Record) :=
  accepted.flatMap fun
    | (_, ⟨o, .sendMessageEvent event⟩) => store lib o event.chatId event.senderId event.text
    | _ => []

/-- Emitting the deliveries of each message event directly. -/
def emitAll (accepted : List (ActorType × Envelope)) : List (ℕ × String × Json) :=
  accepted.flatMap fun
    | (_, ⟨o, .sendMessageEvent event⟩) => emit o event
    | _ => []

/-- The payloads addressed to one session, with the number of their frame. -/
def addressed (sessionId : String) (ds : List (ℕ × String × Json)) : List (ℕ × Json) :=
  ds.filterMap fun d => if d.2.1 = sessionId then some (d.1, d.2.2) else none

namespace Server

variable {cfg : Config} {w₀ w w' : Server} {ls₀ ls : List Label} {i : ℕ}

/-- The payloads handed to session `i`, with the number of their frame. -/
def handedTo (w : Server) (i : ℕ) : List (ℕ × Json) :=
  w.handed.filterMap fun x => if x.session = i then some (x.origin, x.payload) else none

/-- Nothing waits and nobody is inside a handler. -/
def Idle (w : Server) : Prop :=
  w.actorSystem.workers.filterMap Worker.actor? = [] ∧
    ∀ a, (w.actorSystem.mailbox a).queue = []

theorem change_of_runs {C : Server → Label → Prop} (h : Run (step cfg) C w₀ ls w) :
    w₀.actorSystem.dropped <+: w.actorSystem.dropped ∧
      w₀.actorSystem.refused <+: w.actorSystem.refused := by
  refine h.invariant (I := fun u => w₀.actorSystem.dropped <+: u.actorSystem.dropped ∧
    w₀.actorSystem.refused <+: u.actorSystem.refused) ⟨List.prefix_rfl, List.prefix_rfl⟩ ?_
  intro t l u hi _ hs
  have hc := change_of_step hs
  exact ⟨hi.1.trans hc.dropped_grows, hi.2.trans hc.refused_grows⟩

theorem eq_of_between {α : Type*} {xs ys zs : List α} (h : xs <+: ys) (h' : ys <+: zs)
    (hz : zs = xs) : ys = xs :=
  (h.eq_of_length_le (hz ▸ h'.length_le)).symm

/-- In a run without a failed send whose workers stay apart, what was accepted joins
the line in the order of acceptance. -/
theorem lined_of_runs {β : Type*} {T : Trail ActorType Envelope (Traced Effect) β}
    {chain : List ActorType} (hT : T.Along cfg.runtime chain) {C : Server → Label → Prop}
    (hlast : ∀ u, LogInv cfg u → ∀ x ∈ u.actorSystem.accepted,
      T.message x.1 x.2 = [] ∨ ∃ p, chain = p ++ [x.1])
    (h₀ : Runs cfg (run cfg) ls₀ w₀) (h : Run (step cfg) C w₀ ls w)
    (hserial : ∀ ls' u, Run (step cfg) C w₀ ls' u → Serial u.actorSystem)
    (hd : w.actorSystem.dropped = w₀.actorSystem.dropped)
    (hr : w.actorSystem.refused = w₀.actorSystem.refused) :
    T.Lined chain w₀.actorSystem w.actorSystem := by
  -- on the run; the logs only grow, so no earlier step has dropped or refused anything
  induction h with
  | nil => exact Trail.Lined.refl T chain _
  | @snoc ls' l t u hrun hc hs ih =>
    have hchange := change_of_step hs
    have hpre := change_of_runs hrun
    have hdt := eq_of_between hpre.1 hchange.dropped_grows hd
    have hrt := eq_of_between hpre.2 hchange.refused_grows hr
    have hrun' := Run.snoc hrun hc hs
    exact (ih hdt hrt).change hT hchange (holdsSuffix_of_runs (h₀.trans hrun.anything))
      (hserial _ _ hrun) (hserial _ _ hrun') (hd.trans hdt.symm) (hr.trans hrt.symm)
      (hlast u (logInv_of_runs (h₀.trans hrun'.anything)))

theorem storageTrail_last (hl : LogInv cfg w) : ∀ x ∈ w.actorSystem.accepted,
    (storageTrail cfg.lib).message x.1 x.2 = [] ∨ ∃ p, storageChain = p ++ [x.1] := by
  intro x hx
  rcases hl.destination hx with ⟨e, he⟩ | ⟨e, he⟩ | ⟨e, he⟩ | ⟨e, he⟩ <;> rw [he]
  · exact .inl rfl
  · exact .inr ⟨[.storage, .chat], rfl⟩
  · exact .inl rfl
  · exact .inl rfl

theorem sessionTrail_last (hl : LogInv cfg w) : ∀ x ∈ w.actorSystem.accepted,
    sessionTrail.message x.1 x.2 = [] ∨ ∃ p, sessionChain = p ++ [x.1] := by
  intro x hx
  rcases hl.destination hx with ⟨e, he⟩ | ⟨e, he⟩ | ⟨e, he⟩ | ⟨e, he⟩ <;> rw [he]
  · exact .inl rfl
  · exact .inr ⟨[.session, .chat], rfl⟩
  · exact .inl rfl
  · exact .inl rfl

theorem storageTrail_accepted (hl : LogInv cfg w) {since : List (ActorType × Envelope)}
    (hsub : since ⊆ w.actorSystem.accepted) :
    (since.flatMap fun x => (storageTrail cfg.lib).message x.1 x.2) = storeAll cfg.lib since := by
  apply List.flatMap_congr
  intro x hx
  rcases hl.destination (hsub hx) with ⟨e, he⟩ | ⟨e, he⟩ | ⟨e, he⟩ | ⟨e, he⟩ <;> rw [he] <;> rfl

theorem sessionTrail_accepted (hl : LogInv cfg w) {since : List (ActorType × Envelope)}
    (hsub : since ⊆ w.actorSystem.accepted) :
    (since.flatMap fun x => sessionTrail.message x.1 x.2) = emitAll since := by
  apply List.flatMap_congr
  intro x hx
  rcases hl.destination (hsub hx) with ⟨e, he⟩ | ⟨e, he⟩ | ⟨e, he⟩ | ⟨e, he⟩ <;> rw [he] <;> rfl

theorem NetInv.handedTo_worked (hn : NetInv w)
    {out : Outcome ActorType Envelope (Traced Effect) HandlerError} (hw : Worked w out w')
    (hb : w.transports (sessionIdOf i) = some i) :
    w'.handedTo i = w.handedTo i ++ addressed (sessionIdOf i) (out.outputs.filterMap delivered?) := by
  rw [handedTo, hw.handed, List.filterMap_append, ← handedTo]
  congr 1
  rw [addressed, List.filterMap_filterMap, List.filterMap_filterMap]
  apply List.filterMap_congr
  intro x _
  obtain ⟨o, e⟩ := x
  cases e with
  | create chatId senderId content => rfl
  | deliver sid p =>
    cases ht : w.transports sid with
    | none =>
      have hne : sid ≠ sessionIdOf i := by
        rintro rfl
        simp [hb] at ht
      simp [handOver, delivered?, hn.locked_eq, ht, hne]
    | some j =>
      obtain ⟨s, hs, hid, -⟩ := hn.bound sid j ht
      have hsid : sid = sessionIdOf j := hid.symm.trans (hn.ids j s hs)
      have hiff : j = i ↔ sid = sessionIdOf i := by
        refine ⟨fun hji => hji ▸ hsid, fun hsi => ?_⟩
        rw [hsi, hb] at ht
        exact (Option.some.inj ht).symm
      by_cases hji : j = i
      · simp [handOver, delivered?, hn.locked_eq, hiff.mp hji, hb]
      · simp [handOver, delivered?, hn.locked_eq, ht, hji, mt hiff.mpr hji]

theorem handedTo_of_runs (hn : NetInv w₀)
    (h : Run (step cfg) (fun u _ => u.transports (sessionIdOf i) = some i) w₀ ls w) :
    ∃ ys, w.actorSystem.emitted = w₀.actorSystem.emitted ++ ys ∧
      w.handedTo i = w₀.handedTo i ++ addressed (sessionIdOf i) (ys.filterMap delivered?) := by
  have hboth := h.invariant (I := fun u => NetInv u ∧ ∃ ys,
    u.actorSystem.emitted = w₀.actorSystem.emitted ++ ys ∧
      u.handedTo i = w₀.handedTo i ++ addressed (sessionIdOf i) (ys.filterMap delivered?))
    ⟨hn, [], by simp, by simp [addressed]⟩ ?_
  · exact hboth.2
  rintro t l u ⟨ht, ys, hys, hto⟩ hb hs
  have hst := (step_cases hs).2
  refine ⟨ht.step hst, ?_⟩
  rcases hst.log_cases with hq | ⟨j, s, raw, -, -, -, rfl⟩ | ⟨k, id, now, out, -, hk, hw⟩
  · obtain ⟨-, -, he, -⟩ := hq.history
    exact ⟨ys, he.trans hys, by rw [handedTo, hq.handed]; exact hto⟩
  · exact ⟨ys, by rw [onRead_emitted, hys], by rw [handedTo, onRead_handed]; exact hto⟩
  · refine ⟨ys ++ out.outputs, ?_, ?_⟩
    · rw [(workerStep_move hk).emitted, hys, List.append_assoc]
    · rw [ht.handedTo_worked hw hb, hto, List.filterMap_append]
      simp [addressed]

theorem emitted_of_runs {C : Server → Label → Prop} (h : Run (step cfg) C w₀ ls w) :
    w₀.actorSystem.emitted <+: w.actorSystem.emitted :=
  h.invariant (I := fun u => w₀.actorSystem.emitted <+: u.actorSystem.emitted) List.prefix_rfl
    fun _ _ _ hi _ hs => hi.trans (change_of_step hs).emitted_grows

theorem workers_of_runs (h : Runs cfg (run cfg) ls w) :
    w.actorSystem.workers.length = cfg.actorThreads := by
  refine h.invariant (I := fun u => u.actorSystem.workers.length = cfg.actorThreads) ?_
    fun _ _ _ hi _ hs => (change_of_step hs).workers_length.trans hi
  simp [Server.run, ActorSystem.start]

/-- With one worker, from an idle state on and without a failed send, the creates
and the payloads handed to a session that stays bound are prefixes of what direct
execution of the events accepted since then stores and emits. -/
theorem one_worker_refines_direct_execution (h₁ : cfg.actorThreads = 1)
    (h₀ : Runs cfg (run cfg) ls₀ w₀) (hidle : w₀.Idle) (h : Runs cfg w₀ ls w)
    (hd : w.actorSystem.dropped = w₀.actorSystem.dropped)
    (hr : w.actorSystem.refused = w₀.actorSystem.refused) :
    ∃ since, w.actorSystem.accepted = w₀.actorSystem.accepted ++ since ∧
      (∃ rs, w.records = w₀.records ++ rs ∧ rs <+: storeAll cfg.lib since) ∧
      ∀ i, Run (step cfg) (fun u _ => u.transports (sessionIdOf i) = some i) w₀ ls w →
        ∃ ps, w.handedTo i = w₀.handedTo i ++ ps ∧
          ps <+: addressed (sessionIdOf i) (emitAll since) := by
  have hserial : ∀ ls' u, Runs cfg w₀ ls' u → Serial u.actorSystem := fun ls' u hu =>
    serial_of_length_le_one (by rw [workers_of_runs (h₀.trans hu), h₁])
  have hl := logInv_of_runs (h₀.trans h)
  obtain ⟨ys, hys⟩ := emitted_of_runs h
  have hstore := lined_of_runs (storageTrail_along cfg.lib cfg.order)
    (fun _ => storageTrail_last) h₀ h hserial hd hr
  have hsession := lined_of_runs (sessionTrail_along cfg.lib cfg.order)
    (fun _ => sessionTrail_last) h₀ h hserial hd hr
  obtain ⟨since, hsince, hpre⟩ := hstore.outputs_behind hidle.1 (fun a _ => hidle.2 a) hys.symm
  obtain ⟨since', hsince', hpre'⟩ :=
    hsession.outputs_behind hidle.1 (fun a _ => hidle.2 a) hys.symm
  -- both trails speak of the same accepted events
  obtain rfl : since = since' := List.append_cancel_left (hsince.symm.trans hsince')
  have hsub : since ⊆ w.actorSystem.accepted := hsince ▸ List.subset_append_right _ _
  rw [outputs_storageTrail, storageTrail_accepted hl hsub] at hpre
  rw [outputs_sessionTrail, sessionTrail_accepted hl hsub] at hpre'
  refine ⟨since, hsince, ⟨ys.filterMap created?, ?_, hpre⟩, fun i hbound => ?_⟩
  · rw [hl.creates, (logInv_of_runs h₀).creates, ← hys, List.filterMap_append]
  · obtain ⟨zs, hzs, hto⟩ := handedTo_of_runs (netInv_of_runs h₀) hbound
    obtain rfl : ys = zs := List.append_cancel_left (hys.trans hzs)
    exact ⟨_, hto, hpre'.filterMap _⟩

/-- Two connected sessions, of which the first then writes to the second. -/
theorem one_worker_refines_direct_execution_two_sessions :
    ∃ w₀ w, Runs (Sample.config [Sample.whisper] 4 1) (run (Sample.config [Sample.whisper] 4 1))
        (Sample.connect 0 ++ Sample.connect 1) w₀ ∧
      Runs (Sample.config [Sample.whisper] 4 1) w₀
        (Sample.frame 0 Sample.whisper ++ Sample.work 0 25) w ∧
      (w.handedTo 1).length = 1 ∧
      ∃ since ps, w.actorSystem.accepted = w₀.actorSystem.accepted ++ since ∧
        w.handedTo 1 = w₀.handedTo 1 ++ ps ∧ ps <+: addressed (sessionIdOf 1) (emitAll since) := by
  obtain ⟨w₀, w, h₀, h, hlen, hworkers, hqueues, hd, hr⟩ : ∃ w₀ w,
      Runs (Sample.config [Sample.whisper] 4 1) (run (Sample.config [Sample.whisper] 4 1))
        (Sample.connect 0 ++ Sample.connect 1) w₀ ∧
      Run (step (Sample.config [Sample.whisper] 4 1))
        (fun u _ => u.transports (sessionIdOf 1) = some 1) w₀
        (Sample.frame 0 Sample.whisper ++ Sample.work 0 25) w ∧
      (w.handedTo 1).length = 1 ∧
      w₀.actorSystem.workers.filterMap Worker.actor? = [] ∧
      (∀ a, (w₀.actorSystem.mailbox a).queue = []) ∧
      w.actorSystem.dropped.length = 0 ∧ w.actorSystem.refused.length = 0 :=
    exists_run_run _ (by decide +kernel)
  have hpre := change_of_runs h
  obtain ⟨since, hsince, -, hto⟩ := one_worker_refines_direct_execution rfl h₀
    ⟨hworkers, hqueues⟩ h.anything (hpre.1.eq_of_length_le (by omega)).symm
    (hpre.2.eq_of_length_le (by omega)).symm
  obtain ⟨ps, hps, hprefix⟩ := hto 1 h
  exact ⟨w₀, w, h₀, h.anything, hlen, since, ps, hsince, hps, hprefix⟩

end Server

end Svitock
