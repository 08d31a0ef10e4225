import Svitock.ServerHistory

namespace Svitock

open ActorRuntime Transition

variable {lib : Libraries}

theorem mem_store {o : ℕ} {chatId senderId content : String} {r : Traced Record} :
    r ∈ store lib o chatId senderId content ↔ r.origin = o ∧
      lib.stringGenerator chatId = some r.value.chatId ∧
      lib.stringGenerator senderId = some r.value.senderId ∧ r.value.content = content := by
  obtain ⟨p, c, s, t⟩ := r
  unfold store
  cases hc : lib.stringGenerator chatId <;> cases hs : lib.stringGenerator senderId <;>
    simp [eq_comm]

theorem origin_of_mem_storageTrail {a : ActorType} {m : Envelope} {r : Traced Record}
    (h : r ∈ (storageTrail lib).message a m) : r.origin = m.origin := by
  unfold storageTrail at h
  dsimp only at h
  split at h
  · exact (mem_store.mp h).1
  · exact (mem_store.mp h).1
  · exact (mem_store.mp h).1
  · cases h

theorem pairwise_store (R : Traced Record → Traced Record → Prop) (o : ℕ)
    (chatId senderId content : String) : (store lib o chatId senderId content).Pairwise R := by
  unfold store
  split
  · exact List.pairwise_singleton _ _
  · exact .nil

/-- Events in the order of their frames give creates in that order, one each. -/
theorem storageTrail_sorted (lib : Libraries) {accepted : List (ActorType × Envelope)}
    (h : accepted.Pairwise fun x y => x.2.origin < y.2.origin) :
    (accepted.flatMap fun x => (storageTrail lib).message x.1 x.2).Pairwise
      fun r r' => r.origin < r'.origin := by
  refine List.pairwise_flatMap.mpr ⟨fun x _ => ?_, h.imp fun hlt r hr r' hr' => ?_⟩
  · unfold storageTrail
    dsimp only
    split
    · exact pairwise_store _ _ _ _ _
    · exact pairwise_store _ _ _ _ _
    · exact pairwise_store _ _ _ _ _
    · exact .nil
  · rw [origin_of_mem_storageTrail hr, origin_of_mem_storageTrail hr']
    exact hlt

/-- A `send_message` event before `ChatActor`, or its persist request after it. -/
def onStorageLeg : ActorType → ActorPayload → Bool
  | .message, .sendMessageEvent _ => true
  | .chat, .sendMessageEvent _ => true
  | .storage, .storagePersistMessage _ => true
  | _, _ => false

def ActorPayload.isSendMessage : ActorPayload → Bool
  | .sendMessageEvent _ => true
  | _ => false

def ActorPayload.isPersist : ActorPayload → Bool
  | .storagePersistMessage _ => true
  | _ => false

/-- The action that takes an event further: the send to the next actor, or the
call of `create`, which the storage actor may fail to reach. -/
def isStorageLeg : TracedAct → Bool
  | .send d m => onStorageLeg d m.value
  | .emit ⟨_, .create ..⟩ => true
  | .emit ⟨_, .deliver ..⟩ => false
  | .fail _ => true

def legs : Weight ActorType Envelope (Traced Effect) HandlerError ℕ where
  message a m := (onStorageLeg a m.value).toNat
  output x := (created? x).isSome.toNat
  failure _ := 1

theorem legs_act : legs.act = fun act => (isStorageLeg act).toNat := by
  funext act
  rcases act with _ | ⟨_, _ | _⟩ | _ <;> rfl

theorem legs_conserved (lib : Libraries) (order : List ActorType) :
    legs.Conserved (runtime lib order) := by
  rintro a ⟨o, p⟩
  rw [runtime_handle]
  cases a with
  | session => cases p <;> rfl
  | message => cases p <;> rfl
  | chat =>
    cases p with
    | sendMessageEvent event =>
      simp only [handle, ChatActor.handle]
      split <;> rfl
    | _ => rfl
  | storage =>
    cases p with
    | storagePersistMessage persist =>
      simp only [handle, StorageActor.handle]
      split
      · rfl
      · split <;> rfl
    | _ => rfl

theorem sum_toNat {α : Type*} (p : α → Bool) (xs : List α) :
    (xs.map fun x => (p x).toNat).sum = xs.countP p := by
  induction xs with
  | nil => rfl
  | cons x xs ih => cases hx : p x <;> simp [hx, ih, Nat.add_comm]

theorem countP_isStorageLeg_le {lib : Libraries} {order : List ActorType} {a : ActorType}
    {m : Envelope} {todo : List TracedAct} (h : todo <:+ (runtime lib order).handle a m) :
    todo.countP isStorageLeg ≤ 1 := by
  refine h.sublist.countP_le.trans ?_
  rw [← sum_toNat, ← legs_act, ← legs_conserved lib order a m]
  exact Bool.toNat_le _

def holdsStorageLeg (x : Worker ActorType Envelope (Traced Effect) HandlerError) : Bool :=
  x.todo.any isStorageLeg

theorem legs_worker {lib : Libraries} {order : List ActorType}
    {x : Worker ActorType Envelope (Traced Effect) HandlerError}
    (h : ∀ a todo rest, x = .busy a todo rest → ∃ m, todo <:+ (runtime lib order).handle a m) :
    legs.worker x = (holdsStorageLeg x).toNat := by
  cases x with
  | poll rest => rfl
  | exited => rfl
  | busy a todo rest =>
    obtain ⟨m, hm⟩ := h a todo rest rfl
    have hle := countP_isStorageLeg_le hm
    rw [Weight.worker, legs_act, sum_toNat, holdsStorageLeg, Worker.todo]
    -- the count is zero or one, as what is left of a handler has at most one leg
    cases hany : todo.any isStorageLeg with
    | false =>
      rw [Bool.toNat_false, List.countP_eq_zero]
      simpa using hany
    | true =>
      have hpos : 0 < todo.countP isStorageLeg := List.countP_pos_iff.mpr (by simpa using hany)
      rw [Bool.toNat_true]
      omega

namespace Server

variable {cfg : Config} {w : Server} {ls : List Label}

theorem records_le (h : Runs cfg (run cfg) ls w) : (↑w.records : Multiset (Traced Record)) ≤
    ↑(w.actorSystem.accepted.flatMap fun x => (storageTrail cfg.lib).message x.1 x.2) := by
  rw [(logInv_of_runs h).creates, ← outputs_storageTrail cfg.lib]
  exact Trail.emitted_le (balanced_of_runs (storageTrail_along cfg.lib cfg.order).conserved h)

theorem origins_nodup (h : Runs cfg (run cfg) ls w) : (w.creates.map (·.origin)).Nodup := by
  have hle := Multiset.map_le_map (f := Traced.origin) (records_le h)
  have hsorted := storageTrail_sorted cfg.lib (logInv_of_runs h).sorted
  have hnodup := Multiset.nodup_of_le hle
    (Multiset.coe_nodup.mpr (List.pairwise_map.mpr (hsorted.imp Nat.ne_of_lt)))
  rw [Multiset.map_coe, Multiset.coe_nodup, records, List.map_map] at hnodup
  exact hnodup

theorem create_stems_from_event (h : Runs cfg (run cfg) ls w) {c : Traced Message}
    (hc : c ∈ w.creates) :
    ∃ event : SendMessageEvent,
      (.message, ⟨c.origin, .sendMessageEvent event⟩) ∈ w.actorSystem.accepted ∧
      cfg.lib.stringGenerator event.chatId = some c.value.chatId ∧
      cfg.lib.stringGenerator event.senderId = some c.value.senderId ∧
      c.value.content = event.text := by
  have hr : (⟨c.origin, c.value.record⟩ : Traced Record) ∈ w.records :=
    List.mem_map.mpr ⟨c, hc, rfl⟩
  have hmem := Multiset.mem_of_le (records_le h) (Multiset.mem_coe.mpr hr)
  obtain ⟨x, hx, hrx⟩ := List.mem_flatMap.mp (Multiset.mem_coe.mp hmem)
  have ho := origin_of_mem_storageTrail hrx
  rcases (logInv_of_runs h).destination hx with ⟨e, he⟩ | ⟨e, he⟩ | ⟨e, he⟩ | ⟨e, he⟩
  · rw [he] at hrx
    cases hrx
  · rw [he] at hrx hx
    obtain ⟨-, hcid, hsid, ht⟩ := mem_store.mp hrx
    exact ⟨e, by rw [show c.origin = x.2.origin from ho]; exact hx, hcid, hsid, ht⟩
  · rw [he] at hrx
    cases hrx
  · rw [he] at hrx
    cases hrx

theorem sum_actorType {M : Type*} [AddCommMonoid M] (f : ActorType → M) :
    ∑ a, f a = f .session + (f .chat + (f .message + f .storage)) := by
  simp [Finset.univ, Fintype.elems]

theorem legs_queued (b : ActorType → Mailbox Envelope) :
    ∑ a, legs.queued b a =
      (b .message).queue.countP (·.value.isSendMessage) +
      (b .chat).queue.countP (·.value.isSendMessage) +
      (b .storage).queue.countP (·.value.isPersist) := by
  have hq (a : ActorType) (p : ActorPayload → Bool) (hp : onStorageLeg a = p) :
      legs.queued b a = (b a).queue.countP fun m => p m.value := by
    rw [← hp]
    exact sum_toNat (fun m : Envelope => onStorageLeg a m.value) (b a).queue
  rw [sum_actorType, hq .session (fun _ => false) (by funext p; cases p <;> rfl),
    hq .chat ActorPayload.isSendMessage (by funext p; cases p <;> rfl),
    hq .message ActorPayload.isSendMessage (by funext p; cases p <;> rfl),
    hq .storage ActorPayload.isPersist (by funext p; cases p <;> rfl)]
  simp only [List.countP_false, Function.const_apply]
  omega

theorem legs_accepted (hl : LogInv cfg w) : legs.envelopes w.actorSystem.accepted =
    w.actorSystem.accepted.countP (·.2.value.isSendMessage) := by
  rw [← sum_toNat, Weight.envelopes]
  congr 1
  apply List.map_congr_left
  intro x hx
  rcases hl.destination hx with ⟨e, he⟩ | ⟨e, he⟩ | ⟨e, he⟩ | ⟨e, he⟩ <;> rw [he] <;> rfl

theorem legs_emitted (hl : LogInv cfg w) :
    (w.actorSystem.emitted.map legs.output).sum = w.creates.length := by
  have hlen : w.creates.length = w.records.length := by simp [records]
  rw [hlen, hl.creates, List.length_filterMap_eq_countP]
  exact sum_toNat _ _

theorem events_accounted_for (h : Runs cfg (run cfg) ls w) (hd : w.actorSystem.dropped = [])
    (hf : w.actorSystem.failed = []) :
    w.actorSystem.accepted.countP (·.2.value.isSendMessage) = w.creates.length +
      ((w.actorSystem.mailbox .message).queue.countP (·.value.isSendMessage) +
        (w.actorSystem.mailbox .chat).queue.countP (·.value.isSendMessage) +
        (w.actorSystem.mailbox .storage).queue.countP (·.value.isPersist) +
        w.actorSystem.workers.countP holdsStorageLeg) := by
  have hl := logInv_of_runs h
  have hb := balanced_of_runs (legs_conserved cfg.lib cfg.order) h
  have hw : (w.actorSystem.workers.map legs.worker).sum =
      w.actorSystem.workers.countP holdsStorageLeg := by
    rw [← sum_toNat]
    congr 1
    exact List.map_congr_left fun x hx => legs_worker (holdsSuffix_of_runs h x hx)
  rw [Weight.Balanced, Weight.account, Weight.inFlight, legs_accepted hl, legs_emitted hl,
    legs_queued, hw, hd, hf] at hb
  simp only [Weight.envelopes, List.map_nil, List.sum_nil] at hb
  omega

/-- Every create stems from an accepted event of its own, with that event's data,
and as long as no send was refused and no handler has thrown, the events that are
not yet created are all waiting in a mailbox or held by a worker. -/
theorem storage_leg_exactly_once (h : Runs cfg (run cfg) ls w) :
    ((w.actorSystem.accepted.map (·.2.origin)).Nodup ∧ (w.creates.map (·.origin)).Nodup ∧
      ∀ c ∈ w.creates, ∃ event : SendMessageEvent,
        (.message, ⟨c.origin, .sendMessageEvent event⟩) ∈ w.actorSystem.accepted ∧
        cfg.lib.stringGenerator event.chatId = some c.value.chatId ∧
        cfg.lib.stringGenerator event.senderId = some c.value.senderId ∧
        c.value.content = event.text) ∧
    (w.actorSystem.refused = [] → w.actorSystem.dropped = [] → w.actorSystem.failed = [] →
      w.actorSystem.accepted.countP (·.2.value.isSendMessage) = w.creates.length +
        ((w.actorSystem.mailbox .message).queue.countP (·.value.isSendMessage) +
          (w.actorSystem.mailbox .chat).queue.countP (·.value.isSendMessage) +
          (w.actorSystem.mailbox .storage).queue.countP (·.value.isPersist) +
          w.actorSystem.workers.countP holdsStorageLeg)) := by
  refine ⟨⟨?_, origins_nodup h, fun c hc => create_stems_from_event h hc⟩,
    fun _ hd hf => events_accounted_for h hd hf⟩
  exact List.pairwise_map.mpr ((logInv_of_runs h).sorted.imp Nat.ne_of_lt)

theorem storage_leg_exactly_once_two_messages :
    ∃ w, Runs
        (Sample.config [Sample.greeting] 4 2)
        (run (Sample.config [Sample.greeting] 4 2))
        (Sample.connect 0 ++ Sample.frame 0 Sample.greeting ++ Sample.frame 0 Sample.greeting ++
          Sample.work 0 15 ++ Sample.work 1 6) w ∧
      w.actorSystem.accepted.countP (·.2.value.isSendMessage) = 2 ∧
      (w.creates.map (·.origin)).Nodup ∧
      2 = w.creates.length +
        ((w.actorSystem.mailbox .message).queue.countP (·.value.isSendMessage) +
          (w.actorSystem.mailbox .chat).queue.countP (·.value.isSendMessage) +
          (w.actorSystem.mailbox .storage).queue.countP (·.value.isPersist) +
          w.actorSystem.workers.countP holdsStorageLeg) ∧
      w.creates.length = 1 ∧ w.actorSystem.workers.countP holdsStorageLeg = 1 := by
  obtain ⟨w, hrun, hacc, hr, hd, hf, hc, hw⟩ : ∃ w,
      Runs (Sample.config [Sample.greeting] 4 2) (run (Sample.config [Sample.greeting] 4 2))
        (Sample.connect 0 ++ Sample.frame 0 Sample.greeting ++ Sample.frame 0 Sample.greeting ++
          Sample.work 0 15 ++ Sample.work 1 6) w ∧
      w.actorSystem.accepted.countP (·.2.value.isSendMessage) = 2 ∧
      w.actorSystem.refused.length = 0 ∧ w.actorSystem.dropped.length = 0 ∧
      w.actorSystem.failed.length = 0 ∧ w.creates.length = 1 ∧
      w.actorSystem.workers.countP holdsStorageLeg = 1 := exists_run _ (by decide +kernel)
  obtain ⟨⟨-, hn, -⟩, hcount⟩ := storage_leg_exactly_once hrun
  have hsum := hcount (List.eq_nil_of_length_eq_zero hr) (List.eq_nil_of_length_eq_zero hd)
    (List.eq_nil_of_length_eq_zero hf)
  exact ⟨w, hrun, hacc, hn, hacc ▸ hsum, hc, hw⟩

end Server

end Svitock
