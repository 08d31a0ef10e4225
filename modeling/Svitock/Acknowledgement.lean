import Mathlib.Algebra.Order.BigOperators.Group.Finset
import Mathlib.Algebra.Order.BigOperators.Group.List
import Svitock.CrashFreedom

/-!
# Acknowledged messages

`ChatActor` asks for a message to be stored and acknowledges it in two sends that
nobody waits for. A message that was acknowledged is lost when the storage
mailbox has no room for its request, or when the workers stop before they get to
it. In every other run it is stored by the time the server has stopped.
-/

namespace Svitock

open ActorRuntime Transition

instance {ι π ω ε : Type*} [DecidableEq ι] (rt : Runtime ι π ω ε) (s : State ι π ω ε) (d : ι) :
    Decidable (s.Room rt d) :=
  inferInstanceAs (Decidable (_ ∧ _ ∧ _))

def isAck (payload : Json) : Bool := payload.text "type" == "message_delivered"

def isStorable (lib : Libraries) (chatId senderId : String) : Bool :=
  (lib.stringGenerator chatId).isSome && (lib.stringGenerator senderId).isSome

/-- For the message of frame `o`, requests to store it count up and acknowledgements
count down. -/
def balance (lib : Libraries) (o : ℕ) : Weight ActorType Envelope (Traced Effect) HandlerError ℤ where
  message
    | .storage, ⟨p, .storagePersistMessage persist⟩ =>
      if p = o ∧ isStorable lib persist.chatId persist.senderId then 1 else 0
    | .session, ⟨p, .sessionOutgoingEvent outgoing⟩ =>
      if p = o ∧ isAck outgoing.payload then -1 else 0
    | .chat, ⟨p, .sendMessageEvent event⟩ =>
      if p = o ∧ ¬ isStorable lib event.chatId event.senderId then -1 else 0
    | .message, ⟨p, .sendMessageEvent event⟩ =>
      if p = o ∧ ¬ isStorable lib event.chatId event.senderId then -1 else 0
    | _, _ => 0
  output
    | ⟨p, .create ..⟩ => if p = o then 1 else 0
    | ⟨p, .deliver _ payload⟩ => if p = o ∧ isAck payload then -1 else 0
  failure _ := 0

theorem isAck_echo (event : SendMessageEvent) : isAck (ChatActor.echo event) = true := by
  simp [isAck, ChatActor.echo_eq, Json.text, Json.field?]

theorem isAck_incoming (event : SendMessageEvent) : isAck (ChatActor.incoming event) = false := by
  simp [isAck, ChatActor.incoming_eq, Json.text, Json.field?]

/-- A storable message is requested once and acknowledged once. -/
theorem balance_conserved (lib : Libraries) (order : List ActorType) (o : ℕ) :
    (balance lib o).Conserved (runtime lib order) := by
  rintro a ⟨p, m⟩
  rw [runtime_handle]
  cases a with
  | session => cases m <;> simp [handle, SessionActor.handle, balance, trace, Weight.act]
  | message => cases m <;> simp [handle, MessageActor.handle, balance, trace, Weight.act]
  | chat =>
    cases m with
    | sendMessageEvent event =>
      have hecho : (balance lib o).act (trace p (.send .session
          (.sessionOutgoingEvent ⟨event.sessionId, ChatActor.echo event⟩))) =
          if p = o then -1 else 0 := by
        simp [trace, Weight.act, balance, isAck_echo]
      have hincoming : (balance lib o).act (trace p (.send .session
          (.sessionOutgoingEvent ⟨event.recipientId, ChatActor.incoming event⟩))) = 0 := by
        simp [trace, Weight.act, balance, isAck_incoming]
      have hsum : (((handle lib .chat (.sendMessageEvent event)).map (trace p)).map
          (balance lib o).act).sum =
          (if p = o ∧ isStorable lib event.chatId event.senderId then 1 else 0) +
            if p = o then -1 else 0 := by
        rw [← hecho]
        simp only [handle, ChatActor.handle]
        by_cases hr : event.recipientId ≠ ""
        · simp only [if_pos hr, List.map_append, List.map_cons, List.map_nil, List.sum_append,
            List.sum_cons, List.sum_nil, hincoming, add_zero]
          rfl
        · simp only [if_neg hr, List.append_nil, List.map_cons, List.map_nil, List.sum_cons,
            List.sum_nil, add_zero]
          rfl
      -- a message that cannot be stored counts down already before it is acknowledged
      rw [hsum]
      show (if p = o ∧ ¬ isStorable lib event.chatId event.senderId then -1 else 0) = _
      by_cases hp : p = o <;> by_cases hs : isStorable lib event.chatId event.senderId <;>
        simp [hp, hs]
    | _ => simp [handle, ChatActor.handle, balance]
  | storage =>
    cases m with
    | storagePersistMessage persist =>
      cases hc : lib.stringGenerator persist.chatId <;>
        cases hs : lib.stringGenerator persist.senderId <;>
        simp [handle, StorageActor.handle, balance, trace, Weight.act, isStorable, hc, hs]
    | _ => simp [handle, StorageActor.handle, balance]

theorem balance_message_nonpos (lib : Libraries) (o : ℕ) {a : ActorType} (ha : a ≠ .storage)
    (m : Envelope) : (balance lib o).message a m ≤ 0 := by
  obtain ⟨p, m⟩ := m
  cases a with
  | storage => exact absurd rfl ha
  | _ =>
    cases m <;> simp only [balance, le_refl]
    split <;> simp

theorem sum_nonpos {α : Type*} {f : α → ℤ} {xs : List α} (h : ∀ x ∈ xs, f x ≤ 0) :
    (xs.map f).sum ≤ 0 := by
  have hle : (xs.map f).sum ≤ (xs.map fun _ => (0 : ℤ)).sum := List.sum_le_sum h
  simpa using hle

theorem exists_pos_of_sum_nonneg {α : Type*} {f : α → ℤ} {xs : List α} {x : α} (hx : x ∈ xs)
    (hneg : f x < 0) (hsum : 0 ≤ (xs.map f).sum) : ∃ y ∈ xs, 0 < f y := by
  by_contra hall
  push Not at hall
  have hlt := List.sum_lt_sum f (fun _ => (0 : ℤ)) hall ⟨x, hx, hneg⟩
  simp only [List.map_const', List.sum_replicate, nsmul_zero] at hlt
  omega

namespace Server

variable {cfg : Config} {w w' : Server} {l : Label} {ls : List Label}

/-- A worker about to send to the storage actor finds room in its mailbox, and the
last worker to leave its loop finds that mailbox empty. -/
def keepsRequests (cfg : Config) (w : Server) : Label → Bool
  | .worker k _ _ =>
    match w.actorSystem.workers[k]? with
    | some (.busy _ (.send .storage _ :: _) _) => decide (w.actorSystem.Room cfg.runtime .storage)
    | some (.poll []) =>
      w.actorSystem.running || !(w.actorSystem.workers.eraseIdx k).all Worker.isExited ||
        (w.actorSystem.mailbox .storage).queue.isEmpty
    | _ => true
  | _ => true

/-- No request was dropped, and when everybody has left none is waiting. -/
structure Kept (w : Server) : Prop where
  dropped : ∀ x ∈ w.actorSystem.dropped, x.1 ≠ .storage
  drained : w.actorSystem.workers.all Worker.isExited = true →
    (w.actorSystem.mailbox .storage).queue = []

theorem all_isExited_set {k : ℕ} {workers : List (Worker ActorType Envelope (Traced Effect)
    HandlerError)} {x y : Worker ActorType Envelope (Traced Effect) HandlerError}
    (hx : workers[k]? = some x) (h : (workers.set k y).all Worker.isExited = true) :
    y.isExited = true ∧ (workers.eraseIdx k).all Worker.isExited = true := by
  rw [List.all_eq_true] at h
  refine ⟨h y (List.mem_set (List.getElem?_eq_some_iff.mp hx).1 y), ?_⟩
  rw [← List.eraseIdx_set_eq (a := y), List.all_eq_true]
  exact fun z hz => h z (List.mem_of_mem_eraseIdx hz)

theorem Kept.worker (h : Kept w) {k : ℕ} {id : Uuid} {now : ℤ} {a : ActorSystem}
    {out : Outcome ActorType Envelope (Traced Effect) HandlerError}
    (hc : keepsRequests cfg w (.worker k id now) = true)
    (ht : Turn cfg.runtime w.actorSystem k out a) :
    (∀ x ∈ a.dropped, x.1 ≠ .storage) ∧
      (a.workers.all Worker.isExited = true → (a.mailbox .storage).queue = []) := by
  cases ht with
  | enter hk hr =>
    exact ⟨h.dropped, fun hall => by cases (all_isExited_set hk hall).1⟩
  | leave hk hr =>
    -- the only turn after which everybody can be gone
    refine ⟨h.dropped, fun hall => ?_⟩
    simpa [keepsRequests, hk, hr, (all_isExited_set hk hall).2] using hc
  | skip hk hq => exact ⟨h.dropped, fun hall => by cases (all_isExited_set hk hall).1⟩
  | pop hk hq => exact ⟨h.dropped, fun hall => by cases (all_isExited_set hk hall).1⟩
  | send hk hd => exact ⟨h.dropped, fun hall => by cases (all_isExited_set hk hall).1⟩
  | emit hk => exact ⟨h.dropped, fun hall => by cases (all_isExited_set hk hall).1⟩
  | fail hk => exact ⟨h.dropped, fun hall => by cases (all_isExited_set hk hall).1⟩
  | ret hk => exact ⟨h.dropped, fun hall => by cases (all_isExited_set hk hall).1⟩
  | @drop b d m todo rest hk hd =>
    refine ⟨fun x hx => ?_, fun hall => by cases (all_isExited_set hk hall).1⟩
    rcases List.mem_append.mp hx with hx | hx
    · exact h.dropped x hx
    · obtain rfl := List.mem_singleton.mp hx
      rintro rfl
      exact hd (by simpa [keepsRequests, hk] using hc)

theorem Kept.step (h : Kept w) (hc : keepsRequests cfg w l = true) (hst : Step cfg w l w') :
    Kept w' := by
  rcases hst.log_cases with hq | ⟨i, s, raw, -, -, -, rfl⟩ | ⟨k, id, now, out, rfl, hk, -⟩
  · exact ⟨hq.transfer (P := fun a => ∀ x ∈ a.dropped, x.1 ≠ .storage) (fun _ ha => ha) h.dropped,
      hq.transfer (P := fun a => a.workers.all Worker.isExited = true →
        (a.mailbox .storage).queue = []) (fun _ ha => ha) h.drained⟩
  · exact ⟨by rw [onRead_dropped]; exact h.dropped,
      by rw [onRead_workers, onRead_storage]; exact h.drained⟩
  · obtain ⟨hd, hq⟩ := h.worker hc (workerStep_turn hk)
    exact ⟨hd, hq⟩

theorem kept_of_runs (h : Run (step cfg) (fun w l => keepsRequests cfg w l = true) (run cfg) ls w) :
    Kept w :=
  h.invariant ⟨by simp [Server.run, ActorSystem.start], fun _ => rfl⟩
    fun _ _ _ hi hc hs => hi.step hc (step_cases hs).2

theorem perform_stopReturned (lib : Libraries) (id : Uuid) (now : ℤ)
    (out : Outcome ActorType Envelope (Traced Effect) HandlerError) :
    (w.perform lib id now out).stopReturned = w.stopReturned := by
  unfold perform
  split
  · next o sid p =>
    rcases deliver_cases lib w o sid p with ⟨i, s, -, -, -, h⟩ | ⟨-, h⟩ <;> rw [h]
  · rfl
  · rfl
  · rfl

theorem exited_of_stopReturned (h : Runs cfg (run cfg) ls w) (hs : w.stopReturned = true) :
    w.actorSystem.workers.all Worker.isExited = true := by
  refine h.invariant (I := fun u => u.stopReturned = true →
    u.actorSystem.workers.all Worker.isExited = true) (by simp [Server.run]) ?_ hs
  intro t l u hi _ hstep
  cases (step_cases hstep).2 with
  | @worker k out a hk id now =>
    intro hret
    rw [perform_stopReturned] at hret
    -- nobody is left to take a turn
    obtain ⟨x, hx, hne⟩ := (workerStep_turn hk).not_exited
    have hexited := List.all_eq_true.mp (hi hret) x (List.mem_of_getElem? hx)
    cases x with
    | exited => exact absurd rfl hne
    | _ => cases hexited
  | stopReturn hr hw =>
    intro _
    rw [List.all_eq_true]
    intro x hx
    rw [hw x hx]
    rfl
  | @dispatch i s raw hs hx =>
    rw [onRead_workers]
    intro hret
    refine hi ?_
    revert hret
    unfold onRead
    dsimp only
    split <;> exact id
  | handshake hs ha ok => cases ok <;> exact hi
  | writeDone hs hw ok => cases ok <;> exact hi
  | _ => exact hi

theorem balance_accepted (h : Runs cfg (run cfg) ls w)
    (hf : ∀ f ∈ w.frames, wellFormedIds cfg.lib f.raw = true) (o : ℕ) :
    (balance cfg.lib o).envelopes w.actorSystem.accepted = 0 := by
  have hl := logInv_of_runs h
  apply List.sum_eq_zero
  intro z hz
  obtain ⟨x, hx, rfl⟩ := List.mem_map.mp hz
  rcases hl.destination hx with ⟨e, he⟩ | ⟨e, he⟩ | ⟨e, he⟩ | ⟨e, he⟩
  · rw [he]
    rfl
  · rw [he] at hx ⊢
    obtain ⟨f, hfr, hd⟩ := hl.accepted _ hx
    have hs := storable_of_wellFormedIds (hf f (List.mem_of_getElem? hfr)) hd
    have hok : isStorable cfg.lib e.chatId e.senderId = true := by
      rw [isStorable, hs.1, hs.2]
      rfl
    simp [balance, hok]
  · rw [he]
    rfl
  · rw [he]
    rfl

/-- Once everybody has left, the outputs are never short of creates. -/
theorem balance_emitted_nonneg
    (h : Run (step cfg) (fun w l => keepsRequests cfg w l = true) (run cfg) ls w)
    (hf : ∀ f ∈ w.frames, wellFormedIds cfg.lib f.raw = true)
    (hexit : w.actorSystem.workers.all Worker.isExited = true) (o : ℕ) :
    0 ≤ (w.actorSystem.emitted.map (balance cfg.lib o).output).sum := by
  have hk := kept_of_runs h
  have hb := balanced_of_runs (balance_conserved cfg.lib cfg.order o) h.anything
  rw [Weight.Balanced, balance_accepted h.anything hf, Weight.account, Weight.inFlight] at hb
  have hworkers : (w.actorSystem.workers.map (balance cfg.lib o).worker).sum = 0 := by
    apply List.sum_eq_zero
    intro z hz
    obtain ⟨x, hx, rfl⟩ := List.mem_map.mp hz
    have hexited := List.all_eq_true.mp hexit x hx
    cases x with
    | exited => rfl
    | _ => cases hexited
  have hqueues : ∑ a, (balance cfg.lib o).queued w.actorSystem.mailbox a ≤ 0 := by
    apply Finset.sum_nonpos
    intro a _
    by_cases ha : a = .storage
    · rw [ha, Weight.queued, hk.drained hexit]
      rfl
    · exact sum_nonpos fun m _ => balance_message_nonpos cfg.lib o ha m
  have hdropped : (balance cfg.lib o).envelopes w.actorSystem.dropped ≤ 0 :=
    sum_nonpos fun x hx => balance_message_nonpos cfg.lib o (hk.dropped x hx) x.2
  have hfailed : (w.actorSystem.failed.map (balance cfg.lib o).failure).sum = 0 :=
    List.sum_eq_zero fun z hz => by
      obtain ⟨e, -, rfl⟩ := List.mem_map.mp hz
      rfl
  omega

/-- When the server has stopped after a run that kept the requests, every message
that was acknowledged has been stored. -/
theorem acknowledged_is_stored
    (h : Run (step cfg) (fun w l => keepsRequests cfg w l = true) (run cfg) ls w)
    (hf : ∀ f ∈ w.frames, wellFormedIds cfg.lib f.raw = true) (hs : w.stopReturned = true) :
    ∀ x ∈ w.handed, x.payload.text "type" = "message_delivered" →
      ∃ c ∈ w.creates, c.origin = x.origin := by
  intro x hx hack
  have hl := logInv_of_runs h.anything
  have hnonneg := balance_emitted_nonneg h hf (exited_of_stopReturned h.anything hs) x.origin
  -- the acknowledgement is an output that counts down, so some create counts up
  have hmem := hl.handed.subset (List.mem_map.mpr ⟨x, hx, rfl⟩)
  obtain ⟨⟨p, e⟩, hy, hyx⟩ := List.mem_filterMap.mp hmem
  cases e with
  | create chatId senderId content => cases hyx
  | deliver sid payload =>
    simp only [delivered?, Option.some.injEq, Prod.mk.injEq] at hyx
    obtain ⟨rfl, -, rfl⟩ := hyx
    obtain ⟨⟨q, e⟩, hz, hpos⟩ := exists_pos_of_sum_nonneg hy
      (by simp [balance, isAck, hack]) hnonneg
    cases e with
    | deliver sid' payload' =>
      simp only [balance] at hpos
      split at hpos <;> simp at hpos
    | create chatId senderId content =>
      simp only [balance] at hpos
      split at hpos
      · next hq =>
        have hr : (⟨q, ⟨chatId, senderId, content⟩⟩ : Traced Record) ∈ w.records := by
          rw [hl.creates]
          exact List.mem_filterMap.mpr ⟨_, hz, rfl⟩
        obtain ⟨c, hc, hcr⟩ := List.mem_map.mp hr
        exact ⟨c, hc, (congrArg Traced.origin hcr).trans hq⟩
      · simp at hpos

def stop : List Label := [.stopNetwork, .stopActors, .worker 0 9 0, .stopReturn]

theorem acknowledged_is_stored_one_message :
    ∃ w, Run (step (Sample.config [Sample.greeting] 4 1))
        (fun w l => keepsRequests (Sample.config [Sample.greeting] 4 1) w l = true)
        (run (Sample.config [Sample.greeting] 4 1))
        (Sample.connect 0 ++ Sample.frame 0 Sample.greeting ++ Sample.work 0 19 ++ stop) w ∧
      w.handed.length = 1 ∧
      ∀ x ∈ w.handed, x.payload.text "type" = "message_delivered" →
        ∃ c ∈ w.creates, c.origin = x.origin := by
  obtain ⟨w, hrun, hlen, hf, hs⟩ : ∃ w, Run (step (Sample.config [Sample.greeting] 4 1))
        (fun w l => keepsRequests (Sample.config [Sample.greeting] 4 1) w l = true)
        (run (Sample.config [Sample.greeting] 4 1))
        (Sample.connect 0 ++ Sample.frame 0 Sample.greeting ++ Sample.work 0 19 ++ stop) w ∧
      w.handed.length = 1 ∧
      (∀ f ∈ w.frames, wellFormedIds (Sample.libraries [Sample.greeting]) f.raw = true) ∧
      w.stopReturned = true := exists_run _ (by decide +kernel)
  exact ⟨w, hrun, hlen, acknowledged_is_stored hrun hf hs⟩

/-- Two workers and mailboxes with room for one envelope. The second worker has passed
the storage mailbox when the first message's request enters it, and finds it full
when it comes to send the second message's. -/
def fullMailbox : List Label :=
  Sample.connect 0 ++ Sample.frame 0 Sample.greeting ++ Sample.work 1 2 ++ Sample.work 0 12 ++
    Sample.frame 0 Sample.greeting ++ Sample.work 1 10 ++ Sample.work 0 7 ++
    [.stopNetwork, .stopActors, .worker 0 9 0, .worker 1 9 0, .stopReturn]

/-- A worker that is told to stop right after its first round leaves the request of
the message it has acknowledged in the mailbox, and a full mailbox loses it. -/
theorem acknowledged_messages_are_lost :
    (∃ w, Runs (Sample.config [Sample.greeting] 4 1) (run (Sample.config [Sample.greeting] 4 1))
        (Sample.connect 0 ++ Sample.frame 0 Sample.greeting ++ Sample.work 0 12 ++ stop) w ∧
      w.stopReturned = true ∧
      w.handed.map (fun x => (x.origin, x.session, x.payload.text "type")) =
        [(0, 0, "message_delivered")] ∧ w.creates.map (·.origin) = []) ∧
    ∃ w, Runs (Sample.config [Sample.greeting] 1 2) (run (Sample.config [Sample.greeting] 1 2))
        fullMailbox w ∧
      w.stopReturned = true ∧
      w.handed.map (fun x => (x.origin, x.session, x.payload.text "type")) =
        [(0, 0, "message_delivered"), (1, 0, "message_delivered")] ∧
      w.creates.map (·.origin) = [0] :=
  ⟨exists_run _ (by decide +kernel), exists_run _ (by decide +kernel)⟩

end Server

end Svitock
