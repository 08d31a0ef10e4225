import Svitock.RuntimeLoad
import Svitock.SequentialRefinement

/-!
# Below half load nothing is dropped

The results of all sends are discarded, so a full mailbox loses an envelope in
silence. A frame accounts for at most two envelopes in any mailbox: two go to the
session actor for a message with a recipient, and one at most to each other. With
no more frames outstanding than half the capacity, every send finds room.
-/

namespace Svitock

open ActorRuntime Transition

/-- The envelopes in mailbox `d` that one envelope at an actor accounts for. -/
def reach : ActorType → ActorType → ℕ
  | .message, .session => 2
  | .message, _ => 1
  | .chat, .session => 2
  | .chat, .message => 0
  | .chat, _ => 1
  | .session, .session => 1
  | .storage, .storage => 1
  | _, _ => 0

def frameLoad : Load ActorType Envelope ℕ := ⟨Traced.origin, fun a _ => reach a⟩

theorem frameLoad_bounds (lib : Libraries) (order : List ActorType) :
    frameLoad.Bounds (runtime lib order) 2 where
  job := by
    intro a m d m' h
    cases does_of_mem h <;> rfl
  sends := by
    rintro a ⟨o, p⟩ d
    rw [runtime_handle]
    cases a with
    | session =>
      cases p <;> cases d <;>
        simp [handle, SessionActor.handle, trace, Load.arrivals, frameLoad, reach]
    | message =>
      cases p <;> cases d <;>
        simp [handle, MessageActor.handle, trace, Load.arrivals, frameLoad, reach]
    | chat =>
      cases p with
      | sendMessageEvent event =>
        by_cases hr : event.recipientId = "" <;> cases d <;>
          simp [handle, ChatActor.handle, hr, trace, Load.arrivals, frameLoad, reach]
      | _ => cases d <;> simp [handle, ChatActor.handle, frameLoad, reach]
    | storage =>
      cases p with
      | storagePersistMessage persist =>
        cases hc : lib.stringGenerator persist.chatId <;>
          cases hs : lib.stringGenerator persist.senderId <;> cases d <;>
          simp [handle, StorageActor.handle, hc, hs, trace, Load.arrivals, frameLoad, reach]
      | _ => cases d <;> simp [handle, StorageActor.handle, frameLoad, reach]
  le := by
    intro a m d
    cases a <;> cases d <;> simp [frameLoad, reach]

namespace Server

variable {cfg : Config} {w₀ w w' : Server} {l : Label} {ls : List Label} {capacity : ℕ}

def originOf? : TracedAct → Option ℕ
  | .send _ m => some m.origin
  | .emit x => some x.origin
  | .fail _ => none

/-- The frames that an envelope in a mailbox or an action still to be taken stems
from. A worker that is through with its actions counts no longer. -/
def outstanding (w : Server) : Finset ℕ :=
  (Finset.univ.biUnion fun a => ((w.actorSystem.mailbox a).queue.map Traced.origin).toFinset) ∪
    (w.actorSystem.workers.flatMap fun x => x.todo.filterMap originOf?).toFinset

def dispatching (cfg : Config) (w : Server) : Label → ℕ
  | .dispatch i =>
    match w.sessions[i]? with
    | none => 0
    | some s =>
      match s.executing with
      | none => 0
      | some raw =>
        match MessageDispatcher.dispatch cfg.lib s.sessionId raw with
        | .ok (some _) => 1
        | _ => 0
  | _ => 0

/-- At most half the capacity is outstanding, counting a frame being dispatched. -/
def belowHalf (cfg : Config) (capacity : ℕ) (w : Server) (l : Label) : Bool :=
  w.outstanding.card + w.dispatching cfg l ≤ capacity / 2

theorem mem_outstanding_of_queue {a : ActorType} {m : Envelope}
    (hm : m ∈ (w.actorSystem.mailbox a).queue) : m.origin ∈ w.outstanding := by
  refine Finset.mem_union_left _ (Finset.mem_biUnion.mpr ⟨a, Finset.mem_univ a, ?_⟩)
  exact List.mem_toFinset.mpr (List.mem_map_of_mem hm)

theorem mem_outstanding_of_send {x : Worker ActorType Envelope (Traced Effect) HandlerError}
    (hx : x ∈ w.actorSystem.workers) {d : ActorType} {m : Envelope} (hm : .send d m ∈ x.todo) :
    m.origin ∈ w.outstanding := by
  refine Finset.mem_union_right _ (List.mem_toFinset.mpr (List.mem_flatMap.mpr ⟨x, hx, ?_⟩))
  exact List.mem_filterMap.mpr ⟨_, hm, rfl⟩

/-- Every frame stays within its load, one that is yet to come has none, and no send
has failed since `w₀`. -/
structure Spare (capacity : ℕ) (w₀ w : Server) : Prop where
  fresh : ∀ o, w.frames.length ≤ o → ∀ d, (frameLoad.weight o d).inFlight w.actorSystem = 0
  bound : ∀ d o, (frameLoad.weight o d).inFlight w.actorSystem ≤ 2
  mailbox : ∀ a, (w.actorSystem.mailbox a).capacity = capacity ∧
    (w.actorSystem.mailbox a).active = true
  refused : w.actorSystem.refused = w₀.actorSystem.refused
  dropped : w.actorSystem.dropped = w₀.actorSystem.dropped

theorem inFlight_of_idle (h : w.Idle) (o : ℕ) (d : ActorType) :
    (frameLoad.weight o d).inFlight w.actorSystem = 0 := by
  have hworkers : (w.actorSystem.workers.map (frameLoad.weight o d).worker).sum = 0 := by
    apply List.sum_eq_zero
    intro n hn
    obtain ⟨x, hx, rfl⟩ := List.mem_map.mp hn
    have hnone := List.filterMap_eq_nil_iff.mp h.1 x hx
    cases x with
    | busy a todo rest => cases hnone
    | _ => rfl
  simp [Weight.inFlight, Weight.queued, h.2, hworkers]

theorem Spare.room_of_send (h : Spare capacity w₀ w) (hc : w.outstanding.card ≤ capacity / 2)
    {left right : List (Worker ActorType Envelope (Traced Effect) HandlerError)} {a d : ActorType}
    {m : Envelope} {todo : List TracedAct} {rest : List ActorType}
    (hw : w.actorSystem.workers = left ++ .busy a (.send d m :: todo) rest :: right) :
    w.actorSystem.Room cfg.runtime d := by
  have hmem : m.origin ∈ w.outstanding :=
    mem_outstanding_of_send (x := .busy a (.send d m :: todo) rest) (by simp [hw])
      List.mem_cons_self
  have hlt := Load.length_lt_of_send (frameLoad_bounds cfg.lib cfg.order)
    (fun _ hx => mem_outstanding_of_queue hx) (h.bound d) hw hmem
  obtain ⟨hcap, hactive⟩ := h.mailbox d
  refine ⟨cfg.complete d, hactive, ?_⟩
  rw [hcap]
  omega

theorem Spare.room_of_dispatch (h : Spare capacity w₀ w)
    (hc : w.outstanding.card + 1 ≤ capacity / 2) (d : ActorType) :
    w.actorSystem.Room cfg.runtime d := by
  have hle := Load.length_le (frameLoad_bounds cfg.lib cfg.order)
    (fun _ hx => mem_outstanding_of_queue hx) (h.bound d)
  obtain ⟨hcap, hactive⟩ := h.mailbox d
  refine ⟨cfg.complete d, hactive, ?_⟩
  rw [hcap]
  omega

theorem Spare.quiet (h : Spare capacity w₀ w) (hq : Quiet w w') : Spare capacity w₀ w' := by
  have hflight : ∀ o d, (frameLoad.weight o d).inFlight w'.actorSystem =
      (frameLoad.weight o d).inFlight w.actorSystem := by
    intro o d
    exact hq.transfer (P := fun a => (frameLoad.weight o d).inFlight a =
      (frameLoad.weight o d).inFlight w.actorSystem) (fun _ ha => ha) rfl
  have hmailbox : w'.actorSystem.mailbox = w.actorSystem.mailbox :=
    hq.transfer (P := fun a => a.mailbox = w.actorSystem.mailbox) (fun _ ha => ha) rfl
  have hdropped : w'.actorSystem.dropped = w.actorSystem.dropped :=
    hq.transfer (P := fun a => a.dropped = w.actorSystem.dropped) (fun _ ha => ha) rfl
  obtain ⟨-, hrefused, -, -⟩ := hq.history
  refine ⟨fun o ho d => ?_, fun d o => ?_, fun a => ?_, hrefused.trans h.refused,
    hdropped.trans h.dropped⟩
  · rw [hflight]
    exact h.fresh o (hq.frames ▸ ho) d
  · rw [hflight]
    exact h.bound d o
  · rw [hmailbox]
    exact h.mailbox a

theorem Spare.worked (h : Spare capacity w₀ w) (hc : w.outstanding.card ≤ capacity / 2)
    {out : Outcome ActorType Envelope (Traced Effect) HandlerError}
    (hm : Move cfg.runtime w.actorSystem out w'.actorSystem) (hw : Worked w out w') :
    Spare capacity w₀ w' := by
  have hle : ∀ o d, (frameLoad.weight o d).inFlight w'.actorSystem ≤
      (frameLoad.weight o d).inFlight w.actorSystem := fun o d =>
    Load.inFlight_move_le (frameLoad_bounds cfg.lib cfg.order) hm
  have hdropped : w'.actorSystem.dropped = w.actorSystem.dropped := by
    generalize w'.actorSystem = s at hm
    cases hm with
    | drop hworkers hd => exact absurd (h.room_of_send hc hworkers) hd
    | _ => rfl
  refine ⟨fun o ho d => ?_, fun d o => (hle o d).trans (h.bound d o), fun a => ?_,
    hm.refused.trans h.refused, hdropped.trans h.dropped⟩
  · have hz := h.fresh o (hw.frames ▸ ho) d
    have hz' := hle o d
    omega
  · obtain ⟨hcap, hactive⟩ := (Change.move hm).mailbox a
    rw [hcap, hactive]
    exact h.mailbox a

theorem Spare.receive (h : Spare capacity w₀ w) (hc : w.outstanding.card + 1 ≤ capacity / 2)
    {d : ActorType} {p : ActorPayload}
    (ha : w'.actorSystem = w.actorSystem.receive cfg.runtime d ⟨w.frames.length, p⟩)
    (hf : w'.frames.length = w.frames.length + 1) : Spare capacity w₀ w' := by
  have hle : ∀ o c, (frameLoad.weight o c).inFlight w'.actorSystem ≤
      (frameLoad.weight o c).inFlight w.actorSystem +
        (frameLoad.weight (ω := Traced Effect) (ε := HandlerError) o c).message d
          ⟨w.frames.length, p⟩ := by
    intro o c
    rw [ha]
    exact Load.inFlight_receive_le d _
  have hother : ∀ o c, w.frames.length ≠ o →
      (frameLoad.weight o c).inFlight w'.actorSystem ≤
        (frameLoad.weight o c).inFlight w.actorSystem := by
    intro o c ho
    have hsum := hle o c
    rwa [Load.message_of_ne (L := frameLoad) (m := ⟨w.frames.length, p⟩) ho, Nat.add_zero] at hsum
  refine ⟨fun o ho c => ?_, fun c o => ?_, fun a => ?_, ?_, ?_⟩
  · have hz := h.fresh o (by omega) c
    have hsame := hother o c (by omega)
    omega
  · by_cases ho : w.frames.length = o
    · have hz := h.fresh o (by omega) c
      have hnew := (frameLoad_bounds cfg.lib cfg.order).message_le (k := o) (d := c) d
        ⟨w.frames.length, p⟩
      have hsum := hle o c
      omega
    · exact (hother o c ho).trans (h.bound c o)
  · have hchange : Change cfg.runtime w.actorSystem
      (w.actorSystem.receive cfg.runtime d ⟨w.frames.length, p⟩) := .receive d _
    obtain ⟨hcap, hactive⟩ := hchange.mailbox a
    rw [ha, hcap, hactive]
    exact h.mailbox a
  · rw [ha, receive_of_room _ (h.room_of_dispatch hc d)]
    exact h.refused
  · rw [ha, receive_dropped]
    exact h.dropped

theorem Spare.onRead (h : Spare capacity w₀ w) {i : ℕ} {s : WebSocketSession} {raw : ByteArray}
    (hs : w.sessions[i]? = some s) (hx : s.executing = some raw)
    (hc : belowHalf cfg capacity w (.dispatch i) = true) :
    Spare capacity w₀ (w.onRead cfg i s raw) := by
  simp only [belowHalf, dispatching, hs, hx, decide_eq_true_eq] at hc
  have hlen : (w.onRead cfg i s raw).frames.length = w.frames.length + 1 := by simp
  have hfresh : ∀ o, w.frames.length + 1 ≤ o → ∀ d,
      (frameLoad.weight o d).inFlight w.actorSystem = 0 := fun o ho => h.fresh o (by omega)
  cases hd : MessageDispatcher.dispatch cfg.lib s.sessionId raw with
  | error e =>
    simp only [Server.onRead, hd] at hlen ⊢
    exact ⟨by rwa [hlen], h.bound, h.mailbox, h.refused, h.dropped⟩
  | ok sent =>
    cases sent with
    | none =>
      simp only [Server.onRead, hd] at hlen ⊢
      exact ⟨by rwa [hlen], h.bound, h.mailbox, h.refused, h.dropped⟩
    | some envelope =>
      simp only [hd] at hc
      simp only [Server.onRead, hd] at hlen ⊢
      exact h.receive hc rfl hlen

theorem Spare.step (h : Spare capacity w₀ w) (hc : belowHalf cfg capacity w l = true)
    (hst : Step cfg w l w') : Spare capacity w₀ w' := by
  have hcard : w.outstanding.card ≤ capacity / 2 := by
    simp only [belowHalf, decide_eq_true_eq] at hc
    omega
  rcases hst.log_cases with hq | ⟨i, s, raw, rfl, hs, hx, rfl⟩ | ⟨k, id, now, out, -, hk, hw⟩
  · exact h.quiet hq
  · exact h.onRead hs hx hc
  · exact h.worked hcard (workerStep_move hk) hw

/-- From empty mailboxes on, with never more frames outstanding than half the capacity
of a mailbox, every send succeeds: those of the dispatcher and those of the actors. -/
theorem no_drop_below_half (hidle : w₀.Idle)
    (hmailbox : ∀ a, (w₀.actorSystem.mailbox a).capacity = capacity ∧
      (w₀.actorSystem.mailbox a).active = true)
    (h : Run (step cfg) (fun w l => belowHalf cfg capacity w l = true) w₀ ls w) :
    w.actorSystem.refused = w₀.actorSystem.refused ∧
      w.actorSystem.dropped = w₀.actorSystem.dropped := by
  have hspare : Spare capacity w₀ w := by
    refine h.invariant (I := Spare capacity w₀) ?_
      fun t l u hi hc hs => hi.step hc (step_cases hs).2
    exact ⟨fun o _ d => inFlight_of_idle hidle o d,
      fun d o => by rw [inFlight_of_idle hidle]; omega, hmailbox, rfl, rfl⟩
  exact ⟨hspare.refused, hspare.dropped⟩

theorem no_drop_below_half_two_messages :
    ∃ w, Run (step (Sample.config [Sample.whisper] 4 2))
        (fun w l => belowHalf (Sample.config [Sample.whisper] 4 2) 4 w l = true)
        (run (Sample.config [Sample.whisper] 4 2))
        (Sample.connect 0 ++ Sample.frame 0 Sample.whisper ++ Sample.frame 0 Sample.whisper ++
          Sample.work 0 10 ++ Sample.work 1 30) w ∧
      w.creates.length = 2 ∧ w.actorSystem.refused = [] ∧ w.actorSystem.dropped = [] := by
  obtain ⟨w, hrun, hcreates⟩ : ∃ w, Run (step (Sample.config [Sample.whisper] 4 2))
        (fun w l => belowHalf (Sample.config [Sample.whisper] 4 2) 4 w l = true)
        (run (Sample.config [Sample.whisper] 4 2))
        (Sample.connect 0 ++ Sample.frame 0 Sample.whisper ++ Sample.frame 0 Sample.whisper ++
          Sample.work 0 10 ++ Sample.work 1 30) w ∧
      w.creates.length = 2 := exists_run _ (by decide +kernel)
  have hidle : (run (Sample.config [Sample.whisper] 4 2)).Idle := ⟨rfl, fun _ => rfl⟩
  exact ⟨w, hrun, hcreates, no_drop_below_half hidle (fun _ => ⟨rfl, rfl⟩) hrun⟩

end Server

end Svitock
