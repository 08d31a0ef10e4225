import Svitock.SessionRegistry
import Svitock.Trails

namespace Svitock

open ActorRuntime Transition

namespace Server

/-- The calls of `create`, without the generated ids and the clock. -/
def records (w : Server) : List (Traced Record) := w.creates.map fun c => ⟨c.origin, c.value.record⟩

/-- The payloads handed to transports, with the id of the session. -/
def deliveries (w : Server) : List (ℕ × String × Json) :=
  w.handed.map fun h => (h.origin, sessionIdOf h.session, h.payload)

def Dispatched (cfg : Config) (w : Server) (o : ℕ) (e : ActorEnvelope) : Prop :=
  ∃ f, w.frames[o]? = some f ∧
    MessageDispatcher.dispatch cfg.lib f.sessionId f.raw = .ok (some e)

variable {cfg : Config} {w w' : Server} {l : Label}

def locked (w : Server) (sessionId : String) : Option ℕ :=
  (w.transports sessionId).filter fun i => w.sessions[i]?.any (·.alive)

/-- The transport that an output is handed to. -/
def handOver (w : Server) : Traced Effect → Option Handed
  | ⟨o, .deliver sessionId payload⟩ => (w.locked sessionId).map fun i => ⟨o, i, payload⟩
  | _ => none

structure Quiet (w w' : Server) : Prop where
  frames : w'.frames = w.frames
  creates : w'.creates = w.creates
  handed : w'.handed = w.handed
  exception : w'.exception = w.exception
  length : w.sessions.length ≤ w'.sessions.length
  actorSystem : w'.actorSystem = w.actorSystem ∨ w'.actorSystem = w.actorSystem.halt

structure Worked (w : Server) (out : Outcome ActorType Envelope (Traced Effect) HandlerError)
    (w' : Server) : Prop where
  frames : w'.frames = w.frames
  transports : w'.transports = w.transports
  length : w'.sessions.length = w.sessions.length
  locked : w'.locked = w.locked
  records : w'.records = w.records ++ out.outputs.filterMap created?
  handed : w'.handed = w.handed ++ out.outputs.filterMap w.handOver
  failed : out.failures ≠ [] → w'.exception ≠ none
  unfailed : out.failures = [] → w'.exception = w.exception

theorem locked_send {i : ℕ} {s : WebSocketSession} {p : String} (hs : w.sessions[i]? = some s)
    (ha : s.alive = true) (hsessions : w'.sessions = w.sessions.set i (s.send p))
    (ht : w'.transports = w.transports) : w'.locked = w.locked := by
  have halive : (s.send p).alive = true := by simp [WebSocketSession.alive, WebSocketSession.send]
  funext sid
  unfold locked
  rw [ht]
  refine congrArg (Option.filter · _) (funext fun j => ?_)
  by_cases hj : j = i
  · subst hj
    rw [hsessions, getElem?_set_of_some hs hs, if_pos rfl, hs]
    simp [ha, halive]
  · rw [hsessions, List.getElem?_set_ne (Ne.symm hj)]

theorem deliver_worked (lib : Libraries) (w : Server) (o : ℕ) (sid : String) (p : Json) :
    Worked w (.emitted ⟨o, .deliver sid p⟩) (w.deliver lib o sid p) := by
  rcases deliver_cases lib w o sid p with ⟨i, s, ht, hs, ha, hd⟩ | ⟨hdead, hd⟩
  · have hl : w.locked sid = some i := by simp [locked, ht, hs, ha]
    rw [hd]
    exact ⟨rfl, rfl, by simp, locked_send hs ha rfl rfl,
      by simp [records, Outcome.outputs, created?], by simp [Outcome.outputs, handOver, hl],
      by simp [Outcome.failures], fun _ => rfl⟩
  · have hl : w.locked sid = none := by
      apply Option.filter_eq_none_iff.mpr
      intro i hi
      cases hs : w.sessions[i]? with
      | none => simp
      | some s => simp [hdead i s hi hs]
    rw [hd]
    exact ⟨rfl, rfl, rfl, rfl, by simp [Outcome.outputs, created?],
      by simp [Outcome.outputs, handOver, hl], by simp [Outcome.failures], fun _ => rfl⟩

theorem perform_worked (lib : Libraries) (w : Server) (id : Uuid) (now : ℤ)
    (out : Outcome ActorType Envelope (Traced Effect) HandlerError) :
    Worked w out (w.perform lib id now out) := by
  unfold Server.perform
  split
  · exact deliver_worked lib w _ _ _
  · exact ⟨rfl, rfl, rfl, rfl, by simp [records, Outcome.outputs, created?, Message.record],
      by simp [Outcome.outputs, handOver], by simp [Outcome.failures], fun _ => rfl⟩
  · exact ⟨rfl, rfl, rfl, rfl, by simp [records, Outcome.outputs], by simp [Outcome.outputs],
      by simp, by simp [Outcome.failures]⟩
  · -- every other outcome concerns the mailboxes only
    next hd hc hf =>
    have ho : out.outputs = [] := by
      cases out with
      | emitted x =>
        obtain ⟨o, e | e⟩ := x
        · exact absurd rfl (hd _ _ _)
        · exact absurd rfl (hc _ _ _ _)
      | _ => rfl
    have hn : out.failures = [] := by
      cases out with
      | failed e => exact absurd rfl (hf e)
      | _ => rfl
    exact ⟨rfl, rfl, rfl, rfl, by simp [ho], by simp [ho], by simp [hn], fun _ => rfl⟩

theorem worked_of_workerStep (lib : Libraries) (w : Server) (a : ActorSystem) (id : Uuid) (now : ℤ)
    (out : Outcome ActorType Envelope (Traced Effect) HandlerError) :
    Worked w out ({ w with actorSystem := a }.perform lib id now out) := by
  obtain ⟨h1, h2, h3, h4, h5, h6, h7, h8⟩ :=
    perform_worked lib { w with actorSystem := a } id now out
  exact ⟨h1, h2, h3, h4, h5, h6, h7, h8⟩

theorem NetInv.locked_eq (h : NetInv w) : w.locked = w.transports := by
  funext sid
  cases ht : w.transports sid with
  | none => simp [locked, ht]
  | some i =>
    obtain ⟨s, hs, -, -, hl⟩ := h.bound sid i ht
    simp [locked, ht, hs, hl.alive]

/-- A step adds to no log, or dispatches a frame, or is the step of a worker. -/
theorem Step.log_cases (hst : Step cfg w l w') :
    Quiet w w' ∨
    (∃ i s raw, l = .dispatch i ∧ w.sessions[i]? = some s ∧ s.executing = some raw ∧
      w' = w.onRead cfg i s raw) ∨
    (∃ k id now out, l = .worker k id now ∧
      w.actorSystem.workerStep cfg.runtime k = some (out, w'.actorSystem) ∧ Worked w out w') := by
  cases hst with
  | @dispatch i s raw hs hx => exact .inr (.inl ⟨i, s, raw, rfl, hs, hx, rfl⟩)
  | @worker k out a hk id now =>
    exact .inr (.inr ⟨k, id, now, out, rfl, by rw [perform_actorSystem]; exact hk,
      worked_of_workerStep cfg.lib w a id now out⟩)
  | accept hn =>
    exact .inl ⟨rfl, rfl, rfl, rfl, by simp [listenerOnAccept], .inl rfl⟩
  | acceptError => exact .inl ⟨rfl, rfl, rfl, rfl, le_rfl, .inl rfl⟩
  | handshake hs ha ok =>
    cases ok
    · exact .inl ⟨rfl, rfl, rfl, rfl, by simp [onAccept, setSession], .inl rfl⟩
    · exact .inl ⟨rfl, rfl, rfl, rfl, by simp [onAccept, setSession, bindTransport], .inl rfl⟩
  | readFrame hs hr raw => exact .inl ⟨rfl, rfl, rfl, rfl, by simp [setSession], .inl rfl⟩
  | readError hs hr =>
    exact .inl ⟨rfl, rfl, rfl, rfl, by simp [onReadError, setSession, unbindTransport], .inl rfl⟩
  | posted hs hp => exact .inl ⟨rfl, rfl, rfl, rfl, by simp [setSession], .inl rfl⟩
  | writeDone hs hw ok =>
    cases ok
    · exact .inl ⟨rfl, rfl, rfl, rfl, by simp [onWrite, setSession, unbindTransport], .inl rfl⟩
    · exact .inl ⟨rfl, rfl, rfl, rfl, by simp [onWrite, setSession], .inl rfl⟩
  | stopNetwork hx => exact .inl ⟨rfl, rfl, rfl, rfl, le_rfl, .inl rfl⟩
  | stopActors => exact .inl ⟨rfl, rfl, rfl, rfl, le_rfl, .inr rfl⟩
  | stopReturn hr hw => exact .inl ⟨rfl, rfl, rfl, rfl, le_rfl, .inl rfl⟩

structure LogInv (cfg : Config) (w : Server) : Prop where
  creates : w.records = w.actorSystem.emitted.filterMap created?
  handed : w.deliveries.Sublist (w.actorSystem.emitted.filterMap delivered?)
  targets : ∀ h ∈ w.handed, h.session < w.sessions.length
  accepted : ∀ x ∈ w.actorSystem.accepted, w.Dispatched cfg x.2.origin ⟨x.1, x.2.value⟩
  sorted : w.actorSystem.accepted.Pairwise fun x y => x.2.origin < y.2.origin
  offered : ∀ o e, w.Dispatched cfg o e →
    (e.destination, ⟨o, e.payload⟩) ∈ w.actorSystem.accepted ∨
      (e.destination, ⟨o, e.payload⟩) ∈ w.actorSystem.refused
  failed : w.actorSystem.failed ≠ [] → w.exception ≠ none

theorem dispatched_lt {o : ℕ} {e : ActorEnvelope} (h : w.Dispatched cfg o e) :
    o < w.frames.length := by
  obtain ⟨f, hf, -⟩ := h
  exact (List.getElem?_eq_some_iff.mp hf).1

theorem logInv_run (cfg : Config) : LogInv cfg (run cfg) where
  creates := rfl
  handed := by simp [deliveries, run]
  targets := by simp [run]
  accepted := by simp [run, ActorSystem.start]
  sorted := by simp [run, ActorSystem.start]
  offered := by
    intro o e h
    exact absurd (dispatched_lt h) (by simp [run])
  failed := by simp [run, ActorSystem.start]

theorem Quiet.transfer {P : ActorSystem → Prop} (h : Quiet w w') (hhalt : ∀ a, P a → P a.halt)
    (hw : P w.actorSystem) : P w'.actorSystem := by
  rcases h.actorSystem with ha | ha
  · rw [ha]
    exact hw
  · rw [ha]
    exact hhalt _ hw

theorem Quiet.history (h : Quiet w w') :
    w'.actorSystem.accepted = w.actorSystem.accepted ∧
      w'.actorSystem.refused = w.actorSystem.refused ∧
      w'.actorSystem.emitted = w.actorSystem.emitted ∧
      w'.actorSystem.failed = w.actorSystem.failed :=
  h.transfer (P := fun a => a.accepted = w.actorSystem.accepted ∧
    a.refused = w.actorSystem.refused ∧ a.emitted = w.actorSystem.emitted ∧
    a.failed = w.actorSystem.failed) (fun _ ha => ha) ⟨rfl, rfl, rfl, rfl⟩

theorem LogInv.quiet (h : LogInv cfg w) (hq : Quiet w w') : LogInv cfg w' := by
  have hd : w'.Dispatched cfg = w.Dispatched cfg := by
    funext o e
    simp only [Dispatched, hq.frames]
  obtain ⟨hacc, href, hem, hfail⟩ := hq.history
  refine ⟨?_, ?_, ?_, ?_, ?_, ?_, ?_⟩
  · rw [records, hq.creates, hem]
    exact h.creates
  · rw [deliveries, hq.handed, hem]
    exact h.handed
  · rw [hq.handed]
    exact fun x hx => (h.targets x hx).trans_le hq.length
  · rw [hacc, hd]
    exact h.accepted
  · rw [hacc]
    exact h.sorted
  · rw [hacc, href, hd]
    exact h.offered
  · rw [hfail, hq.exception]
    exact h.failed

theorem dispatched_append {o : ℕ} {e : ActorEnvelope} {f : Frame} (h : w.Dispatched cfg o e)
    (hframes : w'.frames = w.frames ++ [f]) : w'.Dispatched cfg o e := by
  obtain ⟨g, hg, he⟩ := h
  have ho := (List.getElem?_eq_some_iff.mp hg).1
  exact ⟨g, by rw [hframes, List.getElem?_append_left ho, hg], he⟩

theorem dispatched_append_cases {o : ℕ} {e : ActorEnvelope} {f : Frame}
    (h : w'.Dispatched cfg o e) (hframes : w'.frames = w.frames ++ [f]) :
    w.Dispatched cfg o e ∨ (o = w.frames.length ∧
      MessageDispatcher.dispatch cfg.lib f.sessionId f.raw = .ok (some e)) := by
  obtain ⟨g, hg, he⟩ := h
  rw [hframes] at hg
  rcases getElem?_append_singleton_cases hg with hg | ⟨ho, rfl⟩
  · exact .inl ⟨g, hg, he⟩
  · exact .inr ⟨ho, he⟩

theorem LogInv.onRead (h : LogInv cfg w) {i : ℕ} {s : WebSocketSession} {raw : ByteArray} :
    LogInv cfg (w.onRead cfg i s raw) := by
  -- the three results of `dispatch`: it throws, it sends nothing, it sends an envelope
  unfold Server.onRead
  dsimp only
  split
  · next hdisp =>
    refine ⟨h.creates, h.handed, h.targets,
      fun x hx => dispatched_append (h.accepted x hx) rfl, h.sorted, fun o e hd => ?_, by simp⟩
    rcases dispatched_append_cases hd rfl with hd | ⟨-, hd⟩
    · exact h.offered o e hd
    · rw [hdisp] at hd
      cases hd
  · next hdisp =>
    refine ⟨h.creates, h.handed, fun x hx => by simpa using h.targets x hx,
      fun x hx => dispatched_append (h.accepted x hx) rfl, h.sorted, fun o e hd => ?_, h.failed⟩
    rcases dispatched_append_cases hd rfl with hd | ⟨-, hd⟩
    · exact h.offered o e hd
    · rw [hdisp] at hd
      cases hd
  · next envelope hdisp =>
    by_cases hroom : w.actorSystem.Room cfg.runtime envelope.destination
    · rw [receive_of_room _ hroom]
      refine ⟨h.creates, h.handed, fun x hx => by simpa using h.targets x hx, ?_, ?_, ?_, h.failed⟩
      · intro x hx
        rcases List.mem_append.mp hx with hx | hx
        · exact dispatched_append (h.accepted x hx) rfl
        · obtain rfl := List.mem_singleton.mp hx
          exact ⟨⟨i, s.sessionId, raw⟩, by simp, hdisp⟩
      · -- the number of the new frame is larger than any before it
        refine List.pairwise_append.mpr ⟨h.sorted, List.pairwise_singleton _ _, ?_⟩
        intro x hx y hy
        obtain rfl := List.mem_singleton.mp hy
        exact dispatched_lt (h.accepted x hx)
      · intro o e hd
        rcases dispatched_append_cases hd rfl with hold | ⟨rfl, hlast⟩
        · rcases h.offered o e hold with ho | ho
          · exact .inl (List.mem_append_left _ ho)
          · exact .inr ho
        · obtain rfl : envelope = e := by simpa [hdisp] using hlast
          exact .inl (List.mem_append_right _ (by simp))
    · rw [receive_of_not_room _ hroom]
      refine ⟨h.creates, h.handed, fun x hx => by simpa using h.targets x hx,
        fun x hx => dispatched_append (h.accepted x hx) rfl, h.sorted, ?_, h.failed⟩
      intro o e hd
      rcases dispatched_append_cases hd rfl with hold | ⟨rfl, hlast⟩
      · rcases h.offered o e hold with ho | ho
        · exact .inl ho
        · exact .inr (List.mem_append_left _ ho)
      · obtain rfl : envelope = e := by simpa [hdisp] using hlast
        exact .inr (List.mem_append_right _ (by simp))

theorem NetInv.deliveries_handOver (h : NetInv w) (outputs : List (Traced Effect)) :
    ((outputs.filterMap w.handOver).map fun x => (x.origin, sessionIdOf x.session, x.payload)).Sublist
      (outputs.filterMap delivered?) := by
  induction outputs with
  | nil => exact List.nil_sublist _
  | cons x xs ih =>
    obtain ⟨o, e⟩ := x
    cases e with
    | create chatId senderId content => simpa [List.filterMap_cons, handOver, delivered?] using ih
    | deliver sid p =>
      cases ht : w.transports sid with
      | none => simpa [List.filterMap_cons, handOver, delivered?, h.locked_eq, ht] using ih.cons _
      | some i =>
        obtain ⟨s, hs, hid, -⟩ := h.bound sid i ht
        have hsid : sessionIdOf i = sid := (h.ids i s hs).symm.trans hid
        simpa [List.filterMap_cons, handOver, delivered?, h.locked_eq, ht, hsid] using ih

theorem LogInv.worked (h : LogInv cfg w) (hn : NetInv w)
    {out : Outcome ActorType Envelope (Traced Effect) HandlerError}
    (hm : Move cfg.runtime w.actorSystem out w'.actorSystem) (hw : Worked w out w') :
    LogInv cfg w' := by
  have hd : w'.Dispatched cfg = w.Dispatched cfg := by
    funext o e
    simp only [Dispatched, hw.frames]
  refine ⟨?_, ?_, ?_, ?_, ?_, ?_, ?_⟩
  · rw [hw.records, hm.emitted, h.creates, List.filterMap_append]
  · rw [deliveries, hw.handed, hm.emitted, List.filterMap_append, List.map_append]
    exact h.handed.append (hn.deliveries_handOver _)
  · rw [hw.handed, hw.length]
    intro x hx
    rcases List.mem_append.mp hx with hx | hx
    · exact h.targets x hx
    · obtain ⟨⟨o, e⟩, -, he⟩ := List.mem_filterMap.mp hx
      cases e with
      | create chatId senderId content => cases he
      | deliver sid p =>
        obtain ⟨i, hi, rfl⟩ := Option.map_eq_some_iff.mp he
        rw [hn.locked_eq] at hi
        obtain ⟨s, hs, -⟩ := hn.bound sid i hi
        exact (List.getElem?_eq_some_iff.mp hs).1
  · rw [hm.accepted, hd]
    exact h.accepted
  · rw [hm.accepted]
    exact h.sorted
  · rw [hm.accepted, hm.refused, hd]
    exact h.offered
  · intro hf
    by_cases ho : out.failures = []
    · rw [hw.unfailed ho]
      rw [hm.failed, ho, List.append_nil] at hf
      exact h.failed hf
    · exact hw.failed ho

theorem LogInv.step (h : LogInv cfg w) (hn : NetInv w) (hst : Step cfg w l w') :
    LogInv cfg w' := by
  rcases hst.log_cases with hq | ⟨i, s, raw, -, -, -, rfl⟩ | ⟨k, id, now, out, -, hk, hw⟩
  · exact h.quiet hq
  · exact h.onRead
  · exact h.worked hn (workerStep_move hk) hw

theorem logInv_of_runs {ls : List Label} (h : Runs cfg (run cfg) ls w) : LogInv cfg w := by
  have hboth := h.invariant (I := fun w => NetInv w ∧ LogInv cfg w)
    ⟨netInv_run cfg, logInv_run cfg⟩ fun t l u hi _ hs =>
      ⟨hi.1.step (step_cases hs).2, hi.2.step hi.1 (step_cases hs).2⟩
  exact hboth.2

/-- The dispatcher sends message events to the message actor and nothing else
that a trail starts from. -/
theorem LogInv.destination (hl : LogInv cfg w) {x : ActorType × Envelope}
    (hx : x ∈ w.actorSystem.accepted) :
    (∃ event, x = (.session, ⟨x.2.origin, .authEvent event⟩)) ∨
    (∃ event, x = (.message, ⟨x.2.origin, .sendMessageEvent event⟩)) ∨
    (∃ event, x = (.message, ⟨x.2.origin, .typingEvent event⟩)) ∨
    ∃ event, x = (.message, ⟨x.2.origin, .readEvent event⟩) := by
  obtain ⟨f, -, hd⟩ := hl.accepted x hx
  obtain ⟨a, o, p⟩ := x
  obtain ⟨-, -, he⟩ := MessageDispatcher.envelopeOf_of_dispatch hd
  rcases MessageDispatcher.envelopeOf_cases he with ⟨-, h⟩ | ⟨-, h⟩ | ⟨e, h⟩ | ⟨e, h⟩ <;>
    cases h
  · exact .inl ⟨_, rfl⟩
  · exact .inr (.inl ⟨_, rfl⟩)
  · exact .inr (.inr (.inl ⟨_, rfl⟩))
  · exact .inr (.inr (.inr ⟨_, rfl⟩))

theorem LogInv.sendMessage (hl : LogInv cfg w) {a : ActorType} {o : ℕ} {event : SendMessageEvent}
    (hx : (a, ⟨o, .sendMessageEvent event⟩) ∈ w.actorSystem.accepted) :
    ∃ f, w.frames[o]? = some f ∧ (cfg.lib.parse f.raw).isObject = true ∧
      MessageDispatcher.wellTyped (cfg.lib.parse f.raw) = true ∧
      (cfg.lib.parse f.raw).text "type" = "send_message" ∧
      event = MessageDispatcher.sendMessageEventOf f.sessionId (cfg.lib.parse f.raw) := by
  obtain ⟨f, hf, hd⟩ := hl.accepted _ hx
  obtain ⟨ho, hw, he⟩ := MessageDispatcher.envelopeOf_of_dispatch hd
  rcases MessageDispatcher.envelopeOf_cases he with ⟨-, h⟩ | ⟨ht, h⟩ | ⟨e, h⟩ | ⟨e, h⟩ <;>
    cases h
  exact ⟨f, hf, ho, hw, ht, rfl⟩

theorem change_of_step (h : step cfg w l = some w') :
    Change cfg.runtime w.actorSystem w'.actorSystem := (step_cases h).2.change

theorem balanced_of_runs {M : Type*} [AddCommMonoid M]
    {Y : Weight ActorType Envelope (Traced Effect) HandlerError M} (hY : Y.Conserved cfg.runtime)
    {ls : List Label} (h : Runs cfg (run cfg) ls w) : Y.Balanced w.actorSystem := by
  refine h.invariant (I := fun w => Y.Balanced w.actorSystem) ?_
    fun t l u hi _ hs => hi.change hY (change_of_step hs)
  simp [Weight.Balanced, Weight.account, Weight.inFlight, Weight.queued, Weight.envelopes,
    Server.run, ActorSystem.start, Weight.worker]

theorem holdsSuffix_of_runs {ls : List Label} (h : Runs cfg (run cfg) ls w) :
    HoldsSuffix cfg.runtime w.actorSystem := by
  refine h.invariant (I := fun w => HoldsSuffix cfg.runtime w.actorSystem) ?_
    fun t l u hi _ hs => hi.change (change_of_step hs)
  rintro x hx a todo rest rfl
  cases List.eq_of_mem_replicate hx

theorem outputs_storageTrail (lib : Libraries) (outputs : List (Traced Effect)) :
    outputs.flatMap (storageTrail lib).output = outputs.filterMap created? :=
  (List.filterMap_eq_flatMap_toList _ _).symm

theorem outputs_sessionTrail (outputs : List (Traced Effect)) :
    outputs.flatMap sessionTrail.output = outputs.filterMap delivered? :=
  (List.filterMap_eq_flatMap_toList _ _).symm

end Server

end Svitock
