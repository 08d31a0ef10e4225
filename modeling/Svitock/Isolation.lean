import Svitock.ServerHistory

namespace Svitock

open ActorRuntime Transition

theorem mem_emit {o : ℕ} {event : SendMessageEvent} {d : ℕ × String × Json} :
    d ∈ emit o event ↔ d = (o, event.sessionId, ChatActor.echo event) ∨
      (event.recipientId ≠ "" ∧ d = (o, event.recipientId, ChatActor.incoming event)) := by
  unfold emit
  split
  · next hr => simp [hr]
  · next hr => simp [hr]

theorem origin_of_mem_sessionTrail {a : ActorType} {m : Envelope} {d : ℕ × String × Json}
    (h : d ∈ sessionTrail.message a m) : d.1 = m.origin := by
  unfold sessionTrail at h
  dsimp only at h
  split at h
  · rcases mem_emit.mp h with rfl | ⟨-, rfl⟩ <;> rfl
  · rcases mem_emit.mp h with rfl | ⟨-, rfl⟩ <;> rfl
  · rw [List.mem_singleton.mp h]
  · cases h

def kindOf (d : ℕ × String × Json) : ℕ × String := (d.1, d.2.2.text "type")

theorem kindOf_emit (o : ℕ) (event : SendMessageEvent) :
    (emit o event).Pairwise fun d d' => kindOf d ≠ kindOf d' := by
  have hne : kindOf (o, event.sessionId, ChatActor.echo event) ≠
      kindOf (o, event.recipientId, ChatActor.incoming event) := by
    simp [kindOf, ChatActor.echo_eq, ChatActor.incoming_eq, Json.text, Json.field?]
  unfold emit
  split
  · simpa using hne
  · simp

theorem sessionTrail_kinds {accepted : List (ActorType × Envelope)}
    (h : accepted.Pairwise fun x y => x.2.origin < y.2.origin) :
    (accepted.flatMap fun x => sessionTrail.message x.1 x.2).Pairwise
      fun d d' => kindOf d ≠ kindOf d' := by
  refine List.pairwise_flatMap.mpr ⟨fun x _ => ?_, h.imp fun hlt d hd d' hd' heq => ?_⟩
  · unfold sessionTrail
    dsimp only
    split
    · exact kindOf_emit _ _
    · exact kindOf_emit _ _
    · exact List.pairwise_singleton _ _
    · exact .nil
  · have ho : d.1 = d'.1 := (Prod.ext_iff.mp heq).1
    rw [origin_of_mem_sessionTrail hd, origin_of_mem_sessionTrail hd'] at ho
    omega

namespace Server

variable {cfg : Config} {w : Server} {ls : List Label}

theorem emitted_deliveries_le (h : Runs cfg (run cfg) ls w) :
    (↑(w.actorSystem.emitted.filterMap delivered?) : Multiset (ℕ × String × Json)) ≤
      ↑(w.actorSystem.accepted.flatMap fun x => sessionTrail.message x.1 x.2) := by
  rw [← outputs_sessionTrail]
  exact Trail.emitted_le (balanced_of_runs (sessionTrail_along cfg.lib cfg.order).conserved h)

theorem deliveries_le (h : Runs cfg (run cfg) ls w) :
    (↑w.deliveries : Multiset (ℕ × String × Json)) ≤
      ↑(w.actorSystem.accepted.flatMap fun x => sessionTrail.message x.1 x.2) :=
  (Multiset.coe_le.mpr (logInv_of_runs h).handed.subperm).trans (emitted_deliveries_le h)

theorem kinds_nodup (h : Runs cfg (run cfg) ls w) :
    (w.handed.map fun x => (x.origin, x.payload.text "type")).Nodup := by
  have hle := Multiset.map_le_map (f := kindOf) (deliveries_le h)
  have hkinds := Multiset.nodup_of_le hle
    (Multiset.coe_nodup.mpr (List.pairwise_map.mpr (sessionTrail_kinds (logInv_of_runs h).sorted)))
  rw [Multiset.map_coe, Multiset.coe_nodup, deliveries, List.map_map] at hkinds
  exact hkinds

theorem handed_stems_from_event (h : Runs cfg (run cfg) ls w) {x : Handed} (hx : x ∈ w.handed) :
    ∃ event : SendMessageEvent,
      (.message, ⟨x.origin, .sendMessageEvent event⟩) ∈ w.actorSystem.accepted ∧
      ((event.sessionId = sessionIdOf x.session ∧ x.payload = ChatActor.echo event) ∨
        (event.recipientId ≠ "" ∧ event.recipientId = sessionIdOf x.session ∧
          x.payload = ChatActor.incoming event)) := by
  have hd : (x.origin, sessionIdOf x.session, x.payload) ∈ w.deliveries :=
    List.mem_map.mpr ⟨x, hx, rfl⟩
  have hmem := Multiset.mem_of_le (deliveries_le h) (Multiset.mem_coe.mpr hd)
  obtain ⟨y, hy, hdy⟩ := List.mem_flatMap.mp (Multiset.mem_coe.mp hmem)
  have ho := origin_of_mem_sessionTrail hdy
  dsimp only at ho
  rcases (logInv_of_runs h).destination hy with ⟨e, he⟩ | ⟨e, he⟩ | ⟨e, he⟩ | ⟨e, he⟩
  · rw [he] at hdy
    cases hdy
  · rw [he] at hdy hy
    refine ⟨e, by rw [ho]; exact hy, ?_⟩
    rcases mem_emit.mp hdy with heq | ⟨hr, heq⟩
    · simp only [Prod.mk.injEq] at heq
      exact .inl ⟨heq.2.1.symm, heq.2.2⟩
    · simp only [Prod.mk.injEq] at heq
      exact .inr ⟨hr, heq.2.1.symm, heq.2.2⟩
  · rw [he] at hdy
    cases hdy
  · rw [he] at hdy
    cases hdy

/-- Every payload handed to a session is the echo of a `send_message` frame of that
very session, or the message of a frame that names the session as its recipient,
with the data of that frame; and a frame gives at most one of each. -/
theorem delivery_isolation (h : Runs cfg (run cfg) ls w) (hlt : w.sessions.length < 2 ^ 64) :
    (∀ x ∈ w.handed, ∃ (s : WebSocketSession) (f : Frame),
      w.sessions[x.session]? = some s ∧ w.frames[x.origin]? = some f ∧
      (cfg.lib.parse f.raw).isObject = true ∧
      (cfg.lib.parse f.raw).text "type" = "send_message" ∧
      ((f.session = x.session ∧ f.sessionId = s.sessionId ∧
        x.payload = .object [("type", .string "message_delivered"),
          ("chat_id", .string ((cfg.lib.parse f.raw).text "chat_id")),
          ("payload", .object [("text",
            .string ((MessageDispatcher.payloadOf (cfg.lib.parse f.raw)).text "text"))])]) ∨
      ((cfg.lib.parse f.raw).text "recipient_session_id" = s.sessionId ∧ s.sessionId ≠ "" ∧
        x.payload = .object [("type", .string "incoming_message"),
          ("chat_id", .string ((cfg.lib.parse f.raw).text "chat_id")),
          ("payload", .object [("text",
            .string ((MessageDispatcher.payloadOf (cfg.lib.parse f.raw)).text "text")),
            ("from", .string ((cfg.lib.parse f.raw).text "sender_id"))])]))) ∧
    (w.handed.map fun x => (x.origin, x.payload.text "type")).Nodup := by
  refine ⟨fun x hx => ?_, kinds_nodup h⟩
  have hn := netInv_of_runs h
  have hl := logInv_of_runs h
  obtain ⟨event, hacc, hcase⟩ := handed_stems_from_event h hx
  obtain ⟨f, hf, ho, -, ht, rfl⟩ := hl.sendMessage hacc
  have hxlt := hl.targets x hx
  obtain ⟨s, hs⟩ : ∃ s, w.sessions[x.session]? = some s :=
    ⟨_, List.getElem?_eq_some_iff.mpr ⟨hxlt, rfl⟩⟩
  have hid := hn.ids x.session s hs
  refine ⟨s, f, hs, hf, ho, ht, ?_⟩
  rcases hcase with ⟨hsid, hp⟩ | ⟨hr, hrid, hp⟩
  · -- an echo goes to the id of the frame's session, and ids identify sessions
    obtain ⟨t, ht, htid, -⟩ := hn.frames f (List.mem_of_getElem? hf)
    have hflt := (List.getElem?_eq_some_iff.mp ht).1
    have hfid : sessionIdOf f.session = sessionIdOf x.session :=
      ((hn.ids f.session t ht).symm.trans htid).trans hsid
    refine .inl ⟨sessionIdOf_inj (by omega) (by omega) hfid, hsid.trans hid.symm, ?_⟩
    rw [hp, ChatActor.echo_eq]
    rfl
  · refine .inr ⟨hrid.trans hid.symm, hid ▸ sessionIdOf_ne_empty _, ?_⟩
    rw [hp, ChatActor.incoming_eq]
    rfl

def twoSessions : List Label :=
  Sample.connect 0 ++ Sample.connect 1 ++
    Sample.frame 0 Sample.whisper ++ Sample.work 0 25

theorem delivery_isolation_two_sessions :
    ∃ w, Runs (Sample.config [Sample.whisper] 4 1) (run (Sample.config [Sample.whisper] 4 1))
        twoSessions w ∧
      w.handed.map (·.session) = [0, 1] ∧
      (w.handed.map fun x => (x.origin, x.payload.text "type")).Nodup := by
  obtain ⟨w, hrun, hlt, hsessions⟩ : ∃ w,
      Runs (Sample.config [Sample.whisper] 4 1) (run (Sample.config [Sample.whisper] 4 1))
        twoSessions w ∧
      w.sessions.length < 2 ^ 64 ∧ w.handed.map (·.session) = [0, 1] :=
    exists_run _ (by decide +kernel)
  exact ⟨w, hrun, hsessions, (delivery_isolation hrun hlt).2⟩

end Server

end Svitock
