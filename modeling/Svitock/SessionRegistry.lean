import Svitock.ServerSteps

namespace Svitock

open ActorRuntime Transition

namespace Server

/-- The id that the listener's 64-bit counter gives to connection `i`. -/
def sessionIdOf (i : ℕ) : String := toString ((i + 1) % 2 ^ 64)

theorem sessionIdOf_inj {i j : ℕ} (hi : i + 1 < 2 ^ 64) (hj : j + 1 < 2 ^ 64)
    (h : sessionIdOf i = sessionIdOf j) : i = j := by
  have hr : ((i + 1) % 2 ^ 64).repr = ((j + 1) % 2 ^ 64).repr := h
  -- a number is read back from its digits
  have hdigits := congrArg (Nat.ofDigitChars 10 ·.toList 0) hr
  simp only [Nat.toList_repr, Nat.ofDigitChars_ten_toDigits, Nat.mod_eq_of_lt hi,
    Nat.mod_eq_of_lt hj] at hdigits
  omega

theorem sessionIdOf_ne_empty (i : ℕ) : sessionIdOf i ≠ "" := Nat.repr_ne_empty

/-- The sessions, the registry and the dispatched frames fit together. -/
structure NetInv (w : Server) : Prop where
  next : w.nextSessionId = w.sessions.length % 2 ^ 64
  ids : ∀ (i : ℕ) (s : WebSocketSession), w.sessions[i]? = some s → s.sessionId = sessionIdOf i
  fresh : ∀ (i : ℕ) (s : WebSocketSession), w.sessions[i]? = some s → s.accepting = true →
    s = .run s.sessionId
  bound : ∀ sid i, w.transports sid = some i → ∃ s, w.sessions[i]? = some s ∧
    s.sessionId = sid ∧ s.accepting = false ∧ s.Listening
  frames : ∀ f ∈ w.frames, ∃ s, w.sessions[f.session]? = some s ∧
    s.sessionId = f.sessionId ∧ s.accepting = false

variable {cfg : Config} {w w' : Server} {l : Label} {i : ℕ} {s s' : WebSocketSession}

/-- The invariant survives when one session changes, and the registry and the log
of frames change for that session only. -/
theorem NetInv.update (h : NetInv w) (hs : w.sessions[i]? = some s)
    (hsessions : w'.sessions = w.sessions.set i s') (hnext : w'.nextSessionId = w.nextSessionId)
    (hid : s'.sessionId = s.sessionId)
    (hacc : s'.accepting = false)
    (hbound : ∀ sid j, w'.transports sid = some j →
      (w.transports sid = some j ∧ (j = i → s'.Listening)) ∨
        (j = i ∧ sid = s.sessionId ∧ s'.Listening))
    (hframes : ∀ f ∈ w'.frames, f ∈ w.frames ∨ (f.session = i ∧ f.sessionId = s.sessionId)) :
    NetInv w' := by
  have hi : w'.sessions[i]? = some s' := by
    rw [hsessions, getElem?_set_of_some hs hs, if_pos rfl]
  refine ⟨?_, ?_, ?_, ?_, ?_⟩
  · rw [hnext, h.next, hsessions, List.length_set]
  · intro j x hx
    rw [hsessions] at hx
    rcases getElem?_set_cases hx with ⟨rfl, rfl⟩ | ⟨-, hx⟩
    · rw [hid, h.ids j s hs]
    · exact h.ids j x hx
  · intro j x hx hxa
    rw [hsessions] at hx
    rcases getElem?_set_cases hx with ⟨rfl, rfl⟩ | ⟨-, hx⟩
    · simp [hacc] at hxa
    · exact h.fresh j x hx hxa
  · intro sid j hj
    rcases hbound sid j hj with ⟨hj, hl⟩ | ⟨rfl, rfl, hl⟩
    · obtain ⟨x, hx, hxid, hxa, hxl⟩ := h.bound sid j hj
      by_cases hji : j = i
      · subst hji
        obtain rfl : s = x := Option.some.inj (hs.symm.trans hx)
        exact ⟨s', hi, hid.trans hxid, hacc, hl rfl⟩
      · refine ⟨x, ?_, hxid, hxa, hxl⟩
        rw [hsessions, getElem?_set_of_some hs hx, if_neg hji]
    · exact ⟨s', hi, hid, hacc, hl⟩
  · intro f hf
    rcases hframes f hf with hf | ⟨rfl, hfid⟩
    · obtain ⟨x, hx, hxid, hxa⟩ := h.frames f hf
      by_cases hfi : f.session = i
      · subst hfi
        obtain rfl : s = x := Option.some.inj (hs.symm.trans hx)
        exact ⟨s', hi, hid.trans hxid, hacc⟩
      · refine ⟨x, ?_, hxid, hxa⟩
        rw [hsessions, getElem?_set_of_some hs hx, if_neg hfi]
    · exact ⟨s', hi, hid.trans hfid.symm, hacc⟩

theorem NetInv.congr (h : NetInv w) (hn : w'.nextSessionId = w.nextSessionId)
    (hs : w'.sessions = w.sessions) (ht : w'.transports = w.transports)
    (hf : w'.frames = w.frames) : NetInv w' := by
  obtain ⟨h1, h2, h3, h4, h5⟩ := h
  exact ⟨by rw [hn, hs, h1], by rw [hs]; exact h2, by rw [hs]; exact h3,
    by rw [ht, hs]; exact h4, by rw [hf, hs]; exact h5⟩

theorem netInv_run (cfg : Config) : NetInv (run cfg) where
  next := rfl
  ids := by simp [Server.run]
  fresh := by simp [Server.run]
  bound := by simp [Server.run]
  frames := by simp [Server.run]

theorem NetInv.listenerOnAccept (h : NetInv w) : NetInv w.listenerOnAccept := by
  have old {j : ℕ} {x : WebSocketSession} (hx : w.sessions[j]? = some x) :
      w.listenerOnAccept.sessions[j]? = some x := by
    have hj := (List.getElem?_eq_some_iff.mp hx).1
    simp [Server.listenerOnAccept, List.getElem?_append_left hj, hx]
  have new {j : ℕ} {x : WebSocketSession} (hx : w.listenerOnAccept.sessions[j]? = some x) :
      w.sessions[j]? = some x ∨
        (j = w.sessions.length ∧ x = .run (toString ((w.nextSessionId + 1) % 2 ^ 64))) :=
    getElem?_append_singleton_cases hx
  refine ⟨?_, ?_, ?_, ?_, ?_⟩
  · simp only [Server.listenerOnAccept, h.next, List.length_append, List.length_singleton,
      Nat.mod_add_mod]
  · intro j x hx
    rcases new hx with hx | ⟨rfl, rfl⟩
    · exact h.ids j x hx
    · simp [WebSocketSession.run, sessionIdOf, h.next]
  · intro j x hx hxa
    rcases new hx with hx | ⟨rfl, rfl⟩
    · exact h.fresh j x hx hxa
    · rfl
  · intro sid j hj
    obtain ⟨x, hx, hrest⟩ := h.bound sid j hj
    exact ⟨x, old hx, hrest⟩
  · intro f hf
    obtain ⟨x, hx, hrest⟩ := h.frames f hf
    exact ⟨x, old hx, hrest⟩

theorem NetInv.not_accepting (h : NetInv w) (hs : w.sessions[i]? = some s)
    (hb : s ≠ .run s.sessionId) : s.accepting = false := by
  cases ha : s.accepting with
  | false => rfl
  | true => exact absurd (h.fresh i s hs ha) hb

theorem NetInv.not_accepting_of_listening (h : NetInv w) (hs : w.sessions[i]? = some s)
    (hl : s.Listening) : s.accepting = false := by
  apply h.not_accepting hs
  intro he
  rw [he] at hl
  simp [WebSocketSession.run, WebSocketSession.Listening] at hl

theorem NetInv.not_accepting_of_posted (h : NetInv w) (hs : w.sessions[i]? = some s)
    {p : String} {rest : List String} (hp : s.posted = p :: rest) : s.accepting = false := by
  apply h.not_accepting hs
  intro he
  rw [he] at hp
  simp [WebSocketSession.run] at hp

theorem NetInv.not_accepting_of_writing (h : NetInv w) (hs : w.sessions[i]? = some s)
    (hw : s.writing = true) : s.accepting = false := by
  apply h.not_accepting hs
  intro he
  rw [he] at hw
  simp [WebSocketSession.run] at hw

theorem NetInv.sameReader (h : NetInv w) (hs : w.sessions[i]? = some s) (hr : s.SameReader s')
    (hacc : s.accepting = false)
    (hsessions : w'.sessions = w.sessions.set i s') (hnext : w'.nextSessionId = w.nextSessionId)
    (ht : w'.transports = w.transports) (hf : w'.frames = w.frames) : NetInv w' := by
  refine h.update hs hsessions hnext hr.sessionId (hr.accepting.trans hacc) (fun sid j hj => ?_)
    (fun f hmem => .inl (hf ▸ hmem))
  rw [ht] at hj
  refine .inl ⟨hj, ?_⟩
  rintro rfl
  obtain ⟨x, hx, -, -, hl⟩ := h.bound sid j hj
  obtain rfl : s = x := Option.some.inj (hs.symm.trans hx)
  exact hr.listening_iff.mpr hl

theorem NetInv.deliver (h : NetInv w) (lib : Libraries) (o : ℕ) (sid : String) (p : Json) :
    NetInv (w.deliver lib o sid p) := by
  rcases deliver_cases lib w o sid p with ⟨i, s, ht, hs, -, hd⟩ | ⟨-, hd⟩
  · obtain ⟨x, hx, -, hacc, -⟩ := h.bound sid i ht
    obtain rfl : s = x := Option.some.inj (hs.symm.trans hx)
    rw [hd]
    exact h.sameReader hs (s.sameReader_send _) hacc rfl rfl rfl rfl
  · rw [hd]
    exact h

theorem NetInv.perform (h : NetInv w) (lib : Libraries) (id : Uuid) (now : ℤ)
    (out : Outcome ActorType Envelope (Traced Effect) HandlerError) :
    NetInv (w.perform lib id now out) := by
  unfold Server.perform
  split
  · exact h.deliver _ _ _ _
  · exact h.congr rfl rfl rfl rfl
  · exact h.congr rfl rfl rfl rfl
  · exact h

theorem NetInv.bound_at (h : NetInv w) {sid : String} (hb : w.transports sid = some i)
    (hs : w.sessions[i]? = some s) : s.sessionId = sid ∧ s.accepting = false ∧ s.Listening := by
  obtain ⟨x, hx, hknown⟩ := h.bound sid i hb
  obtain rfl : s = x := Option.some.inj (hs.symm.trans hx)
  exact hknown

theorem NetInv.keep (h : NetInv w) (hs : w.sessions[i]? = some s)
    (hl : s.Listening → s'.Listening) {sid : String} {j : ℕ} (hj : w.transports sid = some j) :
    w.transports sid = some j ∧ (j = i → s'.Listening) := by
  refine ⟨hj, ?_⟩
  rintro rfl
  exact hl (h.bound_at hj hs).2.2

theorem NetInv.unbind (h : NetInv w) (hs : w.sessions[i]? = some s) {sid : String} {j : ℕ}
    (hj : (w.unbindTransport s.sessionId).transports sid = some j) :
    w.transports sid = some j ∧ (j = i → s'.Listening) := by
  by_cases hsid : sid = s.sessionId
  · simp [unbindTransport, hsid] at hj
  · simp only [unbindTransport, Function.update_of_ne hsid] at hj
    refine ⟨hj, ?_⟩
    rintro rfl
    exact absurd (h.bound_at hj hs).1.symm hsid

theorem NetInv.onAccept (h : NetInv w) (hs : w.sessions[i]? = some s) (ha : s.accepting = true)
    (ok : Bool) : NetInv (w.onAccept i s ok) := by
  cases ok with
  | false =>
    -- a refused session was never bound
    refine h.update hs rfl rfl rfl rfl (fun sid j hj => .inl ⟨hj, ?_⟩) (fun f => .inl)
    rintro rfl
    have hacc := (h.bound_at hj hs).2.1
    simp [ha] at hacc
  | true =>
    refine h.update hs rfl rfl rfl rfl (fun sid j hj => ?_) (fun f => .inl)
    by_cases hsid : sid = s.sessionId
    · simp only [Server.onAccept, if_true, bindTransport, setSession, hsid, Function.update_self,
        Option.some.injEq] at hj
      exact .inr ⟨hj.symm, hsid, .inl rfl⟩
    · simp only [Server.onAccept, if_true, bindTransport, setSession,
        Function.update_of_ne hsid] at hj
      exact .inl (h.keep hs (fun _ => .inl rfl) hj)

theorem NetInv.onRead {raw : ByteArray} (h : NetInv w) (hs : w.sessions[i]? = some s)
    (hx : s.executing = some raw) : NetInv (w.onRead cfg i s raw) := by
  have hacc := h.not_accepting_of_listening hs (.inr (by simp [hx]))
  have hframes : ∀ f ∈ w.frames ++ [⟨i, s.sessionId, raw⟩], f ∈ w.frames ∨
      (f.session = i ∧ f.sessionId = s.sessionId) := by
    intro f hf
    rcases List.mem_append.mp hf with hf | hf
    · exact .inl hf
    · obtain rfl := List.mem_singleton.mp hf
      exact .inr ⟨rfl, rfl⟩
  unfold Server.onRead
  dsimp only
  split
  · -- `dispatch` threw: the session stays as it is, its frame still executing
    have hset : w.sessions = w.sessions.set i s := by
      obtain ⟨hi, rfl⟩ := List.getElem?_eq_some_iff.mp hs
      exact (List.set_getElem_self hi).symm
    exact h.update hs hset rfl rfl hacc (fun sid j hj => .inl (h.keep hs id hj)) hframes
  · exact h.update hs rfl rfl rfl hacc
      (fun sid j hj => .inl (h.keep hs (fun _ => .inl rfl) hj)) hframes
  · exact h.update hs rfl rfl rfl hacc
      (fun sid j hj => .inl (h.keep hs (fun _ => .inl rfl) hj)) hframes

theorem NetInv.step (h : NetInv w) (hst : Step cfg w l w') : NetInv w' := by
  cases hst with
  | accept hn => exact h.listenerOnAccept
  | acceptError => exact h
  | handshake hs ha ok => exact h.onAccept hs.2.1 ha ok
  | @readFrame i s hs hr raw =>
    obtain ⟨-, hs, -⟩ := hs
    have hacc := h.not_accepting_of_listening hs (.inl hr)
    exact h.update hs rfl rfl rfl hacc
      (fun sid j hj => .inl (h.keep hs (fun _ => .inr rfl) hj)) (fun f => .inl)
  | @readError i s hs hr =>
    obtain ⟨-, hs, -⟩ := hs
    have hacc := h.not_accepting_of_listening hs (.inl hr)
    exact h.update hs rfl rfl rfl hacc
      (fun sid j hj => .inl (h.unbind hs hj)) (fun f => .inl)
  | dispatch hs hx => exact h.onRead hs hx
  | @posted i s payload rest hs hp =>
    exact h.sameReader hs.2.1 (s.sameReader_runPosted payload rest)
      (h.not_accepting_of_posted hs.2.1 hp) rfl rfl rfl rfl
  | @writeDone i s hs hw ok =>
    obtain ⟨-, hs, -⟩ := hs
    have hacc := h.not_accepting_of_writing hs hw
    cases ok with
    | true => exact h.sameReader hs s.sameReader_onWrite hacc rfl rfl rfl rfl
    | false =>
      exact h.update hs rfl rfl rfl hacc
        (fun sid j hj => .inl (h.unbind hs hj)) (fun f => .inl)
  | @worker k out a hk id now =>
    have ha : NetInv { w with actorSystem := a } := h.congr rfl rfl rfl rfl
    exact ha.perform cfg.lib id now out
  | stopNetwork hx => exact h.congr rfl rfl rfl rfl
  | stopActors => exact h.congr rfl rfl rfl rfl
  | stopReturn hr hw => exact h.congr rfl rfl rfl rfl

theorem netInv_of_runs {ls : List Label} (h : Runs cfg (run cfg) ls w) : NetInv w :=
  h.invariant (netInv_run cfg) fun _ _ _ hi _ hs => hi.step (step_cases hs).2

/-- Session `i` has completed its handshake without error, and none of its reads
and writes has failed. -/
def Registered (ls : List Label) (i : ℕ) : Prop :=
  .handshake i true ∈ ls ∧ .readError i ∉ ls ∧ .writeDone i false ∉ ls

/-- The session whose registration a label may change. -/
def changes : Label → Option ℕ
  | .handshake i _ => some i
  | .readError i => some i
  | .writeDone i false => some i
  | _ => none

theorem registered_append {ls : List Label} (h : changes l ≠ some i) :
    Registered (ls ++ [l]) i ↔ Registered ls i := by
  have h1 : Label.handshake i true ≠ l := by rintro rfl; exact h rfl
  have h2 : Label.readError i ≠ l := by rintro rfl; exact h rfl
  have h3 : Label.writeDone i false ≠ l := by rintro rfl; exact h rfl
  simp [Registered, h1, h2, h3]

structure Replaces (w w' : Server) (i : ℕ) (s s' : WebSocketSession) : Prop where
  old : w.sessions[i]? = some s
  new : w'.sessions = w.sessions.set i s'
  accepted : s'.accepting = false

inductive NetStep (w : Server) (l : Label) (w' : Server) : Prop
  | quiet (hs : w'.sessions = w.sessions) (ht : w'.transports = w.transports)
      (hl : changes l = none)
  | accept (hs : w'.sessions = w.sessions ++ [.run (sessionIdOf w.sessions.length)])
      (ht : w'.transports = w.transports) (hl : changes l = none)
  | update {i : ℕ} {s s' : WebSocketSession} (hs : Replaces w w' i s s')
      (ht : w'.transports = w.transports) (hl : changes l = none)
  | refuse {i : ℕ} {s s' : WebSocketSession} (hs : Replaces w w' i s s')
      (ht : w'.transports = w.transports) (hl : l = .handshake i false) (ha : s.accepting = true)
  | bind {i : ℕ} {s s' : WebSocketSession} (hs : Replaces w w' i s s')
      (ht : w'.transports = Function.update w.transports (sessionIdOf i) (some i))
      (hl : l = .handshake i true) (ha : s.accepting = true)
  | unbind {i : ℕ} {s s' : WebSocketSession} (hs : Replaces w w' i s s')
      (ht : w'.transports = Function.update w.transports (sessionIdOf i) none)
      (hl : l = .readError i ∨ l = .writeDone i false)

theorem NetInv.perform_net (h : NetInv w) (a : ActorSystem) (lib : Libraries) (id : Uuid) (now : ℤ)
    (out : Outcome ActorType Envelope (Traced Effect) HandlerError) (hl : changes l = none) :
    NetStep w l ({ w with actorSystem := a }.perform lib id now out) := by
  unfold Server.perform
  split
  · next o sid p =>
    rcases deliver_cases lib { w with actorSystem := a } o sid p
      with ⟨i, s, ht, hs, -, hd⟩ | ⟨-, hd⟩
    · obtain ⟨x, hx, -, hacc, -⟩ := h.bound sid i ht
      obtain rfl : s = x := Option.some.inj (hs.symm.trans hx)
      rw [hd]
      exact .update ⟨hs, rfl, hacc⟩ rfl hl
    · rw [hd]
      exact .quiet rfl rfl hl
  · exact .quiet rfl rfl hl
  · exact .quiet rfl rfl hl
  · exact .quiet rfl rfl hl

theorem Step.net (h : NetInv w) (hst : Step cfg w l w') : NetStep w l w' := by
  cases hst with
  | accept hn =>
    refine .accept ?_ rfl rfl
    simp [Server.listenerOnAccept, sessionIdOf, h.next]
  | acceptError => exact .quiet rfl rfl rfl
  | @handshake i s hs ha ok =>
    obtain ⟨-, hs, -⟩ := hs
    cases ok with
    | false => exact .refuse ⟨hs, rfl, rfl⟩ rfl rfl ha
    | true => exact .bind ⟨hs, rfl, rfl⟩ (by rw [← h.ids i s hs]; rfl) rfl ha
  | @readFrame i s hs hr raw =>
    obtain ⟨-, hs, -⟩ := hs
    have hacc := h.not_accepting_of_listening hs (.inl hr)
    exact .update ⟨hs, rfl, hacc⟩ rfl rfl
  | @readError i s hs hr =>
    obtain ⟨-, hs, -⟩ := hs
    have hacc := h.not_accepting_of_listening hs (.inl hr)
    exact .unbind ⟨hs, rfl, hacc⟩ (by rw [← h.ids i s hs]; rfl) (.inl rfl)
  | @dispatch i s raw hs hx =>
    have hacc := h.not_accepting_of_listening hs (.inr (by simp [hx]))
    unfold onRead
    dsimp only
    split
    · exact .quiet rfl rfl rfl
    · exact .update ⟨hs, rfl, hacc⟩ rfl rfl
    · exact .update ⟨hs, rfl, hacc⟩ rfl rfl
  | @posted i s payload rest hs hp =>
    have hr := s.sameReader_runPosted payload rest
    exact .update ⟨hs.2.1, rfl, hr.accepting.trans (h.not_accepting_of_posted hs.2.1 hp)⟩ rfl rfl
  | @writeDone i s hs hw ok =>
    obtain ⟨-, hs, -⟩ := hs
    have hacc := h.not_accepting_of_writing hs hw
    cases ok with
    | true => exact .update ⟨hs, rfl, s.sameReader_onWrite.accepting.trans hacc⟩ rfl rfl
    | false => exact .unbind ⟨hs, rfl, hacc⟩ (by rw [← h.ids i s hs]; rfl) (.inr rfl)
  | @worker k out a hk id now => exact h.perform_net a cfg.lib id now out rfl
  | stopNetwork hx => exact .quiet rfl rfl rfl
  | stopActors => exact .quiet rfl rfl rfl
  | stopReturn hr hw => exact .quiet rfl rfl rfl

theorem NetStep.length_le (h : NetStep w l w') : w.sessions.length ≤ w'.sessions.length := by
  cases h with
  | quiet hs => rw [hs]
  | accept hs => simp [hs]
  | update hs => simp [hs.new]
  | refuse hs => simp [hs.new]
  | bind hs => simp [hs.new]
  | unbind hs => simp [hs.new]

theorem Replaces.keeps_accepted {j : ℕ} {x : WebSocketSession} (h : Replaces w w' i s s')
    (hx : w.sessions[j]? = some x) (ha : x.accepting = false) :
    ∃ y, w'.sessions[j]? = some y ∧ y.accepting = false := by
  rw [h.new, getElem?_set_of_some h.old hx]
  split
  · exact ⟨s', rfl, h.accepted⟩
  · exact ⟨x, rfl, ha⟩

/-- Once past its handshake, a session stays past it. -/
theorem NetStep.keeps_accepted {j : ℕ} {x : WebSocketSession} (h : NetStep w l w')
    (hx : w.sessions[j]? = some x) (ha : x.accepting = false) :
    ∃ y, w'.sessions[j]? = some y ∧ y.accepting = false := by
  cases h with
  | quiet hs => exact ⟨x, by rw [hs, hx], ha⟩
  | accept hs =>
    have hj := (List.getElem?_eq_some_iff.mp hx).1
    exact ⟨x, by rw [hs, List.getElem?_append_left hj, hx], ha⟩
  | update hs => exact hs.keeps_accepted hx ha
  | refuse hs => exact hs.keeps_accepted hx ha
  | bind hs => exact hs.keeps_accepted hx ha
  | unbind hs => exact hs.keeps_accepted hx ha

theorem NetStep.bound_before (h : NetStep w l w')
    (hb : w'.transports (sessionIdOf i) = some i) :
    w.transports (sessionIdOf i) = some i ∨
      ∃ s, w.sessions[i]? = some s ∧ s.accepting = true := by
  cases h with
  | quiet hs ht hl => exact .inl (ht ▸ hb)
  | accept hs ht hl => exact .inl (ht ▸ hb)
  | update hs ht hl => exact .inl (ht ▸ hb)
  | refuse hs ht hl ha => exact .inl (ht ▸ hb)
  | @bind j s s' hs ht hl ha =>
    rw [ht, Function.update_apply] at hb
    split at hb
    · obtain rfl := Option.some.inj hb
      exact .inr ⟨s, hs.old, ha⟩
    · exact .inl hb
  | @unbind j s s' hs ht hl =>
    rw [ht, Function.update_apply] at hb
    split at hb
    · cases hb
    · exact .inl hb

structure RegInv (ls : List Label) (w : Server) : Prop where
  known : ∀ l ∈ ls, ∀ i, changes l = some i → ∃ s, w.sessions[i]? = some s ∧ s.accepting = false
  exact : w.sessions.length < 2 ^ 64 → ∀ i < w.sessions.length,
    (w.transports (sessionIdOf i) = some i ↔ Registered ls i)

theorem Replaces.length (h : Replaces w w' i s s') : w'.sessions.length = w.sessions.length := by
  rw [h.new, List.length_set]

theorem Replaces.lt (h : Replaces w w' i s s') : i < w.sessions.length :=
  (List.getElem?_eq_some_iff.mp h.old).1

theorem Replaces.at_self (h : Replaces w w' i s s') : w'.sessions[i]? = some s' := by
  rw [h.new, getElem?_set_of_some h.old h.old, if_pos rfl]

theorem RegInv.not_mem {ls : List Label} (h : RegInv ls w) (hs : w.sessions[i]? = some s)
    (ha : s.accepting = true) (hl : changes l = some i) : l ∉ ls := by
  intro hmem
  obtain ⟨x, hx, hxa⟩ := h.known l hmem i hl
  obtain rfl : s = x := Option.some.inj (hs.symm.trans hx)
  simp [ha] at hxa

theorem RegInv.known_step {ls : List Label} (h : RegInv ls w) (hst : NetStep w l w') :
    ∀ k ∈ ls ++ [l], ∀ i, changes k = some i →
      ∃ s, w'.sessions[i]? = some s ∧ s.accepting = false := by
  intro k hk i hi
  rcases List.mem_append.mp hk with hk | hk
  · obtain ⟨s, hs, ha⟩ := h.known k hk i hi
    exact hst.keeps_accepted hs ha
  · obtain rfl := List.mem_singleton.mp hk
    cases hst with
    | quiet hs ht hl => simp [hl] at hi
    | accept hs ht hl => simp [hl] at hi
    | update hs ht hl => simp [hl] at hi
    | refuse hs ht hl =>
      rw [hl] at hi
      cases hi
      exact ⟨_, hs.at_self, hs.accepted⟩
    | bind hs ht hl =>
      rw [hl] at hi
      cases hi
      exact ⟨_, hs.at_self, hs.accepted⟩
    | unbind hs ht hl =>
      obtain rfl | rfl := hl <;> cases hi <;> exact ⟨_, hs.at_self, hs.accepted⟩

theorem RegInv.exact_other {ls : List Label} (h : RegInv ls w) (hw : w.sessions.length < 2 ^ 64)
    {j : ℕ} (hj : j < w.sessions.length) (hl : changes l ≠ some j)
    (ht : w'.transports (sessionIdOf j) = w.transports (sessionIdOf j)) :
    w'.transports (sessionIdOf j) = some j ↔ Registered (ls ++ [l]) j := by
  rw [registered_append hl, ht]
  exact h.exact hw j hj

/-- The registry follows the labels. -/
theorem RegInv.exact_step {ls : List Label} (h : RegInv ls w) (hn : NetInv w)
    (hst : NetStep w l w') (hlt : w'.sessions.length < 2 ^ 64) :
    ∀ j < w'.sessions.length,
      (w'.transports (sessionIdOf j) = some j ↔ Registered (ls ++ [l]) j) := by
  have hw : w.sessions.length < 2 ^ 64 := hst.length_le.trans_lt hlt
  have hne {i j : ℕ} (hi : i < w.sessions.length) (hj : j < w.sessions.length) (hij : j ≠ i) :
      sessionIdOf j ≠ sessionIdOf i := fun he =>
    hij (sessionIdOf_inj (by omega) (by omega) he)
  intro j hj
  cases hst with
  | quiet hs ht hl => exact h.exact_other hw (hs ▸ hj) (by simp [hl]) (by rw [ht])
  | update hs ht hl => exact h.exact_other hw (hs.length ▸ hj) (by simp [hl]) (by rw [ht])
  | accept hs ht hl =>
    by_cases hjw : j < w.sessions.length
    · exact h.exact_other hw hjw (by simp [hl]) (by rw [ht])
    · -- nothing is known of the new connection
      rw [registered_append (by simp [hl]), ht]
      constructor
      · intro hb
        obtain ⟨x, hx, -⟩ := hn.bound _ _ hb
        exact absurd (List.getElem?_eq_some_iff.mp hx).1 hjw
      · intro hreg
        obtain ⟨x, hx, -⟩ := h.known _ hreg.1 j rfl
        exact absurd (List.getElem?_eq_some_iff.mp hx).1 hjw
  | @refuse i s s' hs ht hl ha =>
    by_cases hji : j = i
    · subst hji
      rw [ht]
      constructor
      · intro hb
        have hacc := (hn.bound_at hb hs.old).2.1
        simp [ha] at hacc
      · intro hreg
        have hmem := hreg.1
        simp only [hl, List.mem_append, List.mem_singleton, Label.handshake.injEq] at hmem
        exact absurd hmem (by simp [h.not_mem hs.old ha (l := .handshake j true) rfl])
    · exact h.exact_other hw (hs.length ▸ hj) (by simp [hl, changes, Ne.symm hji]) (by rw [ht])
  | @bind i s s' hs ht hl ha =>
    by_cases hji : j = i
    · subst hji
      simp [ht, hl, Registered, h.not_mem hs.old ha (l := .readError j) rfl,
        h.not_mem hs.old ha (l := .writeDone j false) rfl]
    · refine h.exact_other hw (hs.length ▸ hj) (by simp [hl, changes, Ne.symm hji]) ?_
      rw [ht, Function.update_of_ne (hne hs.lt (hs.length ▸ hj) hji)]
  | @unbind i s s' hs ht hl =>
    by_cases hji : j = i
    · subst hji
      rw [ht, Function.update_self]
      obtain rfl | rfl := hl <;> simp [Registered]
    · refine h.exact_other hw (hs.length ▸ hj)
        (by obtain rfl | rfl := hl <;> simp [changes, Ne.symm hji]) ?_
      rw [ht, Function.update_of_ne (hne hs.lt (hs.length ▸ hj) hji)]

theorem RegInv.step {ls : List Label} (h : RegInv ls w) (hn : NetInv w) (hst : NetStep w l w') :
    RegInv (ls ++ [l]) w' :=
  ⟨h.known_step hst, fun hlt => h.exact_step hn hst hlt⟩

theorem regInv_of_runs {ls : List Label} (h : Runs cfg (run cfg) ls w) : RegInv ls w := by
  have hboth := h.history (I := fun ls w => NetInv w ∧ RegInv ls w)
    ⟨netInv_run cfg, ⟨by simp, by simp [Server.run]⟩⟩
    fun ls t l u hi _ hs =>
      ⟨hi.1.step (step_cases hs).2, hi.2.step hi.1 ((step_cases hs).2.net hi.1)⟩
  exact hboth.2

theorem length_le_of_runs {w₁ w₂ : Server} {ls : List Label} (hn : NetInv w₁)
    (h : Runs cfg w₁ ls w₂) : w₁.sessions.length ≤ w₂.sessions.length := by
  have hboth := h.invariant (I := fun w => NetInv w ∧ w₁.sessions.length ≤ w.sessions.length)
    ⟨hn, le_rfl⟩ fun t l u hi _ hs =>
      ⟨hi.1.step (step_cases hs).2, hi.2.trans ((step_cases hs).2.net hi.1).length_le⟩
  exact hboth.2

theorem registered_of_bound {ls : List Label} (h : Runs cfg (run cfg) ls w)
    (hlt : w.sessions.length < 2 ^ 64) {sid : String} (hb : w.transports sid = some i) :
    sid = sessionIdOf i ∧ i < w.sessions.length ∧ Registered ls i := by
  have hn := netInv_of_runs h
  obtain ⟨s, hs, rfl, -⟩ := hn.bound sid i hb
  have hi := (List.getElem?_eq_some_iff.mp hs).1
  refine ⟨hn.ids i s hs, hi, ?_⟩
  rw [← (regInv_of_runs h).exact hlt i hi, ← hn.ids i s hs]
  exact hb

theorem never_bound_again {ls₁ ls₂ ls₃ : List Label} {w₁ w₂ : Server} {sid : String}
    (h₁ : Runs cfg (run cfg) ls₁ w₁) (h₂ : Runs cfg w₁ ls₂ w₂) (h₃ : Runs cfg w₂ ls₃ w)
    (hlt : w.sessions.length < 2 ^ 64) (hb : w₁.transports sid ≠ none)
    (hu : w₂.transports sid = none) : w.transports sid = none := by
  obtain ⟨i, hi⟩ := Option.ne_none_iff_exists'.mp hb
  have hn₂ := netInv_of_runs (h₁.trans h₂)
  have hlt₂ := (length_le_of_runs hn₂ h₃).trans_lt hlt
  have hle₁ := length_le_of_runs (netInv_of_runs h₁) h₂
  obtain ⟨rfl, hil, hreg⟩ := registered_of_bound h₁ (hle₁.trans_lt hlt₂) hi
  -- the id was unbound by a failed read or write, which no later label undoes
  have hfail : ¬ Registered (ls₁ ++ ls₂) i := by
    rw [← (regInv_of_runs (h₁.trans h₂)).exact hlt₂ i (hil.trans_le hle₁), hu]
    simp
  by_contra hc
  obtain ⟨j, hj⟩ := Option.ne_none_iff_exists'.mp hc
  obtain ⟨hid, hjl, hregj⟩ := registered_of_bound ((h₁.trans h₂).trans h₃) hlt hj
  have hle₂ := length_le_of_runs hn₂ h₃
  obtain rfl : i = j := sessionIdOf_inj (by omega) (by omega) hid
  refine hfail ⟨List.mem_append_left _ hreg.1, fun hr => ?_, fun hr => ?_⟩
  · exact hregj.2.1 (List.mem_append_left _ hr)
  · exact hregj.2.2 (List.mem_append_left _ hr)

/-- The registry holds exactly the connections whose handshake succeeded and of
which no read and no write has failed; its entries are alive and lead to the
session of that id, ids are not shared, and an id that was unbound stays so. -/
theorem registry_exact {ls : List Label} (h : Runs cfg (run cfg) ls w)
    (hlt : w.sessions.length < 2 ^ 64) :
    (∀ sid, (w.transports sid).isSome = true ↔
      ∃ (i : ℕ) (s : WebSocketSession), w.sessions[i]? = some s ∧ s.sessionId = sid ∧
        .handshake i true ∈ ls ∧ .readError i ∉ ls ∧ .writeDone i false ∉ ls) ∧
    (∀ sid i, w.transports sid = some i →
      ∃ s, w.sessions[i]? = some s ∧ s.sessionId = sid ∧ s.alive = true ∧ s.Listening) ∧
    (∀ (i j : ℕ) (s t : WebSocketSession), w.sessions[i]? = some s → w.sessions[j]? = some t →
      s.sessionId = t.sessionId → i = j) ∧
    (∀ sid ls₁ ls₂ ls₃ w₁ w₂, Runs cfg (run cfg) ls₁ w₁ → Runs cfg w₁ ls₂ w₂ → Runs cfg w₂ ls₃ w →
      w₁.transports sid ≠ none → w₂.transports sid = none → w.transports sid = none) := by
  have hn := netInv_of_runs h
  refine ⟨fun sid => ⟨fun hb => ?_, ?_⟩, fun sid i hb => ?_, fun i j s t hs ht hid => ?_,
    fun sid ls₁ ls₂ ls₃ w₁ w₂ h₁ h₂ h₃ hb hu => never_bound_again h₁ h₂ h₃ hlt hb hu⟩
  · obtain ⟨i, hi⟩ := Option.isSome_iff_exists.mp hb
    obtain ⟨s, hs, hid, -⟩ := hn.bound sid i hi
    exact ⟨i, s, hs, hid, (registered_of_bound h hlt hi).2.2⟩
  · rintro ⟨i, s, hs, rfl, hreg⟩
    have hi := (List.getElem?_eq_some_iff.mp hs).1
    have hb := ((regInv_of_runs h).exact hlt i hi).mpr hreg
    rw [hn.ids i s hs, hb]
    rfl
  · obtain ⟨s, hs, hid, -, hl⟩ := hn.bound sid i hb
    exact ⟨s, hs, hid, hl.alive, hl⟩
  · rw [hn.ids i s hs, hn.ids j t ht] at hid
    have hi := (List.getElem?_eq_some_iff.mp hs).1
    have hj := (List.getElem?_eq_some_iff.mp ht).1
    exact sessionIdOf_inj (by omega) (by omega) hid

def twoConnections : List Label :=
  Sample.connect 0 ++ Sample.connect 1 ++ [.readError 0]

theorem registry_exact_two_connections :
    ∃ w, Runs (Sample.config [] 1 1) (run (Sample.config [] 1 1)) twoConnections w ∧
      w.transports "1" = none ∧ (w.transports "2").isSome = true := by
  obtain ⟨w, hrun, hlt, h1, hs⟩ : ∃ w,
      Runs (Sample.config [] 1 1) (run (Sample.config [] 1 1)) twoConnections w ∧
      w.sessions.length < 2 ^ 64 ∧ w.transports "1" = none ∧
      w.sessions[1]?.map (·.sessionId) = some "2" := exists_run _ (by decide +kernel)
  obtain ⟨s, hs, hid⟩ := Option.map_eq_some_iff.mp hs
  have hmem : .handshake 1 true ∈ twoConnections ∧ .readError 1 ∉ twoConnections ∧
      .writeDone 1 false ∉ twoConnections := by
    simp [twoConnections, Sample.connect]
  exact ⟨w, hrun, h1, ((registry_exact hrun hlt).1 "2").mpr ⟨1, s, hs, hid, hmem⟩⟩

end Server

end Svitock
