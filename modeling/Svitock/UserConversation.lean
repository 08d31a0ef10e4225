import Svitock.Observation
import Svitock.UserHandlers

/-!
# What the clients of the user-keyed server are told

However the handlers of the sessions are interleaved, what a session does follows from its
own frames, a text goes to nobody but the user it was sent to, and each client gets the
texts posted to its session once and in order.
-/

namespace Svitock

open Transition

namespace UserKeyed

/-- What the handlers of a session do for its frames, one after another. -/
def script (lib : Libraries) : String → List (ByteArray × Outcome) → List Action
  | _, [] => []
  | user, (raw, outcome) :: frames =>
    (actions lib user raw outcome).getD [] ++
      script lib ((authenticates lib raw).getD user) frames

namespace Concurrent

/-- Shows the action that a step performs, with its session. -/
def performed (c : Concurrent) : Label → List (ℕ × Action)
  | .act k => (c.todo k).head?.toList.map (k, ·)
  | .event _ => []

end Concurrent

/-- The texts that an action of session `k` posts, each with the session it goes to. -/
def Action.posts (k : ℕ) : Action → List (ℕ × String)
  | reply text => [(k, text)]
  | forward recipient text => [(recipient, text)]
  | _ => []

/-- The texts posted to session `j`. -/
def textsFor (j : ℕ) (done : List (ℕ × Action)) : List String :=
  ((done.flatMap fun x => x.2.posts x.1).filter (·.1 = j)).map Prod.snd

/-- The actions of session `k`. -/
def doneBy (k : ℕ) (done : List (ℕ × Action)) : List Action := (done.filter (·.1 = k)).map Prod.snd

def Action.scripted : Action → Bool
  | forward _ _ => false
  | _ => true

def Action.forwards? : Action → Option String
  | forward _ text => some text
  | _ => none

/-- The frames read on session `k`. -/
def framesOn (k : ℕ) (ls : List Concurrent.Label) : List (ByteArray × Outcome) :=
  ls.filterMap fun
    | .event (.frame j raw outcome) => if j = k then some (raw, outcome) else none
    | _ => none

def State.sent (s : State) (k : ℕ) : List String :=
  (s.sessions[k]?).elim [] fun session => session.writeSide.sent.map Buffer.payload

variable {lib : Libraries} {s s' : State} {k j : ℕ} {raw : ByteArray} {outcome : Outcome}
  {session : WebSocketSession}

def userAfter (lib : Libraries) (user : String) (frames : List (ByteArray × Outcome)) : String :=
  frames.foldl (fun user x => (authenticates lib x.1).getD user) user

theorem script_snoc (user : String) (frames : List (ByteArray × Outcome)) :
    script lib user (frames ++ [(raw, outcome)]) =
      script lib user frames ++ (actions lib (userAfter lib user frames) raw outcome).getD [] := by
  induction frames generalizing user with
  | nil => simp [script, userAfter]
  | cons x frames ih =>
    obtain ⟨raw', outcome'⟩ := x
    simp [script, ih, userAfter]

theorem userAfter_snoc (user : String) (frames : List (ByteArray × Outcome)) :
    userAfter lib user (frames ++ [(raw, outcome)]) =
      (authenticates lib raw).getD (userAfter lib user frames) := by
  simp [userAfter]

def Action.user (user : String) : Action → String
  | register userId => userId
  | _ => user

def Request.user? : Request → Option String
  | auth userId => if userId = "" then none else some userId
  | _ => none

namespace Request

theorem authenticates_of_read {request : Request} (h : read (lib.parse raw) = .ok request) :
    authenticates lib raw = request.user? := by
  by_cases hparse : lib.parse raw = .discarded
  · rw [hparse] at h
    obtain rfl := Except.ok.inj h
    simp [authenticates, hparse, Json.text, Json.field?, user?]
  · rw [read_of_ne hparse, readParsed] at h
    split at h
    · cases h
    · next type hvalue =>
      have htype := Json.text_of_value hvalue
      split_ifs at h with hauth hsend hlogged hping
      · cases huser : (lib.parse raw).value "user_id" "" with
        | error e =>
          rw [huser] at h
          cases h
        | ok userId =>
          rw [huser] at h
          obtain rfl := Except.ok.inj h
          simp [authenticates, htype, hauth, Json.text_of_value huser, user?]
      all_goals
        have ha := MessageDispatcher.authenticates_of_type htype hauth
        rw [ha]
      · cases hfields : MessageDispatcher.sendFields (lib.parse raw) with
        | error e =>
          rw [hfields] at h
          cases h
        | ok fields =>
          rw [hfields] at h
          obtain rfl := Except.ok.inj h
          rfl
      all_goals
        obtain rfl := Except.ok.inj h
        rfl

/-- A handler registers the user that its request authenticates and forwards nothing by
itself. -/
theorem actions_spec {request : Request} {user : String} {acts : List Action}
    (h : request.actions lib user outcome = some acts) :
    acts.foldl Action.user user = request.user?.getD user ∧
      ∀ a ∈ acts, a.scripted = true := by
  cases request with
  | auth userId =>
    simp only [actions] at h
    split_ifs at h with hempty
    · obtain rfl := Option.some.inj h
      simp [user?, hempty, Action.user, Action.scripted]
    · obtain rfl := Option.some.inj h
      simp [user?, hempty, Action.user, Action.scripted]
  | sendMessage chatId toUserId text =>
    simp only [actions] at h
    split_ifs at h
    · obtain rfl := Option.some.inj h
      simp [user?, Action.user, Action.scripted]
    · obtain rfl := Option.some.inj h
      simp [user?, Action.user, Action.scripted]
    -- the two ids are parsed before the message is stored
    all_goals
      split at h
      · obtain rfl := Option.some.inj h
        simp [user?, Action.user, Action.scripted]
      · cases h
  | invalid | logged | ping | unsupported =>
    obtain rfl := Option.some.inj h
    simp [user?, Action.user, Action.scripted]

end Request

theorem actions_spec {user : String} {acts : List Action}
    (h : actions lib user raw outcome = some acts) :
    acts.foldl Action.user user = (authenticates lib raw).getD user ∧
      ∀ a ∈ acts, a.scripted = true := by
  unfold actions at h
  split at h
  · cases h
  · next request hread =>
    rw [Request.authenticates_of_read hread]
    exact Request.actions_spec h

theorem sent_modify {f : WebSocketSession → WebSocketSession}
    (h : ∀ session, (f session).writeSide.sent = session.writeSide.sent) :
    (s.modify k f).sent = s.sent := by
  funext j
  unfold State.sent State.modify
  rw [List.getElem?_modify]
  cases s.sessions[j]? with
  | none => rfl
  | some session =>
    by_cases hj : k = j
    · simp [hj, h]
    · simp [hj]

theorem sent_sendText (hk : k < s.sessions.length) (text : String) (j : ℕ) :
    (s.sendText k text).sent j = s.sent j ++ if k = j then [text] else [] := by
  unfold State.sent State.sendText State.modify
  rw [List.getElem?_modify]
  by_cases hj : k = j
  · subst hj
    simp [hk, WebSocketSession.sendText, WriteSide.send]
  · simp [hj]

theorem sent_of_posted {q q' : WriteSide} (h : q.step .posted = some q') : q'.sent = q.sent := by
  simp only [WriteSide.step] at h
  split at h
  · cases h
  · obtain rfl := Option.some.inj h
    unfold WriteSide.runPosted WriteSide.doWrite
    dsimp only
    split_ifs
    · split <;> rfl
    · rfl

theorem sent_of_writeDone {q q' : WriteSide} {n : ℕ} {ok : Bool}
    (h : q.step (.writeDone n ok) = some q') : q'.sent = q.sent := by
  simp only [WriteSide.step] at h
  split at h
  · cases h
  · obtain rfl := Option.some.inj h
    unfold WriteSide.onWrite WriteSide.doWrite
    dsimp only
    split_ifs
    · rfl
    · split <;> rfl
    · rfl

theorem sent_writeSide {q : WriteSide} (hk : s.sessions[k]? = some session)
    (h : q.sent = session.writeSide.sent) :
    (s.modify k fun session => { session with writeSide := q }).sent = s.sent := by
  funext j
  unfold State.sent State.modify
  rw [List.getElem?_modify]
  by_cases hj : k = j
  · subst hj
    simp [hk, h]
  · simp [hj]

theorem sent_close (s : State) (k : ℕ) : (s.close k).sent = s.sent :=
  sent_modify (f := fun session => { session with closed := true }) fun _ => rfl

/-- What the completions other than frames leave as it is. -/
structure Quiet (s s' : State) : Prop where
  userId : s'.userId = s.userId
  sent : s'.sent = s.sent
  length : s.sessions.length ≤ s'.sessions.length
  manager : ∀ user r, s'.manager user = some r → s.manager user = some r
  writeSide : (∀ session ∈ s.sessions, session.writeSide.Inv) →
    ∀ session ∈ s'.sessions, session.writeSide.Inv

theorem writeSide_modify {f : WebSocketSession → WebSocketSession}
    (h : ∀ session ∈ s.sessions, session.writeSide.Inv)
    (hf : ∀ session, s.sessions[k]? = some session → (f session).writeSide.Inv) :
    ∀ session ∈ (s.modify k f).sessions, session.writeSide.Inv := by
  intro x hx
  obtain ⟨j, hj⟩ := List.mem_iff_getElem?.mp hx
  simp only [State.modify, List.getElem?_modify] at hj
  obtain ⟨y, hy, rfl⟩ := Option.map_eq_some_iff.mp hj
  by_cases hkj : k = j
  · subst hkj
    simpa using hf y hy
  · simpa [hkj] using h y (List.mem_of_getElem? hy)

theorem writeSide_same {f : WebSocketSession → WebSocketSession}
    (h : ∀ session ∈ s.sessions, session.writeSide.Inv)
    (hf : ∀ session, (f session).writeSide = session.writeSide) :
    ∀ session ∈ (s.modify k f).sessions, session.writeSide.Inv :=
  writeSide_modify h fun session hk => hf session ▸ h session (List.mem_of_getElem? hk)

theorem writeSide_sendText (h : ∀ session ∈ s.sessions, session.writeSide.Inv) (text : String) :
    ∀ session ∈ (s.sendText k text).sessions, session.writeSide.Inv :=
  writeSide_modify h fun session hk => (h session (List.mem_of_getElem? hk)).send text

theorem manager_close (s : State) (k : ℕ) {user : String} {r : ℕ}
    (h : (s.close k).manager user = some r) : s.manager user = some r := by
  simp only [State.close, SessionManager.removeSession] at h
  split_ifs at h
  · exact h
  · rw [Function.update_apply] at h
    split_ifs at h
    exact h

theorem length_modify (s : State) (k : ℕ) (f : WebSocketSession → WebSocketSession) :
    (s.modify k f).sessions.length = s.sessions.length := by
  simp [State.modify]

theorem quiet_of_step {l : Label} (hl : l.isFrame = false) (h : step lib s l = some s') :
    Quiet s s' := by
  have huser (ha : l.auths? lib = none) : s'.userId = s.userId := by
    funext j
    simpa [ha] using step_userId h j
  cases step_cases h with
  | connect =>
    refine ⟨huser rfl, ?_, by simp, fun _ _ => id, ?_⟩
    · funext j
      unfold State.sent
      dsimp only
      rcases Nat.lt_trichotomy j s.sessions.length with hlt | rfl | hlt
      · rw [List.getElem?_append_left hlt]
      · simp [WebSocketSession.run, WriteSide.start]
      · rw [List.getElem?_eq_none (by simp; omega), List.getElem?_eq_none (by omega)]
    · intro hi session hmem
      rcases List.mem_append.mp hmem with hmem | hmem
      · exact hi session hmem
      · obtain rfl := List.mem_singleton.mp hmem
        exact WriteSide.inv_start
  | handshake _ _ =>
    exact ⟨huser rfl, sent_modify fun _ => rfl, (length_modify _ _ _).ge, fun _ _ => id,
      fun hi => writeSide_same hi fun _ => rfl⟩
  | frame _ _ _ => cases hl
  | @readError k session _ _ =>
    refine ⟨huser rfl, (sent_close _ k).trans (sent_modify fun _ => rfl), ?_,
      fun user r => manager_close (s.modify k _) k, fun hi => ?_⟩
    · simp [State.close, State.modify]
    · exact writeSide_same (f := fun session => { session with closed := true })
        (writeSide_same hi fun _ => rfl) fun _ => rfl
  | posted hk hw =>
    exact ⟨huser rfl, sent_writeSide hk (sent_of_posted hw), (length_modify _ _ _).ge,
      fun _ _ => id, fun hi => writeSide_modify hi fun _ _ =>
        (hi _ (List.mem_of_getElem? hk)).step hw⟩
  | written hk hw =>
    exact ⟨huser rfl, sent_writeSide hk (sent_of_writeDone hw), (length_modify _ _ _).ge,
      fun _ _ => id, fun hi => writeSide_modify hi fun _ _ =>
        (hi _ (List.mem_of_getElem? hk)).step hw⟩
  | @writeError k n session writeSide hk hw =>
    refine ⟨huser rfl, (sent_close _ k).trans (sent_writeSide hk (sent_of_writeDone hw)), ?_,
      fun user r => manager_close (s.modify k _) k, fun hi => ?_⟩
    · simp [State.close, State.modify]
    · exact writeSide_same (f := fun session => { session with closed := true })
        (writeSide_modify hi fun _ _ => (hi _ (List.mem_of_getElem? hk)).step hw) fun _ => rfl

namespace Concurrent

variable {c : Concurrent}

def next (c : Concurrent) : Action → List Action
  | .find userId text => (c.findSession userId).toList.map (Action.forward · text)
  | _ => []

theorem todo_perform (c : Concurrent) (k : ℕ) (rest : List Action) (action : Action) (j : ℕ) :
    (c.perform k rest action).todo j = if j = k then c.next action ++ rest else c.todo j := by
  cases action <;> exact todo_update _ _ _ _

theorem mem_next {action a : Action} (h : a ∈ c.next action) :
    ∃ user text r, action = .find user text ∧ a = .forward r text ∧
      c.findSession user = some r := by
  cases action with
  | find user text =>
    obtain ⟨r, hr, rfl⟩ := List.mem_map.mp h
    exact ⟨user, text, r, rfl, rfl, by simpa using hr⟩
  | _ => cases h

theorem performed_act {action : Action} {rest : List Action}
    (hh : c.handlers k = some (action :: rest)) : c.performed (.act k) = [(k, action)] := by
  simp [performed, todo, hh]

theorem performed_read (hh : c.handlers k = some []) : c.performed (.act k) = [] := by
  simp [performed, todo, hh]

theorem todo_read (hh : c.handlers k = some []) (j : ℕ) :
    todo { c with handlers := Function.update c.handlers k none } j = c.todo j := by
  rw [todo_update]
  split_ifs with hj
  · rw [hj, todo_of_handlers hh]
    rfl
  · rfl

end Concurrent

theorem doneBy_snoc (done : List (ℕ × Action)) (k j : ℕ) (a : Action) :
    doneBy j (done ++ [(k, a)]) = doneBy j done ++ if k = j then [a] else [] := by
  by_cases hj : k = j <;> simp [doneBy, hj]

theorem textsFor_snoc (done : List (ℕ × Action)) (k j : ℕ) (a : Action) :
    textsFor j (done ++ [(k, a)]) =
      textsFor j done ++ ((a.posts k).filter (·.1 = j)).map Prod.snd := by
  simp [textsFor]

theorem framesOn_act (ls : List Concurrent.Label) (k j : ℕ) :
    framesOn j (ls ++ [.act k]) = framesOn j ls := by
  simp [framesOn]

theorem framesOn_frame (ls : List Concurrent.Label) (k : ℕ) (raw : ByteArray) (outcome : Outcome) :
    framesOn k (ls ++ [.event (.frame k raw outcome)]) = framesOn k ls ++ [(raw, outcome)] := by
  simp [framesOn]

theorem framesOn_frame_of_ne {ls : List Concurrent.Label} (h : k ≠ j) :
    framesOn j (ls ++ [.event (.frame k raw outcome)]) = framesOn j ls := by
  simp [framesOn, h]

theorem framesOn_snoc (k : ℕ) (ls : List Concurrent.Label) (l : Concurrent.Label) :
    framesOn k (ls ++ [l]) = framesOn k ls ++ framesOn k [l] := by
  simp [framesOn]

namespace Concurrent

variable {c c' : Concurrent} {l : Label} {ls : List Label} {done : List (ℕ × Action)}

/-- What a session has done and what its handler has still to do is what its frames ask for,
and the same goes for its user. -/
structure Scripted (lib : Libraries) (ls : List Label) (done : List (ℕ × Action))
    (c : Concurrent) : Prop where
  script : ∀ k, (doneBy k done).filter Action.scripted ++ (c.todo k).filter Action.scripted =
    script lib "" (framesOn k ls)
  user : ∀ k, (c.todo k).foldl Action.user (c.state.userId k) = userAfter lib "" (framesOn k ls)

theorem Scripted.of_same (h : Scripted lib ls done c) (hf : ∀ k, framesOn k [l] = [])
    (ht : ∀ k, c'.todo k = c.todo k) (hu : c'.state.userId = c.state.userId) :
    Scripted lib (ls ++ [l]) done c' where
  script k := by rw [framesOn_snoc, hf, List.append_nil, ht, h.script]
  user k := by rw [framesOn_snoc, hf, List.append_nil, ht, hu, h.user]

theorem userId_sendText (s : State) (r : ℕ) (text : String) :
    (s.sendText r text).userId = s.userId := by
  funext j
  rw [userId_eq_faces, userId_eq_faces, faces_sendText]

theorem userId_perform (hk : k < c.state.sessions.length) (rest : List Action) (action : Action)
    (j : ℕ) : (c.perform k rest action).state.userId j =
      if j = k then action.user (c.state.userId k) else c.state.userId j := by
  have hsame : c.state.userId j =
      if j = k then c.state.userId k else c.state.userId j := by
    split_ifs with hj
    · rw [hj]
    · rfl
  cases action with
  | register user =>
    show State.userId (c.state.modify k (·.setUserId user)) j = if j = k then user else _
    unfold State.userId State.modify
    dsimp only
    rw [List.getElem?_modify]
    by_cases hj : k = j
    · subst hj
      simp [hk, WebSocketSession.setUserId]
    · simp [hj, Ne.symm hj]
  | create message stored => exact hsame
  | find user text => exact hsame
  | reply text =>
    show (c.state.sendText k text).userId j = _
    rw [userId_sendText]
    exact hsame
  | forward r text =>
    show (c.state.sendText r text).userId j = _
    rw [userId_sendText]
    exact hsame

theorem length_perform (c : Concurrent) (k : ℕ) (rest : List Action) (action : Action) :
    (c.perform k rest action).state.sessions.length = c.state.sessions.length := by
  cases action <;> simp [perform, State.create, State.sendText, State.modify]

def Running (c : Concurrent) : Prop := ∀ k, c.handlers k ≠ none → k < c.state.sessions.length

theorem Running.step (h : Running c) (hs : Step lib c l c') : Running c' := by
  have hupdate {k : ℕ} (hk : k < c.state.sessions.length) (handler : Option (List Action)) (j : ℕ)
      (hj : Function.update c.handlers k handler j ≠ none) : j < c.state.sessions.length := by
    rw [Function.update_apply] at hj
    split_ifs at hj with heq
    · rw [heq]
      exact hk
    · exact h j hj
  cases hs with
  | frame hk _ _ _ =>
    obtain ⟨hlt, -⟩ := List.getElem?_eq_some_iff.mp hk
    exact hupdate hlt _
  | event hl hs => exact fun k hk => (h k hk).trans_le (quiet_of_step hl hs).length
  | read hh => exact hupdate (h _ (by simp [hh])) _
  | @act k action rest hh =>
    intro j hj
    rw [length_perform]
    refine hupdate (h k (by simp [hh])) (some (c.next action ++ rest)) j ?_
    cases action <;> exact hj

theorem filter_scripted_next (c : Concurrent) (action : Action) :
    (c.next action).filter Action.scripted = [] := by
  apply List.filter_eq_nil_iff.mpr
  intro a ha
  obtain ⟨user, text, r, -, rfl, -⟩ := mem_next ha
  simp [Action.scripted]

theorem foldl_user_next (c : Concurrent) (action : Action) (user : String) :
    (c.next action).foldl Action.user user = user := by
  cases action with
  | find name text => cases hr : c.findSession name <;> simp [next, hr, Action.user]
  | _ => rfl

theorem Scripted.act {action : Action} {rest : List Action} (h : Scripted lib ls done c)
    (hk : k < c.state.sessions.length) (hh : c.handlers k = some (action :: rest)) :
    Scripted lib (ls ++ [.act k]) (done ++ [(k, action)]) (c.perform k rest action) where
  script j := by
    have htodo : c.todo k = action :: rest := todo_of_handlers hh
    rw [framesOn_act, ← h.script j, todo_perform, doneBy_snoc]
    by_cases hj : j = k
    · subst hj
      rw [if_pos rfl, if_pos rfl, htodo, List.filter_append, List.filter_append,
        filter_scripted_next, List.nil_append, List.append_assoc, ← List.filter_append]
      rfl
    · rw [if_neg hj, if_neg (Ne.symm hj), List.append_nil]
  user j := by
    have htodo : c.todo k = action :: rest := todo_of_handlers hh
    rw [framesOn_act, ← h.user j, todo_perform, userId_perform hk]
    by_cases hj : j = k
    · subst hj
      rw [if_pos rfl, if_pos rfl, htodo, List.foldl_append, foldl_user_next]
      rfl
    · rw [if_neg hj, if_neg hj]

theorem Scripted.frame {acts : List Action} (h : Scripted lib ls done c)
    (hh : c.handlers k = none) (ha : actions lib (c.state.userId k) raw outcome = some acts) :
    Scripted lib (ls ++ [.event (.frame k raw outcome)]) done
      ⟨{ c.state with log := c.state.log ++ [Event.frame k raw] },
        Function.update c.handlers k (some acts)⟩ := by
  obtain ⟨huser, hscripted⟩ := actions_spec ha
  have htodo : c.todo k = [] := todo_of_handlers hh
  -- no handler is running, so the session has the user that its frames give it
  have hafter : userAfter lib "" (framesOn k ls) = c.state.userId k := by
    rw [← h.user k, htodo]
    rfl
  refine ⟨fun j => ?_, fun j => ?_⟩
  · rw [todo_update]
    by_cases hj : j = k
    · subst hj
      rw [framesOn_frame, if_pos rfl, script_snoc, ← h.script j, htodo, hafter, ha,
        Option.getD_some, List.filter_nil, List.append_nil]
      congr 1
      exact List.filter_eq_self.mpr hscripted
    · rw [framesOn_frame_of_ne (Ne.symm hj), if_neg hj, h.script]
  · rw [todo_update]
    by_cases hj : j = k
    · subst hj
      rw [framesOn_frame, if_pos rfl, userAfter_snoc, hafter]
      exact huser
    · rw [framesOn_frame_of_ne (Ne.symm hj), if_neg hj, ← h.user j]
      rfl

theorem Scripted.step (h : Scripted lib ls done c) (hr : Running c) (hs : Step lib c l c') :
    Scripted lib (ls ++ [l]) (done ++ c.performed l) c' := by
  cases hs with
  | frame _ _ hh ha => simpa [performed] using h.frame hh ha
  | @event l state hl hs =>
    rw [performed, List.append_nil]
    refine h.of_same (fun k => ?_) (fun k => rfl) (quiet_of_step hl hs).userId
    cases l with
    | frame k raw outcome => cases hl
    | _ => rfl
  | read hh =>
    rw [performed_read hh, List.append_nil]
    exact h.of_same (fun k => rfl) (todo_read hh) rfl
  | act hh =>
    rw [performed_act hh]
    exact h.act (hr _ (by simp [hh])) hh

/-- Session `k` has looked for a user, for this text, and the user has authenticated on
session `r`. -/
def Authorised (done : List (ℕ × Action)) (k r : ℕ) (text : String) : Prop :=
  ∃ user, (k, .find user text) ∈ done ∧ (r, .register user) ∈ done

theorem Authorised.mono {done' : List (ℕ × Action)} {r : ℕ} {text : String}
    (h : Authorised done k r text) (hd : done ⊆ done') : Authorised done' k r text := by
  obtain ⟨user, hfind, hregister⟩ := h
  exact ⟨user, hd hfind, hd hregister⟩

structure Forwarding (done : List (ℕ × Action)) (c : Concurrent) : Prop where
  registered : ∀ user r, c.state.manager user = some r →
    (r, .register user) ∈ done ∧ r < c.state.sessions.length
  head : ∀ k, ∀ a ∈ (c.todo k).tail, a.scripted = true
  pending : ∀ k r text, .forward r text ∈ c.todo k →
    r < c.state.sessions.length ∧ Authorised done k r text
  forwarded : ∀ k r text, (k, .forward r text) ∈ done → Authorised done k r text
  once : ∀ k, ((doneBy k done ++ c.todo k).filterMap Action.forwards?).Sublist
    ((doneBy k done).filterMap Action.finds?)

theorem Forwarding.of_same (h : Forwarding done c) (ht : ∀ k, c'.todo k = c.todo k)
    (hm : ∀ user r, c'.state.manager user = some r → c.state.manager user = some r)
    (hl : c.state.sessions.length ≤ c'.state.sessions.length) : Forwarding done c' where
  registered user r hr := by
    obtain ⟨hregister, hlt⟩ := h.registered user r (hm user r hr)
    exact ⟨hregister, hlt.trans_le hl⟩
  head k := by
    rw [ht]
    exact h.head k
  pending k r text hmem := by
    rw [ht] at hmem
    obtain ⟨hlt, hauthorised⟩ := h.pending k r text hmem
    exact ⟨hlt.trans_le hl, hauthorised⟩
  forwarded := h.forwarded
  once k := by
    rw [ht]
    exact h.once k

theorem forwards?_eq_none {acts : List Action} (h : ∀ a ∈ acts, a.scripted = true) :
    acts.filterMap Action.forwards? = [] := by
  apply List.filterMap_eq_nil_iff.mpr
  intro a ha
  have hscripted := h a ha
  cases a <;> simp_all [Action.forwards?, Action.scripted]

theorem Forwarding.frame {acts : List Action} {state : State} (h : Forwarding done c)
    (hh : c.handlers k = none) (ha : ∀ a ∈ acts, a.scripted = true)
    (hm : state.manager = c.state.manager) (hl : state.sessions = c.state.sessions) :
    Forwarding done ⟨state, Function.update c.handlers k (some acts)⟩ where
  registered user r hr := by
    rw [hm] at hr
    rw [hl]
    exact h.registered user r hr
  head j := by
    rw [todo_update]
    split_ifs with hj
    · exact fun a hmem => ha a (List.mem_of_mem_tail hmem)
    · exact h.head j
  pending j r text hmem := by
    rw [todo_update] at hmem
    rw [hl]
    split_ifs at hmem with hj
    · cases ha _ hmem
    · exact h.pending j r text hmem
  forwarded := h.forwarded
  once j := by
    rw [todo_update]
    split_ifs with hj
    · have honce := h.once j
      rw [hj, todo_of_handlers hh, List.filterMap_append] at honce
      rw [hj, List.filterMap_append, Option.getD_some, forwards?_eq_none ha]
      exact honce
    · exact h.once j

theorem manager_perform {rest : List Action} {action : Action} {user : String} {r : ℕ}
    (h : (c.perform k rest action).state.manager user = some r) :
    (action = .register user ∧ r = k) ∨ c.state.manager user = some r := by
  cases action with
  | register name =>
    simp only [perform, SessionManager.registerSession, Function.update_apply] at h
    split_ifs at h with heq
    · exact .inl ⟨by rw [heq], (Option.some.inj h).symm⟩
    · exact .inr h
  | _ => exact .inr h

theorem mem_of_mem_tail_next {action a : Action} {rest : List Action}
    (h : a ∈ (c.next action ++ rest).tail) : a ∈ rest := by
  cases action with
  | find user text =>
    cases hr : c.findSession user with
    | none =>
      simp only [next, hr, Option.toList_none, List.map_nil, List.nil_append] at h
      exact List.mem_of_mem_tail h
    | some r => simpa [next, hr] using h
  | _ => exact List.mem_of_mem_tail h

theorem forwards?_next_sublist (c : Concurrent) (action : Action) :
    ((c.next action).filterMap Action.forwards?).Sublist ([action].filterMap Action.finds?) := by
  cases action with
  | find user text =>
    cases hr : c.findSession user <;> simp [next, hr, Action.forwards?, Action.finds?]
  | _ => exact List.nil_sublist _

theorem Forwarding.act {action : Action} {rest : List Action} (h : Forwarding done c)
    (hk : k < c.state.sessions.length) (hh : c.handlers k = some (action :: rest)) :
    Forwarding (done ++ [(k, action)]) (c.perform k rest action) := by
  have htodo : c.todo k = action :: rest := todo_of_handlers hh
  have hgrows : done ⊆ done ++ [(k, action)] := List.subset_append_left _ _
  have hnew : (k, action) ∈ done ++ [(k, action)] := by simp
  have hrest (a : Action) (ha : a ∈ rest) : a.scripted = true := by
    apply h.head k
    rw [htodo]
    exact ha
  refine ⟨fun user r hr => ?_, fun j a ha => ?_, fun j r text hmem => ?_, fun j r text hmem => ?_,
    fun j => ?_⟩
  · rw [length_perform]
    rcases manager_perform hr with ⟨rfl, rfl⟩ | hr
    · exact ⟨hnew, hk⟩
    · obtain ⟨hregister, hlt⟩ := h.registered user r hr
      exact ⟨hgrows hregister, hlt⟩
  · rw [todo_perform] at ha
    split_ifs at ha with hj
    · exact hrest a (mem_of_mem_tail_next ha)
    · exact h.head j a ha
  · rw [todo_perform] at hmem
    rw [length_perform]
    split_ifs at hmem with hj
    · rcases List.mem_append.mp hmem with hmem | hmem
      · -- the session was found in the map
        obtain ⟨user, text', r', haction, hforward, hfound⟩ := mem_next hmem
        cases hforward
        obtain ⟨hregister, hlt⟩ := h.registered user r (Option.filter_eq_some_iff.mp hfound).1
        exact ⟨hlt, user, by rw [hj, ← haction]; exact hnew, hgrows hregister⟩
      · cases hrest _ hmem
    · obtain ⟨hlt, hauthorised⟩ := h.pending j r text hmem
      exact ⟨hlt, hauthorised.mono hgrows⟩
  · rcases List.mem_append.mp hmem with hmem | hmem
    · exact (h.forwarded j r text hmem).mono hgrows
    · obtain ⟨rfl, rfl⟩ := Prod.mk.inj (List.mem_singleton.mp hmem)
      exact (h.pending j r text (by simp [htodo])).2.mono hgrows
  · have honce := h.once j
    rw [todo_perform, doneBy_snoc]
    by_cases hj : j = k
    · subst hj
      rw [htodo, ← List.singleton_append, ← List.append_assoc, List.filterMap_append,
        forwards?_eq_none hrest, List.append_nil] at honce
      rw [if_pos rfl, if_pos rfl, ← List.append_assoc, List.filterMap_append,
        forwards?_eq_none hrest, List.append_nil, List.filterMap_append,
        List.filterMap_append (f := Action.finds?)]
      exact honce.append (forwards?_next_sublist c action)
    · rw [if_neg hj, if_neg (Ne.symm hj), List.append_nil]
      exact honce

theorem Forwarding.step (h : Forwarding done c) (hr : Running c) (hs : Step lib c l c') :
    Forwarding (done ++ c.performed l) c' := by
  cases hs with
  | frame _ _ hh ha =>
    rw [performed, List.append_nil]
    exact h.frame hh (actions_spec ha).2 rfl rfl
  | event hl hs =>
    rw [performed, List.append_nil]
    have hq := quiet_of_step hl hs
    exact h.of_same (fun k => rfl) hq.manager hq.length
  | read hh =>
    rw [performed_read hh, List.append_nil]
    exact h.of_same (todo_read hh) (fun _ _ => id) (Nat.le_refl _)
  | act hh =>
    rw [performed_act hh]
    exact h.act (hr _ (by simp [hh])) hh

structure Delivered (done : List (ℕ × Action)) (c : Concurrent) : Prop where
  sent : ∀ j, c.state.sent j = textsFor j done
  writeSide : ∀ session ∈ c.state.sessions, session.writeSide.Inv

theorem Delivered.act {action : Action} {rest : List Action} (h : Delivered done c)
    (hk : k < c.state.sessions.length)
    (hr : ∀ r text, action = .forward r text → r < c.state.sessions.length) :
    Delivered (done ++ [(k, action)]) (c.perform k rest action) := by
  have hquiet {state : State} (hsent : state.sent = c.state.sent) (j : ℕ) :
      state.sent j = textsFor j done ++ ([] : List String) := by
    rw [hsent, h.sent, List.append_nil]
  have hposts {r : ℕ} (hlt : r < c.state.sessions.length) (text : String) (j : ℕ) :
      (c.state.sendText r text).sent j =
        textsFor j done ++ (([(r, text)] : List (ℕ × String)).filter (·.1 = j)).map Prod.snd := by
    rw [sent_sendText hlt, h.sent]
    by_cases hj : r = j <;> simp [hj]
  cases action with
  | register user =>
    refine ⟨fun j => ?_, writeSide_same h.writeSide fun _ => rfl⟩
    rw [textsFor_snoc]
    exact hquiet (sent_modify (k := k) (f := (·.setUserId user)) fun _ => rfl) j
  | create message stored =>
    refine ⟨fun j => ?_, h.writeSide⟩
    rw [textsFor_snoc]
    exact hquiet rfl j
  | find user text =>
    refine ⟨fun j => ?_, h.writeSide⟩
    rw [textsFor_snoc]
    exact hquiet rfl j
  | reply text =>
    refine ⟨fun j => ?_, writeSide_sendText h.writeSide text⟩
    rw [textsFor_snoc]
    exact hposts hk text j
  | forward r text =>
    refine ⟨fun j => ?_, writeSide_sendText h.writeSide text⟩
    rw [textsFor_snoc]
    exact hposts (hr r text rfl) text j

theorem Delivered.step (h : Delivered done c) (hr : Running c) (hf : Forwarding done c)
    (hs : Step lib c l c') : Delivered (done ++ c.performed l) c' := by
  cases hs with
  | frame _ _ _ _ =>
    rw [performed, List.append_nil]
    exact ⟨h.sent, h.writeSide⟩
  | event hl hs =>
    rw [performed, List.append_nil]
    have hq := quiet_of_step hl hs
    exact ⟨fun j => by rw [hq.sent, h.sent], hq.writeSide h.writeSide⟩
  | read hh =>
    rw [performed_read hh, List.append_nil]
    exact ⟨h.sent, h.writeSide⟩
  | @act k action rest hh =>
    rw [performed_act hh]
    refine h.act (hr _ (by simp [hh])) fun r text haction => ?_
    have hmem : Action.forward r text ∈ c.todo k := by
      rw [todo_of_handlers hh, haction]
      exact List.mem_cons_self
    exact (hf.pending k r text hmem).1

structure Conversing (lib : Libraries) (ls : List Label) (done : List (ℕ × Action))
    (c : Concurrent) : Prop where
  running : Running c
  scripted : Scripted lib ls done c
  forwarding : Forwarding done c
  delivered : Delivered done c

theorem forwarding_start : Forwarding [] start where
  registered _ _ h := by cases h
  head _ _ h := by cases h
  pending _ _ _ h := by cases h
  forwarded _ _ _ h := by cases h
  once _ := List.nil_sublist _

theorem conversing_start : Conversing lib [] [] start where
  running _ h := absurd rfl h
  scripted := ⟨fun _ => rfl, fun _ => rfl⟩
  forwarding := forwarding_start
  delivered := ⟨fun _ => rfl, by simp [start, State.start]⟩

theorem conversing_of_run (h : Run (step lib) Anything start ls c) :
    Conversing lib ls (observe (step lib) performed start ls) c := by
  induction h with
  | nil => exact conversing_start
  | @snoc ls l c c' hrun _ hs ih =>
    rw [observe_snoc hrun]
    have hst := step_cases hs
    exact ⟨ih.running.step hst, ih.scripted.step ih.running hst,
      ih.forwarding.step ih.running hst, ih.delivered.step ih.running ih.forwarding hst⟩

end Concurrent

namespace Concurrent

def done (lib : Libraries) (ls : List Label) : List (ℕ × Action) :=
  observe (step lib) performed start ls

theorem written_of_gone (hw : session.writeSide.Inv) (hgone : session.alive = false)
    (hf : session.writeSide.failed = false) :
    session.writeSide.written = session.writeSide.sent := by
  simp only [WebSocketSession.alive, Bool.or_eq_false_iff, Bool.not_eq_false',
    List.isEmpty_iff] at hgone
  obtain ⟨⟨-, hposted⟩, houtstanding⟩ := hgone
  rw [← hw.sent, ← hw.queued, hposted, hw.idle hf houtstanding, List.append_nil, List.append_nil]

/-- However the handlers of the sessions are interleaved. What a session has done, with what
its running handler has still to do, is the script of its frames, whatever the others do. A
text is forwarded only to a session on which the user that was looked for has authenticated,
and at most once for each search. What is written to a client, is queued for it and waits on
its strand are the texts posted to it, in order, and all of them are written before the
session is gone, unless a write has failed. And a frame on a session that reads ends the
process exactly if its handler raises for the user that the frames before it have left. -/
theorem conversations_exact (lib : Libraries) (ls : List Label) (c : Concurrent)
    (h : Run (step lib) Anything start ls c) :
    (∀ k, (doneBy k (done lib ls)).filter Action.scripted ++ (c.todo k).filter Action.scripted =
      script lib "" (framesOn k ls)) ∧
    (∀ k r text, (k, .forward r text) ∈ done lib ls → Authorised (done lib ls) k r text) ∧
    (∀ k, ((doneBy k (done lib ls)).filterMap Action.forwards?).Sublist
      ((doneBy k (done lib ls)).filterMap Action.finds?)) ∧
    ∀ (j : ℕ) (session : WebSocketSession), c.state.sessions[j]? = some session →
      (session.writeSide.written ++ session.writeSide.writeQueue ++ session.writeSide.posted).map
        Buffer.payload = textsFor j (done lib ls) ∧
      (c.here j = false → session.writeSide.failed = false →
        session.writeSide.written.map Buffer.payload = textsFor j (done lib ls)) ∧
      (session.reading = true → c.handlers j = none → ∀ raw outcome,
        step lib c (.event (.frame j raw outcome)) = none ↔
          actions lib (userAfter lib "" (framesOn j ls)) raw outcome = none) := by
  have hi := conversing_of_run h
  refine ⟨hi.scripted.script, hi.forwarding.forwarded, fun k => ?_, fun j session hj => ?_⟩
  · have honce := hi.forwarding.once k
    rw [List.filterMap_append] at honce
    exact (List.sublist_append_left _ _).trans honce
  have hw := hi.delivered.writeSide session (List.mem_of_getElem? hj)
  have hsent : session.writeSide.sent.map Buffer.payload = textsFor j (done lib ls) := by
    have hall : c.state.sent j = textsFor j (done lib ls) := hi.delivered.sent j
    rw [← hall]
    simp [State.sent, hj]
  refine ⟨?_, fun hgone hf => ?_, fun hr hh raw outcome => ?_⟩
  · rw [hw.queued, hw.sent, hsent]
  · have halive : session.alive = false := by
      simp only [here, hj, Option.any_some, Bool.or_eq_false_iff] at hgone
      exact hgone.1
    rw [written_of_gone hw halive hf, hsent]
  · have huser : userAfter lib "" (framesOn j ls) = c.state.userId j := by
      rw [← hi.scripted.user j, todo_of_handlers hh]
      rfl
    simp [step, hj, hr, hh, huser]

/-- Two users authenticate, and the message of the first overtakes the reply to the second. -/
def overtaking : List Label :=
  [.event .connect, .event (.handshake 0 true), .event .connect, .event (.handshake 1 true),
    .event (.frame 0 (DeliverySample.auth (WebSample.uuidToString 1)).toByteArray ⟨true, 4, 0⟩),
    .act 0, .act 0, .act 0,
    .event (.frame 1 (DeliverySample.auth (WebSample.uuidToString 2)).toByteArray ⟨true, 4, 0⟩),
    .act 1, .event (.frame 0 DeliverySample.send.toByteArray ⟨true, 5, 20⟩), .act 0, .act 0, .act 0,
    .act 0, .act 1, .act 1, .event (.posted 1), .event (.posted 1), .event (.writeDone 1 0 true)]

theorem conversations_exact_overtaking :
    ∃ c session, Run (step DeliverySample.libraries) Anything start overtaking c ∧
      c.state.sessions[1]? = some session ∧
      session.writeSide.written.map Buffer.payload = [DeliverySample.delivered] ∧
      textsFor 1 (done DeliverySample.libraries overtaking) =
        [DeliverySample.delivered, MessageDispatcher.authOk] ∧
      Authorised (done DeliverySample.libraries overtaking) 0 1 DeliverySample.delivered := by
  obtain ⟨c, hrun, hmap, hforward⟩ : ∃ c,
      Run (step DeliverySample.libraries) Anything start overtaking c ∧
      (c.state.sessions[1]?).map (fun session => (session.writeSide.written.map Buffer.payload,
          session.writeSide.writeQueue.map Buffer.payload,
          session.writeSide.posted.map Buffer.payload)) =
        some ([DeliverySample.delivered], [MessageDispatcher.authOk], []) ∧
      (0, .forward 1 DeliverySample.delivered) ∈ done DeliverySample.libraries overtaking :=
    exists_run _ (by decide +kernel)
  obtain ⟨session, hsession, hfields⟩ := Option.map_eq_some_iff.mp hmap
  obtain ⟨hwritten, hrest⟩ := Prod.mk.inj hfields
  obtain ⟨hqueue, hposted⟩ := Prod.mk.inj hrest
  obtain ⟨-, hauthorised, -, hdelivered⟩ := conversations_exact _ _ _ hrun
  obtain ⟨htexts, -⟩ := hdelivered 1 session hsession
  refine ⟨c, session, hrun, hsession, hwritten, ?_, hauthorised 0 1 _ hforward⟩
  rw [← htexts, List.map_append, List.map_append, hwritten, hqueue, hposted]
  rfl

end Concurrent

end UserKeyed

end Svitock
