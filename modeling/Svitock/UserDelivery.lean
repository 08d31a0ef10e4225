import Mathlib.Data.List.TakeWhile
import Svitock.UserConversation

/-!
# Store before acknowledge

The history of the user-keyed server while the handlers of its sessions run at the same
time. Every event in it comes from the handler of a session; what one handler has done is
decided by its frame and by the user that was authenticated last on its session.
-/

namespace Svitock

open ByteString Transition

namespace UserKeyed

namespace Event

def isFrame : Event → Bool
  | frame _ _ => true
  | _ => false

def create? : Event → Option (StoredMessage × Bool)
  | create message stored => some (message, stored)
  | _ => none

def queued? : Event → Option (ℕ × String)
  | queued k text => some (k, text)
  | _ => none

def names? (lib : Libraries) : Event → Option String
  | frame _ raw => authenticates lib raw
  | _ => none

end Event

/-- What an action of session `k` adds to the history. -/
def Action.event? (k : ℕ) : Action → Option Event
  | create message stored => some (.create message stored)
  | reply text => some (.queued k text)
  | forward recipient text => some (.queued recipient text)
  | _ => none

namespace Concurrent

/-- Shows what a step adds to the history, with the session whose handler does it. -/
def noted (c : Concurrent) : Label → List (ℕ × Event)
  | .event (.frame k raw _) => [(k, .frame k raw)]
  | .event _ => []
  | .act k => ((c.todo k).head?.bind (Action.event? k)).toList.map (k, ·)

def history (lib : Libraries) (ls : List Label) : List (ℕ × Event) :=
  observe (step lib) noted start ls

end Concurrent

/-- The events of the handlers of session `k`. -/
def own (k : ℕ) (seen : List (ℕ × Event)) : List Event := (seen.filter (·.1 = k)).map Prod.snd

/-- The user id that an `auth` frame has set last, by the events of a session. -/
def lastAuth (lib : Libraries) (events : List Event) : String :=
  ((events.filterMap (Event.names? lib)).getLast?).getD ""

/-- What a handler leads to: the events of its session up to the next frame there. -/
def handling (after : List Event) : List Event := after.takeWhile fun event => !event.isFrame

def creates (events : List Event) : List (StoredMessage × Bool) := events.filterMap Event.create?

/-- The text is the event for a message that the handler of session `k` has had stored for the
frame it is handling. -/
def Acknowledges (lib : Libraries) (k : ℕ) (before : List Event) (text : String) : Prop :=
  ∃ earlier raw between m, before = earlier ++ Event.frame k raw :: between ∧
    (∀ event ∈ between, event.isFrame = false) ∧ Event.create m true ∈ between ∧
    Sends lib (lastAuth lib earlier) raw m ∧ text = deliveredText lib (lastAuth lib earlier) raw

/-- What the handler of a frame may lead to, by the user of its session. -/
structure Accounted (lib : Libraries) (before : List Event) (k : ℕ) (raw : ByteArray)
    (handled : List Event) : Prop where
  once : (creates handled).length ≤ 1
  never : (lib.parse raw).text "type" ≠ "send_message" ∨ chatOf lib raw = "" ∨
    textOf lib raw = "" ∨ lastAuth lib before = "" → creates handled = []
  refused : ∀ m, Event.create m false ∈ handled → ∀ j text, Event.queued j text ∈ handled → j = k

/-- What the handler of a frame does from its start to its end when `user` is authenticated. -/
inductive Handled (lib : Libraries) (user : String) (raw : ByteArray) : List Action → Prop
  | silent : Handled lib user raw []
  | reply {text : String} (ht : text ∈ MessageDispatcher.replies) :
      Handled lib user raw [.reply text]
  | auth {name : String} : Handled lib user raw [.register name, .reply MessageDispatcher.authOk]
  | refused {m : StoredMessage} (hs : Sends lib user raw m) : Handled lib user raw
      [.create m false, .reply (MessageDispatcher.errorText "message not stored")]
  | delivered {m : StoredMessage} (hs : Sends lib user raw m) :
      Handled lib user raw [.create m true, .reply (deliveredText lib user raw)]
  | searched {m : StoredMessage} {name : String} (hs : Sends lib user raw m) :
      Handled lib user raw [.create m true, .reply (deliveredText lib user raw),
        .find name (deliveredText lib user raw)]
  | forwarded {m : StoredMessage} {name : String} {recipient : ℕ} (hs : Sends lib user raw m) :
      Handled lib user raw [.create m true, .reply (deliveredText lib user raw),
        .find name (deliveredText lib user raw),
        .forward recipient (deliveredText lib user raw)]

/-- The events of session `k`: its frames, each with what its handler has done, of which the
last may have something still to do. -/
inductive History (lib : Libraries) (k : ℕ) : List Event → List Action → Prop
  | nil : History lib k [] []
  | frame {events : List Event} {raw : ByteArray} {did todo : List Action}
      (h : History lib k events [])
      (hh : Handled lib (lastAuth lib events) raw (did ++ todo)) :
      History lib k (events ++ Event.frame k raw :: did.filterMap (Action.event? k)) todo

variable {lib : Libraries} {s s' : State} {user : String} {k j : ℕ} {raw : ByteArray}
  {outcome : Outcome} {events : List Event} {acts todo : List Action}

namespace Request

theorem sends_of_read {chatId toUserId text : String}
    (h : read (lib.parse raw) = .ok (.sendMessage chatId toUserId text)) :
    (lib.parse raw).text "type" = "send_message" ∧ chatOf lib raw = chatId ∧
      textOf lib raw = text := by
  by_cases hparse : lib.parse raw = .discarded
  · rw [hparse] at h
    cases h
  rw [read_of_ne hparse, readParsed] at h
  split at h
  · cases h
  · next type hvalue =>
    have htype := Json.text_of_value hvalue
    split_ifs at h with hauth hsend hlogged hping
    · cases huser : (lib.parse raw).value "user_id" "" with
      | error e =>
        rw [huser] at h
        cases h
      | ok userId =>
        rw [huser] at h
        cases h
    · cases hfields : MessageDispatcher.sendFields (lib.parse raw) with
      | error e =>
        rw [hfields] at h
        cases h
      | ok fields =>
        rw [hfields] at h
        obtain ⟨c, t, x⟩ := fields
        cases h
        obtain ⟨hc, payload, hp, hx⟩ := MessageDispatcher.sendFields_eq_ok hfields
        refine ⟨htype.trans hsend, Json.text_of_value hc, ?_⟩
        rw [textOf, Json.getD_of_valueJson hp, Json.text_of_value hx]
    all_goals cases h

end Request

theorem handled_of_actions (h : actions lib user raw outcome = some acts) :
    Handled lib user raw acts := by
  unfold actions at h
  split at h
  · cases h
  next request hread =>
  cases request with
  | invalid =>
    obtain rfl := Option.some.inj h
    exact .reply (by simp [MessageDispatcher.replies])
  | auth userId =>
    simp only [Request.actions] at h
    split_ifs at h
    · obtain rfl := Option.some.inj h
      exact .reply (by simp [MessageDispatcher.replies])
    · obtain rfl := Option.some.inj h
      exact .auth
  | sendMessage chatId toUserId text =>
    obtain ⟨htype, rfl, rfl⟩ := Request.sends_of_read hread
    simp only [Request.actions] at h
    split_ifs at h with hempty huser hstored hto
    · obtain rfl := Option.some.inj h
      exact .reply (by simp [MessageDispatcher.replies])
    · obtain rfl := Option.some.inj h
      exact .reply (by simp [MessageDispatcher.replies])
    all_goals
      split at h
      · next chat sender hchatId hsenderId =>
        have hsends : Sends lib user raw
            ⟨outcome.id, chat, sender, ofString (textOf lib raw), outcome.now⟩ :=
          ⟨htype, (not_or.mp hempty).1, (not_or.mp hempty).2, huser, hchatId, hsenderId, rfl⟩
        obtain rfl := Option.some.inj h
        -- a constructor for each of the three lists of actions that are left
        constructor
        exact hsends
      · cases h
  | logged =>
    obtain rfl := Option.some.inj h
    exact .silent
  | ping =>
    obtain rfl := Option.some.inj h
    exact .reply (by simp [MessageDispatcher.replies])
  | unsupported =>
    obtain rfl := Option.some.inj h
    exact .reply (by simp [MessageDispatcher.replies])

theorem Handled.find {did rest : List Action} {name text : String}
    (h : Handled lib user raw (did ++ .find name text :: rest))
    (hrest : ∀ a ∈ rest, a.scripted = true) :
    rest = [] ∧ ∀ r, Handled lib user raw (did ++ [.find name text, .forward r text]) := by
  generalize hacts : did ++ .find name text :: rest = acts at h
  -- a `find` is the third action, and before the search nothing is forwarded
  rcases did with _ | ⟨first, _ | ⟨second, _ | ⟨third, did⟩⟩⟩
  · cases h <;> simp at hacts
  · cases h <;> simp at hacts
  · cases h with
    | @searched m name' hs =>
      simp only [List.cons_append, List.nil_append, List.cons.injEq, Action.find.injEq] at hacts
      obtain ⟨rfl, rfl, ⟨rfl, rfl⟩, rfl⟩ := hacts
      exact ⟨rfl, fun r => .forwarded hs⟩
    | @forwarded m name' r hs =>
      simp only [List.cons_append, List.nil_append, List.cons.injEq, Action.find.injEq] at hacts
      obtain ⟨rfl, rfl, ⟨rfl, rfl⟩, rfl⟩ := hacts
      cases hrest _ List.mem_cons_self
    | _ => simp at hacts
  · cases h <;> simp [List.append_eq_cons_iff] at hacts

theorem isFrame_of_actions {event : Event} (h : event ∈ acts.filterMap (Action.event? k)) :
    event.isFrame = false := by
  obtain ⟨action, -, haction⟩ := List.mem_filterMap.mp h
  cases action <;> cases haction <;> rfl

def Justified (lib : Libraries) (k : ℕ) (before : List Event) : Event → Prop
  | .queued _ text => text ∈ MessageDispatcher.replies ∨ Acknowledges lib k before text
  | _ => True

theorem acknowledges_of_sends {m : StoredMessage} (hs : Sends lib (lastAuth lib events) raw m)
    {between : List Event} (hbetween : ∀ event ∈ between, event.isFrame = false)
    (hm : Event.create m true ∈ between) :
    Acknowledges lib k (events ++ Event.frame k raw :: between)
      (deliveredText lib (lastAuth lib events) raw) :=
  ⟨events, raw, between, m, rfl, hbetween, hm, hs, rfl⟩

theorem Handled.justified (h : Preceded (Justified lib k) events)
    (hh : Handled lib (lastAuth lib events) raw acts) :
    Preceded (Justified lib k)
      (events ++ Event.frame k raw :: acts.filterMap (Action.event? k)) := by
  have hframe : Preceded (Justified lib k) (events ++ [Event.frame k raw]) := h.snoc trivial
  have hcreate (m : StoredMessage) (stored : Bool) :
      Preceded (Justified lib k) (events ++ [Event.frame k raw] ++ [Event.create m stored]) :=
    hframe.snoc trivial
  have hreply {text : String} (ht : text ∈ MessageDispatcher.replies) :
      Preceded (Justified lib k) (events ++ [Event.frame k raw] ++ [Event.queued k text]) :=
    hframe.snoc (.inl ht)
  have hdelivered {m : StoredMessage} (hs : Sends lib (lastAuth lib events) raw m) :
      Preceded (Justified lib k) (events ++ [Event.frame k raw] ++ [Event.create m true] ++
        [Event.queued k (deliveredText lib (lastAuth lib events) raw)]) := by
    refine (hcreate m true).snoc (.inr ?_)
    have hack : Acknowledges lib k (events ++ Event.frame k raw :: [.create m true])
        (deliveredText lib (lastAuth lib events) raw) :=
      acknowledges_of_sends hs (by simp [Event.isFrame]) (by simp)
    simpa using hack
  cases hh with
  | silent => exact hframe
  | reply ht => simpa [Action.event?, List.filterMap_cons] using hreply ht
  | auth =>
    have hok : MessageDispatcher.authOk ∈ MessageDispatcher.replies := by
      simp [MessageDispatcher.replies]
    simpa [Action.event?, List.filterMap_cons] using hreply hok
  | @refused m hs =>
    have hrefused : Preceded (Justified lib k) (events ++ [Event.frame k raw] ++
        [Event.create m false] ++
        [Event.queued k (MessageDispatcher.errorText "message not stored")]) :=
      (hcreate m false).snoc (.inl (by simp [MessageDispatcher.replies]))
    simpa [Action.event?, List.filterMap_cons] using hrefused
  | delivered hs => simpa [Action.event?, List.filterMap_cons] using hdelivered hs
  | searched hs => simpa [Action.event?, List.filterMap_cons] using hdelivered hs
  | @forwarded m name recipient hs =>
    have hforwarded : Preceded (Justified lib k) (events ++ [Event.frame k raw] ++
        [Event.create m true] ++ [Event.queued k (deliveredText lib (lastAuth lib events) raw)] ++
        [Event.queued recipient (deliveredText lib (lastAuth lib events) raw)]) := by
      refine (hdelivered hs).snoc (.inr ?_)
      have hack : Acknowledges lib k (events ++ Event.frame k raw ::
          [.create m true, .queued k (deliveredText lib (lastAuth lib events) raw)])
          (deliveredText lib (lastAuth lib events) raw) :=
        acknowledges_of_sends hs (by simp [Event.isFrame]) (by simp)
      simpa using hack
    simpa [Action.event?, List.filterMap_cons] using hforwarded

theorem Handled.accounted (h : Handled lib (lastAuth lib events) raw acts) :
    Accounted lib events k raw (acts.filterMap (Action.event? k)) := by
  have hsends {m : StoredMessage} (hs : Sends lib (lastAuth lib events) raw m) :
      ¬ ((lib.parse raw).text "type" ≠ "send_message" ∨ chatOf lib raw = "" ∨
        textOf lib raw = "" ∨ lastAuth lib events = "") := by
    simp [hs.type, hs.chat, hs.text, hs.authenticated]
  cases h with
  | silent | reply _ | auth =>
    exact ⟨Nat.zero_le 1, fun _ => rfl, by simp [Action.event?]⟩
  | refused hs =>
    refine ⟨Nat.le_refl 1, fun hnot => absurd hnot (hsends hs), ?_⟩
    intro m _ j text hmem
    simp only [List.filterMap_cons, Action.event?, List.filterMap_nil, List.mem_cons,
      reduceCtorEq, Event.queued.injEq, false_or, List.not_mem_nil, or_false] at hmem
    exact hmem.1
  | delivered hs | searched hs | forwarded hs =>
    exact ⟨Nat.le_refl 1, fun hnot => absurd hnot (hsends hs), by simp [Action.event?]⟩

theorem Accounted.left {handled more : List Event}
    (h : Accounted lib events k raw (handled ++ more)) : Accounted lib events k raw handled where
  once := by
    have honce := h.once
    rw [creates, List.filterMap_append, List.length_append] at honce
    exact Nat.le_of_add_right_le honce
  never hnot := by
    have hnone := h.never hnot
    rw [creates, List.filterMap_append] at hnone
    exact (List.append_eq_nil_iff.mp hnone).1
  refused m hm j text ht :=
    h.refused m (List.mem_append_left more hm) j text (List.mem_append_left more ht)

theorem History.justified (h : History lib k events todo) : Preceded (Justified lib k) events := by
  induction h with
  | nil => exact preceded_nil
  | @frame events raw did todo _ hh ih =>
    have hall := hh.justified ih
    rw [List.filterMap_append, ← List.cons_append, ← List.append_assoc] at hall
    exact hall.left

theorem handling_eq (did : List Action) :
    handling (did.filterMap (Action.event? k)) = did.filterMap (Action.event? k) := by
  apply List.takeWhile_eq_self_iff.mpr
  intro event hmem
  simp [isFrame_of_actions hmem]

theorem handling_append_frame (events new : List Event) :
    handling (events ++ Event.frame k raw :: new) = handling events := by
  induction events with
  | nil => rfl
  | cons event events ih =>
    simp only [handling, List.cons_append, List.takeWhile_cons] at ih ⊢
    rw [ih]

theorem History.accounted (h : History lib k events todo) :
    ∀ before j raw after, events = before ++ Event.frame j raw :: after →
      j = k ∧ Accounted lib before k raw (handling after) := by
  induction h with
  | nil => simp
  | @frame events raw' did todo _ hh ih =>
    intro before j raw after hevents
    have hlast (hlast : Event.frame k raw' :: did.filterMap (Action.event? k) =
        .frame j raw :: after) : j = k ∧ Accounted lib events k raw (handling after) := by
      obtain ⟨hframe, rfl⟩ := List.cons.inj hlast
      obtain ⟨rfl, rfl⟩ := Event.frame.inj hframe
      have hall := hh.accounted (k := k)
      rw [List.filterMap_append] at hall
      rw [handling_eq]
      exact ⟨rfl, hall.left⟩
    rcases List.append_eq_append_iff.mp hevents with ⟨rest, rfl, hrest⟩ | ⟨rest, rfl, hrest⟩
    · cases rest with
      | nil =>
        rw [List.append_nil]
        exact hlast hrest
      | cons event rest =>
        -- no other frame comes after the last one
        rw [List.cons_append] at hrest
        obtain ⟨-, hrest⟩ := List.cons.inj hrest
        have hmem : Event.frame j raw ∈ did.filterMap (Action.event? k) := by simp [hrest]
        cases isFrame_of_actions hmem
    · cases rest with
      | nil =>
        rw [List.append_nil] at hlast
        exact hlast hrest.symm
      | cons event rest =>
        rw [List.cons_append] at hrest
        obtain ⟨rfl, rfl⟩ := List.cons.inj hrest
        rw [handling_append_frame]
        exact ih before j raw rest rfl

theorem History.act {action : Action} {rest : List Action}
    (h : History lib k events (action :: rest))
    (hh : ∀ user raw did, Handled lib user raw (did ++ action :: rest) →
      Handled lib user raw (did ++ [action] ++ todo)) :
    History lib k (events ++ (action.event? k).toList) todo := by
  cases h with
  | @frame events raw did _ h hdid =>
    have hframe := h.frame (hh _ _ _ hdid)
    rw [List.filterMap_append] at hframe
    rw [List.append_assoc, List.cons_append]
    have hone : [action].filterMap (Action.event? k) = (action.event? k).toList := by
      cases haction : action.event? k <;> simp [haction]
    rwa [hone] at hframe

theorem own_append (k : ℕ) (seen new : List (ℕ × Event)) :
    own k (seen ++ new) = own k seen ++ own k new := by
  simp [own]

theorem own_tagged (k j : ℕ) (events : List Event) :
    own j (events.map (k, ·)) = if k = j then events else [] := by
  by_cases hj : k = j <;> simp [own, List.filter_map, Function.comp_def, hj]

theorem lastAuth_frame : lastAuth lib (events ++ [Event.frame k raw]) =
    (authenticates lib raw).getD (lastAuth lib events) := by
  unfold lastAuth
  rw [List.filterMap_append]
  cases ha : authenticates lib raw <;> simp [Event.names?, ha]

theorem lastAuth_event? (action : Action) :
    lastAuth lib (events ++ (action.event? k).toList) = lastAuth lib events := by
  unfold lastAuth
  rw [List.filterMap_append]
  cases action <;> simp [Action.event?, Event.names?]

theorem log_of_step {l : Label} (hl : l.isFrame = false) (h : step lib s l = some s') :
    s'.log = s.log := by
  cases step_cases h with
  | frame _ _ _ => cases hl
  | _ => rfl

namespace Concurrent

variable {c c' : Concurrent} {l : Label} {ls : List Label} {seen : List (ℕ × Event)}

structure Recorded (lib : Libraries) (ls : List Label) (seen : List (ℕ × Event))
    (c : Concurrent) : Prop where
  log : seen.map Prod.snd = c.state.log
  own : ∀ k, History lib k (own k seen) (c.todo k)
  user : ∀ k, lastAuth lib (UserKeyed.own k seen) = userAfter lib "" (framesOn k ls)

theorem recorded_start : Recorded lib [] [] start := ⟨rfl, fun _ => .nil, fun _ => rfl⟩

theorem Recorded.of_same (h : Recorded lib ls seen c) (hlog : c'.state.log = c.state.log)
    (ht : ∀ k, c'.todo k = c.todo k) (hf : ∀ k, framesOn k [l] = []) :
    Recorded lib (ls ++ [l]) seen c' where
  log := by rw [h.log, hlog]
  own k := by
    rw [ht]
    exact h.own k
  user k := by rw [framesOn_snoc, hf, List.append_nil, h.user]

theorem Recorded.frame (h : Recorded lib ls seen c) (hh : c.handlers k = none)
    (hu : c.state.userId k = lastAuth lib (UserKeyed.own k seen))
    (ha : actions lib (c.state.userId k) raw outcome = some acts) :
    Recorded lib (ls ++ [.event (.frame k raw outcome)]) (seen ++ [(k, .frame k raw)])
      ⟨{ c.state with log := c.state.log ++ [Event.frame k raw] },
        Function.update c.handlers k (some acts)⟩ := by
  have hown (j : ℕ) : UserKeyed.own j (seen ++ [(k, Event.frame k raw)]) =
      UserKeyed.own j seen ++ if k = j then [Event.frame k raw] else [] := by
    rw [own_append]
    exact congrArg _ (own_tagged k j [Event.frame k raw])
  refine ⟨by simp [h.log], fun j => ?_, fun j => ?_⟩
  · rw [hown, todo_update]
    by_cases hj : k = j
    · subst hj
      have hidle := h.own k
      rw [todo_of_handlers hh] at hidle
      rw [hu] at ha
      rw [if_pos rfl, if_pos rfl]
      have hnew : Handled lib (lastAuth lib (UserKeyed.own k seen)) raw ([] ++ acts) :=
        handled_of_actions ha
      exact hidle.frame hnew
    · rw [if_neg hj, if_neg (Ne.symm hj), List.append_nil]
      exact h.own j
  · rw [hown]
    by_cases hj : k = j
    · subst hj
      rw [if_pos rfl, lastAuth_frame, framesOn_frame, userAfter_snoc, h.user]
    · rw [if_neg hj, List.append_nil, framesOn_frame_of_ne hj, h.user]

theorem log_perform (c : Concurrent) (k : ℕ) (rest : List Action) (action : Action) :
    (c.perform k rest action).state.log = c.state.log ++ (action.event? k).toList := by
  cases action with
  | register user => exact (List.append_nil _).symm
  | find user text => exact (List.append_nil _).symm
  | _ => rfl

theorem Recorded.act {action : Action} {rest : List Action} (h : Recorded lib ls seen c)
    (hh : c.handlers k = some (action :: rest)) (hrest : ∀ a ∈ rest, a.scripted = true) :
    Recorded lib (ls ++ [.act k]) (seen ++ (action.event? k).toList.map (k, ·))
      (c.perform k rest action) := by
  have hown (j : ℕ) : UserKeyed.own j (seen ++ (action.event? k).toList.map (k, ·)) =
      UserKeyed.own j seen ++ if k = j then (action.event? k).toList else [] := by
    rw [own_append, own_tagged]
  refine ⟨?_, fun j => ?_, fun j => ?_⟩
  · rw [log_perform, List.map_append, h.log, List.map_map]
    simp
  · rw [hown, todo_perform]
    by_cases hj : k = j
    · subst hj
      have hbefore := h.own k
      rw [todo_of_handlers hh] at hbefore
      rw [if_pos rfl, if_pos rfl]
      refine hbefore.act fun user raw did hdid => ?_
      cases action with
      | find name text =>
        obtain ⟨rfl, hforward⟩ := hdid.find hrest
        cases hfound : c.findSession name with
        | none => simpa [next, hfound] using hdid
        | some r => simpa [next, hfound] using hforward r
      | _ => simpa [next] using hdid
    · rw [if_neg hj, if_neg (Ne.symm hj), List.append_nil]
      exact h.own j
  · rw [hown, framesOn_act]
    by_cases hj : k = j
    · rw [if_pos hj, lastAuth_event?, h.user]
    · rw [if_neg hj, List.append_nil, h.user]

theorem noted_act {action : Action} {rest : List Action}
    (hh : c.handlers k = some (action :: rest)) :
    c.noted (.act k) = (action.event? k).toList.map (k, ·) := by
  simp [noted, todo, hh]

theorem noted_read (hh : c.handlers k = some []) : c.noted (.act k) = [] := by
  simp [noted, todo, hh]

theorem recorded_of_run (h : Run (step lib) Anything start ls c) :
    Recorded lib ls (history lib ls) c := by
  induction h with
  | nil => exact recorded_start
  | @snoc ls l c c' hrun _ hs ih =>
    have hi := conversing_of_run hrun
    rw [history, observe_snoc hrun]
    cases step_cases hs with
    | @frame k raw outcome session acts _ _ hh ha =>
      refine ih.frame hh ?_ ha
      -- no handler is running, so the session has the user of its last `auth` frame
      rw [ih.user k, ← hi.scripted.user k, todo_of_handlers hh]
      rfl
    | @event l state hl hstate =>
      have hnone : c.noted (.event l) = [] := by
        cases l with
        | frame k raw outcome => cases hl
        | _ => rfl
      rw [hnone, List.append_nil]
      refine ih.of_same (log_of_step hl hstate) (fun k => rfl) fun k => ?_
      cases l with
      | frame k raw outcome => cases hl
      | _ => rfl
    | read hh =>
      rw [noted_read hh, List.append_nil]
      exact ih.of_same rfl (todo_read hh) fun _ => rfl
    | @act k action rest hh =>
      rw [noted_act hh]
      refine ih.act hh fun a ha => hi.forwarding.head k a ?_
      rw [todo_of_handlers hh]
      exact ha

theorem own_of_mid {before after : List (ℕ × Event)} {event : Event}
    (h : seen = before ++ (k, event) :: after) :
    UserKeyed.own k seen = UserKeyed.own k before ++ event :: UserKeyed.own k after := by
  simp [h, UserKeyed.own]

/-- However the handlers of the sessions are interleaved. Every text that a handler queues, on
whichever session, is a fixed reply or the event of a message that this handler has had stored
before, with the chat and the text of its frame and the user who was authenticated last on its
session. The handler of a frame makes at most one call of `create`, and none unless the frame is
a `send_message` with a chat and a text from an authenticated session; if the message is refused,
the handler queues texts to nobody but the sender. -/
theorem store_before_acknowledge (lib : Libraries) (ls : List Label) (c : Concurrent)
    (h : Run (step lib) Anything start ls c) :
    (history lib ls).map Prod.snd = c.state.log ∧
    (∀ before k j text after, history lib ls = before ++ (k, .queued j text) :: after →
      text ∈ MessageDispatcher.replies ∨ Acknowledges lib k (own k before) text) ∧
    ∀ before k j raw after, history lib ls = before ++ (k, .frame j raw) :: after →
      j = k ∧ Accounted lib (own k before) k raw (handling (own k after)) := by
  have hi := recorded_of_run h
  refine ⟨hi.log, fun before k j text after hh => ?_, fun before k j raw after hh => ?_⟩
  · exact (hi.own k).justified _ _ _ (own_of_mid hh)
  · exact (hi.own k).accounted _ _ _ _ (own_of_mid hh)

/-- The first message of a user is refused. The second one is stored and forwarded while the
other user sends a message too. -/
def crossing : List Label :=
  [.event .connect, .event (.handshake 0 true), .event .connect, .event (.handshake 1 true),
    .event (.frame 0 (DeliverySample.auth (WebSample.uuidToString 1)).toByteArray ⟨true, 4, 0⟩),
    .event (.frame 1 (DeliverySample.auth (WebSample.uuidToString 2)).toByteArray ⟨true, 4, 0⟩),
    .act 0, .act 1, .act 1, .act 0, .act 0, .act 1,
    .event (.frame 0 DeliverySample.send.toByteArray ⟨false, 4, 10⟩), .act 0, .act 0, .act 0,
    .event (.frame 0 DeliverySample.send.toByteArray ⟨true, 5, 20⟩), .act 0, .act 0,
    .event (.frame 1 DeliverySample.send.toByteArray ⟨true, 6, 30⟩), .act 1, .act 0, .act 1, .act 0]

theorem store_before_acknowledge_crossing :
    ∃ c before, Run (step DeliverySample.libraries) Anything start crossing c ∧
      history DeliverySample.libraries crossing =
        before ++ [(0, .queued 1 DeliverySample.delivered)] ∧
      before.map Prod.fst = [0, 1, 1, 0, 0, 0, 0, 0, 0, 0, 1, 1, 1] ∧
      creates c.state.log = [(⟨4, 3, 1, ofString "hi", 10⟩, false),
        (⟨5, 3, 1, ofString "hi", 20⟩, true), (⟨6, 3, 2, ofString "hi", 30⟩, true)] ∧
      Acknowledges DeliverySample.libraries 0 (own 0 before) DeliverySample.delivered := by
  obtain ⟨c, hrun, hcreates⟩ : ∃ c,
      Run (step DeliverySample.libraries) Anything start crossing c ∧
      creates c.state.log = [(⟨4, 3, 1, ofString "hi", 10⟩, false),
        (⟨5, 3, 1, ofString "hi", 20⟩, true), (⟨6, 3, 2, ofString "hi", 30⟩, true)] :=
    exists_run _ (by decide +kernel)
  have hsessions : (history DeliverySample.libraries crossing).map Prod.fst =
    [0, 1, 1, 0, 0, 0, 0, 0, 0, 0, 1, 1, 1, 0] := by decide +kernel
  have hlast : (history DeliverySample.libraries crossing).getLast?.map (fun x =>
    (x.1, x.2.queued?)) = some (0, some (1, DeliverySample.delivered)) := by decide +kernel
  obtain ⟨⟨k, event⟩, hevent, hfields⟩ := Option.map_eq_some_iff.mp hlast
  obtain ⟨rfl, hqueued⟩ := Prod.mk.inj hfields
  obtain ⟨before, hhistory⟩ := List.getLast?_eq_some_iff.mp hevent
  obtain rfl : event = .queued 1 DeliverySample.delivered := by
    cases event <;> cases hqueued
    rfl
  obtain ⟨-, hqueued, -⟩ := store_before_acknowledge DeliverySample.libraries crossing c hrun
  refine ⟨c, before, hrun, hhistory, ?_, hcreates, ?_⟩
  · rw [hhistory, List.map_append] at hsessions
    exact (List.append_inj' hsessions rfl).1
  · apply (hqueued before 0 1 DeliverySample.delivered [] hhistory).resolve_left
    decide +kernel

end Concurrent

end UserKeyed

end Svitock
