import Svitock.StorageLeg

namespace Svitock

open Transition

def authUser? (lib : Libraries) (f : Frame) : Option String :=
  match MessageDispatcher.dispatch lib f.sessionId f.raw with
  | .ok (some ⟨_, .authEvent event⟩) => some event.userId
  | _ => none

def lastAuth (lib : Libraries) (frames : List Frame) (i : ℕ) : Option String :=
  ((frames.filter fun f => f.session == i).filterMap (authUser? lib)).getLast?

/-- Not a message whose two ids are UUIDs, or one whose sender is the user that its
session last authenticated as. -/
def vouched (lib : Libraries) (before : List Frame) (f : Frame) : Bool :=
  !((lib.parse f.raw).isObject && MessageDispatcher.wellTyped (lib.parse f.raw) &&
      (lib.parse f.raw).text "type" == "send_message" &&
      (lib.stringGenerator ((lib.parse f.raw).text "chat_id")).isSome &&
      (lib.stringGenerator ((lib.parse f.raw).text "sender_id")).isSome) ||
    match lastAuth lib before f.session with
    | some user => user != "" &&
        lib.stringGenerator user == lib.stringGenerator ((lib.parse f.raw).text "sender_id")
    | none => false

theorem lastAuth_mem {lib : Libraries} {frames : List Frame} {i : ℕ} {user : String}
    (h : lastAuth lib frames i = some user) :
    ∃ f ∈ frames, f.session = i ∧ authUser? lib f = some user := by
  obtain ⟨f, hf, hu⟩ := List.mem_filterMap.mp (List.mem_of_getLast? h)
  obtain ⟨hmem, hi⟩ := List.mem_filter.mp hf
  exact ⟨f, hmem, by simpa using hi, hu⟩

theorem lastAuth_of_vouched {lib : Libraries} {before : List Frame} {f : Frame} {chat sender : Uuid}
    (h : vouched lib before f = true) (ho : (lib.parse f.raw).isObject = true)
    (hw : MessageDispatcher.wellTyped (lib.parse f.raw) = true)
    (ht : (lib.parse f.raw).text "type" = "send_message")
    (hc : lib.stringGenerator ((lib.parse f.raw).text "chat_id") = some chat)
    (hs : lib.stringGenerator ((lib.parse f.raw).text "sender_id") = some sender) :
    ∃ user, lastAuth lib before f.session = some user ∧ user ≠ "" ∧
      lib.stringGenerator user = some sender := by
  simp only [vouched, ho, hw, ht, hc, hs, beq_self_eq_true, Option.isSome_some, Bool.and_self,
    Bool.not_true, Bool.false_or] at h
  split at h
  · next user hu => exact ⟨user, hu, by simpa using h⟩
  · cases h

namespace Server

variable {cfg : Config} {w : Server} {ls : List Label}

/-- Every stored message has as its sender the user of the most recent `auth` frame
of its session, and a session without an `auth` frame that names a user stores
nothing. -/
def SenderAuthentic (cfg : Config) (w : Server) : Prop :=
  (∀ c ∈ w.creates, ∃ f user, w.frames[c.origin]? = some f ∧
    lastAuth cfg.lib (w.frames.take c.origin) f.session = some user ∧
    cfg.lib.stringGenerator user = some c.value.senderId) ∧
  ∀ i, (∀ f ∈ w.frames, f.session = i → ∀ user, authUser? cfg.lib f = some user → user = "") →
    ∀ c ∈ w.creates, ∀ f, w.frames[c.origin]? = some f → f.session ≠ i

theorem create_stems_from_frame (h : Runs cfg (run cfg) ls w) {c : Traced Message}
    (hc : c ∈ w.creates) : ∃ f, w.frames[c.origin]? = some f ∧
      (cfg.lib.parse f.raw).isObject = true ∧
      MessageDispatcher.wellTyped (cfg.lib.parse f.raw) = true ∧
      (cfg.lib.parse f.raw).text "type" = "send_message" ∧
      cfg.lib.stringGenerator ((cfg.lib.parse f.raw).text "chat_id") = some c.value.chatId ∧
      cfg.lib.stringGenerator ((cfg.lib.parse f.raw).text "sender_id") = some c.value.senderId := by
  obtain ⟨event, hacc, hchat, hsender, -⟩ := create_stems_from_event h hc
  obtain ⟨f, hf, ho, hw, ht, rfl⟩ := (logInv_of_runs h).sendMessage hacc
  exact ⟨f, hf, ho, hw, ht, hchat, hsender⟩

/-- Senders are authentic in every run whose messages all name the user that their
session last authenticated as. -/
theorem senderAuthentic_of_vouched (h : Runs cfg (run cfg) ls w)
    (hv : ∀ o f, w.frames[o]? = some f → vouched cfg.lib (w.frames.take o) f = true) :
    SenderAuthentic cfg w := by
  have huser : ∀ c ∈ w.creates, ∃ f user, w.frames[c.origin]? = some f ∧
      lastAuth cfg.lib (w.frames.take c.origin) f.session = some user ∧ user ≠ "" ∧
      cfg.lib.stringGenerator user = some c.value.senderId := by
    intro c hc
    obtain ⟨f, hf, ho, hw, ht, hchat, hsender⟩ := create_stems_from_frame h hc
    obtain ⟨user, hu⟩ := lastAuth_of_vouched (hv c.origin f hf) ho hw ht hchat hsender
    exact ⟨f, user, hf, hu⟩
  refine ⟨fun c hc => ?_, fun i hi c hc f hf hfi => ?_⟩
  · obtain ⟨f, user, hf, hu, -, hs⟩ := huser c hc
    exact ⟨f, user, hf, hu, hs⟩
  · -- the `auth` frame that vouches for the message is one of the session's
    obtain ⟨g, user, hg, hu, hne, -⟩ := huser c hc
    obtain rfl : f = g := Option.some.inj (hf.symm.trans hg)
    obtain ⟨a, ha, has, hau⟩ := lastAuth_mem hu
    exact hne (hi a (List.mem_of_mem_take ha) (has.trans hfi) user hau)

theorem senderAuthentic_of_vouched_message :
    ∃ w, Runs (Sample.config [Sample.auth Sample.userId, Sample.greeting] 4 1)
        (run (Sample.config [Sample.auth Sample.userId, Sample.greeting] 4 1))
        (Sample.connect 0 ++ Sample.frame 0 (Sample.auth Sample.userId) ++
          Sample.frame 0 Sample.greeting ++ Sample.work 0 20) w ∧
      w.creates.length = 1 ∧
      SenderAuthentic (Sample.config [Sample.auth Sample.userId, Sample.greeting] 4 1) w := by
  obtain ⟨w, hrun, hlen, hv⟩ : ∃ w,
      Runs (Sample.config [Sample.auth Sample.userId, Sample.greeting] 4 1)
        (run (Sample.config [Sample.auth Sample.userId, Sample.greeting] 4 1))
        (Sample.connect 0 ++ Sample.frame 0 (Sample.auth Sample.userId) ++
          Sample.frame 0 Sample.greeting ++ Sample.work 0 20) w ∧
      w.creates.length = 1 ∧ ∀ x ∈ w.frames.zipIdx,
        vouched (Sample.libraries [Sample.auth Sample.userId, Sample.greeting])
          (w.frames.take x.2) x.1 = true := exists_run _ (by decide +kernel)
  refine ⟨w, hrun, hlen, senderAuthentic_of_vouched hrun fun o f hf => ?_⟩
  exact hv (f, o) (List.mem_zipIdx_iff_getElem?.mpr hf)

/-- A session that never authenticated stores a message, and one that did stores it
in another user's name. -/
theorem senders_are_not_authentic :
    (∃ w, Runs (Sample.config [Sample.greeting] 4 1) (run (Sample.config [Sample.greeting] 4 1))
        (Sample.connect 0 ++ Sample.frame 0 Sample.greeting ++ Sample.work 0 20) w ∧
      w.creates.map (·.origin) = [0] ∧ ¬ SenderAuthentic (Sample.config [Sample.greeting] 4 1) w) ∧
    ∃ w, Runs (Sample.config [Sample.auth Sample.otherId, Sample.greeting] 4 1)
        (run (Sample.config [Sample.auth Sample.otherId, Sample.greeting] 4 1))
        (Sample.connect 0 ++ Sample.frame 0 (Sample.auth Sample.otherId) ++
          Sample.frame 0 Sample.greeting ++ Sample.work 0 20) w ∧
      w.creates.map (·.origin) = [1] ∧
      ¬ SenderAuthentic (Sample.config [Sample.auth Sample.otherId, Sample.greeting] 4 1) w := by
  constructor
  · obtain ⟨w, hrun, horigins, hframes, hauth⟩ : ∃ w,
        Runs (Sample.config [Sample.greeting] 4 1) (run (Sample.config [Sample.greeting] 4 1))
          (Sample.connect 0 ++ Sample.frame 0 Sample.greeting ++ Sample.work 0 20) w ∧
        w.creates.map (·.origin) = [0] ∧ w.frames[0]?.map (·.session) = some 0 ∧
        lastAuth (Sample.libraries [Sample.greeting]) (w.frames.take 0) 0 = none :=
      exists_run _ (by decide +kernel)
    refine ⟨w, hrun, horigins, fun h => ?_⟩
    obtain ⟨c, hc, h0⟩ := List.mem_map.mp (horigins ▸ List.mem_singleton_self 0)
    obtain ⟨f, user, hf, hu, -⟩ := h.1 c hc
    rw [h0] at hf hu
    have hs : f.session = 0 := by simpa [hf] using hframes
    rw [hs] at hu
    cases hauth.symm.trans hu
  · obtain ⟨w, hrun, horigins, hframes, hauth, hsender⟩ : ∃ w,
        Runs (Sample.config [Sample.auth Sample.otherId, Sample.greeting] 4 1)
          (run (Sample.config [Sample.auth Sample.otherId, Sample.greeting] 4 1))
          (Sample.connect 0 ++ Sample.frame 0 (Sample.auth Sample.otherId) ++
            Sample.frame 0 Sample.greeting ++ Sample.work 0 20) w ∧
        w.creates.map (·.origin) = [1] ∧ w.frames[1]?.map (·.session) = some 0 ∧
        lastAuth (Sample.libraries [Sample.auth Sample.otherId, Sample.greeting])
          (w.frames.take 1) 0 = some Sample.otherId ∧
        ∀ c ∈ w.creates, c.value.senderId = 2 := exists_run _ (by decide +kernel)
    refine ⟨w, hrun, horigins, fun h => ?_⟩
    obtain ⟨c, hc, h1⟩ := List.mem_map.mp (horigins ▸ List.mem_singleton_self 1)
    obtain ⟨f, user, hf, hu, hs⟩ := h.1 c hc
    rw [h1] at hf hu
    have h0 : f.session = 0 := by simpa [hf] using hframes
    rw [h0] at hu
    obtain rfl := Option.some.inj (hauth.symm.trans hu)
    rw [hsender c hc] at hs
    revert hs
    decide +kernel

end Server

end Svitock
