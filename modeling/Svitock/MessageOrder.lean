import Svitock.Isolation
import Svitock.SequentialRefinement
import Svitock.StorageLeg

namespace Svitock

open ActorRuntime Transition

theorem filterMap_ite {α γ : Type*} (p : α → Prop) [DecidablePred p] (g : α → γ) (xs : List α) :
    (xs.filterMap fun x => if p x then some (g x) else none) =
      (xs.filter fun x => decide (p x)).map g := by
  induction xs with
  | nil => rfl
  | cons x xs ih => by_cases hx : p x <;> simp [hx, ih]

/-- In a prefix of a sorted list, a smaller element stands before a larger one. -/
theorem sublist_of_behind {α γ : Type*} {key : α → ℕ} {A : List α} {P : List γ} {g : γ → α}
    (hp : P.map g <+: A) (hs : A.Pairwise fun x y => key x < key y) {x : α} {y : γ} (hx : x ∈ A)
    (hy : y ∈ P) (hlt : key x < key (g y)) : ∃ z, g z = x ∧ [z, y].Sublist P := by
  obtain ⟨l, r, rfl⟩ := List.append_of_mem hy
  obtain ⟨t, rfl⟩ := hp
  rw [List.map_append, List.map_cons, List.append_assoc, List.cons_append] at hx hs
  -- `x` is not after `y`, where the keys are larger
  rcases List.mem_append.mp hx with hl | hr
  · obtain ⟨z, hz, rfl⟩ := List.mem_map.mp hl
    refine ⟨z, rfl, ?_⟩
    exact (List.singleton_sublist.mpr hz).append (List.singleton_sublist.mpr List.mem_cons_self)
  · rcases List.mem_cons.mp hr with rfl | hr
    · exact absurd hlt (lt_irrefl _)
    · have hafter := (List.pairwise_append.mp hs).2.1
      exact absurd hlt (Nat.lt_asymm ((List.pairwise_cons.mp hafter).1 x hr))

namespace Server

variable {cfg : Config} {w w' : Server} {l : Label} {ls : List Label} {i : ℕ}

def ownFrame (w : Server) (i : ℕ) (d : ℕ × Json) : Bool :=
  (w.frames[d.1]?).any fun f => f.session == i

def emittedTo (w : Server) (i : ℕ) : List (ℕ × Json) :=
  addressed (sessionIdOf i) (w.actorSystem.emitted.filterMap delivered?)

def ownHanded (w : Server) (i : ℕ) : List (ℕ × Json) := (w.handedTo i).filter (w.ownFrame i)

def ownEmitted (w : Server) (i : ℕ) : List (ℕ × Json) := (w.emittedTo i).filter (w.ownFrame i)

/-- Of the payloads that stem from its own frames, a session gets all until it is
unbound, and then none. -/
structure EchoInv (w : Server) (i : ℕ) : Prop where
  handed : w.ownHanded i <+: w.ownEmitted i
  bound : w.transports (sessionIdOf i) = some i → w.ownHanded i = w.ownEmitted i

theorem EchoInv.congr (h : EchoInv w i) (hh : w'.ownHanded i = w.ownHanded i)
    (he : w'.ownEmitted i = w.ownEmitted i)
    (hb : w'.transports (sessionIdOf i) = some i →
      w.transports (sessionIdOf i) = some i ∨ w.ownHanded i = w.ownEmitted i) :
    EchoInv w' i := by
  refine ⟨by rw [hh, he]; exact h.handed, fun hbound => ?_⟩
  rw [hh, he]
  exact (hb hbound).elim h.bound id

theorem emittedTo_lt (h : Runs cfg (run cfg) ls w) {d : ℕ × Json} (hd : d ∈ w.emittedTo i) :
    d.1 < w.frames.length := by
  obtain ⟨x, hx, hxd⟩ := List.mem_filterMap.mp hd
  split at hxd
  · obtain rfl := Option.some.inj hxd
    have hmem := Multiset.mem_of_le (emitted_deliveries_le h) (Multiset.mem_coe.mpr hx)
    obtain ⟨y, hy, hxy⟩ := List.mem_flatMap.mp (Multiset.mem_coe.mp hmem)
    rw [origin_of_mem_sessionTrail hxy]
    exact dispatched_lt ((logInv_of_runs h).accepted y hy)
  · cases hxd

theorem handedTo_lt (h : Runs cfg (run cfg) ls w) {d : ℕ × Json} (hd : d ∈ w.handedTo i) :
    d.1 < w.frames.length := by
  obtain ⟨x, hx, hxd⟩ := List.mem_filterMap.mp hd
  split at hxd
  · obtain rfl := Option.some.inj hxd
    obtain ⟨event, hacc, -⟩ := handed_stems_from_event h hx
    exact dispatched_lt ((logInv_of_runs h).accepted _ hacc)
  · cases hxd

theorem NetInv.handedTo_unbound (hn : NetInv w)
    {out : Outcome ActorType Envelope (Traced Effect) HandlerError} (hw : Worked w out w')
    (hb : w.transports (sessionIdOf i) ≠ some i) : w'.handedTo i = w.handedTo i := by
  rw [handedTo, hw.handed, List.filterMap_append, ← handedTo, List.filterMap_filterMap,
    List.filterMap_eq_nil_iff.mpr, List.append_nil]
  rintro ⟨o, e⟩ _
  cases e with
  | create chatId senderId content => rfl
  | deliver sid p =>
    cases ht : w.transports sid with
    | none => simp [handOver, hn.locked_eq, ht]
    | some j =>
      obtain ⟨s, hs, hid, -⟩ := hn.bound sid j ht
      have hji : j ≠ i := by
        rintro rfl
        exact hb (by rw [← hn.ids j s hs, hid, ht])
      simp [handOver, hn.locked_eq, ht, hji]

theorem NetInv.ownFrame_of_accepting (hn : NetInv w) {s : WebSocketSession}
    (hs : w.sessions[i]? = some s) (ha : s.accepting = true) (d : ℕ × Json) :
    w.ownFrame i d = false := by
  cases hf : w.frames[d.1]? with
  | none => simp [ownFrame, hf]
  | some f =>
    obtain ⟨x, hx, -, hxa⟩ := hn.frames f (List.mem_of_getElem? hf)
    have hfi : f.session ≠ i := by
      rintro rfl
      rw [Option.some.inj (hs.symm.trans hx), hxa] at ha
      cases ha
    simp [ownFrame, hf, hfi]

theorem EchoInv.quiet (h : EchoInv w i) (hn : NetInv w) (hst : Step cfg w l w')
    (hq : Quiet w w') : EchoInv w' i := by
  have hown : w'.ownFrame i = w.ownFrame i := by
    funext d
    rw [ownFrame, hq.frames, ownFrame]
  obtain ⟨-, -, hem, -⟩ := hq.history
  refine h.congr ?_ ?_ fun hb => ?_
  · rw [ownHanded, handedTo, hq.handed, hown, ownHanded, handedTo]
  · rw [ownEmitted, emittedTo, hem, hown, ownEmitted, emittedTo]
  · rcases (hst.net hn).bound_before hb with hb | ⟨s, hs, ha⟩
    · exact .inl hb
    · -- bound just now: nothing of its own has been emitted or handed over yet
      refine .inr ?_
      have hnone : w.ownFrame i = fun _ => false := funext (hn.ownFrame_of_accepting hs ha)
      simp [ownHanded, ownEmitted, hnone]

theorem EchoInv.onRead (h : EchoInv w i) (hr : Runs cfg (run cfg) ls w) {j : ℕ}
    {s : WebSocketSession} {raw : ByteArray} : EchoInv (w.onRead cfg j s raw) i := by
  have hown {d : ℕ × Json} (hd : d.1 < w.frames.length) :
      (w.onRead cfg j s raw).ownFrame i d = w.ownFrame i d := by
    rw [ownFrame, onRead_frames, List.getElem?_append_left hd, ownFrame]
  refine h.congr ?_ ?_ fun hb => .inl (by rwa [onRead_transports] at hb)
  · rw [ownHanded, handedTo, onRead_handed, ← handedTo]
    exact List.filter_congr fun d hd => hown (handedTo_lt hr hd)
  · rw [ownEmitted, emittedTo, onRead_emitted, ← emittedTo]
    exact List.filter_congr fun d hd => hown (emittedTo_lt hr hd)

theorem EchoInv.worked (h : EchoInv w i) (hn : NetInv w)
    {out : Outcome ActorType Envelope (Traced Effect) HandlerError}
    (hm : Move cfg.runtime w.actorSystem out w'.actorSystem) (hw : Worked w out w') :
    EchoInv w' i := by
  have hown : w'.ownFrame i = w.ownFrame i := by
    funext d
    rw [ownFrame, hw.frames, ownFrame]
  have he : w'.ownEmitted i = w.ownEmitted i ++
      (addressed (sessionIdOf i) (out.outputs.filterMap delivered?)).filter (w.ownFrame i) := by
    rw [ownEmitted, emittedTo, hm.emitted, hown]
    simp [addressed, ownEmitted, emittedTo]
  by_cases hb : w.transports (sessionIdOf i) = some i
  · have hh : w'.ownHanded i = w'.ownEmitted i := by
      rw [he, ← h.bound hb, ownHanded, hn.handedTo_worked hw hb, hown, List.filter_append,
        ownHanded]
    exact ⟨by rw [hh], fun _ => hh⟩
  · have hh : w'.ownHanded i = w.ownHanded i := by
      rw [ownHanded, hn.handedTo_unbound hw hb, hown, ownHanded]
    refine ⟨?_, fun hb' => absurd (hw.transports ▸ hb') hb⟩
    rw [hh, he]
    exact h.handed.trans (List.prefix_append _ _)

theorem echoInv_of_runs (h : Runs cfg (run cfg) ls w) (i : ℕ) : EchoInv w i := by
  induction h with
  | nil => exact ⟨List.prefix_rfl, fun _ => rfl⟩
  | snoc hrun _ hs ih =>
    have hn := netInv_of_runs hrun
    have hst := (step_cases hs).2
    rcases hst.log_cases with hq | ⟨j, s, raw, -, -, -, rfl⟩ | ⟨k, id, now, out, -, hk, hw⟩
    · exact ih.quiet hn hst hq
    · exact ih.onRead hrun
    · exact ih.worked hn (workerStep_move hk) hw

/-- A worker that is about to pop finds nobody inside the actor of that mailbox. -/
def serialised (w : Server) : Label → Bool
  | .worker k _ _ => w.actorSystem.popsAlone k
  | _ => true

theorem run_idle (cfg : Config) : (run cfg).Idle := by
  refine ⟨List.filterMap_eq_nil_iff.mpr fun x hx => ?_, fun _ => rfl⟩
  rw [List.eq_of_mem_replicate hx]
  rfl

theorem serial_of_runs (h : Run (step cfg) (fun w l => w.serialised l = true) (run cfg) ls w) :
    Serial w.actorSystem := by
  refine h.invariant (I := fun u => Serial u.actorSystem) ?_ fun t l u hi hc hs => ?_
  · rw [Serial, (run_idle cfg).1]
    exact List.nodup_nil
  · rcases (step_cases hs).2.log_cases with
      hq | ⟨j, s, raw, -, -, -, rfl⟩ | ⟨k, id, now, out, rfl, hk, -⟩
    · exact hq.transfer (fun _ ha => ha) hi
    · rw [Serial, onRead_workers]
      exact hi
    · refine hi.move (workerStep_move hk) ?_
      rintro a m rfl
      exact not_mem_of_popsAlone hc (workerStep_turn hk)

def isEcho (d : ℕ × Json) : Bool := d.2.text "type" == "message_delivered"

theorem sessionTrail_sorted {accepted : List (ActorType × Envelope)}
    (h : accepted.Pairwise fun x y => x.2.origin < y.2.origin) :
    (accepted.flatMap fun x => sessionTrail.message x.1 x.2).Pairwise fun d d' => d.1 ≤ d'.1 := by
  refine List.pairwise_flatMap.mpr ⟨fun x _ => ?_, h.imp fun hlt d hd d' hd' => ?_⟩
  · apply List.pairwise_of_forall_mem_list
    intro d hd d' hd'
    rw [origin_of_mem_sessionTrail hd, origin_of_mem_sessionTrail hd']
  · rw [origin_of_mem_sessionTrail hd, origin_of_mem_sessionTrail hd']
    exact hlt.le

theorem echoes_sorted {accepted : List (ActorType × Envelope)} (sessionId : String)
    (h : accepted.Pairwise fun x y => x.2.origin < y.2.origin) :
    ((addressed sessionId (accepted.flatMap fun x => sessionTrail.message x.1 x.2)).filter
      isEcho).Pairwise fun d d' => d.1 < d'.1 := by
  rw [List.pairwise_filter, addressed, List.pairwise_filterMap]
  refine ((sessionTrail_kinds h).and (sessionTrail_sorted h)).imp ?_
  rintro d d' ⟨hne, hle⟩ e he e' he' hecho hecho'
  split at he
  · split at he'
    · obtain rfl := Option.some.inj he
      obtain rfl := Option.some.inj he'
      simp only [isEcho, beq_iff_eq] at hecho hecho'
      refine lt_of_le_of_ne hle fun heq => hne ?_
      rw [kindOf, kindOf, hecho, hecho', show d.1 = d'.1 from heq]
    · cases he'
  · cases he

section Order

variable (h : Run (step cfg) (fun w l => w.serialised l = true) (run cfg) ls w)
  (hd : w.actorSystem.dropped = []) (hr : w.actorSystem.refused = [])

include h hd hr

theorem outputs_behind_of_serialised {β : Type*}
    {T : Trail ActorType Envelope (Traced Effect) β} {chain : List ActorType}
    (hT : T.Along cfg.runtime chain)
    (hlast : ∀ u, LogInv cfg u → ∀ x ∈ u.actorSystem.accepted,
      T.message x.1 x.2 = [] ∨ ∃ p, chain = p ++ [x.1]) :
    w.actorSystem.emitted.flatMap T.output <+:
      w.actorSystem.accepted.flatMap fun x => T.message x.1 x.2 := by
  have hlined := lined_of_runs hT hlast .nil h (fun _ _ => serial_of_runs) hd hr
  have he : w.actorSystem.emitted = (run cfg).actorSystem.emitted ++ w.actorSystem.emitted := rfl
  obtain ⟨xs, hxs, hpre⟩ :=
    hlined.outputs_behind (run_idle cfg).1 (fun a _ => (run_idle cfg).2 a) he
  rwa [show w.actorSystem.accepted = xs from hxs]

theorem creates_in_order {o₁ : ℕ} {e₁ : SendMessageEvent}
    (ha₁ : (.message, ⟨o₁, .sendMessageEvent e₁⟩) ∈ w.actorSystem.accepted)
    (hc₁ : (cfg.lib.stringGenerator e₁.chatId).isSome = true)
    (hs₁ : (cfg.lib.stringGenerator e₁.senderId).isSome = true) {c₂ : Traced Message}
    (hc₂ : c₂ ∈ w.creates) (hlt : o₁ < c₂.origin) :
    ∃ c₁, c₁.origin = o₁ ∧ [c₁, c₂].Sublist w.creates := by
  have hl := logInv_of_runs h.anything
  have hpre := outputs_behind_of_serialised h hd hr (storageTrail_along cfg.lib cfg.order)
    fun _ => storageTrail_last
  rw [outputs_storageTrail, ← hl.creates, records] at hpre
  obtain ⟨chat, hchat⟩ := Option.isSome_iff_exists.mp hc₁
  obtain ⟨sender, hsender⟩ := Option.isSome_iff_exists.mp hs₁
  have hmem : ⟨o₁, ⟨chat, sender, e₁.text⟩⟩ ∈
      w.actorSystem.accepted.flatMap fun x => (storageTrail cfg.lib).message x.1 x.2 :=
    List.mem_flatMap.mpr ⟨_, ha₁, mem_store.mpr ⟨rfl, hchat, hsender, rfl⟩⟩
  obtain ⟨c₁, hc₁, hsub⟩ :=
    sublist_of_behind hpre (storageTrail_sorted cfg.lib hl.sorted) hmem hc₂ hlt
  exact ⟨c₁, congrArg Traced.origin hc₁, hsub⟩

theorem echoes_in_order {o₁ : ℕ} {f₁ : Frame} {e₁ : SendMessageEvent}
    (hf₁ : w.frames[o₁]? = some f₁)
    (ha₁ : (.message, ⟨o₁, .sendMessageEvent e₁⟩) ∈ w.actorSystem.accepted) {x₂ : Handed}
    {f₂ : Frame} (hx₂ : x₂ ∈ w.handed) (hf₂ : w.frames[x₂.origin]? = some f₂)
    (hown₂ : x₂.session = f₂.session) (hecho₂ : x₂.payload.text "type" = "message_delivered")
    (hsame : f₁.session = f₂.session) (hlt : o₁ < x₂.origin) :
    ∃ x₁, x₁.origin = o₁ ∧ x₁.session = f₁.session ∧ x₁.payload = ChatActor.echo e₁ ∧
      [x₁, x₂].Sublist w.handed := by
  have hl := logInv_of_runs h.anything
  have hn := netInv_of_runs h.anything
  have hpre := outputs_behind_of_serialised h hd hr (sessionTrail_along cfg.lib cfg.order)
    fun _ => sessionTrail_last
  rw [outputs_sessionTrail] at hpre
  -- the echoes of the session's own frames, as handed over and as accepted
  have hall := ((echoInv_of_runs h.anything f₁.session).handed.trans
    ((hpre.filterMap _).filter (w.ownFrame f₁.session))).filter isEcho
  rw [ownHanded, handedTo, filterMap_ite, List.filter_map, List.filter_map] at hall
  have hsorted := (echoes_sorted (sessionIdOf f₁.session) hl.sorted).sublist
    ((List.filter_sublist (p := w.ownFrame f₁.session)).filter isEcho)
  have hmem₁ : (o₁, ChatActor.echo e₁) ∈
      ((addressed (sessionIdOf f₁.session) (w.actorSystem.accepted.flatMap fun x =>
        sessionTrail.message x.1 x.2)).filter (w.ownFrame f₁.session)).filter isEcho := by
    obtain ⟨f, hf, -, -, -, rfl⟩ := hl.sendMessage ha₁
    obtain rfl : f₁ = f := Option.some.inj (hf₁.symm.trans hf)
    obtain ⟨s, hs, hsid, -⟩ := hn.frames f₁ (List.mem_of_getElem? hf)
    have hid : f₁.sessionId = sessionIdOf f₁.session := hsid.symm.trans (hn.ids _ s hs)
    refine List.mem_filter.mpr ⟨List.mem_filter.mpr ⟨?_, by simp [ownFrame, hf]⟩, ?_⟩
    · refine List.mem_filterMap.mpr ⟨_, List.mem_flatMap.mpr ⟨_, ha₁, mem_emit.mpr (.inl rfl)⟩, ?_⟩
      simp [MessageDispatcher.sendMessageEventOf, hid]
    · simp [isEcho, ChatActor.echo_eq, Json.text, Json.field?]
  have hmem₂ : x₂ ∈ (((w.handed.filter fun x => decide (x.session = f₁.session)).filter
      (w.ownFrame f₁.session ∘ fun x => (x.origin, x.payload))).filter
      (isEcho ∘ fun x => (x.origin, x.payload))) := by
    simp [hx₂, hown₂, hsame, ownFrame, hf₂, isEcho, hecho₂]
  obtain ⟨x₁, hx₁, hsub⟩ := sublist_of_behind hall hsorted hmem₁ hmem₂ hlt
  have hsession := hsub.subset (List.mem_cons_self (a := x₁) (l := [x₂]))
  simp only [List.mem_filter, decide_eq_true_eq] at hsession
  rw [Prod.mk.injEq] at hx₁
  refine ⟨x₁, hx₁.1, hsession.1.1.2, hx₁.2, hsub.trans ?_⟩
  exact (List.filter_sublist.trans List.filter_sublist).trans List.filter_sublist

/-- Where a worker pops from a mailbox only while nobody is inside its actor, and no
send fails, the creates and the echoes of two messages of one session come in the
order of their frames. -/
theorem messages_in_order {o₁ o₂ : ℕ} {f₁ f₂ : Frame} {e₁ : SendMessageEvent} (hlt : o₁ < o₂)
    (hf₁ : w.frames[o₁]? = some f₁) (hf₂ : w.frames[o₂]? = some f₂)
    (hsame : f₁.session = f₂.session)
    (ha₁ : (.message, ⟨o₁, .sendMessageEvent e₁⟩) ∈ w.actorSystem.accepted)
    (hc₁ : (cfg.lib.stringGenerator e₁.chatId).isSome = true)
    (hs₁ : (cfg.lib.stringGenerator e₁.senderId).isSome = true) :
    (∀ c₂ ∈ w.creates, c₂.origin = o₂ →
      ∃ c₁, c₁.origin = o₁ ∧ [c₁, c₂].Sublist w.creates) ∧
    ∀ x₂ ∈ w.handed, x₂.origin = o₂ → x₂.session = f₂.session →
      x₂.payload.text "type" = "message_delivered" →
      ∃ x₁, x₁.origin = o₁ ∧ x₁.session = f₁.session ∧ x₁.payload = ChatActor.echo e₁ ∧
        [x₁, x₂].Sublist w.handed := by
  refine ⟨?_, ?_⟩
  · rintro c₂ hc₂ rfl
    exact creates_in_order h hd hr ha₁ hc₁ hs₁ hc₂ hlt
  · rintro x₂ hx₂ rfl hown hecho
    exact echoes_in_order h hd hr hf₁ ha₁ hx₂ hf₂ hown hecho hsame hlt

end Order

/-- One worker never finds another one inside an actor. -/
theorem serialised_of_one_worker (h₁ : cfg.actorThreads = 1) (h : Runs cfg (run cfg) ls w) :
    Run (step cfg) (fun w l => w.serialised l = true) (run cfg) ls w := by
  induction h with
  | nil => exact .nil
  | @snoc ls l t u hrun _ hs ih =>
    refine .snoc ih ?_ hs
    have hlen := (workers_of_runs hrun).trans h₁
    cases l with
    | worker k id now =>
      obtain ⟨x, hx⟩ := List.length_eq_one_iff.mp hlen
      simp only [serialised, State.popsAlone, hx]
      split
      · next hk =>
        obtain rfl := List.mem_singleton.mp (List.mem_of_getElem? hk)
        simp [Worker.actor?]
      · rfl
    | _ => rfl

/-- Two messages of one session, handled by two workers of which the second overtakes
the first between the message actor and the chat actor. -/
def overtaking : List Label :=
  Sample.connect 0 ++ Sample.frame 0 Sample.greeting ++ Sample.frame 0 Sample.greeting ++
    Sample.work 0 3 ++ Sample.work 1 5 ++ Sample.work 0 36

theorem workers_overtake :
    ∃ w, Runs (Sample.config [Sample.greeting] 4 2) (run (Sample.config [Sample.greeting] 4 2))
        overtaking w ∧
      w.frames.map (·.session) = [0, 0] ∧ w.actorSystem.dropped.length = 0 ∧
      w.actorSystem.refused.length = 0 ∧ w.creates.map (·.origin) = [1, 0] ∧
      w.handed.map (fun x => (x.origin, x.session, x.payload.text "type")) =
        [(1, 0, "message_delivered"), (0, 0, "message_delivered")] :=
  exists_run _ (by decide +kernel)

theorem messages_in_order_two_workers :
    ∃ w, Run (step (Sample.config [Sample.greeting] 4 2)) (fun w l => w.serialised l = true)
        (run (Sample.config [Sample.greeting] 4 2))
        (Sample.connect 0 ++ Sample.frame 0 Sample.greeting ++ Sample.frame 0 Sample.greeting ++
          Sample.work 0 5 ++ Sample.work 1 30) w ∧
      w.creates.map (·.origin) = [0, 1] ∧
      ∀ c₂ ∈ w.creates, c₂.origin = 1 → ∃ c₁, c₁.origin = 0 ∧ [c₁, c₂].Sublist w.creates := by
  obtain ⟨w, hrun, hcreates, hlen, hsessions, hacc, hd, hr⟩ : ∃ w,
      Run (step (Sample.config [Sample.greeting] 4 2)) (fun w l => w.serialised l = true)
        (run (Sample.config [Sample.greeting] 4 2))
        (Sample.connect 0 ++ Sample.frame 0 Sample.greeting ++ Sample.frame 0 Sample.greeting ++
          Sample.work 0 5 ++ Sample.work 1 30) w ∧
      w.creates.map (·.origin) = [0, 1] ∧ w.frames.length = 2 ∧
      (∀ f ∈ w.frames, f.session = 0) ∧
      w.actorSystem.accepted.any (fun x => x.1 == .message && x.2.origin == 0 &&
        x.2.value.sendMessage? == some ⟨"1", Sample.chatId, Sample.userId, "", "hi"⟩) = true ∧
      w.actorSystem.dropped.length = 0 ∧ w.actorSystem.refused.length = 0 :=
    exists_run _ (by decide +kernel)
  obtain ⟨f₁, f₂, hf⟩ := List.length_eq_two.mp hlen
  obtain ⟨⟨a, o, p⟩, hx, hxe⟩ := List.any_eq_true.mp hacc
  simp only [Bool.and_eq_true, beq_iff_eq] at hxe
  obtain ⟨⟨rfl, rfl⟩, hp⟩ := hxe
  rw [sendMessage?_eq_some] at hp
  subst hp
  have hsame : f₁.session = f₂.session :=
    (hsessions f₁ (by simp [hf])).trans (hsessions f₂ (by simp [hf])).symm
  exact ⟨w, hrun, hcreates, (messages_in_order hrun (List.eq_nil_of_length_eq_zero hd)
    (List.eq_nil_of_length_eq_zero hr) Nat.zero_lt_one (by simp [hf]) (by simp [hf]) hsame hx
    (by decide +kernel) (by decide +kernel)).1⟩

end Server

end Svitock
