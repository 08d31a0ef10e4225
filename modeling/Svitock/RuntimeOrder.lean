import Svitock.RuntimeInvariants
import Svitock.RuntimeConservation
import Mathlib.Data.Multiset.OrderedMonoid

/-!
# Trails of messages

A trail says what a message will add to a sequence of outputs. As multisets the
outputs never exceed the trails of the accepted messages. When the trails run
along a chain of actors, the last one emitting, and no two workers are ever
inside the same actor, the outputs followed by the contents of the chain, read
from its emitting end, are the trails of the accepted messages in the order of
acceptance.
-/

namespace ActorRuntime

variable {ι π ω ε β : Type*} [DecidableEq ι]

structure Trail (ι π ω β : Type*) where
  message : ι → π → List β
  output : ω → List β

namespace Trail

variable (T : Trail ι π ω β)

def act : Act ι π ω ε → List β
  | .send d m => T.message d m
  | .emit o => T.output o
  | .fail _ => []

def worker (a : ι) : Worker ι π ω ε → List β
  | .busy b todo _ => if b = a then todo.flatMap T.act else []
  | _ => []

/-- What actor `a` still has to add: first what is being handled, then what waits. -/
def stage (s : State ι π ω ε) (a : ι) : List β :=
  s.workers.flatMap (T.worker a) ++ (s.mailbox a).queue.flatMap (T.message a)

/-- The outputs so far, followed by those the chain still holds. -/
def line (chain : List ι) (s : State ι π ω ε) : List β :=
  s.emitted.flatMap T.output ++ chain.flatMap (T.stage s)

def weight : Weight ι π ω ε (Multiset β) where
  message a m := T.message a m
  output o := T.output o
  failure _ := 0

/-- Trails run along `chain`: a handler gives back the trail of its message, by
sending it to the actor before its own or, at the head, by emitting it. -/
structure Along (rt : Runtime ι π ω ε) (chain : List ι) : Prop where
  nodup : chain.Nodup
  message : ∀ a m, T.message a m = (rt.handle a m).flatMap T.act
  outside : ∀ a, a ∉ chain → ∀ m, T.message a m = []
  emit : ∀ a m o, .emit o ∈ rt.handle a m → T.output o ≠ [] → ∃ q, chain = a :: q
  send : ∀ a m d m', .send d m' ∈ rt.handle a m → T.message d m' ≠ [] →
    ∃ p q, chain = p ++ d :: a :: q

end Trail

def Worker.actor? : Worker ι π ω ε → Option ι
  | .busy a _ _ => some a
  | _ => none

/-- No two workers are inside the same actor. -/
def Serial (s : State ι π ω ε) : Prop := (s.workers.filterMap Worker.actor?).Nodup

/-- Worker `k`, when it is about to pop from a mailbox, finds nobody inside its actor. -/
def State.popsAlone (s : State ι π ω ε) (k : ℕ) : Bool :=
  match s.workers[k]? with
  | some (.poll (a :: _)) =>
    (s.mailbox a).queue.isEmpty || s.workers.all fun x => x.actor? != some a
  | _ => true

section Serial

variable {rt : Runtime ι π ω ε} {s s' : State ι π ω ε} {out : Outcome ι π ω ε}

theorem not_mem_of_popsAlone {k : ℕ} {a : ι} {m : π} (hp : s.popsAlone k = true)
    (hk : Turn rt s k (.popped a m) s') : a ∉ s.workers.filterMap Worker.actor? := by
  cases hk with
  | pop hk hq =>
    simp only [State.popsAlone, hk, hq, List.isEmpty_cons, Bool.false_or, List.all_eq_true,
      bne_iff_ne] at hp
    intro hmem
    obtain ⟨y, hy, hya⟩ := List.mem_filterMap.mp hmem
    exact hp y hy hya

omit [DecidableEq ι] in
theorem serial_swap {l r : List (Worker ι π ω ε)} {w w' : Worker ι π ω ε} (hs : Serial s)
    (hw : s.workers = l ++ w :: r) (hw' : s'.workers = l ++ w' :: r)
    (h : w'.actor? = none ∨ w'.actor? = w.actor?) : Serial s' := by
  rw [Serial, hw, List.filterMap_append] at hs
  rw [Serial, hw', List.filterMap_append]
  rcases h with h | h
  · rw [List.filterMap_cons_none h]
    refine hs.sublist (List.Sublist.append_left ?_ _)
    cases ha : w.actor? with
    | none => rw [List.filterMap_cons_none ha]
    | some a =>
      rw [List.filterMap_cons_some ha]
      exact List.sublist_cons_self _ _
  · cases ha : w.actor? with
    | none =>
      rw [List.filterMap_cons_none (h.trans ha)]
      rwa [List.filterMap_cons_none ha] at hs
    | some a =>
      rw [List.filterMap_cons_some (h.trans ha)]
      rwa [List.filterMap_cons_some ha] at hs

theorem Serial.move (hs : Serial s) (hm : Move rt s out s')
    (hp : ∀ a m, out = .popped a m → a ∉ s.workers.filterMap Worker.actor?) : Serial s' := by
  cases hm with
  | enter hw hr => exact serial_swap hs hw rfl (.inl rfl)
  | leave hw hr => exact serial_swap hs hw rfl (.inl rfl)
  | skip hw hq => exact serial_swap hs hw rfl (.inl rfl)
  | ret hw => exact serial_swap hs hw rfl (.inl rfl)
  | send hw hd => exact serial_swap hs hw rfl (.inr rfl)
  | drop hw hd => exact serial_swap hs hw rfl (.inr rfl)
  | emit hw => exact serial_swap hs hw rfl (.inr rfl)
  | fail hw => exact serial_swap hs hw rfl (.inr rfl)
  | @pop l r a rest m q hw hq =>
    have ha := hp a m rfl
    rw [Serial, hw, List.filterMap_append, List.filterMap_cons_none rfl] at hs
    rw [hw, List.filterMap_append, List.filterMap_cons_none rfl] at ha
    have hb : (Worker.busy a (rt.handle a m) rest).actor? = some a := rfl
    rw [Serial, List.filterMap_append, List.filterMap_cons_some hb]
    exact List.nodup_middle.mpr (List.nodup_cons.mpr ⟨ha, hs⟩)

theorem serial_of_length_le_one (h : s.workers.length ≤ 1) : Serial s := by
  have hle := (List.length_filterMap_le Worker.actor? s.workers).trans h
  rw [Serial]
  exact List.nodup_iff_count_le_one.mpr fun a => List.count_le_length.trans hle

end Serial

namespace Trail

variable {T : Trail ι π ω β} {rt : Runtime ι π ω ε} {chain : List ι}
  {s s' : State ι π ω ε} {out : Outcome ι π ω ε}

omit [DecidableEq ι] in
theorem weight_act : T.weight.act = fun act : Act ι π ω ε => (T.act act : Multiset β) := by
  funext act
  cases act <;> rfl

theorem sum_map_coe {α : Type*} (f : α → List β) (xs : List α) :
    (xs.map fun x => (f x : Multiset β)).sum = ↑(xs.flatMap f) := by
  induction xs with
  | nil => rfl
  | cons x xs ih => simp [ih]

omit [DecidableEq ι] in
theorem Along.conserved (hT : T.Along rt chain) : T.weight.Conserved rt := by
  intro a m
  rw [weight_act, sum_map_coe, ← hT.message]
  rfl

omit [DecidableEq ι] in
theorem emitted_le [Fintype ι] (hs : (T.weight (ε := ε)).Balanced s) :
    (↑(s.emitted.flatMap T.output) : Multiset β) ≤
      ↑(s.accepted.flatMap fun x => T.message x.1 x.2) := by
  have hle := hs.emitted_le
  simp only [Weight.envelopes, weight, sum_map_coe] at hle
  exact hle

omit [DecidableEq ι] in
theorem account_of_empty [Fintype ι] (hq : ∀ a, (s.mailbox a).queue = [])
    (hb : ∀ w ∈ s.workers, ∀ a todo rest, w ≠ .busy a todo rest) (hf : s.failed = []) :
    T.weight.account s =
      (T.weight (ε := ε)).envelopes s.dropped + ↑(s.emitted.flatMap T.output) := by
  have hw : (s.workers.map (T.weight (ε := ε)).worker).sum = 0 := by
    apply List.sum_eq_zero
    intro x hx
    obtain ⟨w, hw, rfl⟩ := List.mem_map.mp hx
    cases w with
    | busy a todo rest => exact absurd rfl (hb _ hw a todo rest)
    | _ => rfl
  have he : (s.emitted.map (T.weight (ε := ε)).output).sum = ↑(s.emitted.flatMap T.output) :=
    sum_map_coe T.output s.emitted
  simp [Weight.account, Weight.inFlight, Weight.queued, hq, hw, hf, he]

theorem flatMap_worker_eq_nil {a : ι} {ws : List (Worker ι π ω ε)}
    (h : a ∉ ws.filterMap Worker.actor?) : ws.flatMap (T.worker a) = [] := by
  rw [List.flatMap_eq_nil_iff]
  intro w hw
  cases w with
  | poll rest => rfl
  | exited => rfl
  | busy b todo rest =>
    have hb : b ≠ a := by
      rintro rfl
      exact h (List.mem_filterMap.mpr ⟨_, hw, rfl⟩)
    simp [worker, hb]

omit [DecidableEq ι] in
theorem alone {l r : List (Worker ι π ω ε)} {a : ι} {todo : List (Act ι π ω ε)} {rest : List ι}
    (hs : Serial s) (hw : s.workers = l ++ .busy a todo rest :: r) :
    a ∉ l.filterMap Worker.actor? ∧ a ∉ r.filterMap Worker.actor? := by
  rw [Serial, hw, List.filterMap_append, List.filterMap_cons] at hs
  have hd := List.nodup_append.mp hs
  exact ⟨fun ha => hd.2.2 a ha a (by simp [Worker.actor?]) rfl,
    (List.nodup_cons.mp hd.2.1).1⟩

theorem stage_of_alone {l r : List (Worker ι π ω ε)} {a : ι} {todo : List (Act ι π ω ε)}
    {rest : List ι} (hs : Serial s) (hw : s.workers = l ++ .busy a todo rest :: r) :
    T.stage s a = todo.flatMap T.act ++ (s.mailbox a).queue.flatMap (T.message a) := by
  obtain ⟨hl, hr⟩ := alone hs hw
  simp [stage, hw, flatMap_worker_eq_nil hl, flatMap_worker_eq_nil hr, worker]

theorem stage_eq_of_swap {l r : List (Worker ι π ω ε)} {w w' : Worker ι π ω ε} {a : ι}
    (hw : s.workers = l ++ w :: r) (hw' : s'.workers = l ++ w' :: r)
    (h : T.worker a w' = T.worker a w) (hm : (s'.mailbox a).queue = (s.mailbox a).queue) :
    T.stage s' a = T.stage s a := by
  simp [stage, hw, hw', h, hm]

theorem line_eq_of_stage_eq (he : s'.emitted = s.emitted)
    (h : ∀ a ∈ chain, T.stage s' a = T.stage s a) : T.line chain s' = T.line chain s := by
  rw [line, line, he, List.flatMap_congr h]

theorem line_pop {l r : List (Worker ι π ω ε)} {a : ι} {rest : List ι} {m : π} {q : List π}
    (hT : T.Along rt chain) (hw : s.workers = l ++ .poll (a :: rest) :: r)
    (hq : (s.mailbox a).queue = m :: q)
    (hw' : s'.workers = l ++ .busy a (rt.handle a m) rest :: r)
    (hb : s'.mailbox = Function.update s.mailbox a ((s.mailbox a).withQueue q))
    (he : s'.emitted = s.emitted) (hs' : Serial s') : T.line chain s' = T.line chain s := by
  apply line_eq_of_stage_eq he
  intro x _
  by_cases hx : x = a
  · -- nobody else is inside `a`, so what was first in the queue is first in the stage
    subst hx
    obtain ⟨hl, hr⟩ := alone hs' hw'
    rw [stage_of_alone hs' hw', ← hT.message]
    simp [stage, hw, flatMap_worker_eq_nil hl, flatMap_worker_eq_nil hr, worker, hb, hq]
  · exact stage_eq_of_swap hw hw' (by simp [worker, Ne.symm hx]) (by simp [hb, hx])

theorem line_send {l r : List (Worker ι π ω ε)} {a d : ι} {m : π} {todo : List (Act ι π ω ε)}
    {rest : List ι} (hT : T.Along rt chain) (hh : HoldsSuffix rt s) (hs : Serial s)
    (hw : s.workers = l ++ .busy a (.send d m :: todo) rest :: r)
    (hw' : s'.workers = l ++ .busy a todo rest :: r) (hb : s'.mailbox = (s.enqueue d m).mailbox)
    (he : s'.emitted = s.emitted) (hs' : Serial s') : T.line chain s' = T.line chain s := by
  obtain ⟨m₀, hm₀⟩ := hh.suffix hw
  have hother : ∀ x, x ≠ a → x ≠ d → T.stage s' x = T.stage s x := fun x hxa hxd =>
    stage_eq_of_swap hw hw' (by simp [worker, Ne.symm hxa]) (by
      rw [hb, enqueue_mailbox_of_ne s m hxd])
  by_cases hmd : T.message d m = []
  · -- off the trail: a send that adds nothing to any stage
    apply line_eq_of_stage_eq he
    intro x _
    have hx : (s'.mailbox x).queue.flatMap (T.message x) =
        (s.mailbox x).queue.flatMap (T.message x) := by
      by_cases hxd : x = d
      · subst hxd
        simp [hb, hmd]
      · rw [hb, enqueue_mailbox_of_ne s m hxd]
    simp only [stage, hw, hw', List.flatMap_append, List.flatMap_cons, hx]
    congr 3
    simp [worker, act, hmd]
  · -- the trail moves from the front of `a` to the back of its neighbour `d`
    obtain ⟨p, q, rfl⟩ := hT.send a m₀ d m (hm₀.subset (by simp)) hmd
    have hn := hT.nodup
    simp only [List.nodup_append, List.nodup_cons, List.mem_cons, not_or] at hn
    obtain ⟨-, ⟨⟨hda, hdq⟩, haq, -⟩, hpd⟩ := hn
    have hd : T.stage s' d = T.stage s d ++ T.message d m := by
      simp [stage, hw, hw', worker, Ne.symm hda, hb]
    have ha : T.stage s a = T.message d m ++ T.stage s' a := by
      rw [stage_of_alone hs hw, stage_of_alone hs' hw', hb, enqueue_mailbox_of_ne s m (Ne.symm hda)]
      simp [act]
    have hp : p.flatMap (T.stage s') = p.flatMap (T.stage s) := List.flatMap_congr fun x hx =>
      hother x (fun h => hpd x hx a (by simp) h) (fun h => hpd x hx d (by simp) h)
    have hq : q.flatMap (T.stage s') = q.flatMap (T.stage s) := List.flatMap_congr fun x hx =>
      hother x (fun h => haq (h ▸ hx)) (fun h => hdq (h ▸ hx))
    simp [line, he, hp, hq, hd, ha]

theorem line_emit {l r : List (Worker ι π ω ε)} {a : ι} {o : ω} {todo : List (Act ι π ω ε)}
    {rest : List ι} (hT : T.Along rt chain) (hh : HoldsSuffix rt s) (hs : Serial s)
    (hw : s.workers = l ++ .busy a (.emit o :: todo) rest :: r)
    (hw' : s'.workers = l ++ .busy a todo rest :: r) (hb : s'.mailbox = s.mailbox)
    (he : s'.emitted = s.emitted ++ [o]) (hs' : Serial s') :
    T.line chain s' = T.line chain s := by
  obtain ⟨m₀, hm₀⟩ := hh.suffix hw
  have hother : ∀ x, x ≠ a → T.stage s' x = T.stage s x := fun x hxa =>
    stage_eq_of_swap hw hw' (by simp [worker, Ne.symm hxa]) (by rw [hb])
  have ha : T.stage s a = T.output o ++ T.stage s' a := by
    rw [stage_of_alone hs hw, stage_of_alone hs' hw', hb]
    simp [act]
  by_cases ho : T.output o = []
  · have hst : ∀ x ∈ chain, T.stage s' x = T.stage s x := by
      intro x _
      by_cases hx : x = a
      · rw [hx, ha, ho, List.nil_append]
      · exact hother x hx
    simp [line, he, ho, List.flatMap_congr hst]
  · -- only the head of the chain emits, right after the outputs so far
    obtain ⟨q, rfl⟩ := hT.emit a m₀ o (hm₀.subset (by simp)) ho
    have hq : q.flatMap (T.stage s') = q.flatMap (T.stage s) := List.flatMap_congr fun x hx =>
      hother x (by rintro rfl; exact (List.nodup_cons.mp hT.nodup).1 hx)
    simp [line, he, hq, ha]

/-- A worker's step leaves the line as it is, unless a send is dropped. -/
theorem line_move (hT : T.Along rt chain) (hh : HoldsSuffix rt s) (hs : Serial s)
    (hm : Move rt s out s') (hs' : Serial s') (hd : s'.dropped = s.dropped) :
    T.line chain s' = T.line chain s := by
  cases hm with
  | enter hw hr => exact line_eq_of_stage_eq rfl fun x _ => stage_eq_of_swap hw rfl rfl rfl
  | leave hw hr => exact line_eq_of_stage_eq rfl fun x _ => stage_eq_of_swap hw rfl rfl rfl
  | skip hw hq => exact line_eq_of_stage_eq rfl fun x _ => stage_eq_of_swap hw rfl rfl rfl
  | ret hw =>
    exact line_eq_of_stage_eq rfl fun x _ => stage_eq_of_swap hw rfl (by simp [worker]) rfl
  | pop hw hq => exact line_pop hT hw hq rfl rfl rfl hs'
  | send hw _ => exact line_send hT hh hs hw rfl rfl rfl hs'
  | drop hw _ => simp at hd
  | emit hw => exact line_emit hT hh hs hw rfl rfl rfl hs'
  | fail hw =>
    refine line_eq_of_stage_eq rfl fun x _ => stage_eq_of_swap hw rfl ?_ rfl
    simp [worker, act]

theorem line_receive (hT : T.Along rt chain) {d : ι} {m : π}
    (hd : T.message d m = [] ∨ ∃ p, chain = p ++ [d])
    (hr : (s.receive rt d m).refused = s.refused) :
    T.line chain (s.receive rt d m) = T.line chain s ++ T.message d m ∧
      (s.receive rt d m).accepted = s.accepted ++ [(d, m)] := by
  by_cases hroom : s.Room rt d
  · rw [receive_of_room m hroom]
    refine ⟨?_, rfl⟩
    have hother : ∀ x, x ≠ d → T.stage { s.enqueue d m with accepted := s.accepted ++ [(d, m)] } x =
        T.stage s x := fun x hx => by
      simp only [stage, enqueue_mailbox_of_ne s m hx]
      rfl
    have hself : T.stage { s.enqueue d m with accepted := s.accepted ++ [(d, m)] } d =
        T.stage s d ++ T.message d m := by
      simp only [stage, enqueue_queue_self, List.flatMap_append, List.flatMap_cons,
        List.flatMap_nil, List.append_nil, ← List.append_assoc]
      rfl
    -- the back of the last stage is the end of the line
    rcases hd with hd | ⟨p, rfl⟩
    · rw [hd, List.append_nil] at hself ⊢
      refine line_eq_of_stage_eq rfl fun x _ => ?_
      by_cases hx : x = d
      · rw [hx, hself]
      · exact hother x hx
    · have hp : ∀ x ∈ p, x ≠ d := fun x hx =>
        (List.nodup_append.mp hT.nodup).2.2 x hx d (by simp)
      simp only [line, List.flatMap_append, List.flatMap_cons, List.flatMap_nil, List.append_nil,
        hself, List.flatMap_congr fun x hx => hother x (hp x hx), List.append_assoc]
      rfl
  · rw [receive_of_not_room m hroom] at hr
    simp at hr

/-- What was accepted since `s₀` has been added to the line of `s₀`, in that order. -/
def Lined (T : Trail ι π ω β) (chain : List ι) (s₀ s : State ι π ω ε) : Prop :=
  ∃ xs, s.accepted = s₀.accepted ++ xs ∧
    T.line chain s = T.line chain s₀ ++ xs.flatMap fun x => T.message x.1 x.2

theorem Lined.refl (T : Trail ι π ω β) (chain : List ι) (s : State ι π ω ε) :
    Lined T chain s s := ⟨[], by simp, by simp⟩

theorem Lined.change {s₀ : State ι π ω ε} (hT : T.Along rt chain) (h : Lined T chain s₀ s)
    (hc : Change rt s s') (hh : HoldsSuffix rt s) (hs : Serial s) (hs' : Serial s')
    (hd : s'.dropped = s.dropped) (hr : s'.refused = s.refused)
    (hlast : ∀ x ∈ s'.accepted, T.message x.1 x.2 = [] ∨ ∃ p, chain = p ++ [x.1]) :
    Lined T chain s₀ s' := by
  obtain ⟨xs, hacc, hline⟩ := h
  cases hc with
  | stay => exact ⟨xs, hacc, hline⟩
  | halt => exact ⟨xs, hacc, hline⟩
  | move hm =>
    exact ⟨xs, hm.accepted.trans hacc, (line_move hT hh hs hm hs' hd).trans hline⟩
  | receive d m =>
    have hdm : T.message d m = [] ∨ ∃ p, chain = p ++ [d] := by
      by_cases hroom : s.Room rt d
      · exact hlast (d, m) (by rw [receive_of_room m hroom]; simp)
      · rw [receive_of_not_room m hroom] at hr
        simp at hr
    obtain ⟨hl, ha⟩ := line_receive hT hdm hr
    refine ⟨xs ++ [(d, m)], by rw [ha, hacc, List.append_assoc], ?_⟩
    rw [hl, hline, List.flatMap_append, List.append_assoc]
    simp

theorem line_of_idle (hb : s.workers.filterMap Worker.actor? = [])
    (hq : ∀ a ∈ chain, (s.mailbox a).queue = []) : T.line chain s = s.emitted.flatMap T.output := by
  have hstage : ∀ a ∈ chain, T.stage s a = [] := by
    intro a ha
    rw [stage, hq a ha, flatMap_worker_eq_nil (by simp [hb])]
    rfl
  rw [line, List.flatMap_eq_nil_iff.mpr hstage, List.append_nil]

/-- The outputs since an idle state are a prefix of the trails of what was accepted
since then. -/
theorem Lined.outputs_behind {s₀ : State ι π ω ε} (h : Lined T chain s₀ s)
    (hb : s₀.workers.filterMap Worker.actor? = [])
    (hq : ∀ a ∈ chain, (s₀.mailbox a).queue = []) {ys : List ω}
    (he : s.emitted = s₀.emitted ++ ys) :
    ∃ xs, s.accepted = s₀.accepted ++ xs ∧
      ys.flatMap T.output <+: xs.flatMap fun x => T.message x.1 x.2 := by
  obtain ⟨xs, hacc, hline⟩ := h
  refine ⟨xs, hacc, chain.flatMap (T.stage s), ?_⟩
  rw [line_of_idle hb hq, line, he, List.flatMap_append, List.append_assoc] at hline
  exact List.append_cancel_left hline

end Trail

end ActorRuntime
