import Svitock.RuntimeInvariants
import Svitock.RuntimeLoad
import Mathlib.Data.List.Infix

namespace ActorRuntime

variable {ι π ω ε : Type*} [DecidableEq ι] {rt : Runtime ι π ω ε} {s s' : State ι π ω ε}
  {out : Outcome ι π ω ε} {a : ι} {k j : ℕ}

def Worker.rest : Worker ι π ω ε → List ι
  | .poll rest => rest
  | .busy _ _ rest => rest
  | .exited => []

def Worker.ahead : Worker ι π ω ε → List ι
  | .poll rest => rest
  | .busy a _ rest => a :: rest
  | .exited => []

def InRound (rt : Runtime ι π ω ε) (s : State ι π ω ε) : Prop :=
  ∀ w ∈ s.workers, w.ahead <:+ rt.order

theorem InRound.change (h : InRound rt s) (hc : Change rt s s') : InRound rt s' := by
  cases hc with
  | stay => exact h
  | halt => exact h
  | receive d m =>
    rw [InRound, receive_workers]
    exact h
  | move hm =>
    have swap {l r : List (Worker ι π ω ε)} {w w' : Worker ι π ω ε}
        (hw : s.workers = l ++ w :: r) (hsub : w'.ahead <:+ w.ahead) :
        ∀ x ∈ l ++ w' :: r, x.ahead <:+ rt.order :=
      forall_workers_swap h hw (hsub.trans (h w (by simp [hw])))
    cases hm with
    | enter hw hr => exact forall_workers_swap h hw List.suffix_rfl
    | leave hw hr => exact swap hw List.nil_suffix
    | skip hw hq => exact swap hw (List.suffix_cons _ _)
    | ret hw => exact swap hw (List.suffix_cons _ _)
    | pop hw hq => exact swap hw List.suffix_rfl
    | send hw hd => exact swap hw List.suffix_rfl
    | drop hw hd => exact swap hw List.suffix_rfl
    | emit hw => exact swap hw List.suffix_rfl
    | fail hw => exact swap hw List.suffix_rfl

omit [DecidableEq ι] in
theorem Worker.rest_suffix_ahead (w : Worker ι π ω ε) : w.rest <:+ w.ahead := by
  cases w with
  | poll rest => exact List.suffix_rfl
  | busy a todo rest => exact List.suffix_cons _ _
  | exited => exact List.suffix_rfl

def Within (c : ℕ) (s : State ι π ω ε) : Prop :=
  ∀ a, (s.mailbox a).capacity = c ∧ (s.mailbox a).queue.length ≤ c

theorem Within.enqueue {c : ℕ} (h : Within c s) {d : ι} (m : π) (hd : s.Room rt d) (a : ι) :
    ((s.enqueue d m).mailbox a).queue.length ≤ c := by
  by_cases had : a = d
  · subst had
    have hroom := hd.2.2
    rw [(h a).1] at hroom
    rw [enqueue_queue_self, List.length_append, List.length_singleton]
    omega
  · rw [enqueue_mailbox_of_ne s m had]
    exact (h a).2

theorem Within.change {c : ℕ} (h : Within c s) (hc : Change rt s s') : Within c s' := by
  intro a
  refine ⟨(hc.mailbox a).1.trans (h a).1, ?_⟩
  cases hc with
  | stay => exact (h a).2
  | halt => exact (h a).2
  | receive d m =>
    by_cases hd : s.Room rt d
    · rw [receive_of_room m hd]
      exact h.enqueue m hd a
    · rw [receive_of_not_room m hd]
      exact (h a).2
  | move hm =>
    cases hm with
    | @pop l r b rest m q hw hq =>
      by_cases hb : a = b
      · subst hb
        have hlength := (h a).2
        rw [hq, List.length_cons] at hlength
        simp only [Function.update_self, Mailbox.withQueue_queue]
        omega
      · simpa only [Function.update_of_ne hb] using (h a).2
    | send hw hd => exact h.enqueue _ hd a
    | _ => exact (h a).2

def State.startsRound (s : State ι π ω ε) (k : ℕ) : Bool :=
  match s.workers[k]? with
  | some (.poll []) => s.running
  | _ => false

def State.takes (s : State ι π ω ε) (a : ι) (k : ℕ) : List π :=
  match s.workers[k]? with
  | some (.poll (b :: _)) => if b = a then (s.mailbox a).queue.head?.toList else []
  | _ => []

/-- How often worker `k` still visits `a` in its round. -/
def State.visitsLeft (s : State ι π ω ε) (a : ι) (k : ℕ) : ℕ :=
  (s.workers[k]?).elim 0 fun w => w.rest.count a

theorem visitsLeft_le_one (h : InRound rt s) (hnodup : rt.order.Nodup) :
    s.visitsLeft a k ≤ 1 := by
  unfold State.visitsLeft
  cases hk : s.workers[k]? with
  | none => simp
  | some w =>
    have hsuffix := w.rest_suffix_ahead.trans (h w (List.mem_of_getElem? hk))
    exact (hsuffix.sublist.count_le a).trans (List.nodup_iff_count_le_one.mp hnodup a)

theorem visitsLeft_set_ne {w : Worker ι π ω ε} (hj : j ≠ k)
    (hw : s'.workers = s.workers.set j w) : s'.visitsLeft a k = s.visitsLeft a k := by
  rw [State.visitsLeft, hw, List.getElem?_set_ne hj, State.visitsLeft]

theorem Turn.queue (h : Turn rt s j out s') (a : ι) :
    ∃ pushed, s.takes a j ++ (s'.mailbox a).queue = (s.mailbox a).queue ++ pushed := by
  cases h with
  | enter hk hr => exact ⟨[], by simp [State.takes, hk]⟩
  | leave hk hr => exact ⟨[], by simp [State.takes, hk]⟩
  | @skip b rest hk hq =>
    by_cases hb : b = a
    · subst hb
      exact ⟨[], by simp [State.takes, hk, hq]⟩
    · exact ⟨[], by simp [State.takes, hk, hb]⟩
  | @pop b rest m q hk hq =>
    by_cases hb : b = a
    · subst hb
      exact ⟨[], by simp [State.takes, hk, hq]⟩
    · exact ⟨[], by simp [State.takes, hk, hb, Function.update_of_ne (Ne.symm hb)]⟩
  | @send b d m todo rest hk hd =>
    by_cases hd : a = d
    · subst hd
      exact ⟨[m], by simp [State.takes, hk]⟩
    · exact ⟨[], by simp [State.takes, hk, enqueue_mailbox_of_ne s m hd]⟩
  | drop hk hd => exact ⟨[], by simp [State.takes, hk]⟩
  | emit hk => exact ⟨[], by simp [State.takes, hk]⟩
  | fail hk => exact ⟨[], by simp [State.takes, hk]⟩
  | ret hk => exact ⟨[], by simp [State.takes, hk]⟩

theorem visitsLeft_set_self {w w' : Worker ι π ω ε} (hk : s.workers[k]? = some w)
    (hw : s'.workers = s.workers.set k w') : s'.visitsLeft a k = w'.rest.count a := by
  obtain ⟨hlt, -⟩ := List.getElem?_eq_some_iff.mp hk
  simp [State.visitsLeft, hw, hlt]

/-- A worker gains a visit of `a` only by beginning a round and loses one only by taking
a message from `a`, unless it finds nothing there. -/
theorem Turn.visits (h : Turn rt s k out s') (ha : a ∈ rt.order) :
    s.visitsLeft a k + (s.startsRound k).toNat ≤ s'.visitsLeft a k + (s.takes a k).length ∨
      (s.mailbox a).queue = [] := by
  have hold {w : Worker ι π ω ε} (hk : s.workers[k]? = some w) :
      s.visitsLeft a k = w.rest.count a := by simp [State.visitsLeft, hk]
  -- inside a handler the round stands still
  have hbusy {b : ι} {todo : List (Act ι π ω ε)} {rest : List ι} {w' : Worker ι π ω ε}
      (hk : s.workers[k]? = some (.busy b todo rest))
      (hnew : s'.visitsLeft a k = w'.rest.count a) (hrest : w'.rest = rest) :
      s.visitsLeft a k + (s.startsRound k).toNat ≤
        s'.visitsLeft a k + (s.takes a k).length := by
    rw [hold hk, hnew, hrest]
    simp [State.startsRound, hk, Worker.rest]
  cases h with
  | enter hk hr =>
    left
    have hcount : 0 < rt.order.count a := List.count_pos_iff.mpr ha
    rw [hold hk, visitsLeft_set_self hk rfl]
    simp only [State.startsRound, State.takes, hk, hr, Worker.rest, List.count_nil,
      Bool.toNat_true, List.length_nil]
    omega
  | leave hk hr =>
    left
    rw [hold hk, visitsLeft_set_self hk rfl]
    simp [State.startsRound, hk, hr, Worker.rest]
  | @skip b rest hk hq =>
    by_cases hb : b = a
    · right
      rwa [← hb]
    · left
      rw [hold hk, visitsLeft_set_self hk rfl]
      simp [State.startsRound, hk, Worker.rest, hb]
  | @pop b rest m q hk hq =>
    left
    rw [hold hk, visitsLeft_set_self hk rfl]
    by_cases hb : b = a
    · subst hb
      simp [State.startsRound, State.takes, hk, hq, Worker.rest]
    · simp [State.startsRound, hk, Worker.rest, hb]
  | send hk hd => exact .inl (hbusy hk (visitsLeft_set_self hk rfl) rfl)
  | drop hk hd => exact .inl (hbusy hk (visitsLeft_set_self hk rfl) rfl)
  | emit hk => exact .inl (hbusy hk (visitsLeft_set_self hk rfl) rfl)
  | fail hk => exact .inl (hbusy hk (visitsLeft_set_self hk rfl) rfl)
  | ret hk => exact .inl (hbusy hk (visitsLeft_set_self hk rfl) rfl)

theorem Turn.visitsLeft_other (h : Turn rt s j out s') (hj : j ≠ k) :
    s'.visitsLeft a k = s.visitsLeft a k := by
  cases h <;> exact visitsLeft_set_ne hj rfl

/-- Since the mailbox of `a` held `waiting`, worker `k` has begun `rounds` rounds and
`taken` was popped from the mailbox: in the order of arrival, and one message for each
visit as long as there was something to take. -/
structure Waited (a : ι) (k : ℕ) (waiting : List π) (rounds : ℕ) (taken : List π)
    (s : State ι π ω ε) : Prop where
  fifo : ∃ pushed, taken ++ (s.mailbox a).queue = waiting ++ pushed
  visited : rounds ≤ taken.length + s.visitsLeft a k ∨ waiting.length ≤ taken.length

theorem waited_start (a : ι) (k : ℕ) (s : State ι π ω ε) :
    Waited a k (s.mailbox a).queue 0 [] s :=
  ⟨⟨[], by simp⟩, .inl (Nat.zero_le _)⟩

variable {waiting taken : List π} {rounds : ℕ}

theorem Waited.empty (h : Waited a k waiting rounds taken s) (hq : (s.mailbox a).queue = []) :
    waiting.length ≤ taken.length := by
  obtain ⟨pushed, hfifo⟩ := h.fifo
  have hlength := congrArg List.length hfifo
  simp only [hq, List.append_nil, List.length_append] at hlength
  omega

theorem Waited.append {more : List π} (h : Waited a k waiting rounds taken s)
    (hq : ∃ pushed, more ++ (s'.mailbox a).queue = (s.mailbox a).queue ++ pushed) :
    ∃ pushed, (taken ++ more) ++ (s'.mailbox a).queue = waiting ++ pushed := by
  obtain ⟨pushed, hfifo⟩ := h.fifo
  obtain ⟨new, hnew⟩ := hq
  refine ⟨pushed ++ new, ?_⟩
  rw [List.append_assoc, hnew, ← List.append_assoc, hfifo, List.append_assoc]

theorem Waited.other (h : Waited a k waiting rounds taken s) (ht : Turn rt s j out s')
    (hj : j ≠ k) : Waited a k waiting rounds (taken ++ s.takes a j) s' := by
  refine ⟨h.append (ht.queue a), ?_⟩
  rw [ht.visitsLeft_other hj, List.length_append]
  rcases h.visited with hv | hv
  · left
    omega
  · right
    omega

theorem Waited.own (h : Waited a k waiting rounds taken s) (ht : Turn rt s k out s')
    (ha : a ∈ rt.order) :
    Waited a k waiting (rounds + (s.startsRound k).toNat) (taken ++ s.takes a k) s' := by
  refine ⟨h.append (ht.queue a), ?_⟩
  rw [List.length_append]
  rcases ht.visits ha with hstep | hempty
  · rcases h.visited with hv | hv
    · left
      omega
    · right
      omega
  · have hall := h.empty hempty
    right
    omega

/-- What else happens to the pool adds to the mailboxes at most. -/
theorem Waited.receive (h : Waited a k waiting rounds taken s) (d : ι) (m : π) :
    Waited a k waiting rounds taken (s.receive rt d m) := by
  have hvisits : (s.receive rt d m).visitsLeft a k = s.visitsLeft a k := by
    rw [State.visitsLeft, receive_workers, State.visitsLeft]
  refine ⟨?_, by rw [hvisits]; exact h.visited⟩
  have hq : ∃ pushed, [] ++ ((s.receive rt d m).mailbox a).queue =
      (s.mailbox a).queue ++ pushed := by
    by_cases hd : s.Room rt d
    · rw [receive_of_room m hd]
      by_cases had : a = d
      · subst had
        exact ⟨[m], by simp [State.enqueue]⟩
      · exact ⟨[], by simp [State.enqueue, had]⟩
    · rw [receive_of_not_room m hd]
      exact ⟨[], by simp⟩
  simpa using h.append hq

theorem Waited.first_taken (h : Waited a k waiting rounds taken s) (hround : InRound rt s)
    (hnodup : rt.order.Nodup) {n : ℕ} (hn : n + 1 ≤ rounds) : waiting.take n <+: taken := by
  obtain ⟨pushed, hfifo⟩ := h.fifo
  have hleft : s.visitsLeft a k ≤ 1 := visitsLeft_le_one hround hnodup
  have hlength : (waiting.take n).length ≤ taken.length := by
    rw [List.length_take]
    rcases h.visited with hv | hv
    · omega
    · omega
  have hwaiting : waiting.take n <+: waiting ++ pushed :=
    ⟨waiting.drop n ++ pushed, by rw [← List.append_assoc, List.take_append_drop]⟩
  have htaken : taken <+: waiting ++ pushed := by
    rw [← hfifo]
    exact List.prefix_append _ _
  exact List.prefix_of_prefix_length_le hwaiting htaken hlength

end ActorRuntime
