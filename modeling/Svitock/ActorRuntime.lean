import Mathlib.Algebra.BigOperators.Group.Finset.Basic
import Mathlib.Data.Fintype.Basic
import Mathlib.Logic.Function.Basic

/-!
# A pool of workers over bounded mailboxes

Actors of an arbitrary type `ι` own one bounded FIFO mailbox each. Every worker
of a pool visits the mailboxes in a fixed order, pops at most one message from
each and runs the owner's handler on it. A handler is the list of its atomic
actions: it sends a message, emits an output or fails. Actions of different
workers interleave; a failing action ends the whole system.

The state carries the history that statements about whole runs speak of: the
messages accepted from outside and those refused, the sends between actors that
were dropped, the outputs and the failures.
-/

namespace ActorRuntime

/-- One atomic action of a handler. -/
inductive Act (ι π ω ε : Type*)
  | send (dest : ι) (message : π)
  | emit (output : ω)
  | fail (error : ε)

structure Mailbox (π : Type*) where
  queue : List π
  capacity : ℕ
  active : Bool

def Mailbox.withQueue {π : Type*} (b : Mailbox π) (q : List π) : Mailbox π :=
  { b with queue := q }

@[simp] theorem Mailbox.withQueue_queue {π : Type*} (b : Mailbox π) (q : List π) :
    (b.withQueue q).queue = q := rfl

/-- A push is refused by an inactive mailbox and by a full one. -/
def Mailbox.push {π : Type*} (b : Mailbox π) (m : π) : Mailbox π × Bool :=
  if b.active = false then (b, false)
  else if b.queue.length < b.capacity then (b.withQueue (b.queue ++ [m]), true)
  else (b, false)

def Mailbox.pop {π : Type*} (b : Mailbox π) : Option (π × Mailbox π) :=
  match b.queue with
  | [] => none
  | m :: q => some (m, b.withQueue q)

/-- A worker is between two mailboxes of its round, inside a handler with the
actions it still has to take, or gone. `poll []` is the head of its loop. -/
inductive Worker (ι π ω ε : Type*)
  | poll (rest : List ι)
  | busy (actor : ι) (todo : List (Act ι π ω ε)) (rest : List ι)
  | exited

def Worker.isExited {ι π ω ε : Type*} : Worker ι π ω ε → Bool
  | .exited => true
  | _ => false

structure State (ι π ω ε : Type*) where
  mailbox : ι → Mailbox π
  workers : List (Worker ι π ω ε)
  running : Bool
  accepted : List (ι × π)
  refused : List (ι × π)
  dropped : List (ι × π)
  emitted : List ω
  failed : List ε

/-- What the workers run: the actors in the order of a round, and their handlers. -/
structure Runtime (ι π ω ε : Type*) where
  order : List ι
  handle : ι → π → List (Act ι π ω ε)

inductive Outcome (ι π ω ε : Type*)
  | idle
  | popped (actor : ι) (message : π)
  | sent (dest : ι) (message : π) (ok : Bool)
  | emitted (output : ω)
  | failed (error : ε)
  | returned

variable {ι π ω ε : Type*} [DecidableEq ι]

/-- Sending looks the destination up among the actors and pushes. -/
def State.send (rt : Runtime ι π ω ε) (s : State ι π ω ε) (d : ι) (m : π) : State ι π ω ε × Bool :=
  if d ∈ rt.order then
    let (b, ok) := (s.mailbox d).push m
    ({ s with mailbox := Function.update s.mailbox d b }, ok)
  else (s, false)

def State.receive (rt : Runtime ι π ω ε) (s : State ι π ω ε) (d : ι) (m : π) : State ι π ω ε :=
  match s.send rt d m with
  | (s', true) => { s' with accepted := s'.accepted ++ [(d, m)] }
  | (s', false) => { s' with refused := s'.refused ++ [(d, m)] }

def State.halt (s : State ι π ω ε) : State ι π ω ε := { s with running := false }

def State.perform (rt : Runtime ι π ω ε) (s : State ι π ω ε) (i : ℕ) (w : Worker ι π ω ε) :
    Act ι π ω ε → Outcome ι π ω ε × State ι π ω ε
  | .send d m =>
    match s.send rt d m with
    | (s', true) => (.sent d m true, { s' with workers := s'.workers.set i w })
    | (s', false) =>
      (.sent d m false, { s' with workers := s'.workers.set i w, dropped := s'.dropped ++ [(d, m)] })
  | .emit o => (.emitted o, { s with workers := s.workers.set i w, emitted := s.emitted ++ [o] })
  | .fail e => (.failed e, { s with workers := s.workers.set i w, failed := s.failed ++ [e] })

/-- One step of worker `i`. The flag is read at the head of the loop only, so a
worker that is told to stop still finishes its round. After a failure nobody
moves. -/
def State.workerStep (rt : Runtime ι π ω ε) (s : State ι π ω ε) (i : ℕ) :
    Option (Outcome ι π ω ε × State ι π ω ε) :=
  if s.failed.isEmpty = false then none else
  match s.workers[i]? with
  | none => none
  | some .exited => none
  | some (.poll []) =>
    if s.running then some (.idle, { s with workers := s.workers.set i (.poll rt.order) })
    else some (.idle, { s with workers := s.workers.set i .exited })
  | some (.poll (a :: rest)) =>
    match (s.mailbox a).pop with
    | none => some (.idle, { s with workers := s.workers.set i (.poll rest) })
    | some (m, b) =>
      some (.popped a m, { s with
        workers := s.workers.set i (.busy a (rt.handle a m) rest)
        mailbox := Function.update s.mailbox a b })
  | some (.busy _ [] rest) => some (.returned, { s with workers := s.workers.set i (.poll rest) })
  | some (.busy a (act :: todo) rest) => some (s.perform rt i (.busy a todo rest) act)

def State.enqueue (s : State ι π ω ε) (d : ι) (m : π) : State ι π ω ε :=
  { s with
    mailbox := Function.update s.mailbox d
      ((s.mailbox d).withQueue ((s.mailbox d).queue ++ [m])) }

@[simp] theorem enqueue_queue_self (s : State ι π ω ε) (d : ι) (m : π) :
    ((s.enqueue d m).mailbox d).queue = (s.mailbox d).queue ++ [m] := by
  simp [State.enqueue]

theorem enqueue_mailbox_of_ne (s : State ι π ω ε) {a d : ι} (m : π) (h : a ≠ d) :
    (s.enqueue d m).mailbox a = s.mailbox a := by
  simp [State.enqueue, h]

def State.Room (rt : Runtime ι π ω ε) (s : State ι π ω ε) (d : ι) : Prop :=
  d ∈ rt.order ∧ (s.mailbox d).active = true ∧
    (s.mailbox d).queue.length < (s.mailbox d).capacity

/-- Every step that worker `k` can take. -/
inductive Turn (rt : Runtime ι π ω ε) (s : State ι π ω ε) (k : ℕ) :
    Outcome ι π ω ε → State ι π ω ε → Prop
  | enter (hk : s.workers[k]? = some (.poll [])) (hr : s.running = true) :
      Turn rt s k .idle { s with workers := s.workers.set k (.poll rt.order) }
  | leave (hk : s.workers[k]? = some (.poll [])) (hr : s.running = false) :
      Turn rt s k .idle { s with workers := s.workers.set k .exited }
  | skip {a : ι} {rest : List ι} (hk : s.workers[k]? = some (.poll (a :: rest)))
      (hq : (s.mailbox a).queue = []) :
      Turn rt s k .idle { s with workers := s.workers.set k (.poll rest) }
  | pop {a : ι} {rest : List ι} {m : π} {q : List π}
      (hk : s.workers[k]? = some (.poll (a :: rest))) (hq : (s.mailbox a).queue = m :: q) :
      Turn rt s k (.popped a m) { s with
        workers := s.workers.set k (.busy a (rt.handle a m) rest)
        mailbox := Function.update s.mailbox a ((s.mailbox a).withQueue q) }
  | send {a d : ι} {m : π} {todo : List (Act ι π ω ε)} {rest : List ι}
      (hk : s.workers[k]? = some (.busy a (.send d m :: todo) rest)) (hd : s.Room rt d) :
      Turn rt s k (.sent d m true) { s with
        workers := s.workers.set k (.busy a todo rest)
        mailbox := (s.enqueue d m).mailbox }
  | drop {a d : ι} {m : π} {todo : List (Act ι π ω ε)} {rest : List ι}
      (hk : s.workers[k]? = some (.busy a (.send d m :: todo) rest)) (hd : ¬ s.Room rt d) :
      Turn rt s k (.sent d m false) { s with
        workers := s.workers.set k (.busy a todo rest)
        dropped := s.dropped ++ [(d, m)] }
  | emit {a : ι} {o : ω} {todo : List (Act ι π ω ε)} {rest : List ι}
      (hk : s.workers[k]? = some (.busy a (.emit o :: todo) rest)) :
      Turn rt s k (.emitted o) { s with
        workers := s.workers.set k (.busy a todo rest)
        emitted := s.emitted ++ [o] }
  | fail {a : ι} {e : ε} {todo : List (Act ι π ω ε)} {rest : List ι}
      (hk : s.workers[k]? = some (.busy a (.fail e :: todo) rest)) :
      Turn rt s k (.failed e) { s with
        workers := s.workers.set k (.busy a todo rest)
        failed := s.failed ++ [e] }
  | ret {a : ι} {rest : List ι} (hk : s.workers[k]? = some (.busy a [] rest)) :
      Turn rt s k .returned { s with workers := s.workers.set k (.poll rest) }

/-- The same steps without the number of the worker, its place in the list of
workers made visible. -/
inductive Move (rt : Runtime ι π ω ε) (s : State ι π ω ε) :
    Outcome ι π ω ε → State ι π ω ε → Prop
  | enter {l r : List (Worker ι π ω ε)} (hw : s.workers = l ++ .poll [] :: r)
      (hr : s.running = true) :
      Move rt s .idle { s with workers := l ++ .poll rt.order :: r }
  | leave {l r : List (Worker ι π ω ε)} (hw : s.workers = l ++ .poll [] :: r)
      (hr : s.running = false) :
      Move rt s .idle { s with workers := l ++ .exited :: r }
  | skip {l r : List (Worker ι π ω ε)} {a : ι} {rest : List ι}
      (hw : s.workers = l ++ .poll (a :: rest) :: r) (hq : (s.mailbox a).queue = []) :
      Move rt s .idle { s with workers := l ++ .poll rest :: r }
  | pop {l r : List (Worker ι π ω ε)} {a : ι} {rest : List ι} {m : π} {q : List π}
      (hw : s.workers = l ++ .poll (a :: rest) :: r) (hq : (s.mailbox a).queue = m :: q) :
      Move rt s (.popped a m) { s with
        workers := l ++ .busy a (rt.handle a m) rest :: r
        mailbox := Function.update s.mailbox a ((s.mailbox a).withQueue q) }
  | send {l r : List (Worker ι π ω ε)} {a d : ι} {m : π} {todo : List (Act ι π ω ε)}
      {rest : List ι} (hw : s.workers = l ++ .busy a (.send d m :: todo) rest :: r)
      (hd : s.Room rt d) :
      Move rt s (.sent d m true)
        { s with
          workers := l ++ .busy a todo rest :: r
          mailbox := (s.enqueue d m).mailbox }
  | drop {l r : List (Worker ι π ω ε)} {a d : ι} {m : π} {todo : List (Act ι π ω ε)}
      {rest : List ι} (hw : s.workers = l ++ .busy a (.send d m :: todo) rest :: r)
      (hd : ¬ s.Room rt d) :
      Move rt s (.sent d m false)
        { s with workers := l ++ .busy a todo rest :: r, dropped := s.dropped ++ [(d, m)] }
  | emit {l r : List (Worker ι π ω ε)} {a : ι} {o : ω} {todo : List (Act ι π ω ε)}
      {rest : List ι} (hw : s.workers = l ++ .busy a (.emit o :: todo) rest :: r) :
      Move rt s (.emitted o)
        { s with workers := l ++ .busy a todo rest :: r, emitted := s.emitted ++ [o] }
  | fail {l r : List (Worker ι π ω ε)} {a : ι} {e : ε} {todo : List (Act ι π ω ε)}
      {rest : List ι} (hw : s.workers = l ++ .busy a (.fail e :: todo) rest :: r) :
      Move rt s (.failed e)
        { s with workers := l ++ .busy a todo rest :: r, failed := s.failed ++ [e] }
  | ret {l r : List (Worker ι π ω ε)} {a : ι} {rest : List ι}
      (hw : s.workers = l ++ .busy a [] rest :: r) :
      Move rt s .returned { s with workers := l ++ .poll rest :: r }

theorem send_of_room {rt : Runtime ι π ω ε} {s : State ι π ω ε} {d : ι} (m : π)
    (h : s.Room rt d) : s.send rt d m = (s.enqueue d m, true) := by
  obtain ⟨hd, ha, hl⟩ := h
  simp [State.send, State.enqueue, Mailbox.push, hd, ha, hl]

theorem send_of_not_room {rt : Runtime ι π ω ε} {s : State ι π ω ε} {d : ι} (m : π)
    (h : ¬ s.Room rt d) : s.send rt d m = (s, false) := by
  unfold State.send
  split_ifs with hd
  · have hp : (s.mailbox d).push m = (s.mailbox d, false) := by
      unfold Mailbox.push
      split_ifs with ha hl
      · rfl
      · exact absurd ⟨hd, by simpa using ha, hl⟩ h
      · rfl
    simp [hp]
  · rfl

theorem split_getElem? {α : Type*} {xs : List α} {i : ℕ} {x : α} (h : xs[i]? = some x) :
    ∃ l r, xs = l ++ x :: r ∧ ∀ y, xs.set i y = l ++ y :: r := by
  obtain ⟨hi, rfl⟩ := List.getElem?_eq_some_iff.mp h
  refine ⟨xs.take i, xs.drop (i + 1), by simp, fun y => ?_⟩
  rw [List.set_eq_take_append_cons_drop, if_pos hi]

theorem perform_turn {rt : Runtime ι π ω ε} {s : State ι π ω ε} {k : ℕ} {a : ι}
    {act : Act ι π ω ε} {todo : List (Act ι π ω ε)} {rest : List ι}
    (hk : s.workers[k]? = some (.busy a (act :: todo) rest)) :
    Turn rt s k (s.perform rt k (.busy a todo rest) act).1
      (s.perform rt k (.busy a todo rest) act).2 := by
  cases act with
  | send d m =>
    by_cases hd : s.Room rt d
    · simp only [State.perform, send_of_room m hd]
      exact .send hk hd
    · simp only [State.perform, send_of_not_room m hd]
      exact .drop hk hd
  | emit o => exact .emit hk
  | fail e => exact .fail hk

theorem workerStep_turn {rt : Runtime ι π ω ε} {s s' : State ι π ω ε} {k : ℕ}
    {out : Outcome ι π ω ε} (h : s.workerStep rt k = some (out, s')) : Turn rt s k out s' := by
  unfold State.workerStep at h
  by_cases hf : s.failed.isEmpty = false
  · simp [hf] at h
  rw [if_neg hf] at h
  split at h
  case h_1 => cases h
  case h_2 => cases h
  case h_3 hk =>
    split at h
    case isTrue hr =>
      cases h
      exact .enter hk hr
    case isFalse hr =>
      cases h
      exact .leave hk (by simpa using hr)
  case h_4 a rest hk =>
    unfold Mailbox.pop at h
    cases hq : (s.mailbox a).queue with
    | nil =>
      simp only [hq] at h
      cases h
      exact .skip hk hq
    | cons m q =>
      simp only [hq] at h
      cases h
      exact .pop hk hq
  case h_5 hk =>
    cases h
    exact .ret hk
  case h_6 a act todo rest hk =>
    -- the pair that `perform` returns is `(out, s')`
    have ht : Turn rt s k _ _ := perform_turn hk
    rw [Option.some.inj h] at ht
    exact ht

theorem Turn.not_exited {rt : Runtime ι π ω ε} {s s' : State ι π ω ε} {k : ℕ}
    {out : Outcome ι π ω ε} (h : Turn rt s k out s') :
    ∃ w, s.workers[k]? = some w ∧ w ≠ .exited := by
  cases h <;> exact ⟨_, ‹_›, by simp⟩

theorem Turn.move {rt : Runtime ι π ω ε} {s s' : State ι π ω ε} {k : ℕ} {out : Outcome ι π ω ε}
    (h : Turn rt s k out s') : Move rt s out s' := by
  cases h with
  | enter hk hr =>
    obtain ⟨l, r, hw, hset⟩ := split_getElem? hk
    rw [hset]
    exact .enter hw hr
  | leave hk hr =>
    obtain ⟨l, r, hw, hset⟩ := split_getElem? hk
    rw [hset]
    exact .leave hw hr
  | skip hk hq =>
    obtain ⟨l, r, hw, hset⟩ := split_getElem? hk
    rw [hset]
    exact .skip hw hq
  | pop hk hq =>
    obtain ⟨l, r, hw, hset⟩ := split_getElem? hk
    rw [hset]
    exact .pop hw hq
  | send hk hd =>
    obtain ⟨l, r, hw, hset⟩ := split_getElem? hk
    rw [hset]
    exact .send hw hd
  | drop hk hd =>
    obtain ⟨l, r, hw, hset⟩ := split_getElem? hk
    rw [hset]
    exact .drop hw hd
  | emit hk =>
    obtain ⟨l, r, hw, hset⟩ := split_getElem? hk
    rw [hset]
    exact .emit hw
  | fail hk =>
    obtain ⟨l, r, hw, hset⟩ := split_getElem? hk
    rw [hset]
    exact .fail hw
  | ret hk =>
    obtain ⟨l, r, hw, hset⟩ := split_getElem? hk
    rw [hset]
    exact .ret hw

theorem workerStep_move {rt : Runtime ι π ω ε} {s s' : State ι π ω ε} {k : ℕ}
    {out : Outcome ι π ω ε} (h : s.workerStep rt k = some (out, s')) : Move rt s out s' :=
  (workerStep_turn h).move

theorem receive_of_room {rt : Runtime ι π ω ε} {s : State ι π ω ε} {d : ι} (m : π)
    (h : s.Room rt d) :
    s.receive rt d m = { s.enqueue d m with accepted := s.accepted ++ [(d, m)] } := by
  simp only [State.receive, send_of_room m h]
  rfl

theorem receive_of_not_room {rt : Runtime ι π ω ε} {s : State ι π ω ε} {d : ι} (m : π)
    (h : ¬ s.Room rt d) :
    s.receive rt d m = { s with refused := s.refused ++ [(d, m)] } := by
  simp only [State.receive, send_of_not_room m h]

@[simp] theorem receive_workers (rt : Runtime ι π ω ε) (s : State ι π ω ε) (d : ι) (m : π) :
    (s.receive rt d m).workers = s.workers := by
  by_cases hd : s.Room rt d
  · rw [receive_of_room m hd]
    rfl
  · rw [receive_of_not_room m hd]

@[simp] theorem receive_dropped (rt : Runtime ι π ω ε) (s : State ι π ω ε) (d : ι) (m : π) :
    (s.receive rt d m).dropped = s.dropped := by
  by_cases hd : s.Room rt d
  · rw [receive_of_room m hd]
    rfl
  · rw [receive_of_not_room m hd]

@[simp] theorem receive_emitted (rt : Runtime ι π ω ε) (s : State ι π ω ε) (d : ι) (m : π) :
    (s.receive rt d m).emitted = s.emitted := by
  by_cases hd : s.Room rt d
  · rw [receive_of_room m hd]
    rfl
  · rw [receive_of_not_room m hd]

theorem receive_mailbox_of_ne (rt : Runtime ι π ω ε) (s : State ι π ω ε) {a d : ι} (m : π)
    (h : a ≠ d) : (s.receive rt d m).mailbox a = s.mailbox a := by
  by_cases hd : s.Room rt d
  · rw [receive_of_room m hd]
    exact enqueue_mailbox_of_ne s m h
  · rw [receive_of_not_room m hd]

def Outcome.outputs : Outcome ι π ω ε → List ω
  | .emitted o => [o]
  | _ => []

def Outcome.failures : Outcome ι π ω ε → List ε
  | .failed e => [e]
  | _ => []

theorem Move.emitted {rt : Runtime ι π ω ε} {s s' : State ι π ω ε} {out : Outcome ι π ω ε}
    (h : Move rt s out s') : s'.emitted = s.emitted ++ out.outputs := by
  cases h <;> simp [Outcome.outputs]

theorem Move.failed {rt : Runtime ι π ω ε} {s s' : State ι π ω ε} {out : Outcome ι π ω ε}
    (h : Move rt s out s') : s'.failed = s.failed ++ out.failures := by
  cases h <;> simp [Outcome.failures]

theorem Move.accepted {rt : Runtime ι π ω ε} {s s' : State ι π ω ε} {out : Outcome ι π ω ε}
    (h : Move rt s out s') : s'.accepted = s.accepted := by
  cases h <;> rfl

theorem Move.refused {rt : Runtime ι π ω ε} {s s' : State ι π ω ε} {out : Outcome ι π ω ε}
    (h : Move rt s out s') : s'.refused = s.refused := by
  cases h <;> rfl

inductive Change (rt : Runtime ι π ω ε) (s : State ι π ω ε) : State ι π ω ε → Prop
  | stay : Change rt s s
  | receive (d : ι) (m : π) : Change rt s (s.receive rt d m)
  | move {out : Outcome ι π ω ε} {s' : State ι π ω ε} : Move rt s out s' → Change rt s s'
  | halt : Change rt s s.halt

theorem Change.workers_length {rt : Runtime ι π ω ε} {s s' : State ι π ω ε}
    (h : Change rt s s') : s'.workers.length = s.workers.length := by
  cases h with
  | stay => rfl
  | halt => rfl
  | receive d m => rw [receive_workers]
  | move hm => cases hm <;> simp [*]

theorem Change.dropped_grows {rt : Runtime ι π ω ε} {s s' : State ι π ω ε}
    (h : Change rt s s') : s.dropped <+: s'.dropped := by
  cases h with
  | stay => exact List.prefix_rfl
  | halt => exact List.prefix_rfl
  | receive d m => rw [receive_dropped]
  | move hm =>
    cases hm with
    | drop hw hd => exact List.prefix_append _ _
    | _ => exact List.prefix_rfl

theorem Change.refused_grows {rt : Runtime ι π ω ε} {s s' : State ι π ω ε}
    (h : Change rt s s') : s.refused <+: s'.refused := by
  cases h with
  | stay => exact List.prefix_rfl
  | halt => exact List.prefix_rfl
  | receive d m =>
    by_cases hd : s.Room rt d
    · rw [receive_of_room m hd]
      exact List.prefix_rfl
    · rw [receive_of_not_room m hd]
      exact List.prefix_append _ _
  | move hm => rw [hm.refused]

theorem Change.emitted_grows {rt : Runtime ι π ω ε} {s s' : State ι π ω ε}
    (h : Change rt s s') : s.emitted <+: s'.emitted := by
  cases h with
  | stay => exact List.prefix_rfl
  | halt => exact List.prefix_rfl
  | receive d m => rw [receive_emitted]
  | move hm =>
    rw [hm.emitted]
    exact List.prefix_append _ _

end ActorRuntime
