import Mathlib.Algebra.GroupWithZero.Nat
import Mathlib.Data.List.Perm.Basic
import Svitock.Transition

/-!
# Waiting for a signal

`main.cpp`: the process waits on a condition variable until a signal handler has set
`stopped`, and stops the server with the mutex still locked. A signal is delivered to any
thread and its handler runs on top of what that thread was doing, so a call of `onSignal`
may interrupt `main`, a thread of the server or another call. A thread that owns the mutex
and locks it again waits for itself.
-/

namespace Svitock

open Transition

namespace Process

/-- The thread of `main`, or one that the server started and joins when it stops. -/
inductive Thread
  | main
  | server (n : ℕ)
  deriving DecidableEq, Repr

/-- What a call of `onSignal` does next: lock, write `stopped`, unlock, notify. -/
inductive OnSignal
  | locking
  | writing
  | unlocking
  | notifying
  | returned
  deriving DecidableEq, Repr

/-- What `main` does next. It gets to its lock with or without a signal having come
before, as the handlers are installed before `server.run()`. -/
inductive Main
  | locking
  | checking
  | waiting
  | relocking
  | stopping
  | returned
  deriving DecidableEq, Repr

inductive Owner
  | main
  | onSignal (i : ℕ)
  deriving DecidableEq, Repr

structure Call where
  thread : Thread
  next : OnSignal
  deriving DecidableEq, Repr

def Call.active (c : Call) : Bool := c.next != .returned

def Call.owns (c : Call) : Bool := c.next == .writing || c.next == .unlocking

def Call.wrote (c : Call) : Bool :=
  c.next == .unlocking || c.next == .notifying || c.next == .returned

end Process

/-- The calls of `onSignal` are in the order in which the signals came. -/
structure Process where
  mutex : Option Process.Owner
  stopped : Bool
  main : Process.Main
  calls : List Process.Call
  deriving DecidableEq, Repr

namespace Process

def start : Process := ⟨none, false, .locking, []⟩

/-- Some call from the `n`-th on runs on top of what the thread does. -/
def interrupted (p : Process) (t : Thread) (n : ℕ) : Bool :=
  (p.calls.drop n).any fun c => c.thread == t && c.active

/-- `cv.notify_all()`: nobody but `main` ever waits. -/
def Main.notified : Main → Main
  | waiting => relocking
  | m => m

def onSignal (p : Process) (i : ℕ) (c : Call) : Option Process :=
  match c.next with
  | .locking =>
    if p.mutex = none then
      some { p with mutex := some (.onSignal i), calls := p.calls.set i ⟨c.thread, .writing⟩ }
    else none
  | .writing => some { p with stopped := true, calls := p.calls.set i ⟨c.thread, .unlocking⟩ }
  | .unlocking => some { p with mutex := none, calls := p.calls.set i ⟨c.thread, .notifying⟩ }
  | .notifying =>
    some { p with main := p.main.notified, calls := p.calls.set i ⟨c.thread, .returned⟩ }
  | .returned => none

def mainStep (p : Process) : Option Process :=
  match p.main with
  | .locking | .relocking =>
    if p.mutex = none then some { p with mutex := some .main, main := .checking } else none
  -- the wait gives the mutex up, `server.stop()` does not
  | .checking =>
    if p.stopped = true then some { p with main := .stopping }
    else some { p with mutex := none, main := .waiting }
  | .waiting => none
  -- the threads of the server are joined
  | .stopping =>
    if p.calls.all (fun c => c.thread == .main || !c.active) = true then
      some { p with mutex := none, main := .returned }
    else none
  | .returned => none

inductive Label
  | signal (t : Thread)
  | onSignal (i : ℕ)
  | main
  | spurious
  deriving DecidableEq, Repr

def step (p : Process) (l : Label) : Option Process :=
  if p.main = .returned then none
  else
    match l with
    | .signal t => some { p with calls := p.calls ++ [⟨t, .locking⟩] }
    | .onSignal i =>
      (p.calls[i]?).bind fun c =>
        if p.interrupted c.thread (i + 1) = true then none else p.onSignal i c
    | .main => if p.interrupted .main 0 = true then none else p.mainStep
    | .spurious => if p.main = .waiting then some { p with main := .relocking } else none

/-- The steps the program takes by itself. -/
def Label.own : Label → Bool
  | onSignal _ => true
  | main => true
  | _ => false

def Label.isSignal : Label → Bool
  | signal _ => true
  | _ => false

def ownerThread (p : Process) : Option Thread :=
  match p.mutex with
  | none => none
  | some .main => some .main
  | some (.onSignal i) => (p.calls[i]?).map Call.thread

/-- A step that is no obstacle to the end: a signal spares the thread that owns the mutex and
comes before `main` has the mutex with the flag set, and `main` does not take the mutex with
the flag set when a call is yet to lock it. -/
def Orderly (p : Process) : Label → Prop
  | .signal t => p.ownerThread ≠ some t ∧ (p.mutex = some .main → p.stopped = false)
  | .main => (p.main = .locking ∨ p.main = .relocking) → p.stopped = true →
      ∀ c ∈ p.calls, c.next ≠ .locking
  | _ => True

instance (p : Process) : (l : Label) → Decidable (Orderly p l)
  | .signal t => inferInstanceAs
      (Decidable (p.ownerThread ≠ some t ∧ (p.mutex = some .main → p.stopped = false)))
  | .onSignal _ => .isTrue trivial
  | .main => inferInstanceAs (Decidable ((p.main = .locking ∨ p.main = .relocking) →
      p.stopped = true → ∀ c ∈ p.calls, c.next ≠ .locking))
  | .spurious => .isTrue trivial

variable {p p' q : Process} {l : Label} {ls : List Label} {t : Thread} {i j : ℕ} {c : Call}

inductive Taken (p : Process) : Label → Process → Prop
  | signal (t : Thread) : Taken p (.signal t) { p with calls := p.calls ++ [⟨t, .locking⟩] }
  | lock {i : ℕ} {t : Thread} (hc : p.calls[i]? = some ⟨t, .locking⟩)
      (hi : p.interrupted t (i + 1) = false) (hm : p.mutex = none) :
      Taken p (.onSignal i)
        { p with mutex := some (.onSignal i), calls := p.calls.set i ⟨t, .writing⟩ }
  | write {i : ℕ} {t : Thread} (hc : p.calls[i]? = some ⟨t, .writing⟩)
      (hi : p.interrupted t (i + 1) = false) :
      Taken p (.onSignal i) { p with stopped := true, calls := p.calls.set i ⟨t, .unlocking⟩ }
  | unlock {i : ℕ} {t : Thread} (hc : p.calls[i]? = some ⟨t, .unlocking⟩)
      (hi : p.interrupted t (i + 1) = false) :
      Taken p (.onSignal i) { p with mutex := none, calls := p.calls.set i ⟨t, .notifying⟩ }
  | notify {i : ℕ} {t : Thread} (hc : p.calls[i]? = some ⟨t, .notifying⟩)
      (hi : p.interrupted t (i + 1) = false) :
      Taken p (.onSignal i)
        { p with main := p.main.notified, calls := p.calls.set i ⟨t, .returned⟩ }
  | mainLock (hp : p.main = .locking ∨ p.main = .relocking) (hm : p.mutex = none)
      (hi : p.interrupted .main 0 = false) :
      Taken p .main { p with mutex := some .main, main := .checking }
  | pass (hp : p.main = .checking) (hs : p.stopped = true)
      (hi : p.interrupted .main 0 = false) :
      Taken p .main { p with main := .stopping }
  | wait (hp : p.main = .checking) (hs : p.stopped = false)
      (hi : p.interrupted .main 0 = false) :
      Taken p .main { p with mutex := none, main := .waiting }
  | stop (hp : p.main = .stopping) (hi : p.interrupted .main 0 = false)
      (hj : ∀ c ∈ p.calls, c.thread = .main ∨ c.active = false) :
      Taken p .main { p with mutex := none, main := .returned }
  | spurious (hp : p.main = .waiting) : Taken p .spurious { p with main := .relocking }

theorem step_cases (h : step p l = some p') : p.main ≠ .returned ∧ Taken p l p' := by
  unfold step at h
  split at h
  · cases h
  refine ⟨‹_›, ?_⟩
  cases l with
  | signal t =>
    cases h
    exact .signal t
  | onSignal i =>
    obtain ⟨⟨t, next⟩, hc, h⟩ := Option.bind_eq_some_iff.mp h
    split_ifs at h with hi
    rw [Bool.not_eq_true] at hi
    cases next with
    | locking =>
      simp only [onSignal] at h
      split_ifs at h with hm
      cases h
      exact .lock hc hi hm
    | writing =>
      cases h
      exact .write hc hi
    | unlocking =>
      cases h
      exact .unlock hc hi
    | notifying =>
      cases h
      exact .notify hc hi
    | returned => cases h
  | main =>
    simp only at h
    split_ifs at h with hi
    rw [Bool.not_eq_true] at hi
    unfold mainStep at h
    split at h
    · next hp =>
      split_ifs at h with hm
      cases h
      exact .mainLock (.inl hp) hm hi
    · next hp =>
      split_ifs at h with hm
      cases h
      exact .mainLock (.inr hp) hm hi
    · next hp =>
      split_ifs at h with hs
      · cases h
        exact .pass hp hs hi
      · cases h
        exact .wait hp (by simpa using hs) hi
    · cases h
    · next hp =>
      split_ifs at h with hj
      cases h
      refine .stop hp hi fun c hc => ?_
      simpa using List.all_eq_true.mp hj c hc
    · cases h
  | spurious =>
    simp only at h
    split_ifs at h with hp
    cases h
    exact .spurious hp

structure Inv (p : Process) : Prop where
  main : p.mutex = some .main ↔ p.main = .checking ∨ p.main = .stopping
  call : ∀ i, p.mutex = some (.onSignal i) ↔ (p.calls[i]?).any Call.owns = true
  stopped : p.stopped = p.calls.any Call.wrote
  passed : p.main = .stopping ∨ p.main = .returned → p.stopped = true
  returned : p.main = .returned → p.mutex = none
  -- while `main` waits, whoever has set the flag has not notified yet
  waiting : p.main = .waiting → p.stopped = true →
    p.calls.any (fun c => c.wrote && c.active) = true

theorem inv_start : Inv start := by
  constructor <;> simp [start]

theorem perm_calls (hc : p.calls[i]? = some c) : p.calls.Perm (c :: p.calls.eraseIdx i) := by
  obtain ⟨hlt, rfl⟩ := List.getElem?_eq_some_iff.mp hc
  exact (List.getElem_cons_eraseIdx_perm hlt).symm

theorem perm_set (hc : p.calls[i]? = some c) (c' : Call) :
    (p.calls.set i c').Perm (c' :: p.calls.eraseIdx i) :=
  List.set_perm_cons_eraseIdx (List.getElem?_eq_some_iff.mp hc).1 c'

theorem any_calls (hc : p.calls[i]? = some c) (f : Call → Bool) :
    p.calls.any f = (f c || (p.calls.eraseIdx i).any f) := by
  rw [(perm_calls hc).any_eq, List.any_cons]

theorem any_set (hc : p.calls[i]? = some c) (c' : Call) (f : Call → Bool) :
    (p.calls.set i c').any f = (f c' || (p.calls.eraseIdx i).any f) := by
  rw [(perm_set hc c').any_eq, List.any_cons]

theorem getElem?_set (hc : p.calls[i]? = some c) (c' : Call) (j : ℕ) :
    (p.calls.set i c')[j]? = if j = i then some c' else p.calls[j]? := by
  have hlt := (List.getElem?_eq_some_iff.mp hc).1
  rw [List.getElem?_set, if_pos hlt]
  simp only [eq_comm]

/-- Call `i` goes on. It owns the mutex afterwards or leaves it as it was to the others, and
it keeps the flag it has set. -/
theorem Inv.set {c' : Call} {mutex : Option Owner} {main : Main} (h : Inv p)
    (hr : p.main ≠ .returned) (hc : p.calls[i]? = some c)
    (hself : mutex = some (.onSignal i) ↔ c'.owns = true)
    (hother : ∀ o ≠ .onSignal i, mutex = some o ↔ p.mutex = some o)
    (hwrote : c.wrote = true → c'.wrote = true)
    (hmain : main = p.main ∧ c'.active = true ∨ main = p.main.notified) :
    Inv ⟨mutex, p.stopped || c'.wrote, main, p.calls.set i c'⟩ := by
  have hsame (m : Main) (hm : m ≠ .waiting) (hm' : m ≠ .relocking) : main = m ↔ p.main = m := by
    rcases hmain with ⟨rfl, -⟩ | rfl
    · rfl
    · cases hp : p.main <;> cases m <;> simp_all [Main.notified]
  refine ⟨?_, fun j => ?_, ?_, fun hp => ?_, fun hp => ?_, fun hp _ => ?_⟩
  · rw [hsame .checking nofun nofun, hsame .stopping nofun nofun, ← h.main]
    exact hother .main nofun
  · rw [getElem?_set hc]
    by_cases hj : j = i
    · simpa [hj] using hself
    · rw [if_neg hj, ← h.call j]
      exact hother (.onSignal j) fun heq => hj (by injection heq)
  · show (p.stopped || c'.wrote) = (p.calls.set i c').any Call.wrote
    rw [any_set hc, h.stopped, any_calls hc]
    cases hw : c.wrote
    · rw [Bool.false_or, Bool.or_comm]
    · rw [hwrote hw]
      simp
  · rw [hsame .stopping nofun nofun, hsame .returned nofun nofun] at hp
    simp [h.passed hp]
  · exact absurd ((hsame .returned nofun nofun).mp hp) hr
  · -- a call that notifies leaves nobody waiting
    rcases hmain with ⟨rfl, hactive⟩ | rfl
    · rw [any_set hc, hactive, Bool.and_true, Bool.or_eq_true]
      cases hw : c'.wrote with
      | true => exact .inl rfl
      | false =>
        have hflag : p.stopped = true := by simp_all
        have hany := h.waiting hp hflag
        have hc' : c.wrote = false := by
          cases hw' : c.wrote with
          | false => rfl
          | true => rw [hwrote hw'] at hw; cases hw
        rw [any_calls hc, hc', Bool.false_and, Bool.false_or] at hany
        exact .inr hany
    · cases hq : p.main <;> simp [hq, Main.notified] at hp

theorem Inv.mutex_eq (h : Inv p) (hc : p.calls[i]? = some c) (ho : c.owns = true) :
    p.mutex = some (.onSignal i) :=
  (h.call i).mpr (by simp [hc, ho])

theorem Inv.mutex_ne (h : Inv p) (hc : p.calls[i]? = some c) (ho : c.owns = false) :
    p.mutex ≠ some (.onSignal i) := by
  rw [Ne, h.call i]
  simp [hc, ho]

theorem Inv.stopped_of_wrote (h : Inv p) (hc : p.calls[i]? = some c) (hw : c.wrote = true) :
    p.stopped = true := by
  rw [h.stopped, any_calls hc, hw, Bool.true_or]

theorem Inv.step (h : Inv p) (hs : step p l = some p') : Inv p' := by
  obtain ⟨hr, ht⟩ := step_cases hs
  cases ht with
  | signal t =>
    have hnew (f : Call → Bool) (hf : f ⟨t, .locking⟩ = false) :
        (p.calls ++ [(⟨t, .locking⟩ : Call)]).any f = p.calls.any f := by
      rw [List.any_append, List.any_cons, hf, List.any_nil, Bool.or_false, Bool.or_false]
    refine ⟨h.main, fun j => ?_, h.stopped.trans (hnew _ rfl).symm, h.passed, h.returned,
      fun hp hflag => (hnew _ rfl).trans (h.waiting hp hflag)⟩
    rw [h.call j]
    dsimp only
    rcases Nat.lt_trichotomy j p.calls.length with hlt | rfl | hlt
    · rw [List.getElem?_append_left hlt]
    · simp [Call.owns]
    · rw [List.getElem?_eq_none (Nat.le_of_lt hlt), List.getElem?_eq_none]
      simp only [List.length_append, List.length_singleton]
      omega
  | @lock i t hc _ hm =>
    have hset : Inv ⟨some (.onSignal i), p.stopped || Call.wrote ⟨t, .writing⟩, p.main,
        p.calls.set i ⟨t, .writing⟩⟩ := by
      refine h.set hr hc (by simp [Call.owns]) (fun o ho => ?_) nofun (.inl ⟨rfl, rfl⟩)
      simpa [hm] using Ne.symm ho
    have hwrote : Call.wrote ⟨t, .writing⟩ = false := rfl
    simpa [hwrote] using hset
  | @write i t hc _ =>
    have hm := h.mutex_eq hc rfl
    have hset : Inv ⟨p.mutex, p.stopped || Call.wrote ⟨t, .unlocking⟩, p.main,
        p.calls.set i ⟨t, .unlocking⟩⟩ :=
      h.set hr hc (by simp [hm, Call.owns]) (fun _ _ => Iff.rfl) nofun (.inl ⟨rfl, rfl⟩)
    simpa [Call.wrote] using hset
  | @unlock i t hc _ =>
    have hm := h.mutex_eq hc rfl
    have hset : Inv ⟨none, p.stopped || Call.wrote ⟨t, .notifying⟩, p.main,
        p.calls.set i ⟨t, .notifying⟩⟩ := by
      refine h.set hr hc (by simp [Call.owns]) (fun o ho => ?_) (fun _ => rfl) (.inl ⟨rfl, rfl⟩)
      simpa [hm] using Ne.symm ho
    have hflag := h.stopped_of_wrote hc rfl
    simpa [hflag] using hset
  | @notify i t hc _ =>
    have hm := h.mutex_ne hc rfl
    have hset : Inv ⟨p.mutex, p.stopped || Call.wrote ⟨t, .returned⟩, p.main.notified,
        p.calls.set i ⟨t, .returned⟩⟩ :=
      h.set hr hc (by simp [hm, Call.owns]) (fun _ _ => Iff.rfl) (fun _ => rfl) (.inr rfl)
    have hflag := h.stopped_of_wrote hc rfl
    simpa [hflag] using hset
  | mainLock hp hm _ =>
    refine ⟨by simp, fun j => ?_, h.stopped, by simp, by simp, by simp⟩
    simpa [hm] using h.call j
  | pass hp hflag _ =>
    refine ⟨?_, h.call, h.stopped, fun _ => hflag, by simp, by simp⟩
    simpa using h.main.mpr (.inl hp)
  | wait hp hflag _ =>
    have hm := h.main.mpr (.inl hp)
    refine ⟨by simp, fun j => ?_, h.stopped, by simp, by simp, fun _ hf => ?_⟩
    · simpa [hm] using h.call j
    · exact absurd hf (by simp [hflag])
  | stop hp _ _ =>
    have hm := h.main.mpr (.inr hp)
    refine ⟨by simp, fun j => ?_, h.stopped, fun _ => h.passed (.inl hp), by simp, by simp⟩
    simpa [hm] using h.call j
  | spurious hp =>
    refine ⟨?_, h.call, h.stopped, by simp, by simp, by simp⟩
    simp [h.main, hp]

theorem inv_of_run (h : Run Process.step Anything start ls p) : Inv p :=
  h.invariant inv_start fun _ _ _ hi _ hs => hi.step hs

theorem interrupted_iff {n : ℕ} : p.interrupted t n = true ↔
    ∃ j c, n ≤ j ∧ p.calls[j]? = some c ∧ c.thread = t ∧ c.active = true := by
  rw [interrupted, List.any_eq_true]
  constructor
  · rintro ⟨c, hmem, hc⟩
    obtain ⟨k, hk⟩ := List.mem_iff_getElem?.mp hmem
    rw [List.getElem?_drop] at hk
    exact ⟨n + k, c, Nat.le_add_right _ _, hk, by simpa using hc⟩
  · rintro ⟨j, c, hj, hc, ht, ha⟩
    refine ⟨c, List.mem_iff_getElem?.mpr ⟨j - n, ?_⟩, by simp [ht, ha]⟩
    rw [List.getElem?_drop, Nat.add_sub_cancel' hj, hc]

/-- A call that waits for a mutex which cannot be given back before it has returned: its own
thread has it, or `main` has it and is about to join the call's thread. -/
def WaitsForever (p : Process) (j : ℕ) (c : Call) : Prop :=
  c.next = .locking ∧
    (p.mutex = some .main ∧ (c.thread = .main ∨ p.stopped = true) ∨
      ∃ i < j, p.mutex = some (.onSignal i) ∧ (p.calls[i]?).map Call.thread = some c.thread)

def Stuck (p : Process) : Prop := ∃ j c, p.calls[j]? = some c ∧ WaitsForever p j c

theorem thread_ne_of_locking {n : ℕ} (hi : p.interrupted t n = false) (hj : n ≤ j)
    (hc : p.calls[j]? = some c) (hn : c.next = .locking) : c.thread ≠ t := by
  intro ht
  have hint := interrupted_iff.mpr ⟨j, c, hj, hc, ht, by simp [Call.active, hn]⟩
  simp [hi] at hint

theorem not_stuck_of_free (hm : p.mutex = none) : ¬ Stuck p := by
  rintro ⟨j, c, -, -, ⟨hm', -⟩ | ⟨i, -, hm', -⟩⟩ <;> simp [hm] at hm'

theorem stuck_of_main (hm : p.mutex = some .main) :
    Stuck p ↔ ∃ c ∈ p.calls, c.next = .locking ∧ (c.thread = .main ∨ p.stopped = true) := by
  constructor
  · rintro ⟨j, c, hc, hn, ⟨-, hw⟩ | ⟨i, -, hm', -⟩⟩
    · exact ⟨c, List.mem_of_getElem? hc, hn, hw⟩
    · simp [hm] at hm'
  · rintro ⟨c, hmem, hn, hw⟩
    obtain ⟨j, hc⟩ := List.mem_iff_getElem?.mp hmem
    exact ⟨j, c, hc, hn, .inl ⟨hm, hw⟩⟩

/-- An owner of the mutex that can go on keeps nobody waiting forever. -/
theorem not_stuck_of_owner (hm : p.mutex = some (.onSignal i)) (hc : p.calls[i]? = some c)
    (hi : p.interrupted c.thread (i + 1) = false) : ¬ Stuck p := by
  rintro ⟨j, d, hd, hn, ⟨hm', -⟩ | ⟨k, hk, hm', ht⟩⟩
  · simp [hm] at hm'
  · obtain rfl : i = k := by simpa [hm] using hm'
    have hthread : c.thread = d.thread := by simpa [hc] using ht
    exact thread_ne_of_locking hi hk hd hn hthread.symm

theorem stuck_set {n n' : OnSignal} (hc : p.calls[i]? = some ⟨t, n⟩) (hn : n ≠ .locking)
    (hn' : n' ≠ .locking) (hm : q.mutex = p.mutex) (hcalls : q.calls = p.calls.set i ⟨t, n'⟩)
    (hs : p.mutex = some .main → q.stopped = p.stopped) : Stuck q ↔ Stuck p := by
  have hthread (k : ℕ) : (q.calls[k]?).map Call.thread = (p.calls[k]?).map Call.thread := by
    rw [hcalls, getElem?_set hc]
    split
    · next h => simp [h, hc]
    · rfl
  have hwaits (j : ℕ) (d : Call) : WaitsForever q j d ↔ WaitsForever p j d := by
    unfold WaitsForever
    rw [hm]
    simp only [hthread]
    refine and_congr_right fun _ => or_congr_left (and_congr_right fun hmain => ?_)
    rw [hs hmain]
  have hget (j : ℕ) (d : Call) (hd : d.next = .locking) :
      q.calls[j]? = some d ↔ p.calls[j]? = some d := by
    rw [hcalls, getElem?_set hc]
    split
    · next h =>
      subst h
      rw [hc]
      constructor
      · rintro ⟨⟩
        exact absurd hd hn'
      · rintro ⟨⟩
        exact absurd hd hn
    · rfl
  constructor
  · rintro ⟨j, d, hd, hw⟩
    exact ⟨j, d, (hget j d hw.1).mp hd, (hwaits j d).mp hw⟩
  · rintro ⟨j, d, hd, hw⟩
    exact ⟨j, d, (hget j d hw.1).mpr hd, (hwaits j d).mpr hw⟩

theorem stuck_signal (t : Thread) :
    Stuck { p with calls := p.calls ++ [⟨t, .locking⟩] } ↔ Stuck p ∨ ¬ Orderly p (.signal t) := by
  have hold (i : ℕ) (hi : i < p.calls.length) :
      (p.calls ++ [⟨t, .locking⟩])[i]? = p.calls[i]? := List.getElem?_append_left hi
  constructor
  · rintro ⟨j, c, hc, hn, hw⟩
    rcases getElem?_append_singleton_cases hc with hc | ⟨rfl, rfl⟩
    · have hj := (List.getElem?_eq_some_iff.mp hc).1
      refine .inl ⟨j, c, hc, hn, hw.imp_right ?_⟩
      rintro ⟨i, hi, hm, ht⟩
      exact ⟨i, hi, hm, (congrArg _ (hold i (Nat.lt_trans hi hj))).symm.trans ht⟩
    · right
      rintro ⟨hthread, hflag⟩
      rcases hw with ⟨hm, ht | hs⟩ | ⟨i, hi, hm, ht⟩
      · exact hthread (by simp_all [ownerThread])
      · simp [hflag hm] at hs
      · exact hthread (by simp_all [ownerThread])
  · rintro (⟨j, c, hc, hn, hw⟩ | hnot)
    · have hj := (List.getElem?_eq_some_iff.mp hc).1
      refine ⟨j, c, (hold j hj).trans hc, hn, hw.imp_right ?_⟩
      rintro ⟨i, hi, hm, ht⟩
      exact ⟨i, hi, hm, (congrArg _ (hold i (Nat.lt_trans hi hj))).trans ht⟩
    · refine ⟨p.calls.length, ⟨t, .locking⟩, by simp, rfl, ?_⟩
      rw [Orderly, not_and_or, not_not, Classical.not_imp, Bool.not_eq_false] at hnot
      rcases hnot with hthread | ⟨hm, hs⟩
      · unfold ownerThread at hthread
        split at hthread
        · cases hthread
        · next hm =>
          cases hthread
          exact .inl ⟨hm, .inl rfl⟩
        · next i hm =>
          have hi : i < p.calls.length := by
            by_contra hge
            simp [List.getElem?_eq_none (Nat.le_of_not_lt hge)] at hthread
          exact .inr ⟨i, hi, hm, by rwa [hold i hi]⟩
      · exact .inl ⟨hm, .inr hs⟩

theorem stuck_step (h : Inv p) (hs : step p l = some p') :
    Stuck p' ↔ Stuck p ∨ ¬ Orderly p l := by
  have hne (hi : p.interrupted .main 0 = false) (c : Call) (hmem : c ∈ p.calls)
      (hn : c.next = .locking) : c.thread ≠ .main := by
    obtain ⟨j, hc⟩ := List.mem_iff_getElem?.mp hmem
    exact thread_ne_of_locking hi (Nat.zero_le j) hc hn
  obtain ⟨hr, ht⟩ := step_cases hs
  cases ht with
  | signal t => exact stuck_signal t
  | @lock i t hc hi hm =>
    have hlt := (List.getElem?_eq_some_iff.mp hc).1
    refine iff_of_false ?_ (by simpa [Orderly] using not_stuck_of_free hm)
    refine not_stuck_of_owner (c := ⟨t, .writing⟩) rfl (by simp [hlt]) ?_
    rw [← hi]
    simp [interrupted, List.drop_set]
  | @write i t hc hi =>
    have howner := h.mutex_eq hc rfl
    have hiff := stuck_set (q := { p with stopped := true, calls := p.calls.set i ⟨t, .unlocking⟩ })
      hc (by simp) (by simp) rfl rfl (by simp [howner])
    simpa [Orderly] using hiff
  | @unlock i t hc hi =>
    have howner := h.mutex_eq hc rfl
    refine iff_of_false (not_stuck_of_free rfl) ?_
    simpa [Orderly] using not_stuck_of_owner howner hc hi
  | @notify i t hc hi =>
    have hiff := stuck_set
      (q := { p with main := p.main.notified, calls := p.calls.set i ⟨t, .returned⟩ })
      hc (by simp) (by simp) rfl rfl (fun _ => rfl)
    simpa [Orderly] using hiff
  | mainLock hp hm hi =>
    rw [stuck_of_main rfl, or_iff_right (not_stuck_of_free hm)]
    constructor
    · rintro ⟨c, hmem, hn, ht | hflag⟩ horderly
      · exact hne hi c hmem hn ht
      · exact horderly hp hflag c hmem hn
    · intro hnot
      simp only [Orderly, hp, forall_true_left, not_forall, not_not] at hnot
      obtain ⟨hflag, c, hmem, hn⟩ := hnot
      exact ⟨c, hmem, hn, .inr hflag⟩
  | pass hp hflag hi => simp [Stuck, WaitsForever, Orderly, hp]
  | wait hp hflag hi =>
    have hm := h.main.mpr (.inl hp)
    have horderly : Orderly p .main := by simp [Orderly, hp]
    refine iff_of_false (not_stuck_of_free rfl) (not_or_intro ?_ (not_not_intro horderly))
    rw [stuck_of_main hm]
    rintro ⟨c, hmem, hn, ht | hflag'⟩
    · exact hne hi c hmem hn ht
    · simp [hflag] at hflag'
  | stop hp hi hj =>
    have hm := h.main.mpr (.inr hp)
    have horderly : Orderly p .main := by simp [Orderly, hp]
    refine iff_of_false (not_stuck_of_free rfl) (not_or_intro ?_ (not_not_intro horderly))
    rw [stuck_of_main hm]
    rintro ⟨c, hmem, hn, -⟩
    rcases hj c hmem with ht | ha
    · exact hne hi c hmem hn ht
    · simp [Call.active, hn] at ha
  | spurious hp => simp [Stuck, WaitsForever, Orderly]

theorem onSignal_of_interrupted (hr : p.main ≠ .returned) {n : ℕ} (hi : p.interrupted t n = true) :
    (∃ i p', step p (.onSignal i) = some p') ∨
      p.mutex ≠ none ∧ ∃ j c, n ≤ j ∧ p.calls[j]? = some c ∧ c.thread = t ∧ c.next = .locking := by
  induction hk : p.calls.length - n using Nat.strongRecOn generalizing n with
  | ind k ih =>
    obtain ⟨j, ⟨t, next⟩, hj, hc, rfl, ha⟩ := interrupted_iff.mp hi
    have hlt := (List.getElem?_eq_some_iff.mp hc).1
    by_cases hlast : p.interrupted t (j + 1) = true
    · rcases ih _ (by omega) hlast rfl with h | ⟨hm, i, d, hi, hd⟩
      · exact .inl h
      · exact .inr ⟨hm, i, d, by omega, hd⟩
    · cases next with
      | locking =>
        by_cases hm : p.mutex = none
        · exact .inl ⟨j, _, by simp [step, hr, hc, hlast, onSignal, hm]; rfl⟩
        · exact .inr ⟨hm, j, _, hj, hc, rfl, rfl⟩
      | writing => exact .inl ⟨j, _, by simp [step, hr, hc, hlast, onSignal]; rfl⟩
      | unlocking => exact .inl ⟨j, _, by simp [step, hr, hc, hlast, onSignal]; rfl⟩
      | notifying => exact .inl ⟨j, _, by simp [step, hr, hc, hlast, onSignal]; rfl⟩
      | returned => simp [Call.active] at ha

theorem main_isSome (hr : p.main ≠ .returned) (hi : p.interrupted .main 0 = false)
    (h : (mainStep p).isSome = true) : ∃ p', step p .main = some p' := by
  obtain ⟨p', hp'⟩ := Option.isSome_iff_exists.mp h
  exact ⟨p', by simp [step, hr, hi, hp']⟩

def Blocked (p : Process) : Prop :=
  ∀ t n, p.interrupted t n = true → p.mutex ≠ none ∧
    ∃ j c, n ≤ j ∧ p.calls[j]? = some c ∧ c.thread = t ∧ c.next = .locking

theorem Blocked.main_of_free (hb : Blocked p) (h : Inv p) (hm : p.mutex = none)
    (hc : p.calls ≠ []) (hr : p.main ≠ .returned) :
    p.interrupted .main 0 = false ∧ Orderly p .main ∧ (mainStep p).isSome = true := by
  have hquiet (t : Thread) (n : ℕ) : p.interrupted t n = false := by
    by_contra hi
    exact (hb t n (by simpa using hi)).1 hm
  have hreturned (c : Call) (hmem : c ∈ p.calls) : c.next = .returned := by
    obtain ⟨j, hj⟩ := List.mem_iff_getElem?.mp hmem
    by_contra hne
    have hi := interrupted_iff.mpr ⟨j, c, Nat.zero_le j, hj, rfl, by simp [Call.active, hne]⟩
    simp [hquiet] at hi
  have hstopped : p.stopped = true := by
    obtain ⟨c, hmem⟩ := List.exists_mem_of_ne_nil _ hc
    rw [h.stopped, List.any_eq_true]
    exact ⟨c, hmem, by simp [Call.wrote, hreturned c hmem]⟩
  refine ⟨hquiet _ _, fun _ _ c hmem => by simp [hreturned c hmem], ?_⟩
  have howner := h.main
  cases hp : p.main with
  | locking => simp [mainStep, hp, hm]
  | relocking => simp [mainStep, hp, hm]
  | checking => simp [hp, hm] at howner
  | stopping => simp [hp, hm] at howner
  | returned => exact absurd hp hr
  | waiting =>
    obtain ⟨c, hmem, hc⟩ := List.any_eq_true.mp (h.waiting hp hstopped)
    simp [Call.active, hreturned c hmem] at hc

theorem Blocked.main_of_owner (hb : Blocked p) (h : Inv p) (hm : p.mutex = some .main)
    (hstuck : ¬ Stuck p) :
    p.interrupted .main 0 = false ∧ Orderly p .main ∧ (mainStep p).isSome = true := by
  have hnone (c : Call) (hmem : c ∈ p.calls) (hn : c.next = .locking) :
      c.thread ≠ .main ∧ p.stopped = false := by
    refine ⟨fun ht => ?_, ?_⟩
    · exact hstuck ((stuck_of_main hm).mpr ⟨c, hmem, hn, .inl ht⟩)
    · by_contra hs
      exact hstuck ((stuck_of_main hm).mpr ⟨c, hmem, hn, .inr (by simpa using hs)⟩)
  have hi : p.interrupted .main 0 = false := by
    by_contra hi
    obtain ⟨-, j, c, -, hj, ht, hn⟩ := hb .main 0 (by simpa using hi)
    exact (hnone c (List.mem_of_getElem? hj) hn).1 ht
  rcases h.main.mp hm with hp | hp
  · refine ⟨hi, by simp [Orderly, hp], ?_⟩
    cases hs : p.stopped <;> simp [mainStep, hp, hs]
  · refine ⟨hi, by simp [Orderly, hp], ?_⟩
    have hjoined (c : Call) (hmem : c ∈ p.calls) : c.active = false := by
      obtain ⟨k, hk⟩ := List.mem_iff_getElem?.mp hmem
      by_contra ha
      obtain ⟨-, j, d, -, hj, -, hn⟩ := hb c.thread 0
        (interrupted_iff.mpr ⟨k, c, Nat.zero_le k, hk, rfl, by simpa using ha⟩)
      simpa [h.passed (.inl hp)] using (hnone d (List.mem_of_getElem? hj) hn).2
    have hall : p.calls.all (fun c => c.thread == .main || !c.active) = true :=
      List.all_eq_true.mpr fun c hmem => by simp [hjoined c hmem]
    simp [mainStep, hp, hall]

theorem Blocked.stuck_of_owner (hb : Blocked p) (h : Inv p) (hm : p.mutex = some (.onSignal i)) :
    Stuck p := by
  obtain ⟨c, hc, howns⟩ := (Option.any_eq_true _ _).mp ((h.call i).mp hm)
  have hn : c.next = .writing ∨ c.next = .unlocking := by simpa [Call.owns] using howns
  have hactive : c.active = true := by
    rcases hn with hn | hn <;> simp [Call.active, hn]
  have hi : p.interrupted c.thread i = true :=
    interrupted_iff.mpr ⟨i, c, Nat.le_refl i, hc, rfl, hactive⟩
  obtain ⟨-, j, d, hij, hd, ht, hl⟩ := hb _ _ hi
  have hne : i ≠ j := by
    rintro rfl
    obtain rfl : c = d := by simpa [hc] using hd
    simp [hl] at hn
  exact ⟨j, d, hd, hl, .inr ⟨i, by omega, hm, by simp [hc, ht]⟩⟩

/-- After a signal, as long as nobody waits forever, the program has an orderly step. -/
theorem progress (h : Inv p) (hstuck : ¬ Stuck p) (hc : p.calls ≠ []) (hr : p.main ≠ .returned) :
    ∃ l p', l.own = true ∧ Orderly p l ∧ step p l = some p' := by
  by_cases hcall : ∃ i p', step p (.onSignal i) = some p'
  · obtain ⟨i, p', hs⟩ := hcall
    exact ⟨.onSignal i, p', rfl, trivial, hs⟩
  have hb : Blocked p := fun t n hi => (onSignal_of_interrupted hr hi).resolve_left hcall
  have hmain : p.interrupted .main 0 = false ∧ Orderly p .main ∧ (mainStep p).isSome = true := by
    cases hm : p.mutex with
    | none => exact hb.main_of_free h hm hc hr
    | some o =>
      cases o with
      | main => exact hb.main_of_owner h hm hstuck
      | onSignal i => exact absurd (hb.stuck_of_owner h hm) hstuck
  obtain ⟨hi, horderly, hs⟩ := hmain
  obtain ⟨p', hp'⟩ := main_isSome hr hi hs
  exact ⟨.main, p', rfl, horderly, hp'⟩

def Main.left : Main → ℕ
  | locking => 3
  | checking => 2
  | waiting => 0
  | relocking => 3
  | stopping => 1
  | returned => 0

/-- A call may wake `main` up, which then locks and checks again. -/
def Call.left (c : Call) : ℕ :=
  match c.next with
  | .locking => 7
  | .writing => 6
  | .unlocking => 5
  | .notifying => 4
  | .returned => 0

def left (p : Process) : ℕ := p.main.left + (p.calls.map Call.left).sum

def Label.adds : Label → ℕ
  | signal _ => 7
  | spurious => 3
  | _ => 0

theorem sum_set (hc : p.calls[i]? = some c) (c' : Call) :
    ((p.calls.set i c').map Call.left).sum + c.left = (p.calls.map Call.left).sum + c'.left := by
  have hset := ((perm_set hc c').map Call.left).sum_nat
  have hget := ((perm_calls hc).map Call.left).sum_nat
  rw [List.map_cons, List.sum_cons] at hset hget
  omega

theorem left_step (hs : step p l = some p') : p'.left + l.own.toNat ≤ p.left + l.adds := by
  have hadvance {i : ℕ} {t : Thread} {n n' : OnSignal} (hc : p.calls[i]? = some ⟨t, n⟩)
      {m : Main} (hlt : m.left + Call.left ⟨t, n'⟩ < p.main.left + Call.left ⟨t, n⟩) :
      m.left + ((p.calls.set i ⟨t, n'⟩).map Call.left).sum + 1 ≤ p.left := by
    have hsum := sum_set hc ⟨t, n'⟩
    unfold left
    omega
  have hmain {m : Main} (hlt : m.left < p.main.left) :
      m.left + (p.calls.map Call.left).sum + 1 ≤ p.left := by
    unfold left
    omega
  cases (step_cases hs).2 with
  | signal t =>
    simp only [left, Label.own, Label.adds, List.map_append, List.sum_append, List.map_cons,
      List.map_nil, List.sum_cons, List.sum_nil, Call.left, Bool.toNat_false]
    omega
  | lock hc _ _ => exact hadvance hc (by simp [Call.left])
  | write hc _ => exact hadvance hc (by simp [Call.left])
  | unlock hc _ => exact hadvance hc (by simp [Call.left])
  | notify hc _ =>
    apply hadvance hc
    cases p.main <;> simp [Main.notified, Main.left, Call.left]
  | mainLock hp _ _ => exact hmain (by rcases hp with hp | hp <;> simp [hp, Main.left])
  | pass hp _ _ => exact hmain (by simp [hp, Main.left])
  | wait hp _ _ => exact hmain (by simp [hp, Main.left])
  | stop hp _ _ => exact hmain (by simp [hp, Main.left])
  | spurious hp =>
    simp only [left, hp, Main.left, Label.own, Label.adds, Bool.toNat_false]
    omega

theorem left_of_run (h : Run step Anything start ls p) :
    p.left + ls.countP Label.own ≤
      3 + 7 * ls.countP Label.isSignal + 3 * ls.countP (· == .spurious) := by
  refine h.history (I := fun ls p => p.left + ls.countP Label.own ≤
    3 + 7 * ls.countP Label.isSignal + 3 * ls.countP (· == .spurious)) ?_ ?_
  · simp [start, left, Main.left]
  · intro ls p l p' ih _ hs
    have hstep := left_step hs
    rw [List.countP_append, List.countP_append, List.countP_append]
    cases l <;> simp [Label.own, Label.adds, Label.isSignal] at hstep ⊢ <;> omega

theorem calls_of_run (h : Run step Anything start ls p) :
    p.calls.length = ls.countP Label.isSignal := by
  refine h.history (I := fun ls p => p.calls.length = ls.countP Label.isSignal) rfl ?_
  intro ls p l p' ih _ hs
  rw [List.countP_append]
  cases (step_cases hs).2 <;> simp [Label.isSignal, ih]

/-- Some call waits forever exactly when not all steps were orderly. -/
theorem orderly_iff (h : Run step Anything start ls p) :
    Run step Orderly start ls p ↔ ¬ Stuck p :=
  h.faultless_iff inv_start (not_stuck_of_free rfl) (fun _ _ _ hi hs => hi.step hs)
    fun _ _ _ hi hs => stuck_step hi hs

theorem Inv.not_returned (h : Inv p) (hstuck : Stuck p) : p.main ≠ .returned :=
  fun hr => not_stuck_of_free (h.returned hr) hstuck

structure Exclusive (p : Process) : Prop where
  calls : ∀ (i j : ℕ) (c d : Call), p.calls[i]? = some c → p.calls[j]? = some d →
    c.owns = true → d.owns = true → i = j
  main : p.main = .checking ∨ p.main = .stopping → ∀ c ∈ p.calls, c.owns = false

theorem Inv.exclusive (h : Inv p) : Exclusive p := by
  constructor
  · intro i j c d hc hd hoc hod
    simpa [h.mutex_eq hc hoc] using h.mutex_eq hd hod
  · intro hp c hmem
    obtain ⟨i, hc⟩ := List.mem_iff_getElem?.mp hmem
    by_contra ho
    have hm := h.mutex_eq hc (by simpa using ho)
    rw [h.main.mpr hp] at hm
    cases hm

/-- The wait of `main` and its signal handlers, in every interleaving. The mutex excludes;
`server.stop()` is called only after a handler has set the flag; when `main` waits although
the flag is set, a handler is about to wake it up; and the program takes a bounded number of
steps for every signal. As long as the steps are orderly it goes on until `main` has
returned; after one that is not, `main` never returns. -/
theorem shutdown_handshake (h : Run step Anything start ls p) :
    Exclusive p ∧
    (p.main = .stopping ∨ p.main = .returned → ∃ c ∈ p.calls, c.wrote = true) ∧
    (p.main = .waiting → p.stopped = true →
      ∃ c ∈ p.calls, c.next = .unlocking ∨ c.next = .notifying) ∧
    ls.countP Label.own ≤
      3 + 7 * ls.countP Label.isSignal + 3 * ls.countP (· == .spurious) ∧
    (Run step Orderly start ls p → 0 < ls.countP Label.isSignal → p.main ≠ .returned →
      ∃ l p', l.own = true ∧ Orderly p l ∧ step p l = some p') ∧
    (¬ Run step Orderly start ls p →
      ∀ ls' p', Run step Anything p ls' p' → p'.main ≠ .returned) := by
  have hinv := inv_of_run h
  refine ⟨hinv.exclusive, fun hp => ?_, fun hp hs => ?_, ?_, fun horderly hsignal hr => ?_,
    fun hnot ls' p' h' => ?_⟩
  · exact List.any_eq_true.mp (hinv.stopped ▸ hinv.passed hp)
  · obtain ⟨⟨t, n⟩, hmem, hc⟩ := List.any_eq_true.mp (hinv.waiting hp hs)
    exact ⟨⟨t, n⟩, hmem, by cases n <;> simp_all [Call.wrote, Call.active]⟩
  · have hleft := left_of_run h
    omega
  · refine progress hinv ((orderly_iff h).mp horderly) ?_ hr
    rw [← calls_of_run h] at hsignal
    exact List.ne_nil_of_length_pos hsignal
  · rw [orderly_iff h, not_not] at hnot
    have hstuck : Inv p' ∧ Stuck p' := h'.invariant (I := fun p => Inv p ∧ Stuck p) ⟨hinv, hnot⟩
      fun _ _ _ hi _ hs => ⟨hi.1.step hs, (stuck_step hi.1 hs).mpr (.inl hi.2)⟩
    exact hstuck.1.not_returned hstuck.2

/-- One signal on a thread of the server ends the process; a second one while the server
stops does not let it end any more. -/
theorem shutdown_handshake_second_signal :
    (∃ p, Run step Orderly start
        ([.main, .main, .signal (.server 0)] ++ List.replicate 4 (.onSignal 0) ++
          [.main, .main, .main]) p ∧ p.main = .returned) ∧
    ∃ p, Run step Anything start
        ([.main, .main, .signal (.server 0)] ++ List.replicate 4 (.onSignal 0) ++
          [.main, .main, .signal (.server 1)]) p ∧ p.main = .stopping ∧
      ∀ ls' p', Run step Anything p ls' p' → p'.main ≠ .returned := by
  constructor
  · obtain ⟨p, hrun, hp⟩ : ∃ p, Run step Anything start
        ([.main, .main, .signal (.server 0)] ++ List.replicate 4 (.onSignal 0) ++
          [.main, .main, .main]) p ∧ p.main = .returned := exists_run _ (by decide +kernel)
    obtain ⟨-, -, -, -, -, hnever⟩ := shutdown_handshake hrun
    by_contra hnot
    refine hnever (fun horderly => hnot ⟨p, horderly, hp⟩) [] p .nil hp
  · obtain ⟨p, hrun, hp⟩ : ∃ p, Run step Anything start
        ([.main, .main, .signal (.server 0)] ++ List.replicate 4 (.onSignal 0) ++
          [.main, .main, .signal (.server 1)]) p ∧ p.main = .stopping :=
      exists_run _ (by decide +kernel)
    obtain ⟨-, -, -, -, -, hnever⟩ := shutdown_handshake hrun
    refine ⟨p, hrun, hp, hnever fun horderly => ?_⟩
    have hexec : exec step Orderly start
        ([.main, .main, .signal (.server 0)] ++ List.replicate 4 (.onSignal 0) ++
          [.main, .main, .signal (.server 1)]) = none := by decide +kernel
    rw [horderly.exec] at hexec
    cases hexec

end Process

end Svitock
