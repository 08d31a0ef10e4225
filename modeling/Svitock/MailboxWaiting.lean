import Svitock.Observation
import Svitock.RuntimeWaiting
import Svitock.ServerHistory

namespace Svitock

open ActorRuntime Transition

namespace Server

variable {cfg : Config} {w₀ w w' : Server} {l : Label} {ls₀ ls : List Label}

def startsRound (k : ℕ) (w : Server) : Label → List Unit
  | .worker j _ _ => if j = k ∧ w.actorSystem.startsRound k = true then [()] else []
  | _ => []

def takes (a : ActorType) (w : Server) : Label → List Envelope
  | .worker j _ _ => w.actorSystem.takes a j
  | _ => []

/-- The number of rounds that worker `k` begins in a run. -/
def rounds (cfg : Config) (k : ℕ) (w : Server) (ls : List Label) : ℕ :=
  (observe (step cfg) (startsRound k) w ls).length

/-- The envelopes popped from the mailbox of `a` in a run. -/
def taken (cfg : Config) (a : ActorType) (w : Server) (ls : List Label) : List Envelope :=
  observe (step cfg) (takes a) w ls

theorem inRound_of_runs (h : Runs cfg (run cfg) ls w) : InRound cfg.runtime w.actorSystem := by
  refine h.invariant (I := fun w => InRound cfg.runtime w.actorSystem) ?_
    fun t l u hi _ hs => hi.change (change_of_step hs)
  intro x hx
  obtain rfl := List.eq_of_mem_replicate hx
  exact List.nil_suffix

theorem within_of_runs (h : Runs cfg (run cfg) ls w) :
    Within cfg.mailboxCapacity w.actorSystem := by
  refine h.invariant (I := fun w => Within cfg.mailboxCapacity w.actorSystem) ?_
    fun t l u hi _ hs => hi.change (change_of_step hs)
  intro a
  exact ⟨rfl, Nat.zero_le _⟩

variable {a : ActorType} {k n : ℕ} {waiting popped : List Envelope}

theorem waited_of_step (h : Waited a k waiting n popped w.actorSystem)
    (hs : step cfg w l = some w') :
    Waited a k waiting (n + (startsRound k w l).length) (popped ++ takes a w l)
      w'.actorSystem := by
  have hstay (hl : startsRound k w l = []) (ht : takes a w l = [])
      (hsystem : w'.actorSystem = w.actorSystem) :
      Waited a k waiting (n + (startsRound k w l).length) (popped ++ takes a w l)
        w'.actorSystem := by
    rw [hl, ht, hsystem, List.append_nil]
    exact h
  cases (step_cases hs).2 with
  | handshake _ _ ok =>
    cases ok
    · exact hstay rfl rfl rfl
    · exact hstay rfl rfl rfl
  | writeDone _ _ ok =>
    cases ok
    · exact hstay rfl rfl rfl
    · exact hstay rfl rfl rfl
  | @dispatch i s raw _ _ =>
    simp only [startsRound, takes, List.append_nil, List.length_nil, Nat.add_zero]
    unfold onRead
    dsimp only
    split
    · exact h
    · exact h
    · exact h.receive _ _
  | @worker j out b hk id now =>
    have hturn := workerStep_turn hk
    rw [perform_actorSystem]
    by_cases hj : j = k
    · subst hj
      have hlength : (startsRound j w (.worker j id now)).length =
          (w.actorSystem.startsRound j).toNat := by
        cases hr : w.actorSystem.startsRound j <;> simp [startsRound, hr]
      rw [hlength]
      exact h.own hturn (cfg.complete a)
    · have hnone : startsRound k w (.worker j id now) = [] := by simp [startsRound, hj]
      rw [hnone]
      exact h.other hturn hj
  | stopActors => simpa [startsRound, takes] using (⟨h.fifo, h.visited⟩ : Waited a k waiting n
      popped w.actorSystem.halt)
  | _ => exact hstay rfl rfl rfl

theorem waited_of_runs (h : Runs cfg w₀ ls w) (a : ActorType) (k : ℕ) :
    Waited a k (w₀.actorSystem.mailbox a).queue (rounds cfg k w₀ ls) (taken cfg a w₀ ls)
      w.actorSystem := by
  induction h with
  | nil => exact waited_start a k _
  | snoc hrun _ hs ih =>
    rw [rounds, taken, observe_snoc hrun, observe_snoc hrun, List.length_append]
    exact waited_of_step ih hs

/-- Envelopes are taken out of a mailbox in the order of arrival; once any one worker has
begun `n + 1` rounds the first `n` that were waiting have been taken, and after one round
more than the mailbox has places all of them, however many came in behind. -/
theorem nothing_waits_forever (h₀ : Runs cfg (run cfg) ls₀ w₀) (h : Runs cfg w₀ ls w)
    (a : ActorType) (k : ℕ) :
    (∃ pushed, taken cfg a w₀ ls ++ (w.actorSystem.mailbox a).queue =
      (w₀.actorSystem.mailbox a).queue ++ pushed) ∧
    (∀ n < rounds cfg k w₀ ls,
      (w₀.actorSystem.mailbox a).queue.take n <+: taken cfg a w₀ ls) ∧
    (cfg.mailboxCapacity < rounds cfg k w₀ ls →
      (w₀.actorSystem.mailbox a).queue <+: taken cfg a w₀ ls) := by
  have hwaited := waited_of_runs h a k
  have hround := inRound_of_runs (h₀.trans h)
  have hfirst (n : ℕ) (hn : n < rounds cfg k w₀ ls) :
      (w₀.actorSystem.mailbox a).queue.take n <+: taken cfg a w₀ ls :=
    hwaited.first_taken hround cfg.nodup hn
  refine ⟨hwaited.fifo, hfirst, fun hmany => ?_⟩
  have hall := hfirst cfg.mailboxCapacity hmany
  rwa [List.take_of_length_le ((within_of_runs h₀ a).2)] at hall

theorem nothing_waits_forever_one_message :
    ∃ w₀ w, Runs (Sample.config [Sample.greeting] 1 1) (run (Sample.config [Sample.greeting] 1 1))
        (Sample.connect 0 ++ Sample.frame 0 Sample.greeting) w₀ ∧
      Runs (Sample.config [Sample.greeting] 1 1) w₀ (Sample.work 0 16) w ∧
      (w₀.actorSystem.mailbox .message).queue.length = 1 ∧
      (w₀.actorSystem.mailbox .message).queue <+:
        taken (Sample.config [Sample.greeting] 1 1) .message w₀ (Sample.work 0 16) := by
  obtain ⟨w₀, w, hrun, hwork, hone, hrounds⟩ : ∃ w₀ w,
      Runs (Sample.config [Sample.greeting] 1 1) (run (Sample.config [Sample.greeting] 1 1))
        (Sample.connect 0 ++ Sample.frame 0 Sample.greeting) w₀ ∧
      Runs (Sample.config [Sample.greeting] 1 1) w₀ (Sample.work 0 16) w ∧
      (w₀.actorSystem.mailbox .message).queue.length = 1 ∧
      1 < rounds (Sample.config [Sample.greeting] 1 1) 0 w₀ (Sample.work 0 16) :=
    exists_run_run _ (by decide +kernel)
  exact ⟨w₀, w, hrun, hwork, hone, (nothing_waits_forever hrun hwork .message 0).2.2 hrounds⟩

end Server

end Svitock
