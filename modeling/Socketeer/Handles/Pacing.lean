import Socketeer.SocketLoop.Sink
import Socketeer.Handles.Keepalive

/-! # How often a keepalive is sent

Whatever the task does begins a new `sleep`. So a keepalive comes a whole
interval after anything else the task has done, and in any stretch of a run there
is an interval for each keepalive (`Timed.keepalives_spaced`).
-/

namespace Socketeer

open Foundation

variable {cfg : LoopConfig} {E : Type}

namespace Connection

/-- One for a turn in which the `sleep` is over. -/
def LoopAction.wakes : LoopAction E → Nat
  | .arm .sleep => 1
  | .arm .outgoing | .arm .reserve | .arm (.incoming _) | .sink _ | .finish => 0

/-- The number of keepalives passed to the sink. -/
def keepalives (s : Connection cfg E) : Nat :=
  (s.passedBy .keepalive).length

variable {s t : Connection cfg E}

/-- A keepalive is passed to the sink at the end of a `sleep` only. -/
theorem LoopStep.keepalives {move : LoopAction E} (step : s.LoopStep move t) :
    t.keepalives = s.keepalives + move.wakes := by
  unfold Connection.keepalives Connection.passedBy
  rw [step.passed, List.filter_append, List.map_append, List.length_append]
  congr 1
  cases step with
  | sentUnconfirmed | sentConfirmed | ponged | sinkClosed | keptAlive =>
      rw [LoopState.next_passing]
      rfl
  | outgoing | sendersGone | ping | close | skip | streamError | streamEnd | deliver | refuse | hold
  | release | abandon | sleep | sentUnheard | record | dropSender | dropReceiver => rfl

end Connection

namespace Timed

variable {s t : Timed cfg E} {label : TimedAction E}

/-- The number of keepalives passed to the sink. -/
def keepalives (s : Timed cfg E) : Nat :=
  s.inner.conn.keepalives

/-- The arm of a `sleep` is taken once the `sleep` is over. -/
theorem sleepOver_of_step (step : s.step (.act (.loop (.arm .sleep))) = some t) : s.SleepOver := by
  simp only [Timed.step, Option.ite_none_right_eq_some] at step
  exact step.1

/-- A step of the task begins a new `sleep`. -/
theorem selectSince_of_step {move : Connection.LoopAction E}
    (step : s.step (.act (.loop move)) = some t) : t.selectSince = s.clock := by
  cases step_rule step with
  | loop moved => rfl
  | other quiet => cases quiet

/-- Nothing but the task passes on keepalives or begins a new `sleep`. -/
theorem quiet_step (step : s.step label = some t) (quiet : label.quiet = true) :
    t.keepalives = s.keepalives ∧ t.selectSince = s.selectSince := by
  cases label with
  | tick =>
      simp only [Timed.step, Option.ite_none_right_eq_some] at step
      obtain rfl := Option.some.inj step.2
      exact ⟨rfl, rfl⟩
  | act action =>
      simp only [Timed.step, Option.ite_none_right_eq_some, Option.map_eq_some_iff] at step
      obtain ⟨_, next, stepped, rfl⟩ := step
      have same : (s.advance action next).inner = next ∧
          (s.advance action next).selectSince = s.selectSince := by
        cases action with
        | loop move => cases quiet
        | start _ _ | advance _ | cancel _ | clone _ _ | split _ _ | reunite _ _ | drop _ =>
            exact ⟨rfl, rfl⟩
      refine ⟨?_, same.2⟩
      rcases System.step_ledger stepped with ⟨move, rfl, _⟩ | ledger
      · cases quiet
      · unfold keepalives Connection.keepalives Connection.passedBy Connection.passed
        rw [same.1, ledger.sinkOps, ledger.pc]

/-- A step that passes on a keepalive comes an interval after the one before it,
and no step takes back the time. -/
theorem spaced_step {interval : Nat} (every : cfg.keepaliveInterval = some interval)
    (paced : Paced s) (step : s.step label = some t) :
    t.keepalives * interval + s.selectSince ≤ s.keepalives * interval + t.selectSince := by
  cases step_rule step with
  | held | elsewhere => exact Nat.le_refl _
  | @loop move conn moved =>
      have more : conn.keepalives = s.inner.conn.keepalives + move.wakes := moved.keepalives
      change conn.keepalives * interval + s.selectSince ≤
        s.inner.conn.keepalives * interval + s.clock
      rw [more, Nat.add_mul]
      cases move with
      | arm arm =>
          cases arm with
          | sleep =>
              obtain ⟨_, same, rested⟩ := sleepOver_of_step step
              obtain rfl := Option.some.inj (every.symm.trans same)
              change _ + 1 * interval + _ ≤ _
              omega
          | outgoing | reserve | incoming _ =>
              have moved := paced.moved
              change _ + 0 * interval + _ ≤ _
              omega
      | sink _ | finish =>
          have moved := paced.moved
          change _ + 0 * interval + _ ≤ _
          omega
  | other quiet =>
      obtain ⟨count, since⟩ := quiet_step step quiet
      rw [count, since]

/-- In a stretch of a run there is an interval for each keepalive. -/
theorem spaced_run {interval : Nat} (every : cfg.keepaliveInterval = some interval)
    (reached : (timed cfg E).Reachable s) {trace : List (Timed cfg E × TimedAction E)}
    (run : (timed cfg E).Run s trace t) :
    t.keepalives * interval + s.selectSince ≤ s.keepalives * interval + t.selectSince := by
  obtain ⟨_, before⟩ := reached
  induction run with
  | nil => exact Nat.le_refl _
  | snoc earlier step ih =>
      have here := spaced_step every (paced ⟨_, before.append earlier⟩) step
      omega

/-- The task comes to a `select!` later than before. -/
theorem selectSince_step (paced : Paced s) (step : s.step label = some t) :
    s.selectSince ≤ t.selectSince := by
  cases label with
  | tick => exact (quiet_step step rfl).2.ge
  | act action =>
      cases action with
      | loop move => exact paced.moved.trans (selectSince_of_step step).ge
      | start _ _ | advance _ | cancel _ | clone _ _ | split _ _ | reunite _ _ | drop _ =>
          exact (quiet_step step rfl).2.ge

/-- Over a run, the task comes to its `select!` no earlier. -/
theorem selectSince_run (reached : (timed cfg E).Reachable s)
    {trace : List (Timed cfg E × TimedAction E)} (run : (timed cfg E).Run s trace t) :
    s.selectSince ≤ t.selectSince := by
  obtain ⟨_, before⟩ := reached
  induction run with
  | nil => exact Nat.le_refl _
  | snoc earlier step ih =>
      exact ih.trans (selectSince_step (paced ⟨_, before.append earlier⟩) step)

/-- With a keepalive interval, the number of keepalives in a stretch of a run
times the interval is at most the time since the task's last step before it, and
a keepalive comes no earlier than an interval after any other step of the task,
be it that it has read, written or delivered something. -/
theorem keepalives_spaced {interval : Nat} (every : cfg.keepaliveInterval = some interval)
    (reached : (timed cfg E).Reachable s) {trace : List (Timed cfg E × TimedAction E)}
    (run : (timed cfg E).Run s trace t) :
    t.keepalives * interval + s.selectSince ≤ s.keepalives * interval + t.clock ∧
      ∀ front u move middle v back,
        trace = front ++ (u, .act (.loop move)) ::
          (middle ++ (v, .act (.loop (.arm .sleep))) :: back) →
            u.clock + interval ≤ v.clock := by
  obtain ⟨start, before⟩ := reached
  constructor
  · have moved := (paced ⟨_, before.append run⟩ : Paced t).moved
    have spaced := spaced_run every ⟨start, before⟩ run
    omega
  · rintro front u move middle v back rfl
    obtain ⟨w, toU, stepped, rest⟩ := run.parts
    obtain ⟨x, between, woken, _⟩ := rest.parts
    have later := selectSince_run ⟨_, (before.append toU).snoc stepped⟩ between
    obtain ⟨_, same, rested⟩ := sleepOver_of_step woken
    obtain rfl := Option.some.inj (every.symm.trans same)
    have began := selectSince_of_step stepped
    omega

/-- A message is written after two units, and a keepalive five units later. -/
def keepaliveAfterMessage : List (TimedAction Unit) :=
  [.tick, .tick, .act (.start 0 (.sendRaw (.text "a"))), .act (.advance 0),
    .act (.loop (.arm .outgoing)), .act (.loop (.sink (.ok ()))), .tick, .tick, .tick, .tick, .tick,
    .act (.loop (.arm .sleep))]

theorem keepalives_spaced_keepaliveAfterMessage :
    let M := timed .timed Unit
    let final := M.follow M.init keepaliveAfterMessage
    final.keepalives = 1 ∧ final.clock = 7 ∧
      final.keepalives * 5 + M.init.selectSince ≤ M.init.keepalives * 5 + final.clock := by
  intro M final
  exact ⟨by decide, by decide,
    (keepalives_spaced rfl .initial (M.run_steps M.init keepaliveAfterMessage)).1⟩

end Timed

end Socketeer
