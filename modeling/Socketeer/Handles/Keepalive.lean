import Socketeer.Handles.Step

/-! # Keepalives against a clock

The system with a clock in discrete units. The clock moves on only while the
task waits at a `select!` none of whose arms is ready, or has ended; the arm of
a `sleep` is ready once its interval has passed since the `select!` began, and
everything else takes no time. A tick at the outer `select!` means that the
stream had nothing to hand out.
-/

namespace Socketeer

open Foundation

variable {cfg : LoopConfig} {E : Type}

/-- The system with the time, the time of the task's last step, which at a
`select!` is when that `select!` began, the time of its last operation on the
sink, and the start of the current episode of backpressure: the time since when
every data frame read found the rx channel full, with data always at hand. -/
structure Timed (cfg : LoopConfig) (E : Type) where
  inner : System cfg E
  clock : Nat
  selectSince : Nat
  lastWrite : Nat
  episode : Option Nat

inductive TimedAction (E : Type) where
  | tick
  | act (action : Action E)

/-- Whether the step is not a failure of the sink. -/
def TimedAction.healthy : TimedAction E → Bool
  | .act (.loop (.sink (.error _))) => false
  | .tick | .act _ => true

/-- The steps between which the task stays where it is. -/
def TimedAction.quiet : TimedAction E → Bool
  | .act (.loop _) => false
  | .tick | .act _ => true

namespace Timed

open Connection

def create (cfg : LoopConfig) (E : Type) : Timed cfg E where
  inner := .create cfg E
  clock := 0
  selectSince := 0
  lastWrite := 0
  episode := none

/-- Whether the `sleep` of the `select!` the task waits at is over. -/
def SleepOver (s : Timed cfg E) : Prop :=
  ∃ interval ∈ cfg.keepaliveInterval, s.selectSince + interval ≤ s.clock

/-- Whether the other arms of the `select!` have to wait. -/
def Waits (s : Timed cfg E) : Prop :=
  match s.inner.conn.pc with
  | .select .outer => s.inner.conn.tx.recv.isPending
  | .select (.backpressure frame) =>
      s.inner.conn.tx.recv.isPending ∧ (s.inner.conn.rx.send frame).isPending
  | .leaving _ .finished => True
  | _ => False

instance (s : Timed cfg E) : Decidable s.SleepOver :=
  inferInstanceAs (Decidable (∃ interval ∈ cfg.keepaliveInterval, _))

instance (s : Timed cfg E) : Decidable s.Waits := by
  unfold Waits
  split <;> infer_instance

/-- The episode once time has passed where the task waits. -/
def episodeLater (s : Timed cfg E) : Option Nat :=
  match s.inner.conn.pc with
  | .select (.backpressure _) => s.episode
  | _ => none

/-- The episode once the task has moved. -/
def episodeAfter (s : Timed cfg E) (move : LoopAction E) (pc : LoopPc E) : Option Nat :=
  match pc, move with
  | .select (.backpressure _), .arm (.incoming _) => some (s.episode.getD s.clock)
  | .select .outer, .arm (.incoming (some (.ok message))) =>
      if message.data?.isSome then none else s.episode
  | .leaving _ _, _ => none
  | _, _ => s.episode

/-- The time of the last operation on the sink once the task has moved. -/
def writeAfter (s : Timed cfg E) : LoopAction E → Nat
  | .sink _ => s.clock
  | .arm _ | .finish => s.lastWrite

/-- Whether the clock admits a step of the system. -/
def Admits (s : Timed cfg E) : Action E → Prop
  | .loop (.arm .sleep) => s.SleepOver
  | _ => True

instance (s : Timed cfg E) (action : Action E) : Decidable (s.Admits action) := by
  unfold Admits
  split <;> infer_instance

/-- The clocks once the system has taken a step. -/
def advance (s : Timed cfg E) (action : Action E) (next : System cfg E) : Timed cfg E :=
  match action with
  | .loop move =>
      { inner := next
        clock := s.clock
        selectSince := s.clock
        lastWrite := s.writeAfter move
        episode := s.episodeAfter move next.conn.pc }
  | _ => { s with inner := next }

def step (s : Timed cfg E) : TimedAction E → Option (Timed cfg E)
  | .tick =>
      if s.Waits ∧ ¬ s.SleepOver then
        some { s with clock := s.clock + 1, episode := s.episodeLater }
      else none
  | .act action => if s.Admits action then (s.inner.step action).map (s.advance action) else none

end Timed

/-- Every interleaving of the system with the passing of time. -/
def timed (cfg : LoopConfig) (E : Type) : Machine (Timed cfg E) (TimedAction E) where
  init := .create cfg E
  step := Timed.step

namespace Timed

open Connection

/-- The rules of the timed system. -/
inductive Rule (s : Timed cfg E) : TimedAction E → Timed cfg E → Prop where
  | held {frame} (atSelect : s.inner.conn.pc = .select (.backpressure frame))
      (early : ¬ s.SleepOver) : Rule s .tick { s with clock := s.clock + 1 }
  | elsewhere (released : ∀ frame, s.inner.conn.pc ≠ .select (.backpressure frame)) :
      Rule s .tick { s with clock := s.clock + 1, episode := none }
  | loop {move conn} (moved : s.inner.conn.LoopStep move conn) :
      Rule s (.act (.loop move))
        { inner := { s.inner with conn := conn }
          clock := s.clock
          selectSince := s.clock
          lastWrite := s.writeAfter move
          episode := s.episodeAfter move conn.pc }
  | other {action next} (quiet : (TimedAction.act action).quiet = true)
      (pc : next.conn.pc = s.inner.conn.pc) : Rule s (.act action) { s with inner := next }

variable {s t : Timed cfg E} {label : TimedAction E}

/-- A step of the timed system, by rules. -/
theorem step_rule (step : s.step label = some t) : Rule s label t := by
  cases label with
  | tick =>
      simp only [Timed.step, Option.ite_none_right_eq_some] at step
      obtain ⟨⟨_, early⟩, same⟩ := step
      obtain rfl := Option.some.inj same
      unfold episodeLater
      split
      · rename_i frame atSelect
        exact .held atSelect early
      · rename_i released
        exact .elsewhere released
  | act action =>
      simp only [Timed.step, Option.ite_none_right_eq_some, Option.map_eq_some_iff] at step
      obtain ⟨_, next, stepped, rfl⟩ := step
      rcases System.step_ledger stepped with ⟨move, rfl, moved⟩ | same
      · obtain ⟨conn, enabled, rfl⟩ := Option.map_eq_some_iff.mp stepped
        exact .loop moved
      · cases action with
        | loop move =>
            obtain ⟨conn, enabled, rfl⟩ := Option.map_eq_some_iff.mp stepped
            exact .loop (loopStep_rule enabled)
        | start _ _ | advance _ | cancel _ | clone _ _ | split _ _ | reunite _ _ | drop _ =>
            exact .other rfl same.pc

/-- The time since the later of the start of the episode and the last write. -/
def sinceWrite (s : Timed cfg E) : Option Nat :=
  s.episode.map fun start => s.clock - max start s.lastWrite

/-- During an episode the wire is not idle for longer than the interval. -/
def KeptAlive (s : Timed cfg E) : Prop :=
  ∀ idle ∈ s.sinceWrite, ∀ interval ∈ cfg.keepaliveInterval, idle ≤ interval

/-- The time since the last write at a step that reads a data frame and finds
the rx channel full while the episode lasts. The task then waits at a new
`select!`, with a new `sleep`. -/
def heldAgain (s : Timed cfg E) : TimedAction E → Option Nat
  | .act (.loop (.arm (.incoming (some (.ok frame))))) =>
      if frame.data?.isSome ∧ (s.inner.conn.rx.send frame).isPending then s.sinceWrite else none
  | _ => none

instance (s : Timed cfg E) : Decidable s.KeptAlive :=
  inferInstanceAs (Decidable (∀ idle ∈ s.sinceWrite, ∀ interval ∈ cfg.keepaliveInterval, _))

/-- How long the task stays where it is at the start of a run. -/
def dwell : List (Timed cfg E × TimedAction E) → Nat
  | [] => 0
  | (_, .tick) :: rest => dwell rest + 1
  | (_, .act (.loop _)) :: _ => 0
  | (_, .act _) :: rest => dwell rest

/-- The task stays where it is for the whole run. -/
def Quiet (trace : List (Timed cfg E × TimedAction E)) : Prop :=
  ∀ entry ∈ trace, entry.2.quiet = true

section Dwell

variable {front back : List (Timed cfg E × TimedAction E)}

/-- Time only adds up. -/
theorem dwell_le_append : dwell front ≤ dwell (front ++ back) := by
  induction front using dwell.induct with
  | case1 => exact Nat.zero_le _
  | case2 state rest ih => exact Nat.succ_le_succ ih
  | case3 state move rest => exact Nat.le_refl _
  | case4 state action rest other ih =>
      simp only [List.cons_append, dwell]
      exact ih

/-- The time of a stretch that is quiet at first is that of its parts. -/
theorem dwell_append (quiet : Quiet front) : dwell (front ++ back) = dwell front + dwell back := by
  induction front using dwell.induct with
  | case1 => exact (Nat.zero_add _).symm
  | case2 state rest ih =>
      have later : Quiet rest := fun entry member => quiet entry (List.mem_cons_of_mem _ member)
      simp only [List.cons_append, dwell, ih later]
      omega
  | case3 state move rest => cases quiet _ List.mem_cons_self
  | case4 state action rest other ih =>
      have later : Quiet rest := fun entry member => quiet entry (List.mem_cons_of_mem _ member)
      simp only [List.cons_append, dwell, ih later]

/-- A step that is quiet takes no time. -/
theorem dwell_of_act {action : Action E} (quiet : (TimedAction.act action).quiet = true) :
    dwell [(s, .act action)] = 0 := by
  cases action with
  | loop move => cases quiet
  | start _ _ | advance _ | cancel _ | clone _ _ | split _ _ | reunite _ _ | drop _ => rfl

/-- The time stops with the first step that is not quiet. -/
theorem dwell_append_of_moved (moved : ¬ Quiet front) : dwell (front ++ back) = dwell front := by
  induction front using dwell.induct with
  | case1 => exact absurd (fun _ member => nomatch member) moved
  | case2 state rest ih =>
      have later : ¬ Quiet rest := fun quiet => moved (List.forall_mem_cons.mpr ⟨rfl, quiet⟩)
      simp only [List.cons_append, dwell, ih later]
  | case3 state move rest => rfl
  | case4 state action rest other ih =>
      have stays : (TimedAction.act action).quiet = true := by
        cases action with
        | loop move => exact (other move rfl).elim
        | start _ _ | advance _ | cancel _ | clone _ _ | split _ _ | reunite _ _ | drop _ => rfl
      have later : ¬ Quiet rest := fun quiet => moved (List.forall_mem_cons.mpr ⟨stays, quiet⟩)
      simp only [List.cons_append, dwell, ih later]

/-- A quiet stretch goes on with a quiet step. -/
theorem Quiet.snoc (quiet : Quiet front) (stays : label.quiet = true) :
    Quiet (front ++ [(s, label)]) := by
  intro entry member
  rcases List.mem_append.mp member with earlier | here
  · exact quiet entry earlier
  · rw [List.mem_singleton.mp here]
    exact stays

end Dwell

/-- How the times of a reachable state lie. -/
structure Paced (s : Timed cfg E) : Prop where
  written : s.lastWrite ≤ s.selectSince
  moved : s.selectSince ≤ s.clock
  began : ∀ start ∈ s.episode, start ≤ s.selectSince
  due : ∀ frame, s.inner.conn.pc = .select (.backpressure frame) →
    ∀ interval ∈ cfg.keepaliveInterval, s.clock ≤ s.selectSince + interval

/-- Nothing was written later than now. -/
theorem writeAfter_le (paced : Paced s) (move : LoopAction E) : s.writeAfter move ≤ s.clock := by
  have written := paced.written.trans paced.moved
  cases move with
  | sink result => exact Nat.le_refl _
  | arm _ | finish => exact written

/-- The last write is no earlier after a step of the task. -/
theorem lastWrite_le_writeAfter (paced : Paced s) (move : LoopAction E) :
    s.lastWrite ≤ s.writeAfter move := by
  have written := paced.written.trans paced.moved
  cases move with
  | sink result => exact written
  | arm _ | finish => exact Nat.le_refl _

/-- A step of the task ends the episode, leaves it as it is or starts one. -/
theorem episodeAfter_cases (s : Timed cfg E) (move : LoopAction E) (pc : LoopPc E) :
    s.episodeAfter move pc = none ∨ s.episodeAfter move pc = s.episode ∨
      (s.episode = none ∧ s.episodeAfter move pc = some s.clock) := by
  unfold episodeAfter
  split
  · cases s.episode with
    | none => exact .inr (.inr ⟨rfl, rfl⟩)
    | some start => exact .inr (.inl rfl)
  · split
    · exact .inl rfl
    · exact .inr (.inl rfl)
  · exact .inl rfl
  · exact .inr (.inl rfl)

/-- Every step keeps the pace of the timer. -/
theorem Paced.step (paced : Paced s) (rule : Rule s label t) : Paced t := by
  cases rule with
  | held atSelect early =>
      refine ⟨paced.written, paced.moved.trans (Nat.le_succ _), paced.began, ?_⟩
      intro frame _ interval timed
      have notOver : ¬ s.selectSince + interval ≤ s.clock := fun done => early ⟨_, timed, done⟩
      change s.clock + 1 ≤ s.selectSince + interval
      omega
  | elsewhere released =>
      exact ⟨paced.written, paced.moved.trans (Nat.le_succ _), nofun,
        fun frame atSelect => (released frame atSelect).elim⟩
  | @loop move conn moved =>
      refine ⟨writeAfter_le paced move, Nat.le_refl _, ?_, fun _ _ _ _ => Nat.le_add_right _ _⟩
      intro start present
      change start ∈ s.episodeAfter move conn.pc at present
      change start ≤ s.clock
      rcases s.episodeAfter_cases move conn.pc with ends | same | ⟨_, starts⟩
      · rw [ends] at present
        cases present
      · rw [same] at present
        exact (paced.began start present).trans paced.moved
      · rw [starts] at present
        exact (Option.some.inj present).ge
  | other quiet pc =>
      exact ⟨paced.written, paced.moved, paced.began,
        fun frame atSelect => paced.due frame (pc ▸ atSelect)⟩

/-- The timer keeps its pace in every reachable state. -/
theorem paced (reached : (timed cfg E).Reachable s) : Paced s := by
  refine reached.invariant Paced ⟨Nat.le_refl _, Nat.le_refl _, nofun, nofun⟩ ?_
  intro state label target _ holds step
  exact holds.step (step_rule step)

/-- A tick adds to the time since the last write. -/
theorem sinceWrite_tick (paced : Paced s) :
    ({ s with clock := s.clock + 1 } : Timed cfg E).sinceWrite = s.sinceWrite.map (· + 1) := by
  have written := paced.written.trans paced.moved
  unfold sinceWrite
  cases episode : s.episode with
  | none => rfl
  | some start =>
      have began := (paced.began start episode).trans paced.moved
      simp only [Option.map_some, Option.some.injEq]
      omega

/-- No other step of the task makes it longer. -/
theorem KeptAlive.loop (alive : KeptAlive s) (paced : Paced s) {move : LoopAction E}
    {conn : Connection cfg E} :
    KeptAlive ({
      inner := { s.inner with conn := conn }
      clock := s.clock
      selectSince := s.clock
      lastWrite := s.writeAfter move
      episode := s.episodeAfter move conn.pc } : Timed cfg E) := by
  have later := lastWrite_le_writeAfter paced move
  intro idle here interval timed
  obtain ⟨start, present, rfl⟩ := Option.map_eq_some_iff.mp here
  change s.episodeAfter move conn.pc = some start at present
  change s.clock - max start (s.writeAfter move) ≤ interval
  rcases s.episodeAfter_cases move conn.pc with ends | same | ⟨_, starts⟩
  · rw [ends] at present
    cases present
  · rw [same] at present
    have before : s.clock - max start s.lastWrite ≤ interval := by
      refine alive _ ?_ interval timed
      rw [sinceWrite, present]
      rfl
    omega
  · rw [starts] at present
    obtain rfl := Option.some.inj present
    omega

/-- How the task comes to wait with a frame held: it has just read the frame,
or written something. -/
theorem waits_with_frame {conn next : Connection cfg E} {move : LoopAction E}
    (moved : conn.LoopStep move next) {frame : Message}
    (atSelect : next.pc = .select (.backpressure frame)) :
    (∃ result, move = .sink result) ∨
      (move = .arm (.incoming (some (.ok frame))) ∧ frame.data?.isSome ∧
        (conn.rx.send frame).isPending) := by
  cases moved with
  | @hold frame' before data held full =>
      obtain rfl : frame' = frame := by simpa using atSelect
      have pending : conn.rx.send frame' = .pending := Channel.send_pending_iff.mpr ⟨held, full⟩
      exact .inr ⟨rfl, by rw [data]; rfl, Poll.isPending_iff.mpr pending⟩
  | sentUnconfirmed | sentConfirmed | sentUnheard | ponged | sinkClosed | keptAlive =>
      exact .inl ⟨_, rfl⟩
  | outgoing | sendersGone | ping | close | skip | streamError | streamEnd | deliver | refuse
  | release | abandon | sleep | record | dropSender | dropReceiver => cases atSelect

/-- How long the wire has been idle while a frame is held: since the `select!`
began, or since a time before the frame was held again. -/
def Origin (trace : List (Timed cfg E × TimedAction E)) (s : Timed cfg E) : Prop :=
  ∀ idle ∈ s.sinceWrite, ∀ frame, s.inner.conn.pc = .select (.backpressure frame) →
    s.selectSince + idle = s.clock ∨
      ∃ front r label back before, trace = front ++ (r, label) :: back ∧
        before ∈ r.heldAgain label ∧ Quiet back ∧ before + dwell back = idle

/-- A quiet step adds its time to the wait for a frame that is held again. -/
theorem Origin.snoc {trace : List (Timed cfg E × TimedAction E)} {idle extra : Nat}
    (earlier : ∃ front r label back before, trace = front ++ (r, label) :: back ∧
      before ∈ r.heldAgain label ∧ Quiet back ∧ before + dwell back = idle)
    (stays : label.quiet = true) (adds : dwell [(s, label)] = extra) :
    ∃ front r label' back before, trace ++ [(s, label)] = front ++ (r, label') :: back ∧
      before ∈ r.heldAgain label' ∧ Quiet back ∧ before + dwell back = idle + extra := by
  obtain ⟨front, r, label', back, before, rfl, again, quiet, total⟩ := earlier
  refine ⟨front, r, label', back ++ [(s, label)], before, ?_, again, quiet.snoc stays, ?_⟩
  · rw [List.append_assoc, List.cons_append]
  · rw [dwell_append quiet, adds]
    omega

/-- Every wait with a held frame has its origin in the run. -/
theorem origin {trace : List (Timed cfg E × TimedAction E)}
    (run : (timed cfg E).Run (timed cfg E).init trace s) : Origin trace s := by
  induction run with
  | nil => exact nofun
  | @snoc s t front label earlier step ih =>
      have paced : Paced s := paced ⟨_, earlier⟩
      intro idle here frame atSelect
      cases step_rule step with
      | held waits _ =>
          rw [sinceWrite_tick paced] at here
          obtain ⟨before, present, rfl⟩ := Option.map_eq_some_iff.mp here
          rcases ih before present frame atSelect with fresh | again
          · left
            change s.selectSince + (before + 1) = s.clock + 1
            omega
          · exact .inr (Origin.snoc again rfl rfl)
      | elsewhere released => exact (released frame atSelect).elim
      | @loop move conn moved =>
          rcases waits_with_frame moved atSelect with ⟨result, rfl⟩ | ⟨rfl, data, full⟩
          · left
            obtain ⟨start, present, rfl⟩ := Option.map_eq_some_iff.mp here
            change s.clock + (s.clock - max start s.clock) = s.clock
            omega
          · change conn.pc = _ at atSelect
            obtain ⟨start, present, rfl⟩ := Option.map_eq_some_iff.mp here
            change s.episodeAfter _ conn.pc = some start at present
            rw [atSelect] at present
            cases episode : s.episode with
            | none =>
                left
                rw [episodeAfter, episode] at present
                obtain rfl := Option.some.inj present
                change s.clock + (s.clock - max s.clock s.lastWrite) = s.clock
                omega
            | some began =>
                right
                rw [episodeAfter, episode] at present
                obtain rfl := Option.some.inj present
                refine ⟨front, s, _, [], _, rfl, ?_, ?_, Nat.add_zero _⟩
                · change _ = some _
                  rw [heldAgain, if_pos ⟨data, full⟩, sinceWrite, episode]
                  rfl
                · exact fun _ member => nomatch member
      | @other action next quiet pc =>
          rcases ih idle here frame (pc ▸ atSelect) with fresh | again
          · exact .inl fresh
          · exact .inr (Origin.snoc again quiet (dwell_of_act quiet))

variable {trace : List (Timed cfg E × TimedAction E)} {final : Timed cfg E}

/-- A frame that is held again is released, or something is written, before the
wire has been idle for longer than the interval. -/
def HeldInTime (trace : List (Timed cfg E × TimedAction E)) : Prop :=
  ∀ front s label back, trace = front ++ (s, label) :: back →
    ∀ before ∈ s.heldAgain label, ∀ interval ∈ cfg.keepaliveInterval,
      before + dwell back ≤ interval

/-- A run that is in time was so from its beginning. -/
theorem HeldInTime.initial {front back : List (Timed cfg E × TimedAction E)}
    (inTime : HeldInTime (front ++ back)) : HeldInTime front := by
  rintro first s label rest rfl before again interval timed
  have longer := inTime first s label (rest ++ back) (by simp) before again interval timed
  exact (Nat.add_le_add_left dwell_le_append before).trans longer

/-- A run that is in time is kept alive. -/
theorem keptAlive (run : (timed cfg E).Run (timed cfg E).init trace s) (inTime : HeldInTime trace) :
    KeptAlive s := by
  induction run with
  | nil => exact nofun
  | @snoc s t front label earlier step ih =>
      have alive := ih inTime.initial
      have before : Paced s := paced ⟨_, earlier⟩
      have origin := origin (earlier.snoc step)
      have rule := step_rule step
      have after : Paced t := before.step rule
      cases rule with
      | held atSelect early =>
          intro idle here interval timed
          rcases origin idle here _ atSelect with fresh | ⟨_, _, _, _, _, parts, again, _, total⟩
          · have due := after.due _ atSelect interval timed
            omega
          · rw [← total]
            exact inTime _ _ _ _ parts _ again interval timed
      | elsewhere released => exact nofun
      | loop moved => exact alive.loop before
      | other quiet pc => exact alive

/-- While the task stays where it is with a frame held, the wire is idle for as
long. -/
theorem lingers {source : Timed cfg E} {back : List (Timed cfg E × TimedAction E)}
    {before : Nat} (reached : (timed cfg E).Reachable source)
    (run : (timed cfg E).Run source back final)
    {frame : Message} (atSelect : source.inner.conn.pc = .select (.backpressure frame))
    (idle : source.sinceWrite = some before) :
    ∃ u, Machine.Visited back final u ∧ u.sinceWrite = some (before + dwell back) ∧
      (Quiet back → u = final ∧ final.inner.conn.pc = .select (.backpressure frame)) := by
  obtain ⟨_, start⟩ := reached
  induction run with
  | nil => exact ⟨_, .inl rfl, idle, fun _ => ⟨rfl, atSelect⟩⟩
  | @snoc s t front label earlier step ih =>
      obtain ⟨u, seen, idle, stays⟩ := ih
      by_cases quiet : Quiet front
      · obtain ⟨rfl, held⟩ := stays quiet
        rw [dwell_append quiet]
        have paced : Paced u := paced ⟨_, start.append earlier⟩
        cases step_rule step with
        | held _ _ =>
            refine ⟨_, .inl rfl, ?_, fun _ => ⟨rfl, held⟩⟩
            rw [sinceWrite_tick paced, idle]
            rfl
        | elsewhere released => exact (released frame held).elim
        | loop moved =>
            refine ⟨u, seen.snoc _, idle, fun quiet => ?_⟩
            cases quiet _ (List.mem_append_right _ (List.mem_singleton_self _))
        | @other action next stays pc =>
            have adds : dwell [(u, TimedAction.act action)] = 0 := dwell_of_act stays
            refine ⟨_, .inl rfl, ?_, fun _ => ⟨rfl, pc.trans held⟩⟩
            rw [adds]
            exact idle
      · refine ⟨u, seen.snoc _, ?_, fun whole => ?_⟩
        · rw [dwell_append_of_moved quiet]
          exact idle
        · exact absurd (fun entry member => whole entry (List.mem_append_left _ member)) quiet

/-- A data frame read while the rx channel is full is held. -/
theorem reads_full {conn next : Connection cfg E} {frame : Message}
    (moved : conn.LoopStep (.arm (.incoming (some (.ok frame)))) next)
    (data : frame.data?.isSome) (full : (conn.rx.send frame).isPending) :
    next.pc = .select (.backpressure frame) := by
  obtain ⟨held, noRoom⟩ := Channel.send_pending_iff.mp (Poll.isPending_iff.mp full)
  cases moved with
  | hold => rfl
  | deliver _ _ accepted => exact absurd accepted.room (Nat.not_lt.mpr noRoom)
  | refuse _ _ gone =>
      rw [gone] at held
      cases held
  | ping | close => cases data
  | skip _ skipped => obtain ⟨_, rfl⟩ | ⟨_, rfl⟩ := skipped <;> cases data

/-- The start of the wait that follows a step at which a frame is held again. -/
theorem heldAgain_waits (step : s.step label = some t) {before : Nat}
    (again : before ∈ s.heldAgain label) :
    (∃ frame, t.inner.conn.pc = .select (.backpressure frame)) ∧ t.sinceWrite = some before := by
  unfold heldAgain at again
  split at again
  · rename_i frame
    simp only [Option.mem_def, Option.ite_none_right_eq_some] at again
    obtain ⟨⟨data, full⟩, idle⟩ := again
    cases step_rule step with
    | @loop _ conn moved =>
        have waits := reads_full moved data full
        refine ⟨⟨frame, waits⟩, ?_⟩
        obtain ⟨start, present, rfl⟩ := Option.map_eq_some_iff.mp idle
        simp only [sinceWrite, episodeAfter, waits, present]
        rfl
    | other quiet pc => cases quiet
  · cases again

/-- Over every run, the wire is kept alive through every episode exactly when
every frame that is held again is released, or something is written, in time.
A new `sleep` begins with each frame held, so nothing bounds the time since the
last write when frames are released one by one. -/
theorem keepalive_iff (run : (timed cfg E).Run (.create cfg E) trace final) :
    (∀ s, Machine.Visited trace final s → s.KeptAlive) ↔ HeldInTime trace := by
  constructor
  · rintro alive front s label back rfl before again interval timed
    obtain ⟨t, reached, step, rest⟩ := run.parts
    obtain ⟨⟨frame, waits⟩, idle⟩ := heldAgain_waits step again
    obtain ⟨u, seen, idle, _⟩ := lingers ⟨_, reached.snoc step⟩ rest waits idle
    have seen : Machine.Visited (front ++ (s, label) :: back) final u := by
      rw [List.append_cons]
      exact seen.append_left
    exact alive u seen _ idle interval timed
  · intro inTime s seen
    obtain ⟨front, back, rfl, reached, _⟩ := run.visited seen
    exact keptAlive reached inTime.initial

/-- The consumer takes a frame three units after the second one is held, and the
third is held in its place. -/
def drainedOnce : List (TimedAction Unit) :=
  [.act (.loop (.arm (.incoming (some (.ok (.binary [1])))))),
    .act (.loop (.arm (.incoming (some (.ok (.binary [2])))))), .tick, .tick, .tick,
    .act (.start 0 .nextRawMessage), .act (.advance 0), .act (.loop (.arm .reserve)),
    .act (.loop (.arm (.incoming (some (.ok (.binary [3]))))))]

/-- The third frame waits for two units. -/
theorem keepalive_iff_drainedOnce :
    let actions := drainedOnce ++ [.tick, .tick]
    let final := (timed .timed Unit).follow (.create .timed Unit) actions
    HeldInTime ((timed .timed Unit).steps (.create .timed Unit) actions) ∧
      final.sinceWrite = some 5 ∧ final.selectSince = 3 := by
  intro actions final
  have run := (timed .timed Unit).run_steps (.create .timed Unit) actions
  have alive : ∀ entry ∈ (timed .timed Unit).steps (.create .timed Unit) actions,
      entry.1.KeptAlive := by decide
  refine ⟨(keepalive_iff run).mp ?_, by decide, by decide⟩
  rintro s (rfl | ⟨label, member⟩)
  · decide
  · exact alive (s, label) member

/-- When it waits for three, the wire has been idle for six units out of five. -/
theorem idle_beyond_interval :
    ¬ ∀ (cfg : LoopConfig) (interval : Nat), cfg.keepaliveInterval = some interval →
      0 < interval → ∀ trace final, (timed cfg Unit).Run (.create cfg Unit) trace final →
        (∀ entry ∈ trace, entry.2.healthy) →
          ∀ s, Machine.Visited trace final s → s.KeptAlive := by
  intro always
  have run := (timed .timed Unit).run_steps (.create .timed Unit)
    (drainedOnce ++ [.tick, .tick, .tick])
  have alive := always .timed 5 rfl (by decide) _ _ run (by decide) _ (.inl rfl)
  revert alive
  decide

end Timed

end Socketeer
