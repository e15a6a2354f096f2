import Socketeer.Handles.Graceful
import Socketeer.Handles.Unanswered

/-! # Where the cause of a failure goes

An operation on the socket that fails ends the loop. Its error goes to the
terminal slot or to the caller who waits for the write, except when the write
was that of a payload for which nobody waits.
-/

namespace Socketeer

open Foundation

variable {cfg : LoopConfig} {E : Type}

namespace System

open Connection

variable {s t : System cfg E}

/-- The error with which a step of the task finds an operation on the socket
failed. -/
def failsWith : Action E → Option E
  | .loop (.sink (.error e)) => some e
  | .loop (.arm (.incoming (some (.error e)))) => some e
  | _ => none

/-- The error is in the slot, or was the first to be taken from it, or was
delivered on the one-shot of a caller. -/
inductive Surfaced (s : System cfg E) (e : E) : Prop where
  | stored (reads : s.slotReads = []) (slot : s.conn.terminalError = some (.websocketError e))
  | taken {call rest} (reads : s.slotReads = (call, some (.websocketError e)) :: rest)
  | reported {call}
      (delivered : (s.conn.oneshots call).value = some (.error (.websocketError e)))

/-- Whether a step finds that the write of a payload failed for which nobody
waits. -/
def losesCause (s : System cfg E) (action : Action E) : Bool :=
  match s.conn.pc, action with
  | .sending payload _, .loop (.sink (.error _)) =>
      match payload.responseTx with
      | some call => (s.calls call).any Call.isCancelled
      | none => true
  | _, _ => false

/-- Once the cause of an error is recorded, it surfaces, and no other does. -/
private theorem surfaced_of_leaving (reached : (system cfg E).Reachable s) {cause : Error E}
    {stage : Stage} (leaving : s.conn.pc = .leaving (.error cause) stage)
    (recorded : stage ≠ .recording) :
    (∀ e, cause = .websocketError e → s.Surfaced e) ∧
      ∀ e, s.Surfaced e → cause = .websocketError e ∨
        ∃ call, (s.conn.oneshots call).value = some (.error (.websocketError e)) := by
  have slot := slot reached
  have known : s.conn.pc.cause = some cause := by
    rw [leaving]
    cases stage with
    | recording => exact absurd rfl recorded
    | droppingSender | droppingReceiver | finished => rfl
  constructor
  · rintro e rfl
    cases reads : s.slotReads with
    | nil => exact .stored reads ((slot.untouched reads).trans known)
    | cons access rest =>
        obtain ⟨call, read⟩ := access
        obtain rfl : read = some (.websocketError e) := (slot.first _ _ reads).1.trans known
        exact .taken reads
  · intro e surfaced
    cases surfaced with
    | stored reads held =>
        left
        rw [slot.untouched reads, known] at held
        exact Option.some.inj held
    | taken reads =>
        left
        have took := (slot.first _ _ reads).1
        rw [known] at took
        exact (Option.some.inj took).symm
    | @reported call delivered => exact .inr ⟨call, delivered⟩

/-- No write has failed while the loop is running. -/
private theorem value_of_running (reached : (system cfg E).Reachable s)
    (running : s.conn.pc.running = true) (call : CallId) (error : Error E) :
    (s.conn.oneshots call).value ≠ some (.error error) := by
  intro delivered
  obtain ⟨message, write, member, same⟩ := (requests reached).written call _ delivered
  have sent := (orderly reached).running running _ member
  cases write with
  | ok _ => cases same
  | error _ => cases sent

/-- What was sent on a one-shot stays there. -/
private theorem run_value {trace : List (System cfg E × Action E)}
    (run : (system cfg E).Run s trace t) (reached : (system cfg E).Reachable s) {call : CallId}
    {result : Except (Error E) Unit} (sent : (s.conn.oneshots call).value = some result) :
    (t.conn.oneshots call).value = some result := by
  have both : (system cfg E).Reachable t ∧ (t.conn.oneshots call).value = some result := by
    apply run.invariant
    · exact ⟨reached, sent⟩
    rintro middle action target ⟨reached, sent⟩ step
    exact ⟨reached.next step, value_stays reached (step_rule step) sent⟩
  exact both.2

/-- After the loop nothing is sent on a one-shot. -/
private theorem run_value_of_left {trace : List (System cfg E × Action E)}
    (run : (system cfg E).Run s trace t) (reached : (system cfg E).Reachable s)
    (left : s.conn.pc.running = false) (call : CallId) :
    (t.conn.oneshots call).value = (s.conn.oneshots call).value := by
  have both : (system cfg E).Reachable t ∧ t.conn.pc.running = false ∧
      (t.conn.oneshots call).value = (s.conn.oneshots call).value := by
    apply run.invariant
    · exact ⟨reached, left, rfl⟩
    rintro middle action target ⟨reached, left, same⟩ step
    have value := value_of_left reached left (step_rule step) call
    refine ⟨reached.next step, ?_, value.trans same⟩
    cases pc : middle.conn.pc with
    | leaving state stage =>
        obtain ⟨⟨later, after⟩, _⟩ := exited_step step pc
        rw [after]
        rfl
    | select _ | sending _ _ | ponging | closing | keepalive _ =>
        rw [pc] at left
        cases left
  exact both.2.2

/-- What becomes of the error of a failed operation: a caller has it, or it is
the cause with which the loop ends, or the step loses it. -/
private theorem failure_cases (reached : (system cfg E).Reachable s) {action : Action E} {e : E}
    (fails : failsWith action = some e) (step : s.step action = some t) :
    (s.losesCause action = false ∧
        ((∃ call, (t.conn.oneshots call).value = some (.error (.websocketError e))) ∨
          t.conn.pc = .leaving (.error (.websocketError e)) .recording)) ∨
      (s.losesCause action = true ∧ s.conn.pc.running = true ∧
        (∃ cause, t.conn.pc = .leaving (.error cause) .recording ∧
          ∀ e, cause ≠ .websocketError e) ∧
        ∀ call, (t.conn.oneshots call).value = (s.conn.oneshots call).value) := by
  cases action with
  | loop move =>
      obtain ⟨conn, moved, rfl⟩ := Option.map_eq_some_iff.mp step
      cases loopStep_rule moved with
      | streamError here =>
          obtain rfl := Option.some.inj fails
          left
          exact ⟨by simp [losesCause, here], .inr rfl⟩
      | @ponged result here | @sinkClosed result here | @keptAlive site result here =>
          cases result with
          | ok _ => cases fails
          | error error =>
              obtain rfl := Option.some.inj fails
              left
              exact ⟨by simp [losesCause, here], .inr rfl⟩
      | @sentUnconfirmed payload site result here unconfirmed =>
          cases result with
          | ok _ => cases fails
          | error error =>
              right
              refine ⟨by simp [losesCause, here, unconfirmed], by rw [here]; rfl,
                ⟨.websocketClosed, rfl, nofun⟩, fun _ => rfl⟩
      | @sentConfirmed payload site call result here confirmed listening =>
          cases result with
          | ok _ => cases fails
          | error error =>
              obtain rfl := Option.some.inj fails
              left
              constructor
              · rw [← Bool.not_eq_true, hungUp_iff reached] at listening
                simpa [losesCause, here, confirmed] using listening
              · left
                refine ⟨call, ?_⟩
                change (Function.update s.conn.oneshots call _ call).value = _
                rw [Function.update_self]
                rfl
      | @sentUnheard payload site call result here confirmed cancelled =>
          cases result with
          | ok _ => cases fails
          | error error =>
              right
              rw [hungUp_iff reached] at cancelled
              refine ⟨by simpa [losesCause, here, confirmed] using cancelled, by rw [here]; rfl,
                ⟨.socketeerDroppedWithoutClosing, rfl, nofun⟩, fun other => ?_⟩
              change (Function.update s.conn.oneshots call _ other).value = _
              by_cases mine : other = call
              · rw [mine, Function.update_self]
                rfl
              · rw [Function.update_of_ne mine]
      | outgoing | sendersGone | ping | close | skip | streamEnd | deliver | refuse | hold
      | release | abandon | sleep | record | dropSender | dropReceiver => cases fails
  | start | advance | cancel | clone | split | reunite | drop => cases fails

/-- In a run whose loop has ended and recorded its cause, the error of every
failed operation on the socket has surfaced, if and only if no step of the run
finds the write of a payload failed for which nobody waits. -/
theorem cause_surfaces_iff {final : System cfg E} {trace : List (System cfg E × Action E)}
    (run : (system cfg E).Run (.create cfg E) trace final) {state : LoopState E} {stage : Stage}
    (ended : final.conn.pc = .leaving state stage) (recorded : stage ≠ .recording) :
    (∀ s action e, (s, action) ∈ trace → failsWith action = some e → final.Surfaced e) ↔
      ∀ s action, (s, action) ∈ trace → s.losesCause action = false := by
  have reached : (system cfg E).Reachable final := ⟨trace, run⟩
  constructor
  · intro surfaces s action member
    by_contra loses
    have loses : s.losesCause action = true := by simpa using loses
    obtain ⟨front, back, t, _, before, step, after⟩ := run.split member
    have start : (system cfg E).Reachable s := ⟨front, before⟩
    have fails : ∃ e, failsWith action = some e := by
      unfold losesCause at loses
      split at loses
      · exact ⟨_, rfl⟩
      · cases loses
    obtain ⟨e, fails⟩ := fails
    rcases failure_cases start fails step with ⟨kept, _⟩ | ⟨_, running, ⟨cause, left, other⟩, same⟩
    · rw [loses] at kept
      cases kept
    · obtain ⟨later, leaving⟩ := run_exited after left
      obtain ⟨_, rfl⟩ := LoopPc.leaving.inj (ended.symm.trans leaving)
      have surfaced := surfaces s action e member fails
      rcases (surfaced_of_leaving reached leaving recorded).2 e surfaced with caused | ⟨call, held⟩
      · exact other e caused
      · -- the loop ends here, so the value was there while it was running
        rw [run_value_of_left after (start.next step) (by rw [left]; rfl) call, same call] at held
        exact value_of_running start running call _ held
  · intro kept s action e member fails
    obtain ⟨front, back, t, _, before, step, after⟩ := run.split member
    have start : (system cfg E).Reachable s := ⟨front, before⟩
    rcases failure_cases start fails step with ⟨_, ⟨call, delivered⟩ | left⟩ | ⟨loses, _⟩
    · exact .reported (run_value after (start.next step) delivered)
    · obtain ⟨later, leaving⟩ := run_exited after left
      obtain ⟨_, rfl⟩ := LoopPc.leaving.inj (ended.symm.trans leaving)
      exact (surfaced_of_leaving reached leaving recorded).1 e rfl
    · rw [kept s action member] at loses
      cases loses

/-- The write of a fire-and-forget message fails. -/
def unconfirmedFails : List (Action Unit) :=
  [.split 0 1, .start 0 (.sendRawUnconfirmed (.binary [1])), .advance 0, .loop (.arm .outgoing),
    .loop (.sink (.error ())), .loop .finish, .loop .finish, .loop .finish]

/-- The error of the write is lost. -/
theorem cause_replaced :
    let s := (system .single Unit).follow (.create .single Unit) unconfirmedFails
    (system .single Unit).Reachable s ∧
      s.conn.sinkOps = [.send (.outgoing none) (.binary [1]) (.error ())] ∧
      s.conn.pc = .leaving (.error .websocketClosed) .finished ∧ s.slotReads = [] ∧
      s.conn.terminalError = some .websocketClosed ∧ ¬ s.Surfaced () := by
  intro s
  have reads : s.slotReads = [] := by decide
  have slot : s.conn.terminalError = some .websocketClosed := by decide
  refine ⟨(system .single Unit).follow_reachable unconfirmedFails, rfl, by decide, reads, slot, ?_⟩
  intro surfaced
  cases surfaced with
  | stored _ held =>
      rw [slot] at held
      cases held
  | taken taken =>
      rw [reads] at taken
      cases taken
  | @reported call delivered =>
      have unsent : (s.conn.oneshots call).value = none := rfl
      rw [unsent] at delivered
      cases delivered

/-- The write of a confirmed message fails while its caller waits. -/
def confirmedFails : List (Action Unit) :=
  [.start 0 (.sendRaw (.binary [1])), .advance 0, .loop (.arm .outgoing),
    .loop (.sink (.error ())), .loop .finish]

theorem cause_surfaces_iff_confirmedFails :
    ((system .single Unit).follow (.create .single Unit) confirmedFails).conn.pc =
        .leaving (.error .websocketClosed) .droppingSender ∧
      ((system .single Unit).follow (.create .single Unit) confirmedFails).Surfaced () := by
  have run := (system .single Unit).run_steps (.create .single Unit) confirmedFails
  have ended : ((system .single Unit).follow (.create .single Unit) confirmedFails).conn.pc =
      .leaving (.error .websocketClosed) .droppingSender := by decide
  have kept : ∀ entry ∈ (system .single Unit).steps (.create .single Unit) confirmedFails,
      entry.1.losesCause entry.2 = false := by decide
  have failed : ∃ entry ∈ (system .single Unit).steps (.create .single Unit) confirmedFails,
      failsWith entry.2 = some () := by decide
  obtain ⟨⟨s, action⟩, member, fails⟩ := failed
  refine ⟨ended, (cause_surfaces_iff run ended (by decide)).mpr ?_ s action () member fails⟩
  exact fun s action member => kept (s, action) member

end System

end Socketeer
