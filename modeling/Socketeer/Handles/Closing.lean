import Socketeer.Handles.Terminal
import Socketeer.Handles.Unanswered

/-! # Closing from this side

The loop does not record that it has written a Close frame: until the peer
answers it goes on with keepalives and pongs, which the sink then refuses. A
local close ends in `Closed` exactly when none of them comes in between and the
call that closes is still there when its frame is written.
-/

namespace Socketeer

open Foundation

variable {cfg : LoopConfig} {E : Type}

/-- The payload `send_close` enqueues. -/
def closePayload (call : CallId) : TxChannelPayload where
  message := closeMessage
  responseTx := some call

/-- Whether the operation wrote a Close frame. -/
def SinkOp.wroteClose : SinkOp E → Bool
  | .send _ (.close _) (.ok ()) => true
  | _ => false

/-- Whether the operation wrote the close frame of the call. -/
def SinkOp.wroteCloseOf (call : CallId) : SinkOp E → Bool
  | .send (.outgoing responseTx) message (.ok ()) =>
      decide (responseTx = some call ∧ message = closeMessage)
  | _ => false

/-- An operation has written a call's close frame exactly if it is that send. -/
theorem SinkOp.wroteCloseOf_iff {call : CallId} {op : SinkOp E} :
    op.wroteCloseOf call = true ↔ op = .send (.outgoing (some call)) closeMessage (.ok ()) := by
  constructor
  · intro wrote
    unfold wroteCloseOf at wrote
    split at wrote
    · obtain ⟨rfl, rfl⟩ := of_decide_eq_true wrote
      rfl
    · cases wrote
  · rintro rfl
    exact decide_eq_true ⟨rfl, rfl⟩

/-- The frames `tungstenite` does not write after a Close frame. -/
def Message.refusable : Message → Bool
  | .text _ | .binary _ | .ping _ | .pong _ => true
  | .close _ | .frame _ => false

namespace Connection

/-- Whether a Close frame was written. -/
def sentClose (s : Connection cfg E) : Bool :=
  s.sinkOps.any SinkOp.wroteClose

/-- Whether the close frame of the call was written. -/
def closeWritten (s : Connection cfg E) (call : CallId) : Bool :=
  s.sinkOps.any (SinkOp.wroteCloseOf call)

/-- Whether the network answers as it does when it does not fail: a write fails
when a Close frame was written and the message is refused after one, and only
then, the sink closes, and the stream neither fails nor ends. -/
def transports (s : Connection cfg E) (refuses : Message → Bool) : LoopAction E → Bool
  | .sink result =>
      match s.pc.passing cfg with
      | some (_, message) => result.isOk == !(s.sentClose && refuses message)
      | none => result.isOk
  | .arm (.incoming item) => item.any Except.isOk
  | .arm .outgoing | .arm .reserve | .arm .sleep | .finish => true

/-- The task has left its loop in an error, or waits for a write that fails. -/
def Doomed (s : Connection cfg E) (refuses : Message → Bool) : Prop :=
  (∃ cause stage, s.pc = .leaving (.error cause) stage) ∨
    (s.sentClose = true ∧
      ∃ origin message, s.pc.passing cfg = some (origin, message) ∧ refuses message = true)

variable {s t : Connection cfg E} {action : LoopAction E} {refuses : Message → Bool} {call : CallId}

/-- A close frame that was written for a call was written. -/
theorem sentClose_of_closeWritten (written : s.closeWritten call = true) :
    s.sentClose = true := by
  obtain ⟨op, member, wrote⟩ := List.any_eq_true.mp written
  refine List.any_eq_true.mpr ⟨op, member, ?_⟩
  rw [SinkOp.wroteCloseOf_iff.mp wrote]
  rfl

/-- What was written stays written. -/
theorem LoopStep.closeWritten (step : s.LoopStep action t) (written : s.closeWritten call = true) :
    t.closeWritten call = true := by
  obtain ⟨op, member, wrote⟩ := List.any_eq_true.mp written
  exact List.any_eq_true.mpr ⟨op, step.sinkOps.subset member, wrote⟩

/-- A task that passes nothing on and records no error is not doomed. -/
theorem not_doomed (idle : s.pc.passing cfg = none)
    (stays : ∀ cause stage, s.pc ≠ .leaving (.error cause) stage) : ¬ s.Doomed refuses := by
  rintro (⟨cause, stage, leaving⟩ | ⟨_, _, _, passing, _⟩)
  · exact stays cause stage leaving
  · rw [idle] at passing
    cases passing

/-- A failing write ends the loop in an error. -/
theorem LoopStep.fails {e : E} (step : s.LoopStep (.sink (.error e)) t)
    {entry : Origin × Message} (passing : s.pc.passing cfg = some entry) :
    ∃ cause, t.pc = .leaving (.error cause) .recording := by
  cases step with
  | sentUnconfirmed | sentConfirmed | sentUnheard | ponged | keptAlive => exact ⟨_, rfl⟩
  | sinkClosed here =>
      rw [here] at passing
      cases passing

/-- A write fails only when a Close frame was written and the message is refused. -/
theorem refused_of_error {e : E} (transport : s.transports refuses (.sink (.error e)) = true)
    {origin : Origin} {message : Message}
    (passing : s.pc.passing cfg = some (origin, message)) :
    s.sentClose = true ∧ refuses message = true := by
  rw [← Bool.and_eq_true]
  by_contra accepted
  rw [transports, passing] at transport
  simp only [Bool.eq_false_of_not_eq_true accepted] at transport
  cases transport

/-- A task that is doomed stays so. -/
theorem Doomed.loopStep (doomed : s.Doomed refuses) (step : s.LoopStep action t)
    (transport : s.transports refuses action = true) : t.Doomed refuses := by
  rcases doomed with ⟨cause, stage, leaving⟩ | ⟨sent, origin, message, passing, refused⟩
  · obtain ⟨later, left⟩ := (step.exited leaving).1
    exact .inl ⟨cause, later, left⟩
  · cases action with
    | sink result =>
        have failed : result.isOk = false := by
          simpa [transports, passing, sent, refused] using transport
        cases result with
        | ok _ => cases failed
        | error e =>
            obtain ⟨cause, left⟩ := step.fails passing
            exact .inl ⟨cause, .recording, left⟩
    | arm arm =>
        cases step with
        | outgoing here | sendersGone here | ping here | close here | skip here | streamError here
        | streamEnd here | deliver here | refuse here | hold here | release here | abandon here
        | sleep here =>
            rw [here] at passing
            cases passing
    | finish =>
        cases step with
        | record here | dropSender here | dropReceiver here =>
            rw [here] at passing
            cases passing

/-- Once the close frame was written and nothing was accepted after it, nothing
is left to send. -/
theorem quiet_of_closeWritten (accounted : Accounted s) (once : s.Once)
    (held : s.tx.receiver.isSome) (written : s.closeWritten call = true)
    (last : closePayload call ∈ s.tx.sent → s.tx.sent.getLast? = some (closePayload call)) :
    s.tx.queue = [] ∧ ∀ payload site, s.pc ≠ .sending payload site := by
  -- the payloads written, the one being written, and those queued
  have sent : s.tx.sent = (s.sinkOps.filterMap SinkOp.passed).filterMap payload? ++
      ((s.pc.passing cfg).toList.filterMap payload? ++ s.tx.queue) := by
    rw [← s.tx.complete held, ← accounted.outgoing, Connection.passed, List.filterMap_append,
      List.append_assoc]
  have wrote : closePayload call ∈ (s.sinkOps.filterMap SinkOp.passed).filterMap payload? := by
    obtain ⟨op, member, wrote⟩ := List.any_eq_true.mp written
    rw [SinkOp.wroteCloseOf_iff.mp wrote] at member
    exact List.mem_filterMap.mpr ⟨_, List.mem_filterMap.mpr ⟨_, member, rfl⟩, rfl⟩
  have rest : (s.pc.passing cfg).toList.filterMap payload? ++ s.tx.queue = [] := by
    by_contra more
    have again : closePayload call ∈
        (s.pc.passing cfg).toList.filterMap payload? ++ s.tx.queue := by
      have final := last (sent ▸ List.mem_append_left _ wrote)
      rw [sent, List.getLast?_append_of_ne_nil _ more] at final
      exact List.mem_of_getLast? final
    have once := once
    rw [Once, Connection.accepted, sent, List.filterMap_append] at once
    have apart := (List.nodup_append.mp once).2.2
    exact apart call (List.mem_filterMap.mpr ⟨_, wrote, rfl⟩) call
      (List.mem_filterMap.mpr ⟨_, again, rfl⟩) rfl
  obtain ⟨idle, empty⟩ := List.append_eq_nil_iff.mp rest
  refine ⟨empty, ?_⟩
  intro payload site sending
  rw [sending] at idle
  cases idle

/-- A step of the task that leads to a write that is refused after a Close
frame: a keepalive, or the `Pong` for a `Ping` of the peer. -/
def writesAfterClose (s : Connection cfg E) (refuses : Message → Bool) (call : CallId) :
    LoopAction E → Bool
  | .arm (.incoming (some (.ok (.ping _)))) => s.closeWritten call
  | .arm .sleep =>
      s.closeWritten call && refuses (keepaliveMessage cfg.customKeepaliveMessage)
  | _ => false

/-- A step that leads to a refused write after the close frame dooms the task. -/
theorem LoopStep.dooms (step : s.LoopStep action t)
    (refused : ∀ message, message.refusable = true → refuses message = true)
    (writes : s.writesAfterClose refuses call action = true) : t.Doomed refuses := by
  unfold writesAfterClose at writes
  split at writes
  · have sent := sentClose_of_closeWritten (step.closeWritten writes)
    cases step with
    | ping => exact .inr ⟨sent, _, _, rfl, refused _ rfl⟩
    | skip _ skipped => rcases skipped with ⟨_, other⟩ | ⟨_, other⟩ <;> cases other
    | deliver _ data | refuse _ data | hold _ data => cases data
  · rw [Bool.and_eq_true] at writes
    have sent := sentClose_of_closeWritten (step.closeWritten writes.1)
    cases step with
    | sleep => exact .inr ⟨sent, _, _, rfl, writes.2⟩
  · cases writes

/-- Between the Close frame and the answer of the peer, a task that is not made
to write stays clear of every error. -/
theorem LoopStep.onCourse (step : s.LoopStep action t)
    (transport : s.transports refuses action = true) (written : s.closeWritten call = true)
    (quiet : s.pc.running = true → s.tx.queue = [] ∧ ∀ payload site, s.pc ≠ .sending payload site)
    (alive : s.pc.running = true → s.tx.senders ≠ ∅ ∧ s.rx.receiver.isSome = true)
    (free : ¬ s.Doomed refuses) (calm : s.writesAfterClose refuses call action = false) :
    ¬ t.Doomed refuses := by
  have running : ∀ {pc : LoopPc E}, s.pc = pc → pc.running = true → s.pc.running = true :=
    fun same running => same ▸ running
  cases step with
  | outgoing here received =>
      have empty := (quiet (running here rfl)).1
      rw [received.queue] at empty
      cases empty
  | sendersGone here _ gone => exact absurd gone (alive (running here rfl)).1
  | ping here =>
      change s.closeWritten call = false at calm
      rw [written] at calm
      cases calm
  | close | skip | deliver | hold | release => exact not_doomed rfl nofun
  | streamError | streamEnd => cases transport
  | refuse here _ gone | abandon here gone =>
      have held := (alive (running here rfl)).2
      rw [gone] at held
      cases held
  | sleep =>
      have kept : refuses (keepaliveMessage cfg.customKeepaliveMessage) = false := by
        simpa [writesAfterClose, written] using calm
      rintro (⟨_, _, leaving⟩ | ⟨_, _, _, passing, refused⟩)
      · cases leaving
      · obtain ⟨_, rfl⟩ := Prod.mk.inj (Option.some.inj passing)
        rw [kept] at refused
        cases refused
  | sentUnconfirmed here | sentConfirmed here | sentUnheard here =>
      exact absurd here ((quiet (running here rfl)).2 _ _)
  | @ponged result here | @keptAlive _ result here =>
      have sent := sentClose_of_closeWritten written
      cases result with
      | ok _ => exact not_doomed rfl nofun
      | error e =>
          -- the write was refused
          have passing := congrArg (LoopPc.passing cfg) here
          exact absurd (.inr ⟨sent, _, _, passing, (refused_of_error transport passing).2⟩) free
  | @sinkClosed result here =>
      cases result with
      | ok _ => exact not_doomed rfl nofun
      | error e =>
          simp [transports, here, LoopPc.passing] at transport
          cases transport
  | record here | dropSender here | dropReceiver here =>
      refine not_doomed rfl ?_
      intro cause stage leaving
      obtain ⟨rfl, _⟩ := LoopPc.leaving.inj leaving
      exact free (.inl ⟨cause, _, here⟩)

/-- The close frame is written by the send of the payload of the call; the task
stays clear of every error when the call is still there. -/
theorem LoopStep.writesClose (step : s.LoopStep action t) (before : s.closeWritten call = false)
    (written : t.closeWritten call = true) :
    ∃ result site, action = .sink result ∧ s.pc = .sending (closePayload call) site ∧
      ((s.oneshots call).receiverDropped = false → ¬ t.Doomed refuses) := by
  have added : ∀ op, t.sinkOps = s.sinkOps ++ [op] →
      op = .send (.outgoing (some call)) closeMessage (.ok ()) := by
    intro op after
    rw [Connection.closeWritten, after, List.any_append, List.any_cons, List.any_nil,
      Bool.or_false, Bool.or_eq_true] at written
    rcases written with old | new
    · rw [Connection.closeWritten, old] at before
      cases before
    · exact SinkOp.wroteCloseOf_iff.mp new
  cases step with
  | @sentUnconfirmed payload site result here unconfirmed => cases added _ rfl
  | @sentConfirmed payload site other result here confirmed =>
      obtain ⟨message, responseTx⟩ := payload
      cases added _ rfl
      obtain rfl : responseTx = some call := confirmed
      exact ⟨_, site, rfl, here, fun _ => not_doomed rfl nofun⟩
  | @sentUnheard payload site other result here confirmed cancelled =>
      obtain ⟨message, responseTx⟩ := payload
      cases added _ rfl
      obtain rfl : responseTx = some call := confirmed
      refine ⟨_, site, rfl, here, fun listening => ?_⟩
      rw [cancelled] at listening
      cases listening
  | ponged | sinkClosed | keptAlive => cases added _ rfl
  | outgoing | sendersGone | ping | close | skip | streamError | streamEnd | deliver | refuse | hold
  | release | abandon | sleep | record | dropSender | dropReceiver =>
      change s.closeWritten call = true at written
      rw [before] at written
      cases written

/-- Only the task's own steps decide whether it is doomed. -/
theorem SameLedger.doomed (same : SameLedger s t) : t.Doomed refuses ↔ s.Doomed refuses := by
  rw [Doomed, sentClose, same.pc, same.sinkOps]
  rfl

end Connection

namespace System

open Connection

variable {s t : System cfg E} {refuses : Message → Bool} {call : CallId}

/-- Whether a step completes the write of the close frame of a call that was
cancelled. -/
def abandonsClose (s : System cfg E) (call : CallId) : LoopAction E → Bool
  | .sink _ =>
      match s.conn.pc with
      | .sending payload _ =>
          decide (payload = closePayload call) && (s.calls call).any Call.isCancelled
      | _ => false
  | .arm _ | .finish => false

/-- Whether a step keeps the close from ending gracefully. -/
def disturbsClose (s : System cfg E) (refuses : Message → Bool) (call : CallId) : Action E → Bool
  | .loop move => s.conn.writesAfterClose refuses call move || s.abandonsClose call move
  | _ => false

/-- Whether the network answers a step as it does when it does not fail. -/
def transports (s : System cfg E) (refuses : Message → Bool) : Action E → Bool
  | .loop move => s.conn.transports refuses move
  | _ => true

/-- Nothing was accepted after the close frame of the call, and the handles are
alive while the loop runs. -/
def KeepsClose (s : System cfg E) (call : CallId) : Prop :=
  (closePayload call ∈ s.conn.tx.sent → s.conn.tx.sent.getLast? = some (closePayload call)) ∧
    (s.conn.pc.running = true → s.conn.tx.senders ≠ ∅ ∧ s.conn.rx.receiver.isSome = true)

instance (s : System cfg E) (call : CallId) : Decidable (s.KeepsClose call) :=
  inferInstanceAs (Decidable (_ ∧ _))

/-- A run in which a call closes the connection: its close frame is written,
nothing is accepted after it, the handles stay alive and the network does not
fail. -/
structure ClosesIn (refuses : Message → Bool) (call : CallId)
    (trace : List (System cfg E × Action E)) (final : System cfg E) : Prop where
  written : final.conn.closeWritten call = true
  keeps : ∀ s, Machine.Visited trace final s → s.KeepsClose call
  transport : ∀ s action, (s, action) ∈ trace → s.transports refuses action = true

/-- A run closes the connection if each of its entries keeps to the conditions. -/
theorem ClosesIn.of_entries {trace : List (System cfg E × Action E)} {final : System cfg E}
    (written : final.conn.closeWritten call = true) (ends : final.KeepsClose call)
    (kept : ∀ entry ∈ trace, entry.1.KeepsClose call ∧ entry.1.transports refuses entry.2 = true) :
    ClosesIn refuses call trace final where
  written := written
  keeps s seen := by
    rcases seen with rfl | ⟨action, member⟩
    · exact ends
    · exact (kept _ member).1
  transport _ _ member := (kept _ member).2

/-- Once the close frame was written, no error is in sight. -/
def OnCourse (s : System cfg E) (refuses : Message → Bool) (call : CallId) : Prop :=
  s.conn.closeWritten call = true → ¬ s.conn.Doomed refuses

/-- No step of the system saves a task that is doomed. -/
theorem doomed_step (doomed : s.conn.Doomed refuses) {action : Action E}
    (step : s.step action = some t)
    (transport : s.transports refuses action = true) : t.conn.Doomed refuses := by
  rcases step_ledger step with ⟨move, rfl, moved⟩ | same
  · exact doomed.loopStep moved transport
  · exact same.doomed.mpr doomed

/-- A disturbing step leads to an error. -/
theorem doomed_of_disturbsClose (reached : (system cfg E).Reachable s) {action : Action E}
    (step : s.step action = some t)
    (refused : ∀ message, message.refusable = true → refuses message = true)
    (disturbs : s.disturbsClose refuses call action = true) : t.conn.Doomed refuses := by
  unfold disturbsClose at disturbs
  split at disturbs
  · rename_i move
    obtain ⟨conn, moved, rfl⟩ := Option.map_eq_some_iff.mp step
    have rule := loopStep_rule moved
    rcases (Bool.or_eq_true ..).mp disturbs with writes | abandons
    · exact rule.dooms refused writes
    · unfold abandonsClose at abandons
      split at abandons
      · split at abandons
        · rename_i payload site sending
          obtain ⟨same, cancelled⟩ := (Bool.and_eq_true ..).mp abandons
          obtain rfl := of_decide_eq_true same
          have hungUp := (hungUp_iff reached call).mpr cancelled
          exact .inl ⟨_, _, rule.unheard sending rfl hungUp⟩
        · cases abandons
      · cases abandons
      · cases abandons
  · cases disturbs

/-- A step that does not disturb the close keeps it on course. -/
theorem OnCourse.step (course : s.OnCourse refuses call) (reached : (system cfg E).Reachable s)
    {action : Action E} (step : s.step action = some t)
    (keeps : s.KeepsClose call) (transport : s.transports refuses action = true)
    (calm : s.disturbsClose refuses call action = false) : t.OnCourse refuses call := by
  intro written
  rcases step_ledger step with ⟨move, rfl, moved⟩ | same
  · obtain ⟨silent, kept⟩ := (Bool.or_eq_false_iff ..).mp calm
    by_cases before : s.conn.closeWritten call = true
    · refine moved.onCourse transport before ?_ keeps.2 (course before) silent
      intro running
      have held : s.conn.tx.receiver.isSome = true := by
        rw [(ends reached).receiver, LoopPc.holdsReceiver_of_holdsSender
          (LoopPc.holdsSender_of_running running)]
        rfl
      exact quiet_of_closeWritten (accounted reached) (requests reached).once held before keeps.1
    · obtain ⟨result, site, rfl, sending, clear⟩ :=
        moved.writesClose (Bool.eq_false_of_not_eq_true before) written
      apply clear
      -- the call is still there
      by_contra hungUp
      have cancelled := (hungUp_iff reached call).mp (Bool.eq_true_of_not_eq_false hungUp)
      simp [abandonsClose, sending, cancelled] at kept
  · rw [same.doomed]
    exact course (by rwa [closeWritten, same.sinkOps] at written)

/-- A run in which a call closes the connection and the loop ends: it ends in
`Closed` with an empty slot if and only if no step of the run disturbs the close.
Such a step completes the write of the close frame when the call was cancelled
or, once the frame was written, takes a `Ping` or a keepalive tick. -/
theorem closes_gracefully_iff {final : System cfg E} {trace : List (System cfg E × Action E)}
    (run : (system cfg E).Run (.create cfg E) trace final)
    (refused : ∀ message, message.refusable = true → refuses message = true)
    (closes : ClosesIn refuses call trace final) (ended : final.conn.pc.running = false) :
    ((∃ stage, final.conn.pc = .leaving .closed stage) ∧ final.conn.terminalError = none) ↔
      ∀ s action, (s, action) ∈ trace → s.disturbsClose refuses call action = false := by
  constructor
  · rintro ⟨⟨stage, closed⟩, _⟩ s action member
    by_contra disturbs
    obtain ⟨front, back, target, parts, before, step, after⟩ := run.split member
    have error : target.conn.Doomed refuses :=
      doomed_of_disturbsClose ⟨front, before⟩ step refused (Bool.eq_true_of_not_eq_false disturbs)
    have later : ∀ s action, (s, action) ∈ back → (s, action) ∈ trace := by
      intro s action inside
      rw [parts]
      exact List.mem_append_right _ (List.mem_cons_of_mem _ inside)
    have doomed : final.conn.Doomed refuses := after.invariant_of later error
      fun s action t doomed member step =>
        doomed_step doomed step (closes.transport s action member)
    rcases doomed with ⟨cause, stage, leaving⟩ | ⟨_, origin, message, passing, _⟩
    · rw [closed] at leaving
      cases leaving
    · rw [closed] at passing
      cases passing
  · intro calm
    have start : (create cfg E).OnCourse refuses call := by
      intro written
      cases written
    have course : final.OnCourse refuses call := by
      apply run.invariant_of fun _ _ member => member
      · exact start
      intro s action t course member step
      have seen : Machine.Visited trace final s := .inr ⟨action, member⟩
      exact course.step (run.reachable seen) step (closes.keeps s seen)
        (closes.transport s action member) (calm s action member)
    have free := course closes.written
    have reached : (system cfg E).Reachable final := ⟨trace, run⟩
    cases pc : final.conn.pc with
    | select _ | sending _ _ | ponging | closing | keepalive _ =>
        rw [pc] at ended
        cases ended
    | leaving state stage =>
        cases state with
        | running => exact absurd pc (leavesStopped reached stage)
        | error cause => exact absurd (.inl ⟨cause, stage, pc⟩) free
        | closed =>
            have empty := (slot reached).of_cause_none (by rw [pc]; cases stage <;> rfl)
            exact ⟨⟨stage, rfl⟩, empty.1⟩

/-- The close frame is written, and a keepalive tick fires before the answer of
the peer. -/
def tickBeforeReply : List (Action Unit) :=
  [.start 0 .closeConnection, .advance 0, .loop (.arm .outgoing), .loop (.sink (.ok ())),
    .advance 0, .loop (.arm .sleep), .loop (.sink (.error ())), .loop .finish]

/-- A keepalive between our Close and the peer's ends the loop with an error. -/
theorem close_ends_in_error :
    let trace := (system .timed Unit).steps (.create .timed Unit) tickBeforeReply
    let final := (system .timed Unit).follow (.create .timed Unit) tickBeforeReply
    (system .timed Unit).Run (.create .timed Unit) trace final ∧
      ClosesIn (fun _ => true) 0 trace final ∧
      final.conn.pc = .leaving (.error (.websocketError ())) .droppingSender ∧
      final.conn.terminalError = some (.websocketError ()) := by
  intro trace final
  have kept : ∀ entry ∈ trace, entry.1.KeepsClose 0 ∧
      entry.1.transports (fun _ => true) entry.2 = true := by decide
  exact ⟨(system .timed Unit).run_steps _ tickBeforeReply,
    .of_entries (by decide) (by decide) kept, by decide, by decide⟩

/-- A keepalive tick fires before the close frame is written, and data and a
`Pong` arrive before the Close of the peer. -/
def tickBeforeClose : List (Action Unit) :=
  [.loop (.arm .sleep), .loop (.sink (.ok ())), .start 0 .closeConnection, .advance 0,
    .loop (.arm .outgoing), .loop (.sink (.ok ())), .advance 0,
    .loop (.arm (.incoming (some (.ok (.binary [1]))))),
    .loop (.arm (.incoming (some (.ok (.pong []))))),
    .loop (.arm (.incoming (some (.ok (.close none))))), .loop (.sink (.ok ()))]

theorem closes_gracefully_iff_tickBeforeClose :
    let final := (system .timed Unit).follow (.create .timed Unit) tickBeforeClose
    (∃ stage, final.conn.pc = .leaving .closed stage) ∧ final.conn.terminalError = none := by
  intro final
  let trace := (system .timed Unit).steps (.create .timed Unit) tickBeforeClose
  have kept : ∀ entry ∈ trace, entry.1.KeepsClose 0 ∧
      entry.1.transports (fun _ => true) entry.2 = true := by decide
  have calm : ∀ entry ∈ trace, entry.1.disturbsClose (fun _ => true) 0 entry.2 = false := by decide
  have closes : ClosesIn (fun _ => true) 0 trace final := .of_entries (by decide) (by decide) kept
  have run := (system .timed Unit).run_steps (.create .timed Unit) tickBeforeClose
  exact (closes_gracefully_iff run (fun _ _ => rfl) closes (by decide)).mpr
    fun s action member => calm _ member

end System

end Socketeer
