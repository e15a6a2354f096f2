import Mathlib.Data.List.Perm.Subperm
import Socketeer.Handles.Graceful

/-! # What becomes of a fire-and-forget send

The messages of the calls that returned once they had enqueued theirs are, up to
order, those of the unconfirmed payloads the tx channel accepted
(`System.enqueues`). A loop that ends with a graceful close has written
those it took; those it did not take are dropped with the tx receiver, and
nobody learns of it.
-/

namespace Socketeer

open Foundation

variable {cfg : LoopConfig} {E : Type}

/-- The message of a payload whose sender does not wait. -/
def TxChannelPayload.unconfirmed? (payload : TxChannelPayload) : Option Message :=
  if payload.responseTx = none then some payload.message else none

/-- The message of a fire-and-forget send that was written. -/
def SinkOp.writtenUnconfirmed : SinkOp E → Option Message
  | .send (.outgoing none) message (.ok ()) => some message
  | _ => none

/-- The message a fire-and-forget send was asked to send. -/
def Op.unconfirmed? : Op → Option Message
  | .sendRawUnconfirmed message => some message
  | _ => none

/-- The message of a call that returned once it had enqueued it. -/
def Call.enqueued? (record : Call E) : Option Message :=
  match record.pc with
  | .returned .enqueued => record.op.unconfirmed?
  | _ => none

/-- Changing a function at one member of a list without repetitions, from no
value to one, adds that value to those it has on the list. -/
theorem perm_filterMap_of_new {α β : Type*} {list : List α} (distinct : list.Nodup) {a : α}
    (member : a ∈ list) {before after : α → Option β} {b : β} (was : before a = none)
    (now : after a = some b) (others : ∀ other ≠ a, after other = before other) :
    List.Perm (list.filterMap after) (b :: list.filterMap before) := by
  obtain ⟨front, back, rfl⟩ := List.append_of_mem member
  have apart := List.nodup_append.mp distinct
  have early : front.filterMap after = front.filterMap before := by
    refine List.filterMap_congr fun other inside => others other ?_
    rintro rfl
    exact apart.2.2 _ inside _ List.mem_cons_self rfl
  have late : back.filterMap after = back.filterMap before := by
    refine List.filterMap_congr fun other inside => others other ?_
    rintro rfl
    exact (List.nodup_cons.mp apart.2.1).1 inside
  rw [List.filterMap_append, List.filterMap_append, List.filterMap_cons_some now,
    List.filterMap_cons_none was, early, late]
  exact List.perm_middle

/-- A payload is unconfirmed exactly if its operation is. -/
theorem Op.unconfirmed?_of_payload {op : Op} {call : CallId} {payload : TxChannelPayload}
    (enqueues : op.payload call = some payload) : payload.unconfirmed? = op.unconfirmed? := by
  cases op with
  | sendRaw _ | sendRawUnconfirmed _ | close | closeConnection | reconnect =>
      obtain rfl := Option.some.inj enqueues
      rfl
  | nextRawMessage | pollNext => cases enqueues

/-- A call whose payload is accepted has enqueued its message if nobody waits for
the result. -/
theorem Call.enqueued?_of_accepted {op : Op} {call : CallId} {payload : TxChannelPayload}
    (enqueues : op.payload call = some payload) (handle : HandleId) :
    Call.enqueued? { op := op, handle := handle, pc := (op.accepted : CallPc E) } =
      payload.unconfirmed? := by
  cases op with
  | sendRaw _ | sendRawUnconfirmed _ | close | closeConnection | reconnect =>
      obtain rfl := Option.some.inj enqueues
      rfl
  | nextRawMessage | pollNext => cases enqueues

/-- Whether the call is about to enqueue a message for which nobody waits. -/
def Call.sendsUnconfirmed (record : Call E) : Bool :=
  match record.pc with
  | .sending => record.op.unconfirmed?.isSome
  | _ => false

/-- A call in flight has not reported that its payload is queued. -/
theorem Call.enqueued?_of_inFlight {record : Call E} (inFlight : record.pc.inFlight = true) :
    record.enqueued? = none := by
  unfold Call.enqueued?
  split
  · rename_i returned
    rw [returned] at inFlight
    cases inFlight
  · rfl

namespace Connection

/-- The messages of the accepted payloads whose senders do not wait. -/
def acceptedUnconfirmed (s : Connection cfg E) : List Message :=
  s.tx.sent.filterMap TxChannelPayload.unconfirmed?

/-- Those of the payloads among them that the loop has taken. -/
def takenUnconfirmed (s : Connection cfg E) : List Message :=
  s.tx.taken.filterMap TxChannelPayload.unconfirmed?

/-- The fire-and-forget messages that were written, in order. -/
def writtenUnconfirmed (s : Connection cfg E) : List Message :=
  s.sinkOps.filterMap SinkOp.writtenUnconfirmed

/-- A loop that ended with a graceful close has failed in nothing. -/
def ClosedCleanly (s : Connection cfg E) : Prop :=
  ∀ stage, s.pc = .leaving .closed stage →
    ∀ op ∈ s.sinkOps, op.sent = true ∨ op = .close (.ok ())

variable {s t : Connection cfg E} {action : LoopAction E}

/-- The only way to a graceful end. -/
theorem LoopStep.closes (step : s.LoopStep action t) {stage : Stage}
    (closed : t.pc = .leaving .closed stage) :
    (∃ before, s.pc = .leaving .closed before) ∨
      (s.pc = .closing ∧ action = .sink (.ok ()) ∧ t.sinkOps = s.sinkOps ++ [.close (.ok ())] ∧
        t.tx = s.tx) := by
  cases step with
  | @sinkClosed result here =>
      cases result with
      | ok _ => exact .inr ⟨here, rfl, rfl, rfl⟩
      | error _ => cases closed
  | @sentUnconfirmed _ _ result | @sentConfirmed _ _ _ result | @ponged result
  | @keptAlive _ result =>
      cases result with
      | ok _ | error _ => cases closed
  | record here | dropSender here | dropReceiver here =>
      obtain ⟨rfl, _⟩ := LoopPc.leaving.inj closed
      exact .inl ⟨_, here⟩
  | outgoing | sendersGone | ping | close | skip | streamError | streamEnd | deliver | refuse | hold
  | release | abandon | sleep | sentUnheard => cases closed

/-- Closing the sink without an error ends the loop gracefully. -/
theorem LoopStep.closed (step : s.LoopStep (.sink (.ok ())) t) (closing : s.pc = .closing) :
    t.pc = .leaving .closed .recording ∧ t.tx = s.tx := by
  cases step with
  | sinkClosed => exact ⟨rfl, rfl⟩
  | sentUnconfirmed here | sentConfirmed here | sentUnheard here | ponged here | keptAlive here =>
      rw [closing] at here
      cases here

/-- A step of the task into a graceful close follows no failure. -/
theorem ClosedCleanly.loopStep (cleanly : s.ClosedCleanly) (orderly : s.Orderly)
    (step : s.LoopStep action t) : t.ClosedCleanly := by
  intro stage closed op member
  rcases step.closes closed with ⟨before, leaving⟩ | ⟨closing, _, sinkOps, _⟩
  · rw [(step.exited leaving).2.sinkOps] at member
    exact cleanly before leaving op member
  · rw [sinkOps] at member
    rcases List.mem_append.mp member with earlier | last
    · exact .inl (orderly.running (by rw [closing]; rfl) op earlier)
    · exact .inr (List.mem_singleton.mp last)

/-- A clean close is the task's alone. -/
theorem ClosedCleanly.frame (cleanly : s.ClosedCleanly) (same : SameLedger s t) :
    t.ClosedCleanly := by
  intro stage
  rw [same.pc, same.sinkOps]
  exact cleanly stage

/-- When nothing has failed, what was written is what was passed on. -/
private theorem writtenUnconfirmed_of_clean {ops : List (SinkOp E)}
    (clean : ∀ op ∈ ops, op.sent = true ∨ op = .close (.ok ())) :
    ops.filterMap SinkOp.writtenUnconfirmed =
      ((ops.filterMap SinkOp.passed).filterMap payload?).filterMap
        TxChannelPayload.unconfirmed? := by
  induction ops with
  | nil => rfl
  | cons op rest ih =>
      have later := ih fun op member => clean op (List.mem_cons_of_mem _ member)
      rcases clean op List.mem_cons_self with sent | rfl
      · match op, sent with
        | .send (.outgoing none) message (.ok ()), _ =>
            simp [SinkOp.writtenUnconfirmed, TxChannelPayload.unconfirmed?, later]
        | .send (.outgoing (some call)) message (.ok ()), _ =>
            simp [List.filterMap_cons, SinkOp.writtenUnconfirmed, TxChannelPayload.unconfirmed?,
              later]
        | .send .pong message (.ok ()), _ | .send .keepalive message (.ok ()), _ =>
            simp [List.filterMap_cons, SinkOp.writtenUnconfirmed, later]
      · simp [List.filterMap_cons, SinkOp.writtenUnconfirmed, later]

/-- A loop that ended with a graceful close has written what it took. -/
theorem ClosedCleanly.written (cleanly : s.ClosedCleanly) (accounted : s.Accounted)
    {stage : Stage} (closed : s.pc = .leaving .closed stage) :
    s.writtenUnconfirmed = s.takenUnconfirmed := by
  have passed : s.passed = s.sinkOps.filterMap SinkOp.passed := by
    rw [Connection.passed, closed]
    exact List.append_nil _
  rw [takenUnconfirmed, ← accounted.outgoing, passed]
  exact writtenUnconfirmed_of_clean (cleanly stage closed)

/-- The loop takes from the front, so it has taken all if it took as many. -/
theorem takenUnconfirmed_prefix (s : Connection cfg E) :
    s.takenUnconfirmed <+: s.acceptedUnconfirmed :=
  ((List.prefix_append _ _).trans s.tx.ordered).filterMap _

end Connection

namespace System

open Connection

variable {s t : System cfg E}

/-- The messages of the calls that returned once they had enqueued theirs, in
the order in which these calls were started. -/
def enqueued (s : System cfg E) : List Message :=
  (List.range s.started).filterMap fun call => (s.calls call).bind Call.enqueued?

/-- The enqueued messages are those of the accepted payloads whose senders do
not wait. -/
def Enqueues (s : System cfg E) : Prop :=
  s.enqueued.Perm s.conn.acceptedUnconfirmed

/-- A new call that has not enqueued anything. -/
private theorem Enqueues.begin (enqueues : s.Enqueues) {u : System cfg E} {handle : HandleId}
    {op : Op} {pc : CallPc E} (calls : u.calls = s.calls) (started : u.started = s.started)
    (sent : u.conn.tx.sent = s.conn.tx.sent)
    (silent : Call.enqueued? { op := op, handle := handle, pc := pc } = none) :
    (u.begin handle op pc).Enqueues := by
  have old : ∀ call ∈ List.range s.started,
      ((u.begin handle op pc).calls call).bind Call.enqueued? =
        (s.calls call).bind Call.enqueued? := by
    intro call before
    have different : call ≠ u.started := by
      rw [started]
      exact Nat.ne_of_lt (List.mem_range.mp before)
    rw [begin_calls_of_ne u different, calls]
  have here : ((u.begin handle op pc).calls s.started).bind Call.enqueued? = none := by
    rw [← started, begin_calls_self]
    exact silent
  change List.Perm ((List.range (u.started + 1)).filterMap _) (List.filterMap _ u.conn.tx.sent)
  rw [started, sent, List.range_succ, List.filterMap_append, List.filterMap_congr old]
  simp only [List.filterMap_cons, here, List.filterMap_nil, List.append_nil]
  exact enqueues

/-- A call that moves on without having enqueued a message. -/
private theorem Enqueues.moveTo (enqueues : s.Enqueues) {u : System cfg E} {call : CallId}
    {record : Call E} {pc : CallPc E} (found : s.calls call = some record)
    (inFlight : record.pc.inFlight = true) (calls : u.calls = s.calls)
    (started : u.started = s.started)
    (sent : u.conn.acceptedUnconfirmed = s.conn.acceptedUnconfirmed)
    (silent : Call.enqueued? { record with pc := pc } = none) :
    (u.moveTo call record pc).Enqueues := by
  have same : ∀ other ∈ List.range s.started,
      ((u.moveTo call record pc).calls other).bind Call.enqueued? =
        (s.calls other).bind Call.enqueued? := by
    intro other _
    by_cases here : other = call
    · rw [here, moveTo_calls_self, found]
      exact silent.trans (Call.enqueued?_of_inFlight inFlight).symm
    · rw [moveTo_calls_of_ne u here, calls]
  change List.Perm ((List.range u.started).filterMap _)
    (List.filterMap _ (u.conn.settle record pc).tx.sent)
  rw [started, settle_tx_sent, List.filterMap_congr same]
  exact enqueues.trans (.of_eq sent.symm)

/-- The messages enqueued are the accepted ones that nobody waits for, in every
reachable state. -/
theorem enqueues (reached : (system cfg E).Reachable s) : s.Enqueues := by
  refine reached.invariant Enqueues .nil ?_
  intro s action t reached enqueues step
  have owned := ownership reached
  cases step_rule step with
  | loop moved =>
      change s.enqueued.Perm (List.filterMap _ _)
      rw [moved.sent]
      exact enqueues
  | startReceive | startSend | pollFrame | pollEnd => exact enqueues.begin rfl rfl rfl rfl
  | pollPending | clone | split | reunite | drop => exact enqueues
  | @accept call record payload tx found atSend enqueued accepted =>
      have inFlight : record.pc.inFlight = true := by
        rw [atSend]
        rfl
      have now := Call.enqueued?_of_accepted (E := E) enqueued record.handle
      cases unconfirmed : payload.unconfirmed? with
      | none =>
          refine enqueues.moveTo found inFlight rfl rfl ?_ (now.trans unconfirmed)
          change List.filterMap _ tx.sent = List.filterMap _ s.conn.tx.sent
          rw [accepted.sent, List.filterMap_append]
          simp [unconfirmed]
      | some message =>
          have bound : call < s.started := by
            by_contra later
            rw [owned.unborn call (Nat.not_lt.mp later)] at found
            cases found
          have added : List.Perm ((List.range s.started).filterMap fun other =>
              (Function.update s.calls call (some { record with pc := record.op.accepted })
                other).bind Call.enqueued?) (message :: s.enqueued) := by
            refine perm_filterMap_of_new List.nodup_range (List.mem_range.mpr bound) ?_ ?_ ?_
            · rw [found]
              exact Call.enqueued?_of_inFlight inFlight
            · rw [Function.update_self]
              exact now.trans unconfirmed
            · intro other different
              rw [Function.update_of_ne different]
          change List.Perm _ (List.filterMap _ (Connection.settle _ record _).tx.sent)
          rw [settle_tx_sent, accepted.sent, List.filterMap_append]
          simp only [List.filterMap_cons, unconfirmed, List.filterMap_nil]
          refine added.trans ((List.Perm.cons message enqueues).trans ?_)
          exact (List.perm_append_singleton message _).symm
  | refuseSend found atPoint | join found atPoint | connect found atPoint
  | recvEnd found atPoint | recvFrame found atPoint | panic found atPoint =>
      exact enqueues.moveTo found (by rw [atPoint]; rfl) rfl rfl rfl rfl
  | @refuseClose call record found atPoint =>
      refine enqueues.moveTo found (by rw [atPoint]; rfl) rfl rfl rfl ?_
      cases record.op <;> rfl
  | @reply call record result found atPoint =>
      refine enqueues.moveTo found (by rw [atPoint]; rfl) rfl rfl rfl ?_
      cases record.op <;> rfl
  | cancel found inFlight => exact enqueues.moveTo found inFlight rfl rfl rfl rfl

/-- A graceful close follows no failure, in every reachable state. -/
theorem closedCleanly (reached : (system cfg E).Reachable s) : s.conn.ClosedCleanly := by
  have both : s.conn.Orderly ∧ s.conn.ClosedCleanly :=
    @ledger_invariant cfg E s (fun conn => conn.Orderly ∧ conn.ClosedCleanly) reached
      ⟨.create cfg E 0, nofun⟩
      (fun holds step => ⟨holds.1.loopStep step, holds.2.loopStep holds.1 step⟩)
      fun holds same => ⟨holds.1.frame same, holds.2.frame same⟩
  exact both.2

/-- Whether a step closes the connection gracefully with a fire-and-forget
message queued, or accepts one after that. -/
def losesUnconfirmed (s : System cfg E) (action : Action E) : Bool :=
  match s.conn.pc, action with
  | .closing, .loop (.sink (.ok ())) =>
      s.conn.tx.queue.any fun payload => payload.unconfirmed?.isSome
  | .leaving .closed _, .advance call =>
      s.conn.tx.receiver.isSome && (s.calls call).any Call.sendsUnconfirmed
  | _, _ => false

/-- The loop has taken every fire-and-forget message that was accepted. -/
def TookAll (s : System cfg E) : Prop :=
  s.conn.acceptedUnconfirmed = s.conn.takenUnconfirmed

/-- The tx channel accepts nothing, or the payload of a call that was about to
send it. -/
theorem sent_cases {action : Action E} (step : s.Step action t) :
    t.conn.tx.sent = s.conn.tx.sent ∨
      ∃ call record payload, action = .advance call ∧ s.calls call = some record ∧
        record.pc = .sending ∧ record.op.payload call = some payload ∧
        s.conn.tx.receiver.isSome ∧ t.conn.tx.sent = s.conn.tx.sent ++ [payload] := by
  cases step with
  | loop moved => exact .inl moved.sent
  | @accept call record payload tx found atSend enqueues accepted =>
      refine .inr ⟨call, record, payload, rfl, found, atSend, enqueues, accepted.held, ?_⟩
      exact (settle_tx_sent ..).trans accepted.sent
  | startReceive | startSend | pollFrame | pollEnd | pollPending | clone | split | reunite | drop =>
      exact .inl rfl
  | refuseSend | refuseClose | reply | panic | join | connect | recvFrame | recvEnd | cancel =>
      exact .inl (settle_tx_sent ..)

/-- What was accepted stays accepted. -/
theorem sent_first {action : Action E} (step : s.step action = some t) :
    s.conn.tx.sent <+: t.conn.tx.sent := by
  rcases sent_cases (step_rule step) with same | ⟨_, _, _, _, _, _, _, _, more⟩
  · rw [same]
  · rw [more]
    exact List.prefix_append _ _

/-- What was accepted stays accepted over a run. -/
theorem run_sent_first {trace : List (System cfg E × Action E)}
    (run : (system cfg E).Run s trace t) : s.conn.tx.sent <+: t.conn.tx.sent := by
  have keeps : ∀ u action v, s.conn.tx.sent <+: u.conn.tx.sent →
      (system cfg E).step u action = some v → s.conn.tx.sent <+: v.conn.tx.sent := by
    intro u action v grown step
    have step : u.step action = some v := step
    exact grown.trans (sent_first step)
  exact run.invariant (List.prefix_refl _) keeps

/-- A call that is about to send is at the tx channel. -/
private theorem pc_of_sends {record : Call E} (sends : record.sendsUnconfirmed = true) :
    record.pc = .sending := by
  unfold Call.sendsUnconfirmed at sends
  split at sends
  · assumption
  · cases sends

/-- A call that is about to send moves on, while the tx receiver is held, only
by having its payload accepted. -/
private theorem sent_of_sending {call : CallId} (step : s.Step (.advance call) t)
    {record : Call E} (found : s.calls call = some record) (atSend : record.pc = .sending)
    (held : s.conn.tx.receiver.isSome) :
    ∃ payload, t.conn.tx.sent = s.conn.tx.sent ++ [payload] := by
  have elsewhere : ∀ {other : Call E} {pc : CallPc E}, s.calls call = some other →
      other.pc = pc → pc ≠ .sending → False := by
    intro other pc found' atPoint different
    obtain rfl := Option.some.inj (found.symm.trans found')
    exact different (atPoint.symm.trans atSend)
  cases step with
  | accept _ _ _ accepted => exact ⟨_, (settle_tx_sent ..).trans accepted.sent⟩
  | refuseSend _ _ _ closed | refuseClose _ _ _ _ closed =>
      rw [closed] at held
      cases held
  | reply other atPoint | panic other atPoint | join other atPoint | connect other atPoint
  | recvFrame other atPoint | recvEnd other atPoint => exact (elsewhere other atPoint nofun).elim

/-- After a graceful close the loop takes nothing more, and only a step that
loses a message adds to what was accepted. -/
private theorem accepted_of_closed {action : Action E}
    (step : s.step action = some t) {stage : Stage} (closed : s.conn.pc = .leaving .closed stage) :
    (∃ later, t.conn.pc = .leaving .closed later) ∧
      t.conn.takenUnconfirmed = s.conn.takenUnconfirmed ∧
      ((s.losesUnconfirmed action = false ∧
          t.conn.acceptedUnconfirmed = s.conn.acceptedUnconfirmed) ∨
        (s.losesUnconfirmed action = true ∧ ∃ message,
          t.conn.acceptedUnconfirmed = s.conn.acceptedUnconfirmed ++ [message])) := by
  obtain ⟨leaving, history⟩ := exited_step step closed
  refine ⟨leaving, ?_, ?_⟩
  · rw [takenUnconfirmed, history.popped, takenUnconfirmed]
  rcases sent_cases (step_rule step) with same | ⟨call, record, payload, rfl, found, atSend,
    enqueues, held, sent⟩
  · left
    refine ⟨?_, by rw [acceptedUnconfirmed, same, acceptedUnconfirmed]⟩
    by_contra loses
    have loses : s.losesUnconfirmed action = true := by simpa using loses
    -- then a payload was accepted after all
    unfold losesUnconfirmed at loses
    rw [closed] at loses
    cases action with
    | advance call =>
        simp only [Bool.and_eq_true, Option.any_eq_true] at loses
        obtain ⟨held, record, found, sends⟩ := loses
        obtain ⟨payload, sent⟩ := sent_of_sending (step_rule step) found (pc_of_sends sends) held
        rw [same] at sent
        simpa using congrArg List.length sent
    | loop | start | cancel | clone | split | reunite | drop => cases loses
  · have unconfirmed := Op.unconfirmed?_of_payload enqueues
    have loses : s.losesUnconfirmed (.advance call) = payload.unconfirmed?.isSome := by
      simp [losesUnconfirmed, closed, held, found, Call.sendsUnconfirmed, atSend, unconfirmed]
    rw [loses, acceptedUnconfirmed, sent, List.filterMap_append]
    cases message : payload.unconfirmed? with
    | none => exact .inl ⟨rfl, by simp [message, acceptedUnconfirmed]⟩
    | some text => exact .inr ⟨rfl, text, by simp [message, acceptedUnconfirmed]⟩

/-- While the loop is running, what it has not taken is queued. -/
private theorem queued_of_tookAll (reached : (system cfg E).Reachable s)
    (running : s.conn.pc.running = true) :
    s.TookAll ↔ ∀ payload ∈ s.conn.tx.queue, payload.unconfirmed? = none := by
  have held : s.conn.tx.receiver.isSome := by
    rw [(ends reached).receiver,
      LoopPc.holdsReceiver_of_holdsSender (LoopPc.holdsSender_of_running running)]
    rfl
  rw [TookAll, acceptedUnconfirmed, ← s.conn.tx.complete held, List.filterMap_append,
    takenUnconfirmed, List.append_right_eq_self, List.filterMap_eq_nil_iff]

/-- A step that loses a message leaves the loop closed with it not taken. -/
private theorem lost_of_loses (reached : (system cfg E).Reachable s) {action : Action E}
    (step : s.step action = some t) (loses : s.losesUnconfirmed action = true) :
    (∃ stage, t.conn.pc = .leaving .closed stage) ∧ ¬ t.TookAll := by
  have prefixed := s.conn.takenUnconfirmed_prefix
  cases pc : s.conn.pc with
  | closing =>
      unfold losesUnconfirmed at loses
      rw [pc] at loses
      split at loses
      · obtain ⟨conn, moved, rfl⟩ := Option.map_eq_some_iff.mp step
        obtain ⟨payload, queued, unconfirmed⟩ := List.any_eq_true.mp loses
        obtain ⟨next, tx⟩ := (loopStep_rule moved).closed pc
        refine ⟨⟨.recording, next⟩, fun all => ?_⟩
        have rest := queued_of_tookAll reached (by rw [pc]; rfl)
        change conn.acceptedUnconfirmed = conn.takenUnconfirmed at all
        rw [acceptedUnconfirmed, takenUnconfirmed, tx] at all
        have none := rest.mp all payload queued
        rw [none] at unconfirmed
        cases unconfirmed
      · contradiction
      · cases loses
  | leaving state stage =>
      cases state with
      | closed =>
          obtain ⟨leaving, taken, ⟨kept, _⟩ | ⟨_, message, accepted⟩⟩ :=
            accepted_of_closed step pc
          · rw [loses] at kept
            cases kept
          · refine ⟨leaving, fun all => ?_⟩
            have lengths := congrArg List.length all
            rw [accepted, taken, List.length_append, List.length_singleton] at lengths
            have short := prefixed.length_le
            omega
      | running | error _ => simp [losesUnconfirmed, pc] at loses
  | select _ | sending _ _ | ponging | keepalive _ => simp [losesUnconfirmed, pc] at loses

/-- What is not taken at a graceful close never will be. -/
private theorem run_lost {trace : List (System cfg E × Action E)}
    (run : (system cfg E).Run s trace t) {stage : Stage}
    (closed : s.conn.pc = .leaving .closed stage) (lost : ¬ s.TookAll) : ¬ t.TookAll := by
  have both : (∃ stage, t.conn.pc = .leaving .closed stage) ∧ ¬ t.TookAll := by
    apply run.invariant
    · exact ⟨⟨stage, closed⟩, lost⟩
    rintro middle action target ⟨⟨stage, closed⟩, lost⟩ step
    obtain ⟨leaving, taken, ⟨_, accepted⟩ | ⟨_, message, accepted⟩⟩ :=
      accepted_of_closed step closed
    · refine ⟨leaving, ?_⟩
      rwa [TookAll, accepted, taken]
    · refine ⟨leaving, fun all => ?_⟩
      have lengths := congrArg List.length all
      rw [accepted, taken, List.length_append, List.length_singleton] at lengths
      have short := middle.conn.takenUnconfirmed_prefix.length_le
      omega
  exact both.2

/-- The only way to a graceful end. -/
private theorem closed_before {action : Action E} (step : s.step action = some t) {stage : Stage}
    (closed : t.conn.pc = .leaving .closed stage) :
    (∃ before, s.conn.pc = .leaving .closed before) ∨
      (s.conn.pc = .closing ∧ action = .loop (.sink (.ok ())) ∧ t.conn.tx = s.conn.tx) := by
  rcases step_ledger step with ⟨move, rfl, moved⟩ | same
  · rcases moved.closes closed with before | ⟨closing, rfl, _, tx⟩
    · exact .inl before
    · exact .inr ⟨closing, rfl, tx⟩
  · exact .inl ⟨stage, same.pc.symm.trans closed⟩

/-- Without a step that loses a message, everything was taken before a graceful
close. -/
private theorem run_tookAll {trace : List (System cfg E × Action E)}
    (run : (system cfg E).Run (.create cfg E) trace t)
    (kept : ∀ s action, (s, action) ∈ trace → s.losesUnconfirmed action = false) {stage : Stage}
    (closed : t.conn.pc = .leaving .closed stage) : t.TookAll := by
  have both : (system cfg E).Reachable t ∧
      ∀ stage, t.conn.pc = .leaving .closed stage → t.TookAll := by
    apply run.invariant_of kept
    · exact ⟨.initial, nofun⟩
    rintro s action t ⟨reached, before⟩ keeps step
    refine ⟨reached.next step, fun stage after => ?_⟩
    rcases closed_before step after with ⟨before', closed⟩ | ⟨closing, rfl, tx⟩
    · obtain ⟨_, taken, ⟨_, accepted⟩ | ⟨loses, _⟩⟩ := accepted_of_closed step closed
      · rw [TookAll, accepted, taken]
        exact before before' closed
      · rw [keeps] at loses
        cases loses
    · have running : s.conn.pc.running = true := by
        rw [closing]
        rfl
      have all : s.TookAll := by
        rw [queued_of_tookAll reached running]
        intro payload queued
        simp only [losesUnconfirmed, closing, List.any_eq_false] at keeps
        simpa using keeps payload queued
      rw [TookAll, acceptedUnconfirmed, takenUnconfirmed, tx]
      exact all
  exact both.2 stage closed

/-- In a run whose loop has been left, the loop ended in an error, or every
fire-and-forget message whose send returned without an error was written, if
and only if no step of the run closes the connection gracefully with such a
message queued or accepts one after that. -/
theorem unconfirmed_written_iff {final : System cfg E} {trace : List (System cfg E × Action E)}
    (run : (system cfg E).Run (.create cfg E) trace final) {state : LoopState E} {stage : Stage}
    (ended : final.conn.pc = .leaving state stage) :
    ((∃ cause, state = .error cause) ∨
        final.enqueued.Subperm final.conn.writtenUnconfirmed) ↔
      ∀ s action, (s, action) ∈ trace → s.losesUnconfirmed action = false := by
  have reached : (system cfg E).Reachable final := ⟨trace, run⟩
  have enqueued := enqueues reached
  have written : ∀ {stage}, final.conn.pc = .leaving .closed stage →
      final.conn.writtenUnconfirmed = final.conn.takenUnconfirmed :=
    (closedCleanly reached).written (accounted reached)
  constructor
  · intro reported s action member
    by_contra loses
    have loses : s.losesUnconfirmed action = true := by simpa using loses
    obtain ⟨front, back, t, _, before, step, after⟩ := run.split member
    obtain ⟨⟨_, closed⟩, lost⟩ := lost_of_loses ⟨front, before⟩ step loses
    obtain ⟨_, leaving⟩ := run_exited after closed
    obtain ⟨rfl, _⟩ := LoopPc.leaving.inj (ended.symm.trans leaving)
    rcases reported with ⟨cause, failed⟩ | accounted
    · cases failed
    · refine run_lost after closed lost ?_
      rw [written leaving] at accounted
      have long := accounted.length_le
      rw [enqueued.length_eq] at long
      exact (final.conn.takenUnconfirmed_prefix.eq_of_length_le long).symm
  · intro kept
    cases state with
    | error cause => exact .inl ⟨cause, rfl⟩
    | running => exact absurd ended (leavesStopped reached stage)
    | closed =>
        right
        have all := run_tookAll run kept ended
        rw [written ended, ← all]
        exact enqueued.subperm

/-- A fire-and-forget message is queued while the loop answers the close of the
peer. -/
def unconfirmedAtClose : List (Action Unit) :=
  [.split 0 1, .start 0 (.sendRawUnconfirmed (.binary [1])),
    .loop (.arm (.incoming (some (.ok (.close none))))), .advance 0, .loop (.sink (.ok ())),
    .loop .finish, .loop .finish, .loop .finish]

/-- A message that was accepted is not written. -/
theorem unconfirmed_lost_at_close :
    let s := (system .single Unit).follow (.create .single Unit) unconfirmedAtClose
    (system .single Unit).Reachable s ∧ s.conn.pc = .leaving .closed .finished ∧
      s.conn.terminalError = none ∧ s.enqueued = [.binary [1]] ∧
      s.conn.writtenUnconfirmed = [] ∧ ¬ s.enqueued.Subperm s.conn.writtenUnconfirmed := by
  intro s
  have enqueued : s.enqueued = [.binary [1]] := by decide
  have written : s.conn.writtenUnconfirmed = [] := by decide
  refine ⟨(system .single Unit).follow_reachable unconfirmedAtClose, by decide, by decide,
    enqueued, written, ?_⟩
  rw [enqueued, written]
  intro accounted
  have long := accounted.length_le
  cases long

/-- A fire-and-forget message is written before the peer closes. -/
def unconfirmedBeforeClose : List (Action Unit) :=
  [.split 0 1, .start 0 (.sendRawUnconfirmed (.binary [1])), .advance 0, .loop (.arm .outgoing),
    .loop (.sink (.ok ())), .loop (.arm (.incoming (some (.ok (.close none))))),
    .loop (.sink (.ok ())), .loop .finish]

theorem unconfirmed_written_iff_unconfirmedBeforeClose :
    let final := (system .single Unit).follow (.create .single Unit) unconfirmedBeforeClose
    final.conn.pc = .leaving .closed .droppingSender ∧ final.enqueued = [.binary [1]] ∧
      ((∃ cause, LoopState.closed (E := Unit) = .error cause) ∨
        final.enqueued.Subperm final.conn.writtenUnconfirmed) := by
  intro final
  have ended : final.conn.pc = .leaving .closed .droppingSender := by decide
  have run := (system .single Unit).run_steps (.create .single Unit) unconfirmedBeforeClose
  have kept : ∀ entry ∈ (system .single Unit).steps (.create .single Unit) unconfirmedBeforeClose,
      entry.1.losesUnconfirmed entry.2 = false := by decide
  refine ⟨ended, by decide, (unconfirmed_written_iff run ended).mpr ?_⟩
  exact fun s action member => kept (s, action) member

end System

end Socketeer
