import Socketeer.Handles.Deserted
import Socketeer.Handles.Unanswered
import Socketeer.Handles.Unconfirmed
import Socketeer.Handles.WindDown

/-! # Outgoing messages in their turn

The payloads that were written are the first of those that the tx channel
accepted. So a call that learns of the write of its own payload learns that all
that was accepted before it was made has been written as well, fire-and-forget
messages included (`System.confirmed_flushes`). A `send` can be used to flush
them, and a `close_connection` that returns `Ok` has left none of them behind.
Nor is a payload passed over: while the loop runs, a caller waits for no more
turns than there were payloads on the channel (`System.served_in_turn`).
-/

namespace Socketeer

open Foundation

variable {cfg : LoopConfig} {E : Type}

/-- The payload that was written. -/
def SinkOp.written : SinkOp E → Option TxChannelPayload
  | .send (.outgoing responseTx) message (.ok ()) =>
      some { message := message, responseTx := responseTx }
  | _ => none

/-- Whether the call has learned that its payload was written. -/
def CallPc.confirmed : CallPc E → Bool
  | .returned (.replied (.ok ())) | .returned (.closed (.ok ())) | .joining (.ok ()) => true
  | _ => false

namespace Connection

variable {s t : Connection cfg E}

/-- The payloads that the task has written, in order. -/
def written (s : Connection cfg E) : List TxChannelPayload :=
  s.sinkOps.filterMap SinkOp.written

/-- Where every send succeeded, the payloads written are those passed. -/
private theorem written_of_sent {ops : List (SinkOp E)} (sent : ∀ op ∈ ops, op.sent = true) :
    ops.filterMap SinkOp.written = (ops.filterMap SinkOp.passed).filterMap payload? := by
  induction ops with
  | nil => rfl
  | cons op rest ih =>
      have later := ih fun op member => sent op (List.mem_cons_of_mem _ member)
      match op, sent op List.mem_cons_self with
      | .send (.outgoing _) message (.ok ()), _ | .send .pong message (.ok ()), _
      | .send .keepalive message (.ok ()), _ =>
          simp [List.filterMap_cons, SinkOp.written, later]

/-- The payloads written are the first of those accepted. Only the last operation
on the sink can have failed, and nothing is passed over. -/
theorem Orderly.written_first (orderly : s.Orderly) (accounted : s.Accounted) :
    s.written <+: s.tx.sent := by
  have passed : s.written <+: (s.sinkOps.filterMap SinkOp.passed).filterMap payload? := by
    unfold written
    rcases List.eq_nil_or_concat' s.sinkOps with empty | ⟨front, last, parts⟩
    · rw [empty]
      exact List.prefix_refl _
    · have left := orderly.left
      rw [parts, List.dropLast_concat] at left
      rw [parts, List.filterMap_append, List.filterMap_append, List.filterMap_append,
        written_of_sent left]
      apply (List.prefix_append_right_inj _).mpr
      cases last with
      | send origin message result =>
          cases result with
          | ok _ => cases origin <;> exact List.prefix_refl _
          | error _ => cases origin <;> exact List.nil_prefix
      | close _ => exact List.nil_prefix
  have taken : (s.sinkOps.filterMap SinkOp.passed).filterMap payload? <+: s.tx.taken := by
    rw [← accounted.outgoing]
    exact (List.prefix_append _ _).filterMap _
  exact passed.trans (taken.trans ((List.prefix_append _ _).trans s.tx.ordered))

/-- The payload of a call is accepted once. -/
theorem Once.apart (once : s.Once) {front back : List TxChannelPayload}
    (parts : s.tx.sent = front ++ back) {call : CallId} {payload payload' : TxChannelPayload}
    (member : payload ∈ front) (same : payload.responseTx = some call) (member' : payload' ∈ back)
    (same' : payload'.responseTx = some call) : False := by
  unfold Once accepted at once
  rw [parts, List.filterMap_append, List.nodup_append] at once
  exact once.2.2 call (List.mem_filterMap.mpr ⟨payload, member, same⟩) call
    (List.mem_filterMap.mpr ⟨payload', member', same'⟩) rfl

/-- A task that goes on takes a payload whenever it takes its turn at the tx
channel, and at no other time. -/
theorem LoopStep.taken_length {move : LoopAction E} (step : s.LoopStep move t)
    (running : t.pc.running = true) : t.tx.taken.length = s.tx.taken.length + move.draws := by
  cases step with
  | outgoing _ received =>
      rw [received.taken, List.length_append]
      rfl
  | sendersGone => cases running
  | ping | close | skip | streamError | streamEnd | deliver | refuse | hold | release | abandon
  | sleep | sentUnconfirmed | sentConfirmed | sentUnheard | ponged | sinkClosed | keptAlive
  | record | dropSender | dropReceiver => rfl

end Connection

namespace System

open Connection

variable {s t : System cfg E}

/-- The payload of a call that has learned of its write was written. -/
theorem written_of_confirmed (reached : (system cfg E).Reachable s) {call : CallId}
    {record : Call E} {payload : TxChannelPayload} (found : s.calls call = some record)
    (enqueues : record.op.payload call = some payload) (confirmed : record.pc.confirmed = true) :
    payload ∈ s.conn.written ∧ payload.responseTx = some call := by
  have requests := requests reached
  have consistent := requests.consistent call record found
  -- a result on the one-shot of the call is that of its write
  have answered : (s.conn.oneshots call).value = some (.ok ()) := by
    unfold CallPc.confirmed at confirmed
    split at confirmed
    · rename_i pc
      rwa [pc] at consistent
    · rename_i pc
      rw [pc] at consistent
      exact consistent rfl
    · rename_i pc
      rw [pc] at consistent
      rcases consistent with answered | ⟨refused, _⟩
      · exact answered
      · cases refused
    · cases confirmed
  obtain ⟨message, write, member, same⟩ := requests.written call _ answered
  cases write with
  | error _ => cases same
  | ok _ =>
      have written : { message := message, responseTx := some call } ∈ s.conn.written :=
        List.mem_filterMap.mpr ⟨_, member, rfl⟩
      have accepted := ((orderly reached).written_first (accounted reached)).subset written
      obtain ⟨record', found', enqueues'⟩ := requests.origin _ accepted call rfl
      obtain rfl := Option.some.inj (found.symm.trans found')
      obtain rfl := Option.some.inj (enqueues.symm.trans enqueues')
      exact ⟨written, rfl⟩

/-- When a call has learned that its payload was written, all that was accepted
before the call was made has been written before it, in order and each once. The
messages of the fire-and-forget calls that had returned `Ok` are among that. -/
theorem confirmed_flushes (reached : (system cfg E).Reachable s)
    {trace : List (System cfg E × Action E)} (run : (system cfg E).Run s trace t) {call : CallId}
    {record : Call E} {payload : TxChannelPayload} (unborn : s.calls call = none)
    (found : t.calls call = some record) (enqueues : record.op.payload call = some payload)
    (confirmed : record.pc.confirmed = true) :
    (∃ between later, t.conn.written = s.conn.tx.sent ++ between ++ payload :: later) ∧
      s.enqueued.Perm (s.conn.tx.sent.filterMap TxChannelPayload.unconfirmed?) := by
  have reachedT : (system cfg E).Reachable t := by
    obtain ⟨front, before⟩ := reached
    exact ⟨front ++ trace, before.append run⟩
  refine ⟨?_, System.enqueues reached⟩
  obtain ⟨member, same⟩ := written_of_confirmed reachedT found enqueues confirmed
  obtain ⟨front, later, parts⟩ := List.append_of_mem member
  have first := (orderly reachedT).written_first (accounted reachedT)
  rw [parts] at first
  have front' : front <+: t.conn.tx.sent := (List.prefix_append _ _).trans first
  rcases Nat.lt_or_ge front.length s.conn.tx.sent.length with long | short
  · -- else it would have been accepted before the call was made
    have through : front ++ [payload] <+: t.conn.tx.sent :=
      List.IsPrefix.trans ⟨later, by simp⟩ first
    have atMost : (front ++ [payload]).length ≤ s.conn.tx.sent.length := by
      rw [List.length_append]
      exact long
    have early := List.prefix_of_prefix_length_le through (run_sent_first run) atMost
    have accepted : call ∈ s.conn.accepted :=
      List.mem_filterMap.mpr ⟨payload, early.subset (by simp), same⟩
    exact absurd accepted ((requests reached).unborn_not_accepted unborn)
  · obtain ⟨between, rfl⟩ := List.prefix_of_prefix_length_le (run_sent_first run) front' short
    exact ⟨between, later, parts⟩

/-- A fire-and-forget send that has returned `Ok`. -/
def oneEnqueued : List (Action Unit) :=
  [.split 0 1, .start 0 (.sendRawUnconfirmed (.binary [1])), .advance 0]

/-- A confirmed send on top of it. -/
def thenConfirmed : List (Action Unit) :=
  [.start 0 (.sendRaw (.binary [2])), .loop (.arm .outgoing), .advance 1, .loop (.sink (.ok ())),
    .loop (.arm .outgoing), .loop (.sink (.ok ())), .advance 1]

theorem confirmed_flushes_thenConfirmed :
    let M := system .single Unit
    let s := M.follow (.create .single Unit) oneEnqueued
    let t := M.follow s thenConfirmed
    s.conn.written = [] ∧ s.enqueued = [.binary [1]] ∧
      ∃ between later, t.conn.written = s.conn.tx.sent ++ between ++
        { message := .binary [2], responseTx := some 1 } :: later := by
  intro M s t
  have reached : M.Reachable s := M.follow_reachable oneEnqueued
  have found : t.calls 1 = some ⟨.sendRaw (.binary [2]), 0, .returned (.replied (.ok ()))⟩ := rfl
  have flushed := confirmed_flushes reached (M.run_steps s thenConfirmed) rfl found rfl rfl
  exact ⟨by decide, by decide, flushed.1⟩

/-- While the loop runs, no caller that waits has been left without an answer. -/
theorem answered_of_running (reached : (system cfg E).Reachable s)
    (running : s.conn.pc.running = true) : s.Answered := by
  refine reached.invariant (fun s => s.conn.pc.running = true → s.Answered) ?_ ?_ running
  · intro _ call record found
    cases found
  · intro s action t reached answered step running
    have step : s.step action = some t := step
    have runs := running_before step running
    refine (answered runs).step reached (step_rule step) ?_
    unfold discardsRequest
    split
    · rename_i exiting _
      rw [exiting] at runs
      cases runs
    · rfl

/-- A turn at the tx channel takes one payload. -/
theorem taken_step {action : Action E} (step : s.step action = some t)
    (running : t.conn.pc.running = true) :
    t.conn.tx.taken.length = s.conn.tx.taken.length + action.draws := by
  cases action with
  | loop move => exact (loopStep_of_step step).taken_length running
  | start _ _ | advance _ | cancel _ | clone _ _ | split _ _ | reunite _ _ | drop _ =>
      rcases step_ledger step with ⟨_, loops, _⟩ | same
      · cases loops
      · rw [same.popped]
        rfl

/-- A run takes one payload in each of its turns at the tx channel. -/
theorem taken_run {trace : List (System cfg E × Action E)} (run : (system cfg E).Run s trace t)
    (running : t.conn.pc.running = true) :
    t.conn.tx.taken.length =
      s.conn.tx.taken.length + (trace.map fun entry => entry.2.draws).sum := by
  induction run with
  | nil => rfl
  | @snoc middle final front action earlier step ih =>
      have step : middle.step action = some final := step
      have before := ih (running_before step running)
      have here := taken_step step running
      simp only [List.map_append, List.map_cons, List.map_nil, List.sum_append_nat, List.sum_cons,
        List.sum_nil]
      omega

/-- What the tx channel holds, it was given. -/
theorem sent_of_running (reached : (system cfg E).Reachable s)
    (running : s.conn.pc.running = true) :
    s.conn.tx.taken ++ s.conn.tx.queue = s.conn.tx.sent := by
  apply s.conn.tx.complete
  rw [(ends reached).receiver,
    LoopPc.holdsReceiver_of_holdsSender (LoopPc.holdsSender_of_running running)]
  rfl

/-- While the loop runs, a caller that waits for its reply is served in its turn:
its payload is queued, and the task has taken its turn at the tx channel less
often than there were payloads queued when the caller began to be watched, or it
is being written, and the task has taken its turn no more often than that, or the
caller learns the result of the write at its next step. A send or a close returns
with it, `close_connection` waits for the task next, and `reconnect` connects. -/
theorem served_in_turn (reached : (system cfg E).Reachable s)
    {trace : List (System cfg E × Action E)} (run : (system cfg E).Run s trace t)
    (running : t.conn.pc.running = true) {call : CallId} {record record' : Call E}
    (found : s.calls call = some record) (waited : record.pc = .awaitingReply)
    (found' : t.calls call = some record') (waits : record'.pc = .awaitingReply) :
    (t.conn.Queued call ∧
        (trace.map fun entry => entry.2.draws).sum < s.conn.tx.queue.length) ∨
      (t.conn.Sending call ∧
        (trace.map fun entry => entry.2.draws).sum ≤ s.conn.tx.queue.length) ∨
      ∃ result u pc, t.conn.Wrote call result ∧ t.step (.advance call) = some u ∧
        u.calls call = some { record' with pc := pc } ∧
        match record'.op with
        | .closeConnection => pc = .joining result
        | .reconnect => pc = .connecting
        | _ => pc = .returned (.replied result) := by
  have reachedT : (system cfg E).Reachable t := by
    obtain ⟨front, before⟩ := reached
    exact ⟨front ++ trace, before.append run⟩
  have turns := taken_run run running
  have runs : s.conn.pc.running = true := by
    by_contra left
    rw [(run_silent run (Bool.eq_false_of_not_eq_true left)).1] at running
    cases running
  have sent := congrArg List.length (sent_of_running reached runs)
  rw [List.length_append] at sent
  have consistent := (requests reached).consistent call record found
  rw [waited] at consistent
  obtain ⟨payload, accepted, same⟩ := List.mem_filterMap.mp consistent.1
  have once := (requests reachedT).once
  have first := run_sent_first run
  have all := sent_of_running reachedT running
  by_cases queued : t.conn.Queued call
  · left
    refine ⟨queued, ?_⟩
    obtain ⟨payload', member, same'⟩ := queued
    by_contra late
    have gone : s.conn.tx.sent <+: t.conn.tx.taken :=
      List.prefix_of_prefix_length_le first ((List.prefix_append _ _).trans t.conn.tx.ordered)
        (by omega)
    exact once.apart all.symm (gone.subset accepted) same member same'
  · right
    by_cases sending : t.conn.Sending call
    · left
      refine ⟨sending, ?_⟩
      obtain ⟨payload', site, pc, same'⟩ := sending
      obtain ⟨front, taken⟩ := (Connection.Accounted.last (accounted reachedT) pc)
      by_contra late
      rw [taken, List.append_assoc] at all
      rw [taken, List.length_append, List.length_singleton] at turns
      have gone : s.conn.tx.sent <+: front :=
        List.prefix_of_prefix_length_le first ⟨_, all⟩ (by omega)
      exact once.apart all.symm (gone.subset accepted) same (List.mem_cons_self ..) same'
    · right
      have consistent := (requests reachedT).consistent call record' found'
      rw [waits] at consistent
      have settled := ((settles reachedT).senders call consistent.1).resolve_left
        (not_or.mpr ⟨queued, sending⟩)
      have answered := (answered_of_running reachedT running call record' found').2 waits settled
      obtain ⟨result, value⟩ := Option.isSome_iff_exists.mp answered
      refine ⟨result, t.moveTo call record' (record'.op.answered result), _,
        (requests reachedT).written call result value, ?_, moveTo_calls_self .., ?_⟩
      · simp only [step, advance, found', waits, advanceReply,
          (Oneshot.recv_ready_some_iff _ _).mpr value]
      · cases record'.op <;> rfl

/-- Two sends; one is being written, the other one is queued. -/
def secondInLine : List (Action Unit) :=
  [.start 0 (.sendRaw (.binary [1])), .start 0 (.sendRaw (.binary [2])), .advance 0,
    .loop (.arm .outgoing), .advance 1]

/-- Both are written, with one turn at the tx channel. -/
def bothWritten : List (Action Unit) :=
  [.loop (.sink (.ok ())), .loop (.arm .outgoing), .loop (.sink (.ok ()))]

theorem served_in_turn_bothWritten :
    let M := system .single Unit
    let s := M.follow (.create .single Unit) secondInLine
    let t := M.follow s bothWritten
    s.conn.Queued 1 ∧ ∃ result u, t.conn.Wrote 1 result ∧ t.step (.advance 1) = some u ∧
      u.calls 1 = some ⟨.sendRaw (.binary [2]), 0, .returned (.replied result)⟩ := by
  intro M s t
  have reached : M.Reachable s := M.follow_reachable secondInLine
  have found : s.calls 1 = some ⟨.sendRaw (.binary [2]), 0, .awaitingReply⟩ := rfl
  have found' : t.calls 1 = some ⟨.sendRaw (.binary [2]), 0, .awaitingReply⟩ := rfl
  have here : t.conn.pc = .select .outer := rfl
  have empty : t.conn.tx.queue = [] := rfl
  refine ⟨⟨_, List.mem_singleton_self _, rfl⟩, ?_⟩
  have served := served_in_turn reached (M.run_steps s bothWritten) rfl found rfl found' rfl
  rcases served with
    ⟨⟨_, member, _⟩, _⟩ | ⟨⟨_, _, pc, _⟩, _⟩ | ⟨result, u, _, wrote, step, called, rfl⟩
  · cases (empty ▸ member : _ ∈ ([] : List TxChannelPayload))
  · cases here.symm.trans pc
  · exact ⟨result, u, wrote, step, called⟩

end System

end Socketeer
