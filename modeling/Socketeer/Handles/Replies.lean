import Socketeer.Handles.Requests

/-! # What a confirmed send reports

The result a confirmed send returns is that of the one write of its own message,
and a send that was refused is never written.
-/

namespace Socketeer

open Foundation

variable {cfg : LoopConfig} {E : Type}

/-- The message and the result of a completed write of the payload of a call. -/
def SinkOp.writeFor (call : CallId) : SinkOp E → Option (Message × Except E Unit)
  | .send origin message result =>
      if origin = .outgoing (some call) then some (message, result) else none
  | .close _ => none

/-- A key occurs at most once among the members of a list that have distinct
keys. -/
theorem filter_key_length_le {α β : Type*} [DecidableEq β] {key : α → Option β} {list : List α}
    (distinct : (list.filterMap key).Nodup) (b : β) :
    (list.filter fun member => key member = some b).length ≤ 1 := by
  have once := List.nodup_iff_count_le_one.mp distinct b
  rw [List.count_filterMap, List.countP_eq_length_filter] at once
  simpa only [beq_eq_decide] using once

theorem eq_singleton_of_mem {α : Type*} {list : List α} {a : α} (short : list.length ≤ 1)
    (member : a ∈ list) : list = [a] := by
  match list, short, member with
  | [b], _, member => rw [List.mem_singleton.mp member]

namespace Connection

/-- The messages passed to `sink.send` for a call. -/
def passedFor (s : Connection cfg E) (call : CallId) : List Message :=
  (s.passed.filter fun entry => entry.1 = .outgoing (some call)).map Prod.snd

/-- The completed writes for a call. -/
def writesFor (s : Connection cfg E) (call : CallId) : List (Message × Except E Unit) :=
  s.sinkOps.filterMap (SinkOp.writeFor call)

variable {s : Connection cfg E}

/-- What is passed for a call are the messages of its payloads. -/
theorem passedFor_eq_filter (s : Connection cfg E) (call : CallId) :
    s.passedFor call = ((s.passed.filterMap payload?).filter
      fun payload => payload.responseTx = some call).map TxChannelPayload.message := by
  unfold passedFor
  induction s.passed with
  | nil => rfl
  | cons entry rest ih =>
      obtain ⟨origin, message⟩ := entry
      cases origin with
      | outgoing responseTx =>
          by_cases mine : responseTx = some call
          · simp [mine, ih]
          · simp [mine, ih]
      | pong | keepalive => simp [List.filterMap_cons, ih]

/-- The completed writes for a call are among what was passed for it. -/
theorem writesFor_prefix (s : Connection cfg E) (call : CallId) :
    (s.writesFor call).map Prod.fst <+: s.passedFor call := by
  have completed : (s.writesFor call).map Prod.fst =
      ((s.sinkOps.filterMap SinkOp.passed).filter
        fun entry => entry.1 = .outgoing (some call)).map Prod.snd := by
    unfold writesFor
    induction s.sinkOps with
    | nil => rfl
    | cons op rest ih =>
        cases op with
        | send origin message result =>
            by_cases mine : origin = .outgoing (some call)
            · simp [SinkOp.writeFor, mine, ih]
            · simp [SinkOp.writeFor, mine, ih]
        | close result => simp [SinkOp.writeFor, List.filterMap_cons, ih]
  rw [completed, passedFor, passed, List.filter_append, List.map_append]
  exact List.prefix_append _ _

/-- For each call at most one message is passed on. -/
theorem Accounted.passedFor_length (accounted : Accounted s) (once : s.Once) (call : CallId) :
    (s.passedFor call).length ≤ 1 := by
  have taken : s.tx.taken <+: s.tx.sent := (List.prefix_append _ _).trans s.tx.ordered
  have distinct := once.sublist (taken.sublist.filterMap TxChannelPayload.responseTx)
  rw [passedFor_eq_filter, accounted.outgoing, List.length_map]
  exact filter_key_length_le distinct call

/-- What is passed on for a call is the message of an accepted payload. -/
theorem Accounted.mem_passedFor (accounted : Accounted s) {call : CallId} {message : Message}
    (member : message ∈ s.passedFor call) :
    ∃ payload ∈ s.tx.sent, payload.responseTx = some call ∧ payload.message = message := by
  rw [passedFor_eq_filter, accounted.outgoing] at member
  obtain ⟨payload, kept, same⟩ := List.mem_map.mp member
  obtain ⟨taken, confirmed⟩ := List.mem_filter.mp kept
  refine ⟨payload, s.tx.ordered.subset (List.mem_append_left _ taken), ?_, same⟩
  simpa using confirmed

end Connection

namespace System

open Connection

variable {s t : System cfg E}

/-- The one write of the payload of a call whose one-shot holds a result. -/
private theorem write_of_value (reached : (system cfg E).Reachable s) {call : CallId}
    {record : Call E} {payload : TxChannelPayload} (found : s.calls call = some record)
    (enqueues : record.op.payload call = some payload) {result : Except (Error E) Unit}
    (sent : (s.conn.oneshots call).value = some result) :
    ∃ write, result = write.mapError .websocketError ∧
      s.conn.passedFor call = [payload.message] ∧
      s.conn.writesFor call = [(payload.message, write)] ∧
      .send (.outgoing (some call)) payload.message write ∈ s.conn.sinkOps := by
  have accounted := accounted reached
  have requests := requests reached
  obtain ⟨message, write, member, same⟩ := requests.written call result sent
  have written : (message, write) ∈ s.conn.writesFor call :=
    List.mem_filterMap.mpr ⟨_, member, by simp [SinkOp.writeFor]⟩
  have passed : message ∈ s.conn.passedFor call :=
    (s.conn.writesFor_prefix call).subset (List.mem_map_of_mem written)
  -- the payload the message came from is that of the call
  obtain ⟨payload', accepted, confirmed, rfl⟩ := accounted.mem_passedFor passed
  obtain ⟨record', found', enqueues'⟩ := requests.origin payload' accepted call confirmed
  obtain rfl := Option.some.inj (found.symm.trans found')
  obtain rfl := Option.some.inj (enqueues.symm.trans enqueues')
  have single : s.conn.passedFor call = [payload.message] :=
    eq_singleton_of_mem (accounted.passedFor_length requests.once call) passed
  have short : (s.conn.writesFor call).length ≤ 1 := by
    have length := (s.conn.writesFor_prefix call).length_le
    rw [single, List.length_map] at length
    exact length
  exact ⟨write, same, single, eq_singleton_of_mem short written, member⟩

/-- Whenever a confirmed send has returned, and from then on: the result it
received on its one-shot is that of the only write of its message, after a
failed write nothing is written, and the message of a send that was refused is
never passed to the sink. -/
theorem confirmed_send_reports (reached : (system cfg E).Reachable s) {call : CallId}
    {record : Call E} {message : Message} (found : s.calls call = some record)
    (sends : record.op = .sendRaw message) {trace : List (System cfg E × Action E)}
    (later : (system cfg E).Run s trace t) :
    (record.pc = .returned (.replied (.ok ())) →
      t.conn.passedFor call = [message] ∧
      s.conn.writesFor call = [(message, .ok ())] ∧
      t.conn.writesFor call = [(message, .ok ())]) ∧
    (∀ error, record.pc = .returned (.replied (.error error)) →
      ∃ e, error = .websocketError e ∧
        t.conn.passedFor call = [message] ∧
        t.conn.writesFor call = [(message, .error e)] ∧
        (∃ front, t.conn.sinkOps =
          front ++ [.send (.outgoing (some call)) message (.error e)]) ∧
        t.conn.sinkOps = s.conn.sinkOps ∧ t.conn.passed = s.conn.passed) ∧
    (∀ error, record.pc = .returned (.refused error) → t.conn.passedFor call = []) := by
  have enqueues : record.op.payload call =
      some { message := message, responseTx := some call } := by
    rw [sends]
    rfl
  have reachedT : (system cfg E).Reachable t := by
    obtain ⟨front, before⟩ := reached
    exact ⟨front ++ trace, before.append later⟩
  have foundT : ∀ outcome, record.pc = .returned outcome → t.calls call = some record :=
    fun outcome returned => run_ended reached later found (by rw [returned]; rfl)
  have sent : ∀ {u : System cfg E} {result}, (system cfg E).Reachable u →
      u.calls call = some record → record.pc = .returned (.replied result) →
      (u.conn.oneshots call).value = some result := by
    intro u result reached found returned
    have consistent := (requests reached).consistent call record found
    rwa [returned] at consistent
  refine ⟨fun returned => ?_, fun error returned => ?_, fun error returned => ?_⟩
  · obtain ⟨write, same, _, written, _⟩ :=
      write_of_value reached found enqueues (sent reached found returned)
    obtain ⟨writeT, sameT, passedT, writtenT, _⟩ :=
      write_of_value reachedT (foundT _ returned) enqueues
        (sent reachedT (foundT _ returned) returned)
    cases write with
    | error _ => cases same
    | ok _ =>
        cases writeT with
        | error _ => cases sameT
        | ok _ => exact ⟨passedT, written, writtenT⟩
  · obtain ⟨write, same, passed, written, member⟩ :=
      write_of_value reached found enqueues (sent reached found returned)
    cases write with
    | ok _ => cases same
    | error e =>
        -- a failed write is the last operation on the sink, now and later
        obtain ⟨front, back, split⟩ := List.append_of_mem member
        obtain ⟨rfl, left⟩ := (orderly reached).last split rfl
        obtain ⟨afterwards, silent⟩ := run_silent later left
        have same' : t.conn.passed = s.conn.passed := by
          rw [Connection.passed, Connection.passed, silent, passing_of_not_running left,
            passing_of_not_running afterwards]
        refine ⟨e, Except.error.inj same, ?_, ?_, ⟨front, silent.trans split⟩, silent, same'⟩
        · rw [passedFor, same']
          exact passed
        · rw [writesFor, silent]
          exact written
  · have consistent := (requests reachedT).consistent call record (foundT _ returned)
    rw [returned] at consistent
    refine List.eq_nil_iff_forall_not_mem.mpr fun other member => consistent ?_
    obtain ⟨payload, accepted, confirmed, _⟩ := (accounted reachedT).mem_passedFor member
    exact List.mem_filterMap.mpr ⟨payload, accepted, confirmed⟩

/-- Two sends; the first one is written, the second one fails. -/
def secondSendFails : List (Action Unit) :=
  [.start 0 (.sendRaw (.binary [1])), .start 0 (.sendRaw (.binary [2])), .advance 0,
    .loop (.arm .outgoing), .advance 1, .loop (.sink (.ok ())), .advance 0,
    .loop (.arm .outgoing), .loop (.sink (.error ())), .advance 1]

theorem confirmed_send_reports_secondSendFails :
    let s := (system .single Unit).follow (.create .single Unit) secondSendFails
    s.conn.writesFor 0 = [(.binary [1], .ok ())] ∧
      s.conn.writesFor 1 = [(.binary [2], .error ())] := by
  intro s
  have reached : (system .single Unit).Reachable s :=
    (system .single Unit).follow_reachable secondSendFails
  have foundFirst : s.calls 0 =
      some ⟨.sendRaw (.binary [1]), 0, .returned (.replied (.ok ()))⟩ := rfl
  have foundSecond : s.calls 1 =
      some ⟨.sendRaw (.binary [2]), 0, .returned (.replied (.error (.websocketError ())))⟩ := rfl
  have first := confirmed_send_reports reached foundFirst rfl (.nil s)
  have second := confirmed_send_reports reached foundSecond rfl (.nil s)
  obtain ⟨e, _, _, written, _⟩ := second.2.1 _ rfl
  exact ⟨(first.1 rfl).2.1, written⟩

end System

end Socketeer
