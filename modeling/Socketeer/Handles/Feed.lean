import Socketeer.SocketLoop.Delivery
import Socketeer.Handles.Ownership

/-! # The inbound feed

What the consumer has received, what waits for it on the rx channel, and the
frame the loop holds are together the data frames read from the stream. The
consumer is told of the end only after it has received all that was delivered.
-/

namespace Socketeer

open Foundation

variable {cfg : LoopConfig} {E : Type}

/-- Whether a receiving call has reported the end of the connection. -/
def Call.toldClosed (record : Call E) : Bool :=
  match record.pc with
  | .returned (.received (.error _)) => true
  | .returned (.polled none) | .returned (.polled (some (.error _))) => true
  | _ => false

namespace Connection

/-- All that was delivered has been received, and nothing more can come. -/
structure Drained (s : Connection cfg E) : Prop where
  closed : s.rx.senders = ∅
  taken : s.rx.taken = s.rx.sent

variable {s t : Connection cfg E}

theorem Drained.queue (drained : Drained s) : s.rx.queue = [] := by
  have ordered := s.rx.ordered.length_le
  rw [List.length_append, drained.taken] at ordered
  exact List.eq_nil_of_length_eq_zero (by omega)

/-- The task does not deliver once it has dropped its sender. -/
theorem Drained.loopStep (drained : Drained s) (ends : Ends s) {action : LoopAction E}
    (step : s.LoopStep action t) : Drained t := by
  have dropped := ends.closed drained.closed
  constructor
  · exact Finset.subset_empty.mp (drained.closed ▸ step.rxSenders)
  · cases leaving : s.pc with
    | leaving state stage => rw [step.taken, (step.exited leaving).2.delivered, drained.taken]
    | select _ | sending _ _ | ponging | closing | keepalive _ =>
        rw [leaving] at dropped
        cases dropped

end Connection

namespace System

open Connection

variable {s t : System cfg E}

/-- Frames are delivered in order in every reachable state. -/
theorem delivery (reached : (system cfg E).Reachable s) : s.conn.Delivery :=
  ledger_invariant reached (.create cfg E 0) (fun holds step => holds.loopStep step)
    fun holds same => holds.frame same

/-- The task holds its ends as long as it should, in every reachable state. -/
theorem ends (reached : (system cfg E).Reachable s) : s.conn.Ends :=
  ledger_invariant reached (.create cfg E 0) (fun holds step => holds.loopStep step)
    fun holds same => holds.frame same

/-- The loop is left with a state that stops it, in every reachable state. -/
theorem leavesStopped (reached : (system cfg E).Reachable s) : s.conn.LeavesStopped :=
  ledger_invariant reached nofun (fun stopped step => stopped.loopStep step)
    fun stopped same => stopped.frame same

/-- Nothing changes about a drained connection. -/
theorem drained_step (ends : s.conn.Ends) (drained : s.conn.Drained) {action : Action E}
    (step : s.Step action t) : t.conn.Drained := by
  cases step with
  | loop moved => exact drained.loopStep ends moved
  | pollFrame _ received | recvFrame _ _ received =>
      have queue := received.queue
      rw [drained.queue] at queue
      cases queue
  | startReceive | startSend | pollPending | pollEnd | accept | refuseSend | refuseClose | reply
  | panic | join | connect | recvEnd | cancel | clone | split | reunite | drop =>
      constructor
      · simpa [System.begin, moveTo, takeTerminalErrorOpt, hangUp] using drained.closed
      · simpa [System.begin, moveTo, takeTerminalErrorOpt, hangUp] using drained.taken

/-- A receiving call that finds the rx channel closed has received everything. -/
private theorem drained_of_end {handle : HandleId} (owner : s.conn.rx.receiver = some handle)
    (empty : s.conn.rx.queue = []) (gone : s.conn.rx.senders = ∅) : s.conn.Drained :=
  ⟨gone, s.conn.rx.taken_eq_sent (by rw [owner]; rfl) empty⟩

/-- Some receiving call has reported the end of the connection. -/
def ToldClosed (s : System cfg E) : Prop :=
  ∃ call record, s.calls call = some record ∧ record.toldClosed = true

/-- A call that moves on without being told leaves it at who was told. -/
private theorem toldClosed_moveTo {call : CallId} {record : Call E} {pc : CallPc E}
    (silent : Call.toldClosed { record with pc := pc } = false)
    (told : (s.moveTo call record pc).ToldClosed) : s.ToldClosed := by
  obtain ⟨other, record', found, tells⟩ := told
  rcases moveTo_found found with ⟨_, rfl⟩ | ⟨_, old⟩
  · rw [silent] at tells
    cases tells
  · exact ⟨other, record', old, tells⟩

/-- A call that begins without being told leaves it at who was told. -/
private theorem toldClosed_begin {handle : HandleId} {op : Op} {pc : CallPc E}
    (silent : Call.toldClosed { op := op, handle := handle, pc := pc } = false)
    (told : (s.begin handle op pc).ToldClosed) : s.ToldClosed := by
  obtain ⟨other, record', found, tells⟩ := told
  rcases begin_found found with ⟨_, rfl⟩ | ⟨_, old⟩
  · rw [silent] at tells
    cases tells
  · exact ⟨other, record', old, tells⟩

/-- The end of the connection is reported only once everything delivered has
been received. -/
theorem drained_of_toldClosed (reached : (system cfg E).Reachable s) (told : s.ToldClosed) :
    s.conn.Drained := by
  refine reached.invariant (fun s => s.ToldClosed → s.conn.Drained) ?_ ?_ told
  · rintro ⟨call, record, found, _⟩
    cases found
  intro s action t reached before step told
  have rule := step_rule step
  by_cases old : s.ToldClosed
  · exact drained_step (ends reached) (before old) rule
  -- the step that reports the end is a receive that found the channel closed
  have owned := ownership reached
  cases rule with
  | recvEnd found receiving empty gone =>
      have receives := owned.reaches _ _ found
      rw [receiving] at receives
      obtain ⟨owner, _⟩ := owned.exclusive _ _ found (by rw [receiving]; rfl)
        (.inr (by rw [show _ = Op.nextRawMessage from receives]; rfl))
      have drained := drained_of_end owner empty gone
      exact ⟨by simpa [moveTo, takeTerminalErrorOpt] using drained.closed,
        by simpa [moveTo, takeTerminalErrorOpt] using drained.taken⟩
  | pollEnd permitted empty gone => exact drained_of_end permitted.1 empty gone
  | loop | pollPending | clone | split | reunite | drop => exact absurd told old
  | startReceive | startSend | pollFrame => exact absurd (toldClosed_begin rfl told) old
  | @accept call record _ tx | @refuseClose call record | @reply call record =>
      refine absurd (toldClosed_moveTo ?_ told) old
      cases record.op <;> rfl
  | refuseSend | panic | join | connect | recvFrame | cancel =>
      exact absurd (toldClosed_moveTo rfl told) old

/-- A receive half that is there after a call has moved on was there before. -/
private theorem moveTo_receiver {call : CallId} {record : Call E} {pc : CallPc E}
    (alive : (s.moveTo call record pc).conn.rx.receiver.isSome) : s.conn.rx.receiver.isSome :=
  settle_rx_receiver_isSome s.conn record pc alive

/-- Nothing brings a dropped receive half back. -/
theorem receiver_of_step {action : Action E} (step : s.Step action t)
    (alive : t.conn.rx.receiver.isSome) : s.conn.rx.receiver.isSome := by
  cases step with
  | loop moved => rwa [moved.handles.1] at alive
  | startReceive | startSend | pollPending | pollEnd | clone => exact alive
  | pollFrame _ received =>
      rw [← received.receiver]
      exact alive
  | recvFrame _ _ received =>
      rw [← received.receiver]
      have before := moveTo_receiver alive
      exact before
  | accept | refuseSend | refuseClose | reply | panic | join | connect | recvEnd | cancel =>
      have before := moveTo_receiver alive
      exact before
  | split | reunite => simpa using alive
  | drop => exact dropHandle_rx_receiver_isSome _ alive

/-- Once the loop has been left, every step keeps what it did and how it ended. -/
theorem exited_step {action : Action E} (step : s.step action = some t) {state : LoopState E}
    {stage : Stage} (leaving : s.conn.pc = .leaving state stage) :
    (∃ later, t.conn.pc = .leaving state later) ∧ SameHistory s.conn t.conn := by
  rcases step_ledger step with ⟨move, _, moved⟩ | same
  · exact moved.exited leaving
  · exact ⟨⟨stage, same.pc.trans leaving⟩, same.toSameHistory⟩

/-- A loop that runs after a step ran before it. -/
theorem running_before {action : Action E} (step : s.step action = some t)
    (running : t.conn.pc.running = true) : s.conn.pc.running = true := by
  cases pc : s.conn.pc with
  | leaving state stage =>
      obtain ⟨⟨later, left⟩, _⟩ := exited_step step pc
      rw [left] at running
      cases running
  | select _ | sending _ _ | ponging | closing | keepalive _ => rfl

/-- While the receive half is alive, the frames received and those left for it
are all that was delivered. -/
theorem received_append_queue (reached : (system cfg E).Reachable s)
    (alive : s.conn.rx.receiver.isSome) : s.received ++ s.conn.rx.queue = s.conn.rx.sent := by
  rw [received_eq_taken reached]
  exact s.conn.rx.complete alive

/-- While the receive half is alive and the loop running, the frames received,
buffered and held are the data frames read. -/
theorem feed_complete (reached : (system cfg E).Reachable s) (alive : s.conn.rx.receiver.isSome)
    (running : s.conn.pc.running = true) :
    s.received ++ s.conn.rx.queue ++ s.conn.pc.held.toList = dataFrames s.conn.items := by
  rw [received_append_queue reached alive]
  exact (delivery reached).running running

/-- The frames received and buffered are always the first of the data frames
read. -/
theorem feed_first (reached : (system cfg E).Reachable s) :
    s.received ++ s.conn.rx.queue <+: dataFrames s.conn.items := by
  rw [received_eq_taken reached]
  exact s.conn.rx.ordered.trans (delivery reached).delivered

/-- Inbound delivery loses, repeats and reorders nothing: while the loop is
running, what was received, what is buffered and what is held are the data
frames read so far, and once it has been left what was received and what is
buffered are still the first of them. The buffer is bounded, and nothing is
read while a frame is held. -/
theorem inbound_in_order (reached : (system cfg E).Reachable s) :
    (s.conn.rx.receiver.isSome → s.conn.pc.running = true →
      s.received ++ s.conn.rx.queue ++ s.conn.pc.held.toList = dataFrames s.conn.items) ∧
    s.received ++ s.conn.rx.queue <+: dataFrames s.conn.items ∧
    s.conn.rx.queue.length ≤ cfg.channelSize ∧
    (∀ frame, s.conn.pc.held = some frame →
      (s.conn.pc = .select (.backpressure frame) ∨
        (∃ payload, s.conn.pc = .sending payload (.backpressure frame)) ∨
        s.conn.pc = .keepalive (.backpressure frame)) ∧
      ∀ item, s.step (.loop (.arm (.incoming item))) = none) ∧
    ∀ frame ∈ s.received ++ s.conn.rx.queue ++ s.conn.pc.held.toList,
      (∃ payload, frame = .text payload) ∨ ∃ payload, frame = .binary payload := by
  have delivery := delivery reached
  have ordered : s.received ++ s.conn.rx.queue <+: s.conn.rx.sent := by
    rw [received_eq_taken reached]
    exact s.conn.rx.ordered
  have prefixed := ordered.trans delivery.delivered
  refine ⟨fun alive running => ?_, prefixed, s.conn.rx.bounded, fun frame held => ?_,
    fun frame member => ?_⟩
  · rw [received_append_queue reached alive]
    exact delivery.running running
  · have backpressure : ∀ {site : Site}, site.held = some frame → site = .backpressure frame := by
      intro site same
      cases site with
      | outer => cases same
      | backpressure _ => rw [Option.some.inj same]
    cases pc : s.conn.pc with
    | select site | sending _ site | keepalive site =>
        rw [pc] at held
        obtain rfl := backpressure held
        refine ⟨by simp, fun item => ?_⟩
        simp [step, loopStep, pc, deliverWithBackpressure.turn]
    | ponging | closing | leaving _ _ =>
        rw [pc] at held
        cases held
  · rcases List.mem_append.mp member with inside | held
    · exact mem_dataFrames (prefixed.subset inside)
    · -- a frame is held only while the loop is running
      have running : s.conn.pc.running = true := by
        cases pc : s.conn.pc with
        | leaving _ _ =>
            rw [pc] at held
            cases held
        | select _ | sending _ _ | ponging | closing | keepalive _ => rfl
      have inside : frame ∈ dataFrames s.conn.items := by
        rw [← delivery.running running]
        exact List.mem_append_right _ held
      exact mem_dataFrames inside

/-- Two data frames arrive while there is room for one. -/
def burst : List (Action Unit) :=
  [.loop (.arm (.incoming (some (.ok (.binary [1]))))),
    .loop (.arm (.incoming (some (.ok (.binary [2])))))]

theorem inbound_in_order_burst :
    let s := (system .single Unit).follow (.create .single Unit) burst
    s.conn.pc.held = some (.binary [2]) ∧
      s.received ++ s.conn.rx.queue ++ s.conn.pc.held.toList = dataFrames s.conn.items := by
  refine ⟨by decide, ?_⟩
  exact (inbound_in_order ((system .single Unit).follow_reachable burst)).1 (by decide) (by decide)

/-- The steps that take an early return of `deliver_with_backpressure`. -/
def abandonsHeldFrame (s : System cfg E) : Action E → Bool
  | .loop move => s.conn.abandonsHeldFrame move
  | _ => false

/-- If no step gives up the frame that is held, all that was read has been delivered
by the end. -/
private theorem run_delivered {final : System cfg E} {trace : List (System cfg E × Action E)}
    (run : (system cfg E).Run (.create cfg E) trace final)
    (kept : ∀ state action, (state, action) ∈ trace → state.abandonsHeldFrame action = false)
    (ended : final.conn.pc.running = false) (alive : final.conn.rx.receiver.isSome) :
    final.conn.rx.sent = dataFrames final.conn.items := by
  have invariant : (system cfg E).Reachable final ∧ (final.conn.pc.running = false →
      final.conn.rx.receiver.isSome → final.conn.rx.sent = dataFrames final.conn.items) := by
    apply run.invariant_of kept
    · exact ⟨.initial, nofun⟩
    rintro s action t ⟨reached, before⟩ keeps step
    refine ⟨reached.next step, fun ended alive => ?_⟩
    have alive := receiver_of_step (step_rule step) alive
    cases pc : s.conn.pc with
    | leaving state stage =>
        obtain ⟨_, same⟩ := exited_step step pc
        rw [same.delivered, same.items]
        exact before (by rw [pc]; rfl) alive
    | select _ | sending _ _ | ponging | closing | keepalive _ =>
        rcases step_ledger step with ⟨move, rfl, moved⟩ | same
        · exact (delivery reached).left moved (by rw [pc]; rfl) ended alive keeps
        · rw [same.pc, pc] at ended
          cases ended
  exact invariant.2 ended alive

/-- A frame that was read and not delivered by the end stays undelivered. -/
private theorem run_short {middle final : System cfg E} {trace : List (System cfg E × Action E)}
    (run : (system cfg E).Run middle trace final) (ended : middle.conn.pc.running = false)
    (short : middle.conn.rx.sent ≠ dataFrames middle.conn.items) :
    final.conn.rx.sent ≠ dataFrames final.conn.items := by
  have invariant : final.conn.pc.running = false ∧
      final.conn.rx.sent ≠ dataFrames final.conn.items := by
    apply run.invariant
    · exact ⟨ended, short⟩
    rintro s action t ⟨ended, short⟩ step
    cases pc : s.conn.pc with
    | leaving state stage =>
        obtain ⟨⟨later, after⟩, same⟩ := exited_step step pc
        rw [after, same.delivered, same.items]
        exact ⟨rfl, short⟩
    | select _ | sending _ _ | ponging | closing | keepalive _ =>
        rw [pc] at ended
        cases ended
  exact invariant.2

/-- A run that has left the loop while the receive half is alive has lost no
frame, so that a consumer that is told of the end has received them all, if and
only if none of its steps was an early return of `deliver_with_backpressure`. -/
theorem no_frame_lost_iff {final : System cfg E} {trace : List (System cfg E × Action E)}
    (run : (system cfg E).Run (.create cfg E) trace final)
    (ended : final.conn.pc.running = false) (alive : final.conn.rx.receiver.isSome) :
    (final.received ++ final.conn.rx.queue = dataFrames final.conn.items ∧
        (final.ToldClosed → final.received = dataFrames final.conn.items)) ↔
      ∀ state action, (state, action) ∈ trace → state.abandonsHeldFrame action = false := by
  have reached : (system cfg E).Reachable final := ⟨trace, run⟩
  constructor
  · rintro ⟨whole, _⟩ state action member
    by_contra abandons
    have abandons : state.abandonsHeldFrame action = true := by simpa using abandons
    obtain ⟨front, back, target, _, before, step, after⟩ := run.split member
    cases action with
    | loop move =>
        have reached : (system cfg E).Reachable state := ⟨front, before⟩
        obtain ⟨conn, moved, rfl⟩ := Option.map_eq_some_iff.mp step
        obtain ⟨left, short⟩ := (delivery reached).abandoned (loopStep_rule moved) abandons
        rw [received_append_queue ⟨trace, run⟩ alive] at whole
        exact run_short after left short whole
    | start | advance | cancel | clone | split | reunite | drop => cases abandons
  · intro kept
    have delivered := run_delivered run kept ended alive
    refine ⟨(received_append_queue reached alive).trans delivered, fun told => ?_⟩
    rw [received_eq_taken reached, (drained_of_toldClosed reached told).taken]
    exact delivered

/-- With one frame in the channel and a second one held, an outgoing send fails. -/
def sendFailsWhileHolding : List (Action Unit) :=
  burst ++ [.start 0 (.sendRaw (.binary [3])), .advance 0, .loop (.arm .outgoing),
    .loop (.sink (.error ())), .loop .finish, .loop .finish, .loop .finish]

/-- The frame that was held is lost. -/
theorem frame_lost_when_send_fails :
    let final := (system .single Unit).follow (.create .single Unit) sendFailsWhileHolding
    (∃ trace, (system .single Unit).Run (.create .single Unit) trace final) ∧
      final.conn.pc = .leaving (.error .websocketClosed) .finished ∧
      final.conn.rx.receiver = some 0 ∧
      dataFrames final.conn.items = [.binary [1], .binary [2]] ∧
      final.received ++ final.conn.rx.queue = [.binary [1]] :=
  ⟨⟨_, (system .single Unit).run_steps _ sendFailsWhileHolding⟩, by decide, by decide, by decide,
    by decide⟩

/-- A second frame is held for the full rx channel, an outgoing message is written
meanwhile, and the frame is delivered once the first was received. The stream
ends; the consumer receives the second frame and is told so. -/
def receiveUntilEnd : List (Action Unit) :=
  burst ++ [.start 0 (.sendRaw (.binary [3])), .advance 0, .loop (.arm .outgoing),
    .loop (.sink (.ok ())), .advance 0, .start 0 .nextRawMessage, .advance 1,
    .loop (.arm .reserve), .loop (.arm (.incoming none)), .loop .finish, .loop .finish,
    .start 0 .nextRawMessage, .advance 2, .start 0 .nextRawMessage, .advance 3]

theorem no_frame_lost_iff_receiveUntilEnd :
    let final := (system .single Unit).follow (.create .single Unit) receiveUntilEnd
    final.received = [.binary [1], .binary [2]] ∧
      final.calls 3 = some ⟨.nextRawMessage, 0, .returned (.received (.error .websocketClosed))⟩ ∧
      final.received ++ final.conn.rx.queue = dataFrames final.conn.items := by
  refine ⟨by decide, rfl, ?_⟩
  have run := (system .single Unit).run_steps (.create .single Unit) receiveUntilEnd
  have kept : ∀ entry ∈ (system .single Unit).steps (.create .single Unit) receiveUntilEnd,
      entry.1.abandonsHeldFrame entry.2 = false := by decide
  exact ((no_frame_lost_iff run (by decide) (by decide)).mpr
    fun state action member => kept (state, action) member).1

end System

end Socketeer
