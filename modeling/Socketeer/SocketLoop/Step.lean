import Socketeer.SocketLoop.Connection

/-! # What a step of the socket loop can do

Every step of the task falls under one of the rules of `Connection.LoopStep`,
which say when it is possible and what it changes. Later results about the loop
go through these rules and never unfold the step function. The steps of the
handles keep what only the task changes (`Connection.SameLedger`).
-/

namespace Socketeer

open Foundation

variable {cfg : LoopConfig} {E : Type}

namespace Connection

/-- The rules of the task. -/
inductive LoopStep (s : Connection cfg E) : LoopAction E → Connection cfg E → Prop where
  | outgoing {site payload tx} (atSelect : s.pc = .select site)
      (received : s.tx.Received payload tx) :
      LoopStep s (.arm .outgoing) { s with tx := tx, pc := .sending payload site }
  | sendersGone {site} (atSelect : s.pc = .select site) (empty : s.tx.queue = [])
      (gone : s.tx.senders = ∅) :
      LoopStep s (.arm .outgoing)
        { s with pc := .leaving (.error .socketeerDroppedWithoutClosing) .recording }
  | ping {payload} (atSelect : s.pc = .select .outer) :
      LoopStep s (.arm (.incoming (some (.ok (.ping payload)))))
        { s with items := s.items ++ [some (.ok (.ping payload))], pc := .ponging }
  | close {frame} (atSelect : s.pc = .select .outer) :
      LoopStep s (.arm (.incoming (some (.ok (.close frame)))))
        { s with items := s.items ++ [some (.ok (.close frame))], pc := .closing }
  | skip {message} (atSelect : s.pc = .select .outer)
      (skipped : (∃ payload, message = .pong payload) ∨ ∃ raw, message = .frame raw) :
      LoopStep s (.arm (.incoming (some (.ok message))))
        { s with items := s.items ++ [some (.ok message)], pc := .select .outer }
  | streamError {e} (atSelect : s.pc = .select .outer) :
      LoopStep s (.arm (.incoming (some (.error e))))
        { s with
          items := s.items ++ [some (.error e)]
          pc := .leaving (.error (.websocketError e)) .recording }
  | streamEnd (atSelect : s.pc = .select .outer) :
      LoopStep s (.arm (.incoming none))
        { s with
          items := s.items ++ [none]
          pc := .leaving (.error .websocketClosed) .recording }
  | deliver {frame rx} (atSelect : s.pc = .select .outer) (data : frame.data? = some frame)
      (accepted : s.rx.Accepted frame rx) :
      LoopStep s (.arm (.incoming (some (.ok frame))))
        { s with items := s.items ++ [some (.ok frame)], rx := rx, pc := .select .outer }
  | refuse {frame} (atSelect : s.pc = .select .outer) (data : frame.data? = some frame)
      (gone : s.rx.receiver = none) :
      LoopStep s (.arm (.incoming (some (.ok frame))))
        { s with
          items := s.items ++ [some (.ok frame)]
          pc := .leaving (.error .socketeerDroppedWithoutClosing) .recording }
  | hold {frame} (atSelect : s.pc = .select .outer) (data : frame.data? = some frame)
      (held : s.rx.receiver.isSome) (full : cfg.channelSize ≤ s.rx.queue.length) :
      LoopStep s (.arm (.incoming (some (.ok frame))))
        { s with
          items := s.items ++ [some (.ok frame)]
          pc := .select (.backpressure frame) }
  | release {frame rx} (atSelect : s.pc = .select (.backpressure frame))
      (accepted : s.rx.Accepted frame rx) :
      LoopStep s (.arm .reserve) { s with rx := rx, pc := .select .outer }
  | abandon {frame} (atSelect : s.pc = .select (.backpressure frame))
      (gone : s.rx.receiver = none) :
      LoopStep s (.arm .reserve)
        { s with pc := .leaving (.error .socketeerDroppedWithoutClosing) .recording }
  | sleep {site interval} (atSelect : s.pc = .select site)
      (timed : cfg.keepaliveInterval = some interval) :
      LoopStep s (.arm .sleep) { s with pc := .keepalive site }
  | sentUnconfirmed {payload site result} (awaiting : s.pc = .sending payload site)
      (unconfirmed : payload.responseTx = none) :
      LoopStep s (.sink result)
        { s with
          sinkOps := s.sinkOps ++ [.send (.outgoing none) payload.message result]
          pc := (sendSocketMessageState (result.mapError .websocketError) true).next site }
  | sentConfirmed {payload site call result} (awaiting : s.pc = .sending payload site)
      (confirmed : payload.responseTx = some call)
      (listening : (s.oneshots call).receiverDropped = false) :
      LoopStep s (.sink result)
        { s with
          sinkOps := s.sinkOps ++ [.send (.outgoing (some call)) payload.message result]
          oneshots := Function.update s.oneshots call
            ((s.oneshots call).fill (result.mapError .websocketError))
          pc := (sendSocketMessageState (result.mapError .websocketError) true).next site }
  | sentUnheard {payload site call result} (awaiting : s.pc = .sending payload site)
      (confirmed : payload.responseTx = some call)
      (cancelled : (s.oneshots call).receiverDropped = true) :
      LoopStep s (.sink result)
        { s with
          sinkOps := s.sinkOps ++ [.send (.outgoing (some call)) payload.message result]
          oneshots := Function.update s.oneshots call (s.oneshots call).dropSender
          pc := .leaving (.error .socketeerDroppedWithoutClosing) .recording }
  | ponged {result} (awaiting : s.pc = .ponging) :
      LoopStep s (.sink result)
        { s with
          sinkOps := s.sinkOps ++ [.send .pong (.pong pongBytes) result]
          pc := (sendState result).next .outer }
  | sinkClosed {result} (awaiting : s.pc = .closing) :
      LoopStep s (.sink result)
        { s with
          sinkOps := s.sinkOps ++ [.close result]
          pc := (closeState result).next .outer }
  | keptAlive {site result} (awaiting : s.pc = .keepalive site) :
      LoopStep s (.sink result)
        { s with
          sinkOps := s.sinkOps ++
            [.send .keepalive (keepaliveMessage cfg.customKeepaliveMessage) result]
          pc := (sendState result).next site }
  | record {state} (leaving : s.pc = .leaving state .recording) :
      LoopStep s .finish
        { s with
          terminalError := recordTerminal state s.terminalError
          pc := .leaving state .droppingSender }
  | dropSender {state} (leaving : s.pc = .leaving state .droppingSender) :
      LoopStep s .finish
        { s with rx := s.rx.dropSender (), pc := .leaving state .droppingReceiver }
  | dropReceiver {state} (leaving : s.pc = .leaving state .droppingReceiver) :
      LoopStep s .finish
        { s with
          tx := s.tx.dropReceiver
          oneshots := dropPayloads s.tx.queue s.oneshots
          pc := .leaving state .finished }

/-- What has happened to the inbound side and at the sink is the same in both. -/
structure SameHistory (s t : Connection cfg E) : Prop where
  delivered : t.rx.sent = s.rx.sent
  popped : t.tx.taken = s.tx.taken
  items : t.items = s.items
  sinkOps : t.sinkOps = s.sinkOps

/-- What only the task changes is the same in both. -/
structure SameLedger (s t : Connection cfg E) : Prop extends SameHistory s t where
  pc : t.pc = s.pc
  rxSenders : t.rx.senders = s.rx.senders
  txReceiver : t.tx.receiver = s.tx.receiver

variable {s t : Connection cfg E}

theorem SameLedger.refl (s : Connection cfg E) : SameLedger s s :=
  ⟨⟨rfl, rfl, rfl, rfl⟩, rfl, rfl, rfl⟩

theorem SameLedger.trans {u : Connection cfg E} (first : SameLedger s t)
    (second : SameLedger t u) : SameLedger s u where
  delivered := second.delivered.trans first.delivered
  popped := second.popped.trans first.popped
  items := second.items.trans first.items
  sinkOps := second.sinkOps.trans first.sinkOps
  pc := second.pc.trans first.pc
  rxSenders := second.rxSenders.trans first.rxSenders
  txReceiver := second.txReceiver.trans first.txReceiver

/-- The outgoing arm, at either `select!`, by rules. -/
private theorem recvOutgoing_step {site : Site} (atSelect : s.pc = .select site)
    (step : s.recvOutgoing site = some t) : LoopStep s (.arm .outgoing) t := by
  unfold recvOutgoing at step
  split at step
  · rename_i payload tx received
    cases step
    exact .outgoing atSelect (Channel.recv_ready_some received)
  · rename_i received
    cases step
    obtain ⟨empty, gone⟩ := Channel.recv_ready_none_iff.mp received
    exact .sendersGone atSelect empty gone
  · cases step

/-- The timer's arm, at either `select!`, by rules. -/
private theorem sendKeepalive_step {site : Site} (atSelect : s.pc = .select site)
    (step : s.sendKeepalive site = some t) : LoopStep s (.arm .sleep) t := by
  unfold sendKeepalive at step
  split at step
  · rename_i interval timed
    cases step
    exact .sleep atSelect timed
  · cases step

/-- What becomes of a data frame that was read, by rules. -/
private theorem deliver_step (frame : Message) (atSelect : s.pc = .select .outer)
    (data : frame.data? = some frame) :
    LoopStep s (.arm (.incoming (some (.ok frame))))
      (deliverWithBackpressure { s with items := s.items ++ [some (.ok frame)] } frame) := by
  unfold deliverWithBackpressure
  split
  · rename_i rx sends
    exact .deliver atSelect data (Channel.send_ready_some sends)
  · rename_i sends
    exact .refuse atSelect data (Channel.send_ready_none_iff.mp sends)
  · rename_i sends
    obtain ⟨held, full⟩ := Channel.send_pending_iff.mp sends
    exact .hold atSelect data held full

/-- A turn of the outer loop, by rules. -/
private theorem socketLoopSplit_step {arm : Arm E} (atSelect : s.pc = .select .outer)
    (step : s.socketLoopSplit arm = some t) : LoopStep s (.arm arm) t := by
  cases arm with
  | outgoing => exact recvOutgoing_step atSelect step
  | sleep => exact sendKeepalive_step atSelect step
  | reserve => cases step
  | incoming item =>
      match item, step with
      | some (.ok (.ping payload)), rfl => exact .ping atSelect
      | some (.ok (.close frame)), rfl => exact .close atSelect
      | some (.ok (.pong payload)), rfl => exact .skip atSelect (.inl ⟨_, rfl⟩)
      | some (.ok (.frame raw)), rfl => exact .skip atSelect (.inr ⟨_, rfl⟩)
      | some (.ok (.text payload)), rfl => exact deliver_step (.text payload) atSelect rfl
      | some (.ok (.binary payload)), rfl => exact deliver_step (.binary payload) atSelect rfl
      | some (.error e), rfl => exact .streamError atSelect
      | none, rfl => exact .streamEnd atSelect

/-- A turn of the backpressure loop, by rules. -/
private theorem turn_step {arm : Arm E} {frame : Message}
    (atSelect : s.pc = .select (.backpressure frame))
    (step : deliverWithBackpressure.turn s frame arm = some t) : LoopStep s (.arm arm) t := by
  cases arm with
  | outgoing => exact recvOutgoing_step atSelect step
  | sleep => exact sendKeepalive_step atSelect step
  | incoming item => cases step
  | reserve =>
      simp only [deliverWithBackpressure.turn] at step
      split at step
      · rename_i rx sends
        cases step
        exact .release atSelect (Channel.send_ready_some sends)
      · rename_i sends
        cases step
        exact .abandon atSelect (Channel.send_ready_none_iff.mp sends)
      · cases step

/-- The end of a write for a caller, by rules. -/
private theorem resume_step {payload : TxChannelPayload} {site : Site} {result : Except E Unit}
    (awaiting : s.pc = .sending payload site) :
    LoopStep s (.sink result) (sendSocketMessage.resume s payload site result) := by
  unfold sendSocketMessage.resume
  cases confirmed : payload.responseTx with
  | none => exact .sentUnconfirmed awaiting confirmed
  | some call =>
      cases cancelled : (s.oneshots call).receiverDropped with
      | false =>
          simp only [Oneshot.send_of_listening cancelled]
          exact .sentConfirmed awaiting confirmed cancelled
      | true =>
          simp only [Oneshot.send_of_dropped cancelled]
          exact .sentUnheard awaiting confirmed cancelled

/-- Every step of the task falls under a rule. -/
theorem loopStep_rule {action : LoopAction E} (step : s.loopStep action = some t) :
    LoopStep s action t := by
  cases action with
  | arm arm =>
      simp only [loopStep] at step
      split at step
      · rename_i atSelect
        exact socketLoopSplit_step atSelect step
      · rename_i frame atSelect
        exact turn_step atSelect step
      · cases step
  | sink result =>
      simp only [loopStep] at step
      split at step
      · rename_i payload site awaiting
        cases step
        exact resume_step awaiting
      · rename_i awaiting
        cases step
        exact .ponged awaiting
      · rename_i awaiting
        cases step
        exact .sinkClosed awaiting
      · rename_i site awaiting
        cases step
        exact .keptAlive awaiting
      · cases step
  | finish =>
      simp only [loopStep] at step
      split at step
      · rename_i state stage leaving
        cases stage with
        | recording => cases step; exact .record leaving
        | droppingSender => cases step; exact .dropSender leaving
        | droppingReceiver => cases step; exact .dropReceiver leaving
        | finished => cases step
      · cases step

end Connection

end Socketeer
