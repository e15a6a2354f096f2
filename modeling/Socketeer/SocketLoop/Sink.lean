import Socketeer.Foundation.Interleaving
import Socketeer.SocketLoop.Exit

/-! # What the loop writes

Every message passed to the sink is the message of a payload taken from the tx
channel, the answer to a ping that was read, or a keepalive
(`Connection.Accounted`). The first operation on the sink after which the loop
does not go on is the last one (`Connection.Orderly`).
-/

namespace Socketeer

open Foundation

variable {cfg : LoopConfig} {E : Type}

/-- The three occasions for passing a message to the sink. -/
inductive Source where
  | outgoing
  | pong
  | keepalive
  deriving DecidableEq, Repr

def Origin.source : Origin → Source
  | .outgoing _ => .outgoing
  | .pong => .pong
  | .keepalive => .keepalive

/-- What is sent for a caller is outgoing. -/
@[simp] theorem Origin.source_outgoing (responseTx : Option CallId) :
    (Origin.outgoing responseTx).source = .outgoing := rfl

@[simp] theorem Origin.source_pong : Origin.pong.source = .pong := rfl

@[simp] theorem Origin.source_keepalive : Origin.keepalive.source = .keepalive := rfl

namespace SinkOp

/-- The message passed to a completed `sink.send`. -/
def passed : SinkOp E → Option (Origin × Message)
  | .send origin message _ => some (origin, message)
  | .close _ => none

/-- A send has passed its message. -/
@[simp] theorem passed_send (origin : Origin) (message : Message) (result : Except E Unit) :
    passed (.send origin message result) = some (origin, message) := rfl

/-- Closing the sink passes no message of the loop. -/
@[simp] theorem passed_close (result : Except E Unit) : passed (.close result) = none := rfl

/-- Whether the operation was a send that succeeded. -/
def sent : SinkOp E → Bool
  | .send _ _ (.ok ()) => true
  | _ => false

end SinkOp

/-- The payload whose message was passed, for an outgoing message. -/
def payload? : Origin × Message → Option TxChannelPayload
  | (.outgoing responseTx, message) => some { message := message, responseTx := responseTx }
  | (.pong, _) | (.keepalive, _) => none

/-- An outgoing message has the payload it was taken with. -/
@[simp] theorem payload?_outgoing (responseTx : Option CallId) (message : Message) :
    payload? (.outgoing responseTx, message) =
      some { message := message, responseTx := responseTx } := rfl

/-- A pong is the message of no payload. -/
@[simp] theorem payload?_pong (message : Message) : payload? (.pong, message) = none := rfl

/-- A keepalive is the message of no payload. -/
@[simp] theorem payload?_keepalive (message : Message) : payload? (.keepalive, message) = none :=
  rfl

def isPing : StreamItem E → Bool
  | some (.ok (.ping _)) => true
  | _ => false

/-- The message passed to the `sink.send` that is awaited. -/
def LoopPc.passing (cfg : LoopConfig) : LoopPc E → Option (Origin × Message)
  | .sending payload _ => some (.outgoing payload.responseTx, payload.message)
  | .ponging => some (.pong, .pong Connection.pongBytes)
  | .keepalive _ => some (.keepalive, Connection.keepaliveMessage cfg.customKeepaliveMessage)
  | .select _ | .closing | .leaving _ _ => none

/-- A handler that has returned passes nothing on. -/
theorem LoopState.next_passing (state : LoopState E) (site : Site) :
    (state.next site).passing cfg = none := by
  cases state with
  | running | error _ | closed => rfl

namespace Connection

/-- Everything passed to `sink.send` so far. -/
def passed (s : Connection cfg E) : List (Origin × Message) :=
  s.sinkOps.filterMap SinkOp.passed ++ (s.pc.passing cfg).toList

/-- The messages passed on one occasion. -/
def passedBy (s : Connection cfg E) (source : Source) : List Message :=
  (s.passed.filter fun entry => entry.1.source = source).map Prod.snd

/-- Whether the last item read from the stream is a Close frame. -/
def ReadClose (s : Connection cfg E) : Prop :=
  ∃ frame, s.items.getLast? = some (some (.ok (.close frame)))

/-- Where the messages passed to the sink come from. -/
structure Accounted (s : Connection cfg E) : Prop where
  outgoing : s.passed.filterMap payload? = s.tx.taken
  pongs : s.passedBy .pong =
    List.replicate (s.items.countP isPing) (.pong [112, 111, 110, 103])
  keepalives : ∀ message ∈ s.passedBy .keepalive,
    message = cfg.customKeepaliveMessage.getD (.ping []) ∧ cfg.keepaliveInterval.isSome

/-- A keepalive is the message it is configured with, or an empty ping. -/
theorem keepaliveMessage_eq (custom : Option Message) :
    keepaliveMessage custom = custom.getD (.ping []) := by
  cases custom with
  | none | some message => rfl

/-- When the loop stops writing. -/
structure Orderly (s : Connection cfg E) : Prop where
  running : s.pc.running = true → ∀ op ∈ s.sinkOps, op.sent = true
  left : ∀ op ∈ s.sinkOps.dropLast, op.sent = true
  closing : s.pc = .closing → s.ReadClose
  closed : ∀ result, .close result ∈ s.sinkOps → s.ReadClose

variable {s t : Connection cfg E} {action : LoopAction E}

/-- A step of the task passes on what it then awaits, and nothing else. -/
theorem LoopStep.passed (step : s.LoopStep action t) :
    t.passed = s.passed ++ (t.pc.passing cfg).toList := by
  unfold Connection.passed
  cases step with
  | outgoing here | sendersGone here | ping here | close here | skip here | streamError here
  | streamEnd here | deliver here | refuse here | hold here | release here | abandon here
  | sleep here | record here | dropSender here | dropReceiver here =>
      rw [here]
      simp [LoopPc.passing]
  | sentUnconfirmed here unconfirmed =>
      rw [here, LoopState.next_passing]
      simp [LoopPc.passing, unconfirmed]
  | sentConfirmed here confirmed listening =>
      rw [here, LoopState.next_passing]
      simp [LoopPc.passing, confirmed]
  | sentUnheard here confirmed cancelled =>
      rw [here]
      simp [LoopPc.passing, confirmed]
  | ponged here | sinkClosed here | keptAlive here =>
      rw [here, LoopState.next_passing]
      simp [LoopPc.passing]

/-- A payload is taken from the tx channel in order to be passed on. -/
theorem LoopStep.popped (step : s.LoopStep action t) :
    t.tx.taken = s.tx.taken ++ (t.pc.passing cfg).toList.filterMap payload? := by
  cases step with
  | outgoing here received => exact received.taken
  | sentUnconfirmed here | sentConfirmed here | ponged here | sinkClosed here | keptAlive here =>
      rw [LoopState.next_passing]
      exact (List.append_nil _).symm
  | sendersGone | ping | close | skip | streamError | streamEnd | deliver | refuse | hold | release
  | abandon | sleep | sentUnheard | record | dropSender | dropReceiver =>
      exact (List.append_nil _).symm

/-- A ping is read in order to be answered. -/
theorem LoopStep.pinged (step : s.LoopStep action t) :
    t.items.countP isPing =
      s.items.countP isPing + if (t.pc.passing cfg).any (·.1.source = .pong) then 1 else 0 := by
  cases step with
  | ping here => simp [isPing, LoopPc.passing, List.countP_append]
  | close here | streamError here | streamEnd here =>
      simp [isPing, LoopPc.passing, List.countP_append]
  | skip here skipped =>
      rcases skipped with ⟨payload, rfl⟩ | ⟨raw, rfl⟩ <;>
        simp [isPing, LoopPc.passing, List.countP_append]
  | deliver here data | refuse here data | hold here data =>
      obtain ⟨_, ⟨payload, rfl⟩ | ⟨payload, rfl⟩⟩ := Message.data?_eq_some data <;>
        simp [isPing, LoopPc.passing, List.countP_append]
  | sentUnconfirmed here | sentConfirmed here | ponged here | sinkClosed here | keptAlive here =>
      rw [LoopState.next_passing]
      rfl
  | outgoing | sendersGone | release | abandon | sleep | sentUnheard | record | dropSender
  | dropReceiver => rfl

/-- The timer exists with a keepalive interval only. -/
theorem LoopStep.timed (step : s.LoopStep action t) {site : Site}
    (keepalive : t.pc = .keepalive site) : cfg.keepaliveInterval.isSome := by
  have passing := congrArg (LoopPc.passing cfg) keepalive
  cases step with
  | sleep here timed => rw [timed]; rfl
  | sentUnconfirmed here | sentConfirmed here | ponged here | sinkClosed here | keptAlive here =>
      rw [LoopState.next_passing] at passing
      cases passing
  | outgoing | sendersGone | ping | close | skip | streamError | streamEnd | deliver | refuse | hold
  | release | abandon | sentUnheard | record | dropSender | dropReceiver => cases keepalive

theorem Accounted.create (cfg : LoopConfig) (E : Type) (handle : HandleId) :
    Accounted (.create cfg E handle) :=
  ⟨rfl, rfl, nofun⟩

/-- What a step passes on, of one kind. -/
private theorem LoopStep.passedBy (step : s.LoopStep action t) (source : Source) :
    t.passedBy source = s.passedBy source ++
      ((t.pc.passing cfg).toList.filter fun entry => entry.1.source = source).map Prod.snd := by
  unfold Connection.passedBy
  rw [step.passed, List.filter_append, List.map_append]

/-- The account is kept by every step of the task. -/
theorem Accounted.loopStep (accounted : Accounted s) (step : s.LoopStep action t) :
    Accounted t := by
  constructor
  · rw [step.passed, List.filterMap_append, accounted.outgoing, step.popped]
  · rw [step.passedBy, step.pinged, accounted.pongs]
    cases pc : t.pc with
    | ponging => simp [LoopPc.passing, pongBytes, List.replicate_succ']
    | select _ | sending _ _ | closing | keepalive _ | leaving _ _ =>
        simp [LoopPc.passing]
  · intro message member
    rw [step.passedBy] at member
    rcases List.mem_append.mp member with before | new
    · exact accounted.keepalives message before
    · cases pc : t.pc with
      | keepalive site =>
          rw [pc] at new
          have same : message = keepaliveMessage cfg.customKeepaliveMessage := by
            simpa [LoopPc.passing] using new
          exact ⟨same.trans (keepaliveMessage_eq _), step.timed pc⟩
      | select _ | sending _ _ | ponging | closing | leaving _ _ =>
          rw [pc] at new
          simp [LoopPc.passing] at new

/-- The account is the task's alone. -/
theorem Accounted.frame (accounted : Accounted s) (same : SameLedger s t) : Accounted t := by
  have passed : t.passed = s.passed := by
    rw [Connection.passed, same.sinkOps, same.pc, Connection.passed]
  constructor
  · rw [passed, same.popped, accounted.outgoing]
  · rw [Connection.passedBy, passed, same.items]
    exact accounted.pongs
  · rw [Connection.passedBy, passed]
    exact accounted.keepalives

theorem Orderly.create (cfg : LoopConfig) (E : Type) (handle : HandleId) :
    Orderly (.create cfg E handle) :=
  ⟨nofun, nofun, nofun, nofun⟩

/-- The sink is not closed while the loop is running. -/
theorem Orderly.open (orderly : Orderly s) (running : s.pc.running = true)
    (result : Except E Unit) : SinkOp.close result ∉ s.sinkOps := by
  intro member
  have sent := orderly.running running _ member
  cases sent

/-- A step of the running loop that completes no operation on the sink. -/
private theorem Orderly.move (orderly : Orderly s) (running : s.pc.running = true)
    (sinkOps : t.sinkOps = s.sinkOps) (closing : t.pc = .closing → t.ReadClose) : Orderly t := by
  constructor
  · rw [sinkOps]
    exact fun _ => orderly.running running
  · rw [sinkOps]
    exact orderly.left
  · exact closing
  · intro result member
    rw [sinkOps] at member
    exact absurd member (orderly.open running result)

/-- The end of an operation on the sink. -/
private theorem Orderly.complete (orderly : Orderly s) (running : s.pc.running = true)
    {op : SinkOp E} (sinkOps : t.sinkOps = s.sinkOps ++ [op])
    (sent : t.pc.running = true → op.sent = true) (next : t.pc ≠ .closing)
    (closed : ∀ result, op = .close result → t.ReadClose) : Orderly t := by
  have before := orderly.running running
  constructor
  · intro running op' member
    rw [sinkOps] at member
    rcases List.mem_append.mp member with earlier | last
    · exact before op' earlier
    · rw [List.mem_singleton.mp last]
      exact sent running
  · rw [sinkOps, List.dropLast_concat]
    exact before
  · exact fun closing => absurd closing next
  · intro result member
    rw [sinkOps] at member
    rcases List.mem_append.mp member with earlier | last
    · exact absurd earlier (orderly.open running result)
    · exact closed result (List.mem_singleton.mp last).symm

/-- A step of the way out. -/
private theorem Orderly.leave (orderly : Orderly s) (sinkOps : t.sinkOps = s.sinkOps)
    (items : t.items = s.items) (left : t.pc.running = false) : Orderly t := by
  constructor
  · intro running
    rw [left] at running
    cases running
  · rw [sinkOps]
    exact orderly.left
  · intro closing
    rw [closing] at left
    cases left
  · intro result
    rw [sinkOps, ReadClose, items]
    exact orderly.closed result

/-- No handler returns into the call of `sink.close`. -/
theorem LoopState.next_ne_closing (state : LoopState E) (site : Site) :
    state.next site ≠ .closing := by
  cases state with
  | running | error _ | closed => nofun

/-- A step of the task goes on writing only after a success. -/
theorem Orderly.loopStep (orderly : Orderly s) (step : s.LoopStep action t) : Orderly t := by
  cases step with
  | outgoing here | sendersGone here | ping here | skip here | streamError here | streamEnd here
  | deliver here | refuse here | hold here | release here | abandon here | sleep here =>
      exact orderly.move (by rw [here]; rfl) rfl nofun
  | @close frame here =>
      refine orderly.move (by rw [here]; rfl) rfl fun _ => ⟨frame, ?_⟩
      exact List.getLast?_concat
  | @sentUnconfirmed payload site result here | @sentConfirmed payload site call result here =>
      refine orderly.complete (by rw [here]; rfl) rfl (fun running => ?_)
        (LoopState.next_ne_closing _ _) nofun
      cases result with
      | ok _ => rfl
      | error _ => cases running
  | sentUnheard here => exact orderly.complete (by rw [here]; rfl) rfl nofun nofun nofun
  | @ponged result here | @keptAlive site result here =>
      refine orderly.complete (by rw [here]; rfl) rfl (fun running => ?_)
        (LoopState.next_ne_closing _ _) nofun
      cases result with
      | ok _ => rfl
      | error _ => cases running
  | @sinkClosed result here =>
      refine orderly.complete (by rw [here]; rfl) rfl (fun running => ?_)
        (LoopState.next_ne_closing _ _) fun _ _ => orderly.closing here
      cases result with
      | ok _ => cases running
      | error _ => cases running
  | record | dropSender | dropReceiver => exact orderly.leave rfl rfl rfl

/-- The order of the writes is the task's alone. -/
theorem Orderly.frame (orderly : Orderly s) (same : SameLedger s t) : Orderly t := by
  constructor
  · rw [same.pc, same.sinkOps]
    exact orderly.running
  · rw [same.sinkOps]
    exact orderly.left
  · rw [same.pc, ReadClose, same.items]
    exact orderly.closing
  · rw [same.sinkOps, ReadClose, same.items]
    exact orderly.closed

end Connection

end Socketeer
