import Socketeer.Handles.Unanswered

/-! # Outgoing messages while nothing is received

At either `select!` the task can write all that is queued, one payload in each
turn, whatever the state of the rx channel.
-/

namespace Socketeer

open Foundation

variable {cfg : LoopConfig} {E : Type}

namespace Connection

variable {s : Connection cfg E}

/-- The operation that a payload is written with. -/
def write (payload : TxChannelPayload) : SinkOp E :=
  .send (.outgoing payload.responseTx) payload.message (.ok ())

/-- At either `select!` the next payload can be taken. -/
theorem loopStep_outgoing {site : Site} (atSelect : s.pc = .select site)
    {payload : TxChannelPayload} {rest : List TxChannelPayload}
    (queued : s.tx.queue = payload :: rest) :
    ∃ tx, s.tx.Received payload tx ∧
      s.loopStep (.arm .outgoing) = some { s with tx := tx, pc := .sending payload site } := by
  obtain ⟨tx, received⟩ := Channel.recv_of_queue queued
  refine ⟨tx, Channel.recv_ready_some received, ?_⟩
  cases site with
  | outer =>
      simp [loopStep, atSelect, socketLoopSplit, recvOutgoing, received, sendSocketMessage]
  | backpressure frame =>
      simp [loopStep, atSelect, deliverWithBackpressure.turn, recvOutgoing, received,
        sendSocketMessage]

/-- A write that succeeds is reported to the caller who listens, and takes the
task back to its `select!`. -/
theorem loopStep_written {payload : TxChannelPayload} {site : Site}
    (sending : s.pc = .sending payload site)
    (listening : ∀ call, payload.responseTx = some call →
      (s.oneshots call).receiverDropped = false) :
    ∃ oneshots : CallId → Oneshot (Except (Error E) Unit),
      s.loopStep (.sink (.ok ())) = some { s with
        sinkOps := s.sinkOps ++ [write payload]
        oneshots := oneshots
        pc := .select site } ∧
      (∀ call, payload.responseTx = some call → (oneshots call).value = some (.ok ())) ∧
      ∀ call, (s.oneshots call).value = some (.ok ()) → (oneshots call).value = some (.ok ()) := by
  cases confirmed : payload.responseTx with
  | none =>
      refine ⟨s.oneshots, ?_, nofun, fun _ => id⟩
      simp [loopStep, sending, sendSocketMessage.resume, confirmed, recorded, write, goto,
        sendSocketMessageState, Except.mapError, LoopState.next]
  | some call =>
      refine ⟨Function.update s.oneshots call ((s.oneshots call).fill (.ok ())), ?_, ?_, ?_⟩
      · simp [loopStep, sending, sendSocketMessage.resume, confirmed, recorded, write, goto,
          Oneshot.send_of_listening (listening call confirmed), sendSocketMessageState,
          Except.mapError, LoopState.next]
      · intro other same
        obtain rfl := Option.some.inj same
        rw [Function.update_self]
        rfl
      · intro other answered
        by_cases mine : other = call
        · rw [mine, Function.update_self]
          rfl
        · rwa [Function.update_of_ne mine]

end Connection

namespace System

open Connection

/-- One turn of the loop that takes a payload and writes it. -/
def writingTurn : List (Action E) :=
  [.loop (.arm .outgoing), .loop (.sink (.ok ()))]

/-- The first of the queued payloads have been written in order and reported,
and the inbound side is as it was. -/
structure Flushed (payloads : List TxChannelPayload) (s t : System cfg E) : Prop where
  queue : s.conn.tx.queue = payloads ++ t.conn.tx.queue
  written : t.conn.sinkOps = s.conn.sinkOps ++ payloads.map write
  answered : ∀ payload ∈ payloads, ∀ call, payload.responseTx = some call →
    (t.conn.oneshots call).value = some (.ok ())
  kept : ∀ call, (s.conn.oneshots call).value = some (.ok ()) →
    (t.conn.oneshots call).value = some (.ok ())
  rx : t.conn.rx = s.conn.rx
  items : t.conn.items = s.conn.items
  pc : t.conn.pc = s.conn.pc
  calls : t.calls = s.calls
  reads : t.slotReads = s.slotReads

theorem Flushed.nil (s : System cfg E) : Flushed [] s s where
  queue := rfl
  written := (List.append_nil _).symm
  answered _ member := nomatch member
  kept _ := id
  rx := rfl
  items := rfl
  pc := rfl
  calls := rfl
  reads := rfl

variable {s t : System cfg E}

/-- Payloads are written one after the other. -/
theorem Flushed.append {first second : List TxChannelPayload} {middle : System cfg E}
    (before : Flushed first s middle) (after : Flushed second middle t) :
    Flushed (first ++ second) s t where
  queue := by rw [before.queue, after.queue, List.append_assoc]
  written := by rw [after.written, before.written, List.map_append, List.append_assoc]
  answered payload member call confirmed := by
    rcases List.mem_append.mp member with early | late
    · exact after.kept call (before.answered payload early call confirmed)
    · exact after.answered payload late call confirmed
  kept call := after.kept call ∘ before.kept call
  rx := after.rx.trans before.rx
  items := after.items.trans before.items
  pc := after.pc.trans before.pc
  calls := after.calls.trans before.calls
  reads := after.reads.trans before.reads

/-- None of the queued payloads has a caller who was cancelled. -/
def Wanted (s : System cfg E) : Prop :=
  ∀ payload ∈ s.conn.tx.queue, ∀ call, payload.responseTx = some call →
    (s.calls call).any Call.isCancelled = false

/-- The turn that writes the first of the queued payloads. -/
private theorem writingTurn_run (reached : (system cfg E).Reachable s) (wanted : s.Wanted)
    {site : Site} (atSelect : s.conn.pc = .select site) {payload : TxChannelPayload}
    {rest : List TxChannelPayload} (queued : s.conn.tx.queue = payload :: rest) :
    ∃ trace t, (system cfg E).Run s trace t ∧ trace.map Prod.snd = writingTurn ∧
      Flushed [payload] s t := by
  obtain ⟨tx, received, takes⟩ := loopStep_outgoing atSelect queued
  have listening : ∀ call, payload.responseTx = some call →
      (s.conn.oneshots call).receiverDropped = false := by
    intro call confirmed
    have kept := wanted payload (by rw [queued]; exact List.mem_cons_self) call confirmed
    by_contra dropped
    rw [(hungUp_iff reached call).mp (by simpa using dropped)] at kept
    cases kept
  let awaiting : Connection cfg E := { s.conn with tx := tx, pc := .sending payload site }
  obtain ⟨oneshots, writes, answered, kept⟩ := loopStep_written (s := awaiting) rfl listening
  let back : Connection cfg E := { awaiting with
    sinkOps := awaiting.sinkOps ++ [write payload]
    oneshots := oneshots
    pc := .select site }
  refine ⟨_, { s with conn := back },
    ((Machine.Run.nil s).snoc (step_loop takes)).snoc (step_loop (s := { s with conn := awaiting })
      writes), rfl, ?_⟩
  constructor
  case queue => exact received.queue
  case answered =>
    intro payload' member
    rw [List.mem_singleton.mp member]
    exact answered
  case kept => exact kept
  case pc => exact atSelect.symm
  all_goals rfl

/-- Whatever the rx channel holds and whoever reads it, the task can write all
that is queued, in as many turns as there are payloads, and be back where it
was. -/
theorem backlog_flushes (reached : (system cfg E).Reachable s) {site : Site}
    (atSelect : s.conn.pc = .select site) (wanted : s.Wanted) :
    ∃ trace t, (system cfg E).Run s trace t ∧
      trace.map Prod.snd = (List.replicate s.conn.tx.queue.length writingTurn).flatten ∧
      t.conn.tx.queue = [] ∧ Flushed s.conn.tx.queue s t := by
  induction queued : s.conn.tx.queue generalizing s with
  | nil => exact ⟨[], s, .nil s, rfl, queued, .nil s⟩
  | cons payload rest ih =>
      obtain ⟨front, middle, first, turn, written⟩ :=
        writingTurn_run reached wanted atSelect queued
      obtain ⟨before, run⟩ := reached
      have queue : rest = middle.conn.tx.queue :=
        (List.cons.inj (queued.symm.trans written.queue)).2
      have later : middle.Wanted := by
        intro payload' member
        rw [written.calls]
        refine wanted payload' ?_
        rw [written.queue]
        exact List.mem_append_right _ member
      obtain ⟨back, t, second, turns, empty, flushed⟩ :=
        ih ⟨_, run.append first⟩ (written.pc.trans atSelect) later queue.symm
      refine ⟨front ++ back, t, first.append second, ?_, empty, written.append flushed⟩
      rw [List.map_append, turn, turns]
      rfl

/-- A frame is held for the full rx channel while the payload of a waiting
caller and one that nobody waits for are queued. -/
def queuedBehindHeld : List (Action Unit) :=
  [.split 0 1, .loop (.arm (.incoming (some (.ok (.binary [1]))))),
    .loop (.arm (.incoming (some (.ok (.binary [2]))))),
    .loop (.arm (.incoming (some (.ok (.binary [3]))))), .start 0 (.sendRaw (.binary [4])),
    .start 0 (.sendRawUnconfirmed (.binary [5])), .advance 0, .advance 1]

theorem backlog_flushes_queuedBehindHeld :
    let s := (system .double Unit).follow (.create .double Unit) queuedBehindHeld
    s.conn.pc = .select (.backpressure (.binary [3])) ∧
      s.conn.tx.queue = [⟨.binary [4], some 0⟩, ⟨.binary [5], none⟩] ∧
      ∃ trace t, (system .double Unit).Run s trace t ∧
        trace.map Prod.snd = writingTurn ++ writingTurn ∧ t.conn.tx.queue = [] ∧
        Flushed s.conn.tx.queue s t := by
  intro s
  have reached : (system .double Unit).Reachable s :=
    (system .double Unit).follow_reachable queuedBehindHeld
  have atSelect : s.conn.pc = .select (.backpressure (.binary [3])) := by decide
  have queued : s.conn.tx.queue = [⟨.binary [4], some 0⟩, ⟨.binary [5], none⟩] := by decide
  have wanted : s.Wanted := by
    intro payload member call confirmed
    rw [queued] at member
    rcases List.mem_cons.mp member with rfl | last
    · obtain rfl := Option.some.inj confirmed
      rfl
    · obtain rfl := List.mem_singleton.mp last
      cases confirmed
  exact ⟨atSelect, queued, backlog_flushes reached atSelect wanted⟩

end System

end Socketeer
