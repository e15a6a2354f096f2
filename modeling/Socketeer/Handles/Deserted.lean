import Mathlib.Algebra.GroupWithZero.Nat
import Socketeer.Handles.Feed

/-! # After the last sender

A task does not outlive its senders for long. Once none is left, nothing more is
queued, the tx channel always has an answer for the task, and each turn that
takes it up brings the task nearer to its end. With the receive half gone too,
every data frame ends the loop (`System.outlives_senders`).
-/

namespace Socketeer

open Foundation

variable {cfg : LoopConfig} {E : Type}

/-- Only a call that does not receive has a payload. -/
theorem Op.receives_of_payload {op : Op} {call : CallId} {payload : TxChannelPayload}
    (enqueues : op.payload call = some payload) : op.receives = false := by
  cases op with
  | sendRaw _ | sendRawUnconfirmed _ | close | closeConnection | reconnect => rfl
  | nextRawMessage | pollNext => cases enqueues

namespace Connection

/-- One for a turn in which the task takes up the answer of the tx channel. -/
def LoopAction.draws : LoopAction E → Nat
  | .arm .outgoing => 1
  | .arm .reserve | .arm .sleep | .arm (.incoming _) | .sink _ | .finish => 0

/-- One for a turn that has a data frame for the rx channel. -/
def LoopAction.delivers : LoopAction E → Nat
  | .arm .reserve => 1
  | .arm (.incoming (some (.ok frame))) => frame.data?.isSome.toNat
  | .arm (.incoming (some (.error _))) | .arm (.incoming none) | .arm .outgoing | .arm .sleep
  | .sink _ | .finish => 0

/-- How many answers of the tx channel the task can still take up: a payload
each, and at last that there is none. -/
def turnsLeft (s : Connection cfg E) : Nat :=
  if s.pc.running then s.tx.queue.length + 1 else 0

variable {s t : Connection cfg E}

/-- A loop that runs has a turn for each payload and one for the end. -/
theorem turnsLeft_of_running (running : s.pc.running = true) :
    s.turnsLeft = s.tx.queue.length + 1 :=
  if_pos running

/-- A loop that was left has no turns to take. -/
theorem turnsLeft_of_left {state : LoopState E} {stage : Stage}
    (left : s.pc = .leaving state stage) :
    s.turnsLeft = 0 := by
  unfold turnsLeft
  rw [left]
  rfl

/-- There are never more turns to take than payloads and the end. -/
theorem turnsLeft_le (s : Connection cfg E) : s.turnsLeft ≤ s.tx.queue.length + 1 := by
  unfold turnsLeft
  split
  · exact Nat.le_refl _
  · exact Nat.zero_le _

/-- A step of the task pays for the answer it takes up, and for the data frame
that nobody is there to receive. -/
theorem LoopStep.turnsLeft {move : LoopAction E} (step : s.LoopStep move t) :
    t.turnsLeft + move.draws ≤ s.turnsLeft ∧
      (s.rx.receiver = none → t.turnsLeft + (move.draws + move.delivers) ≤ s.turnsLeft) := by
  have bound := t.turnsLeft_le
  have ends : ∀ {state stage}, t.pc = .leaving state stage → t.turnsLeft = 0 := turnsLeft_of_left
  -- while the loop runs, at least the last answer is to come
  have runs : s.pc.running = true → s.turnsLeft = s.tx.queue.length + 1 := turnsLeft_of_running
  cases step with
  | outgoing here received =>
      rw [runs (by rw [here]; rfl), received.queue, List.length_cons]
      exact ⟨Nat.succ_le_succ bound, fun _ => Nat.succ_le_succ bound⟩
  | sendersGone here | streamError here | streamEnd here | abandon here =>
      rw [runs (by rw [here]; rfl), ends rfl]
      exact ⟨by simp [LoopAction.draws], fun _ => by simp [LoopAction.draws, LoopAction.delivers]⟩
  | refuse here data =>
      rw [runs (by rw [here]; rfl), ends rfl]
      exact ⟨by simp [LoopAction.draws], fun _ => by
        simp [LoopAction.draws, LoopAction.delivers, data]⟩
  | deliver here _ accepted | release here accepted =>
      rw [runs (by rw [here]; rfl)]
      refine ⟨bound, fun gone => ?_⟩
      have held := accepted.held
      rw [gone] at held
      cases held
  | hold here _ held =>
      rw [runs (by rw [here]; rfl)]
      refine ⟨bound, fun gone => ?_⟩
      rw [gone] at held
      cases held
  | ping here | close here | sleep here | sentUnconfirmed here | sentConfirmed here
  | sentUnheard here | ponged here | sinkClosed here | keptAlive here =>
      rw [runs (by rw [here]; rfl)]
      exact ⟨bound, fun _ => bound⟩
  | skip here skipped =>
      rw [runs (by rw [here]; rfl)]
      rcases skipped with ⟨payload, rfl⟩ | ⟨raw, rfl⟩
      · exact ⟨bound, fun _ => bound⟩
      · exact ⟨bound, fun _ => bound⟩
  | record here | dropSender here | dropReceiver here =>
      rw [ends rfl]
      exact ⟨Nat.zero_le _, fun _ => Nat.zero_le _⟩

end Connection

/-- One for a step in which the task takes up the answer of the tx channel. -/
def Action.draws : Action E → Nat
  | .loop move => move.draws
  | .start _ _ | .advance _ | .cancel _ | .clone _ _ | .split _ _ | .reunite _ _ | .drop _ => 0

/-- One for a step in which the task has a data frame for the rx channel. -/
def Action.delivers : Action E → Nat
  | .loop move => move.delivers
  | .start _ _ | .advance _ | .cancel _ | .clone _ _ | .split _ _ | .reunite _ _ | .drop _ => 0

namespace System

open Connection

variable {s t : System cfg E}

/-- A call that has something to send keeps a sender alive while it is in
flight. -/
def Sends (s : System cfg E) : Prop :=
  ∀ call record, s.calls call = some record → record.op.receives = false →
    record.pc.inFlight = true → record.handle ∈ s.conn.tx.senders

/-- Whoever may send has a sender. -/
theorem Permits.sends {handle : HandleId} {op : Op} (permitted : s.Permits handle op)
    (enqueues : op.receives = false) : handle ∈ s.conn.tx.senders := by
  cases op with
  | sendRaw _ => exact permitted.1
  | sendRawUnconfirmed _ | close | closeConnection | reconnect => exact permitted.1.1
  | nextRawMessage | pollNext => cases enqueues

/-- A call that begins has its sender. -/
private theorem Sends.begin {u : System cfg E} (sends : s.Sends) (calls : u.calls = s.calls)
    (senders : u.conn.tx.senders = s.conn.tx.senders) {handle : HandleId} {op : Op}
    {pc : CallPc E} (permitted : s.Permits handle op) : (u.begin handle op pc).Sends := by
  intro call record found enqueues inFlight
  change record.handle ∈ u.conn.tx.senders
  rw [senders]
  rcases begin_found found with ⟨_, rfl⟩ | ⟨_, old⟩
  · exact Permits.sends permitted enqueues
  · exact sends call record (calls ▸ old) enqueues inFlight

/-- A call that moves on drops its handle only if nothing else is in flight
there. -/
private theorem Sends.moveTo (sends : s.Sends) (owned : Ownership s) {u : System cfg E}
    (calls : u.calls = s.calls) (senders : u.conn.tx.senders = s.conn.tx.senders) {call : CallId}
    {record : Call E} {pc : CallPc E} (found : s.calls call = some record)
    (inFlight : record.pc.inFlight = true) : (u.moveTo call record pc).Sends := by
  intro other record' found' enqueues inFlight'
  change record'.handle ∈ (u.conn.settle record pc).tx.senders
  rcases moveTo_found found' with ⟨rfl, rfl⟩ | ⟨different, old⟩
  · rw [settle_of_inFlight u.conn record pc inFlight', senders]
    exact sends other record found enqueues inFlight
  · rw [calls] at old
    have sender := sends other record' old enqueues inFlight'
    rcases u.conn.settle_cases record pc with ⟨same, _⟩ | ⟨dropped, consumes, _⟩
    · rw [same, senders]
      exact sender
    · have alone := (owned.exclusive call record found inFlight (.inl consumes)).2
      have apart : record'.handle ≠ record.handle := fun same =>
        different (alone other ⟨record', old, same, inFlight'⟩)
      rw [dropped, dropHandle_tx, Channel.dropSender_senders, senders]
      exact Finset.mem_erase.mpr ⟨apart, sender⟩

/-- Every call at the tx channel has its sender, in every reachable state. -/
theorem sends (reached : (system cfg E).Reachable s) : s.Sends := by
  refine reached.invariant Sends (fun _ _ found => nomatch found) ?_
  intro s action t reached sends step
  have owned := ownership reached
  cases step_rule step with
  | loop moved =>
      intro call record found enqueues inFlight
      rw [moved.handles.2]
      exact sends call record found enqueues inFlight
  | startReceive permitted | startSend permitted | pollFrame permitted | pollEnd permitted =>
      exact sends.begin (by rfl) (by rfl) permitted
  | pollPending | split | reunite => exact sends
  | accept found atPoint _ accepted =>
      exact sends.moveTo owned (by rfl) accepted.senders found (by rw [atPoint]; rfl)
  | refuseSend found atPoint | refuseClose found atPoint | reply found atPoint | panic found atPoint
  | join found atPoint | connect found atPoint | recvFrame found atPoint | recvEnd found atPoint =>
      exact sends.moveTo owned (by rfl) (by rfl) found (by rw [atPoint]; rfl)
  | cancel found inFlight => exact sends.moveTo owned (by rfl) (by rfl) found inFlight
  | clone =>
      intro call record found enqueues inFlight
      exact Finset.mem_insert_of_mem (sends call record found enqueues inFlight)
  | drop idle =>
      intro call record found enqueues inFlight
      refine Finset.mem_erase.mpr ⟨?_, sends call record found enqueues inFlight⟩
      rintro rfl
      have held : s.Borrows record.handle call := ⟨record, found, rfl, inFlight⟩
      exact idle call (owned.borrows_started held) held

/-- Dropping a handle brings no sender back. -/
private theorem dropHandle_gone {conn : Connection cfg E} (gone : conn.tx.senders = ∅)
    (handle : HandleId) : (conn.dropHandle handle).tx.senders = ∅ := by
  rw [dropHandle_tx, Channel.dropSender_senders, gone]
  rfl

/-- A call that moves on brings no sender back. -/
private theorem moveTo_gone {u : System cfg E} (gone : u.conn.tx.senders = ∅) (call : CallId)
    (record : Call E) (pc : CallPc E) : (u.moveTo call record pc).conn.tx.senders = ∅ := by
  change (u.conn.settle record pc).tx.senders = ∅
  rcases u.conn.settle_cases record pc with ⟨same, _⟩ | ⟨dropped, _⟩
  · rw [same, gone]
  · rw [dropped]
    exact dropHandle_gone gone _

/-- Once no sender is left, there is none later, and only the task takes steps
that change what is queued or where the task is. -/
theorem senders_gone_step (sends : s.Sends) (gone : s.conn.tx.senders = ∅) {action : Action E}
    (step : s.Step action t) : t.conn.tx.senders = ∅ ∧
      ((∃ move, action = .loop move ∧ s.conn.LoopStep move t.conn) ∨
        ((∀ move, action ≠ .loop move) ∧ t.conn.tx.queue = s.conn.tx.queue ∧
          t.conn.pc = s.conn.pc)) := by
  have none : ∀ handle, handle ∉ s.conn.tx.senders := by
    rw [gone]
    exact Finset.notMem_empty
  cases step with
  | loop moved => exact ⟨moved.handles.2.trans gone, .inl ⟨_, rfl, moved⟩⟩
  | startReceive | startSend | pollFrame | pollEnd | pollPending | split =>
      exact ⟨gone, .inr ⟨nofun, rfl, rfl⟩⟩
  | accept found atSend enqueues =>
      have receives := Op.receives_of_payload enqueues
      exact absurd (sends _ _ found receives (by rw [atSend]; rfl)) (none _)
  | refuseSend | refuseClose | reply | panic | join | connect | recvFrame | recvEnd | cancel =>
      exact ⟨moveTo_gone (by exact gone) _ _ _, .inr ⟨nofun, settle_tx_queue .., settle_pc ..⟩⟩
  | clone tx => exact absurd tx.1 (none _)
  | reunite _ tx => exact absurd tx.1 (none _)
  | drop => exact ⟨dropHandle_gone gone _, .inr ⟨nofun, rfl, rfl⟩⟩

/-- Without a sender a step pays for the answer that the task takes up, and for
the data frame that nobody is there to receive. -/
theorem turnsLeft_step (sends : s.Sends) (gone : s.conn.tx.senders = ∅) {action : Action E}
    (step : s.Step action t) : t.conn.turnsLeft + action.draws ≤ s.conn.turnsLeft ∧
      (s.conn.rx.receiver = none →
        t.conn.turnsLeft + (action.draws + action.delivers) ≤ s.conn.turnsLeft) := by
  rcases (senders_gone_step sends gone step).2 with ⟨move, rfl, moved⟩ | ⟨other, queue, pc⟩
  · exact moved.turnsLeft
  · have same : t.conn.turnsLeft = s.conn.turnsLeft := by
      unfold turnsLeft
      rw [queue, pc]
    cases action with
    | loop move => exact absurd rfl (other move)
    | start _ _ | advance _ | cancel _ | clone _ _ | split _ _ | reunite _ _ | drop _ =>
        exact ⟨same.le, fun _ => same.le⟩

/-- Without a sender the tx channel has an answer whenever the task waits for
one. -/
theorem draws_of_gone (gone : s.conn.tx.senders = ∅) {site : Site}
    (waits : s.conn.pc = .select site) : (s.step (.loop (.arm .outgoing))).isSome := by
  have answers : s.conn.recvOutgoing site ≠ none := by
    unfold recvOutgoing
    split
    · exact Option.some_ne_none _
    · exact Option.some_ne_none _
    · rename_i pending
      exact absurd gone (Channel.recv_pending_iff.mp pending).2
  rw [Option.isSome_iff_ne_none]
  cases site with
  | outer => simpa [System.step, loopStep, waits, socketLoopSplit] using answers
  | backpressure frame =>
      simpa [System.step, loopStep, waits, deliverWithBackpressure.turn] using answers

/-- From where no sender is left, the task takes up at most one answer of the tx
channel for each payload that is queued and one more, and then it has left the
loop. Whenever it waits there is such an answer for it, so that it gets there
under every scheduling that does not pass over that arm for ever. Without the
receive half the data frames it reads or holds count too. -/
theorem outlives_senders (reached : (system cfg E).Reachable s) (gone : s.conn.tx.senders = ∅)
    {trace : List (System cfg E × Action E)} (run : (system cfg E).Run s trace t) :
    t.conn.turnsLeft + (trace.map fun entry => entry.2.draws).sum ≤ s.conn.turnsLeft ∧
      (s.conn.rx.receiver = none →
        t.conn.turnsLeft + (trace.map fun entry => entry.2.draws + entry.2.delivers).sum ≤
          s.conn.turnsLeft) ∧
      ∀ site, t.conn.pc = .select site → (t.step (.loop (.arm .outgoing))).isSome := by
  have keeps : ∀ (s : System cfg E) action t, ((system cfg E).Reachable s ∧
      s.conn.tx.senders = ∅) → (system cfg E).step s action = some t →
        (system cfg E).Reachable t ∧ t.conn.tx.senders = ∅ := by
    rintro s action t ⟨reached, gone⟩ step
    exact ⟨reached.next step, (senders_gone_step (sends reached) gone (step_rule step)).1⟩
  refine ⟨?_, ?_, ?_⟩
  · have paid := run.amortized ⟨reached, gone⟩ keeps (fun s => s.conn.turnsLeft) Action.draws
      (fun _ => 0) ?_
    · simpa using paid
    rintro s action t ⟨reached, gone⟩ step
    exact (turnsLeft_step (sends reached) gone (step_rule step)).1
  · intro deaf
    have stays : ∀ (s : System cfg E) action t, (((system cfg E).Reachable s ∧
        s.conn.tx.senders = ∅) ∧ s.conn.rx.receiver = none) →
          (system cfg E).step s action = some t →
            ((system cfg E).Reachable t ∧ t.conn.tx.senders = ∅) ∧ t.conn.rx.receiver = none := by
      rintro s action t ⟨both, deaf⟩ step
      refine ⟨keeps s action t both step, ?_⟩
      by_contra alive
      have before := receiver_of_step (step_rule step) (Option.isSome_iff_ne_none.mpr alive)
      rw [deaf] at before
      cases before
    have paid := run.amortized ⟨⟨reached, gone⟩, deaf⟩ stays (fun s => s.conn.turnsLeft)
      (fun action => action.draws + action.delivers) (fun _ => 0) ?_
    · simpa using paid
    rintro s action t ⟨⟨reached, gone⟩, deaf⟩ step
    exact (turnsLeft_step (sends reached) gone (step_rule step)).2 deaf
  · exact fun site waits => draws_of_gone (run.invariant ⟨reached, gone⟩ keeps).2 waits

/-- A message is queued when the two halves are dropped. -/
def queuedAtDrop : List (Action Unit) :=
  [.split 0 1, .start 0 (.sendRawUnconfirmed (.text "a")), .advance 0, .drop 0, .drop 1]

theorem outlives_senders_queuedAtDrop :
    let M := system .single Unit
    let s := M.follow M.init queuedAtDrop
    let rest : List (Action Unit) :=
      [.loop (.arm .outgoing), .loop (.sink (.ok ())), .loop (.arm .outgoing)]
    s.conn.turnsLeft = 2 ∧ s.conn.rx.receiver = none ∧
      ((M.steps s rest).map fun entry => entry.2.draws + entry.2.delivers).sum = 2 ∧
      (M.follow s rest).conn.turnsLeft + ((M.steps s rest).map fun entry =>
        entry.2.draws + entry.2.delivers).sum ≤ s.conn.turnsLeft := by
  intro M s rest
  exact ⟨by decide, by decide, by decide, (outlives_senders (M.follow_reachable queuedAtDrop)
    (by decide) (M.run_steps s rest)).2.1 (by decide)⟩

end System

end Socketeer
