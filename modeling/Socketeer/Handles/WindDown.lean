import Mathlib.Algebra.BigOperators.Group.Finset.Basic
import Socketeer.Handles.Requests

/-! # Winding down

Once the loop has been left, the task has a bounded way out, and no caller waits
for anything that it does not bring about. Whatever the order in which the task
and the calls are polled, they end after a bounded number of steps
(`System.winds_down`).
-/

namespace Socketeer

open Foundation

variable {cfg : LoopConfig} {E : Type}

/-- How many stages of its way out the task has still to go through. -/
def Stage.toGo : Stage → Nat
  | .recording => 3
  | .droppingSender => 2
  | .droppingReceiver => 1
  | .finished => 0

def LoopPc.toGo : LoopPc E → Nat
  | .leaving _ stage => stage.toGo
  | .select _ | .sending _ _ | .ponging | .closing | .keepalive _ => Stage.recording.toGo

/-- How many steps a call can still take. -/
def CallPc.toGo : CallPc E → Nat
  | .sending => 3
  | .awaitingReply => 2
  | .joining _ | .connecting | .receiving => 1
  | .returned _ | .panicked | .cancelled => 0

/-- One for a step of the task or of a call. -/
def Action.work : Action E → Nat
  | .loop _ | .advance _ | .cancel _ => 1
  | .start _ _ | .clone _ _ | .split _ _ | .reunite _ _ | .drop _ => 0

/-- What a new call adds to what is to go. -/
def Action.adds : Action E → Nat
  | .start _ _ => 3
  | .loop _ | .advance _ | .cancel _ | .clone _ _ | .split _ _ | .reunite _ _ | .drop _ => 0

/-- Whether the step polls the task on its way out, or a call. -/
def Action.polls : Action E → Bool
  | .loop .finish | .advance _ => true
  | .loop (.arm _) | .loop (.sink _) | .start _ _ | .cancel _ | .clone _ _ | .split _ _
  | .reunite _ _ | .drop _ => false

/-- A call has steps to go exactly as long as it is in flight. -/
theorem CallPc.toGo_pos_iff {pc : CallPc E} : 0 < pc.toGo ↔ pc.inFlight = true := by
  cases pc with
  | sending | awaitingReply | joining _ | connecting | receiving | returned _ | panicked
  | cancelled => simp [toGo, inFlight]

/-- A payload that is accepted brings its call on. -/
theorem Op.accepted_toGo (op : Op) :
    (op.accepted : CallPc E).toGo < CallPc.toGo (.sending : CallPc E) := by
  cases op with
  | sendRaw _ | sendRawUnconfirmed _ | close | closeConnection | reconnect | nextRawMessage
  | pollNext => simp [accepted, CallPc.toGo]

/-- A close that is refused brings a call nearer to its end. -/
theorem Op.refusedClose_toGo (op : Op) :
    (op.refusedClose : CallPc E).toGo < CallPc.toGo (.sending : CallPc E) := by
  cases op with
  | sendRaw _ | sendRawUnconfirmed _ | close | closeConnection | reconnect | nextRawMessage
  | pollNext => simp [refusedClose, CallPc.toGo]

/-- A reply brings a call nearer to its end. -/
theorem Op.answered_toGo (op : Op) (result : Except (Error E) Unit) :
    (op.answered result).toGo < CallPc.toGo (.awaitingReply : CallPc E) := by
  cases op with
  | sendRaw _ | sendRawUnconfirmed _ | close | closeConnection | reconnect | nextRawMessage
  | pollNext => simp [answered, CallPc.toGo]

namespace Connection

variable {s t : Connection cfg E}

/-- The sender of a one-shot outlives its payload by no step, and a payload the
tx receiver. -/
structure Settles (s : Connection cfg E) : Prop where
  senders : ∀ call ∈ s.accepted, s.Pending call ∨ (s.oneshots call).senderDropped = true
  drained : s.tx.receiver = none → s.tx.queue = []

/-- The sender that a write uses up is gone, and the others are as they were. -/
private theorem settled_update {cells : CallId → Oneshot (Except (Error E) Unit)}
    {call other : CallId} {cell : Oneshot (Except (Error E) Unit)}
    (used : cell.senderDropped = true)
    (before : call = other ∨ (cells call).senderDropped = true) :
    (Function.update cells other cell call).senderDropped = true := by
  by_cases mine : call = other
  · rw [mine, Function.update_self]
    exact used
  · rw [Function.update_of_ne mine]
    exact before.resolve_left mine

/-- A payload stops being pending only once the sender of its one-shot is gone. -/
private theorem LoopStep.settled {action : LoopAction E} (step : s.LoopStep action t)
    {call : CallId} (settles : s.Pending call ∨ (s.oneshots call).senderDropped = true) :
    t.Pending call ∨ (t.oneshots call).senderDropped = true := by
  have written : ∀ {payload site other}, s.pc = .sending payload site →
      payload.responseTx = some other → s.Pending call →
        s.Queued call ∨ call = other := by
    rintro payload site other here confirmed (queued | ⟨_, _, pc, same⟩)
    · exact .inl queued
    · obtain ⟨rfl, _⟩ := LoopPc.sending.inj (here.symm.trans pc)
      exact .inr (Option.some.inj (same.symm.trans confirmed))
  cases step with
  | @outgoing site payload tx here received =>
      refine settles.imp ?_ id
      rintro (⟨queued, member, same⟩ | ⟨_, _, pc, _⟩)
      · rw [received.queue] at member
        rcases List.mem_cons.mp member with rfl | later
        · exact .inr ⟨queued, site, rfl, same⟩
        · exact .inl ⟨queued, later, same⟩
      · cases here.symm.trans pc
  | sendersGone here | ping here | close here | skip here | streamError here | streamEnd here
  | deliver here | refuse here | hold here | release here | abandon here | sleep here
  | ponged here | sinkClosed here | keptAlive here | record here | dropSender here =>
      refine settles.imp ?_ id
      rintro (queued | ⟨_, _, pc, _⟩)
      · exact .inl queued
      · cases here.symm.trans pc
  | sentUnconfirmed here unconfirmed =>
      refine settles.imp ?_ id
      rintro (queued | ⟨payload, _, pc, same⟩)
      · exact .inl queued
      · obtain ⟨rfl, _⟩ := LoopPc.sending.inj (here.symm.trans pc)
        rw [unconfirmed] at same
        cases same
  | sentConfirmed here confirmed | sentUnheard here confirmed =>
      rcases settles with pending | dropped
      · rcases written here confirmed pending with queued | mine
        · exact .inl (.inl queued)
        · exact .inr (settled_update rfl (.inl mine))
      · exact .inr (settled_update rfl (.inr dropped))
  | dropReceiver here =>
      right
      change (dropPayloads s.tx.queue s.oneshots call).senderDropped = true
      unfold dropPayloads
      split
      · rfl
      · rename_i kept
        rcases settles with (⟨payload, member, same⟩ | ⟨_, _, pc, _⟩) | dropped
        · exact absurd (List.mem_map.mpr ⟨payload, member, same⟩) kept
        · cases here.symm.trans pc
        · exact dropped

/-- Every step of the task keeps the one-shots settled or on their way. -/
theorem Settles.loopStep {action : LoopAction E} (settles : s.Settles)
    (step : s.LoopStep action t) : t.Settles := by
  constructor
  · intro call member
    rw [Connection.accepted, step.sent] at member
    exact step.settled (settles.senders call member)
  · intro gone
    cases step with
    | outgoing _ received =>
        have empty := settles.drained (received.receiver.symm.trans gone)
        rw [received.queue] at empty
        cases empty
    | dropReceiver => rfl
    | sendersGone | ping | close | skip | streamError | streamEnd | deliver | refuse | hold
    | release | abandon | sleep | sentUnconfirmed | sentConfirmed | sentUnheard | ponged
    | sinkClosed | keptAlive | record | dropSender => exact settles.drained gone

/-- A step of the handles that accepts no payload. -/
private theorem Settles.keep (settles : s.Settles) (sent : t.tx.sent = s.tx.sent)
    (queue : t.tx.queue = s.tx.queue) (receiver : t.tx.receiver = s.tx.receiver)
    (pc : t.pc = s.pc)
    (dropped : ∀ call, (t.oneshots call).senderDropped = (s.oneshots call).senderDropped) :
    t.Settles := by
  constructor
  · intro call member
    rw [Connection.accepted, sent] at member
    rw [Pending, Queued, Sending, queue, pc, dropped]
    exact settles.senders call member
  · rw [receiver, queue]
    exact settles.drained

/-- A payload that is accepted is on its way. -/
private theorem Settles.accept (settles : s.Settles) {payload : TxChannelPayload}
    {tx : Channel TxChannelPayload HandleId Unit cfg.channelSize}
    (accepted : s.tx.Accepted payload tx) : Settles { s with tx := tx } := by
  constructor
  · intro call member
    change call ∈ tx.sent.filterMap TxChannelPayload.responseTx at member
    rw [accepted.sent, List.filterMap_append, List.mem_append] at member
    rcases member with earlier | last
    · refine (settles.senders call earlier).imp ?_ id
      rintro (⟨queued, member, same⟩ | sending)
      · refine .inl ⟨queued, ?_, same⟩
        rw [accepted.queue]
        exact List.mem_append_left _ member
      · exact .inr sending
    · obtain ⟨queued, here, same⟩ := List.mem_filterMap.mp last
      refine .inl (.inl ⟨queued, ?_, same⟩)
      rw [accepted.queue]
      exact List.mem_append_right _ here
  · intro gone
    have held := accepted.held
    rw [accepted.receiver.symm.trans gone] at held
    cases held

/-- A caller who hangs up drops its own end only. -/
private theorem hangUp_senderDropped (call other : CallId) :
    ((s.hangUp call).oneshots other).senderDropped = (s.oneshots other).senderDropped := by
  change (Function.update s.oneshots call (s.oneshots call).dropReceiver other).senderDropped = _
  by_cases mine : other = call
  · rw [mine, Function.update_self]
    rfl
  · rw [Function.update_of_ne mine]

end Connection

namespace System

open Connection

variable {s t : System cfg E}

/-- A call that moves on leaves the one-shots to the task. -/
private theorem settles_moveTo {u : System cfg E} (settles : u.conn.Settles) (call : CallId)
    (record : Call E) (pc : CallPc E) : (u.moveTo call record pc).conn.Settles :=
  settles.keep (settle_tx_sent ..) (settle_tx_queue ..) (settle_tx_receiver ..) (settle_pc ..)
    fun call => by rw [moveTo, settle_oneshots]

/-- Every one-shot is settled or on its way, in every reachable state. -/
theorem settles (reached : (system cfg E).Reachable s) : s.conn.Settles := by
  refine reached.invariant (fun s => s.conn.Settles) ⟨?_, nofun⟩ ?_
  · intro call member
    cases member
  intro s action t _ settles step
  cases step_rule step with
  | loop moved => exact settles.loopStep moved
  | accept found atSend enqueues accepted =>
      exact settles_moveTo (u := { s with conn := _ }) (settles.accept accepted) _ _ _
  | cancel found inFlight =>
      refine settles_moveTo (u := { s with conn := _ }) ?_ _ _ _
      exact settles.keep rfl rfl rfl rfl fun other => hangUp_senderDropped _ other
  | refuseSend | refuseClose | reply | panic | join | connect | recvFrame | recvEnd =>
      refine settles_moveTo ?_ _ _ _
      exact settles.keep rfl rfl rfl rfl fun _ => rfl
  | startReceive | startSend | pollFrame | pollEnd | pollPending | clone | split | reunite | drop =>
      exact settles.keep rfl rfl rfl rfl fun _ => rfl

/-- How many steps a call can still take. -/
def callToGo (s : System cfg E) (call : CallId) : Nat :=
  (s.calls call).elim 0 fun record => record.pc.toGo

/-- How many steps the task, on its way out, and the calls can still take. -/
def toGo (s : System cfg E) : Nat :=
  s.conn.pc.toGo + ∑ call ∈ Finset.range s.started, s.callToGo call

/-- A call that begins adds its steps to those to go. -/
private theorem begin_toGo {u : System cfg E} (calls : u.calls = s.calls)
    (started : u.started = s.started) (pc : u.conn.pc = s.conn.pc) (handle : HandleId) (op : Op)
    (at' : CallPc E) : (u.begin handle op at').toGo = s.toGo + at'.toGo := by
  have old : ∀ call ∈ Finset.range s.started,
      (u.begin handle op at').callToGo call = s.callToGo call := by
    intro call before
    have different : call ≠ u.started := started ▸ Nat.ne_of_lt (Finset.mem_range.mp before)
    rw [callToGo, begin_calls_of_ne u different, calls, callToGo]
  have here : (u.begin handle op at').callToGo s.started = at'.toGo := by
    rw [callToGo, ← started, begin_calls_self]
    rfl
  calc (u.begin handle op at').toGo
      = u.conn.pc.toGo + ∑ call ∈ Finset.range (u.started + 1),
          (u.begin handle op at').callToGo call := rfl
    _ = s.toGo + at'.toGo := by
      rw [started, Finset.sum_range_succ, Finset.sum_congr rfl old, here, pc, toGo, Nat.add_assoc]

/-- A call that moves on takes its steps off those to go. -/
private theorem moveTo_toGo {u : System cfg E} (calls : u.calls = s.calls)
    (started : u.started = s.started) (pc : u.conn.pc = s.conn.pc) {call : CallId}
    {record : Call E} (found : s.calls call = some record) (born : call < s.started)
    (at' : CallPc E) : (u.moveTo call record at').toGo + record.pc.toGo = s.toGo + at'.toGo := by
  have inside : call ∈ Finset.range s.started := Finset.mem_range.mpr born
  have others : ∑ other ∈ (Finset.range s.started).erase call,
      (u.moveTo call record at').callToGo other =
        ∑ other ∈ (Finset.range s.started).erase call, s.callToGo other := by
    refine Finset.sum_congr rfl fun other member => ?_
    rw [callToGo, moveTo_calls_of_ne u (Finset.mem_erase.mp member).1, calls, callToGo]
  have after : _ = ∑ other ∈ Finset.range s.started, (u.moveTo call record at').callToGo other :=
    Finset.add_sum_erase _ _ inside
  have before : _ = ∑ other ∈ Finset.range s.started, s.callToGo other :=
    Finset.add_sum_erase _ _ inside
  have now : (u.moveTo call record at').callToGo call = at'.toGo := by
    rw [callToGo, moveTo_calls_self]
    rfl
  have was : s.callToGo call = record.pc.toGo := by
    rw [callToGo, found]
    rfl
  have whole : (u.moveTo call record at').toGo =
      s.conn.pc.toGo + ∑ other ∈ Finset.range s.started,
        (u.moveTo call record at').callToGo other := by
    rw [toGo, moveTo, settle_pc, pc, started]
  rw [whole, toGo]
  omega

/-- A new call adds at most its allowance. -/
private theorem begin_pays {u : System cfg E} (calls : u.calls = s.calls)
    (started : u.started = s.started) (pc : u.conn.pc = s.conn.pc) {handle : HandleId} {op : Op}
    {at' : CallPc E} (short : at'.toGo ≤ 3) : (u.begin handle op at').toGo ≤ s.toGo + 3 := by
  rw [begin_toGo calls started pc]
  exact Nat.add_le_add_left short _

/-- A call that moves on uses up some of what is to go. -/
private theorem moveTo_pays (owned : Ownership s) {u : System cfg E} (calls : u.calls = s.calls)
    (started : u.started = s.started) (pc : u.conn.pc = s.conn.pc) {call : CallId}
    {record : Call E} (found : s.calls call = some record) {at' : CallPc E}
    (less : at'.toGo < record.pc.toGo) : (u.moveTo call record at').toGo + 1 ≤ s.toGo := by
  have born : call < s.started := by
    by_contra later
    rw [owned.unborn call (Nat.not_lt.mp later)] at found
    cases found
  have account := moveTo_toGo calls started pc found born at'
  omega

/-- Once the loop has been left, a step of the task or of a call uses up some of
what is to go, and only a new call adds to it. -/
theorem toGo_step (reached : (system cfg E).Reachable s) (left : s.conn.pc.running = false)
    {action : Action E} (step : s.Step action t) :
    t.toGo + action.work ≤ s.toGo + action.adds := by
  have owned := ownership reached
  cases step with
  | @loop move conn moved =>
      have stage : conn.pc.toGo + 1 = s.conn.pc.toGo := by
        cases moved with
        | record here | dropSender here | dropReceiver here =>
            rw [here]
            rfl
        | outgoing here | sendersGone here | ping here | close here | skip here | streamError here
        | streamEnd here | deliver here | refuse here | hold here | release here | abandon here
        | sleep here | sentUnconfirmed here | sentConfirmed here | sentUnheard here | ponged here
        | sinkClosed here | keptAlive here =>
            rw [here] at left
            cases left
      change conn.pc.toGo + ∑ call ∈ Finset.range s.started, s.callToGo call + 1 ≤ _
      rw [toGo]
      omega
  | startReceive | startSend | pollFrame | pollEnd =>
      exact begin_pays (by rfl) (by rfl) (by rfl) (by simp [CallPc.toGo])
  | pollPending => exact Nat.le_add_right _ _
  | accept found atSend enqueues accepted =>
      refine moveTo_pays owned (by rfl) (by rfl) (by rfl) found ?_
      rw [atSend]
      exact Op.accepted_toGo _
  | refuseClose found atSend =>
      refine moveTo_pays owned (by rfl) (by rfl) (by rfl) found ?_
      rw [atSend]
      exact Op.refusedClose_toGo _
  | reply found awaiting =>
      refine moveTo_pays owned (by rfl) (by rfl) (by rfl) found ?_
      rw [awaiting]
      exact Op.answered_toGo _ _
  | refuseSend found atPoint | panic found atPoint | join found atPoint | connect found atPoint
  | recvFrame found atPoint | recvEnd found atPoint =>
      refine moveTo_pays owned (by rfl) (by rfl) (by rfl) found ?_
      rw [atPoint]
      exact Nat.succ_pos _
  | cancel found inFlight =>
      exact moveTo_pays owned (by rfl) (by rfl) (by rfl) found (CallPc.toGo_pos_iff.mpr inFlight)
  | clone | split | reunite | drop => exact Nat.le_refl _

/-- Once the task has ended, every call in flight moves on when it is polled. -/
theorem advance_of_finished (reached : (system cfg E).Reachable s) {state : LoopState E}
    (finished : s.conn.pc = .leaving state .finished) {call : CallId} {record : Call E}
    (found : s.calls call = some record) (inFlight : record.pc.inFlight = true) :
    (s.advance call).isSome := by
  have owned := ownership reached
  have closed : s.conn.tx.receiver = none := by
    rw [(ends reached).receiver, finished]
    rfl
  have gone : s.conn.rx.senders = ∅ := by
    rw [(ends reached).sender, finished]
    rfl
  unfold advance
  rw [found]
  cases pc : record.pc with
  | sending =>
      have enqueues : record.op.receives = false := by
        have reaches := owned.reaches call record found
        rwa [pc] at reaches
      simp only [pc, advanceSending]
      cases payload : record.op.payload call with
      | none => cases op : record.op <;> simp [op, Op.payload, Op.receives] at payload enqueues
      | some payload => simp [Channel.send_ready_none_iff.mpr closed]
  | awaitingReply =>
      have consistent := (requests reached).consistent call record found
      rw [pc] at consistent
      have dropped : (s.conn.oneshots call).senderDropped = true := by
        have settled := settles reached
        rcases settled.senders call consistent.1 with
          (⟨payload, member, _⟩ | ⟨_, _, sends, _⟩) | gone
        · rw [settled.drained closed] at member
          cases member
        · cases finished.symm.trans sends
        · exact gone
      simp only [pc, advanceReply, Oneshot.recv]
      cases (s.conn.oneshots call).value <;> simp [dropped]
  | joining closeSent => simp [pc, advanceJoining, finished]
  | connecting => simp [pc]
  | receiving =>
      simp only [pc, recvRaw]
      cases received : s.conn.rx.recv with
      | ready frame => cases frame <;> rfl
      | pending => exact absurd gone (Channel.recv_pending_iff.mp received).2
  | returned _ | panicked | cancelled =>
      rw [pc] at inFlight
      cases inFlight

/-- Once the loop has been left, the task and the calls take at most as many
steps as are to go and three for each call started since, in whatever order. When
polling brings none of them on, the task has ended and no call is in flight. -/
theorem winds_down (reached : (system cfg E).Reachable s) (left : s.conn.pc.running = false)
    {trace : List (System cfg E × Action E)} (run : (system cfg E).Run s trace t) :
    t.toGo + (trace.map fun entry => entry.2.work).sum ≤
        s.toGo + (trace.map fun entry => entry.2.adds).sum ∧
      ((∀ action, action.polls = true → t.step action = none) →
        (∃ state, t.conn.pc = .leaving state .finished) ∧
          ∀ call record, t.calls call = some record → record.pc.inFlight = false) := by
  have keeps : ∀ (s : System cfg E) action t, ((system cfg E).Reachable s ∧
      s.conn.pc.running = false) → (system cfg E).step s action = some t →
        (system cfg E).Reachable t ∧ t.conn.pc.running = false := by
    rintro s action t ⟨reached, left⟩ step
    refine ⟨reached.next step, ?_⟩
    cases pc : s.conn.pc with
    | leaving state stage =>
        obtain ⟨⟨later, leaving⟩, _⟩ := exited_step step pc
        rw [leaving]
        rfl
    | select _ | sending _ _ | ponging | closing | keepalive _ =>
        rw [pc] at left
        cases left
  constructor
  · apply run.amortized ⟨reached, left⟩ keeps
    rintro s action t ⟨reached, left⟩ step
    exact toGo_step reached left (step_rule step)
  · intro still
    obtain ⟨reached, left⟩ := run.invariant ⟨reached, left⟩ keeps
    have finished : ∃ state, t.conn.pc = .leaving state .finished := by
      cases pc : t.conn.pc with
      | leaving state stage =>
          cases stage with
          | finished => exact ⟨state, rfl⟩
          | recording | droppingSender | droppingReceiver =>
              have stuck := still (.loop .finish) rfl
              simp [System.step, loopStep, pc, socketLoopSplit.finish] at stuck
      | select _ | sending _ _ | ponging | closing | keepalive _ =>
          rw [pc] at left
          cases left
    refine ⟨finished, ?_⟩
    obtain ⟨state, finished⟩ := finished
    intro call record found
    by_contra inFlight
    have moves := advance_of_finished reached finished found (Bool.eq_true_of_not_eq_false inFlight)
    rw [show t.advance call = none from still (.advance call) rfl] at moves
    cases moves

/-- A confirmed send is queued when the stream ends, and is then polled. -/
def queuedAtEnd : List (Action Unit) :=
  [.start 0 (.sendRaw (.text "a")), .advance 0, .loop (.arm (.incoming none))]

theorem winds_down_queuedAtEnd :
    let M := system .single Unit
    let s := M.follow M.init queuedAtEnd
    let end' : List (Action Unit) := [.loop .finish, .loop .finish, .loop .finish, .advance 0]
    s.toGo = 5 ∧ (M.follow s end').toGo + ((M.steps s end').map fun entry => entry.2.work).sum ≤
        s.toGo + ((M.steps s end').map fun entry => entry.2.adds).sum := by
  intro M s end'
  exact ⟨by decide, (winds_down (M.follow_reachable queuedAtEnd) (by decide)
    (M.run_steps s end')).1⟩

end System

end Socketeer
