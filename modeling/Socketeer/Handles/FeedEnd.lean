import Socketeer.Handles.Terminal

/-! # After the end of the feed

A receiving call that reports the end has taken what was in the slot, and finds
all received that was delivered. Every receiving call after it falls back to the
plain end (`System.feed_ends_once`).
-/

namespace Socketeer

open Foundation

variable {cfg : LoopConfig} {E : Type}

/-- Whether a receiving call has reported the end without a cause. -/
def Call.fallsBack (record : Call E) : Bool :=
  match record.pc with
  | .returned (.received (.error .websocketClosed)) | .returned (.polled none) => true
  | _ => false

/-- What a receiving call returns that takes what is in the slot. -/
def CallPc.EndsWith (slot : Option (Error E)) (pc : CallPc E) : Prop :=
  pc = .returned (.received (.error (toldCause slot))) ∨
    pc = .returned (.polled (slot.map .error))

/-- A call in flight that does not wait for a frame never receives one. -/
theorem Op.Reaches.receives {op : Op} {pc : CallPc E} (reaches : op.Reaches pc)
    (inFlight : pc.inFlight = true) (other : pc ≠ .receiving) : op.receives = false := by
  cases pc with
  | sending => exact reaches
  | awaitingReply =>
      have confirms : op.confirms = true := reaches
      cases op with
      | sendRaw _ | close | closeConnection | reconnect => rfl
      | sendRawUnconfirmed _ | nextRawMessage | pollNext => cases confirms
  | joining _ | connecting =>
      rw [show op = _ from reaches]
      rfl
  | receiving => exact absurd rfl other
  | returned _ | panicked | cancelled => cases inFlight

namespace System

open Connection

variable {s t : System cfg E}

/-- How a step leaves a receiving call that has ended: as it was, or it has just
been cancelled, has returned a frame, or has reported the end. -/
inductive ReceiveEnds (s t : System cfg E) (call : CallId) (record : Call E) : Prop where
  | before (found : s.calls call = some record)
  | cancelled (pc : record.pc = .cancelled)
  | frame (some : s.conn.rx.queue ≠ []) (silent : record.toldClosed = false)
  | ended (pc : record.pc.EndsWith s.conn.terminalError) (taken : t.conn.terminalError = none)
      (waited : call = s.started ∨ ∃ old, s.calls call = some old ∧ old.pc.inFlight = true ∧
        old.op.receives = true)
      (others : ∀ other, other ≠ call → t.calls other = s.calls other)

/-- How any step leaves a receiving call that has ended. -/
theorem receiveEnds (owned : Ownership s) {action : Action E} (step : s.Step action t)
    {call : CallId} {record : Call E} (found : t.calls call = some record)
    (receives : record.op.receives = true) (ended : record.pc.inFlight = false) :
    ReceiveEnds s t call record := by
  have moves {u : System cfg E} {other : CallId} {old : Call E} {pc : CallPc E}
      (calls : u.calls = s.calls) (found : (u.moveTo other old pc).calls call = some record)
      (mine : record = { old with pc := pc } → ReceiveEnds s t call record) :
      ReceiveEnds s t call record := by
    rcases moveTo_found found with ⟨_, same⟩ | ⟨_, old⟩
    · exact mine same
    · exact .before (calls ▸ old)
  have begins {u : System cfg E} {handle : HandleId} {op : Op} {pc : CallPc E}
      (calls : u.calls = s.calls) (found : (u.begin handle op pc).calls call = some record)
      (mine : record = { op := op, handle := handle, pc := pc } → ReceiveEnds s t call record) :
      ReceiveEnds s t call record := by
    rcases begin_found found with ⟨_, same⟩ | ⟨_, old⟩
    · exact mine same
    · exact .before (calls ▸ old)
  cases step with
  | loop | pollPending | clone | split | reunite | drop => exact .before found
  | startReceive => exact begins rfl found fun same => by subst same; cases ended
  | startSend permitted sends => exact begins rfl found fun same => by subst same; cases ended
  | pollFrame permitted received =>
      refine begins rfl found fun same => .frame ?_ (by subst same; rfl)
      rw [received.queue]
      exact List.cons_ne_nil _ _
  | pollEnd =>
      rcases begin_found found with ⟨rfl, rfl⟩ | ⟨_, old⟩
      · exact .ended (.inr rfl) rfl (.inl rfl) fun other different => begin_calls_of_ne _ different
      · exact .before old
  | cancel => exact moves rfl found fun same => .cancelled (by subst same; rfl)
  | recvFrame _ _ received =>
      refine moves rfl found fun same => .frame ?_ (by subst same; rfl)
      rw [received.queue]
      exact List.cons_ne_nil _ _
  | recvEnd found' receiving =>
      rcases moveTo_found found with ⟨rfl, rfl⟩ | ⟨_, old⟩
      · exact .ended (.inl (by rw [takeTerminalError_eq])) (settle_terminalError ..)
          (.inr ⟨_, found', by rw [receiving]; rfl, receives⟩)
          fun other different => moveTo_calls_of_ne _ different
      · exact .before old
  | accept found' atPoint | refuseSend found' atPoint | refuseClose found' atPoint
  | reply found' atPoint | panic found' atPoint | join found' atPoint | connect found' atPoint =>
      refine moves rfl found fun same => ?_
      subst same
      have other := (owned.reaches _ _ found').receives (by rw [atPoint]; rfl)
        (by rw [atPoint]; nofun)
      exact absurd receives (by rw [other]; exact Bool.false_ne_true)

/-- Only a receiving call reports the end. -/
theorem receives_of_toldClosed (owned : Ownership s) {call : CallId} {record : Call E}
    (found : s.calls call = some record) (told : record.toldClosed = true) :
    record.op.receives = true ∧ record.pc.inFlight = false := by
  have reaches := owned.reaches call record found
  unfold Call.toldClosed at told
  split at told
  · rename_i point
    rw [point] at reaches ⊢
    rw [show record.op = .nextRawMessage from reaches]
    exact ⟨rfl, rfl⟩
  · rename_i point
    rw [point] at reaches ⊢
    rw [show record.op = .pollNext from reaches]
    exact ⟨rfl, rfl⟩
  · rename_i point
    rw [point] at reaches ⊢
    rw [show record.op = .pollNext from reaches]
    exact ⟨rfl, rfl⟩
  · cases told

/-- Once the end has been reported, nothing is left in the slot. -/
theorem slot_empty_of_toldClosed (reached : (system cfg E).Reachable s) (told : s.ToldClosed) :
    s.conn.terminalError = none := by
  refine reached.invariant (fun s => s.ToldClosed → s.conn.terminalError = none) ?_ ?_ told
  · rintro ⟨call, record, found, _⟩
    cases found
  intro s action t reached before step told
  have owned := ownership (reached.next step)
  obtain ⟨call, record, found, tells⟩ := told
  obtain ⟨receives, past⟩ := receives_of_toldClosed owned found tells
  cases receiveEnds (ownership reached) (step_rule step) found receives past with
  | before found' =>
      have told : s.ToldClosed := ⟨call, record, found', tells⟩
      have gone := (drained_of_toldClosed reached told).closed
      cases slotStep (ends reached) (step_rule step) with
      | kept _ slot => exact slot.trans (before told)
      | recorded leaving =>
          have closed := (ends reached).closed gone
          rw [leaving] at closed
          cases closed
      | taken _ _ _ _ _ _ empty | polled _ _ _ _ empty => exact empty
  | cancelled pc =>
      unfold Call.toldClosed at tells
      rw [pc] at tells
      cases tells
  | frame _ silent =>
      rw [silent] at tells
      cases tells
  | ended _ taken _ _ => exact taken

/-- After a receiving call that has reported the end, be it with the cause, none
returns a frame or a cause: the ones that complete report the plain end. -/
theorem feed_ends_once (reached : (system cfg E).Reachable s) {first later : CallId}
    {record record' : Call E} (order : first < later) (found : s.calls first = some record)
    (found' : s.calls later = some record') (told : record.toldClosed = true)
    (receives : record'.op.receives = true) (past : record'.pc.inFlight = false) :
    record'.pc = .cancelled ∨ record'.fallsBack = true := by
  revert record record'
  refine reached.invariant (fun s => ∀ {record record' : Call E},
    s.calls first = some record → s.calls later = some record' → record.toldClosed = true →
      record'.op.receives = true → record'.pc.inFlight = false →
        record'.pc = .cancelled ∨ record'.fallsBack = true) (fun found => nomatch found) ?_
  intro s action t reached before step record record' found found' told receives past
  have owned := ownership reached
  have rule := step_rule step
  obtain ⟨receivesFirst, overFirst⟩ :=
    receives_of_toldClosed (ownership (reached.next step)) found told
  cases receiveEnds owned rule found receivesFirst overFirst with
  | before foundFirst =>
      have told : s.ToldClosed := ⟨first, record, foundFirst, told⟩
      cases receiveEnds owned rule found' receives past with
      | before foundLater => exact before foundFirst foundLater ‹_› receives past
      | cancelled pc => exact .inl pc
      | frame some _ => exact absurd (drained_of_toldClosed reached told).queue some
      | ended pc _ _ _ =>
          right
          rw [slot_empty_of_toldClosed reached told] at pc
          unfold Call.fallsBack
          rcases pc with received | polled
          · rw [received]
            rfl
          · rw [polled]
            rfl
  | cancelled pc =>
      unfold Call.toldClosed at told
      rw [pc] at told
      cases told
  | frame _ silent =>
      rw [silent] at told
      cases told
  | ended _ _ waited others =>
      -- no receive that was started later can have ended before this one
      rw [others later (Nat.ne_of_gt order)] at found'
      rcases waited with rfl | ⟨old, foundOld, inFlight, receivesOld⟩
      · rw [owned.unborn later order.le] at found'
        cases found'
      · rw [owned.latest first old foundOld inFlight receivesOld later record' order found']
          at receives
        cases receives

/-- The stream fails, and three receives are made through both interfaces. -/
def receiveAfterFailure : List (Action Unit) :=
  [.loop (.arm (.incoming (some (.error ())))), .loop .finish, .loop .finish,
    .start 0 .pollNext, .start 0 .pollNext, .start 0 .nextRawMessage, .advance 2]

theorem feed_ends_once_receiveAfterFailure :
    let s := (system .single Unit).follow (.create .single Unit) receiveAfterFailure
    s.calls 0 = some ⟨.pollNext, 0, .returned (.polled (some (.error (.websocketError ()))))⟩ ∧
      s.calls 1 = some ⟨.pollNext, 0, .returned (.polled none)⟩ ∧
      ∃ record, s.calls 2 = some record ∧ (record.pc = .cancelled ∨ record.fallsBack = true) := by
  intro s
  refine ⟨rfl, rfl, _, rfl, ?_⟩
  have reached : (system .single Unit).Reachable s :=
    (system .single Unit).follow_reachable receiveAfterFailure
  exact feed_ends_once reached (show (0 : CallId) < 2 by decide) rfl rfl rfl rfl rfl

end System

end Socketeer
