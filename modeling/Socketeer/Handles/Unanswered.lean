import Socketeer.Handles.Replies

/-! # Callers without an answer

A caller is left without an answer when the loop ends while its payload is still
queued (`System.answered_iff`). A caller that is gone before it is answered ends
the loop, as if all handles had been dropped (`System.dropped_truthfully_iff`).
-/

namespace Socketeer

open Foundation

variable {cfg : LoopConfig} {E : Type}

namespace Call

def awaitsReply (record : Call E) : Bool :=
  match record.pc with
  | .awaitingReply => true
  | _ => false

def isCancelled (record : Call E) : Bool :=
  match record.pc with
  | .cancelled => true
  | _ => false

theorem awaitsReply_iff {record : Call E} :
    record.awaitsReply = true ↔ record.pc = .awaitingReply := by
  obtain ⟨op, handle, pc⟩ := record
  cases pc with
  | awaitingReply => exact ⟨fun _ => rfl, fun _ => rfl⟩
  | sending | joining _ | connecting | receiving | returned _ | panicked | cancelled =>
      exact ⟨nofun, nofun⟩

theorem isCancelled_iff {record : Call E} : record.isCancelled = true ↔ record.pc = .cancelled := by
  obtain ⟨op, handle, pc⟩ := record
  cases pc with
  | cancelled => exact ⟨fun _ => rfl, fun _ => rfl⟩
  | sending | awaitingReply | joining _ | connecting | receiving | returned _ | panicked =>
      exact ⟨nofun, nofun⟩

end Call

namespace System

open Connection

variable {s t : System cfg E}

/-- No caller has reached `unreachable!`, and none will: the one-shot of a
caller that waits was not dropped without an answer. -/
def Answered (s : System cfg E) : Prop :=
  ∀ call record, s.calls call = some record → record.pc ≠ .panicked ∧
    (record.pc = .awaitingReply → (s.conn.oneshots call).senderDropped = true →
      (s.conn.oneshots call).value.isSome)

/-- Whether a step drops the tx receiver while the payload of a waiting caller
is queued. -/
def discardsRequest (s : System cfg E) (action : Action E) : Bool :=
  match s.conn.pc, action with
  | .leaving _ .droppingReceiver, .loop _ =>
      s.conn.tx.queue.any fun payload => payload.responseTx.any fun call =>
        (s.calls call).any Call.awaitsReply
  | _, _ => false

/-- The task discards a request with its receiver if a waiting caller's payload is
queued. -/
theorem discardsRequest_iff {state : LoopState E} {move : LoopAction E}
    (exiting : s.conn.pc = .leaving state .droppingReceiver) :
    s.discardsRequest (.loop move) = true ↔ ∃ call record, s.conn.Queued call ∧
      s.calls call = some record ∧ record.pc = .awaitingReply := by
  simp only [discardsRequest, exiting, List.any_eq_true, Option.any_eq_true, Call.awaitsReply_iff]
  constructor
  · rintro ⟨payload, member, call, confirmed, record, found, awaiting⟩
    exact ⟨call, record, ⟨payload, member, confirmed⟩, found, awaiting⟩
  · rintro ⟨call, record, ⟨payload, member, confirmed⟩, found, awaiting⟩
    exact ⟨payload, member, call, confirmed, record, found, awaiting⟩

/-- A call that is new or moves on, and is not left without an answer. -/
private theorem Answered.update (answered : Answered s) {call : CallId} {record : Call E}
    (calls : t.calls = Function.update s.calls call (some record))
    (oneshots : ∀ other, other ≠ call → t.conn.oneshots other = s.conn.oneshots other)
    (lives : record.pc ≠ .panicked)
    (waits : record.pc = .awaitingReply → (t.conn.oneshots call).senderDropped = false) :
    Answered t := by
  intro other record' found
  by_cases mine : other = call
  · rw [mine, calls, Function.update_self] at found
    obtain rfl := Option.some.inj found
    refine ⟨lives, fun awaiting dropped => ?_⟩
    rw [mine, waits awaiting] at dropped
    cases dropped
  · rw [calls, Function.update_of_ne mine] at found
    rw [oneshots other mine]
    exact answered other record' found

/-- Every step answers the callers that wait, unless it discards a payload. -/
theorem Answered.step (answered : Answered s) (reached : (system cfg E).Reachable s)
    {action : Action E} (step : s.Step action t) (kept : s.discardsRequest action = false) :
    Answered t := by
  have requests := requests reached
  cases step with
  | @loop move conn moved =>
      intro call record found
      obtain ⟨lives, before⟩ := answered call record found
      refine ⟨lives, fun awaiting dropped => ?_⟩
      change (conn.oneshots call).senderDropped = true at dropped
      change (conn.oneshots call).value.isSome
      cases moved.handled (accounted reached) (ends reached) requests.once call with
      | untouched same _ =>
          rw [same] at dropped ⊢
          exact before awaiting dropped
      | answered _ _ _ fills _ =>
          rw [fills]
          rfl
      | unheard _ _ hungUp _ =>
          have consistent := requests.consistent call record found
          rw [awaiting] at consistent
          rw [consistent.2] at hungUp
          cases hungUp
      | discarded queued _ exiting _ =>
          obtain ⟨state, exiting⟩ := exiting
          rw [(discardsRequest_iff exiting).mpr ⟨call, record, queued, found, awaiting⟩] at kept
          cases kept
  | startReceive | startSend | pollFrame | pollEnd =>
      exact answered.update rfl (fun _ _ => rfl) nofun nofun
  | pollPending | clone | split | reunite | drop => exact answered
  | @accept call record payload tx found atSend enqueues accepted =>
      have consistent := requests.consistent call record found
      rw [atSend] at consistent
      refine answered.update rfl (fun _ _ => congrFun (settle_oneshots ..) _) ?_ fun _ => ?_
      · change record.op.accepted ≠ .panicked
        cases record.op <;> nofun
      · change ((settle _ record record.op.accepted).oneshots call).senderDropped = false
        rw [settle_oneshots, consistent.1]
        rfl
  | refuseSend | join | connect | recvFrame | recvEnd =>
      exact answered.update rfl (fun _ _ => congrFun (settle_oneshots ..) _) nofun nofun
  | @refuseClose call record =>
      refine answered.update rfl (fun _ _ => congrFun (settle_oneshots ..) _) ?_ ?_
      · change record.op.refusedClose ≠ .panicked
        cases record.op <;> nofun
      · change record.op.refusedClose = .awaitingReply → _
        cases record.op <;> nofun
  | @reply call record result =>
      refine answered.update rfl (fun _ _ => congrFun (settle_oneshots ..) _) ?_ ?_
      · change record.op.answered result ≠ .panicked
        cases record.op <;> nofun
      · change record.op.answered result = .awaitingReply → _
        cases record.op <;> nofun
  | panic found awaiting unanswered dropped =>
      have sent := (answered _ _ found).2 awaiting dropped
      rw [unanswered] at sent
      cases sent
  | cancel =>
      refine answered.update rfl (fun other different => ?_) nofun nofun
      exact (congrFun (settle_oneshots ..) other).trans (Function.update_of_ne different ..)

/-- In a run every confirmed request is answered in time, and no caller reaches
`unreachable!`, if and only if no step of the run drops the tx receiver while
the payload of a waiting caller is queued. -/
theorem answered_iff {final : System cfg E} {trace : List (System cfg E × Action E)}
    (run : (system cfg E).Run (.create cfg E) trace final) :
    (∀ s, Machine.Visited trace final s → s.Answered) ↔
      ∀ s action, (s, action) ∈ trace → s.discardsRequest action = false := by
  constructor
  · intro answered s action member
    by_contra discards
    have discards : s.discardsRequest action = true := by simpa using discards
    obtain ⟨t, step, seen⟩ := run.visited_next member
    have reached : (system cfg E).Reachable s := run.reachable (.inr ⟨action, member⟩)
    have rule := step_rule step
    cases pc : s.conn.pc with
    | leaving state stage =>
        cases stage with
        | droppingReceiver =>
            cases rule with
            | loop moved =>
                obtain ⟨call, record, queued, found, awaiting⟩ :=
                  (discardsRequest_iff pc).mp discards
                have unanswered := ((requests reached).pending call (.inl queued)).1
                have dropped := moved.drops pc queued
                have lost := (answered _ seen call record found).2 awaiting (by
                  rw [dropped]
                  rfl)
                rw [dropped] at lost
                change (s.conn.oneshots call).value.isSome at lost
                rw [unanswered] at lost
                cases lost
            | _ => simp [discardsRequest, pc] at discards
        | recording | droppingSender | finished => simp [discardsRequest, pc] at discards
    | select _ | sending _ _ | ponging | closing | keepalive _ =>
        simp [discardsRequest, pc] at discards
  · intro kept s seen
    obtain ⟨front, back, split, before, _⟩ := run.visited seen
    have both : (system cfg E).Reachable s ∧ s.Answered := by
      have meets : ∀ state action, (state, action) ∈ front → state.discardsRequest action = false :=
        fun state action member => kept state action (split ▸ List.mem_append_left _ member)
      apply before.invariant_of meets
      · exact ⟨.initial, fun _ _ found => nomatch found⟩
      rintro middle action target ⟨reached, answered⟩ meets step
      exact ⟨reached.next step, answered.step reached (step_rule step) meets⟩
    exact both.2

/-- A payload is queued after the peer has closed the connection. -/
def queuedAtClose : List (Action Unit) :=
  [.loop (.arm (.incoming (some (.ok (.close none))))), .start 0 (.sendRaw (.binary [1])),
    .advance 0, .loop (.sink (.ok ())), .loop .finish, .loop .finish, .loop .finish, .advance 0]

/-- The caller of the payload that is queued then panics. -/
theorem caller_panics_at_close :
    let s := (system .single Unit).follow (.create .single Unit) queuedAtClose
    (system .single Unit).Reachable s ∧ s.conn.pc = .leaving .closed .finished ∧
      s.calls 0 = some ⟨.sendRaw (.binary [1]), 0, .panicked⟩ :=
  ⟨(system .single Unit).follow_reachable queuedAtClose, by decide, rfl⟩

/-- A payload is written before the peer closes the connection. -/
def writtenBeforeClose : List (Action Unit) :=
  [.start 0 (.sendRaw (.binary [1])), .advance 0, .loop (.arm .outgoing), .loop (.sink (.ok ())),
    .loop (.arm (.incoming (some (.ok (.close none))))), .loop (.sink (.ok ())), .loop .finish,
    .loop .finish, .loop .finish, .advance 0]

theorem answered_iff_writtenBeforeClose :
    let s := (system .single Unit).follow (.create .single Unit) writtenBeforeClose
    s.conn.pc = .leaving .closed .finished ∧ s.Answered := by
  refine ⟨by decide, ?_⟩
  have run := (system .single Unit).run_steps (.create .single Unit) writtenBeforeClose
  have kept : ∀ entry ∈ (system .single Unit).steps (.create .single Unit) writtenBeforeClose,
      entry.1.discardsRequest entry.2 = false := by decide
  exact (answered_iff run).mpr (fun s action member => kept (s, action) member) _ (.inl rfl)

/-- Whether a step completes the write of a payload whose caller was cancelled,
while both halves are alive. -/
def writesForCancelled (s : System cfg E) (action : Action E) : Bool :=
  match s.conn.pc, action with
  | .sending payload _, .loop (.sink _) =>
      (payload.responseTx.any fun call => (s.calls call).any Call.isCancelled) &&
        s.conn.rx.receiver.isSome && decide (s.conn.tx.senders ≠ ∅)
  | _, _ => false

/-- The one-shot of a call is no longer listened to exactly when the call was
cancelled. -/
theorem hungUp_iff (reached : (system cfg E).Reachable s) (call : CallId) :
    (s.conn.oneshots call).receiverDropped = true ↔ (s.calls call).any Call.isCancelled = true := by
  simp only [Option.any_eq_true, Call.isCancelled_iff]
  constructor
  · exact (requests reached).hungUp call
  · rintro ⟨record, found, cancelled⟩
    have consistent := (requests reached).consistent call record found
    rwa [cancelled] at consistent

/-- The end of a handler that had no reason to take the handles for dropped. -/
private theorem not_dropped {result : Except E Unit} {site : Site} {stage : Stage} :
    (sendState result).next site ≠ .leaving (.error .socketeerDroppedWithoutClosing) stage ∧
      (closeState result).next site ≠ .leaving (.error .socketeerDroppedWithoutClosing) stage ∧
      (sendSocketMessageState (result.mapError Error.websocketError) true).next site ≠
        .leaving (.error .socketeerDroppedWithoutClosing) stage := by
  cases result with
  | ok _ | error _ => exact ⟨nofun, nofun, nofun⟩

/-- A step that ends the loop with the cause that the handles were dropped. -/
private theorem dropped_cases (reached : (system cfg E).Reachable s) {move : LoopAction E}
    {conn : Connection cfg E} (step : s.conn.LoopStep move conn)
    (running : s.conn.pc.running = true)
    (ends : conn.pc = .leaving (.error .socketeerDroppedWithoutClosing) .recording) :
    s.conn.rx.receiver = none ∨ s.conn.tx.senders = ∅ ∨
      s.writesForCancelled (.loop move) = true := by
  cases step with
  | sendersGone _ _ gone => exact .inr (.inl gone)
  | refuse _ _ gone | abandon _ gone => exact .inl gone
  | @sentUnheard payload site call result here confirmed cancelled =>
      rcases receiver : s.conn.rx.receiver with _ | owner
      · exact .inl rfl
      · by_cases senders : s.conn.tx.senders = ∅
        · exact .inr (.inl senders)
        · right; right
          rw [hungUp_iff reached] at cancelled
          simp [writesForCancelled, here, confirmed, cancelled, receiver, senders]
  | streamError | streamEnd | outgoing | ping | close | skip | deliver | hold | release | sleep =>
      cases ends
  | ponged | keptAlive => exact absurd ends not_dropped.1
  | sinkClosed => exact absurd ends not_dropped.2.1
  | sentUnconfirmed | sentConfirmed => exact absurd ends not_dropped.2.2
  | record here | dropSender here | dropReceiver here =>
      rw [here] at running
      cases running

/-- In a run the loop ends with the cause that the handles were dropped only
when the receive half or all senders are gone, if and only if no step of the
run completes the write of a cancelled caller while both halves are alive. -/
theorem dropped_truthfully_iff {final : System cfg E} {trace : List (System cfg E × Action E)}
    (run : (system cfg E).Run (.create cfg E) trace final) :
    (∀ s action t, (s, action) ∈ trace → s.step action = some t → s.conn.pc.running = true →
        t.conn.pc = .leaving (.error .socketeerDroppedWithoutClosing) .recording →
          t.conn.rx.receiver = none ∨ t.conn.tx.senders = ∅) ↔
      ∀ s action, (s, action) ∈ trace → s.writesForCancelled action = false := by
  have reached : ∀ {s action}, (s, action) ∈ trace → (system cfg E).Reachable s :=
    fun member => run.reachable (.inr ⟨_, member⟩)
  constructor
  · intro truthful s action member
    by_contra present
    have writes : s.writesForCancelled action = true := by simpa using present
    obtain ⟨t, step, _⟩ := run.visited_next member
    clear present
    unfold writesForCancelled at writes
    split at writes
    · rename_i payload site result sending
      simp only [Bool.and_eq_true, decide_eq_true_eq] at writes
      obtain ⟨⟨cancelled, alive⟩, senders⟩ := writes
      obtain ⟨call, confirmed, cancelled⟩ := (Option.any_eq_true ..).mp cancelled
      obtain ⟨conn, moved, rfl⟩ := Option.map_eq_some_iff.mp step
      have rule := loopStep_rule moved
      have hungUp := (hungUp_iff (reached member) call).mpr cancelled
      have ends := rule.unheard sending confirmed hungUp
      have gone := truthful s _ _ member step (by rw [sending]; rfl) ends
      obtain ⟨receiver, same⟩ := rule.handles
      change conn.rx.receiver = none ∨ conn.tx.senders = ∅ at gone
      rw [receiver, same] at gone
      rcases gone with gone | gone
      · rw [gone] at alive
        cases alive
      · exact senders gone
    · cases writes
  · intro kept s action t member step running ends
    cases action with
    | loop move =>
        obtain ⟨conn, moved, rfl⟩ := Option.map_eq_some_iff.mp step
        have rule := loopStep_rule moved
        obtain ⟨receiver, senders⟩ := rule.handles
        change conn.rx.receiver = none ∨ conn.tx.senders = ∅
        rw [receiver, senders]
        rcases dropped_cases (reached member) rule running ends with gone | gone | writes
        · exact .inl gone
        · exact .inr gone
        · rw [kept s _ member] at writes
          cases writes
    | start | advance | cancel | clone | split | reunite | drop =>
        rcases step_ledger step with ⟨_, same, _⟩ | same
        · cases same
        · rw [← same.pc, ends] at running
          cases running

/-- A send is cancelled while its message is being written. -/
def cancelledSend : List (Action Unit) :=
  [.start 0 (.sendRaw (.binary [1])), .advance 0, .loop (.arm .outgoing), .cancel 0,
    .loop (.sink (.ok ()))]

/-- The loop ends with the error for a dropped `Socketeer`, which is alive. -/
theorem cancelled_send_ends_loop :
    let s := (system .single Unit).follow (.create .single Unit) cancelledSend
    (system .single Unit).Reachable s ∧
      s.conn.pc = .leaving (.error .socketeerDroppedWithoutClosing) .recording ∧
      s.conn.rx.receiver = some 0 ∧ s.conn.tx.senders = {0} :=
  ⟨(system .single Unit).follow_reachable cancelledSend, by decide, by decide, by decide⟩

/-- The receive half is dropped, and a data frame arrives. -/
def droppedReceiver : List (Action Unit) :=
  [.split 0 1, .drop 1, .loop (.arm (.incoming (some (.ok (.binary [1])))))]

theorem dropped_truthfully_iff_droppedReceiver :
    ((system .single Unit).follow (.create .single Unit) droppedReceiver).conn.pc =
        .leaving (.error .socketeerDroppedWithoutClosing) .recording ∧
      ∀ s action t,
        (s, action) ∈ (system .single Unit).steps (.create .single Unit) droppedReceiver →
        s.step action = some t → s.conn.pc.running = true →
          t.conn.pc = .leaving (.error .socketeerDroppedWithoutClosing) .recording →
            t.conn.rx.receiver = none ∨ t.conn.tx.senders = ∅ := by
  refine ⟨by decide, ?_⟩
  have run := (system .single Unit).run_steps (.create .single Unit) droppedReceiver
  have kept : ∀ entry ∈ (system .single Unit).steps (.create .single Unit) droppedReceiver,
      entry.1.writesForCancelled entry.2 = false := by decide
  exact (dropped_truthfully_iff run).mpr fun s action member => kept (s, action) member

end System

end Socketeer
