import Socketeer.Handles.Requests
import Socketeer.Handles.Terminal

/-! # What a graceful end means

A stream that ends, and a `close_connection` that succeeds, mean that the loop
ended in `Closed`, or that a sending call had taken the cause.
-/

namespace Socketeer

open Foundation

variable {cfg : LoopConfig} {E : Type}

/-- What a call that went to the slot has returned for what it took there. -/
def Call.Reports (record : Call E) (read : Option (Error E)) : Prop :=
  match record.pc with
  | .returned (.refused error) =>
      record.op.sends = true ∧ error = toldCause read
  | .returned (.received (.error error)) => error = toldCause read
  | .returned (.polled item) => item = read.map .error
  | .returned (.closed result) => ∀ error, read = some error → result = .error error
  | _ => False

/-- Whether a call has returned after going to the slot for a graceful end. -/
def Call.endsGracefully (record : Call E) : Bool :=
  match record.pc with
  | .returned (.polled none) | .returned (.closed (.ok ())) => true
  | _ => false

/-- A call that reports what it read has ended. -/
theorem Call.Reports.ended {record : Call E} {read : Option (Error E)}
    (reports : record.Reports read) : record.pc.inFlight = false := by
  obtain ⟨op, handle, pc⟩ := record
  cases pc with
  | returned _ => rfl
  | sending | awaitingReply | joining _ | connecting | receiving | panicked | cancelled =>
      cases reports

/-- The cause is reported by a sending call, or by one that receives or owns its
handle. -/
theorem Call.Reports.reporter {record : Call E} {cause : Error E}
    (reports : record.Reports (some cause)) (reaches : record.op.Reaches record.pc) :
    (record.op.sends = true ∧ record.pc = .returned (.refused cause)) ∨
      record.op.receives = true ∨ record.op.consumes = true := by
  obtain ⟨op, handle, pc⟩ := record
  unfold Call.Reports at reports
  split at reports
  · rename_i error refused
    obtain ⟨sends, rfl⟩ := reports
    exact .inl ⟨sends, refused⟩
  · rename_i error received
    dsimp only at received reaches
    subst received
    obtain rfl : op = .nextRawMessage := reaches
    exact .inr (.inl rfl)
  · rename_i item polled
    dsimp only at polled reaches
    subst polled
    obtain rfl : op = .pollNext := reaches
    exact .inr (.inl rfl)
  · rename_i result closed
    dsimp only at closed reaches
    subst closed
    obtain rfl : op = .closeConnection := reaches
    exact .inr (.inr rfl)
  · cases reports

namespace System

open Connection

variable {s t : System cfg E}

/-- Every access to the slot was made by a call that has returned. -/
def Reported (s : System cfg E) : Prop :=
  ∀ access ∈ s.slotReads, ∃ record, s.calls access.1 = some record ∧ record.Reports access.2

/-- Every access to the slot is reported, in every reachable state. -/
theorem reported (reached : (system cfg E).Reachable s) : s.Reported := by
  refine reached.invariant Reported (fun _ member => nomatch member) ?_
  intro s action t reached before step
  have rule := step_rule step
  have stays : ∀ access ∈ s.slotReads, ∃ record, t.calls access.1 = some record ∧
      record.Reports access.2 := by
    intro access member
    obtain ⟨record, found, reports⟩ := before access member
    exact ⟨record, ended_step rule (ownership reached) found reports.ended, reports⟩
  cases slotStep (ends reached) rule with
  | kept reads _ _ | recorded _ reads _ _ =>
      unfold Reported
      rw [reads]
      exact stays
  | @taken call record pc found sends seen returns after reads _ _ =>
      unfold Reported
      rw [reads]
      intro access member
      rcases List.mem_append.mp member with old | new
      · exact stays access old
      · obtain rfl := List.mem_singleton.mp new
        refine ⟨_, after, ?_⟩
        cases point : record.pc with
        | sending =>
            rw [point] at returns
            obtain rfl := Option.some.inj returns
            exact ⟨sends point, rfl⟩
        | receiving =>
            rw [point] at returns
            obtain rfl := Option.some.inj returns
            rfl
        | joining closeSent =>
            rw [point] at returns
            obtain rfl := Option.some.inj returns
            intro error read
            change s.conn.terminalError = some error at read
            rw [read]
        | awaitingReply | connecting | returned _ | panicked | cancelled =>
            rw [point] at returns
            cases returns
  | polled _ _ after reads _ _ =>
      unfold Reported
      rw [reads]
      intro access member
      rcases List.mem_append.mp member with old | new
      · exact stays access old
      · obtain rfl := List.mem_singleton.mp new
        exact ⟨_, after, rfl⟩

/-- Every call that returned a graceful end went to the slot. -/
def Accessed (s : System cfg E) : Prop :=
  ∀ call record, s.calls call = some record → record.endsGracefully = true →
    ∃ read, (call, read) ∈ s.slotReads

/-- A call that moves on is recorded, with its access if it reports a graceful end.
-/
private theorem Accessed.update (accessed : s.Accessed) {call : CallId} {record : Call E}
    (calls : t.calls = Function.update s.calls call (some record))
    (reads : s.slotReads ⊆ t.slotReads)
    (mine : record.endsGracefully = true → ∃ read, (call, read) ∈ t.slotReads) : t.Accessed := by
  intro other record' found graceful
  by_cases here : other = call
  · subst here
    rw [calls, Function.update_self] at found
    obtain rfl := Option.some.inj found
    exact mine graceful
  · rw [calls, Function.update_of_ne here] at found
    obtain ⟨read, member⟩ := accessed other record' found graceful
    exact ⟨read, reads member⟩

/-- Every graceful end comes from an access to the slot, in every reachable state.
-/
theorem accessed (reached : (system cfg E).Reachable s) : s.Accessed := by
  refine reached.invariant Accessed (fun _ _ found => nomatch found) ?_
  intro s action t reached accessed step
  have kept : s.slotReads ⊆ s.slotReads := List.Subset.refl _
  have more : ∀ access, s.slotReads ⊆ s.slotReads ++ [access] := fun access =>
    List.subset_append_left _ _
  have last : ∀ access, access ∈ s.slotReads ++ [access] := fun access =>
    List.mem_append_right _ (List.mem_singleton_self access)
  cases step_rule step with
  | loop | pollPending | clone | split | reunite | drop => exact accessed
  | startReceive | startSend | pollFrame => exact accessed.update rfl kept nofun
  | pollEnd => exact accessed.update rfl (more _) fun _ => ⟨_, last _⟩
  | @accept call record =>
      refine accessed.update rfl kept fun graceful => ?_
      cases op : record.op <;> rw [op] at graceful <;> cases graceful
  | @refuseClose call record =>
      refine accessed.update rfl kept fun graceful => ?_
      cases op : record.op <;> rw [op] at graceful <;> cases graceful
  | @reply call record result =>
      refine accessed.update rfl kept fun graceful => ?_
      cases op : record.op <;> rw [op] at graceful <;> cases graceful
  | panic | connect | recvFrame | cancel => exact accessed.update rfl kept nofun
  | refuseSend | recvEnd => exact accessed.update rfl (more _) nofun
  | join => exact accessed.update rfl (more _) fun _ => ⟨_, last _⟩

/-- A call that returned a graceful end found the slot empty. -/
theorem read_of_graceful (reached : (system cfg E).Reachable s) {call : CallId} {record : Call E}
    (found : s.calls call = some record) (graceful : record.endsGracefully = true) :
    (call, none) ∈ s.slotReads := by
  obtain ⟨read, member⟩ := accessed reached call record found graceful
  obtain ⟨record', found', reports⟩ := reported reached _ member
  obtain rfl := Option.some.inj (found.symm.trans found')
  have none : read = none := by
    cases read with
    | none => rfl
    | some error =>
        unfold Call.endsGracefully at graceful
        unfold Call.Reports at reports
        split at graceful
        · rename_i polled
          rw [polled] at reports
          cases reports
        · rename_i closed
          rw [closed] at reports
          cases reports error rfl
        · cases graceful
  exact none ▸ member

/-- At most one call ever owns its handle. -/
def Sole (s : System cfg E) : Prop :=
  ∀ first record second record', s.calls first = some record → s.calls second = some record' →
    record.op.consumes = true → record'.op.consumes = true → first = second

/-- One call at most ever owns its handle, in every reachable state. -/
theorem sole (reached : (system cfg E).Reachable s) : s.Sole := by
  refine reached.invariant Sole (fun _ _ _ _ found => nomatch found) ?_
  intro s action t reached sole step first record second record' found found' consumes consumes'
  have owned := ownership reached
  have rule := step_rule step
  -- a call that owns its handle is started when there is no other
  have only : ∀ {handle op call old}, s.Permits handle op → op.consumes = true →
      s.calls call = some old → old.op.consumes = false := by
    intro handle op call old permitted consumes foundOld
    cases op with
    | closeConnection | reconnect =>
        exact owned.no_consuming permitted.1.2 permitted.2 foundOld
    | sendRaw _ | sendRawUnconfirmed _ | close | nextRawMessage | pollNext => cases consumes
  rcases found_before rule found with ⟨old, before, same⟩ | ⟨new, permitted⟩
  · rcases found_before rule found' with ⟨old', before', same'⟩ | ⟨new', permitted'⟩
    · exact sole first old second old' before before' (same ▸ consumes) (same' ▸ consumes')
    · have shares := only permitted' consumes' before
      rw [same, consumes] at shares
      cases shares
  · rcases found_before rule found' with ⟨old', before', same'⟩ | ⟨new', permitted'⟩
    · have shares := only permitted consumes before'
      rw [same', consumes'] at shares
      cases shares
    · exact new.trans new'.symm

/-- Once the rx channel is closed, nothing is sent on a one-shot any more. -/
theorem value_of_closed (reached : (system cfg E).Reachable s) (gone : s.conn.rx.senders = ∅)
    {action : Action E} (step : s.Step action t) (call : CallId) :
    (t.conn.oneshots call).value = (s.conn.oneshots call).value := by
  refine value_of_left reached ?_ step call
  by_contra running
  have holds := LoopPc.holdsSender_of_running (by simpa using running)
  rw [(ends reached).closed gone] at holds
  cases holds

/-- Whether the access was made by a receiving call. -/
def ByReceiver (s : System cfg E) (access : CallId × Option (Error E)) : Prop :=
  ∃ record, s.calls access.1 = some record ∧ record.op.receives = true

/-- Whether the access was made by a call that owns its handle. -/
def ByOwner (s : System cfg E) (access : CallId × Option (Error E)) : Prop :=
  ∃ record, s.calls access.1 = some record ∧ record.op.consumes = true

/-- Receiving calls go to the slot before the handle is consumed, and then the
close frame of the call that consumes it is not written. -/
structure Apart (s : System cfg E) : Prop where
  late : ∀ access ∈ s.slotReads, s.ByReceiver access → ∀ call record, s.calls call = some record →
    record.op.consumes = true → (s.conn.oneshots call).value = none
  first : ∀ access rest, s.slotReads = access :: rest → s.ByOwner access →
    ∀ later ∈ rest, ¬ s.ByReceiver later

/-- A step leaves the accesses alone or adds one; a receiving call that makes it
finds no call that owns its handle. -/
private theorem reads_cases (reached : (system cfg E).Reachable s) {action : Action E}
    (step : s.Step action t) : t.slotReads = s.slotReads ∨
      ∃ access, t.slotReads = s.slotReads ++ [access] ∧ s.conn.rx.senders = ∅ ∧
        (t.ByReceiver access → ∀ call record, s.calls call = some record →
          record.op.consumes = false) := by
  have owned := ownership reached
  have ends := ends reached
  cases slotStep ends step with
  | kept reads _ _ | recorded _ reads _ _ => exact .inl reads
  | @taken call record pc found sends seen returns after reads _ _ =>
      refine .inr ⟨_, reads, seen.elim ends.refused id, ?_⟩
      rintro ⟨record', found', receives⟩
      obtain rfl := Option.some.inj (after.symm.trans found')
      have inFlight : record.pc.inFlight = true := by
        cases point : record.pc with
        | sending | receiving | joining _ => rfl
        | awaitingReply | connecting | returned _ | panicked | cancelled =>
            rw [point] at returns
            cases returns
      exact fun _ _ => owned.no_consuming_of_receiving found inFlight receives
  | polled permitted seen _ reads _ _ =>
      exact .inr ⟨_, reads, seen, fun _ _ _ => owned.no_consuming permitted.1 permitted.2⟩

/-- The call that made an access has ended, and stays as it is. -/
private theorem accessor_stays (reached : (system cfg E).Reachable s) {action : Action E}
    (step : s.Step action t) {access : CallId × Option (Error E)}
    (member : access ∈ s.slotReads) :
    t.calls access.1 = s.calls access.1 := by
  obtain ⟨record, found, reports⟩ := reported reached access member
  rw [found, ended_step step (ownership reached) found reports.ended]

/-- An access that counts as the receiver's after a step did so before. -/
private theorem ByReceiver.before (reached : (system cfg E).Reachable s) {action : Action E}
    (step : s.Step action t) {access : CallId × Option (Error E)} (member : access ∈ s.slotReads)
    (receives : t.ByReceiver access) : s.ByReceiver access := by
  rwa [ByReceiver, accessor_stays reached step member] at receives

/-- An access that counts as the owner's after a step did so before. -/
private theorem ByOwner.before (reached : (system cfg E).Reachable s) {action : Action E}
    (step : s.Step action t) {access : CallId × Option (Error E)} (member : access ∈ s.slotReads)
    (owns : t.ByOwner access) : s.ByOwner access := by
  rwa [ByOwner, accessor_stays reached step member] at owns

/-- Once the rx channel is closed, nothing is sent on the one-shot of a new call,
nor on that of a call on which nothing was sent. -/
private theorem unsent_step (reached : (system cfg E).Reachable s) {action : Action E}
    (step : s.Step action t) (gone : s.conn.rx.senders = ∅) {call : CallId} {record : Call E}
    (found : t.calls call = some record)
    (before : ∀ old, s.calls call = some old → old.op = record.op →
      (s.conn.oneshots call).value = none) : (t.conn.oneshots call).value = none := by
  rw [value_of_closed reached gone step]
  rcases found_before step found with ⟨old, foundOld, same⟩ | ⟨rfl, _⟩
  · exact before old foundOld same
  · have unborn := (ownership reached).unborn s.started (Nat.le_refl _)
    rw [(requests reached).unborn _ unborn]
    rfl

/-- Once a receiving call has been at the slot, no call that owns its handle gets a
reply. -/
private theorem Apart.late_step (apart : s.Apart) (reached : (system cfg E).Reachable s)
    {action : Action E} (step : s.Step action t) {access : CallId × Option (Error E)}
    (member : access ∈ t.slotReads) (receives : t.ByReceiver access) {call : CallId}
    {record : Call E} (found : t.calls call = some record) (consumes : record.op.consumes = true) :
    (t.conn.oneshots call).value = none := by
  have old : access ∈ s.slotReads → (t.conn.oneshots call).value = none := by
    intro inside
    have gone := (slot reached).closed (List.ne_nil_of_mem inside)
    refine unsent_step reached step gone found fun old foundOld same => ?_
    exact apart.late access inside (receives.before reached step inside) call old foundOld
      (same ▸ consumes)
  rcases reads_cases reached step with same | ⟨last, reads, gone, alone⟩
  · exact old (same ▸ member)
  · rw [reads] at member
    rcases List.mem_append.mp member with inside | new
    · exact old inside
    · obtain rfl := List.mem_singleton.mp new
      refine unsent_step reached step gone found fun old foundOld same => ?_
      have shares := alone receives call old foundOld
      rw [same, consumes] at shares
      cases shares

/-- After an access by a call that owns its handle, no receiving call comes to the
slot. -/
private theorem Apart.first_step (apart : s.Apart) (reached : (system cfg E).Reachable s)
    {action : Action E} (step : s.Step action t) {first : CallId × Option (Error E)}
    {rest : List (CallId × Option (Error E))} (parts : t.slotReads = first :: rest)
    (owns : t.ByOwner first) {later : CallId × Option (Error E)} (member : later ∈ rest) :
    ¬ t.ByReceiver later := by
  intro receives
  have old : ∀ {others}, s.slotReads = first :: others → later ∈ others → False := by
    intro others before inside
    have memberFirst : first ∈ s.slotReads := before ▸ List.mem_cons_self
    have memberLater : later ∈ s.slotReads := before ▸ List.mem_cons_of_mem _ inside
    exact apart.first first others before (owns.before reached step memberFirst) later inside
      (receives.before reached step memberLater)
  rcases reads_cases reached step with same | ⟨last, reads, gone, alone⟩
  · exact old (same.symm.trans parts) member
  · rw [reads] at parts
    cases before : s.slotReads with
    | nil =>
        rw [before] at parts
        obtain ⟨_, rfl⟩ := List.cons.inj parts
        cases member
    | cons head others =>
        rw [before] at parts
        obtain ⟨rfl, rfl⟩ := List.cons.inj parts
        rcases List.mem_append.mp member with inside | new
        · exact old before inside
        · obtain rfl := List.mem_singleton.mp new
          have memberFirst : head ∈ s.slotReads := before ▸ List.mem_cons_self
          obtain ⟨record, found, consumes⟩ := owns.before reached step memberFirst
          rw [alone receives _ record found] at consumes
          cases consumes

/-- The receiver's accesses and the owner's keep apart in every reachable state. -/
theorem apart (reached : (system cfg E).Reachable s) : s.Apart := by
  refine reached.invariant Apart ⟨nofun, nofun⟩ ?_
  intro s action t reached apart step
  have rule := step_rule step
  constructor
  · exact fun access member receives call record found consumes =>
      apart.late_step reached rule member receives found consumes
  · exact fun first rest parts owns later member =>
      apart.first_step reached rule parts owns member

/-- The cause was handed to a call that sends a message. -/
def HandedToSender (s : System cfg E) (cause : Error E) : Prop :=
  ∃ call record, (call, some cause) ∈ s.slotReads ∧ s.calls call = some record ∧
    record.op.sends = true ∧ record.pc = .returned (.refused cause)

section First

variable {first : CallId × Option (Error E)} {rest : List (CallId × Option (Error E))}
  {cause : Error E}

/-- The first access takes the cause of a loop that ended in an error. -/
private theorem cause_of_first (reached : (system cfg E).Reachable s)
    (reads : s.slotReads = first :: rest) {stage : Stage}
    (error : s.conn.pc = .leaving (.error cause) stage) : first = (first.1, some cause) := by
  obtain ⟨took, _, _⟩ := (slot reached).first first rest reads
  have dropped := (ends reached).closed ((slot reached).closed (by rw [reads]; nofun))
  rw [error] at took dropped
  cases stage with
  | recording | droppingSender => cases dropped
  | droppingReceiver | finished => exact Prod.ext rfl took

/-- When the stream has ended although no receiving call took the cause, the
first access was made by neither side. -/
private theorem first_of_streamEnd (reached : (system cfg E).Reachable s)
    (reads : s.slotReads = first :: rest) (took : first = (first.1, some cause)) {call : CallId}
    {record : Call E} (found : s.calls call = some record)
    (polled : record.pc = .returned (.polled none))
    (unseen : ∀ access ∈ s.slotReads, s.ByReceiver access → access.2 = none) :
    ¬ s.ByReceiver first ∧ ¬ s.ByOwner first := by
  constructor
  · intro receives
    have none := unseen first (by rw [reads]; exact List.mem_cons_self) receives
    rw [took] at none
    cases none
  · intro owns
    have later := read_of_graceful reached found (by rw [Call.endsGracefully, polled])
    have polls := (ownership reached).reaches call record found
    rw [polled] at polls
    rw [reads] at later
    rcases List.mem_cons.mp later with same | inside
    · rw [took] at same
      cases same
    · have receives : record.op.receives = true := by
        rw [show record.op = .pollNext from polls]
        rfl
      exact (apart reached).first first rest reads owns _ inside ⟨record, found, receives⟩

/-- When `close_connection` has returned without an error, the first access was
made by neither side. -/
private theorem first_of_closed (reached : (system cfg E).Reachable s)
    (reads : s.slotReads = first :: rest) (took : first = (first.1, some cause)) {call : CallId}
    {record : Call E} (found : s.calls call = some record)
    (closed : record.pc = .returned (.closed (.ok ()))) :
    ¬ s.ByReceiver first ∧ ¬ s.ByOwner first := by
  have member : first ∈ s.slotReads := by
    rw [reads]
    exact List.mem_cons_self
  have consumes : record.op.consumes = true := by
    have closes := (ownership reached).reaches call record found
    rw [closed] at closes
    rw [show record.op = .closeConnection from closes]
    rfl
  constructor
  · intro receives
    have unsent := (apart reached).late first member receives call record found consumes
    have consistent := (requests reached).consistent call record found
    rw [closed] at consistent
    rw [consistent rfl] at unsent
    cases unsent
  · rintro ⟨other, foundOther, owns⟩
    obtain rfl := sole reached first.1 other call record foundOther found owns consumes
    obtain ⟨record', found', reports⟩ := reported reached first member
    obtain rfl := Option.some.inj (found.symm.trans found')
    unfold Call.Reports at reports
    rw [closed] at reports
    cases reports cause (congrArg Prod.snd took)

end First

/-- If the stream has ended although no receiving call took the cause, or
`close_connection` has returned without an error, then the loop ended in
`Closed`, or its cause was handed to a call that sends a message. -/
theorem graceful_end (reached : (system cfg E).Reachable s)
    (graceful : ((∃ call record, s.calls call = some record ∧
        record.pc = .returned (.polled none)) ∧
          ∀ access ∈ s.slotReads, s.ByReceiver access → access.2 = none) ∨
      ∃ call record, s.calls call = some record ∧ record.pc = .returned (.closed (.ok ()))) :
    (∃ stage, s.conn.pc = .leaving .closed stage) ∨
      ∃ cause stage, s.conn.pc = .leaving (.error cause) stage ∧ s.HandedToSender cause := by
  have read : s.slotReads ≠ [] := by
    rcases graceful with ⟨⟨call, record, found, polled⟩, _⟩ | ⟨call, record, found, closed⟩
    · exact List.ne_nil_of_mem
        (read_of_graceful reached found (by rw [Call.endsGracefully, polled]))
    · exact List.ne_nil_of_mem
        (read_of_graceful reached found (by rw [Call.endsGracefully, closed]))
  obtain ⟨first, rest, reads⟩ := List.exists_cons_of_ne_nil read
  have dropped := (ends reached).closed ((slot reached).closed read)
  cases pc : s.conn.pc with
  | select _ | sending _ _ | ponging | closing | keepalive _ =>
      rw [pc] at dropped
      cases dropped
  | leaving state stage =>
      cases state with
      | running => exact absurd pc (leavesStopped reached stage)
      | closed => exact .inl ⟨stage, rfl⟩
      | error cause =>
          have took := cause_of_first reached reads pc
          have neither : ¬ s.ByReceiver first ∧ ¬ s.ByOwner first := by
            rcases graceful with ⟨⟨call, record, found, polled⟩, unseen⟩ |
              ⟨call, record, found, closed⟩
            · exact first_of_streamEnd reached reads took found polled unseen
            · exact first_of_closed reached reads took found closed
          have member : first ∈ s.slotReads := by
            rw [reads]
            exact List.mem_cons_self
          obtain ⟨record, found, reports⟩ := reported reached first member
          rw [congrArg Prod.snd took] at reports
          rcases reports.reporter ((ownership reached).reaches first.1 record found) with
            ⟨sends, refused⟩ | receives | owns
          · exact .inr ⟨cause, stage, rfl, first.1, record, took ▸ member, found, sends, refused⟩
          · exact absurd ⟨record, found, receives⟩ neither.1
          · exact absurd ⟨record, found, owns⟩ neither.2

/-- The handle is split and the stream fails; a sender is refused with the cause
before the receive half is polled. -/
def causeTakenBySender : List (Action Unit) :=
  [.split 0 1, .loop (.arm (.incoming (some (.error ())))), .loop .finish, .loop .finish,
    .loop .finish, .start 0 (.sendRawUnconfirmed (.binary [1])), .advance 0, .start 1 .pollNext]

/-- The `Stream` ends although the receive half never got the cause. -/
theorem stream_ends_after_error :
    let s := (system .single Unit).follow (.create .single Unit) causeTakenBySender
    (system .single Unit).Reachable s ∧
      s.calls 1 = some ⟨.pollNext, 1, .returned (.polled none)⟩ ∧
      (∀ access ∈ s.slotReads, s.ByReceiver access → access.2 = none) ∧
      s.conn.pc = .leaving (.error (.websocketError ())) .finished := by
  intro s
  have reads : s.slotReads = [(0, some (.websocketError ())), (1, none)] := by decide
  refine ⟨(system .single Unit).follow_reachable causeTakenBySender, rfl, ?_, by decide⟩
  intro access member receives
  rw [reads] at member
  rcases List.mem_cons.mp member with rfl | last
  · obtain ⟨record, found, receives⟩ := receives
    obtain rfl := Option.some.inj found
    cases receives
  · obtain rfl := List.mem_singleton.mp last
    rfl

/-- A clone of the sender outlives the split. `close_connection` sends its close
frame and waits for the task, the stream fails, and the clone is refused with the
cause before `close_connection` looks for it. -/
def causeTakenByClone : List (Action Unit) :=
  [.split 0 1, .clone 0 2, .reunite 1 0, .start 0 .closeConnection, .advance 0,
    .loop (.arm .outgoing), .loop (.sink (.ok ())), .advance 0,
    .loop (.arm (.incoming (some (.error ())))), .loop .finish, .loop .finish, .loop .finish,
    .start 2 (.sendRawUnconfirmed (.binary [1])), .advance 1, .advance 0]

/-- `close_connection` returns `Ok` although the loop ended with an error. -/
theorem close_succeeds_after_error :
    let s := (system .single Unit).follow (.create .single Unit) causeTakenByClone
    (system .single Unit).Reachable s ∧
      s.calls 0 = some ⟨.closeConnection, 0, .returned (.closed (.ok ()))⟩ ∧
      s.HandedToSender (.websocketError ()) ∧
      s.conn.pc = .leaving (.error (.websocketError ())) .finished := by
  intro s
  have reads : s.slotReads = [(1, some (.websocketError ())), (0, none)] := by decide
  refine ⟨(system .single Unit).follow_reachable causeTakenByClone, rfl, ?_, by decide⟩
  exact ⟨1, _, reads ▸ List.mem_cons_self, rfl, rfl, rfl⟩

/-- `close_connection` sends its close frame, the peer closes in turn, and the
call finds the slot empty. -/
def closedByBoth : List (Action Unit) :=
  [.start 0 .closeConnection, .advance 0, .loop (.arm .outgoing), .loop (.sink (.ok ())),
    .advance 0, .loop (.arm (.incoming (some (.ok (.close none))))), .loop (.sink (.ok ())),
    .loop .finish, .loop .finish, .loop .finish, .advance 0]

theorem graceful_end_closedByBoth :
    let s := (system .single Unit).follow (.create .single Unit) closedByBoth
    s.calls 0 = some ⟨.closeConnection, 0, .returned (.closed (.ok ()))⟩ ∧
      ((∃ stage, s.conn.pc = .leaving .closed stage) ∨
        ∃ cause stage, s.conn.pc = .leaving (.error cause) stage ∧ s.HandedToSender cause) := by
  intro s
  have found : s.calls 0 = some ⟨.closeConnection, 0, .returned (.closed (.ok ()))⟩ := rfl
  have reached : (system .single Unit).Reachable s :=
    (system .single Unit).follow_reachable closedByBoth
  exact ⟨found, graceful_end reached (.inr ⟨0, _, found, rfl⟩)⟩

end System

end Socketeer
