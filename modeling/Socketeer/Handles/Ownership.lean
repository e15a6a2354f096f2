import Socketeer.Handles.Step

/-! # Who owns the receive half

A call that receives or owns its handle has the handle, and with it the receive
half, to itself while it is in flight. A call that owned its handle leaves no
receive half behind. Hence the receiving calls of a run complete in the order in
which they were started, and the frames they returned are those taken from the
rx channel (`System.received_eq_taken`).
-/

namespace Socketeer

open Foundation

variable {cfg : LoopConfig} {E : Type}

/-- The calls that wait for an answer on a one-shot. -/
def Op.confirms : Op → Bool
  | .sendRaw _ | .close | .closeConnection | .reconnect => true
  | .sendRawUnconfirmed _ | .nextRawMessage | .pollNext => false

/-- The points a call of each kind can be at. -/
def Op.Reaches (op : Op) : CallPc E → Prop
  | .sending => op.receives = false
  | .awaitingReply | .panicked => op.confirms = true
  | .joining _ | .returned (.closed _) => op = .closeConnection
  | .connecting | .returned .reconnected => op = .reconnect
  | .receiving | .returned (.received _) => op = .nextRawMessage
  | .returned (.polled _) => op = .pollNext
  | .returned .enqueued => ∃ message, op = .sendRawUnconfirmed message
  | .returned (.replied _) => (∃ message, op = .sendRaw message) ∨ op = .close
  | .returned (.refused _) => op.sends = true ∨ op = .close
  | .cancelled => op ≠ .pollNext

/-- A call whose payload was accepted goes on as its operation does. -/
theorem Op.reaches_accepted {op : Op} {call : CallId} {payload : TxChannelPayload}
    (enqueues : op.payload call = some payload) : op.Reaches (op.accepted : CallPc E) := by
  cases op with
  | sendRawUnconfirmed message => exact ⟨message, rfl⟩
  | sendRaw _ | close | closeConnection | reconnect => rfl
  | nextRawMessage | pollNext => cases enqueues

/-- An operation that closes goes on as it does when it is refused. -/
theorem Op.reaches_refusedClose {op : Op} (closes : op.sends = false)
    (enqueues : op.receives = false) : op.Reaches (op.refusedClose : CallPc E) := by
  cases op with
  | sendRaw _ | sendRawUnconfirmed _ => cases closes
  | close => exact .inr rfl
  | closeConnection | reconnect => rfl
  | nextRawMessage | pollNext => cases enqueues

/-- A call that gets its reply goes on as its operation does. -/
theorem Op.reaches_answered {op : Op} (confirms : op.confirms = true)
    (result : Except (Error E) Unit) : op.Reaches (op.answered result) := by
  cases op with
  | sendRaw message => exact .inl ⟨message, rfl⟩
  | close => exact .inr rfl
  | closeConnection | reconnect => rfl
  | sendRawUnconfirmed _ | nextRawMessage | pollNext => cases confirms

/-- The frame a call has returned. -/
def Call.frame? (record : Call E) : Option Message :=
  match record.pc with
  | .returned (.received (.ok message)) => some message
  | .returned (.polled (some (.ok message))) => some message
  | _ => none

/-- A call in flight has received nothing yet. -/
theorem Call.frame?_of_inFlight {record : Call E} (inFlight : record.pc.inFlight = true) :
    record.frame? = none := by
  obtain ⟨op, handle, pc⟩ := record
  cases pc with
  | returned _ | panicked | cancelled => cases inFlight
  | sending | awaitingReply | joining _ | connecting | receiving => rfl

/-- Only a receiving call returns a frame. -/
theorem Call.frame?_of_not_receives {record : Call E} (reaches : record.op.Reaches record.pc)
    (other : record.op.receives = false) : record.frame? = none := by
  obtain ⟨op, handle, pc⟩ := record
  unfold Call.frame?
  split
  · rename_i message equal
    dsimp only at equal other reaches
    subst equal
    obtain rfl : op = .nextRawMessage := reaches
    cases other
  · rename_i message equal
    dsimp only at equal other reaches
    subst equal
    obtain rfl : op = .pollNext := reaches
    cases other
  · rfl

namespace Connection

/-- No step of the task moves the rx receiver or a tx sender. -/
theorem LoopStep.handles {s t : Connection cfg E} {action : LoopAction E}
    (step : s.LoopStep action t) :
    t.rx.receiver = s.rx.receiver ∧ t.tx.senders = s.tx.senders := by
  cases step with
  | outgoing atSelect received => exact ⟨rfl, received.senders⟩
  | deliver atSelect data accepted => exact ⟨accepted.receiver, rfl⟩
  | release atSelect accepted => exact ⟨accepted.receiver, rfl⟩
  | sendersGone | ping | close | skip | streamError | streamEnd | refuse | hold | abandon | sleep
  | sentUnconfirmed | sentConfirmed | sentUnheard | ponged | sinkClosed | keptAlive | record
  | dropSender | dropReceiver => exact ⟨rfl, rfl⟩

/-- No step of the task takes from the rx channel. -/
theorem LoopStep.taken {s t : Connection cfg E} {action : LoopAction E}
    (step : s.LoopStep action t) : t.rx.taken = s.rx.taken := by
  cases step with
  | deliver atSelect data accepted => exact accepted.taken
  | release atSelect accepted => exact accepted.taken
  | outgoing | sendersGone | ping | close | skip | streamError | streamEnd | refuse | hold
  | abandon | sleep | sentUnconfirmed | sentConfirmed | sentUnheard | ponged | sinkClosed
  | keptAlive | record | dropSender | dropReceiver => rfl

end Connection

namespace System

/-- Who owns the receive half. -/
structure Ownership (s : System cfg E) : Prop where
  unborn : ∀ call, s.started ≤ call → s.calls call = none
  reaches : ∀ call record, s.calls call = some record → record.op.Reaches record.pc
  exclusive : ∀ call record, s.calls call = some record → record.pc.inFlight = true →
    record.op.consumes = true ∨ record.op.receives = true →
      s.conn.rx.receiver = some record.handle ∧ ∀ other, s.Borrows record.handle other →
        other = call
  consumed : ∀ call record, s.calls call = some record → record.op.consumes = true →
    record.pc.inFlight = false → s.conn.rx.receiver = none
  latest : ∀ call record, s.calls call = some record → record.pc.inFlight = true →
    record.op.receives = true → ∀ later record', call < later → s.calls later = some record' →
      record'.op.receives = false

variable {s t : System cfg E}

theorem Ownership.create (cfg : LoopConfig) (E : Type) : Ownership (.create cfg E) where
  unborn _ _ := rfl
  reaches _ _ found := nomatch found
  exclusive _ _ found := nomatch found
  consumed _ _ found := nomatch found
  latest _ _ found := nomatch found

/-- Only calls that have started borrow a handle. -/
theorem Ownership.borrows_started (owned : Ownership s) {handle : HandleId} {call : CallId}
    (borrows : s.Borrows handle call) : call < s.started := by
  obtain ⟨record, found, _⟩ := borrows
  by_contra later
  rw [owned.unborn call (Nat.not_lt.mp later)] at found
  cases found

/-- While the owner of the receive half is idle, no call has it to itself. -/
theorem Ownership.not_exclusive (owned : Ownership s) {handle : HandleId}
    (owner : s.conn.rx.receiver = some handle) (idle : s.Idle handle) {call : CallId}
    {record : Call E} (found : s.calls call = some record)
    (inFlight : record.pc.inFlight = true) :
    record.op.consumes = false ∧ record.op.receives = false := by
  by_contra takes
  have alone : record.op.consumes = true ∨ record.op.receives = true := by
    cases consumes : record.op.consumes <;> cases receives : record.op.receives <;> simp_all
  obtain ⟨owns, _⟩ := owned.exclusive call record found inFlight alone
  have same : record.handle = handle := Option.some.inj (owns.symm.trans owner)
  have borrows : s.Borrows handle call := ⟨record, found, same, inFlight⟩
  exact idle call (owned.borrows_started borrows) borrows

/-- A step that keeps the calls and leaves the receive half where it is. -/
private theorem Ownership.keep (owned : Ownership s) (calls : t.calls = s.calls)
    (started : t.started = s.started)
    (receiver : t.conn.rx.receiver = s.conn.rx.receiver) : Ownership t := by
  have borrows : ∀ handle call, t.Borrows handle call → s.Borrows handle call := by
    intro handle call
    simp only [Borrows, calls]
    exact id
  constructor
  · intro call
    rw [started, calls]
    exact owned.unborn call
  · rw [calls]
    exact owned.reaches
  · intro call record found inFlight takes
    rw [calls] at found
    rw [receiver]
    obtain ⟨owns, alone⟩ := owned.exclusive call record found inFlight takes
    exact ⟨owns, fun other held => alone other (borrows _ _ held)⟩
  · intro call record found
    rw [calls] at found
    rw [receiver]
    exact owned.consumed call record found
  · intro call record found inFlight receives later record' after found'
    rw [calls] at found found'
    exact owned.latest call record found inFlight receives later record' after found'

/-- A step by the owner of the receive half, which is idle: it may hand the
receive half to another handle or drop it. -/
private theorem Ownership.rehome (owned : Ownership s) (calls : t.calls = s.calls)
    (started : t.started = s.started) {handle : HandleId}
    (owner : s.conn.rx.receiver = some handle) (idle : s.Idle handle) : Ownership t := by
  constructor
  · intro call
    rw [started, calls]
    exact owned.unborn call
  · rw [calls]
    exact owned.reaches
  · intro call record found inFlight takes
    rw [calls] at found
    obtain ⟨shared, sends⟩ := owned.not_exclusive owner idle found inFlight
    rcases takes with consumes | receives
    · rw [shared] at consumes
      cases consumes
    · rw [sends] at receives
      cases receives
  · intro call record found consumes ended
    rw [calls] at found
    rw [owned.consumed call record found consumes ended] at owner
    cases owner
  · intro call record found inFlight receives later record' after found'
    rw [calls] at found
    obtain ⟨_, sends⟩ := owned.not_exclusive owner idle found inFlight
    rw [sends] at receives
    cases receives

/-- Adding a call whose start is permitted. -/
private theorem Ownership.begin (owned : Ownership s) {handle : HandleId} {op : Op}
    {pc : CallPc E} (permitted : s.Permits handle op) (reaches : op.Reaches pc)
    (live : op.consumes = true → pc.inFlight = true) :
    Ownership (s.begin handle op pc) := by
  have alone : op.consumes = true ∨ op.receives = true →
      s.conn.rx.receiver = some handle ∧ s.Idle handle := by
    intro takes
    cases op with
    | sendRaw _ | sendRawUnconfirmed _ | close => rcases takes with takes | takes <;> cases takes
    | closeConnection | reconnect => exact ⟨permitted.1.2, permitted.2⟩
    | nextRawMessage | pollNext => exact permitted
  have shared : op.consumes = false → op.receives = false → s.Shared handle := by
    intro keeps sends
    cases op with
    | sendRaw _ | sendRawUnconfirmed _ | close => exact permitted.2
    | closeConnection | reconnect => cases keeps
    | nextRawMessage | pollNext => cases sends
  have borrows : ∀ {held other}, (s.begin handle op pc).Borrows held other →
      other ≠ s.started → s.Borrows held other := by
    rintro held other ⟨record, found, same, inFlight⟩ old
    rw [Option.mem_def, begin_calls_of_ne s old] at found
    exact ⟨record, found, same, inFlight⟩
  constructor
  · intro call later
    have old : s.started ≤ call := Nat.le_of_succ_le later
    have different : call ≠ s.started := Nat.ne_of_gt later
    rw [begin_calls_of_ne s different]
    exact owned.unborn call old
  · intro call record found
    rcases begin_found found with ⟨_, rfl⟩ | ⟨_, found⟩
    · exact reaches
    · exact owned.reaches call record found
  · intro call record found inFlight takes
    rcases begin_found found with ⟨rfl, rfl⟩ | ⟨_, old⟩
    · obtain ⟨owner, idle⟩ := alone takes
      refine ⟨owner, fun other held => ?_⟩
      by_contra different
      have before := borrows held different
      exact idle other (owned.borrows_started before) before
    · obtain ⟨owns, only⟩ := owned.exclusive call record old inFlight takes
      refine ⟨owns, fun other held => ?_⟩
      by_cases new : other = s.started
      · -- the new call would be on the handle of a call that has it to itself
        exfalso
        obtain ⟨record', found', same, _⟩ := held
        rw [new, Option.mem_def, begin_calls_self] at found'
        obtain rfl := Option.some.inj found'
        obtain rfl : handle = record.handle := same
        have held : s.Borrows record.handle call := ⟨record, old, rfl, inFlight⟩
        by_cases takes' : op.consumes = true ∨ op.receives = true
        · exact (alone takes').2 call (owned.borrows_started held) held
        · simp only [not_or, Bool.not_eq_true] at takes'
          have shares := shared takes'.1 takes'.2 call (owned.borrows_started held) held
            record old
          rcases takes with consumes | receives
          · exact shares.1 consumes
          · exact shares.2 receives
      · exact only other (borrows held new)
  · intro call record found consumes ended
    rcases begin_found found with ⟨_, rfl⟩ | ⟨_, found⟩
    · rw [live consumes] at ended
      cases ended
    · exact owned.consumed call record found consumes ended
  · intro call record found inFlight receives later record' after found'
    rcases begin_found found' with ⟨rfl, rfl⟩ | ⟨new, found'⟩
    · have different : call ≠ s.started := Nat.ne_of_lt after
      rw [begin_calls_of_ne s different] at found
      by_contra again
      obtain ⟨owner, idle⟩ := alone (.inr (by simpa using again))
      have other := (owned.not_exclusive owner idle found inFlight).2
      rw [other] at receives
      cases receives
    · rcases begin_found found with ⟨rfl, _⟩ | ⟨_, found⟩
      · rw [owned.unborn later (Nat.le_of_lt after)] at found'
        cases found'
      · exact owned.latest call record found inFlight receives later record' after found'

/-- Moving a call on. -/
private theorem Ownership.moveTo (owned : Ownership s) {call : CallId} {record : Call E}
    {pc : CallPc E} (found : s.calls call = some record) (inFlight : record.pc.inFlight = true)
    (reaches : record.op.Reaches pc) : Ownership (s.moveTo call record pc) := by
  -- every call is the same one as before, except for its point
  have before : ∀ {other record'}, (s.moveTo call record pc).calls other = some record' →
      ∃ old, s.calls other = some old ∧ old.handle = record'.handle ∧ old.op = record'.op ∧
        (record'.pc.inFlight = true → old.pc.inFlight = true) := by
    intro other record' found'
    rcases moveTo_found found' with ⟨rfl, rfl⟩ | ⟨_, found'⟩
    · exact ⟨record, found, rfl, rfl, fun _ => inFlight⟩
    · exact ⟨record', found', rfl, rfl, id⟩
  have borrows : ∀ {handle other}, (s.moveTo call record pc).Borrows handle other →
      s.Borrows handle other := by
    rintro handle other ⟨record', found', same, inFlight'⟩
    obtain ⟨old, foundOld, handles, _, live⟩ := before found'
    exact ⟨old, foundOld, handles.trans same, live inFlight'⟩
  -- only the end of a call that owns its handle moves the receive half
  have receiver : ((s.moveTo call record pc).conn.rx.receiver = s.conn.rx.receiver ∧
        ¬ (record.op.consumes = true ∧ pc.inFlight = false)) ∨
      ((s.moveTo call record pc).conn.rx.receiver = none ∧ record.op.consumes = true ∧
        pc.inFlight = false) := by
    rcases s.conn.settle_cases record pc with ⟨same, stays⟩ | ⟨dropped, consumes, ended⟩
    · exact .inl ⟨congrArg (fun conn => conn.rx.receiver) same, by simpa using stays⟩
    · obtain ⟨owner, _⟩ := owned.exclusive call record found inFlight (.inl consumes)
      refine .inr ⟨?_, consumes, by simpa using ended⟩
      change (s.conn.settle record pc).rx.receiver = none
      rw [dropped, Connection.dropHandle_rx_receiver, if_pos owner]
  constructor
  · intro other later
    have different : other ≠ call := by
      rintro rfl
      rw [owned.unborn _ later] at found
      cases found
    rw [moveTo_calls_of_ne s different]
    exact owned.unborn other later
  · intro other record' found'
    rcases moveTo_found found' with ⟨_, rfl⟩ | ⟨_, found'⟩
    · exact reaches
    · exact owned.reaches other record' found'
  · intro other record' found' inFlight' takes
    obtain ⟨old, foundOld, handles, ops, live⟩ := before found'
    obtain ⟨owns, only⟩ := owned.exclusive other old foundOld (live inFlight') (ops ▸ takes)
    rw [handles] at owns only
    refine ⟨?_, fun third held => only third (borrows held)⟩
    rcases receiver with ⟨same, _⟩ | ⟨gone, consumes, ended⟩
    · rw [same, owns]
    · -- the call that ended had the handle to itself
      exfalso
      obtain ⟨owner, _⟩ := owned.exclusive call record found inFlight (.inl consumes)
      have sameHandle : record.handle = record'.handle := Option.some.inj (owner.symm.trans owns)
      obtain rfl : call = other := only call ⟨record, found, sameHandle, inFlight⟩
      rw [moveTo_calls_self] at found'
      obtain rfl := Option.some.inj found'
      rw [show pc.inFlight = true from inFlight'] at ended
      cases ended
  · intro other record' found' consumes ended
    rcases receiver with ⟨same, stays⟩ | ⟨none, _⟩
    · rcases moveTo_found found' with ⟨_, rfl⟩ | ⟨_, found'⟩
      · exact absurd ⟨consumes, ended⟩ stays
      · rw [same, owned.consumed other record' found' consumes ended]
    · exact none
  · intro other record' found' inFlight' receives later record'' after found''
    obtain ⟨old, foundOld, _, ops, live⟩ := before found'
    obtain ⟨oldLater, foundLater, _, opsLater, _⟩ := before found''
    rw [← opsLater]
    exact owned.latest other old foundOld (live inFlight') (ops ▸ receives) later oldLater after
      foundLater

/-- Dropping a handle on which no call is in flight. -/
private theorem Ownership.drop (owned : Ownership s) {handle : HandleId}
    (idle : s.Idle handle) :
    Ownership { s with conn := s.conn.dropHandle handle } := by
  by_cases owner : s.conn.rx.receiver = some handle
  · exact owned.rehome rfl rfl owner idle
  · refine owned.keep rfl rfl ?_
    rw [Connection.dropHandle_rx_receiver, if_neg owner]

/-- Every step keeps the account of who owns the receive half. -/
theorem Ownership.step (owned : Ownership s) {action : Action E} (step : s.Step action t) :
    Ownership t := by
  cases step with
  | loop step => exact owned.keep rfl rfl step.handles.1
  | startReceive permitted => exact owned.begin permitted rfl fun _ => rfl
  | startSend permitted sends => exact owned.begin permitted sends fun _ => rfl
  | @pollFrame handle message rx permitted received =>
      have begun : Ownership (s.begin handle .pollNext
          (.returned (.polled (some (.ok message))))) :=
        owned.begin permitted rfl nofun
      exact begun.keep rfl rfl received.receiver
  | @pollEnd handle permitted _ _ =>
      have begun : Ownership (s.begin handle .pollNext
          (.returned (.polled (s.conn.terminalError.map .error)))) :=
        owned.begin permitted rfl nofun
      exact begun.keep rfl rfl rfl
  | pollPending _ => exact owned
  | @accept call record payload tx found atSend enqueues accepted =>
      have kept : Ownership { s with conn := { s.conn with tx := tx } } := owned.keep rfl rfl rfl
      exact kept.moveTo found (by rw [atSend]; rfl) (Op.reaches_accepted enqueues)
  | @refuseSend call record found atSend sends _ =>
      have kept : Ownership (s.takeTerminalErrorOpt call) := owned.keep rfl rfl rfl
      exact kept.moveTo found (by rw [atSend]; rfl) (.inl sends)
  | @refuseClose call record found atSend closes enqueues _ =>
      exact owned.moveTo found (by rw [atSend]; rfl) (Op.reaches_refusedClose closes enqueues)
  | @reply call record result found awaiting _ =>
      have confirms := owned.reaches call record found
      rw [awaiting] at confirms
      exact owned.moveTo found (by rw [awaiting]; rfl) (Op.reaches_answered confirms result)
  | panic found awaiting _ _ =>
      have confirms := owned.reaches _ _ found
      rw [awaiting] at confirms
      exact owned.moveTo found (by rw [awaiting]; rfl) confirms
  | @join call record closeSent state found joining _ =>
      have closes := owned.reaches call record found
      rw [joining] at closes
      have kept : Ownership (s.takeTerminalErrorOpt call) := owned.keep rfl rfl rfl
      exact kept.moveTo found (by rw [joining]; rfl) closes
  | connect found connecting =>
      have reconnects := owned.reaches _ _ found
      rw [connecting] at reconnects
      exact owned.moveTo found (by rw [connecting]; rfl) reconnects
  | @recvFrame call record message rx found receiving received =>
      have receives := owned.reaches call record found
      rw [receiving] at receives
      have kept : Ownership { s with conn := { s.conn with rx := rx } } :=
        owned.keep rfl rfl received.receiver
      exact kept.moveTo found (by rw [receiving]; rfl) receives
  | @recvEnd call record found receiving _ _ =>
      have receives := owned.reaches call record found
      rw [receiving] at receives
      have kept : Ownership (s.takeTerminalErrorOpt call) := owned.keep rfl rfl rfl
      exact kept.moveTo found (by rw [receiving]; rfl) receives
  | @cancel call record found inFlight =>
      have kept : Ownership { s with conn := s.conn.hangUp call } := owned.keep rfl rfl rfl
      refine kept.moveTo found inFlight ?_
      -- a poll is over as soon as it has started
      have reaches := owned.reaches call record found
      rintro polls
      rcases record with ⟨op, _, pc⟩
      obtain rfl : op = .pollNext := polls
      cases pc with
      | sending | awaitingReply | joining _ | connecting | receiving => cases reaches
      | returned _ | panicked | cancelled => cases inFlight
  | clone tx unused => exact owned.keep rfl rfl rfl
  | split whole idle unused => exact owned.rehome rfl rfl whole.2 idle
  | reunite receives sends idleRx idleTx => exact owned.rehome rfl rfl receives.2 idleRx
  | drop idle => exact owned.drop idle

/-- Handles are lent and owned as Rust has it, in every reachable state. -/
theorem ownership (reached : (system cfg E).Reachable s) : Ownership s :=
  reached.invariant Ownership (.create cfg E)
    fun _ _ _ _ owned step => owned.step (step_rule step)

/-- A call that has ended stays as it is. -/
theorem ended_step {action : Action E} (step : s.Step action t) (owned : Ownership s)
    {call : CallId} {record : Call E} (found : s.calls call = some record)
    (ended : record.pc.inFlight = false) : t.calls call = some record := by
  have moves : ∀ {u : System cfg E} {other record' pc}, u.calls = s.calls →
      s.calls other = some record' → record'.pc.inFlight = true →
      (u.moveTo other record' pc).calls call = some record := by
    intro u other record' pc calls found' inFlight
    have different : call ≠ other := by
      rintro rfl
      obtain rfl := Option.some.inj (found.symm.trans found')
      rw [ended] at inFlight
      cases inFlight
    rw [moveTo_calls_of_ne u different, calls, found]
  have begins : ∀ {u : System cfg E} {handle op pc}, u.calls = s.calls → u.started = s.started →
      (u.begin handle op pc).calls call = some record := by
    intro u handle op pc calls started
    have different : call ≠ u.started := by
      rintro rfl
      rw [owned.unborn _ (Nat.le_of_eq started.symm)] at found
      cases found
    rw [begin_calls_of_ne u different, calls, found]
  cases step with
  | loop | pollPending | clone | split | reunite | drop => exact found
  | startReceive | startSend | pollFrame | pollEnd => exact begins rfl rfl
  | accept other atPoint | refuseSend other atPoint | refuseClose other atPoint
  | reply other atPoint | panic other atPoint | join other atPoint | connect other atPoint
  | recvFrame other atPoint | recvEnd other atPoint =>
      exact moves rfl other (by rw [atPoint]; rfl)
  | cancel other inFlight => exact moves rfl other inFlight

/-- A call that has ended stays as it is over a run. -/
theorem run_ended {trace : List (System cfg E × Action E)} (reached : (system cfg E).Reachable s)
    (run : (system cfg E).Run s trace t) {call : CallId} {record : Call E}
    (found : s.calls call = some record) (ended : record.pc.inFlight = false) :
    t.calls call = some record := by
  have both : (system cfg E).Reachable t ∧ t.calls call = some record := by
    apply run.invariant
    · exact ⟨reached, found⟩
    rintro middle action target ⟨reached, found⟩ step
    exact ⟨reached.next step, ended_step (step_rule step) (ownership reached) found ended⟩
  exact both.2

/-- Every call of a state was there before the step, or was permitted by it. -/
theorem found_before {action : Action E} (step : s.Step action t) {call : CallId}
    {record : Call E} (found : t.calls call = some record) :
    (∃ old, s.calls call = some old ∧ old.op = record.op) ∨
      (call = s.started ∧ s.Permits record.handle record.op) := by
  have moves : ∀ {u : System cfg E} {other record' pc}, u.calls = s.calls →
      s.calls other = some record' → (u.moveTo other record' pc).calls call = some record →
      ∃ old, s.calls call = some old ∧ old.op = record.op := by
    intro u other record' pc calls found' found
    rcases moveTo_found found with ⟨rfl, rfl⟩ | ⟨_, old⟩
    · exact ⟨record', found', rfl⟩
    · exact ⟨record, (congrFun calls call).symm.trans old, rfl⟩
  have begins : ∀ {u : System cfg E} {handle op pc}, u.calls = s.calls → u.started = s.started →
      s.Permits handle op → (u.begin handle op pc).calls call = some record →
      (∃ old, s.calls call = some old ∧ old.op = record.op) ∨
        (call = s.started ∧ s.Permits record.handle record.op) := by
    intro u handle op pc calls started permitted found
    rcases begin_found found with ⟨rfl, rfl⟩ | ⟨_, old⟩
    · exact .inr ⟨started, permitted⟩
    · exact .inl ⟨record, (congrFun calls call).symm.trans old, rfl⟩
  cases step with
  | loop | pollPending | clone | split | reunite | drop => exact .inl ⟨record, found, rfl⟩
  | startReceive permitted | startSend permitted => exact begins rfl rfl permitted found
  | pollFrame permitted | pollEnd permitted => exact begins rfl rfl permitted found
  | accept other | refuseSend other | refuseClose other | reply other | panic other | join other
  | connect other | recvFrame other | recvEnd other | cancel other =>
      exact .inl (moves rfl other found)

/-- A call keeps what it was asked for. -/
theorem found_after {action : Action E} (step : s.Step action t) (owned : Ownership s)
    {call : CallId} {record : Call E} (found : s.calls call = some record) :
    ∃ next, t.calls call = some next ∧ next.op = record.op := by
  have moves : ∀ {u : System cfg E} {other record' pc}, u.calls = s.calls →
      s.calls other = some record' →
      ∃ next, (u.moveTo other record' pc).calls call = some next ∧ next.op = record.op := by
    intro u other record' pc calls found'
    by_cases here : call = other
    · subst here
      obtain rfl := Option.some.inj (found.symm.trans found')
      exact ⟨_, moveTo_calls_self .., rfl⟩
    · exact ⟨record, (moveTo_calls_of_ne u here).trans ((congrFun calls call).trans found), rfl⟩
  have begins : ∀ {u : System cfg E} {handle op pc}, u.calls = s.calls → u.started = s.started →
      ∃ next, (u.begin handle op pc).calls call = some next ∧ next.op = record.op := by
    intro u handle op pc calls started
    have old : call ≠ u.started := by
      rintro rfl
      rw [owned.unborn _ (Nat.le_of_eq started.symm)] at found
      cases found
    exact ⟨record, (begin_calls_of_ne u old).trans ((congrFun calls call).trans found), rfl⟩
  cases step with
  | loop | pollPending | clone | split | reunite | drop => exact ⟨record, found, rfl⟩
  | startReceive | startSend | pollFrame | pollEnd => exact begins rfl rfl
  | accept other | refuseSend other | refuseClose other | reply other | panic other | join other
  | connect other | recvFrame other | recvEnd other | cancel other => exact moves rfl other

/-- A call that was not there before the step was started by it. -/
theorem started_by {action : Action E} (step : s.Step action t) {call : CallId} {record : Call E}
    (found : t.calls call = some record) (unborn : s.calls call = none) :
    action = .start record.handle record.op := by
  have moves : ∀ {u : System cfg E} {other record' pc}, u.calls = s.calls →
      s.calls other = some record' → (u.moveTo other record' pc).calls call ≠ some record := by
    intro u other record' pc calls found' found
    rcases moveTo_found found with ⟨rfl, _⟩ | ⟨_, old⟩
    · rw [unborn] at found'
      cases found'
    · rw [calls, unborn] at old
      cases old
  have begins : ∀ {u : System cfg E} {handle op pc}, u.calls = s.calls →
      (u.begin handle op pc).calls call = some record →
        handle = record.handle ∧ op = record.op := by
    intro u handle op pc calls found
    rcases begin_found found with ⟨_, rfl⟩ | ⟨_, old⟩
    · exact ⟨rfl, rfl⟩
    · rw [calls, unborn] at old
      cases old
  cases step with
  | loop | pollPending | clone | split | reunite | drop =>
      change s.calls call = some record at found
      rw [unborn] at found
      cases found
  | startReceive | startSend | pollFrame | pollEnd =>
      obtain ⟨handle, op⟩ := begins rfl found
      rw [handle, op]
  | accept other | refuseSend other | refuseClose other | reply other | panic other | join other
  | connect other | recvFrame other | recvEnd other | cancel other =>
      exact absurd found (moves rfl other)

/-- While the owner of the receive half is idle, no call owns its handle or ever
did. -/
theorem Ownership.no_consuming (owned : Ownership s) {handle : HandleId}
    (owner : s.conn.rx.receiver = some handle) (idle : s.Idle handle) {call : CallId}
    {record : Call E} (found : s.calls call = some record) : record.op.consumes = false := by
  by_contra consumes
  have consumes : record.op.consumes = true := by simpa using consumes
  cases inFlight : record.pc.inFlight with
  | true =>
      rw [(owned.not_exclusive owner idle found inFlight).1] at consumes
      cases consumes
  | false =>
      rw [owned.consumed call record found consumes inFlight] at owner
      cases owner

/-- While a receive is in flight, no call owns its handle or ever did. -/
theorem Ownership.no_consuming_of_receiving (owned : Ownership s) {receiver : CallId}
    {receiving : Call E} (foundReceiver : s.calls receiver = some receiving)
    (live : receiving.pc.inFlight = true) (receives : receiving.op.receives = true) {call : CallId}
    {record : Call E} (found : s.calls call = some record) : record.op.consumes = false := by
  obtain ⟨owner, _⟩ := owned.exclusive receiver receiving foundReceiver live (.inr receives)
  by_contra consumes
  have consumes : record.op.consumes = true := by simpa using consumes
  cases inFlight : record.pc.inFlight with
  | true =>
      obtain ⟨owner', alone⟩ := owned.exclusive call record found inFlight (.inl consumes)
      have same : receiving.handle = record.handle := Option.some.inj (owner.symm.trans owner')
      obtain rfl := alone receiver ⟨receiving, foundReceiver, same, live⟩
      obtain rfl := Option.some.inj (foundReceiver.symm.trans found)
      cases op : receiving.op <;> simp_all [Op.consumes, Op.receives]
  | false =>
      rw [owned.consumed call record found consumes inFlight] at owner
      cases owner

/-- The frame a call of the run so far has returned. -/
def frameOf (s : System cfg E) (call : CallId) : Option Message :=
  (s.calls call).bind Call.frame?

/-- The frames the receiving calls have returned, in the order in which these
calls were started. -/
def received (s : System cfg E) : List Message :=
  (List.range s.started).filterMap s.frameOf

/-- A call that begins adds to what was received at most its own frame. -/
private theorem received_begin (s : System cfg E) (handle : HandleId) (op : Op) (pc : CallPc E) :
    (s.begin handle op pc).received =
      s.received ++ (Call.frame? { op := op, handle := handle, pc := pc }).toList := by
  have old : ∀ call ∈ List.range s.started,
      (s.begin handle op pc).frameOf call = s.frameOf call := by
    intro call before
    unfold frameOf
    rw [begin_calls_of_ne s (Nat.ne_of_lt (List.mem_range.mp before))]
  have new : (s.begin handle op pc).frameOf s.started =
      Call.frame? { op := op, handle := handle, pc := pc } := by
    unfold frameOf
    rw [begin_calls_self]
    rfl
  change (List.range (s.started + 1)).filterMap _ = _
  rw [List.range_succ, List.filterMap_append, List.filterMap_congr old]
  cases frame : Call.frame? { op := op, handle := handle, pc := pc } with
  | none => simp [new, frame, received]
  | some message => simp [new, frame, received]

/-- A call that moves on without returning a frame. -/
private theorem received_silent (same : s.received = s.conn.rx.taken) {call : CallId}
    {record : Call E} {pc : CallPc E} (found : s.calls call = some record)
    (inFlight : record.pc.inFlight = true)
    (calls : t.calls = Function.update s.calls call (some { record with pc := pc }))
    (started : t.started = s.started) (taken : t.conn.rx.taken = s.conn.rx.taken)
    (silent : Call.frame? { record with pc := pc } = none) : t.received = t.conn.rx.taken := by
  rw [taken, ← same, received, received, started]
  refine List.filterMap_congr fun other _ => ?_
  rw [frameOf, frameOf, calls]
  by_cases here : other = call
  · rw [here, Function.update_self, found]
    exact silent.trans (Call.frame?_of_inFlight inFlight).symm
  · rw [Function.update_of_ne here]

/-- A receiving call returns its frame after all that were returned before. -/
private theorem Ownership.received_moveTo (owned : Ownership s) {call : CallId}
    {record : Call E} {pc : CallPc E} {message : Message} (found : s.calls call = some record)
    (inFlight : record.pc.inFlight = true) (receives : record.op.receives = true)
    (returns : Call.frame? { record with pc := pc } = some message) :
    (s.moveTo call record pc).received = s.received ++ [message] := by
  have bound : call < s.started := by
    by_contra later
    rw [owned.unborn call (Nat.not_lt.mp later)] at found
    cases found
  have upTo : ∀ n, call < n → (List.range n).filterMap (s.moveTo call record pc).frameOf =
      (List.range n).filterMap s.frameOf ++ [message] := by
    intro n after
    induction n with
    | zero => cases after
    | succ n ih =>
        rw [List.range_succ, List.filterMap_append, List.filterMap_append]
        by_cases here : n = call
        · -- the calls before are the same, and this one had returned nothing
          have before : ∀ other ∈ List.range n,
              (s.moveTo call record pc).frameOf other = s.frameOf other := by
            intro other earlier
            unfold frameOf
            rw [moveTo_calls_of_ne s (here ▸ Nat.ne_of_lt (List.mem_range.mp earlier))]
          have old : s.frameOf call = none := by
            unfold frameOf
            rw [found]
            exact Call.frame?_of_inFlight inFlight
          have new : (s.moveTo call record pc).frameOf call = some message := by
            unfold frameOf
            rw [moveTo_calls_self]
            exact returns
          rw [List.filterMap_congr before, here]
          simp [old, new]
        · -- a later call receives nothing
          have older : call < n := Nat.lt_of_le_of_ne (Nat.le_of_lt_succ after) (Ne.symm here)
          have before : s.frameOf n = none := by
            unfold frameOf
            cases later : s.calls n with
            | none => rfl
            | some record' =>
                exact Call.frame?_of_not_receives (owned.reaches n record' later)
                  (owned.latest call record found inFlight receives n record' older later)
          have still : (s.moveTo call record pc).frameOf n = none := by
            unfold frameOf at before ⊢
            rw [moveTo_calls_of_ne s here, before]
          rw [ih older]
          simp [before, still]
  exact upTo s.started bound

/-- The frames returned by the receiving calls are those taken from the rx
channel, in order. -/
theorem received_eq_taken (reached : (system cfg E).Reachable s) :
    s.received = s.conn.rx.taken := by
  refine reached.invariant (fun s => s.received = s.conn.rx.taken) rfl ?_
  intro s action t reached same step
  have owned := ownership reached
  cases step_rule step with
  | loop moved => exact same.trans moved.taken.symm
  | startReceive permitted | startSend permitted sends =>
      rw [received_begin, same]
      exact List.append_nil _
  | @pollFrame handle message rx permitted received =>
      change (s.begin handle .pollNext (.returned (.polled (some (.ok message))))).received = _
      rw [received_begin, same]
      exact received.taken.symm
  | @pollEnd handle permitted _ _ =>
      change (s.begin handle .pollNext
        (.returned (.polled (s.conn.terminalError.map .error)))).received = s.conn.rx.taken
      rw [received_begin, same]
      cases s.conn.terminalError with
      | none | some _ => exact List.append_nil _
  | pollPending _ => exact same
  | @recvFrame call record message rx found receiving received =>
      have receives := owned.reaches call record found
      rw [receiving] at receives
      have returned : (s.moveTo call record (.returned (.received (.ok message)))).received =
          s.received ++ [message] :=
        owned.received_moveTo found (by rw [receiving]; rfl)
          (by rw [show record.op = .nextRawMessage from receives]; rfl) rfl
      change (s.moveTo call record (.returned (.received (.ok message)))).received =
        (Connection.settle { s.conn with rx := rx } record _).rx.taken
      rw [returned, Connection.settle_rx_taken, same]
      exact received.taken.symm
  | @accept call record payload tx found atPoint _ _ | @refuseClose call record found atPoint _ _ _
  | @reply call record result found atPoint _ =>
      exact received_silent same found (by rw [atPoint]; rfl) rfl rfl
        (Connection.settle_rx_taken ..) (by cases record.op <;> rfl)
  | refuseSend found atPoint _ _ | panic found atPoint _ _ | join found atPoint _
  | connect found atPoint | recvEnd found atPoint _ _ =>
      exact received_silent same found (by rw [atPoint]; rfl) rfl rfl
        (Connection.settle_rx_taken ..) rfl
  | cancel found inFlight =>
      exact received_silent same found inFlight rfl rfl (Connection.settle_rx_taken ..) rfl
  | clone tx unused | split whole idle unused | reunite receives sends idleRx idleTx => exact same
  | drop idle => exact same.trans (Connection.dropHandle_rx_taken ..).symm

end System

end Socketeer
