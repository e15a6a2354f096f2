import Socketeer.SocketLoop.Reply
import Socketeer.Handles.Feed
import Socketeer.Handles.Writes

/-! # Requests and replies

The one-shot of a call and the ledger of the tx channel agree with the point at
which the call is (`System.Requests`): a payload on the channel belongs to the
call named in it, a pending payload is unanswered, and a value on a one-shot is
the result of the write of that payload.
-/

namespace Socketeer

open Foundation

variable {cfg : LoopConfig} {E : Type}

namespace Connection

variable {s t : Connection cfg E}

/-- What is pending was accepted. -/
theorem Pending.accepted (accounted : Accounted s) {call : CallId} (pending : s.Pending call) :
    call ∈ s.accepted := by
  have ordered := s.tx.ordered.subset
  rcases pending with ⟨payload, member, same⟩ | ⟨payload, site, pc, same⟩
  · exact List.mem_filterMap.mpr ⟨payload, ordered (List.mem_append_right _ member), same⟩
  · obtain ⟨front, taken⟩ := accounted.last pc
    have member : payload ∈ s.tx.taken := by
      rw [taken]
      exact List.mem_append_right _ (List.mem_singleton_self _)
    exact List.mem_filterMap.mpr ⟨payload, ordered (List.mem_append_left _ member), same⟩

/-- What the requests depend on is the same in both. -/
structure SameRequests (s t : Connection cfg E) : Prop where
  oneshots : t.oneshots = s.oneshots
  sent : t.tx.sent = s.tx.sent
  queue : t.tx.queue = s.tx.queue
  pc : t.pc = s.pc
  sinkOps : t.sinkOps = s.sinkOps

/-- The same payloads were accepted. -/
theorem SameRequests.accepted (same : SameRequests s t) : t.accepted = s.accepted := by
  rw [Connection.accepted, same.sent, Connection.accepted]

/-- The same payloads are pending. -/
theorem SameRequests.pending (same : SameRequests s t) (call : CallId) :
    t.Pending call ↔ s.Pending call := by
  rw [Pending, Queued, Sending, same.queue, same.pc, Pending, Queued, Sending]

/-- The end of a call changes nothing about the requests. -/
theorem SameRequests.settle (same : SameRequests s t) (record : Call E) (pc : CallPc E) :
    SameRequests s (t.settle record pc) :=
  ⟨by simpa using same.oneshots, by simpa using same.sent, by simpa using same.queue,
    by simpa using same.pc, by simpa using same.sinkOps⟩

theorem SameRequests.rfl : SameRequests s s :=
  ⟨Eq.refl _, Eq.refl _, Eq.refl _, Eq.refl _, Eq.refl _⟩

/-- What the point at which a call is says about its payload and its one-shot. -/
def Consistent (s : Connection cfg E) (call : CallId) : CallPc E → Prop
  | .sending => s.oneshots call = .create ∧ call ∉ s.accepted
  | .awaitingReply => call ∈ s.accepted ∧ (s.oneshots call).receiverDropped = false
  | .joining closeSent => (s.oneshots call).value = some closeSent ∨
      (closeSent = .error .websocketClosed ∧ call ∉ s.accepted)
  | .returned (.replied result) => (s.oneshots call).value = some result
  | .returned (.refused _) => call ∉ s.accepted
  | .returned (.closed result) => result = .ok () → (s.oneshots call).value = some (.ok ())
  | .cancelled => (s.oneshots call).receiverDropped = true
  | _ => True

/-- What is said of a call depends on its one-shot and on whether its payload
was accepted; a value sent on the one-shot stays there. -/
theorem Consistent.mono {call : CallId} {pc : CallPc E} (consistent : Consistent s call pc)
    (fresh : s.oneshots call = .create → call ∉ s.accepted → t.oneshots call = .create)
    (value : ∀ result, (s.oneshots call).value = some result →
      (t.oneshots call).value = some result)
    (receiver : (t.oneshots call).receiverDropped = (s.oneshots call).receiverDropped)
    (accepted : call ∈ t.accepted ↔ call ∈ s.accepted) : Consistent t call pc := by
  cases pc with
  | sending => exact ⟨fresh consistent.1 consistent.2, accepted.not.mpr consistent.2⟩
  | awaitingReply => exact ⟨accepted.mpr consistent.1, receiver.trans consistent.2⟩
  | joining closeSent =>
      exact consistent.imp (value closeSent) (And.imp_right accepted.not.mpr)
  | cancelled => exact receiver.trans consistent
  | returned outcome =>
      cases outcome with
      | replied result => exact value result consistent
      | refused _ => exact accepted.not.mpr consistent
      | closed result => exact fun ok => value _ (consistent ok)
      | enqueued | reconnected | received _ | polled _ => trivial
  | connecting | receiving | panicked => trivial

/-- A call that is consistent stays so while nothing happens to the requests. -/
theorem Consistent.same {call : CallId} {pc : CallPc E} (consistent : Consistent s call pc)
    (same : SameRequests s t) : Consistent t call pc := by
  refine consistent.mono ?_ ?_ ?_ ?_
  · rw [same.oneshots]
    exact fun fresh _ => fresh
  · rw [same.oneshots]
    exact fun _ => id
  · rw [same.oneshots]
  · rw [same.accepted]

end Connection

namespace System

open Connection

/-- The agreement of the calls with the one-shots and the tx channel. -/
structure Requests (s : System cfg E) : Prop where
  unborn : ∀ call, s.calls call = none → s.conn.oneshots call = .create
  origin : ∀ payload ∈ s.conn.tx.sent, ∀ call, payload.responseTx = some call →
    ∃ record, s.calls call = some record ∧ record.op.payload call = some payload
  once : s.conn.Once
  consistent : ∀ call record, s.calls call = some record → Consistent s.conn call record.pc
  pending : ∀ call, s.conn.Pending call →
    (s.conn.oneshots call).value = none ∧ (s.conn.oneshots call).senderDropped = false
  written : ∀ call result, (s.conn.oneshots call).value = some result → s.conn.Wrote call result
  hungUp : ∀ call, (s.conn.oneshots call).receiverDropped = true →
    ∃ record, s.calls call = some record ∧ record.pc = .cancelled

variable {s t : System cfg E}

theorem Requests.create (cfg : LoopConfig) (E : Type) : Requests (.create cfg E) where
  unborn _ _ := rfl
  origin _ member := nomatch member
  once := List.nodup_nil
  consistent _ _ found := nomatch found
  pending _ _ := ⟨rfl, rfl⟩
  written _ _ sent := nomatch sent
  hungUp _ dropped := nomatch dropped

/-- No payload was accepted for a call that has not started. -/
theorem Requests.unborn_not_accepted (requests : Requests s) {call : CallId}
    (unborn : s.calls call = none) : call ∉ s.conn.accepted := by
  intro member
  obtain ⟨payload, sent, same⟩ := List.mem_filterMap.mp member
  obtain ⟨record, found, _⟩ := requests.origin payload sent call same
  rw [unborn] at found
  cases found

/-- A step that keeps the calls. -/
private theorem Requests.keep (requests : Requests s) (same : SameRequests s.conn t.conn)
    (calls : t.calls = s.calls) : Requests t := by
  constructor
  · rw [calls, same.oneshots]
    exact requests.unborn
  · rw [calls, same.sent]
    exact requests.origin
  · rw [Once, same.accepted]
    exact requests.once
  · rw [calls]
    exact fun call record found => (requests.consistent call record found).same same
  · intro call
    rw [same.pending, same.oneshots]
    exact requests.pending call
  · intro call result
    rw [same.oneshots]
    exact fun sent => (requests.written call result sent).mono (same.sinkOps ▸ List.prefix_refl _)
  · rw [calls, same.oneshots]
    exact requests.hungUp

/-- A new call. -/
private theorem Requests.begin (requests : Requests s) (unborn : s.calls s.started = none)
    (handle : HandleId) (op : Op) {pc : CallPc E}
    (consistent : Consistent s.conn s.started pc) : Requests (s.begin handle op pc) := by
  have older : ∀ {call record}, s.calls call = some record → call ≠ s.started := by
    rintro call record found rfl
    rw [unborn] at found
    cases found
  constructor
  · intro call none
    by_cases new : call = s.started
    · rw [new, begin_calls_self] at none
      cases none
    · rw [begin_calls_of_ne s new] at none
      exact requests.unborn call none
  · intro payload member call same
    obtain ⟨record, found, enqueues⟩ := requests.origin payload member call same
    exact ⟨record, (begin_calls_of_ne s (older found)).trans found, enqueues⟩
  · exact requests.once
  · intro call record found
    rcases begin_found found with ⟨rfl, rfl⟩ | ⟨_, old⟩
    · exact consistent
    · exact requests.consistent call record old
  · exact requests.pending
  · exact requests.written
  · intro call dropped
    obtain ⟨record, found, cancelled⟩ := requests.hungUp call dropped
    exact ⟨record, (begin_calls_of_ne s (older found)).trans found, cancelled⟩

/-- A step that concerns one call, whose one-shot keeps its value. -/
private theorem Requests.update (requests : Requests s) {call : CallId} {record : Call E}
    {pc : CallPc E} (found : s.calls call = some record)
    (calls : t.calls = Function.update s.calls call (some { record with pc := pc }))
    (oneshots : ∀ other, other ≠ call → t.conn.oneshots other = s.conn.oneshots other)
    (accepted : ∀ other, other ≠ call → (other ∈ t.conn.accepted ↔ other ∈ s.conn.accepted))
    (sinkOps : t.conn.sinkOps = s.conn.sinkOps)
    (origin : ∀ payload ∈ t.conn.tx.sent, payload ∈ s.conn.tx.sent ∨
      ∀ other, payload.responseTx = some other →
        other = call ∧ record.op.payload call = some payload)
    (once : t.conn.Once) (consistent : Consistent t.conn call pc)
    (pending : ∀ other, t.conn.Pending other → s.conn.Pending other ∨ other = call)
    (unanswered : t.conn.Pending call →
      (t.conn.oneshots call).value = none ∧ (t.conn.oneshots call).senderDropped = false)
    (value : (t.conn.oneshots call).value = (s.conn.oneshots call).value)
    (hungUp : (t.conn.oneshots call).receiverDropped = true → pc = .cancelled) :
    Requests t := by
  have others : ∀ {other}, other ≠ call → t.calls other = s.calls other := by
    intro other different
    rw [calls, Function.update_of_ne different]
  have here : t.calls call = some { record with pc := pc } := by
    rw [calls, Function.update_self]
  constructor
  · intro other none
    by_cases mine : other = call
    · rw [mine, here] at none
      cases none
    · rw [others mine] at none
      rw [oneshots other mine]
      exact requests.unborn other none
  · intro payload member other confirmed
    rcases origin payload member with old | new
    · obtain ⟨record', found', enqueues⟩ := requests.origin payload old other confirmed
      by_cases mine : other = call
      · subst mine
        obtain rfl := Option.some.inj (found.symm.trans found')
        exact ⟨_, here, enqueues⟩
      · exact ⟨record', (others mine).trans found', enqueues⟩
    · obtain ⟨rfl, enqueues⟩ := new other confirmed
      exact ⟨_, here, enqueues⟩
  · exact once
  · intro other record' found'
    by_cases mine : other = call
    · subst mine
      rw [here] at found'
      obtain rfl := Option.some.inj found'
      exact consistent
    · rw [others mine] at found'
      refine (requests.consistent other record' found').mono ?_ ?_ ?_ (accepted other mine)
      · rw [oneshots other mine]
        exact fun fresh _ => fresh
      · rw [oneshots other mine]
        exact fun _ => id
      · rw [oneshots other mine]
  · intro other pends
    by_cases mine : other = call
    · subst mine
      exact unanswered pends
    · rw [oneshots other mine]
      exact requests.pending other ((pending other pends).resolve_right mine)
  · intro other result sent
    have before : (s.conn.oneshots other).value = some result := by
      by_cases mine : other = call
      · rwa [mine, ← value, ← mine]
      · rwa [← oneshots other mine]
    exact (requests.written other result before).mono (sinkOps ▸ List.prefix_refl _)
  · intro other dropped
    by_cases mine : other = call
    · subst mine
      exact ⟨_, here, hungUp dropped⟩
    · rw [oneshots other mine] at dropped
      obtain ⟨old, foundOld, cancelled⟩ := requests.hungUp other dropped
      exact ⟨old, (others mine).trans foundOld, cancelled⟩

/-- A call that moves on. -/
private theorem Requests.moveTo (requests : Requests s) {call : CallId} {record : Call E}
    {pc : CallPc E} (found : s.calls call = some record) (inFlight : record.pc.inFlight = true)
    (same : SameRequests s.conn t.conn)
    (calls : t.calls = Function.update s.calls call (some { record with pc := pc }))
    (consistent : Consistent s.conn call pc) : Requests t := by
  apply requests.update found calls
  case oneshots => exact fun other _ => congrFun same.oneshots other
  case accepted =>
    intro other _
    rw [same.accepted]
  case sinkOps => exact same.sinkOps
  case origin =>
    rw [same.sent]
    exact fun payload member => .inl member
  case once =>
    rw [Once, same.accepted]
    exact requests.once
  case consistent => exact consistent.same same
  case pending => exact fun other pends => .inl ((same.pending other).mp pends)
  case unanswered =>
    rw [same.pending, same.oneshots]
    exact requests.pending call
  case value => rw [same.oneshots]
  case hungUp =>
    -- a cancelled call is no longer in flight
    rw [same.oneshots]
    intro dropped
    obtain ⟨old, foundOld, cancelled⟩ := requests.hungUp call dropped
    obtain rfl := Option.some.inj (found.symm.trans foundOld)
    rw [cancelled] at inFlight
    cases inFlight

/-- A step of the task. -/
private theorem Requests.loop (requests : Requests s) (accounted : s.conn.Accounted)
    (ends : s.conn.Ends) {move : LoopAction E} {conn : Connection cfg E}
    (step : s.conn.LoopStep move conn) : Requests { s with conn := conn } := by
  have handled := step.handled accounted ends requests.once
  have accepted : conn.accepted = s.conn.accepted := by
    rw [Connection.accepted, step.sent, Connection.accepted]
  have value : ∀ {call} result, (s.conn.oneshots call).value = some result →
      (conn.oneshots call).value = some result := by
    intro call result sent
    cases handled call with
    | untouched same _ => rwa [same]
    | answered was _ _ _ _ =>
        rw [(requests.pending call (.inr was)).1] at sent
        cases sent
    | unheard _ _ _ drops | discarded _ _ _ drops => rwa [drops]
  have receiver : ∀ call, (conn.oneshots call).receiverDropped =
      (s.conn.oneshots call).receiverDropped := by
    intro call
    cases handled call with
    | untouched same _ => rw [same]
    | answered _ _ _ fills _ => rw [fills]; rfl
    | unheard _ _ _ drops | discarded _ _ _ drops => rw [drops]; rfl
  have fresh : ∀ {call}, s.conn.oneshots call = .create → call ∉ s.conn.accepted →
      conn.oneshots call = .create := by
    intro call create refused
    cases handled call with
    | untouched same _ => rw [same, create]
    | answered was _ _ _ _ | unheard was _ _ _ =>
        exact absurd (Pending.accepted accounted (.inr was)) refused
    | discarded was _ _ _ => exact absurd (Pending.accepted accounted (.inl was)) refused
  constructor
  · exact fun call none => fresh (requests.unborn call none) (requests.unborn_not_accepted none)
  · intro payload member call same
    exact requests.origin payload (step.sent ▸ member) call same
  · change conn.accepted.Nodup
    rw [accepted]
    exact requests.once
  · intro call record found
    refine (requests.consistent call record found).mono fresh value (receiver call) ?_
    rw [accepted]
  · intro call pending
    cases handled call with
    | untouched same kept =>
        change (conn.oneshots call).value = none ∧ (conn.oneshots call).senderDropped = false
        rw [same]
        exact requests.pending call (kept pending)
    | answered _ done _ _ _ | unheard _ done _ _ | discarded _ done _ _ =>
        exact absurd pending done
  · intro call result sent
    change (conn.oneshots call).value = some result at sent
    cases handled call with
    | untouched same _ =>
        rw [same] at sent
        exact (requests.written call result sent).mono step.sinkOps
    | answered _ _ _ fills wrote =>
        rw [fills] at sent
        obtain rfl := Option.some.inj sent
        exact wrote
    | unheard _ _ _ drops | discarded _ _ _ drops =>
        rw [drops] at sent
        exact (requests.written call result sent).mono step.sinkOps
  · intro call dropped
    exact requests.hungUp call ((receiver call).symm.trans dropped)

/-- The one-shot named by the payload of a call is its own. -/
theorem payload_responseTx {op : Op} {call : CallId} {payload : TxChannelPayload}
    (enqueues : op.payload call = some payload) :
    (payload.responseTx = some call ∧ op.accepted (E := E) = .awaitingReply) ∨
      (payload.responseTx = none ∧ op.accepted (E := E) = .returned .enqueued) := by
  cases op with
  | sendRaw _ | close | closeConnection | reconnect =>
      obtain rfl := Option.some.inj enqueues
      exact .inl ⟨rfl, rfl⟩
  | sendRawUnconfirmed _ =>
      obtain rfl := Option.some.inj enqueues
      exact .inr ⟨rfl, rfl⟩
  | nextRawMessage | pollNext => cases enqueues

/-- A payload that is accepted. -/
private theorem Requests.accept (requests : Requests s) {call : CallId} {record : Call E}
    {payload : TxChannelPayload} {tx : Channel TxChannelPayload HandleId Unit cfg.channelSize}
    (found : s.calls call = some record) (atSend : record.pc = .sending)
    (enqueues : record.op.payload call = some payload) (accepts : s.conn.tx.Accepted payload tx)
    (same : SameRequests { s.conn with tx := tx } t.conn)
    (calls : t.calls =
      Function.update s.calls call (some { record with pc := record.op.accepted })) :
    Requests t := by
  obtain ⟨create, absent⟩ : s.conn.oneshots call = .create ∧ call ∉ s.conn.accepted := by
    have consistent := requests.consistent call record found
    rwa [atSend] at consistent
  have responds := payload_responseTx (E := E) enqueues
  have oneshots : t.conn.oneshots = s.conn.oneshots := same.oneshots
  have accepted : t.conn.accepted = s.conn.accepted ++ payload.responseTx.toList := by
    rw [same.accepted]
    change tx.sent.filterMap _ = _
    rw [accepts.sent, List.filterMap_append]
    cases named : payload.responseTx with
    | none | some _ => simp [named, Connection.accepted]
  -- the payload names this call or none
  have named : ∀ other, payload.responseTx = some other → other = call := by
    intro other confirmed
    rcases responds with ⟨mine, _⟩ | ⟨none, _⟩
    · exact Option.some.inj (confirmed.symm.trans mine)
    · rw [none] at confirmed
      cases confirmed
  apply requests.update found calls
  case oneshots => exact fun other _ => congrFun oneshots other
  case accepted =>
    intro other different
    rw [accepted, List.mem_append]
    refine or_iff_left fun new => different (named other ?_)
    exact Option.mem_toList.mp new
  case sinkOps => exact same.sinkOps
  case origin =>
    intro queued member
    rw [same.sent, accepts.sent] at member
    rcases List.mem_append.mp member with old | new
    · exact .inl old
    · right
      rw [List.mem_singleton.mp new]
      exact fun other confirmed => ⟨named other confirmed, enqueues⟩
  case once =>
    rw [Once, accepted]
    rcases responds with ⟨mine, _⟩ | ⟨none, _⟩
    · rw [mine]
      refine List.nodup_append.mpr ⟨requests.once, List.nodup_singleton call, ?_⟩
      rintro other member _ (_ | ⟨_, ⟨⟩⟩) rfl
      exact absent member
    · rw [none, Option.toList_none, List.append_nil]
      exact requests.once
  case consistent =>
    rcases responds with ⟨responseTx, goes⟩ | ⟨_, goes⟩
    · rw [goes]
      refine ⟨?_, ?_⟩
      · rw [accepted, responseTx]
        exact List.mem_append_right _ (List.mem_singleton_self _)
      · rw [oneshots, create]
        rfl
    · rw [goes]
      trivial
  case pending =>
    rintro other (⟨queued, member, confirmed⟩ | sending)
    · rw [same.queue, accepts.queue] at member
      rcases List.mem_append.mp member with old | new
      · exact .inl (.inl ⟨queued, old, confirmed⟩)
      · rw [List.mem_singleton.mp new] at confirmed
        exact .inr (named other confirmed)
    · rw [Sending, same.pc] at sending
      exact .inl (.inr sending)
  case unanswered =>
    rw [oneshots, create]
    exact fun _ => ⟨rfl, rfl⟩
  case value => rw [oneshots]
  case hungUp =>
    rw [oneshots, create]
    nofun

/-- A call that is cancelled. -/
private theorem Requests.cancel (requests : Requests s) {call : CallId} {record : Call E}
    (found : s.calls call = some record)
    (same : SameRequests (s.conn.hangUp call) t.conn)
    (calls : t.calls = Function.update s.calls call (some { record with pc := .cancelled })) :
    Requests t := by
  have cell : t.conn.oneshots call = (s.conn.oneshots call).dropReceiver := by
    rw [same.oneshots]
    exact Function.update_self ..
  apply requests.update found calls
  case oneshots =>
    intro other different
    rw [same.oneshots]
    exact Function.update_of_ne different ..
  case accepted =>
    intro other _
    rw [same.accepted]
    exact Iff.rfl
  case sinkOps => exact same.sinkOps
  case origin =>
    rw [same.sent]
    exact fun payload member => .inl member
  case once =>
    rw [Once, same.accepted]
    exact requests.once
  case consistent =>
    change (t.conn.oneshots call).receiverDropped = true
    rw [cell]
    rfl
  case pending => exact fun other pends => .inl ((same.pending other).mp pends)
  case unanswered =>
    rw [same.pending, cell]
    exact requests.pending call
  case value =>
    rw [cell]
    rfl
  case hungUp => exact fun _ => rfl

/-- A call that moves on leaves the requests as they are. -/
private theorem moveTo_requests {conn : Connection cfg E} {call : CallId} {record : Call E}
    {pc : CallPc E} (same : SameRequests conn s.conn) :
    SameRequests conn (s.moveTo call record pc).conn :=
  same.settle record pc

/-- The requests agree with the one-shots in every reachable state. -/
theorem requests (reached : (system cfg E).Reachable s) : Requests s := by
  refine reached.invariant Requests (.create cfg E) ?_
  intro s action t reached requests step
  have unborn : s.calls s.started = none := (ownership reached).unborn _ (Nat.le_refl _)
  cases step_rule step with
  | loop moved => exact requests.loop (accounted reached) (ends reached) moved
  | startReceive => exact requests.begin unborn _ _ trivial
  | startSend =>
      exact requests.begin unborn _ _
        ⟨requests.unborn _ unborn, requests.unborn_not_accepted unborn⟩
  | @pollFrame handle message rx =>
      have begun : Requests (s.begin handle .pollNext (.returned (.polled (some (.ok message))))) :=
        requests.begin unborn _ _ trivial
      exact begun.keep ⟨rfl, rfl, rfl, rfl, rfl⟩ rfl
  | @pollEnd handle =>
      have begun : Requests (s.begin handle .pollNext
          (.returned (.polled (s.conn.terminalError.map .error)))) :=
        requests.begin unborn _ _ trivial
      exact begun.keep ⟨rfl, rfl, rfl, rfl, rfl⟩ rfl
  | pollPending => exact requests
  | accept found atSend enqueues accepted =>
      exact requests.accept found atSend enqueues accepted (moveTo_requests .rfl) rfl
  | refuseSend found atSend sends closed =>
      have consistent := requests.consistent _ _ found
      rw [atSend] at consistent
      refine requests.moveTo found (by rw [atSend]; rfl) ?_ rfl consistent.2
      exact moveTo_requests ⟨rfl, rfl, rfl, rfl, rfl⟩
  | @refuseClose call record found atSend closes enqueues closed =>
      have consistent := requests.consistent _ _ found
      rw [atSend] at consistent
      refine requests.moveTo found (by rw [atSend]; rfl) (moveTo_requests .rfl) rfl ?_
      cases record.op with
      | closeConnection => exact .inr ⟨rfl, consistent.2⟩
      | reconnect => trivial
      | sendRaw _ | sendRawUnconfirmed _ | close | nextRawMessage | pollNext => exact consistent.2
  | @reply call record result found awaiting answered =>
      refine requests.moveTo found (by rw [awaiting]; rfl) (moveTo_requests .rfl) rfl ?_
      cases record.op with
      | closeConnection => exact .inl answered
      | reconnect => trivial
      | sendRaw _ | sendRawUnconfirmed _ | close | nextRawMessage | pollNext => exact answered
  | panic found awaiting =>
      exact requests.moveTo found (by rw [awaiting]; rfl) (moveTo_requests .rfl) rfl trivial
  | @join call record closeSent state found joining finished =>
      have consistent := requests.consistent _ _ found
      rw [joining] at consistent
      refine requests.moveTo found (by rw [joining]; rfl)
        (moveTo_requests ⟨rfl, rfl, rfl, rfl, rfl⟩) rfl ?_
      intro ok
      cases slot : s.conn.terminalError with
      | some error =>
          rw [slot] at ok
          cases ok
      | none =>
          rw [slot] at ok
          change closeSent = .ok () at ok
          rcases consistent with answered | ⟨refused, _⟩
          · rw [answered, ok]
          · rw [refused] at ok
            cases ok
  | connect found connecting =>
      exact requests.moveTo found (by rw [connecting]; rfl) (moveTo_requests .rfl) rfl trivial
  | recvFrame found receiving | recvEnd found receiving =>
      exact requests.moveTo found (by rw [receiving]; rfl)
        (moveTo_requests ⟨rfl, rfl, rfl, rfl, rfl⟩) rfl trivial
  | cancel found inFlight => exact requests.cancel found (moveTo_requests .rfl) rfl
  | clone | split | reunite => exact requests.keep ⟨rfl, rfl, rfl, rfl, rfl⟩ rfl
  | drop => exact requests.keep ⟨rfl, rfl, rfl, rfl, rfl⟩ rfl

/-- A call that moves on leaves the one-shots as they are. -/
private theorem moveTo_value (s : System cfg E) (other : CallId) (record : Call E) (pc : CallPc E)
    (call : CallId) :
    ((s.moveTo other record pc).conn.oneshots call).value = (s.conn.oneshots call).value := by
  change ((s.conn.settle record pc).oneshots call).value = _
  rw [settle_oneshots]

/-- Nothing but the task sends on a one-shot. -/
theorem value_of_handles {action : Action E} (step : s.Step action t)
    (handles : ∀ move, action ≠ .loop move) (call : CallId) :
    (t.conn.oneshots call).value = (s.conn.oneshots call).value := by
  cases step with
  | loop => exact absurd rfl (handles _)
  | @cancel other record =>
      refine (moveTo_value ..).trans ?_
      change (Function.update s.conn.oneshots other (s.conn.oneshots other).dropReceiver
        call).value = _
      by_cases mine : call = other
      · rw [mine, Function.update_self]
        rfl
      · rw [Function.update_of_ne mine]
  | startReceive | startSend | pollFrame | pollEnd | pollPending | clone | split | reunite | drop =>
      rfl
  | accept | refuseSend | refuseClose | reply | panic | join | connect | recvFrame | recvEnd =>
      exact moveTo_value ..

/-- A step keeps the value of a one-shot, unless it completes the write of the
payload of its call. -/
theorem value_step (reached : (system cfg E).Reachable s) {action : Action E}
    (step : s.Step action t) (call : CallId) :
    (t.conn.oneshots call).value = (s.conn.oneshots call).value ∨ s.conn.Sending call := by
  cases action with
  | loop move =>
      cases step with
      | @loop _ conn moved =>
          change (conn.oneshots call).value = _ ∨ _
          cases moved.handled (accounted reached) (ends reached) (requests reached).once call with
          | untouched same _ => exact .inl (by rw [same])
          | answered was _ _ _ _ => exact .inr was
          | unheard _ _ _ drops | discarded _ _ _ drops =>
              left
              rw [drops]
              rfl
  | start | advance | cancel | clone | split | reunite | drop =>
      exact .inl (value_of_handles step nofun call)

/-- What was sent on a one-shot stays there. -/
theorem value_stays (reached : (system cfg E).Reachable s) {action : Action E}
    (step : s.Step action t) {call : CallId} {result : Except (Error E) Unit}
    (sent : (s.conn.oneshots call).value = some result) :
    (t.conn.oneshots call).value = some result := by
  rcases value_step reached step call with same | sending
  · rw [same, sent]
  · rw [((requests reached).pending call (.inr sending)).1] at sent
    cases sent

/-- Once the loop has been left, nothing is sent on a one-shot any more. -/
theorem value_of_left (reached : (system cfg E).Reachable s) (left : s.conn.pc.running = false)
    {action : Action E} (step : s.Step action t) (call : CallId) :
    (t.conn.oneshots call).value = (s.conn.oneshots call).value := by
  rcases value_step reached step call with same | ⟨_, _, sending, _⟩
  · exact same
  · rw [sending] at left
    cases left

end System

end Socketeer
