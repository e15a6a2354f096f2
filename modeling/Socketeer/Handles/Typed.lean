import Socketeer.Codec
import Socketeer.Handles.Unconfirmed

/-! # Typed sends

`send` and `send_unconfirmed` encode their value before they do anything else,
and a value that the codec refuses never reaches the connection. With the calls
noted whose payloads the tx channel accepts, one after the other, the frames on
the wire are those of the first of these calls. Their order is that of the calls
themselves where one has returned before another was made, and a peer that reads
what the codec writes reads their values (`Typed.peer_reads_in_order`).
-/

namespace Socketeer

open Foundation

variable {cfg : LoopConfig} {E Tx Rx Rx' Tx' : Type}

/-- A system with the values of its typed calls, those that the codec refused
with the error that was returned, and the calls whose payloads were accepted. -/
structure Typed (cfg : LoopConfig) (E Tx : Type) where
  inner : System cfg E
  values : CallId → Option Tx
  refused : List (Tx × Error E)
  order : List CallId

inductive TypedAction (E Tx : Type) where
  | send (handle : HandleId) (value : Tx)
  | sendUnconfirmed (handle : HandleId) (value : Tx)
  | other (action : Action E)

namespace Typed

def create (cfg : LoopConfig) (E Tx : Type) : Typed cfg E Tx where
  inner := .create cfg E
  values := fun _ => none
  refused := []
  order := []

/-- Encode a value and start the raw call with the frame. What may be asked of a
handle does not depend on the message. -/
def sendWith (codec : Codec E Tx Rx) (op : Message → Op) (t : Typed cfg E Tx) (handle : HandleId)
    (value : Tx) : Option (Typed cfg E Tx) :=
  match codec.encode value with
  | .ok message =>
      (t.inner.start handle (op message)).map fun next =>
        { t with
          inner := next
          values := Function.update t.values t.inner.started (some value) }
  | .error e =>
      if t.inner.Permits handle (op closeMessage) then
        some { t with refused := t.refused ++ [(value, e)] }
      else none

/-- `send`, of `Socketeer` and `SocketeerTx`. -/
def send (codec : Codec E Tx Rx) (t : Typed cfg E Tx) (handle : HandleId) (value : Tx) :
    Option (Typed cfg E Tx) :=
  t.sendWith codec .sendRaw handle value

/-- `send_unconfirmed`. -/
def sendUnconfirmed (codec : Codec E Tx Rx) (t : Typed cfg E Tx) (handle : HandleId)
    (value : Tx) : Option (Typed cfg E Tx) :=
  t.sendWith codec .sendRawUnconfirmed handle value

/-- The call whose payload the tx channel accepts in a step. -/
def admits (s next : System cfg E) : Action E → List CallId
  | .advance call => if next.conn.tx.sent = s.conn.tx.sent then [] else [call]
  | _ => []

def step (codec : Codec E Tx Rx) (t : Typed cfg E Tx) :
    TypedAction E Tx → Option (Typed cfg E Tx)
  | .send handle value => t.send codec handle value
  | .sendUnconfirmed handle value => t.sendUnconfirmed codec handle value
  | .other action =>
      (t.inner.step action).map fun next =>
        { t with inner := next, order := t.order ++ admits t.inner next action }

end Typed

/-- Every mix of typed calls with the steps of the system. -/
def typed (codec : Codec E Tx Rx) (cfg : LoopConfig) :
    Machine (Typed cfg E Tx) (TypedAction E Tx) where
  init := .create cfg E Tx
  step := Typed.step codec

/-- Whether the payload of the call was accepted: it waits for the reply or has
returned it, or it has returned because nobody waits for one. -/
def Call.admitted (record : Call E) : Bool :=
  match record.pc with
  | .awaitingReply | .returned .enqueued | .returned (.replied _) => true
  | _ => false

namespace System

variable {s t : System cfg E}

/-- A payload was accepted before, or the step polls its call and accepts it. -/
theorem admitted_before {action : Action E} (step : s.Step action t) {call : CallId}
    {record : Call E} (found : t.calls call = some record) (admitted : record.admitted = true) :
    (∃ old, s.calls call = some old ∧ old.admitted = true) ∨
      (action = .advance call ∧ t.conn.tx.sent ≠ s.conn.tx.sent) := by
  have begins {u : System cfg E} {handle op pc} (calls : u.calls = s.calls)
      (fresh : Call.admitted { op := op, handle := handle, pc := pc } = false)
      (found : (u.begin handle op pc).calls call = some record) :
      ∃ old, s.calls call = some old ∧ old.admitted = true := by
    rcases begin_found found with ⟨rfl, rfl⟩ | ⟨_, old⟩
    · rw [fresh] at admitted
      cases admitted
    · rw [calls] at old
      exact ⟨record, old, admitted⟩
  have moves {u : System cfg E} {other record' pc} (calls : u.calls = s.calls)
      (ends : Call.admitted { record' with pc := pc } = false)
      (found : (u.moveTo other record' pc).calls call = some record) :
      ∃ old, s.calls call = some old ∧ old.admitted = true := by
    rcases moveTo_found found with ⟨rfl, rfl⟩ | ⟨_, old⟩
    · rw [ends] at admitted
      cases admitted
    · rw [calls] at old
      exact ⟨record, old, admitted⟩
  cases step with
  | loop | pollPending | clone | split | reunite | drop => exact .inl ⟨record, found, admitted⟩
  | startReceive | startSend | pollFrame | pollEnd => exact .inl (begins rfl rfl found)
  | @accept other old payload tx found' atSend enqueues accepted =>
      rcases moveTo_found found with ⟨rfl, rfl⟩ | ⟨_, before⟩
      · right
        refine ⟨rfl, ?_⟩
        rw [moveTo, Connection.settle_tx_sent, accepted.sent]
        simp
      · exact .inl ⟨record, before, admitted⟩
  | @reply other old result found' awaiting =>
      rcases moveTo_found found with ⟨rfl, rfl⟩ | ⟨_, before⟩
      · left
        refine ⟨old, found', ?_⟩
        rw [Call.admitted, awaiting]
      · exact .inl ⟨record, before, admitted⟩
  | @refuseClose other old =>
      refine .inl (moves rfl ?_ found)
      cases old with
      | mk op handle pc => cases op <;> rfl
  | refuseSend | panic | join | connect | recvFrame | recvEnd | cancel =>
      exact .inl (moves rfl rfl found)

/-- A call that has still to send is new, or the step left it as it was. -/
theorem sending_before {action : Action E} (step : s.Step action t) {call : CallId}
    {record : Call E} (found : t.calls call = some record) (atSend : record.pc = .sending) :
    action ≠ .advance call ∧ (s.calls call = some record ∨ call = s.started) := by
  have begins {u : System cfg E} {handle op pc} (calls : u.calls = s.calls)
      (started : u.started = s.started)
      (found : (u.begin handle op pc).calls call = some record) :
      s.calls call = some record ∨ call = s.started := by
    rcases begin_found found with ⟨rfl, _⟩ | ⟨_, old⟩
    · exact .inr started
    · exact .inl (calls ▸ old)
  have moves {u : System cfg E} {other record' pc}
      (found : (u.moveTo other record' pc).calls call = some record) (calls : u.calls = s.calls)
      (leaves : pc ≠ .sending) : other ≠ call ∧ s.calls call = some record := by
    rcases moveTo_found found with ⟨rfl, rfl⟩ | ⟨different, old⟩
    · exact absurd atSend leaves
    · exact ⟨Ne.symm different, calls ▸ old⟩
  cases step with
  | loop | pollPending | clone | split | reunite | drop => exact ⟨nofun, .inl found⟩
  | startReceive | startSend | pollFrame | pollEnd => exact ⟨nofun, begins rfl rfl found⟩
  | cancel => exact ⟨nofun, .inl (moves found rfl nofun).2⟩
  | @accept other old =>
      have left : (old.op.accepted : CallPc E) ≠ .sending := by
        cases old.op <;> exact nofun
      obtain ⟨different, before⟩ := moves found rfl left
      exact ⟨fun same => different (Action.advance.inj same), .inl before⟩
  | @refuseClose other old =>
      have left : (old.op.refusedClose : CallPc E) ≠ .sending := by
        cases old.op <;> exact nofun
      obtain ⟨different, before⟩ := moves found rfl left
      exact ⟨fun same => different (Action.advance.inj same), .inl before⟩
  | @reply other old result =>
      have left : old.op.answered result ≠ .sending := by
        cases old.op <;> exact nofun
      obtain ⟨different, before⟩ := moves found rfl left
      exact ⟨fun same => different (Action.advance.inj same), .inl before⟩
  | refuseSend | panic | join | connect | recvFrame | recvEnd =>
      obtain ⟨different, before⟩ := moves found rfl nofun
      exact ⟨fun same => different (Action.advance.inj same), .inl before⟩

end System

namespace Typed

variable {codec : Codec E Tx Rx} {t u : Typed cfg E Tx}

/-- The rules of the typed system. -/
inductive Rule (codec : Codec E Tx Rx) (t : Typed cfg E Tx) :
    TypedAction E Tx → Typed cfg E Tx → Prop where
  | calls {action handle op message value next} (encoded : codec.encode value = .ok message)
      (raw : op = .sendRaw message ∨ op = .sendRawUnconfirmed message)
      (stepped : t.inner.step (.start handle op) = some next) :
      Rule codec t action
        { t with
          inner := next
          values := Function.update t.values t.inner.started (some value) }
  | refuses {action value e} (fails : codec.encode value = .error e) :
      Rule codec t action { t with refused := t.refused ++ [(value, e)] }
  | other {action next} (stepped : t.inner.step action = some next) :
      Rule codec t (.other action)
        { t with inner := next, order := t.order ++ admits t.inner next action }

/-- A typed send, confirmed or not, by rules. -/
private theorem sendWith_rule {op : Message → Op} {action : TypedAction E Tx} {handle : HandleId}
    {value : Tx} (raw : ∀ message, op message = .sendRaw message ∨
      op message = .sendRawUnconfirmed message)
    (step : t.sendWith codec op handle value = some u) : Rule codec t action u := by
  unfold sendWith at step
  split at step
  · rename_i message encoded
    obtain ⟨next, started, rfl⟩ := Option.map_eq_some_iff.mp step
    exact .calls encoded (raw message) started
  · rename_i e fails
    split at step
    · cases step
      exact .refuses fails
    · cases step

/-- A step of the typed system, by rules. -/
theorem step_rule {action : TypedAction E Tx} (step : t.step codec action = some u) :
    Rule codec t action u := by
  cases action with
  | send handle value => exact sendWith_rule (fun _ => .inl rfl) step
  | sendUnconfirmed handle value => exact sendWith_rule (fun _ => .inr rfl) step
  | other action =>
      obtain ⟨next, stepped, rfl⟩ := Option.map_eq_some_iff.mp step
      exact .other stepped

/-- The payload that a call has for the tx channel. -/
def payloadOf (s : System cfg E) (call : CallId) : Option TxChannelPayload :=
  (s.calls call).bind fun record => record.op.payload call

/-- The calls whose payloads were accepted are those that the tx channel has
accepted payloads of, in the same order. -/
structure Ordered (s : System cfg E) (order : List CallId) : Prop where
  ledger : order.map (payloadOf s) = s.conn.tx.sent.map some
  once : order.Nodup
  past : ∀ call ∈ order, ∀ record, s.calls call = some record → record.pc ≠ .sending
  complete : ∀ call record, s.calls call = some record → record.admitted = true → call ∈ order

/-- Every call in the order of admission has been made. -/
theorem Ordered.found {s : System cfg E} {order : List CallId} (ordered : Ordered s order)
    {call : CallId} (member : call ∈ order) : ∃ record, s.calls call = some record := by
  have inside : payloadOf s call ∈ s.conn.tx.sent.map some :=
    ordered.ledger ▸ List.mem_map_of_mem member
  obtain ⟨payload, _, same⟩ := List.mem_map.mp inside
  obtain ⟨record, found, _⟩ := Option.bind_eq_some_iff.mp same.symm
  exact ⟨record, found⟩

/-- A call that a step finds keeps its payload. -/
theorem payloadOf_step {s next : System cfg E} {action : Action E} (step : s.Step action next)
    (owned : s.Ownership) {call : CallId} {record : Call E} (found : s.calls call = some record) :
    payloadOf next call = payloadOf s call := by
  obtain ⟨later, found', same⟩ := System.found_after step owned found
  simp only [payloadOf, found, found', Option.bind_some, same]

/-- The order after a step of the system. -/
theorem Ordered.step {s next : System cfg E} {order : List CallId} {action : Action E}
    (ordered : Ordered s order) (reached : (system cfg E).Reachable s)
    (stepped : s.step action = some next) : Ordered next (order ++ admits s next action) := by
  have owned := System.ownership reached
  have rule := System.step_rule stepped
  have kept : order.map (payloadOf next) = order.map (payloadOf s) := by
    refine List.map_congr_left fun call member => ?_
    obtain ⟨record, found⟩ := ordered.found member
    exact payloadOf_step rule owned found
  have past : ∀ call ∈ order, ∀ record, next.calls call = some record → record.pc ≠ .sending := by
    intro call member record found atSend
    obtain ⟨old, found'⟩ := ordered.found member
    rcases (System.sending_before rule found atSend).2 with before | rfl
    · exact ordered.past call member record before atSend
    · rw [owned.unborn _ (Nat.le_refl _)] at found'
      cases found'
  rcases System.sent_cases rule with same | ⟨call, record, payload, rfl, found, atSend, enqueues, _,
    sent⟩
  · have nothing : admits s next action = [] := by
      cases action with
      | advance call => exact if_pos same
      | loop | start | cancel | clone | split | reunite | drop => rfl
    rw [nothing, List.append_nil]
    refine ⟨?_, ordered.once, past, ?_⟩
    · rw [kept, ordered.ledger, same]
    · intro call record found admitted
      rcases System.admitted_before rule found admitted with ⟨old, found', before⟩ | ⟨_, more⟩
      · exact ordered.complete call old found' before
      · exact absurd same more
  · have grows : next.conn.tx.sent ≠ s.conn.tx.sent := by
      rw [sent]
      simp
    have here : admits s next (.advance call) = [call] := if_neg grows
    rw [here]
    have new : call ∉ order := fun member => ordered.past call member record found atSend
    refine ⟨?_, ?_, ?_, ?_⟩
    · have mine : payloadOf next call = some payload := by
        rw [payloadOf_step rule owned found, payloadOf, found]
        exact enqueues
      rw [List.map_append, kept, ordered.ledger, sent, List.map_append, List.map_singleton, mine]
      rfl
    · exact List.nodup_append.mpr ⟨ordered.once, List.nodup_singleton call, by
        rintro first member _ last rfl
        rw [List.mem_singleton.mp last] at member
        exact new member⟩
    · intro other member record' found'
      rcases List.mem_append.mp member with earlier | last
      · exact past other earlier record' found'
      · rw [List.mem_singleton.mp last] at found'
        exact fun atSend' => (System.sending_before rule found' atSend').1 rfl
    · intro other record' found' admitted
      rcases System.admitted_before rule found' admitted with ⟨old, before, _⟩ | ⟨same, _⟩
      · exact List.mem_append_left _ (ordered.complete other old before ‹_›)
      · obtain rfl := Action.advance.inj same
        exact List.mem_append_right _ (List.mem_singleton_self _)

/-- The values of typed calls are what these calls have encoded. -/
structure Sound (codec : Codec E Tx Rx) (t : Typed cfg E Tx) : Prop where
  reached : (system cfg E).Reachable t.inner
  ordered : Ordered t.inner t.order
  encoded : ∀ call value, t.values call = some value → ∃ record message,
    t.inner.calls call = some record ∧ codec.encode value = .ok message ∧
      (record.op = .sendRaw message ∨ record.op = .sendRawUnconfirmed message)

/-- The call that `start` makes. -/
private theorem started_call {s next : System cfg E} {handle : HandleId} {op : Op}
    (sends : op.sends = true) (stepped : s.step (.start handle op) = some next) :
    ∃ record, next.calls s.started = some record ∧ record.op = op := by
  cases System.step_rule stepped with
  | startSend => exact ⟨_, System.begin_calls_self .., rfl⟩
  | startReceive | pollFrame | pollEnd | pollPending => cases sends

/-- Every step keeps the values and the order. -/
theorem Sound.step {action : TypedAction E Tx} (sound : Sound codec t)
    (step : t.step codec action = some u) : Sound codec u := by
  have later {next : System cfg E} {action : Action E} (stepped : t.inner.step action = some next)
      {call : CallId} {value : Tx} (typed : t.values call = some value) : ∃ record message,
        next.calls call = some record ∧ codec.encode value = .ok message ∧
          (record.op = .sendRaw message ∨ record.op = .sendRawUnconfirmed message) := by
    obtain ⟨record, message, found, made, raw⟩ := sound.encoded call value typed
    obtain ⟨record', found', same⟩ := System.found_after (System.step_rule stepped)
      (System.ownership sound.reached) found
    exact ⟨record', message, found', made, same ▸ raw⟩
  cases step_rule step with
  | @calls _ handle op message value next made raw stepped =>
      have moved : (system cfg E).step t.inner (.start handle op) = some next := stepped
      refine ⟨sound.reached.next moved, ?_, ?_⟩
      · have ordered := sound.ordered.step sound.reached stepped
        rwa [show admits t.inner next (.start handle op) = [] from rfl, List.append_nil] at ordered
      · intro call value' typed
        by_cases new : call = t.inner.started
        · subst new
          change Function.update t.values t.inner.started _ _ = some value' at typed
          rw [Function.update_self] at typed
          obtain rfl := Option.some.inj typed
          have sends : op.sends = true := by
            rcases raw with rfl | rfl <;> rfl
          obtain ⟨record, found, rfl⟩ := started_call sends stepped
          exact ⟨record, message, found, made, raw⟩
        · change Function.update t.values t.inner.started _ _ = some value' at typed
          rw [Function.update_of_ne new] at typed
          exact later stepped typed
  | refuses fails => exact ⟨sound.reached, sound.ordered, sound.encoded⟩
  | other stepped =>
      exact ⟨sound.reached.next stepped, sound.ordered.step sound.reached stepped,
        fun call value typed => later stepped typed⟩

/-- Values and order are kept in every reachable state. -/
theorem sound (reached : (typed codec cfg).Reachable t) : Sound codec t := by
  refine reached.invariant (Sound codec) ?_ fun _ _ _ _ sound step => sound.step step
  refine ⟨.initial, ⟨rfl, List.nodup_nil, ?_, ?_⟩, ?_⟩
  · intro call member
    cases member
  · intro call record found
    cases found
  · intro call value typed
    cases typed

/-- Calls are only added at the end of the order. -/
theorem run_order {trace : List (Typed cfg E Tx × TypedAction E Tx)}
    (run : (typed codec cfg).Run t trace u) : t.order <+: u.order := by
  apply run.invariant (List.prefix_refl _)
  intro v action w grown step
  cases step_rule step with
  | calls | refuses => exact grown
  | other => exact grown.trans (List.prefix_append _ _)

/-- A frame is that of the call, and the peer reads it as the value of the call,
if the call was typed. -/
def Carries (peer : Codec E Tx' Tx) (t : Typed cfg E Tx) (call : CallId) (frame : Message) :
    Prop :=
  (payloadOf t.inner call).map TxChannelPayload.message = some frame ∧
    ∀ value, t.values call = some value → peer.decode frame = .ok value

/-- The peer reads what a call has sent. -/
private theorem Sound.carries {peer : Codec E Tx' Tx} (sound : Sound codec t)
    (reads : codec.ReadBy peer) {call : CallId} {payload : TxChannelPayload}
    (sent : payloadOf t.inner call = some payload) : Carries peer t call payload.message := by
  refine ⟨by rw [sent]; rfl, ?_⟩
  intro value typed
  obtain ⟨record, message, found, made, raw⟩ := sound.encoded call value typed
  have frame : payload.message = message := by
    rw [payloadOf, found] at sent
    change record.op.payload call = some payload at sent
    rcases raw with op | op <;>
      · rw [op] at sent
        cases sent
        rfl
  rw [frame]
  exact reads value message made

/-- Whatever the callers do, typed and raw, the frames that the task writes for
them are those of the first calls in an order without repetitions, one for each,
and a peer that reads what the codec writes reads each typed one as its value. A
call whose payload was accepted before another call was made comes before it. -/
theorem peer_reads_in_order {peer : Codec E Tx' Tx} (reads : codec.ReadBy peer)
    {trace : List (Typed cfg E Tx × TypedAction E Tx)} {final : Typed cfg E Tx}
    (run : (typed codec cfg).Run (typed codec cfg).init trace final) :
    final.order.Nodup ∧
      (∃ calls, calls <+: final.order ∧
        List.Forall₂ (Carries peer final) calls (final.inner.conn.passedBy .outgoing)) ∧
      ∀ t, Machine.Visited trace final t → ∀ a b record, t.inner.calls a = some record →
        record.admitted = true → t.inner.calls b = none → b ∈ final.order →
          List.Sublist [a, b] final.order := by
  have whole := sound ⟨trace, run⟩
  refine ⟨whole.ordered.once, ?_, ?_⟩
  · obtain ⟨rest, sent⟩ := (List.prefix_append _ _).trans final.inner.conn.tx.ordered
    have ledger := whole.ordered.ledger
    rw [← sent, List.map_append] at ledger
    obtain ⟨calls, others, parts, taken, _⟩ := List.map_eq_append_iff.mp ledger
    refine ⟨calls, ⟨others, parts.symm⟩, ?_⟩
    rw [Connection.passedBy_outgoing, (System.accounted whole.reached).outgoing,
      List.forall₂_map_right_iff]
    have pairs : List.Forall₂ (· = ·) (calls.map (payloadOf final.inner))
        (final.inner.conn.tx.taken.map some) := by
      rw [taken, List.forall₂_eq_eq_eq]
    rw [List.forall₂_map_left_iff, List.forall₂_map_right_iff] at pairs
    exact pairs.imp fun call payload same => whole.carries reads same
  · intro t seen a b record found admitted unborn member
    obtain ⟨front, back, _, before, after⟩ := run.visited seen
    have here := sound ⟨front, before⟩
    obtain ⟨rest, grown⟩ := run_order after
    have first := here.ordered.complete a record found admitted
    have second : b ∈ rest := by
      rw [← grown] at member
      refine (List.mem_append.mp member).resolve_left fun early => ?_
      obtain ⟨record', found'⟩ := here.ordered.found early
      rw [unborn] at found'
      cases found'
    rw [← grown]
    exact (List.singleton_sublist.mpr first).append (List.singleton_sublist.mpr second)

/-- A second send is made after the first one has returned. -/
def oneAfterTheOther : List (TypedAction Unit Message) :=
  [.send 0 (.text "a"), .other (.advance 0), .other (.loop (.arm .outgoing)),
    .other (.loop (.sink (.ok ()))), .other (.advance 0), .send 0 (.text "b"),
    .other (.advance 1), .other (.loop (.arm .outgoing))]

theorem peer_reads_in_order_oneAfterTheOther :
    let M := typed (RawCodec : Codec Unit Message Message) .single
    let final := M.follow M.init oneAfterTheOther
    final.order = [0, 1] ∧ final.inner.conn.passedBy .outgoing = [.text "a", .text "b"] ∧
      ∃ calls, calls <+: final.order ∧
        List.Forall₂ (Carries RawCodec final) calls (final.inner.conn.passedBy .outgoing) := by
  intro M final
  refine ⟨by decide, by decide, ?_⟩
  exact (peer_reads_in_order RawCodec.readBy (M.run_steps M.init oneAfterTheOther)).2.1

end Typed

end Socketeer
