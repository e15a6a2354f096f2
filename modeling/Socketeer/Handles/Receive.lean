import Socketeer.Handles.Feed

/-! # The receive interfaces

`next_message`, `next_raw_message` and `poll_next`, which `Socketeer` and
`SocketeerRx` share word for word, as calls on the system that hand what they
received to the codec or return it raw. The codec runs after the last await of
a call, so what a call returns is a function of what it received.
-/

namespace Socketeer

open Foundation

variable {cfg : LoopConfig} {E Tx Rx : Type}

/-- `next_message`, from what `recv_raw` returned. -/
def nextMessage (codec : Codec E Tx Rx) (raw : Except (Error E) Message) : Except (Error E) Rx :=
  match raw with
  | .ok message => codec.decode message
  | .error error => .error error

/-- `next_raw_message`, from what `recv_raw` returned. -/
def nextRawMessage (raw : Except (Error E) Message) : Except (Error E) Message :=
  raw

/-- `poll_next`, from the frame `poll_recv_raw` was ready with. -/
def pollNext (codec : Codec E Tx Rx) (frame : Option (Except (Error E) Message)) :
    Option (Except (Error E) Rx) :=
  frame.map fun result => result.bind codec.decode

/-- The ways to receive from a `Socketeer` or a `SocketeerRx`. -/
inductive Interface where
  | nextMessage
  | nextRawMessage
  | pollNext
  deriving DecidableEq, Repr

/-- The call on the system that an interface makes. -/
def Interface.op : Interface → Op
  | .nextMessage | .nextRawMessage => .nextRawMessage
  | .pollNext => .pollNext

/-- What a receiving call returned. -/
inductive Returned (E Rx : Type) where
  | message (result : Except (Error E) Rx)
  | raw (result : Except (Error E) Message)
  | item (item : Option (Except (Error E) Rx))

/-- What an interface returns, from how its call on the system ended. -/
def Interface.returned (codec : Codec E Tx Rx) : Interface → Outcome E → Option (Returned E Rx)
  | .nextMessage, .received raw => some (.message (Socketeer.nextMessage codec raw))
  | .nextRawMessage, .received raw => some (.raw (Socketeer.nextRawMessage raw))
  | .pollNext, .polled frame => some (.item (Socketeer.pollNext codec frame))
  | _, _ => none

/-- What an interface returns for a frame. -/
def Interface.frame (codec : Codec E Tx Rx) (frame : Message) : Interface → Returned E Rx
  | .nextMessage => .message (codec.decode frame)
  | .nextRawMessage => .raw (.ok frame)
  | .pollNext => .item (some (codec.decode frame))

/-- What an interface returns at the end, from what is in the slot. -/
def Interface.ended (slot : Option (Error E)) : Interface → Returned E Rx
  | .nextMessage => .message (.error (slot.getD .websocketClosed))
  | .nextRawMessage => .raw (.error (slot.getD .websocketClosed))
  | .pollNext => .item (slot.map .error)

/-- How a call has ended. -/
def Call.outcome? (record : Call E) : Option (Outcome E) :=
  match record.pc with
  | .returned outcome => some outcome
  | _ => none

/-- Whether the call waits for a frame. -/
def Call.isReceiving (record : Call E) : Bool :=
  match record.pc with
  | .receiving => true
  | _ => false

/-- A system, and the interfaces its receiving calls were made through. -/
structure Consumer (cfg : LoopConfig) (E : Type) where
  inner : System cfg E
  through : CallId → Option Interface

namespace Consumer

def create (cfg : LoopConfig) (E : Type) : Consumer cfg E where
  inner := .create cfg E
  through := fun _ => none

/-- A receive, or a step that starts none. -/
inductive Action (E : Type) where
  | receive (handle : HandleId) (interface : Interface)
  | other (action : Socketeer.Action E)

/-- Start a receiving call; a pending poll starts none. -/
def receive (c : Consumer cfg E) (handle : HandleId) (interface : Interface) :
    Option (Consumer cfg E) :=
  match c.inner.start handle interface.op with
  | some next =>
      if next.started = c.inner.started then some { c with inner := next }
      else some { inner := next
                  through := Function.update c.through c.inner.started (some interface) }
  | none => none

def step (c : Consumer cfg E) : Action E → Option (Consumer cfg E)
  | .receive handle interface => c.receive handle interface
  | .other (.start handle op) =>
      if op.receives then none
      else (c.inner.start handle op).map fun next => { c with inner := next }
  | .other action => (c.inner.step action).map fun next => { c with inner := next }

/-- What a receiving call has returned. -/
def returned (codec : Codec E Tx Rx) (c : Consumer cfg E) (call : CallId) :
    Option (Returned E Rx) :=
  (c.through call).bind fun interface =>
    (c.inner.calls call).bind fun record => record.outcome?.bind (interface.returned codec)

/-- The call that a step ends with a frame, and the frame it takes. -/
def takes (c : Consumer cfg E) : Action E → Option (CallId × Message)
  | .receive _ .pollNext => c.inner.conn.rx.queue.head?.map fun frame => (c.inner.started, frame)
  | .other (.advance call) =>
      if (c.inner.calls call).any Call.isReceiving then
        c.inner.conn.rx.queue.head?.map fun frame => (call, frame)
      else none
  | _ => none

end Consumer

/-- Every mix of receives with the steps of the system. -/
def consumer (cfg : LoopConfig) (E : Type) : Machine (Consumer cfg E) (Consumer.Action E) where
  init := .create cfg E
  step := Consumer.step

namespace Consumer

variable {c d : Consumer cfg E} {codec : Codec E Tx Rx}

/-- What a call that has ended has returned. -/
theorem returned_mk {inner : System cfg E} {through : CallId → Option Interface} {call : CallId}
    {interface : Interface} {op : Op} {handle : HandleId} {outcome : Outcome E}
    (made : through call = some interface)
    (found : inner.calls call = some { op := op, handle := handle, pc := .returned outcome }) :
    returned codec { inner := inner, through := through } call =
      interface.returned codec outcome := by
  simp [returned, made, found, Call.outcome?]

/-- A call that has not ended in a receive has returned nothing. -/
theorem returned_eq_none {call : CallId}
    (silent : ∀ record, c.inner.calls call = some record → ∀ interface,
      record.outcome?.bind (Interface.returned codec interface) = none) :
    c.returned codec call = none := by
  unfold returned
  cases c.through call with
  | none => rfl
  | some interface =>
      cases found : c.inner.calls call with
      | none => rfl
      | some record => exact silent record found interface

/-- The system underneath takes the step that an action stands for. -/
def Action.inner : Action E → Socketeer.Action E
  | .receive handle interface => .start handle interface.op
  | .other action => action

/-- What starting a receive can do. -/
inductive ReceiveRule (c : Consumer cfg E) (handle : HandleId) :
    Interface → Consumer cfg E → Prop where
  | waits {interface} (awaits : interface.op = .nextRawMessage) :
      ReceiveRule c handle interface
        { inner := c.inner.begin handle .nextRawMessage .receiving
          through := Function.update c.through c.inner.started (some interface) }
  | frame {message rx} (received : c.inner.conn.rx.Received message rx) :
      ReceiveRule c handle .pollNext
        { inner := ({ c.inner with conn := { c.inner.conn with rx := rx } } : System cfg E).begin
            handle .pollNext (.returned (.polled (some (.ok message))))
          through := Function.update c.through c.inner.started (some .pollNext) }
  | ended (empty : c.inner.conn.rx.queue = []) (gone : c.inner.conn.rx.senders = ∅) :
      ReceiveRule c handle .pollNext
        { inner := (c.inner.takeTerminalErrorOpt c.inner.started).begin handle .pollNext
            (.returned (.polled (c.inner.conn.terminalError.map .error)))
          through := Function.update c.through c.inner.started (some .pollNext) }
  | pending (empty : c.inner.conn.rx.queue = []) (open' : c.inner.conn.rx.senders ≠ ∅) :
      ReceiveRule c handle .pollNext c

/-- The start of a receive through any interface, by rules. -/
theorem receive_rule {handle : HandleId} {interface : Interface}
    (step : c.step (.receive handle interface) = some d) :
    c.inner.Permits handle interface.op ∧ ReceiveRule c handle interface d := by
  simp only [Consumer.step, receive] at step
  split at step
  · rename_i next started
    unfold System.start at started
    split at started
    · rename_i permitted
      refine ⟨permitted, ?_⟩
      cases interface with
      | nextMessage | nextRawMessage =>
          cases started
          split at step
          · rename_i same
            exact absurd same (Nat.succ_ne_self _)
          · cases step
            exact .waits rfl
      | pollNext =>
          cases started
          unfold System.pollRecvRaw at step
          split at step
          · rename_i message rx received
            split at step
            · rename_i same
              exact absurd same (Nat.succ_ne_self _)
            · cases step
              exact .frame (Channel.recv_ready_some received)
          · rename_i received
            obtain ⟨empty, gone⟩ := Channel.recv_ready_none_iff.mp received
            split at step
            · rename_i same
              exact absurd same (Nat.succ_ne_self _)
            · cases step
              exact .ended empty gone
          · rename_i received
            obtain ⟨empty, gone⟩ := Channel.recv_pending_iff.mp received
            rw [if_pos rfl] at step
            cases step
            exact .pending empty gone
    · cases started
  · cases step

/-- Any other step is one of the system, and it starts no receiving call. -/
theorem other_rule {action : Socketeer.Action E} (step : c.step (.other action) = some d) :
    c.inner.step action = some d.inner ∧ d.through = c.through ∧
      ∀ handle op, action = .start handle op → op.receives = false := by
  cases action with
  | start handle op =>
      simp only [Consumer.step] at step
      split at step
      · cases step
      · rename_i sends
        obtain ⟨next, started, rfl⟩ := Option.map_eq_some_iff.mp step
        refine ⟨started, rfl, ?_⟩
        intro handle' op' same
        obtain ⟨rfl, rfl⟩ := Action.start.inj same
        simpa using sends
  | loop _ | advance _ | cancel _ | clone _ _ | split _ _ | reunite _ _ | drop _ =>
      obtain ⟨next, moved, rfl⟩ := Option.map_eq_some_iff.mp step
      exact ⟨moved, rfl, fun _ _ same => nomatch same⟩

/-- Every step is one of the system underneath. -/
theorem step_inner {action : Action E} (step : c.step action = some d) :
    c.inner.step action.inner = some d.inner := by
  cases action with
  | receive handle interface =>
      simp only [Consumer.step, receive] at step
      split at step
      · rename_i next started
        have inner : d.inner = next := by
          split at step
          · cases step
            rfl
          · cases step
            rfl
        rw [inner]
        exact started
      · cases step
  | other action => exact (other_rule step).1

/-- The system under the consumer is in a reachable state. -/
theorem reachable_inner (reached : (consumer cfg E).Reachable c) :
    (system cfg E).Reachable c.inner := by
  refine reached.invariant (fun c => (system cfg E).Reachable c.inner) .initial ?_
  intro c action d _ reached step
  exact reached.next (step_inner step)

/-- The receiving calls are those made through an interface. -/
structure Attributed (c : Consumer cfg E) : Prop where
  op : ∀ call interface, c.through call = some interface →
    ∃ record, c.inner.calls call = some record ∧ record.op = interface.op
  receives : ∀ call record, c.inner.calls call = some record → record.op.receives = true →
    ∃ interface, c.through call = some interface

/-- A receiving call that begins is recorded with its interface. -/
private theorem Attributed.begin (attributed : Attributed c) {u : System cfg E}
    (calls : u.calls = c.inner.calls) (started : u.started = c.inner.started)
    (handle : HandleId) (interface : Interface) (pc : CallPc E) :
    Attributed {
      inner := u.begin handle interface.op pc
      through := Function.update c.through c.inner.started (some interface) } := by
  have here : (u.begin handle interface.op pc).calls c.inner.started =
      some { op := interface.op, handle := handle, pc := pc } := by
    rw [← started]
    exact System.begin_calls_self ..
  have others : ∀ {call}, call ≠ c.inner.started →
      (u.begin handle interface.op pc).calls call = c.inner.calls call := by
    intro call different
    rw [System.begin_calls_of_ne u (started ▸ different), calls]
  constructor
  · intro call interface' through
    by_cases new : call = c.inner.started
    · subst new
      change Function.update c.through c.inner.started (some interface) _ = _ at through
      rw [Function.update_self] at through
      obtain rfl := Option.some.inj through
      exact ⟨_, here, rfl⟩
    · change Function.update c.through c.inner.started (some interface) call = _ at through
      rw [Function.update_of_ne new] at through
      obtain ⟨record, found, op⟩ := attributed.op call interface' through
      exact ⟨record, (others new).trans found, op⟩
  · intro call record found receives
    by_cases new : call = c.inner.started
    · exact ⟨interface, new ▸ Function.update_self ..⟩
    · rw [others new] at found
      obtain ⟨interface', through⟩ := attributed.receives call record found receives
      exact ⟨interface', (Function.update_of_ne new ..).trans through⟩

/-- Every receiving call has its interface, in every reachable state. -/
theorem attributed (reached : (consumer cfg E).Reachable c) : Attributed c := by
  refine reached.invariant Attributed
    ⟨fun _ _ through => (nomatch through), fun _ _ found => (nomatch found)⟩ ?_
  intro c action d reached attributed step
  have owned := System.ownership (reachable_inner reached)
  cases action with
  | receive handle interface =>
      cases (receive_rule step).2 with
      | waits awaits =>
          rw [← awaits]
          exact attributed.begin rfl rfl handle interface .receiving
      | @frame message rx _ =>
          exact attributed.begin (u := { c.inner with conn := { c.inner.conn with rx := rx } })
            rfl rfl handle .pollNext _
      | ended _ _ =>
          exact attributed.begin (u := c.inner.takeTerminalErrorOpt c.inner.started)
            rfl rfl handle .pollNext _
      | pending _ _ => exact attributed
  | other action =>
      obtain ⟨stepped, through, sends⟩ := other_rule step
      have rule := System.step_rule stepped
      constructor
      · intro call interface made
        rw [through] at made
        obtain ⟨record, found, op⟩ := attributed.op call interface made
        obtain ⟨next, after, same⟩ := System.found_after rule owned found
        exact ⟨next, after, same.trans op⟩
      · intro call record found receives
        rw [through]
        cases before : c.inner.calls call with
        | none =>
            have none := sends _ _ (System.started_by rule found before)
            rw [receives] at none
            cases none
        | some old =>
            obtain ⟨next, after, same⟩ := System.found_after rule owned before
            obtain rfl := Option.some.inj (found.symm.trans after)
            exact attributed.receives call old before (same ▸ receives)

/-- What a step does for the receiving calls: it hands a frame to one of them,
it ends one of them with what is in the slot, or it leaves them alone. -/
inductive ReceiveStep (codec : Codec E Tx Rx) (c : Consumer cfg E) (action : Action E)
    (d : Consumer cfg E) : Prop where
  | took {call frame interface} (takes : c.takes action = some (call, frame))
      (through : d.through call = some interface)
      (returned : d.returned codec call = some (interface.frame codec frame))
      (received : c.inner.conn.rx.Received frame d.inner.conn.rx)
      (slot : d.inner.conn.terminalError = c.inner.conn.terminalError)
      (reads : d.inner.slotReads = c.inner.slotReads)
  | ended {call interface} (takes : c.takes action = none)
      (through : d.through call = some interface)
      (returned : d.returned codec call =
        some (interface.ended c.inner.conn.terminalError))
      (empty : c.inner.conn.rx.queue = []) (gone : c.inner.conn.rx.senders = ∅)
      (taken : d.inner.conn.rx.taken = c.inner.conn.rx.taken)
      (slot : d.inner.conn.terminalError = none)
  | other (takes : c.takes action = none)
      (returned : ∀ call, d.returned codec call = c.returned codec call)
      (taken : d.inner.conn.rx.taken = c.inner.conn.rx.taken)

/-- A call whose interface and record are the same has returned the same. -/
private theorem returned_congr {call : CallId} (through : d.through call = c.through call)
    (calls : d.inner.calls call = c.inner.calls call) :
    d.returned codec call = c.returned codec call := by
  unfold returned
  rw [through, calls]

/-- Whether a call at this point has not ended in a receive. -/
def Silent (codec : Codec E Tx Rx) (pc : CallPc E) : Prop :=
  ∀ interface outcome, pc = .returned outcome → Interface.returned codec interface outcome = none

/-- A call in flight has returned nothing. -/
private theorem silent_of_inFlight {pc : CallPc E} (inFlight : pc.inFlight = true) :
    Silent codec pc := by
  rintro interface outcome rfl
  cases inFlight

private theorem silent_accepted (codec : Codec E Tx Rx) (op : Op) :
    Silent codec (op.accepted : CallPc E) := by
  intro interface outcome returned
  cases op <;> cases returned
  cases interface <;> rfl

private theorem silent_refusedClose (codec : Codec E Tx Rx) (op : Op) :
    Silent codec (op.refusedClose : CallPc E) := by
  intro interface outcome returned
  cases op <;> cases returned <;> cases interface <;> rfl

private theorem silent_answered (codec : Codec E Tx Rx) (result : Except (Error E) Unit) (op : Op) :
    Silent codec (op.answered result : CallPc E) := by
  intro interface outcome returned
  cases op <;> cases returned <;> cases interface <;> rfl

/-- Only receiving calls return something to a consumer. -/
private theorem silent_of_not_received (codec : Codec E Tx Rx) {outcome : Outcome E}
    (sends : ∀ result, outcome ≠ .received result) (owns : ∀ item, outcome ≠ .polled item) :
    Silent codec (.returned outcome) := by
  rintro interface _ ⟨⟩
  cases outcome with
  | received result => exact absurd rfl (sends result)
  | polled item => exact absurd rfl (owns item)
  | replied _ | refused _ | enqueued | closed _ | reconnected => cases interface <;> rfl

/-- A silent call is recorded as one that has returned nothing. -/
private theorem returned_of_silent {call : CallId} {record : Call E}
    (found : c.inner.calls call = some record) (silent : Silent codec record.pc) :
    c.returned codec call = none := by
  refine returned_eq_none fun record' found' interface => ?_
  obtain rfl := Option.some.inj (found.symm.trans found')
  unfold Call.outcome?
  split
  · rename_i outcome returned
    exact silent interface outcome returned
  · rfl

/-- A new call has returned nothing while it is in flight. -/
private theorem returned_begin {u : System cfg E} {handle : HandleId} {op : Op} {pc : CallPc E}
    (inner : d.inner = u.begin handle op pc) (calls : u.calls = c.inner.calls)
    (started : u.started = c.inner.started) (unborn : c.inner.calls c.inner.started = none)
    (through : ∀ call, call ≠ c.inner.started → d.through call = c.through call)
    (silent : Silent codec pc) (call : CallId) :
    d.returned codec call = c.returned codec call := by
  by_cases new : call = c.inner.started
  · have here : d.inner.calls call = some { op := op, handle := handle, pc := pc } := by
      rw [inner, new, ← started]
      exact System.begin_calls_self ..
    rw [returned_of_silent here silent, new]
    refine (returned_eq_none fun record found => ?_).symm
    rw [unborn] at found
    cases found
  · refine returned_congr (through call new) ?_
    rw [inner, System.begin_calls_of_ne u (started ▸ new), calls]

/-- A call that moves on without having received leaves what was returned. -/
private theorem returned_moveTo {u : System cfg E} {other : CallId} {record : Call E}
    {pc : CallPc E} (inner : d.inner = u.moveTo other record pc) (calls : u.calls = c.inner.calls)
    (through : d.through = c.through) (found : c.inner.calls other = some record)
    (before : Silent codec record.pc) (after : Silent codec pc) (call : CallId) :
    d.returned codec call = c.returned codec call := by
  by_cases here : call = other
  · subst here
    have moved : d.inner.calls call = some { record with pc := pc } := by
      rw [inner]
      exact System.moveTo_calls_self ..
    rw [returned_of_silent moved after, returned_of_silent found before]
  · refine returned_congr (congrFun through call) ?_
    rw [inner, System.moveTo_calls_of_ne u here, calls]

/-- Only receiving calls take a frame. -/
private theorem takes_of_not_receiving {call : CallId} {record : Call E}
    (found : c.inner.calls call = some record) (other : record.isReceiving = false) :
    c.takes (.other (.advance call)) = none := by
  simp [takes, found, other]

/-- A call that waits for a frame was made through an interface that returns
what `recv_raw` does. -/
private theorem Attributed.receiving (attributed : Attributed c)
    (reached : (consumer cfg E).Reachable c) {call : CallId} {record : Call E}
    (found : c.inner.calls call = some record) (receiving : record.pc = .receiving) :
    record.op = .nextRawMessage ∧
      (c.through call = some .nextMessage ∨ c.through call = some .nextRawMessage) := by
  have op := (System.ownership (reachable_inner reached)).reaches call record found
  rw [receiving] at op
  change record.op = .nextRawMessage at op
  refine ⟨op, ?_⟩
  obtain ⟨interface, through⟩ := attributed.receives call record found (by rw [op]; rfl)
  obtain ⟨record', found', same⟩ := attributed.op call interface through
  obtain rfl := Option.some.inj (found.symm.trans found')
  rw [op] at same
  cases interface with
  | nextMessage => exact .inl through
  | nextRawMessage => exact .inr through
  | pollNext => cases same

/-- What the start of a receive takes and returns. -/
private theorem receiveStep_receive (codec : Codec E Tx Rx) (reached : (consumer cfg E).Reachable c)
    {handle : HandleId} {interface : Interface}
    (step : c.step (.receive handle interface) = some d) :
    ReceiveStep codec c (.receive handle interface) d := by
  have owned := System.ownership (reachable_inner reached)
  have unborn := owned.unborn _ (Nat.le_refl c.inner.started)
  cases (receive_rule step).2 with
  | waits awaits =>
      refine .other ?_ ?_ rfl
      · cases interface with
        | nextMessage | nextRawMessage => rfl
        | pollNext => cases awaits
      · exact returned_begin rfl rfl rfl unborn (fun _ old => Function.update_of_ne old ..)
          (silent_of_inFlight rfl)
  | @frame message rx received =>
      have through : Function.update c.through c.inner.started (some Interface.pollNext)
          c.inner.started = some .pollNext := Function.update_self ..
      have taken : c.takes (.receive handle .pollNext) = some (c.inner.started, message) := by
        rw [takes, received.queue]
        rfl
      refine .took taken through ?_ received rfl rfl
      · have found := System.begin_calls_self
          ({ c.inner with conn := { c.inner.conn with rx := rx } } : System cfg E) handle .pollNext
          (.returned (.polled (some (.ok message))))
        exact returned_mk through found
  | ended empty gone =>
      have through : Function.update c.through c.inner.started (some Interface.pollNext)
          c.inner.started = some .pollNext := Function.update_self ..
      refine .ended ?_ through ?_ empty gone rfl rfl
      · rw [takes, empty]
        rfl
      · have found := System.begin_calls_self (c.inner.takeTerminalErrorOpt c.inner.started) handle
          .pollNext (.returned (.polled (c.inner.conn.terminalError.map .error)))
        refine (returned_mk through found).trans ?_
        cases c.inner.conn.terminalError with
        | none | some _ => rfl
  | pending empty _ =>
      refine .other ?_ (fun _ => rfl) rfl
      rw [takes, empty]
      rfl

/-- A call that moves on from another point than a receive takes no frame. -/
private theorem receiveStep_moveTo {u : System cfg E} {call : CallId} {record : Call E}
    {pc : CallPc E} (inner : d.inner = u.moveTo call record pc) (calls : u.calls = c.inner.calls)
    (rx : u.conn.rx = c.inner.conn.rx) (through : d.through = c.through)
    (found : c.inner.calls call = some record) (other : record.isReceiving = false)
    (inFlight : record.pc.inFlight = true) (after : Silent codec pc) :
    ReceiveStep codec c (.other (.advance call)) d := by
  refine .other (takes_of_not_receiving found other) ?_ ?_
  · exact returned_moveTo inner calls through found (silent_of_inFlight inFlight) after
  · rw [inner, ← rx]
    exact Connection.settle_rx_taken ..

/-- What any other step takes and returns. -/
private theorem receiveStep_other (codec : Codec E Tx Rx) (reached : (consumer cfg E).Reachable c)
    {action : Socketeer.Action E} (step : c.step (.other action) = some d) :
    ReceiveStep codec c (.other action) d := by
  have owned := System.ownership (reachable_inner reached)
  have attributed := attributed reached
  obtain ⟨stepped, through, sends⟩ := other_rule step
  obtain ⟨inner, made⟩ := d
  dsimp only at stepped through
  cases System.step_rule stepped with
  | loop moved =>
      refine .other rfl (fun call => returned_congr (congrFun through call) rfl) moved.taken
  | startReceive | pollFrame | pollEnd | pollPending => cases sends _ _ rfl
  | startSend =>
      refine .other rfl (returned_begin rfl rfl rfl (owned.unborn _ (Nat.le_refl _)) ?_
        (silent_of_inFlight rfl)) rfl
      exact fun call _ => congrFun through call
  | clone | split | reunite =>
      exact .other rfl (fun call => returned_congr (congrFun through call) rfl) rfl
  | drop =>
      refine .other rfl (fun call => returned_congr (congrFun through call) rfl) ?_
      exact Connection.dropHandle_rx_taken ..
  | cancel found inFlight =>
      refine .other rfl (returned_moveTo rfl rfl through found (silent_of_inFlight inFlight)
        fun _ _ same => nomatch same) ?_
      exact Connection.settle_rx_taken ..
  | accept found atPoint =>
      exact receiveStep_moveTo rfl rfl rfl through found (by rw [Call.isReceiving, atPoint])
        (by rw [atPoint]; rfl) (silent_accepted codec _)
  | refuseClose found atPoint =>
      exact receiveStep_moveTo rfl rfl rfl through found (by rw [Call.isReceiving, atPoint])
        (by rw [atPoint]; rfl) (silent_refusedClose codec _)
  | reply found atPoint =>
      exact receiveStep_moveTo rfl rfl rfl through found (by rw [Call.isReceiving, atPoint])
        (by rw [atPoint]; rfl) (silent_answered codec _ _)
  | refuseSend found atPoint | join found atPoint | connect found atPoint =>
      exact receiveStep_moveTo rfl rfl rfl through found (by rw [Call.isReceiving, atPoint])
        (by rw [atPoint]; rfl) (silent_of_not_received codec nofun nofun)
  | panic found atPoint =>
      exact receiveStep_moveTo rfl rfl rfl through found (by rw [Call.isReceiving, atPoint])
        (by rw [atPoint]; rfl) fun _ _ same => nomatch same
  | @recvFrame call record message rx found receiving received =>
      obtain ⟨op, interface⟩ := attributed.receiving reached found receiving
      have taken : c.takes (.other (.advance call)) = some (call, message) := by
        simp [takes, found, Call.isReceiving, receiving, received.queue]
      have shares : Connection.settle { c.inner.conn with rx := rx } record
          (.returned (.received (.ok message))) = { c.inner.conn with rx := rx } := by
        simp [Connection.settle, op, Op.consumes]
      have after := System.moveTo_calls_self
        ({ c.inner with conn := { c.inner.conn with rx := rx } } : System cfg E) call record
        (.returned (.received (.ok message)))
      have rx' : c.inner.conn.rx.Received message (Connection.settle { c.inner.conn with rx := rx }
          record (.returned (.received (.ok message)))).rx := by
        rw [shares]
        exact received
      have slot : (Connection.settle { c.inner.conn with rx := rx } record
          (.returned (.received (.ok message)))).terminalError = c.inner.conn.terminalError := by
        rw [shares]
      rcases interface with made' | made'
      · have made' := (congrFun through call).trans made'
        exact .took taken made' (returned_mk made' after) rx' slot rfl
      · have made' := (congrFun through call).trans made'
        exact .took taken made' (returned_mk made' after) rx' slot rfl
  | @recvEnd call record found receiving empty gone =>
      obtain ⟨_, interface⟩ := attributed.receiving reached found receiving
      have taken : c.takes (.other (.advance call)) = none := by
        simp [takes, found, Call.isReceiving, receiving, empty]
      have after := System.moveTo_calls_self (c.inner.takeTerminalErrorOpt call) call record
        (.returned (.received (.error (System.takeTerminalError c.inner.conn.terminalError))))
      have kept : (Connection.settle (c.inner.takeTerminalErrorOpt call).conn record
          (.returned (.received (.error (System.takeTerminalError
            c.inner.conn.terminalError))))).rx.taken = c.inner.conn.rx.taken :=
        Connection.settle_rx_taken ..
      rcases interface with made' | made'
      · have made' := (congrFun through call).trans made'
        exact .ended taken made' (returned_mk made' after) empty gone kept
          (Connection.settle_terminalError ..)
      · have made' := (congrFun through call).trans made'
        exact .ended taken made' (returned_mk made' after) empty gone kept
          (Connection.settle_terminalError ..)

/-- What every step does for the receiving calls. -/
theorem receiveStep (codec : Codec E Tx Rx) (reached : (consumer cfg E).Reachable c)
    {action : Action E} (step : c.step action = some d) : ReceiveStep codec c action d := by
  cases action with
  | receive handle interface => exact receiveStep_receive codec reached step
  | other action => exact receiveStep_other codec reached step

/-- What a call has returned stays as it is. -/
theorem returned_stays (reached : (consumer cfg E).Reachable c) {action : Action E}
    (step : c.step action = some d) {call : CallId} {interface : Interface}
    {value : Returned E Rx} (through : c.through call = some interface)
    (returned : c.returned codec call = some value) :
    d.through call = some interface ∧ d.returned codec call = some value := by
  have owned := System.ownership (reachable_inner reached)
  obtain ⟨record, found, _⟩ := (attributed reached).op call interface through
  have ended : record.pc.inFlight = false := by
    by_contra inFlight
    have none : c.returned codec call = none :=
      returned_of_silent found (silent_of_inFlight (by simpa using inFlight))
    rw [returned] at none
    cases none
  have calls : d.inner.calls call = c.inner.calls call := by
    rw [found, System.ended_step (System.step_rule (step_inner step)) owned found ended]
  have same : d.through call = c.through call := by
    have old : call ≠ c.inner.started := by
      rintro rfl
      rw [owned.unborn _ (Nat.le_refl _)] at found
      cases found
    cases action with
    | receive handle interface' =>
        cases (receive_rule step).2 with
        | pending => rfl
        | waits | frame | ended => exact Function.update_of_ne old ..
    | other action => rw [(other_rule step).2.1]
  exact ⟨same.trans through, (returned_congr same calls).trans returned⟩

/-- The frames that the steps of a run hand to receiving calls, each with the
call that returns it. -/
def takings (trace : List (Consumer cfg E × Action E)) : List (CallId × Message) :=
  trace.filterMap fun entry => entry.1.takes entry.2

/-- The frames taken in a run are those taken from the rx channel, and each has
been returned through the interface of the call that took it. -/
theorem run_takings (codec : Codec E Tx Rx) {trace : List (Consumer cfg E × Action E)}
    (reached : (consumer cfg E).Reachable c) (run : (consumer cfg E).Run c trace d) :
    d.inner.conn.rx.taken = c.inner.conn.rx.taken ++ (takings trace).map Prod.snd ∧
      ∀ entry ∈ takings trace, ∃ interface, d.through entry.1 = some interface ∧
        d.returned codec entry.1 = some (interface.frame codec entry.2) := by
  induction run with
  | nil => exact ⟨(List.append_nil _).symm, fun _ member => nomatch member⟩
  | @snoc middle target front action earlier step ih =>
      obtain ⟨taken, returned⟩ := ih
      obtain ⟨before, start⟩ := reached
      have here : (consumer cfg E).Reachable middle := ⟨_, start.append earlier⟩
      have stays : ∀ entry ∈ takings front, ∃ interface, target.through entry.1 = some interface ∧
          target.returned codec entry.1 = some (interface.frame codec entry.2) := by
        intro entry member
        obtain ⟨interface, through, value⟩ := returned entry member
        exact ⟨interface, returned_stays here step through value⟩
      have parts : takings (front ++ [(middle, action)]) =
          takings front ++ (middle.takes action).toList := by
        rw [takings, List.filterMap_append]
        cases takes : middle.takes action <;> simp [takes, takings]
      rw [parts]
      cases receiveStep codec here step with
      | @took call frame interface takes through value received =>
          rw [takes]
          constructor
          · rw [received.taken, taken]
            simp
          · intro entry member
            rcases List.mem_append.mp member with old | new
            · exact stays entry old
            · rw [List.mem_singleton.mp new]
              exact ⟨interface, through, value⟩
      | ended takes _ _ _ _ same | other takes _ same =>
          rw [takes, same, taken]
          simpa using stays

/-- The steps of a receive that finds the rx channel closed. -/
def endActions (handle : HandleId) (call : CallId) : Interface → List (Action E)
  | .pollNext => [.receive handle .pollNext]
  | .nextMessage => [.receive handle .nextMessage, .other (.advance call)]
  | .nextRawMessage => [.receive handle .nextRawMessage, .other (.advance call)]

/-- A receive that waits is started. -/
private theorem waits_step {handle : HandleId} {interface : Interface}
    (awaits : interface.op = .nextRawMessage) (permitted : c.inner.Permits handle .nextRawMessage) :
    (consumer cfg E).step c (.receive handle interface) = some
      { inner := c.inner.begin handle .nextRawMessage .receiving
        through := Function.update c.through c.inner.started (some interface) } := by
  change c.receive handle interface = _
  have started : c.inner.start handle .nextRawMessage =
      some (c.inner.begin handle .nextRawMessage .receiving) := by
    simp [System.start, permitted]
  simp [receive, awaits, started, System.begin]

/-- A waiting call that finds the rx channel closed takes what is in the slot. -/
private theorem advance_closed {call : CallId} {handle : HandleId}
    (found : c.inner.calls call =
      some { op := .nextRawMessage, handle := handle, pc := .receiving })
    (closed : c.inner.conn.rx.recv = .ready none) :
    (consumer cfg E).step c (.other (.advance call)) = some { c with
      inner := (c.inner.takeTerminalErrorOpt call).moveTo call
        { op := .nextRawMessage, handle := handle, pc := .receiving }
        (.returned (.received
          (.error (System.takeTerminalError c.inner.conn.terminalError)))) } := by
  change c.step (.other (.advance call)) = _
  simp [Consumer.step, System.step, System.advance, found, System.recvRaw, closed]

/-- A receive that waits is told the end and the cause at its next poll. -/
private theorem end_of_waiting (codec : Codec E Tx Rx) {handle : HandleId} {interface : Interface}
    (awaits : interface.op = .nextRawMessage) (permitted : c.inner.Permits handle .nextRawMessage)
    (closed : c.inner.conn.rx.recv = .ready none) :
    ∃ trace d, (consumer cfg E).Run c trace d ∧
      trace.map Prod.snd =
        [.receive handle interface, .other (.advance c.inner.started)] ∧
      d.returned codec c.inner.started =
        some (interface.ended c.inner.conn.terminalError) ∧
      d.inner.conn.terminalError = none := by
  let waiting : Consumer cfg E :=
    { inner := c.inner.begin handle .nextRawMessage .receiving
      through := Function.update c.through c.inner.started (some interface) }
  have found : waiting.inner.calls c.inner.started =
      some { op := .nextRawMessage, handle := handle, pc := .receiving } :=
    System.begin_calls_self ..
  have first : (consumer cfg E).step c (.receive handle interface) = some waiting :=
    waits_step awaits permitted
  have second := advance_closed (c := waiting) found closed
  refine ⟨_, _, ((Machine.Run.nil c).snoc first).snoc second, rfl, ?_, ?_⟩
  · have through : waiting.through c.inner.started = some interface := Function.update_self ..
    have after := System.moveTo_calls_self (waiting.inner.takeTerminalErrorOpt c.inner.started)
      c.inner.started { op := .nextRawMessage, handle := handle, pc := .receiving }
      (.returned (.received
        (.error (System.takeTerminalError waiting.inner.conn.terminalError))))
    refine (returned_mk through after).trans ?_
    cases interface with
    | nextMessage | nextRawMessage => rfl
    | pollNext => cases awaits
  · exact Connection.settle_terminalError ..

/-- On a closed channel every interface returns at once, and they agree on what
is in the slot. -/
theorem end_of_closed (codec : Codec E Tx Rx) {handle : HandleId}
    (owner : c.inner.conn.rx.receiver = some handle) (idle : c.inner.Idle handle)
    (empty : c.inner.conn.rx.queue = []) (gone : c.inner.conn.rx.senders = ∅)
    (interface : Interface) :
    ∃ trace d, (consumer cfg E).Run c trace d ∧
      trace.map Prod.snd = endActions handle c.inner.started interface ∧
      d.returned codec c.inner.started =
        some (interface.ended c.inner.conn.terminalError) ∧
      d.inner.conn.terminalError = none := by
  have closed := Channel.recv_ready_none_iff.mpr ⟨empty, gone⟩
  cases interface with
  | nextMessage => exact end_of_waiting codec rfl ⟨owner, idle⟩ closed
  | nextRawMessage => exact end_of_waiting codec rfl ⟨owner, idle⟩ closed
  | pollNext =>
      let ended : Consumer cfg E :=
        { inner := (c.inner.takeTerminalErrorOpt c.inner.started).begin handle .pollNext
            (.returned (.polled (c.inner.conn.terminalError.map .error)))
          through := Function.update c.through c.inner.started (some .pollNext) }
      have started : c.inner.start handle .pollNext = some ended.inner := by
        have permitted : c.inner.Permits handle .pollNext := ⟨owner, idle⟩
        simp [System.start, permitted, System.pollRecvRaw, closed, ended]
      have step : (consumer cfg E).step c (.receive handle .pollNext) = some ended := by
        change c.receive handle .pollNext = _
        simp [receive, Interface.op, started, ended, System.begin, System.takeTerminalErrorOpt]
      refine ⟨_, ended, (Machine.Run.nil c).snoc step, rfl, ?_, rfl⟩
      have through : ended.through c.inner.started = some .pollNext := Function.update_self ..
      have found : ended.inner.calls c.inner.started = _ := System.begin_calls_self
        (c.inner.takeTerminalErrorOpt c.inner.started) handle .pollNext _
      refine (returned_mk through found).trans ?_
      cases c.inner.conn.terminalError with
      | none | some _ => rfl

/-- A poll that finds nothing on an open channel changes nothing. -/
theorem pending_step {handle : HandleId} (owner : c.inner.conn.rx.receiver = some handle)
    (idle : c.inner.Idle handle) (empty : c.inner.conn.rx.queue = [])
    (held : c.inner.conn.rx.senders ≠ ∅) : c.step (.receive handle .pollNext) = some c := by
  have pending := Channel.recv_pending_iff.mpr ⟨empty, held⟩
  have permitted : c.inner.Permits handle .pollNext := ⟨owner, idle⟩
  have started : c.inner.start handle .pollNext = some c.inner := by
    simp [System.start, permitted, System.pollRecvRaw, pending]
  simp [Consumer.step, receive, Interface.op, started]

/-- In every run the k-th receive that takes a frame takes the k-th frame the
loop delivered, and returns it raw or decoded as its interface has it; a receive
takes nothing but that frame whatever the codec makes of it, and a pending poll
changes nothing. Once the task has dropped its sender and the buffer is empty,
all interfaces report what is in the slot. -/
theorem interfaces_agree (codec : Codec E Tx Rx) {final : Consumer cfg E}
    {trace : List (Consumer cfg E × Action E)}
    (run : (consumer cfg E).Run (.create cfg E) trace final) :
    (∀ (k : Nat) call frame, (takings trace)[k]? = some (call, frame) →
      final.inner.conn.rx.sent[k]? = some frame ∧
        ∃ interface, final.through call = some interface ∧
          final.returned codec call = some (interface.frame codec frame)) ∧
    (∀ c action d, (c, action) ∈ trace → c.step action = some d → ReceiveStep codec c action d) ∧
    ∀ c handle, Machine.Visited trace final c → c.inner.conn.rx.receiver = some handle →
      c.inner.Idle handle → c.inner.conn.rx.queue = [] →
        (c.inner.conn.pc.holdsSender = true → c.step (.receive handle .pollNext) = some c) ∧
        (c.inner.conn.pc.holdsSender = false → ∀ interface, ∃ receive d,
          (consumer cfg E).Run c receive d ∧
            receive.map Prod.snd = endActions handle c.inner.started interface ∧
            d.returned codec c.inner.started = some (interface.ended c.inner.conn.terminalError) ∧
            d.inner.conn.terminalError = none) := by
  refine ⟨fun k call frame taking => ?_, fun c action d member step => ?_,
    fun c handle seen owner idle empty => ?_⟩
  · obtain ⟨taken, returned⟩ := run_takings codec .initial run
    have prefixed : (takings trace).map Prod.snd <+: final.inner.conn.rx.sent := by
      have ordered := final.inner.conn.rx.ordered
      rw [taken] at ordered
      exact (List.prefix_append _ _).trans ordered
    have kth : ((takings trace).map Prod.snd)[k]? = some frame := by
      rw [List.getElem?_map, taking]
      rfl
    refine ⟨?_, returned _ (List.mem_of_getElem? taking)⟩
    obtain ⟨rest, parts⟩ := prefixed
    rw [← parts, List.getElem?_append_left (List.getElem?_eq_some_iff.mp kth).1, kth]
  · exact receiveStep codec (run.reachable (.inr ⟨action, member⟩)) step
  · have ends := System.ends (reachable_inner (run.reachable seen))
    constructor
    · intro holds
      refine pending_step owner idle empty ?_
      rw [ends.sender, holds]
      exact Finset.singleton_ne_empty _
    · intro dropped
      have gone : c.inner.conn.rx.senders = ∅ := by
        rw [ends.sender, dropped]
        rfl
      exact end_of_closed codec owner idle empty gone

/-- A codec that rejects text frames. -/
def binaryCodec : Codec Unit Bytes Bytes where
  encode payload := .ok (.binary payload)
  decode
    | .binary payload => .ok payload
    | _ => .error (.codec "not binary")

/-- A frame that the codec rejects is received before the handle is split, and
one that it accepts after. -/
def receiveAcrossSplit : List (Action Unit) :=
  [.other (.loop (.arm (.incoming (some (.ok (.text "a")))))), .receive 0 .nextMessage,
    .other (.advance 0), .other (.split 0 1),
    .other (.loop (.arm (.incoming (some (.ok (.binary [2])))))), .receive 1 .pollNext]

theorem interfaces_agree_receiveAcrossSplit :
    let final := (consumer .single Unit).follow (.create .single Unit) receiveAcrossSplit
    takings ((consumer .single Unit).steps (.create .single Unit) receiveAcrossSplit) =
        [(0, .text "a"), (1, .binary [2])] ∧
      final.inner.conn.rx.sent[1]? = some (.binary [2]) ∧
        ∃ interface, final.through 1 = some interface ∧
          final.returned binaryCodec 1 = some (interface.frame binaryCodec (.binary [2])) := by
  intro final
  have taken : takings ((consumer .single Unit).steps (.create .single Unit) receiveAcrossSplit) =
      [(0, .text "a"), (1, .binary [2])] := by decide
  have run := (consumer .single Unit).run_steps (.create .single Unit) receiveAcrossSplit
  exact ⟨taken, (interfaces_agree binaryCodec run).1 1 1 (.binary [2]) (by rw [taken]; rfl)⟩

end Consumer

end Socketeer
