import Socketeer.Handles.Feed

/-! # The terminal cause

The slot is written once, before the task drops either of its channel ends, and
emptied by the first call that goes to it, which happens only once a channel is
seen closed. Every call that goes to the slot returns what it found there, or
falls back (`System.SlotStep`).
-/

namespace Socketeer

open Foundation

variable {cfg : LoopConfig} {E : Type}

/-- The cause of a loop that ended in an error. -/
def LoopState.cause : LoopState E → Option (Error E)
  | .error cause => some cause
  | .running | .closed => none

/-- Recording a state puts its cause, if it has one, in place of what is there. -/
theorem recordTerminal_eq (state : LoopState E) (slot : Option (Error E)) :
    Connection.recordTerminal state slot = state.cause.or slot := by
  cases state with
  | running | error _ | closed => rfl

/-- The cause that the task has recorded. -/
def LoopPc.cause : LoopPc E → Option (Error E)
  | .leaving _ .recording => none
  | .leaving state _ => state.cause
  | .select _ | .sending _ _ | .ponging | .closing | .keepalive _ => none

/-- What a call reports that has taken what was in the slot: the cause, or that
the connection is closed if there was none. -/
def toldCause : Option (Error E) → Error E
  | some cause => cause
  | none => .websocketClosed

/-- `take_terminal_error` gives what a call is to report. -/
theorem takeTerminalError_eq (slot : Option (Error E)) :
    System.takeTerminalError slot = toldCause slot := by
  cases slot with
  | none | some cause => rfl

/-- The task that goes on has recorded no cause. -/
theorem LoopState.next_cause (state : LoopState E) (site : Site) :
    (state.next site).cause = none := by
  cases state with
  | running | error _ | closed => rfl

/-- What a call becomes that sees a channel closed and takes what is in the
slot. -/
def CallPc.onClosed (slot : Option (Error E)) : CallPc E → Option (CallPc E)
  | .sending => some (.returned (.refused (toldCause slot)))
  | .receiving => some (.returned (.received (.error (toldCause slot))))
  | .joining closeSent =>
      some (.returned (.closed (match slot with
        | some error => .error error
        | none => closeSent)))
  | .awaitingReply | .connecting | .returned _ | .panicked | .cancelled => none

namespace Connection

variable {s t : Connection cfg E} {action : LoopAction E}

/-- Only the first step of the way out touches the slot. -/
theorem LoopStep.slot (step : s.LoopStep action t) :
    (t.terminalError = s.terminalError ∧ t.pc.cause = s.pc.cause) ∨
      ∃ state, s.pc = .leaving state .recording ∧
        t.terminalError = state.cause.or s.terminalError ∧ t.pc.cause = state.cause := by
  cases step with
  | record here => exact .inr ⟨_, here, recordTerminal_eq _ _, rfl⟩
  | outgoing here | sendersGone here | ping here | close here | skip here | streamError here
  | streamEnd here | deliver here | refuse here | hold here | release here | abandon here
  | sleep here | sentUnheard here | dropSender here | dropReceiver here =>
      left
      rw [here]
      exact ⟨rfl, rfl⟩
  | sentUnconfirmed here | sentConfirmed here | ponged here | sinkClosed here | keptAlive here =>
      left
      rw [here, LoopState.next_cause]
      exact ⟨rfl, rfl⟩

end Connection

namespace System

open Connection

variable {s t : System cfg E}

/-- What a step does with the slot: leave it alone, record the cause in it, or
take what is in it for a call that returns it. -/
inductive SlotStep (s t : System cfg E) : Prop where
  | kept (reads : t.slotReads = s.slotReads) (slot : t.conn.terminalError = s.conn.terminalError)
      (cause : t.conn.pc.cause = s.conn.pc.cause)
  | recorded {state} (leaving : s.conn.pc = .leaving state .recording)
      (reads : t.slotReads = s.slotReads)
      (slot : t.conn.terminalError = state.cause.or s.conn.terminalError)
      (cause : t.conn.pc.cause = state.cause)
  | taken {call record pc} (found : s.calls call = some record)
      (sends : record.pc = .sending → record.op.sends = true)
      (seen : s.conn.tx.receiver = none ∨ s.conn.rx.senders = ∅)
      (returns : record.pc.onClosed s.conn.terminalError = some pc)
      (after : t.calls call = some { record with pc := pc })
      (reads : t.slotReads = s.slotReads ++ [(call, s.conn.terminalError)])
      (slot : t.conn.terminalError = none) (same : t.conn.pc = s.conn.pc)
  | polled {handle} (permitted : s.Permits handle .pollNext) (seen : s.conn.rx.senders = ∅)
      (after : t.calls s.started =
        some ⟨.pollNext, handle, .returned (.polled (s.conn.terminalError.map .error))⟩)
      (reads : t.slotReads = s.slotReads ++ [(s.started, s.conn.terminalError)])
      (slot : t.conn.terminalError = none) (same : t.conn.pc = s.conn.pc)

/-- What a step of the system does to the slot. -/
theorem slotStep (ends : s.conn.Ends) {action : Action E} (step : s.Step action t) :
    SlotStep s t := by
  cases step with
  | loop moved =>
      rcases moved.slot with ⟨slot, cause⟩ | ⟨state, leaving, slot, cause⟩
      · exact .kept rfl slot cause
      · exact .recorded leaving rfl slot cause
  | refuseSend found atSend sends closed =>
      refine .taken found (fun _ => sends) (.inl closed)
        (by rw [atSend, takeTerminalError_eq]; rfl)
        (moveTo_calls_self ..) rfl ?_ ?_
      · exact settle_terminalError ..
      · exact settle_pc ..
  | join found joining finished =>
      have closed := ends.receiver
      rw [finished] at closed
      refine .taken found (by rw [joining]; nofun) (.inl closed) (by rw [joining]; rfl)
        (moveTo_calls_self ..) rfl ?_ ?_
      · exact settle_terminalError ..
      · exact settle_pc ..
  | recvEnd found receiving empty gone =>
      refine .taken found (by rw [receiving]; nofun) (.inr gone)
        (by rw [receiving, takeTerminalError_eq]; rfl)
        (moveTo_calls_self ..) rfl ?_ ?_
      · exact settle_terminalError ..
      · exact settle_pc ..
  | pollEnd permitted empty gone => exact .polled permitted gone (begin_calls_self ..) rfl rfl rfl
  | startReceive | startSend | pollFrame | pollPending | clone | split | reunite | drop =>
      exact .kept rfl rfl rfl
  | accept | refuseClose | reply | panic | connect | recvFrame | cancel =>
      exact .kept rfl (settle_terminalError ..) (congrArg LoopPc.cause (settle_pc ..))

/-- What the slot holds, and what was taken from it. -/
structure Slot (s : System cfg E) : Prop where
  untouched : s.slotReads = [] → s.conn.terminalError = s.conn.pc.cause
  first : ∀ access rest, s.slotReads = access :: rest → access.2 = s.conn.pc.cause ∧
    s.conn.terminalError = none ∧ ∀ later ∈ rest, later.2 = none
  closed : s.slotReads ≠ [] → s.conn.rx.senders = ∅

/-- No step makes a new sender of the rx channel. -/
theorem step_rxSenders {action : Action E} (step : s.step action = some t) :
    t.conn.rx.senders ⊆ s.conn.rx.senders := by
  rcases step_ledger step with ⟨_, _, moved⟩ | same
  · exact moved.rxSenders
  · exact same.rxSenders.subset

/-- An access to the slot takes what is in it. -/
private theorem Slot.take (slot : Slot s) {call : CallId}
    (reads : t.slotReads = s.slotReads ++ [(call, s.conn.terminalError)])
    (empty : t.conn.terminalError = none) (same : t.conn.pc = s.conn.pc)
    (gone : t.conn.rx.senders = ∅) : Slot t := by
  constructor
  · intro none
    rw [reads] at none
    simp at none
  · intro access rest parts
    rw [reads] at parts
    rw [same]
    cases before : s.slotReads with
    | nil =>
        rw [before] at parts
        obtain ⟨rfl, rfl⟩ := List.cons.inj parts
        exact ⟨slot.untouched before, empty, fun _ member => nomatch member⟩
    | cons first others =>
        rw [before] at parts
        obtain ⟨rfl, rfl⟩ := List.cons.inj parts
        obtain ⟨cause, emptied, later⟩ := slot.first first others before
        refine ⟨cause, empty, fun access member => ?_⟩
        rcases List.mem_append.mp member with old | new
        · exact later access old
        · rw [List.mem_singleton.mp new]
          exact emptied
  · exact fun _ => gone

/-- What the slot and its accesses hold, in every reachable state. -/
theorem slot (reached : (system cfg E).Reachable s) : Slot s := by
  refine reached.invariant Slot ⟨fun _ => rfl, nofun, fun some => absurd rfl some⟩ ?_
  intro s action t reached slot step
  have ends := ends reached
  have closes : s.conn.rx.senders = ∅ → t.conn.rx.senders = ∅ := fun gone =>
    Finset.subset_empty.mp (gone ▸ step_rxSenders step)
  cases slotStep ends (step_rule step) with
  | kept reads slot' cause =>
      constructor
      · rw [reads, slot', cause]
        exact slot.untouched
      · rw [reads, slot', cause]
        exact slot.first
      · rw [reads]
        exact fun some => closes (slot.closed some)
  | @recorded state leaving reads slot' cause =>
      -- nobody has seen a channel closed yet
      have none : s.slotReads = [] := by
        by_contra some
        have gone := ends.closed (slot.closed some)
        rw [leaving] at gone
        cases gone
      constructor
      · intro _
        rw [slot', cause, slot.untouched none, leaving]
        exact Option.or_none
      · rw [reads, none]
        nofun
      · rw [reads]
        exact fun some => absurd none some
  | taken _ _ seen _ _ reads empty same =>
      refine slot.take reads empty same (closes ?_)
      exact seen.elim ends.refused id
  | polled _ seen _ reads empty same => exact slot.take reads empty same (closes seen)

/-- Without a cause there is nothing to take, and never was. -/
theorem Slot.of_cause_none (slot : Slot s) (none : s.conn.pc.cause = none) :
    s.conn.terminalError = .none ∧ ∀ access ∈ s.slotReads, access.2 = .none := by
  cases reads : s.slotReads with
  | nil => exact ⟨(slot.untouched reads).trans none, nofun⟩
  | cons access rest =>
      obtain ⟨cause, empty, later⟩ := slot.first access rest reads
      refine ⟨empty, fun access' member => ?_⟩
      rcases List.mem_cons.mp member with rfl | old
      · exact cause.trans none
      · exact later access' old

/-- The state in which the loop was left stays the same. -/
theorem run_exited {trace : List (System cfg E × Action E)} (run : (system cfg E).Run s trace t)
    {state : LoopState E} {stage : Stage} (leaving : s.conn.pc = .leaving state stage) :
    ∃ later, t.conn.pc = .leaving state later := by
  apply run.invariant
  · exact ⟨stage, leaving⟩
  rintro middle action target ⟨stage, leaving⟩ step
  exact (exited_step step leaving).1

end System

end Socketeer
