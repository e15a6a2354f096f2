import Socketeer.SocketLoop.Step

/-! # Leaving the loop

Once the loop state is no longer `Running`, the task only goes through the
stages of its way out: nothing more is read, sent or delivered
(`Connection.LoopStep.exited`). The task drops its two channel ends there and
nowhere else (`Connection.Ends`).
-/

namespace Socketeer

open Foundation

variable {cfg : LoopConfig} {E : Type}

namespace LoopPc

/-- Whether the loop state is still `Running`. -/
def running : LoopPc E → Bool
  | .leaving _ _ => false
  | _ => true

/-- Whether the task holds the rx sender. -/
def holdsSender : LoopPc E → Bool
  | .leaving _ .droppingReceiver | .leaving _ .finished => false
  | _ => true

/-- Whether the task holds the tx receiver. -/
def holdsReceiver : LoopPc E → Bool
  | .leaving _ .finished => false
  | _ => true

/-- A loop that runs holds the sender of the rx channel. -/
theorem holdsSender_of_running {pc : LoopPc E} (running : pc.running = true) :
    pc.holdsSender = true := by
  cases pc with
  | leaving _ _ => cases running
  | select _ | sending _ _ | ponging | closing | keepalive _ => rfl

/-- The receiver of the tx channel is dropped after the sender of the rx channel. -/
theorem holdsReceiver_of_holdsSender {pc : LoopPc E} (holds : pc.holdsSender = true) :
    pc.holdsReceiver = true := by
  cases pc with
  | leaving _ stage => cases stage <;> first | rfl | cases holds
  | select _ | sending _ _ | ponging | closing | keepalive _ => rfl

end LoopPc

/-- A handler that keeps the loop running goes back to its `select!`. -/
theorem LoopState.next_running {state : LoopState E} {site : Site}
    (running : (state.next site).running = true) : state.next site = .select site := by
  cases state with
  | running => rfl
  | error _ | closed => cases running

/-- A handler ends at a `select!` or at the start of the way out. -/
theorem LoopState.next_holds (state : LoopState E) (site : Site) :
    (state.next site).holdsSender = true := by
  cases state with
  | running | error _ | closed => rfl

namespace Connection

variable {s t : Connection cfg E} {action : LoopAction E}

/-- Once the loop has been left, the task only goes through the stages of its
way out. -/
theorem LoopStep.exited (step : s.LoopStep action t) {state : LoopState E} {stage : Stage}
    (leaving : s.pc = .leaving state stage) :
    (∃ later, t.pc = .leaving state later) ∧ SameHistory s t := by
  cases step with
  | record here | dropSender here | dropReceiver here =>
      obtain ⟨rfl, rfl⟩ := LoopPc.leaving.inj (leaving.symm.trans here)
      exact ⟨⟨_, rfl⟩, rfl, rfl, rfl, rfl⟩
  | outgoing here | sendersGone here | ping here | close here | skip here | streamError here
  | streamEnd here | deliver here | refuse here | hold here | release here | abandon here
  | sleep here | sentUnconfirmed here | sentConfirmed here | sentUnheard here | ponged here
  | sinkClosed here | keptAlive here =>
      cases leaving.symm.trans here

/-- The task leaves the loop in an error or closed: the `unreachable!` after the
loop is not reached. -/
def LeavesStopped (s : Connection cfg E) : Prop :=
  ∀ stage, s.pc ≠ .leaving .running stage

/-- The task leaves the loop with a state that has stopped it. -/
theorem LeavesStopped.loopStep (stopped : s.LeavesStopped) (step : s.LoopStep action t) :
    t.LeavesStopped := by
  have next : ∀ (state : LoopState E) (site : Site) stage,
      state.next site ≠ .leaving .running stage := by
    intro state site stage
    cases state with
    | running | error _ | closed => nofun
  cases step with
  | sentUnconfirmed here | sentConfirmed here | ponged here | sinkClosed here | keptAlive here =>
      exact next _ _
  | @record state here | @dropSender state here | @dropReceiver state here =>
      intro stage after
      obtain ⟨rfl, _⟩ := LoopPc.leaving.inj after
      exact stopped _ here
  | outgoing | sendersGone | ping | close | skip | streamError | streamEnd | deliver | refuse | hold
  | release | abandon | sleep | sentUnheard =>
      intro stage after
      cases after

/-- No other step changes the state the loop was left with. -/
theorem LeavesStopped.frame (stopped : s.LeavesStopped) (same : SameLedger s t) :
    t.LeavesStopped := by
  intro stage
  rw [same.pc]
  exact stopped stage

/-- The stream is read at the outer `select!` only. -/
theorem LoopStep.reads {item : StreamItem E} (step : s.LoopStep (.arm (.incoming item)) t) :
    s.pc = .select .outer := by
  cases step with
  | ping here | close here | skip here | streamError here | streamEnd here | deliver here
  | refuse here | hold here => exact here

/-- The task never gets a dropped rx sender back. -/
theorem LoopStep.rxSenders (step : s.LoopStep action t) : t.rx.senders ⊆ s.rx.senders := by
  cases step with
  | deliver here _ accepted | release here accepted => exact accepted.senders.subset
  | dropSender here => exact Finset.erase_subset _ _
  | outgoing | sendersGone | ping | close | skip | streamError | streamEnd | refuse | hold
  | abandon | sleep | sentUnconfirmed | sentConfirmed | sentUnheard | ponged | sinkClosed
  | keptAlive | record | dropReceiver => exact Finset.Subset.refl _

/-- Which channel ends the task holds. -/
structure Ends (s : Connection cfg E) : Prop where
  sender : s.rx.senders = if s.pc.holdsSender then {()} else ∅
  receiver : s.tx.receiver = if s.pc.holdsReceiver then some () else none

theorem Ends.create (cfg : LoopConfig) (E : Type) (handle : HandleId) :
    Ends (.create cfg E handle) :=
  ⟨rfl, rfl⟩

/-- A step that neither drops an end nor goes past its drop. -/
private theorem Ends.keep (ends : Ends s) (rx : t.rx.senders = s.rx.senders)
    (tx : t.tx.receiver = s.tx.receiver) (before : s.pc.holdsSender = true)
    (after : t.pc.holdsSender = true) : Ends t := by
  constructor
  · rw [rx, ends.sender, before, after]
  · rw [tx, ends.receiver, LoopPc.holdsReceiver_of_holdsSender before,
      LoopPc.holdsReceiver_of_holdsSender after]

/-- The task drops its ends on its way out, and not before. -/
theorem Ends.loopStep (ends : Ends s) (step : s.LoopStep action t) : Ends t := by
  cases step with
  | outgoing here received => exact ends.keep rfl received.receiver (by rw [here]; rfl) rfl
  | deliver here _ accepted | release here accepted =>
      exact ends.keep accepted.senders rfl (by rw [here]; rfl) rfl
  | sendersGone here | ping here | close here | skip here | streamError here | streamEnd here
  | refuse here | hold here | abandon here | sleep here | sentUnheard here | record here =>
      exact ends.keep rfl rfl (by rw [here]; rfl) rfl
  | sentUnconfirmed here | sentConfirmed here | ponged here | sinkClosed here | keptAlive here =>
      exact ends.keep rfl rfl (by rw [here]; rfl) (LoopState.next_holds _ _)
  | dropSender here =>
      constructor
      · change s.rx.senders.erase () = ∅
        rw [ends.sender, here]
        rfl
      · change s.tx.receiver = some ()
        rw [ends.receiver, here]
        rfl
  | dropReceiver here =>
      constructor
      · change s.rx.senders = ∅
        rw [ends.sender, here]
        rfl
      · rfl

/-- A channel is seen closed only after the slot was written. -/
theorem Ends.closed (ends : Ends s) (gone : s.rx.senders = ∅) : s.pc.holdsSender = false := by
  by_contra holds
  have sender := ends.sender
  rw [gone, Bool.eq_true_of_not_eq_false holds] at sender
  simp at sender

/-- Where sends are refused, the rx channel has no sender either. -/
theorem Ends.refused (ends : Ends s) (gone : s.tx.receiver = none) : s.rx.senders = ∅ := by
  by_contra held
  have receiver := ends.receiver
  have holds : s.pc.holdsSender = true := by
    by_contra dropped
    rw [ends.sender, Bool.eq_false_of_not_eq_true dropped] at held
    exact held rfl
  rw [gone, LoopPc.holdsReceiver_of_holdsSender holds] at receiver
  cases receiver

/-- No other step touches the task's ends. -/
theorem Ends.frame (ends : Ends s) (same : SameLedger s t) : Ends t := by
  constructor
  · rw [same.rxSenders, same.pc, ends.sender]
  · rw [same.txReceiver, same.pc, ends.receiver]

end Connection

end Socketeer
