import Socketeer.SocketLoop.Sink

/-! # How the loop answers

A confirmed payload is pending while it is queued or being written. A step of
the task leaves the one-shot of a call alone, unless the payload of the call was
pending and no longer is (`Connection.Handled`): then its write completed and
the result was sent on the one-shot, or its write completed and nobody was
listening, or the payload was discarded with the queue.
-/

namespace Socketeer

open Foundation

variable {cfg : LoopConfig} {E : Type}

namespace Connection

/-- The calls whose confirmed payloads were accepted, in order. -/
def accepted (s : Connection cfg E) : List CallId :=
  s.tx.sent.filterMap TxChannelPayload.responseTx

/-- The payload of the call is queued. -/
def Queued (s : Connection cfg E) (call : CallId) : Prop :=
  ∃ payload ∈ s.tx.queue, payload.responseTx = some call

/-- The payload of the call is being written. -/
def Sending (s : Connection cfg E) (call : CallId) : Prop :=
  ∃ payload site, s.pc = .sending payload site ∧ payload.responseTx = some call

/-- The payload of the call was accepted, and its fate is not yet known. -/
def Pending (s : Connection cfg E) (call : CallId) : Prop :=
  s.Queued call ∨ s.Sending call

/-- The payload of the call was written with this result. -/
def Wrote (s : Connection cfg E) (call : CallId) (result : Except (Error E) Unit) : Prop :=
  ∃ message write, .send (.outgoing (some call)) message write ∈ s.sinkOps ∧
    result = write.mapError .websocketError

/-- What a step of the task does with the one-shot of a call. -/
inductive Handled (s t : Connection cfg E) (call : CallId) : Prop where
  | untouched (same : t.oneshots call = s.oneshots call) (kept : t.Pending call → s.Pending call)
  | answered {result : Except (Error E) Unit} (was : s.Sending call) (done : ¬ t.Pending call)
      (listening : (s.oneshots call).receiverDropped = false)
      (fills : t.oneshots call = (s.oneshots call).fill result) (wrote : t.Wrote call result)
  | unheard (was : s.Sending call) (done : ¬ t.Pending call)
      (hungUp : (s.oneshots call).receiverDropped = true)
      (drops : t.oneshots call = (s.oneshots call).dropSender)
  | discarded (was : s.Queued call) (done : ¬ t.Pending call)
      (exiting : ∃ state, s.pc = .leaving state .droppingReceiver)
      (drops : t.oneshots call = (s.oneshots call).dropSender)

variable {s t : Connection cfg E} {action : LoopAction E}

/-- What the task writes stays written. -/
theorem LoopStep.sinkOps (step : s.LoopStep action t) : s.sinkOps <+: t.sinkOps := by
  cases step with
  | sentUnconfirmed | sentConfirmed | sentUnheard | ponged | sinkClosed | keptAlive =>
      exact List.prefix_append _ _
  | outgoing | sendersGone | ping | close | skip | streamError | streamEnd | deliver | refuse | hold
  | release | abandon | sleep | record | dropSender | dropReceiver => exact List.prefix_refl _

/-- What was written for a call stays written. -/
theorem Wrote.mono {call : CallId} {result : Except (Error E) Unit} (wrote : s.Wrote call result)
    (more : s.sinkOps <+: t.sinkOps) : t.Wrote call result := by
  obtain ⟨message, write, member, same⟩ := wrote
  exact ⟨message, write, more.subset member, same⟩

/-- Nothing is accepted by a step of the task. -/
theorem LoopStep.sent (step : s.LoopStep action t) : t.tx.sent = s.tx.sent := by
  cases step with
  | outgoing _ received => exact received.sent
  | sendersGone | ping | close | skip | streamError | streamEnd | deliver | refuse | hold
  | release | abandon | sleep | sentUnconfirmed | sentConfirmed | sentUnheard | ponged | sinkClosed
  | keptAlive | record | dropSender | dropReceiver => rfl

/-- Each call has its payload accepted at most once. -/
def Once (s : Connection cfg E) : Prop :=
  s.accepted.Nodup

/-- The payload that is being written was the last one taken. -/
theorem Accounted.last (accounted : Accounted s) {payload : TxChannelPayload} {site : Site}
    (sending : s.pc = .sending payload site) : ∃ front, s.tx.taken = front ++ [payload] := by
  have outgoing := accounted.outgoing
  unfold passed at outgoing
  rw [sending, List.filterMap_append] at outgoing
  exact ⟨_, outgoing.symm⟩

/-- A payload that is being written is not queued as well. -/
theorem not_queued_of_sending (accounted : Accounted s) (ends : Ends s) (once : s.Once)
    {call : CallId} (sending : s.Sending call) : ¬ s.Queued call := by
  obtain ⟨payload, site, pc, confirmed⟩ := sending
  rintro ⟨other, member, same⟩
  obtain ⟨front, taken⟩ := accounted.last pc
  have held : s.tx.receiver.isSome := by
    rw [ends.receiver, pc]
    rfl
  have all := s.tx.complete held
  unfold Once accepted at once
  rw [← all, taken, List.filterMap_append, List.nodup_append] at once
  have first : call ∈ (front ++ [payload]).filterMap TxChannelPayload.responseTx :=
    List.mem_filterMap.mpr ⟨payload, by simp, confirmed⟩
  have second : call ∈ s.tx.queue.filterMap TxChannelPayload.responseTx :=
    List.mem_filterMap.mpr ⟨other, member, same⟩
  exact once.2.2 call first call second rfl

/-- A step that touches neither one-shots nor payloads. -/
private theorem Handled.keep {call : CallId} (oneshots : t.oneshots = s.oneshots)
    (queue : t.tx.queue = s.tx.queue) (sending : ∀ payload site, t.pc ≠ .sending payload site) :
    Handled s t call := by
  refine .untouched (congrFun oneshots call) ?_
  rintro (⟨payload, member, same⟩ | ⟨payload, site, pc, _⟩)
  · rw [queue] at member
    exact .inl ⟨payload, member, same⟩
  · exact absurd pc (sending payload site)

/-- No handler returns into a write for a caller. -/
theorem LoopState.next_ne_sending (state : LoopState E) (site : Site)
    (payload : TxChannelPayload) (other : Site) : state.next site ≠ .sending payload other := by
  cases state with
  | running | error _ | closed => nofun

/-- What a step of the task does with the one-shot of a call. -/
theorem LoopStep.handled (step : s.LoopStep action t) (accounted : Accounted s) (ends : Ends s)
    (once : s.Once) (call : CallId) : Handled s t call := by
  cases step with
  | @outgoing site payload tx here received =>
      refine .untouched rfl ?_
      rintro (⟨queued, member, same⟩ | ⟨sent, _, pc, same⟩)
      · left
        refine ⟨queued, ?_, same⟩
        rw [received.queue]
        exact List.mem_cons_of_mem _ member
      · obtain ⟨rfl, _⟩ := LoopPc.sending.inj pc
        left
        refine ⟨payload, ?_, same⟩
        rw [received.queue]
        exact List.mem_cons_self
  | sendersGone | ping | close | skip | streamError | streamEnd | deliver | refuse | hold
  | release | abandon | sleep | record | dropSender =>
      exact .keep rfl rfl fun _ _ pc => by cases pc
  | sentUnconfirmed | ponged | sinkClosed | keptAlive =>
      exact .keep rfl rfl (LoopState.next_ne_sending _ _)
  | @sentConfirmed payload site other result here confirmed listening =>
      by_cases mine : call = other
      · subst mine
        have was : s.Sending call := ⟨payload, site, here, confirmed⟩
        refine .answered was ?_ listening (Function.update_self ..)
          ⟨payload.message, result, ?_, rfl⟩
        · rintro (queued | ⟨_, _, pc, _⟩)
          · exact not_queued_of_sending accounted ends once was queued
          · exact LoopState.next_ne_sending _ _ _ _ pc
        · exact List.mem_append_right _ (List.mem_singleton_self _)
      · refine .untouched (Function.update_of_ne mine ..) ?_
        rintro (queued | ⟨_, _, pc, _⟩)
        · exact .inl queued
        · exact absurd pc (LoopState.next_ne_sending _ _ _ _)
  | @sentUnheard payload site other result here confirmed cancelled =>
      by_cases mine : call = other
      · subst mine
        have was : s.Sending call := ⟨payload, site, here, confirmed⟩
        refine .unheard was ?_ cancelled (Function.update_self ..)
        rintro (queued | ⟨_, _, pc, _⟩)
        · exact not_queued_of_sending accounted ends once was queued
        · cases pc
      · refine .untouched (Function.update_of_ne mine ..) ?_
        rintro (queued | ⟨_, _, pc, _⟩)
        · exact .inl queued
        · cases pc
  | dropReceiver here =>
      by_cases queued : s.Queued call
      · refine .discarded queued ?_ ⟨_, here⟩ ?_
        · rintro (⟨_, member, _⟩ | ⟨_, _, pc, _⟩)
          · cases member
          · cases pc
        · obtain ⟨payload, member, same⟩ := queued
          exact if_pos (List.mem_map.mpr ⟨payload, member, same⟩)
      · refine .untouched ?_ ?_
        · refine if_neg fun member => queued ?_
          obtain ⟨payload, member, same⟩ := List.mem_map.mp member
          exact ⟨payload, member, same⟩
        · rintro (⟨_, member, _⟩ | ⟨_, _, pc, _⟩)
          · cases member
          · cases pc

/-- What is still queued when the tx receiver is dropped goes unanswered. -/
theorem LoopStep.drops (step : s.LoopStep action t) {state : LoopState E}
    (exiting : s.pc = .leaving state .droppingReceiver) {call : CallId} (queued : s.Queued call) :
    t.oneshots call = (s.oneshots call).dropSender := by
  cases step with
  | dropReceiver _ =>
      obtain ⟨payload, member, same⟩ := queued
      exact if_pos (List.mem_map.mpr ⟨payload, member, same⟩)
  | outgoing here | sendersGone here | ping here | close here | skip here | streamError here
  | streamEnd here | deliver here | refuse here | hold here | release here | abandon here
  | sleep here | sentUnconfirmed here | sentConfirmed here | sentUnheard here | ponged here
  | sinkClosed here | keptAlive here | record here | dropSender here =>
      rw [exiting] at here
      cases here

/-- The write of a payload whose caller hung up ends the loop. -/
theorem LoopStep.unheard {result : Except E Unit} (step : s.LoopStep (.sink result) t)
    {payload : TxChannelPayload} {site : Site} (sending : s.pc = .sending payload site)
    {call : CallId} (confirmed : payload.responseTx = some call)
    (hungUp : (s.oneshots call).receiverDropped = true) :
    t.pc = .leaving (.error .socketeerDroppedWithoutClosing) .recording := by
  cases step with
  | sentUnconfirmed here unconfirmed =>
      obtain ⟨rfl, _⟩ := LoopPc.sending.inj (sending.symm.trans here)
      rw [confirmed] at unconfirmed
      cases unconfirmed
  | sentConfirmed here confirmed' listening =>
      obtain ⟨rfl, _⟩ := LoopPc.sending.inj (sending.symm.trans here)
      obtain rfl := Option.some.inj (confirmed.symm.trans confirmed')
      rw [hungUp] at listening
      cases listening
  | sentUnheard here _ _ => rfl
  | ponged here | sinkClosed here | keptAlive here =>
      rw [sending] at here
      cases here

end Connection

end Socketeer
