import Socketeer.SocketLoop.Exit

/-! # What the loop delivers

While the loop is running, the frames it has put on the rx channel followed by
the frame it holds are the data frames it has read. Once it has left, the
frames on the channel are still a prefix of them: the held frame, if any, is
gone.
-/

namespace Socketeer

open Foundation

variable {cfg : LoopConfig} {E : Type}

def Site.held : Site → Option Message
  | .outer => none
  | .backpressure frame => some frame

namespace LoopPc

/-- The frame held by `deliver_with_backpressure`. -/
def held : LoopPc E → Option Message
  | .select site | .sending _ site | .keepalive site => site.held
  | .ponging | .closing | .leaving _ _ => none

end LoopPc

namespace Connection

/-- The data frame an item carries. -/
def itemData : StreamItem E → Option Message
  | some (.ok message) => message.data?
  | some (.error _) | none => none

/-- The Text and Binary frames among the items read from the stream. -/
def dataFrames (items : List (StreamItem E)) : List Message :=
  items.filterMap itemData

/-- The data frames after one more item. -/
@[simp] theorem dataFrames_snoc (items : List (StreamItem E)) (item : StreamItem E) :
    dataFrames (items ++ [item]) = dataFrames items ++ (itemData item).toList := by
  unfold dataFrames
  rw [List.filterMap_append]
  cases data : itemData item <;> simp [data]

/-- The account of the inbound side. -/
structure Delivery (s : Connection cfg E) : Prop where
  running : s.pc.running = true → s.rx.sent ++ s.pc.held.toList = dataFrames s.items
  delivered : s.rx.sent <+: dataFrames s.items

variable {s t : Connection cfg E} {action : LoopAction E}

theorem Delivery.create (cfg : LoopConfig) (E : Type) (handle : HandleId) :
    Delivery (.create cfg E handle) :=
  ⟨fun _ => rfl, List.prefix_refl _⟩

/-- A step that delivers nothing and reads no data keeps the account, if it
keeps the held frame or leaves the loop. -/
private theorem Delivery.move (holds : Delivery s) (sent : t.rx.sent = s.rx.sent)
    (read : dataFrames t.items = dataFrames s.items)
    (kept : t.pc.running = true → s.pc.running = true ∧ t.pc.held = s.pc.held) :
    Delivery t := by
  constructor
  · intro running
    obtain ⟨before, same⟩ := kept running
    rw [sent, read, same]
    exact holds.running before
  · rw [sent, read]
    exact holds.delivered

/-- The end of a handler keeps the held frame or leaves the loop. -/
private theorem next_held {state : LoopState E} {site : Site} {pc : LoopPc E}
    (awaiting : pc.held = site.held) (before : pc.running = true)
    (running : (state.next site).running = true) :
    pc.running = true ∧ (state.next site).held = pc.held := by
  rw [LoopState.next_running running, awaiting]
  exact ⟨before, rfl⟩

/-- Reading a data frame adds it to the account of what was read, which the
frames on the channel already covered. -/
private theorem Delivery.read (holds : Delivery s) (atSelect : s.pc = .select .outer)
    {frame : Message} (data : frame.data? = some frame) :
    dataFrames (s.items ++ [some (.ok frame)]) = s.rx.sent ++ [frame] := by
  have before := holds.running (by rw [atSelect]; rfl)
  rw [atSelect] at before
  rw [dataFrames_snoc, ← before]
  simp [itemData, data, LoopPc.held, Site.held]

/-- Every step of the task keeps the account of the inbound side. -/
theorem Delivery.loopStep (holds : Delivery s) (step : s.LoopStep action t) : Delivery t := by
  cases step with
  | outgoing atSelect _ | sleep atSelect _ =>
      exact holds.move rfl rfl fun _ => by rw [atSelect]; exact ⟨rfl, rfl⟩
  | sendersGone | abandon => exact holds.move rfl rfl nofun
  | ping atSelect | close atSelect =>
      refine holds.move rfl (by simp [itemData, Message.data?]) fun _ => ?_
      rw [atSelect]
      exact ⟨rfl, rfl⟩
  | skip atSelect skipped =>
      refine holds.move rfl ?_ fun _ => by rw [atSelect]; exact ⟨rfl, rfl⟩
      rcases skipped with ⟨payload, rfl⟩ | ⟨raw, rfl⟩ <;> simp [itemData, Message.data?]
  | streamError | streamEnd => exact holds.move rfl (by simp [itemData]) nofun
  | @deliver frame rx atSelect data accepted =>
      have read := holds.read atSelect data
      constructor
      · intro _
        change rx.sent ++ [] = dataFrames (s.items ++ [some (.ok frame)])
        rw [List.append_nil, accepted.sent, read]
      · change rx.sent <+: dataFrames (s.items ++ [some (.ok frame)])
        rw [accepted.sent, read]
  | @refuse frame atSelect data gone =>
      refine ⟨nofun, ?_⟩
      change s.rx.sent <+: dataFrames (s.items ++ [some (.ok frame)])
      rw [holds.read atSelect data]
      exact List.prefix_append _ _
  | @hold frame atSelect data held full =>
      have read := holds.read atSelect data
      refine ⟨fun _ => read.symm, ?_⟩
      change s.rx.sent <+: dataFrames (s.items ++ [some (.ok frame)])
      rw [read]
      exact List.prefix_append _ _
  | @release frame rx atSelect accepted =>
      -- the permit turns the held frame into the last one on the channel
      have before := holds.running (by rw [atSelect]; rfl)
      rw [atSelect] at before
      have after : rx.sent = dataFrames s.items := accepted.sent.trans before
      constructor
      · intro _
        change rx.sent ++ [] = dataFrames s.items
        rw [List.append_nil, after]
      · change rx.sent <+: dataFrames s.items
        rw [after]
  | sentUnconfirmed awaiting _ | sentConfirmed awaiting _ _ | keptAlive awaiting =>
      exact holds.move rfl rfl (next_held (by rw [awaiting]; rfl) (by rw [awaiting]; rfl))
  | sentUnheard => exact holds.move rfl rfl nofun
  | ponged awaiting | sinkClosed awaiting =>
      exact holds.move rfl rfl (next_held (by rw [awaiting]; rfl) (by rw [awaiting]; rfl))
  | record | dropSender | dropReceiver => exact holds.move rfl rfl nofun

/-- Delivery is the task's alone. -/
theorem Delivery.frame (holds : Delivery s) (same : SameLedger s t) : Delivery t :=
  holds.move same.delivered (by rw [same.items]) fun running => by
    rw [same.pc] at running ⊢
    exact ⟨running, rfl⟩

/-- Whether the caller of a confirmed payload has hung up. -/
def unheard (s : Connection cfg E) (payload : TxChannelPayload) : Bool :=
  match payload.responseTx with
  | some call => (s.oneshots call).receiverDropped
  | none => false

/-- Whether a step of the task takes one of the early returns of
`deliver_with_backpressure` that are possible while there is a receiver: the
senders are gone, or an outgoing send or a keepalive does not keep the loop
running. -/
def abandonsHeldFrame (s : Connection cfg E) (action : LoopAction E) : Bool :=
  match s.pc, action with
  | .select (.backpressure _), .arm .outgoing => s.tx.queue.isEmpty
  | .sending payload (.backpressure _), .sink result => !result.isOk || s.unheard payload
  | .keepalive (.backpressure _), .sink result => !result.isOk
  | _, _ => false

/-- A pong or a keepalive stops the loop only if its write failed. -/
theorem sendState_running {result : Except E Unit} {site : Site}
    (left : ((sendState result).next site).running = false) : result.isOk = false := by
  cases result with
  | ok _ => cases left
  | error _ => rfl

/-- An outgoing message stops the loop only if its write failed. -/
theorem sendSocketMessageState_running {result : Except E Unit} {site : Site}
    (left : ((sendSocketMessageState (result.mapError Error.websocketError) true).next
      site).running = false) : result.isOk = false := by
  cases result with
  | ok _ => cases left
  | error _ => rfl

/-- Leaving the loop without abandoning a frame, everything that was read has
been delivered. -/
theorem Delivery.left (holds : Delivery s) (step : s.LoopStep action t)
    (running : s.pc.running = true) (left : t.pc.running = false)
    (alive : s.rx.receiver.isSome) (kept : s.abandonsHeldFrame action = false) :
    t.rx.sent = dataFrames t.items := by
  have before := holds.running running
  -- all that is left to show is that no frame was held
  have outer : ∀ {site : Site}, s.pc.held = site.held → site = .outer →
      s.rx.sent = dataFrames s.items := by
    rintro _ same rfl
    rwa [same, Site.held, Option.toList_none, List.append_nil] at before
  cases step with
  | @sendersGone site here empty gone =>
      refine outer (by rw [here]; rfl) ?_
      cases site with
      | outer => rfl
      | backpressure frame => simp [abandonsHeldFrame, here, empty] at kept
  | streamError here | streamEnd here =>
      change s.rx.sent = dataFrames (s.items ++ [_])
      rw [dataFrames_snoc, outer (by rw [here]; rfl) rfl]
      exact (List.append_nil _).symm
  | refuse here data gone | abandon here gone =>
      rw [gone] at alive
      cases alive
  | @sentUnconfirmed payload site result here unconfirmed =>
      refine outer (by rw [here]; rfl) ?_
      cases site with
      | outer => rfl
      | backpressure frame =>
          simp [abandonsHeldFrame, here, sendSocketMessageState_running left] at kept
  | @sentConfirmed payload site call result here confirmed listening =>
      refine outer (by rw [here]; rfl) ?_
      cases site with
      | outer => rfl
      | backpressure frame =>
          simp [abandonsHeldFrame, here, sendSocketMessageState_running left] at kept
  | @sentUnheard payload site call result here confirmed cancelled =>
      refine outer (by rw [here]; rfl) ?_
      cases site with
      | outer => rfl
      | backpressure frame => simp [abandonsHeldFrame, here, unheard, confirmed, cancelled] at kept
  | ponged here | sinkClosed here => exact outer (by rw [here]; rfl) rfl
  | @keptAlive site result here =>
      refine outer (by rw [here]; rfl) ?_
      cases site with
      | outer => rfl
      | backpressure frame => simp [abandonsHeldFrame, here, sendState_running left] at kept
  | record here | dropSender here | dropReceiver here =>
      rw [here] at running
      cases running
  | outgoing | ping | close | skip | deliver | hold | release | sleep => cases left

/-- Only a frame that is held is abandoned. -/
theorem held_of_abandonsHeldFrame (abandons : s.abandonsHeldFrame action = true) :
    s.pc.running = true ∧ ∃ frame, s.pc.held = some frame := by
  unfold abandonsHeldFrame at abandons
  split at abandons
  · rename_i frame here
    rw [here]
    exact ⟨rfl, frame, rfl⟩
  · rename_i payload frame result here
    rw [here]
    exact ⟨rfl, frame, rfl⟩
  · rename_i frame result here
    rw [here]
    exact ⟨rfl, frame, rfl⟩
  · cases abandons

/-- A step that abandons the held frame leaves the loop with a frame that was
read and not delivered. -/
theorem Delivery.abandoned (holds : Delivery s) (step : s.LoopStep action t)
    (abandons : s.abandonsHeldFrame action = true) :
    t.pc.running = false ∧ t.rx.sent ≠ dataFrames t.items := by
  obtain ⟨running, frame, held⟩ := held_of_abandonsHeldFrame abandons
  have short : s.rx.sent ≠ dataFrames s.items := by
    intro same
    have before := holds.running running
    rw [held, ← same] at before
    simp at before
  cases step with
  | sendersGone | sentUnheard => exact ⟨rfl, short⟩
  | @outgoing site payload tx here received =>
      cases site with
      | outer => simp [abandonsHeldFrame, here] at abandons
      | backpressure frame => simp [abandonsHeldFrame, here, received.queue] at abandons
  | @sentUnconfirmed payload site result here unconfirmed =>
      refine ⟨?_, short⟩
      cases result with
      | error _ => rfl
      | ok _ =>
          cases site <;>
            simp [abandonsHeldFrame, here, unheard, unconfirmed, Except.isOk, Except.toBool]
              at abandons
  | @sentConfirmed payload site call result here confirmed listening =>
      refine ⟨?_, short⟩
      cases result with
      | error _ => rfl
      | ok _ =>
          cases site <;>
            simp [abandonsHeldFrame, here, unheard, confirmed, listening, Except.isOk,
              Except.toBool] at abandons
  | @keptAlive site result here =>
      refine ⟨?_, short⟩
      cases result with
      | error _ => rfl
      | ok _ =>
          cases site <;> simp [abandonsHeldFrame, here, Except.isOk, Except.toBool] at abandons
  | ping here | close here | skip here | streamError here | streamEnd here | deliver here
  | refuse here | hold here | release here | abandon here | sleep here | ponged here
  | sinkClosed here | record here | dropSender here | dropReceiver here =>
      simp [abandonsHeldFrame, here] at abandons

/-- The frame of an item read from the stream carries data. -/
theorem mem_dataFrames {items : List (StreamItem E)} {frame : Message}
    (member : frame ∈ dataFrames items) :
    (∃ payload, frame = .text payload) ∨ ∃ payload, frame = .binary payload := by
  obtain ⟨item, _, carries⟩ := List.mem_filterMap.mp member
  match item, carries with
  | some (.ok message), carries => exact (Message.data?_eq_some carries).2

end Connection

end Socketeer
