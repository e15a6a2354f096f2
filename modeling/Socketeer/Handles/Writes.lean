import Socketeer.SocketLoop.Sink
import Socketeer.Handles.Feed

/-! # The account of the sink

In every run the messages passed to the sink are an interleaving of the
messages of the payloads taken from the tx channel, one pong for each ping, and
keepalives. The loop stops at the first operation that is not a successful send.
-/

namespace Socketeer

open Foundation

variable {cfg : LoopConfig} {E : Type}

namespace SinkOp

/-- The message of a pong that was written. -/
def writtenPong : SinkOp E → Option Message
  | .send .pong message (.ok ()) => some message
  | _ => none

def isClose : SinkOp E → Bool
  | .close _ => true
  | .send _ _ _ => false

end SinkOp

namespace Connection

/-- How often `sink.close` has been called. -/
def closeCalls (s : Connection cfg E) : Nat :=
  s.sinkOps.countP SinkOp.isClose + match s.pc with
    | .closing => 1
    | _ => 0

variable {s : Connection cfg E}

/-- What is passed for the callers are the messages of their payloads. -/
theorem passedBy_outgoing (s : Connection cfg E) :
    s.passedBy .outgoing = (s.passed.filterMap payload?).map TxChannelPayload.message := by
  unfold passedBy
  induction s.passed with
  | nil => rfl
  | cons entry rest ih =>
      obtain ⟨origin, message⟩ := entry
      cases origin with
      | outgoing responseTx => simp [ih]
      | pong | keepalive => simp [List.filterMap_cons, ih]

/-- Where every send succeeded, the pongs written are those passed. -/
private theorem writtenPongs_of_sent {ops : List (SinkOp E)} (sent : ∀ op ∈ ops, op.sent = true) :
    ops.filterMap SinkOp.writtenPong =
      ((ops.filterMap SinkOp.passed).filter fun entry => entry.1.source = .pong).map Prod.snd := by
  induction ops with
  | nil => rfl
  | cons op rest ih =>
      have later := ih fun op member => sent op (List.mem_cons_of_mem _ member)
      match op, sent op List.mem_cons_self with
      | .send .pong message (.ok ()), _ => simp [SinkOp.writtenPong, later]
      | .send (.outgoing _) message (.ok ()), _ =>
          simp [List.filterMap_cons, SinkOp.writtenPong, later]
      | .send .keepalive message (.ok ()), _ =>
          simp [List.filterMap_cons, SinkOp.writtenPong, later]

/-- At a `select!` the pongs that were passed on are written. -/
theorem Orderly.writtenPongs (orderly : Orderly s) {site : Site} (atSelect : s.pc = .select site) :
    s.sinkOps.filterMap SinkOp.writtenPong = s.passedBy .pong := by
  have passed : s.passed = s.sinkOps.filterMap SinkOp.passed := by
    rw [Connection.passed, atSelect]
    exact List.append_nil _
  rw [passedBy, passed]
  exact writtenPongs_of_sent (orderly.running (by rw [atSelect]; rfl))

/-- An operation that is not a successful send is the last one. -/
theorem Orderly.last (orderly : Orderly s) {front back : List (SinkOp E)} {op : SinkOp E}
    (split : s.sinkOps = front ++ op :: back) (stops : op.sent = false) :
    back = [] ∧ s.pc.running = false := by
  constructor
  · by_contra more
    have early : op ∈ s.sinkOps.dropLast := by
      rw [split, List.dropLast_append_of_ne_nil (List.cons_ne_nil _ _),
        List.dropLast_cons_of_ne_nil more]
      simp
    rw [orderly.left op early] at stops
    cases stops
  · by_contra goesOn
    have sent := orderly.running (by simpa using goesOn) op (by rw [split]; simp)
    rw [sent] at stops
    cases stops

/-- `sink.close` is called once at most. -/
theorem Orderly.closeCalls_le (orderly : Orderly s) : s.closeCalls ≤ 1 := by
  have none_of_sent : ∀ {ops : List (SinkOp E)}, (∀ op ∈ ops, op.sent = true) →
      ops.countP SinkOp.isClose = 0 := by
    intro ops sent
    refine List.countP_eq_zero.mpr fun op member => ?_
    match op, sent op member with
    | .send _ _ (.ok ()), _ => nofun
  have once : s.sinkOps.countP SinkOp.isClose ≤ 1 := by
    rcases List.eq_nil_or_concat' s.sinkOps with empty | ⟨front, last, split⟩
    · rw [empty]
      exact Nat.zero_le _
    · have left := orderly.left
      rw [split, List.dropLast_concat] at left
      rw [split, List.countP_append, none_of_sent left, Nat.zero_add]
      exact List.countP_le_length
  unfold closeCalls
  cases pc : s.pc with
  | closing =>
      rw [none_of_sent (orderly.running (by rw [pc]; rfl))]
      exact Nat.le_refl 1
  | select _ | sending _ _ | ponging | keepalive _ | leaving _ _ => exact once

/-- It is called only after a Close frame was read. -/
theorem Orderly.readClose (orderly : Orderly s) (called : 0 < s.closeCalls) : s.ReadClose := by
  by_cases closing : s.pc = .closing
  · exact orderly.closing closing
  · have some : 0 < s.sinkOps.countP SinkOp.isClose := by
      unfold closeCalls at called
      split at called
      · contradiction
      · exact called
    obtain ⟨op, member, isClose⟩ := List.countP_pos_iff.mp some
    cases op with
    | close result => exact orderly.closed result member
    | send _ _ _ => cases isClose

end Connection

namespace System

open Connection

variable {s t : System cfg E}

/-- The three sequences the loop writes: what was accepted, a `pong` for each
ping, and the configured keepalive or an empty ping. -/
def written (s : System cfg E) (keepalives : Nat) : Source → List Message
  | .outgoing => s.conn.tx.taken.map TxChannelPayload.message
  | .pong => List.replicate (s.conn.items.countP isPing) (.pong [112, 111, 110, 103])
  | .keepalive => List.replicate keepalives (cfg.customKeepaliveMessage.getD (.ping []))

/-- What the loop has written in a run, and when it writes nothing more. -/
structure SinkAccount (s : System cfg E) : Prop where
  /-- Outgoing messages, one pong for each ping, and keepalives, none of them
  without an interval. -/
  interleaving : ∃ keepalives : Nat, (cfg.keepaliveInterval = none → keepalives = 0) ∧
    Interleaves (s.written keepalives) (s.conn.passed.map Prod.snd)
  accepted : s.conn.tx.taken <+: s.conn.tx.sent
  inOrder : (s.conn.tx.taken.map TxChannelPayload.message).Sublist (s.conn.passed.map Prod.snd)
  answered : ∀ item, (s.step (.loop (.arm (.incoming item)))).isSome →
    s.conn.sinkOps.filterMap SinkOp.writtenPong =
      List.replicate (s.conn.items.countP isPing) (.pong [112, 111, 110, 103])
  /-- Nothing follows an operation that failed or closed the sink. -/
  stops : ∀ front op back, s.conn.sinkOps = front ++ op :: back → op.sent = false →
    back = [] ∧ s.conn.pc.running = false
  /-- Nothing is written once the loop state is not `Running`. -/
  silent : s.conn.pc.running = false → s.conn.pc.passing cfg = none ∧
    ∀ trace t, (system cfg E).Run s trace t →
      t.conn.sinkOps = s.conn.sinkOps ∧ t.conn.passed = s.conn.passed
  closesOnce : s.conn.closeCalls ≤ 1
  closesOnRequest : 0 < s.conn.closeCalls → s.conn.ReadClose

/-- What is passed to the sink has its source in every reachable state. -/
theorem accounted (reached : (system cfg E).Reachable s) : s.conn.Accounted :=
  ledger_invariant reached (.create cfg E 0) (fun holds step => holds.loopStep step)
    fun holds same => holds.frame same

/-- The loop stops writing at its first failure, in every reachable state. -/
theorem orderly (reached : (system cfg E).Reachable s) : s.conn.Orderly :=
  ledger_invariant reached (.create cfg E 0) (fun holds step => holds.loopStep step)
    fun holds same => holds.frame same

/-- A loop that is about to read has answered all the pings it has read. -/
theorem writtenPongs_of_reads (reached : (system cfg E).Reachable s) {item : StreamItem E}
    (reads : (s.step (.loop (.arm (.incoming item)))).isSome) :
    s.conn.sinkOps.filterMap SinkOp.writtenPong =
      List.replicate (s.conn.items.countP isPing) (.pong [112, 111, 110, 103]) := by
  obtain ⟨t, step⟩ := Option.isSome_iff_exists.mp reads
  obtain ⟨conn, moved, rfl⟩ := Option.map_eq_some_iff.mp step
  have atSelect := (loopStep_rule moved).reads
  rw [(orderly reached).writtenPongs atSelect, (accounted reached).pongs]

/-- A loop that was left passes nothing on. -/
theorem passing_of_not_running {pc : LoopPc E} (left : pc.running = false) :
    pc.passing cfg = none := by
  cases pc with
  | leaving _ _ => rfl
  | select _ | sending _ _ | ponging | closing | keepalive _ => cases left

/-- Nothing is written once the loop state is not `Running`. -/
theorem run_silent {trace : List (System cfg E × Action E)} (run : (system cfg E).Run s trace t)
    (left : s.conn.pc.running = false) :
    t.conn.pc.running = false ∧ t.conn.sinkOps = s.conn.sinkOps := by
  apply run.invariant
  · exact ⟨left, rfl⟩
  rintro middle action target ⟨left, same⟩ step
  cases pc : middle.conn.pc with
  | leaving state stage =>
      obtain ⟨⟨later, after⟩, history⟩ := exited_step step pc
      exact ⟨by rw [after]; rfl, history.sinkOps.trans same⟩
  | select _ | sending _ _ | ponging | closing | keepalive _ =>
      rw [pc] at left
      cases left

/-- The account of the sink holds in every reachable state. -/
theorem sink_account (reached : (system cfg E).Reachable s) : s.SinkAccount := by
  have accounted := accounted reached
  have orderly := orderly reached
  have outgoing : s.conn.passedBy .outgoing = s.conn.tx.taken.map TxChannelPayload.message := by
    rw [passedBy_outgoing, accounted.outgoing]
  have keepalives : s.conn.passedBy .keepalive = List.replicate (s.conn.passedBy .keepalive).length
      (cfg.customKeepaliveMessage.getD (.ping [])) :=
    List.eq_replicate_of_mem fun message member => (accounted.keepalives message member).1
  have sorted := interleaves_classified (fun entry : Origin × Message => entry.1.source) Prod.snd
    s.conn.passed
  constructor
  case interleaving =>
    refine ⟨(s.conn.passedBy .keepalive).length, fun none => ?_, ?_⟩
    · by_contra some
      obtain ⟨message, member⟩ := List.exists_mem_of_length_pos (Nat.pos_of_ne_zero some)
      have timed := (accounted.keepalives message member).2
      rw [none] at timed
      cases timed
    · convert sorted using 2 with source
      cases source with
      | outgoing => exact outgoing.symm
      | pong => exact accounted.pongs.symm
      | keepalive => exact keepalives.symm
  case accepted =>
    exact (List.prefix_append _ _).trans s.conn.tx.ordered
  case inOrder =>
    rw [← outgoing]
    exact sorted.sublist .outgoing
  case answered => exact fun _ reads => writtenPongs_of_reads reached reads
  case stops => exact fun front op back split stops => orderly.last split stops
  case silent =>
    intro left
    refine ⟨passing_of_not_running left, fun trace t run => ?_⟩
    obtain ⟨after, same⟩ := run_silent run left
    refine ⟨same, ?_⟩
    rw [Connection.passed, Connection.passed, same, passing_of_not_running left,
      passing_of_not_running after]
  case closesOnce => exact orderly.closeCalls_le
  case closesOnRequest => exact orderly.readClose

/-- Room for one frame, and a keepalive of its own. -/
def ticking : LoopConfig where
  channelSize := 1
  keepaliveInterval := some 5
  customKeepaliveMessage := some (.text "tick")
  channelSizePos := Nat.one_pos

/-- A keepalive, the answer to a ping and a message of a caller are written,
and the peer closes. -/
def oneOfEach : List (Action Unit) :=
  [.loop (.arm .sleep), .loop (.sink (.ok ())), .start 0 (.sendRaw (.binary [7])),
    .loop (.arm (.incoming (some (.ok (.ping [1]))))), .loop (.sink (.ok ())), .advance 0,
    .loop (.arm .outgoing), .loop (.sink (.ok ())),
    .loop (.arm (.incoming (some (.ok (.close none))))), .loop (.sink (.ok ()))]

theorem sink_account_oneOfEach :
    let s := (system ticking Unit).follow (.create ticking Unit) oneOfEach
    s.conn.passed.map Prod.snd = [.text "tick", .pong [112, 111, 110, 103], .binary [7]] ∧
      s.conn.pc = .leaving .closed .recording ∧ s.SinkAccount :=
  ⟨by decide, by decide, sink_account ((system ticking Unit).follow_reachable oneOfEach)⟩

/-- The payload of a ping that was read. -/
def pingPayload : StreamItem E → Option Bytes
  | some (.ok (.ping payload)) => some payload
  | _ => none

/-- There are as many pings as payloads of pings. -/
private theorem countP_isPing (items : List (StreamItem E)) :
    items.countP isPing = (items.filterMap pingPayload).length := by
  induction items with
  | nil => rfl
  | cons item rest ih =>
      rw [List.countP_cons, ih]
      match item with
      | some (.ok (.ping payload)) => simp [isPing, pingPayload]
      | some (.ok (.pong _)) | some (.ok (.close _)) | some (.ok (.frame _))
      | some (.ok (.text _)) | some (.ok (.binary _)) | some (.error _) | none =>
          simp [isPing, List.filterMap_cons, pingPayload]

/-- The payloads of the pings are those of the items that are pings. -/
private theorem mem_pingPayloads {items : List (StreamItem E)} {payload : Bytes} :
    payload ∈ items.filterMap pingPayload ↔ some (.ok (.ping payload)) ∈ items := by
  rw [List.mem_filterMap]
  constructor
  · rintro ⟨item, member, same⟩
    unfold pingPayload at same
    split at same
    · obtain rfl := Option.some.inj same
      exact member
    · cases same
  · exact fun member => ⟨_, member, rfl⟩

/-- Whenever the loop is about to read in a run, the pongs it has written carry
the payloads of the pings it has read, in order, if and only if every one of
those pings carried the payload that it writes in every pong. -/
theorem pings_answered_iff {final : System cfg E} {trace : List (System cfg E × Action E)}
    (run : (system cfg E).Run (.create cfg E) trace final) (seen : Machine.Visited trace final s)
    {item : StreamItem E} (reads : (s.step (.loop (.arm (.incoming item)))).isSome) :
    s.conn.sinkOps.filterMap SinkOp.writtenPong =
        (s.conn.items.filterMap pingPayload).map Message.pong ↔
      ∀ payload, some (.ok (.ping payload)) ∈ s.conn.items →
        payload = [112, 111, 110, 103] := by
  have written := writtenPongs_of_reads (run.reachable seen) reads
  rw [written, countP_isPing]
  constructor
  · intro same payload member
    have answered : Message.pong payload ∈
        (s.conn.items.filterMap pingPayload).map Message.pong :=
      List.mem_map_of_mem (mem_pingPayloads.mpr member)
    rw [← same] at answered
    exact Message.pong.inj (List.eq_of_mem_replicate answered)
  · intro alike
    refine (List.eq_replicate_iff.mpr ⟨List.length_map _, fun message member => ?_⟩).symm
    obtain ⟨payload, inside, rfl⟩ := List.mem_map.mp member
    rw [alike payload (mem_pingPayloads.mp inside)]

/-- A ping with a payload of its own is read and answered. -/
def pingAnswered : List (Action Unit) :=
  [.loop (.arm (.incoming (some (.ok (.ping [1]))))), .loop (.sink (.ok ()))]

/-- A ping is answered with other bytes than its own. -/
theorem pong_payload_differs :
    let s := (system .single Unit).follow (.create .single Unit) pingAnswered
    (system .single Unit).Reachable s ∧
      (∀ item, (s.step (.loop (.arm (.incoming item)))).isSome) ∧
      s.conn.items.filterMap pingPayload = [[1]] ∧
      s.conn.sinkOps.filterMap SinkOp.writtenPong = [.pong [112, 111, 110, 103]] ∧
      ([112, 111, 110, 103] : Bytes) ≠ [1] := by
  refine ⟨(system .single Unit).follow_reachable pingAnswered, fun item => ?_, by decide,
    by decide, by decide⟩
  match item with
  | some (.ok (.ping _)) | some (.ok (.pong _)) | some (.ok (.close _)) | some (.ok (.frame _))
  | some (.ok (.text _)) | some (.ok (.binary _)) | some (.error _) | none => rfl

/-- A ping with the payload of every pong is read and answered. -/
def pongPinged : List (Action Unit) :=
  [.loop (.arm (.incoming (some (.ok (.ping [112, 111, 110, 103]))))), .loop (.sink (.ok ()))]

theorem pings_answered_iff_pongPinged :
    let s := (system .single Unit).follow (.create .single Unit) pongPinged
    s.conn.items = [some (.ok (.ping [112, 111, 110, 103]))] ∧
      s.conn.sinkOps.filterMap SinkOp.writtenPong =
        (s.conn.items.filterMap pingPayload).map Message.pong := by
  intro s
  have items : s.conn.items = [some (.ok (.ping [112, 111, 110, 103]))] := rfl
  have run := (system .single Unit).run_steps (.create .single Unit) pongPinged
  have reads : (s.step (.loop (.arm (.incoming none)))).isSome := rfl
  refine ⟨items, (pings_answered_iff run (.inl rfl) reads).mpr ?_⟩
  intro payload member
  rw [items] at member
  simpa using member

end System

end Socketeer
