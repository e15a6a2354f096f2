import Socketeer.SocketLoop.Reply
import Socketeer.Handles.Feed

/-! # The handshake and the connection after it

A handler's `on_connected` as a program that calls the handshake context and
goes on from the results, whatever they are. The socket is the handler's until
the program has returned `Ok`, and the task's from then on. Both take what has
arrived from the front of one stream, and pass what they write to one sink.
-/

namespace Socketeer

open Foundation

variable {cfg : LoopConfig} {E Tx Rx : Type}

/-- The calls of the handshake context that write. -/
inductive WriteCall (Tx : Type) where
  | send (value : Tx)
  | sendText (text : String)
  | sendBinary (bytes : Bytes)

/-- The calls of the handshake context that read. -/
inductive ReadCall where
  | recv
  | recvRaw
  | recvText
  deriving DecidableEq, Repr

/-- What a call that reads returns. -/
def ReadCall.Value (Rx : Type) : ReadCall → Type
  | .recv => Rx
  | .recvRaw => Message
  | .recvText => String

/-- What is left to run of `on_connected`. -/
inductive Program (E Tx Rx : Type) where
  | done (result : Except (Error E) Unit)
  | write (call : WriteCall Tx) (next : Except (Error E) Unit → Program E Tx Rx)
  | read (call : ReadCall) (next : Except (Error E) (call.Value Rx) → Program E Tx Rx)

namespace HandshakeContext

/-- `send`, up to its `sink.send`. -/
def send (codec : Codec E Tx Rx) (value : Tx) : Except (Error E) Message :=
  codec.encode value

/-- `send_text`, up to its `sink.send`. -/
def sendText (text : String) : Except (Error E) Message :=
  .ok (.text text)

/-- `send_binary`, up to its `sink.send`. -/
def sendBinary (bytes : Bytes) : Except (Error E) Message :=
  .ok (.binary bytes)

/-- One turn of the loop of `recv_raw`, which goes on to the next one at a ping
or a pong. -/
def recvRaw : StreamItem E → Option (Except (Error E) Message)
  | none => some (.error .websocketClosed)
  | some (.error e) => some (.error (.websocketError e))
  | some (.ok message) =>
      match message with
      | .ping _ | .pong _ => none
      | other => some (.ok other)

/-- `recv`, from the result of `recv_raw`. -/
def recv (codec : Codec E Tx Rx) (raw : Except (Error E) Message) : Except (Error E) Rx :=
  match raw with
  | .ok message =>
      match message with
      | .close _ => .error .websocketClosed
      | frame => codec.decode frame
  | .error e => .error e

/-- `recv_text`, from the result of `recv_raw`. -/
def recvText (raw : Except (Error E) Message) : Except (Error E) String :=
  match raw with
  | .ok message =>
      match message with
      | .text text => .ok text
      | other => .error (.unexpectedMessageType other)
  | .error e => .error e

end HandshakeContext

/-- The frame that a call writes. -/
def WriteCall.frame (codec : Codec E Tx Rx) : WriteCall Tx → Except (Error E) Message
  | .send value => HandshakeContext.send codec value
  | .sendText text => HandshakeContext.sendText text
  | .sendBinary bytes => HandshakeContext.sendBinary bytes

/-- What a call makes of the result of `recv_raw`. -/
def ReadCall.finish (codec : Codec E Tx Rx) (raw : Except (Error E) Message) :
    (call : ReadCall) → Except (Error E) (call.Value Rx)
  | .recv => HandshakeContext.recv codec raw
  | .recvRaw => raw
  | .recvText => HandshakeContext.recvText raw

/-- A call that has returned, with what it took from the stream. -/
inductive LoggedCall (E Tx Rx : Type) where
  | wrote (call : WriteCall Tx) (result : Except (Error E) Unit)
  | read (call : ReadCall) (consumed : List (StreamItem E))
      (result : Except (Error E) (call.Value Rx))

def LoggedCall.consumed : LoggedCall E Tx Rx → List (StreamItem E)
  | .wrote _ _ => []
  | .read _ consumed _ => consumed

/-- A completed operation on the sink, by whom. -/
inductive Written (E : Type) where
  | handshake (message : Message) (result : Except E Unit)
  | loop (op : SinkOp E)

/-- Who has the socket: the program, with what the call it waits in has taken
from the stream so far, the task, or nobody. -/
inductive Phase (cfg : LoopConfig) (E Tx Rx : Type) where
  | handshake (program : Program E Tx Rx) (taking : List (StreamItem E))
  | running (system : System cfg E)
  | failed (error : Error E)

/-- A socket with what has arrived and was not taken yet, what was taken, the
calls of the handshake, and what was written. -/
structure Session (cfg : LoopConfig) (E Tx Rx : Type) where
  phase : Phase cfg E Tx Rx
  inbound : List (StreamItem E)
  taken : List (StreamItem E)
  calls : List (LoggedCall E Tx Rx)
  written : List (Written E)

inductive SessionAction (E : Type) where
  | arrive (item : StreamItem E)
  | read
  | write (result : Except E Unit)
  | proceed
  | run (action : Action E)

/-- Whether the step takes an item from the stream. -/
def Action.reads : Action E → Bool
  | .loop (.arm (.incoming _)) => true
  | _ => false

namespace Session

def create (program : Program E Tx Rx) (cfg : LoopConfig) : Session cfg E Tx Rx where
  phase := .handshake program []
  inbound := []
  taken := []
  calls := []
  written := []

/-- Go on with the program from the result of a call. -/
def resume (s : Session cfg E Tx Rx) (program : Program E Tx Rx) (call : LoggedCall E Tx Rx) :
    Session cfg E Tx Rx :=
  { s with phase := .handshake program [], calls := s.calls ++ [call] }

/-- The session once the connection has taken a step. -/
def ran (s : Session cfg E Tx Rx) (system next : System cfg E) : Session cfg E Tx Rx :=
  { s with
    phase := .running next
    written := s.written ++
      (next.conn.sinkOps.drop system.conn.sinkOps.length).map Written.loop }

/-- Whoever waits for the stream takes the first item that has arrived. -/
def read (codec : Codec E Tx Rx) (s : Session cfg E Tx Rx) : Option (Session cfg E Tx Rx) :=
  match s.inbound with
  | [] => none
  | item :: rest =>
      let s := { s with inbound := rest, taken := s.taken ++ [item] }
      match s.phase with
      | .handshake (.read call next) taking =>
          match HandshakeContext.recvRaw item with
          | none => some { s with phase := .handshake (.read call next) (taking ++ [item]) }
          | some raw =>
              let result := call.finish codec raw
              some (s.resume (next result) (.read call (taking ++ [item]) result))
      | .running system => (system.step (.loop (.arm (.incoming item)))).map (s.ran system)
      | _ => none

/-- The sink completes what the handshake writes. -/
def write (codec : Codec E Tx Rx) (s : Session cfg E Tx Rx) (result : Except E Unit) :
    Option (Session cfg E Tx Rx) :=
  match s.phase with
  | .handshake (.write call next) _ =>
      match call.frame codec with
      | .ok message =>
          let sent := result.mapError Error.websocketError
          some ({ s with written := s.written ++ [Written.handshake message result] }.resume
            (next sent) (.wrote call sent))
      | .error _ => none
  | _ => none

/-- A call returns because it has nothing to write, or `connect_with_codec` goes
on from the result of `on_connected`. -/
def proceed (codec : Codec E Tx Rx) (s : Session cfg E Tx Rx) : Option (Session cfg E Tx Rx) :=
  match s.phase with
  | .handshake (.write call next) _ =>
      match call.frame codec with
      | .ok _ => none
      | .error e => some (s.resume (next (.error e)) (.wrote call (.error e)))
  | .handshake (.done result) _ =>
      match result with
      | .ok () => some { s with phase := .running (.create cfg E) }
      | .error e => some { s with phase := .failed e }
  | _ => none

/-- A step of the connection that takes nothing from the stream. -/
def run (s : Session cfg E Tx Rx) (action : Action E) : Option (Session cfg E Tx Rx) :=
  match s.phase with
  | .running system => if action.reads then none else (system.step action).map (s.ran system)
  | _ => none

def step (codec : Codec E Tx Rx) (s : Session cfg E Tx Rx) :
    SessionAction E → Option (Session cfg E Tx Rx)
  | .arrive item => some { s with inbound := s.inbound ++ [item] }
  | .read => s.read codec
  | .write result => s.write codec result
  | .proceed => s.proceed codec
  | .run action => s.run action

end Session

/-- Every interleaving of the peer with a handshake and the connection that
follows it. -/
def session (codec : Codec E Tx Rx) (program : Program E Tx Rx) (cfg : LoopConfig) :
    Machine (Session cfg E Tx Rx) (SessionAction E) where
  init := .create program cfg
  step := Session.step codec

namespace Session

open Connection

/-- The rules of a session. -/
inductive Rule (codec : Codec E Tx Rx) (s : Session cfg E Tx Rx) :
    SessionAction E → Session cfg E Tx Rx → Prop where
  | arrive {item} : Rule codec s (.arrive item) { s with inbound := s.inbound ++ [item] }
  | skip {item rest call next taking} (phase : s.phase = .handshake (.read call next) taking)
      (first : s.inbound = item :: rest) (skips : HandshakeContext.recvRaw item = none) :
      Rule codec s .read
        { s with
          inbound := rest
          taken := s.taken ++ [item]
          phase := .handshake (.read call next) (taking ++ [item]) }
  | read {item rest call next taking raw}
      (phase : s.phase = .handshake (.read call next) taking) (first : s.inbound = item :: rest)
      (returns : HandshakeContext.recvRaw item = some raw) :
      Rule codec s .read
        { s with
          inbound := rest
          taken := s.taken ++ [item]
          phase := .handshake (next (call.finish codec raw)) []
          calls := s.calls ++ [.read call (taking ++ [item]) (call.finish codec raw)] }
  | wrote {result call next taking message}
      (phase : s.phase = .handshake (.write call next) taking)
      (encoded : call.frame codec = .ok message) :
      Rule codec s (.write result)
        { s with
          phase := .handshake (next (result.mapError Error.websocketError)) []
          calls := s.calls ++ [.wrote call (result.mapError Error.websocketError)]
          written := s.written ++ [Written.handshake message result] }
  | refused {call next taking e} (phase : s.phase = .handshake (.write call next) taking)
      (fails : call.frame codec = .error e) :
      Rule codec s .proceed
        { s with
          phase := .handshake (next (.error e)) []
          calls := s.calls ++ [.wrote call (.error e)] }
  | connected {taking} (phase : s.phase = .handshake (.done (.ok ())) taking) :
      Rule codec s .proceed { s with phase := .running (.create cfg E) }
  | failed {taking e} (phase : s.phase = .handshake (.done (.error e)) taking) :
      Rule codec s .proceed { s with phase := .failed e }
  | loop {item rest system next} (phase : s.phase = .running system)
      (first : s.inbound = item :: rest)
      (stepped : system.step (.loop (.arm (.incoming item))) = some next) :
      Rule codec s .read
        (ran { s with inbound := rest, taken := s.taken ++ [item] } system next)
  | run {action system next} (phase : s.phase = .running system) (keeps : action.reads = false)
      (stepped : system.step action = some next) :
      Rule codec s (.run action) (s.ran system next)

variable {codec : Codec E Tx Rx} {s t : Session cfg E Tx Rx}

/-- A step of the session, by rules. -/
theorem step_rule {action : SessionAction E} (step : s.step codec action = some t) :
    Rule codec s action t := by
  cases action with
  | arrive item =>
      cases step
      exact .arrive
  | read =>
      simp only [Session.step, Session.read] at step
      split at step
      · cases step
      · rename_i item rest first
        split at step
        · rename_i call next taking phase
          split at step
          · rename_i skips
            cases step
            exact .skip phase first skips
          · rename_i raw returns
            cases step
            exact .read phase first returns
        · rename_i system phase
          obtain ⟨next, stepped, rfl⟩ := Option.map_eq_some_iff.mp step
          exact .loop phase first stepped
        · cases step
  | write result =>
      simp only [Session.step, Session.write] at step
      split at step
      · rename_i call next taking phase
        split at step
        · rename_i message encoded
          cases step
          exact .wrote phase encoded
        · cases step
      · cases step
  | proceed =>
      simp only [Session.step, Session.proceed] at step
      split at step
      · rename_i call next taking phase
        split at step
        · cases step
        · rename_i e fails
          cases step
          exact .refused phase fails
      · rename_i result taking phase
        split at step
        · cases step
          exact .connected phase
        · rename_i e
          cases step
          exact .failed phase
      · cases step
  | run action =>
      simp only [Session.step, Session.run] at step
      split at step
      · rename_i system phase
        split at step
        · cases step
        · rename_i keeps
          obtain ⟨next, stepped, rfl⟩ := Option.map_eq_some_iff.mp step
          exact .run phase (Bool.eq_false_of_not_eq_true keeps) stepped
      · cases step

end Session

/-- What a step of the task takes from the stream. -/
def Connection.LoopAction.taken : Connection.LoopAction E → List (StreamItem E)
  | .arm (.incoming item) => [item]
  | .arm .outgoing | .arm .reserve | .arm .sleep | .sink _ | .finish => []

/-- The task records what it takes from the stream. -/
theorem Connection.LoopStep.items {conn next : Connection cfg E}
    {move : Connection.LoopAction E} (moved : conn.LoopStep move next) :
    next.items = conn.items ++ move.taken := by
  cases moved with
  | ping | close | skip | streamError | streamEnd | deliver | refuse | hold => rfl
  | outgoing | sendersGone | release | abandon | sleep | sentUnconfirmed | sentConfirmed
  | sentUnheard | ponged | sinkClosed | keptAlive | record | dropSender | dropReceiver =>
      exact (List.append_nil _).symm

/-- What a call took is what it skipped and the item it returned with. -/
def LoggedCall.Faithful (codec : Codec E Tx Rx) : LoggedCall E Tx Rx → Prop
  | .wrote _ _ => True
  | .read call consumed result =>
      ∃ skipped item raw, consumed = skipped ++ [item] ∧
        (∀ item ∈ skipped, HandshakeContext.recvRaw item = none) ∧
        HandshakeContext.recvRaw item = some raw ∧ result = call.finish codec raw

/-- What has been taken from the stream and is not in the log. -/
def Phase.taking : Phase cfg E Tx Rx → List (StreamItem E)
  | .handshake _ taking => taking
  | .running system => system.conn.items
  | .failed _ => []

/-- What the task has written. -/
def Phase.sinkOps : Phase cfg E Tx Rx → List (SinkOp E)
  | .running system => system.conn.sinkOps
  | .handshake _ _ | .failed _ => []

namespace Session

open Connection

/-- The invariant of a session. -/
structure Account (codec : Codec E Tx Rx) (s : Session cfg E Tx Rx) : Prop where
  taken : s.taken = s.calls.flatMap LoggedCall.consumed ++ s.phase.taking
  skipped : ∀ program taking, s.phase = .handshake program taking →
    ∀ item ∈ taking, HandshakeContext.recvRaw item = none
  atRead : ∀ program taking, s.phase = .handshake program taking → taking ≠ [] →
    ∃ call next, program = .read call next
  calls : ∀ call ∈ s.calls, call.Faithful codec
  written : ∃ front : List (Message × Except E Unit),
    s.written = front.map (fun entry => Written.handshake entry.1 entry.2) ++
      s.phase.sinkOps.map Written.loop

variable {codec : Codec E Tx Rx} {s t : Session cfg E Tx Rx}

/-- A call returns. -/
private theorem Account.resume (account : Account codec s) {program : Program E Tx Rx}
    {call : LoggedCall E Tx Rx} {inbound taken items : List (StreamItem E)}
    {written : List (Written E)} (takes : taken = s.taken ++ items)
    (consumed : call.consumed = s.phase.taking ++ items) (faithful : call.Faithful codec)
    (wrote : ∃ front : List (Message × Except E Unit),
      written = front.map fun entry => Written.handshake entry.1 entry.2) :
    Account codec ({
      phase := .handshake program []
      inbound := inbound
      taken := taken
      calls := s.calls ++ [call]
      written := written } : Session cfg E Tx Rx) where
  taken := by
    change taken = (s.calls ++ [call]).flatMap LoggedCall.consumed ++ []
    rw [takes, account.taken, List.flatMap_append, List.flatMap_singleton, consumed]
    simp
  skipped program taking same item member := by
    cases same
    cases member
  atRead program taking same nonempty := by
    cases same
    exact absurd rfl nonempty
  calls other member := by
    rcases List.mem_append.mp member with before | here
    · exact account.calls other before
    · rwa [List.mem_singleton.mp here]
  written := by
    obtain ⟨front, same⟩ := wrote
    refine ⟨front, ?_⟩
    rw [same]
    exact (List.append_nil _).symm

/-- The connection takes a step. -/
private theorem Account.ran (account : Account codec s) {system next : System cfg E}
    {inbound taken items : List (StreamItem E)} (phase : s.phase = .running system)
    (takes : taken = s.taken ++ items) (reads : next.conn.items = system.conn.items ++ items)
    (wrote : system.conn.sinkOps <+: next.conn.sinkOps) :
    Account codec (ran { s with inbound := inbound, taken := taken } system next) where
  taken := by
    change taken = s.calls.flatMap _ ++ next.conn.items
    rw [takes, account.taken, phase, reads, List.append_assoc]
    rfl
  skipped _ _ same := nomatch same
  atRead _ _ same := nomatch same
  calls := account.calls
  written := by
    obtain ⟨front, same⟩ := account.written
    obtain ⟨more, grown⟩ := wrote
    refine ⟨front, ?_⟩
    change s.written ++ (next.conn.sinkOps.drop system.conn.sinkOps.length).map _ =
      _ ++ next.conn.sinkOps.map _
    rw [same, phase, ← grown, List.drop_left, List.map_append, List.append_assoc]
    rfl

theorem Account.create (program : Program E Tx Rx) (cfg : LoopConfig) :
    Account codec (create program cfg) where
  taken := rfl
  skipped _ _ same item member := by
    cases same
    cases member
  atRead _ _ same nonempty := by
    cases same
    exact absurd rfl nonempty
  calls _ member := nomatch member
  written := ⟨[], rfl⟩

/-- A program that does not wait for the stream holds nothing back. -/
private theorem Account.taking_nil (account : Account codec s) {program : Program E Tx Rx}
    {taking : List (StreamItem E)} (phase : s.phase = .handshake program taking)
    (elsewhere : ∀ call next, program ≠ .read call next) : taking = [] := by
  by_contra nonempty
  obtain ⟨call, next, same⟩ := account.atRead program taking phase nonempty
  exact elsewhere call next same

/-- The account of what was taken is kept by every step. -/
theorem Account.step {action : SessionAction E} (account : Account codec s)
    (rule : Rule codec s action t) : Account codec t := by
  obtain ⟨front, written⟩ := account.written
  cases rule with
  | arrive =>
      exact ⟨account.taken, account.skipped, account.atRead, account.calls, account.written⟩
  | @skip item rest call next taking phase first skips =>
      refine ⟨?_, ?_, ?_, account.calls, ⟨front, ?_⟩⟩
      · change s.taken ++ [item] = _ ++ (taking ++ [item])
        rw [account.taken, phase, List.append_assoc]
        rfl
      · rintro _ _ ⟨⟩ other member
        rcases List.mem_append.mp member with before | here
        · exact account.skipped _ _ phase other before
        · rwa [List.mem_singleton.mp here]
      · rintro _ _ ⟨⟩ _
        exact ⟨call, next, rfl⟩
      · rw [phase] at written
        exact written
  | @read item rest call next taking raw phase first returns =>
      rw [phase] at written
      refine account.resume rfl (by rw [phase]; rfl) ?_ ⟨front, written.trans (List.append_nil _)⟩
      exact ⟨taking, item, raw, rfl, account.skipped _ _ phase, returns, rfl⟩
  | @wrote result call next taking message phase encoded =>
      obtain rfl := account.taking_nil phase nofun
      rw [phase] at written
      refine account.resume (List.append_nil _).symm (by rw [phase]; rfl) trivial
        ⟨front ++ [(message, result)], ?_⟩
      rw [written, List.map_append]
      exact congrArg (· ++ _) (List.append_nil _)
  | @refused call next taking e phase fails =>
      obtain rfl := account.taking_nil phase nofun
      rw [phase] at written
      exact account.resume (List.append_nil _).symm (by rw [phase]; rfl) trivial
        ⟨front, written.trans (List.append_nil _)⟩
  | @connected taking phase | @failed taking _ phase =>
      obtain rfl := account.taking_nil phase nofun
      refine ⟨?_, nofun, nofun, account.calls, ⟨front, ?_⟩⟩
      · rw [account.taken, phase]
        rfl
      · rw [written, phase]
        rfl
  | @loop item rest system next phase first stepped =>
      obtain ⟨conn, enabled, rfl⟩ := Option.map_eq_some_iff.mp stepped
      have moved := loopStep_rule enabled
      exact account.ran phase rfl moved.items moved.sinkOps
  | @run action system next phase keeps stepped =>
      rcases System.step_ledger stepped with ⟨move, rfl, moved⟩ | same
      · have none : move.taken = [] := by
          cases move with
          | arm arm =>
              cases arm with
              | incoming item => cases keeps
              | outgoing | reserve | sleep => rfl
          | sink _ | finish => rfl
        exact account.ran phase (List.append_nil _).symm (none ▸ moved.items) moved.sinkOps
      · exact account.ran phase (List.append_nil _).symm
          (same.items.trans (List.append_nil _).symm) (same.sinkOps ▸ List.prefix_refl _)

/-- What the handshake and the task have taken is in order, in every reachable
state. -/
theorem account {program : Program E Tx Rx}
    (reached : (session codec program cfg).Reachable s) : Account codec s := by
  refine reached.invariant (Account codec) (.create program cfg) ?_
  intro s action t _ account step
  exact account.step (step_rule step)

/-- The connection after a handshake is one that the system reaches. -/
theorem running_reachable {program : Program E Tx Rx}
    (reached : (session codec program cfg).Reachable s) {system : System cfg E}
    (running : s.phase = .running system) : (Socketeer.system cfg E).Reachable system := by
  refine reached.invariant
    (fun s => ∀ system, s.phase = .running system → (Socketeer.system cfg E).Reachable system)
    (fun _ phase => nomatch phase) ?_ system running
  intro s action t _ before step
  cases step_rule step with
  | arrive => exact before
  | skip | read | wrote | refused | failed => exact fun _ phase => nomatch phase
  | connected =>
      rintro _ ⟨⟩
      exact .initial
  | @loop item _ system next phase _ stepped =>
      rintro _ ⟨⟩
      have stepped : (Socketeer.system cfg E).step system (.loop (.arm (.incoming item))) =
        some next := stepped
      exact (before system phase).next stepped
  | @run action system next phase _ stepped =>
      rintro _ ⟨⟩
      have stepped : (Socketeer.system cfg E).step system action = some next := stepped
      exact (before system phase).next stepped

/-- What arrives at a step. -/
def arrival : Session cfg E Tx Rx × SessionAction E → Option (StreamItem E)
  | (_, .arrive item) => some item
  | _ => none

/-- The frames other than pings and pongs. -/
def unskipped : StreamItem E → Option Message
  | some (.ok (.ping _)) | some (.ok (.pong _)) => none
  | some (.ok frame) => some frame
  | some (.error _) | none => none

/-- The Text, Binary and Close frames. -/
def carried : StreamItem E → Option Message
  | some (.ok (.text payload)) => some (.text payload)
  | some (.ok (.binary payload)) => some (.binary payload)
  | some (.ok (.close frame)) => some (.close frame)
  | _ => none

/-- No item is a raw frame, which a stream never hands out. -/
def Parsed (items : List (StreamItem E)) : Prop :=
  ∀ raw, some (.ok (.frame raw)) ∉ items

/-- Among items that were parsed, those that no call skips are those that carry
something. -/
theorem unskipped_eq_carried {items : List (StreamItem E)} (parsed : Parsed items) :
    items.filterMap unskipped = items.filterMap carried := by
  apply List.filterMap_congr
  intro item member
  match item with
  | none | some (.error _) => rfl
  | some (.ok message) =>
      cases message with
      | text | binary | ping | pong | close => rfl
      | frame raw => exact absurd member (parsed raw)

/-- A call of the handshake skips pings and pongs only. -/
theorem skipped_iff {item : StreamItem E} (skips : HandshakeContext.recvRaw item = none) :
    ∃ payload, item = some (.ok (.ping payload)) ∨ item = some (.ok (.pong payload)) := by
  match item with
  | none | some (.error _) => cases skips
  | some (.ok message) =>
      cases message with
      | ping payload => exact ⟨payload, .inl rfl⟩
      | pong payload => exact ⟨payload, .inr rfl⟩
      | text | binary | close | frame => cases skips

/-- What has arrived is what was taken and what still waits. -/
theorem taken_append_inbound {program : Program E Tx Rx}
    {trace : List (Session cfg E Tx Rx × SessionAction E)}
    (run : (session codec program cfg).Run (.create program cfg) trace s) :
    s.taken ++ s.inbound = trace.filterMap arrival := by
  induction run with
  | nil => rfl
  | snoc earlier step ih =>
      rw [List.filterMap_append, ← ih]
      cases step_rule step with
      | arrive => exact (List.append_assoc ..).symm
      | skip phase first | read phase first | loop phase first =>
          rw [first]
          exact (List.append_assoc ..).trans (List.append_nil _).symm
      | wrote | refused | connected | failed | run => exact (List.append_nil _).symm

/-- A handshake loses and repeats nothing. What its calls took, less pings and
pongs, and the Text, Binary and Close frames that the task has read since are
the Text, Binary and Close frames taken from the stream. A call that no error or
end of the stream cuts short takes one of them and the pings and pongs before
it, whatever it returns. All that the handshake wrote comes before all that the
task has written. -/
theorem handshake_in_order {program : Program E Tx Rx}
    {trace : List (Session cfg E Tx Rx × SessionAction E)}
    (run : (session codec program cfg).Run (.create program cfg) trace s) {system : System cfg E}
    (running : s.phase = .running system) (parsed : Parsed s.taken) :
    s.taken ++ s.inbound = trace.filterMap arrival ∧
    (s.calls.flatMap LoggedCall.consumed).filterMap unskipped ++
        system.conn.items.filterMap carried = s.taken.filterMap carried ∧
    (∀ call consumed result, .read call consumed result ∈ s.calls →
      (∀ item ∈ consumed, ∃ message, item = some (.ok message)) →
      ∃ skipped frame, consumed = skipped ++ [some (.ok frame)] ∧
        (∀ item ∈ skipped, ∃ payload,
          item = some (.ok (.ping payload)) ∨ item = some (.ok (.pong payload))) ∧
        carried (E := E) (some (.ok frame)) = some frame ∧
        result = call.finish codec (.ok frame)) ∧
    ∃ (front : List (Message × Except E Unit)) (back : List (SinkOp E)),
      s.written = front.map (fun entry => Written.handshake entry.1 entry.2) ++
        back.map Written.loop := by
  have account : Account codec s := account ⟨trace, run⟩
  have taken := account.taken
  rw [running] at taken
  change s.taken = _ ++ system.conn.items at taken
  refine ⟨taken_append_inbound run, ?_, ?_, ?_⟩
  · have early : Parsed (s.calls.flatMap LoggedCall.consumed) := fun raw member =>
      parsed raw (by rw [taken]; exact List.mem_append_left _ member)
    rw [unskipped_eq_carried early, taken, List.filterMap_append]
  · intro call consumed result logged clean
    obtain ⟨skipped, item, raw, rfl, skips, returns, rfl⟩ := account.calls _ logged
    obtain ⟨message, rfl⟩ := clean item (List.mem_append_right _ (List.mem_singleton_self _))
    have inside : some (.ok message) ∈ s.taken := by
      rw [taken]
      refine List.mem_append_left _ (List.mem_flatMap.mpr ⟨_, logged, ?_⟩)
      exact List.mem_append_right _ (List.mem_singleton_self _)
    refine ⟨skipped, message, rfl, fun item member => skipped_iff (skips item member), ?_, ?_⟩
    · cases message with
      | text | binary | close => rfl
      | ping | pong => cases returns
      | frame raw => exact absurd inside (parsed raw)
    · cases message with
      | text | binary | close | frame =>
          obtain rfl := Option.some.inj returns
          rfl
      | ping | pong => cases returns
  · obtain ⟨front, written⟩ := account.written
    exact ⟨front, s.phase.sinkOps, written⟩

/-- The consumer's feed goes on where the handshake stopped: the data frames
that its calls took, those that the consumer has received, and those that are
buffered or held for it are the data frames taken from the stream. -/
theorem feed_after_handshake {program : Program E Tx Rx}
    (reached : (session codec program cfg).Reachable s) {system : System cfg E}
    (running : s.phase = .running system) (runs : system.conn.pc.running = true)
    (alive : system.conn.rx.receiver.isSome) :
    dataFrames (s.calls.flatMap LoggedCall.consumed) ++
      (system.received ++ system.conn.rx.queue ++ system.conn.pc.held.toList) =
        dataFrames s.taken := by
  have complete := System.feed_complete (running_reachable reached running) alive runs
  have taken := (account reached).taken
  rw [running] at taken
  rw [complete, taken]
  exact (List.filterMap_append ..).symm

/-- A codec of messages. -/
def rawCodec : Codec Unit Message Message where
  encode := .ok
  decode := .ok

/-- A handler that waits for a text, gives its name all the same, and is done. -/
def login : Program Unit Message Message :=
  .read .recvText fun _ => .write (.sendText "me") fun _ => .done (.ok ())

/-- It gets a binary frame after a ping, and a text comes when it is done. -/
def loginThenFrame : List (SessionAction Unit) :=
  [.arrive (some (.ok (.ping []))), .arrive (some (.ok (.binary [1]))), .read, .read,
    .write (.ok ()), .proceed, .arrive (some (.ok (.text "welcome"))), .read]

theorem handshake_in_order_loginThenFrame :
    let s := (session rawCodec login .single).follow (.create login .single) loginThenFrame
    ∃ system, s.phase = .running system ∧
      (s.calls.flatMap LoggedCall.consumed).filterMap unskipped ++
        system.conn.items.filterMap carried = [.binary [1], .text "welcome"] := by
  intro s
  have run := (session rawCodec login .single).run_steps (.create login .single) loginThenFrame
  have parsed : Parsed s.taken := by
    intro raw member
    have taken : s.taken =
        [some (.ok (.ping [])), some (.ok (.binary [1])), some (.ok (.text "welcome"))] := rfl
    rw [taken] at member
    simp at member
  exact ⟨_, rfl, (handshake_in_order run rfl parsed).2.1.trans rfl⟩

end Session

end Socketeer
