import Socketeer.Handles.EchoFlow

/-! # A client and a server from the handshake on

A session and a server over two lossless streams without a bound, in every
interleaving. Either stream can fail or end at any time. A socket answers a Ping
and a Close frame that it reads of its own accord: it owes the answer, and sends
it while it waits for its stream, after the next frame that is written, or when
its sink is closed. The server's side of a conversation is a run of it on what
has been written for it (`Conversation.Faces`), so that what is known of the
server alone tells what the client gets.
-/

namespace Socketeer

open Foundation

variable {cfg : LoopConfig} {S E Tx Rx : Type}

namespace Message

def isClose : Message → Bool
  | .close _ => true
  | .text _ | .binary _ | .ping _ | .pong _ | .frame _ => false

/-- Whether a socket can send the frame of its own accord. -/
def isAnswer : Message → Bool
  | .pong _ | .close _ => true
  | .text _ | .binary _ | .ping _ | .frame _ => false

/-- What a socket owes that has read this frame last, and what it owed before. A
Close frame is answered unless the socket has sent one. -/
def owed (sent : List Message) (owes : Option Message) : Message → Option Message
  | .ping payload => some (.pong payload)
  | .close reason => if sent.any isClose then owes else some (.close reason)
  | .text _ | .binary _ | .pong _ | .frame _ => owes

/-- What a socket sends when the frame is written. A Pong takes the place of the
one that it owes. -/
def withOwed (owes : Option Message) : Message → List Message
  | .pong payload => [.pong payload]
  | message => message :: owes.toList

end Message

/-- A server with the frame that it waits to send. -/
structure Speaker (S E : Type) extends Service S E where
  passing : S → Option Message

namespace Written

/-- The frame that has been written. -/
def delivered : Written E → Option Message
  | .handshake message (.ok ()) => some message
  | .handshake _ (.error _) => none
  | .loop op => op.delivered

/-- Whether the operation on the sink has succeeded. -/
def succeeded : Written E → Bool
  | .handshake _ (.ok ()) | .loop (.send _ _ (.ok ())) | .loop (.close (.ok ())) => true
  | .handshake _ (.error _) | .loop (.send _ _ (.error _)) | .loop (.close (.error _)) => false

/-- What the operation on the sink sends. Closing it sends what is owed. -/
def onWire (owes : Option Message) : Written E → List Message
  | .loop (.close (.ok ())) => owes.toList
  | op =>
      match op.delivered with
      | some message => message.withOwed owes
      | none => []

end Written

/-- Whether the session waits for its stream. -/
def Session.awaitsStream (s : Session cfg E Tx Rx) : Bool :=
  match s.phase with
  | .handshake (.read _ _) _ => true
  | .running system =>
      match system.conn.pc with
      | .select .outer => true
      | _ => false
  | .handshake (.write _ _) _ | .handshake (.done _) _ | .failed _ => false

/-- A client, a server, what has been written for the server and was not read,
what the server has read and what it has written, whether its stream has ended,
and what the two sockets owe. -/
structure Conversation (S : Type) (cfg : LoopConfig) (E Tx Rx : Type) where
  client : Session cfg E Tx Rx
  server : S
  toServer : List Message
  heard : List (Except E Message)
  said : List Message
  ended : Bool
  clientOwes : Option Message
  serverOwes : Option Message

inductive ConversationAction (E : Type) where
  | client (action : SessionAction E)
  | clientAnswers
  | serverReads
  | serverLoses (failure : Option E)
  | serverWrites (result : Except E Unit)
  | serverAnswers

/-- Whether the step brings a frame to the client. -/
def SessionAction.brings : SessionAction E → Bool
  | .arrive (some (.ok _)) => true
  | .arrive (some (.error _)) | .arrive none | .read | .write _ | .proceed | .run _ => false

namespace Conversation

def create (speaker : Speaker S E) (program : Program E Tx Rx) (cfg : LoopConfig) :
    Conversation S cfg E Tx Rx where
  client := .create program cfg
  server := speaker.create
  toServer := []
  heard := []
  said := []
  ended := false
  clientOwes := none
  serverOwes := none

/-- The frames that the server has read. -/
def heardFrames (c : Conversation S cfg E Tx Rx) : List Message :=
  c.heard.filterMap Except.toOption

/-- The frames that the client's socket has sent. -/
def upstream (c : Conversation S cfg E Tx Rx) : List Message :=
  c.heardFrames ++ c.toServer

/-- The frames that the server's socket has sent. -/
def downstream (c : Conversation S cfg E Tx Rx) : List Message :=
  (c.client.taken ++ c.client.inbound).filterMap StreamItem.frame?

/-- The client has taken a step, and with it perhaps a frame. -/
def clientAt (c : Conversation S cfg E Tx Rx) (client : Session cfg E Tx Rx) :
    Conversation S cfg E Tx Rx :=
  let wrote := client.written.drop c.client.written.length
  let read := (client.taken.drop c.client.taken.length).filterMap StreamItem.frame?
  { c with
    client := client
    toServer := c.toServer ++ wrote.flatMap (Written.onWire c.clientOwes)
    clientOwes :=
      if wrote.any Written.succeeded then none
      else read.foldl (Message.owed c.upstream) c.clientOwes }

def clientAnswers (c : Conversation S cfg E Tx Rx) : Option (Conversation S cfg E Tx Rx) :=
  match c.clientOwes with
  | some answer =>
      if c.client.awaitsStream then
        some { c with toServer := c.toServer ++ [answer], clientOwes := none }
      else none
  | none => none

def serverReads (speaker : Speaker S E) (c : Conversation S cfg E Tx Rx) :
    Option (Conversation S cfg E Tx Rx) :=
  match c.toServer with
  | [] => none
  | message :: rest =>
      if speaker.reads c.server ∧ c.ended = false then
        some { c with
          server := speaker.read c.server (some (.ok message))
          toServer := rest
          heard := c.heard ++ [.ok message]
          serverOwes := message.owed c.downstream c.serverOwes }
      else none

/-- The stream of the server hands out an error, or its end from now on. -/
def serverLoses (speaker : Speaker S E) (c : Conversation S cfg E Tx Rx) :
    Option E → Option (Conversation S cfg E Tx Rx)
  | some e =>
      if speaker.reads c.server ∧ c.ended = false then
        some { c with
          server := speaker.read c.server (some (.error e))
          heard := c.heard ++ [.error e] }
      else none
  | none =>
      if speaker.reads c.server then
        some { c with server := speaker.read c.server none, ended := true }
      else none

/-- The server's socket has sent the frames, and owes nothing. -/
def bring (c : Conversation S cfg E Tx Rx) (frames : List Message) :
    Conversation S cfg E Tx Rx :=
  { c with
    client := { c.client with
      inbound := c.client.inbound ++ frames.map fun frame => some (.ok frame) }
    serverOwes := none }

/-- The server writes the frame that it waits to send, or closes its sink. -/
def serverWrites (speaker : Speaker S E) (c : Conversation S cfg E Tx Rx)
    (result : Except E Unit) : Option (Conversation S cfg E Tx Rx) :=
  if speaker.writes c.server then
    let resumed := { c with server := speaker.resume c.server result }
    match result, speaker.passing c.server with
    | .ok (), some message =>
        some { resumed.bring (message.withOwed c.serverOwes) with said := c.said ++ [message] }
    | .ok (), none => some (resumed.bring c.serverOwes.toList)
    | .error _, _ => some resumed
  else none

def serverAnswers (speaker : Speaker S E) (c : Conversation S cfg E Tx Rx) :
    Option (Conversation S cfg E Tx Rx) :=
  match c.serverOwes with
  | some answer => if speaker.reads c.server then some (c.bring [answer]) else none
  | none => none

def step (speaker : Speaker S E) (codec : Codec E Tx Rx) (c : Conversation S cfg E Tx Rx) :
    ConversationAction E → Option (Conversation S cfg E Tx Rx)
  | .client action =>
      if action.brings then none else (c.client.step codec action).map c.clientAt
  | .clientAnswers => c.clientAnswers
  | .serverReads => c.serverReads speaker
  | .serverLoses failure => c.serverLoses speaker failure
  | .serverWrites result => c.serverWrites speaker result
  | .serverAnswers => c.serverAnswers speaker

/-- The rules of a conversation. -/
inductive Rule (speaker : Speaker S E) (codec : Codec E Tx Rx) (c : Conversation S cfg E Tx Rx) :
    ConversationAction E → Conversation S cfg E Tx Rx → Prop where
  | client {action client} (brings : action.brings = false)
      (stepped : c.client.step codec action = some client) :
      Rule speaker codec c (.client action) (c.clientAt client)
  | clientAnswer {answer} (owes : c.clientOwes = some answer) :
      Rule speaker codec c .clientAnswers
        { c with toServer := c.toServer ++ [answer], clientOwes := none }
  | serverRead {message rest} (waiting : c.toServer = message :: rest)
      (reads : speaker.reads c.server = true) (going : c.ended = false) :
      Rule speaker codec c .serverReads
        { c with
          server := speaker.read c.server (some (.ok message))
          toServer := rest
          heard := c.heard ++ [.ok message]
          serverOwes := message.owed c.downstream c.serverOwes }
  | serverFails {e} (reads : speaker.reads c.server = true) (going : c.ended = false) :
      Rule speaker codec c (.serverLoses (some e))
        { c with
          server := speaker.read c.server (some (.error e))
          heard := c.heard ++ [.error e] }
  | serverEnds (reads : speaker.reads c.server = true) :
      Rule speaker codec c (.serverLoses none)
        { c with server := speaker.read c.server none, ended := true }
  | serverWrote {message} (writes : speaker.writes c.server = true)
      (passing : speaker.passing c.server = some message) :
      Rule speaker codec c (.serverWrites (.ok ()))
        { bring { c with server := speaker.resume c.server (.ok ()) }
            (message.withOwed c.serverOwes) with
          said := c.said ++ [message] }
  | serverClosed (writes : speaker.writes c.server = true)
      (passing : speaker.passing c.server = none) :
      Rule speaker codec c (.serverWrites (.ok ()))
        (bring { c with server := speaker.resume c.server (.ok ()) } c.serverOwes.toList)
  | serverFailed {e} (writes : speaker.writes c.server = true) :
      Rule speaker codec c (.serverWrites (.error e))
        { c with server := speaker.resume c.server (.error e) }
  | serverAnswer {answer} (owes : c.serverOwes = some answer) :
      Rule speaker codec c .serverAnswers (c.bring [answer])

/-- A step of the conversation, by rules. -/
theorem step_rule {speaker : Speaker S E} {codec : Codec E Tx Rx}
    {c d : Conversation S cfg E Tx Rx} {action : ConversationAction E}
    (step : c.step speaker codec action = some d) : Rule speaker codec c action d := by
  cases action with
  | client action =>
      simp only [Conversation.step] at step
      split at step
      · cases step
      · rename_i brings
        obtain ⟨client, stepped, rfl⟩ := Option.map_eq_some_iff.mp step
        exact .client (Bool.eq_false_of_not_eq_true brings) stepped
  | clientAnswers =>
      simp only [Conversation.step, clientAnswers] at step
      split at step
      · rename_i owes
        obtain ⟨_, same⟩ := Option.ite_none_right_eq_some.mp step
        obtain rfl := Option.some.inj same
        exact .clientAnswer owes
      · cases step
  | serverReads =>
      simp only [Conversation.step, serverReads] at step
      split at step
      · cases step
      · rename_i waiting
        obtain ⟨⟨reads, going⟩, same⟩ := Option.ite_none_right_eq_some.mp step
        obtain rfl := Option.some.inj same
        exact .serverRead waiting reads going
  | serverLoses failure =>
      cases failure with
      | some e =>
          obtain ⟨⟨reads, going⟩, same⟩ := Option.ite_none_right_eq_some.mp step
          obtain rfl := Option.some.inj same
          exact .serverFails reads going
      | none =>
          obtain ⟨reads, same⟩ := Option.ite_none_right_eq_some.mp step
          obtain rfl := Option.some.inj same
          exact .serverEnds reads
  | serverWrites result =>
      obtain ⟨writes, step⟩ := Option.ite_none_right_eq_some.mp step
      cases result with
      | error e =>
          obtain rfl := Option.some.inj step
          exact .serverFailed writes
      | ok value =>
          cases passing : speaker.passing c.server with
          | some message =>
              rw [passing] at step
              obtain rfl := Option.some.inj step
              exact .serverWrote writes passing
          | none =>
              rw [passing] at step
              obtain rfl := Option.some.inj step
              exact .serverClosed writes passing
  | serverAnswers =>
      simp only [Conversation.step, serverAnswers] at step
      split at step
      · rename_i owes
        obtain ⟨_, same⟩ := Option.ite_none_right_eq_some.mp step
        obtain rfl := Option.some.inj same
        exact .serverAnswer owes
      · cases step

end Conversation

/-- Every interleaving of a client and a server. -/
def conversation (speaker : Speaker S E) (codec : Codec E Tx Rx) (program : Program E Tx Rx)
    (cfg : LoopConfig) : Machine (Conversation S cfg E Tx Rx) (ConversationAction E) where
  init := .create speaker program cfg
  step := Conversation.step speaker codec

namespace Session

variable {codec : Codec E Tx Rx} {program : Program E Tx Rx} {s t : Session cfg E Tx Rx}

/-- A step of a session writes more or nothing, and only what arrives adds to
what was taken or waits. -/
theorem step_streams {action : SessionAction E} (step : s.step codec action = some t) :
    s.written <+: t.written ∧
      t.taken ++ t.inbound = s.taken ++ s.inbound ++ (arrival (s, action)).toList := by
  cases step_rule step with
  | arrive => exact ⟨List.prefix_refl _, (List.append_assoc ..).symm⟩
  | skip phase first | read phase first =>
      rw [first]
      exact ⟨List.prefix_refl _, (List.append_assoc ..).trans (List.append_nil _).symm⟩
  | loop phase first =>
      rw [first]
      exact ⟨List.prefix_append _ _, (List.append_assoc ..).trans (List.append_nil _).symm⟩
  | wrote => exact ⟨List.prefix_append _ _, (List.append_nil _).symm⟩
  | refused | connected | failed => exact ⟨List.prefix_refl _, (List.append_nil _).symm⟩
  | run => exact ⟨List.prefix_append _ _, (List.append_nil _).symm⟩

/-- Items can arrive at any time. -/
theorem arrive_all (items : List (StreamItem E))
    (reached : (session codec program cfg).Reachable s) :
    (session codec program cfg).Reachable { s with inbound := s.inbound ++ items } := by
  induction items generalizing s with
  | nil => simpa using reached
  | cons item rest ih =>
      have arrives : (session codec program cfg).step s (.arrive item) =
          some { s with inbound := s.inbound ++ [item] } := rfl
      have later := ih (reached.next arrives)
      rwa [List.append_assoc] at later

end Session

namespace Message

/-- The frames that are no answers. -/
def asked (frames : List Message) : List Message :=
  frames.filter fun frame => !frame.isAnswer

@[simp] theorem asked_append (frames more : List Message) :
    asked (frames ++ more) = asked frames ++ asked more :=
  List.filter_append ..

/-- An answer that is owed is one. -/
theorem owed_isAnswer {sent : List Message} {owes : Option Message}
    (answer : ∀ frame ∈ owes, frame.isAnswer = true) (message : Message) :
    ∀ frame ∈ message.owed sent owes, frame.isAnswer = true := by
  cases message with
  | ping payload =>
      rintro frame ⟨⟩
      rfl
  | close reason =>
      rw [owed]
      split
      · exact answer
      · rintro frame ⟨⟩
        rfl
  | text _ | binary _ | pong _ | frame _ => exact answer

/-- A socket owes nothing but answers. -/
theorem foldl_owed_isAnswer {sent : List Message} {owes : Option Message}
    (answer : ∀ frame ∈ owes, frame.isAnswer = true) (read : List Message) :
    ∀ frame ∈ read.foldl (owed sent) owes, frame.isAnswer = true := by
  induction read generalizing owes with
  | nil => exact answer
  | cons message rest ih => exact ih (owed_isAnswer answer message)

/-- Nobody has asked for what a socket owes. -/
theorem asked_owed {owes : Option Message} (answer : ∀ frame ∈ owes, frame.isAnswer = true) :
    asked owes.toList = [] := by
  rw [asked, List.filter_eq_nil_iff]
  intro frame member
  simp [answer frame (Option.mem_toList.mp member)]

/-- Only answers go with a frame that is written. -/
theorem asked_withOwed {owes : Option Message} (answer : ∀ frame ∈ owes, frame.isAnswer = true)
    (message : Message) : asked (message.withOwed owes) = asked [message] := by
  have alone := asked_owed answer
  cases message with
  | pong payload => rfl
  | text _ | binary _ | ping _ | close _ | frame _ =>
      rw [withOwed, ← List.singleton_append, asked_append, alone, List.append_nil]
      exact fun _ => nofun

/-- What passes over the answers is the same for frames that differ in answers. -/
theorem filterMap_of_asked {β : Type} {f : Message → Option β}
    (blind : ∀ frame : Message, frame.isAnswer = true → f frame = none) {frames more : List Message}
    (same : asked frames = asked more) : frames.filterMap f = more.filterMap f := by
  have skips : ∀ frames, (asked frames).filterMap f = frames.filterMap f := by
    intro frames
    rw [asked, List.filterMap_filter]
    apply List.filterMap_congr
    intro frame _
    cases answer : frame.isAnswer with
    | true => exact (blind frame answer).symm
    | false => rfl
  rw [← skips frames, same, skips]

end Message

/-- Only answers go with what an operation on the sink writes. -/
theorem Written.asked_onWire {owes : Option Message}
    (answer : ∀ frame ∈ owes, frame.isAnswer = true) (op : Written E) :
    Message.asked (op.onWire owes) = Message.asked op.delivered.toList := by
  have delivers {op : Written E} (wire : op.onWire owes = match op.delivered with
      | some message => message.withOwed owes
      | none => []) :
      Message.asked (op.onWire owes) = Message.asked op.delivered.toList := by
    rw [wire]
    cases op.delivered with
    | some message => exact Message.asked_withOwed answer message
    | none => rfl
  match op with
  | .loop (.close (.ok ())) => exact Message.asked_owed answer
  | .handshake _ _ | .loop (.close (.error _)) | .loop (.send _ _ _) => exact delivers rfl

/-- On the wire, what was asked for is what was delivered. -/
theorem Written.asked_onWires {owes : Option Message}
    (answer : ∀ frame ∈ owes, frame.isAnswer = true) (ops : List (Written E)) :
    Message.asked (ops.flatMap (onWire owes)) = Message.asked (ops.filterMap delivered) := by
  induction ops with
  | nil => rfl
  | cons op rest ih =>
      rw [List.flatMap_cons, Message.asked_append, asked_onWire answer, ih, ← Message.asked_append]
      cases delivers : op.delivered <;> simp [delivers]

/-- A socket that owes nothing sends what is written. -/
theorem Written.onWire_none (op : Written E) : op.onWire none = op.delivered.toList := by
  have delivers {op : Written E} (wire : op.onWire none = match op.delivered with
      | some message => message.withOwed none
      | none => []) : op.onWire none = op.delivered.toList := by
    rw [wire]
    cases op.delivered with
    | some message => cases message <;> rfl
    | none => rfl
  match op with
  | .loop (.close (.ok ())) => rfl
  | .handshake _ _ | .loop (.close (.error _)) | .loop (.send _ _ _) => exact delivers rfl

/-- A socket that owes nothing writes only what is delivered. -/
theorem Written.onWires_none (ops : List (Written E)) :
    ops.flatMap (onWire none) = ops.filterMap delivered := by
  induction ops with
  | nil => rfl
  | cons op rest ih =>
      rw [List.flatMap_cons, onWire_none, ih]
      cases delivers : op.delivered <;> simp [delivers]

namespace Conversation

variable {speaker : Speaker S E} {codec : Codec E Tx Rx} {program : Program E Tx Rx}
  {c d : Conversation S cfg E Tx Rx}

/-- The frames that the client has written. -/
def wrote (c : Conversation S cfg E Tx Rx) : List Message :=
  c.client.written.filterMap Written.delivered

/-- The server got where it is on what it has read, whatever its stream has still
for it, if it has not ended, and has written what it has said. -/
def Faces (speaker : Speaker S E) (server : S) (heard : List (Except E Message))
    (said : List Message) (ended : Bool) : Prop :=
  ∀ rest, (ended = true → rest = []) → ∃ trace,
    (speaker.facing (heard ++ rest)).Run (speaker.facing (heard ++ rest)).init trace
        { server := server, inbound := rest } ∧
      trace.filterMap (AuthEchoServer.written speaker.passing) = said

/-- What has passed between the two: the sockets have sent what was written, and
answers. -/
structure Faithful (speaker : Speaker S E) (codec : Codec E Tx Rx) (program : Program E Tx Rx)
    (c : Conversation S cfg E Tx Rx) : Prop where
  client : (session codec program cfg).Reachable c.client
  clientOwes : ∀ frame ∈ c.clientOwes, frame.isAnswer = true
  serverOwes : ∀ frame ∈ c.serverOwes, frame.isAnswer = true
  written : Message.asked c.upstream = Message.asked c.wrote
  brought : Message.asked c.downstream = Message.asked c.said
  faces : Faces speaker c.server c.heard c.said c.ended

section Faces

variable {server : S} {heard : List (Except E Message)} {said : List Message} {ended : Bool}

/-- A run of the server goes on with a further step. -/
private theorem run_snoc {sent : List (Except E Message)} {x y : Exchange S E}
    {action : ExchangeAction E} (step : speaker.toService.step x action = some y)
    (before : ∃ trace, (speaker.facing sent).Run (speaker.facing sent).init trace x ∧
      trace.filterMap (AuthEchoServer.written speaker.passing) = said) :
    ∃ trace, (speaker.facing sent).Run (speaker.facing sent).init trace y ∧
      trace.filterMap (AuthEchoServer.written speaker.passing) =
        said ++ (AuthEchoServer.written speaker.passing (x, action)).toList := by
  obtain ⟨trace, run, same⟩ := before
  refine ⟨trace ++ [(x, action)], run.snoc step, ?_⟩
  rw [List.filterMap_append, same]
  cases written : AuthEchoServer.written speaker.passing (x, action) <;> simp [written]

/-- The server reads an item. -/
theorem Faces.item (faces : Faces speaker server heard said false)
    (reads : speaker.reads server = true) (item : Except E Message) :
    Faces speaker (speaker.read server (some item)) (heard ++ [item]) said false := by
  intro rest _
  have step : speaker.toService.step { server := server, inbound := item :: rest } .read =
      some { server := speaker.read server (some item), inbound := rest } := if_pos reads
  have next := run_snoc step (faces (item :: rest) nofun)
  rw [List.append_cons] at next
  obtain ⟨trace, run, same⟩ := next
  exact ⟨trace, run, same.trans (List.append_nil _)⟩

/-- The server reads the end of the stream. -/
theorem Faces.ends (faces : Faces speaker server heard said ended)
    (reads : speaker.reads server = true) :
    Faces speaker (speaker.read server none) heard said true := by
  intro rest free
  obtain rfl := free rfl
  have step : speaker.toService.step { server := server, inbound := [] } .read =
      some { server := speaker.read server none, inbound := [] } := if_pos reads
  obtain ⟨trace, run, same⟩ := run_snoc step (faces [] fun _ => rfl)
  exact ⟨trace, run, same.trans (List.append_nil _)⟩

/-- A write of the server ends. -/
theorem Faces.resumes (faces : Faces speaker server heard said ended)
    (writes : speaker.writes server = true) {result : Except E Unit} {more : List Message}
    (passes : ∀ inbound, (AuthEchoServer.written speaker.passing
      ({ server := server, inbound := inbound }, .write result)).toList = more) :
    Faces speaker (speaker.resume server result) heard (said ++ more) ended := by
  intro rest free
  have step : speaker.toService.step { server := server, inbound := rest } (.write result) =
      some { server := speaker.resume server result, inbound := rest } := if_pos writes
  rw [← passes rest]
  exact run_snoc step (faces rest free)

/-- A step that writes nothing leaves what the server has said as it is. -/
theorem Faces.silent (faces : Faces speaker server heard said ended)
    (writes : speaker.writes server = true) {result : Except E Unit}
    (passes : ∀ inbound, AuthEchoServer.written speaker.passing
      ({ server := server, inbound := inbound }, .write result) = none) :
    Faces speaker (speaker.resume server result) heard said ended := by
  have resumed := faces.resumes writes fun inbound => congrArg Option.toList (passes inbound)
  exact (List.append_nil said) ▸ resumed

end Faces

theorem Faithful.create : Faithful speaker codec program (create speaker program cfg) where
  client := .initial
  clientOwes := nofun
  serverOwes := nofun
  written := rfl
  brought := rfl
  faces _ _ := ⟨[], .nil _, rfl⟩

/-- What is brought comes behind what was on its way. -/
@[simp] theorem bring_downstream (frames : List Message) :
    (c.bring frames).downstream = c.downstream ++ frames := by
  have kept : (frames.map fun frame => (some (.ok frame) : StreamItem E)).filterMap
      StreamItem.frame? = frames := List.filterMap_map.trans List.filterMap_some
  change (c.client.taken ++ (c.client.inbound ++ _)).filterMap _ = _
  rw [← List.append_assoc, List.filterMap_append, kept]
  rfl

/-- What the server has said is no matter for what the client gets. -/
@[simp] theorem said_downstream (said : List Message) :
    ({ c with said := said } : Conversation S cfg E Tx Rx).downstream = c.downstream :=
  rfl

/-- What a step of the client changes of what passes between the two. -/
theorem clientAt_streams {action : SessionAction E} {client : Session cfg E Tx Rx}
    (brings : action.brings = false) (step : c.client.step codec action = some client) :
    ∃ ops : List (Written E),
      (c.clientAt client).upstream = c.upstream ++ ops.flatMap (Written.onWire c.clientOwes) ∧
      (c.clientAt client).wrote = c.wrote ++ ops.filterMap Written.delivered ∧
      (c.clientAt client).downstream = c.downstream := by
  obtain ⟨⟨ops, grown⟩, streams⟩ := Session.step_streams step
  have nothing : (Session.arrival (c.client, action)).toList.filterMap StreamItem.frame? = [] := by
    match action with
    | .arrive (some (.error _)) | .arrive none | .read | .write _ | .proceed | .run _ => rfl
    | .arrive (some (.ok _)) => cases brings
  refine ⟨ops, ?_, ?_, ?_⟩
  · change c.heardFrames ++ (c.toServer ++
      (client.written.drop c.client.written.length).flatMap (Written.onWire c.clientOwes)) = _
    rw [← grown, List.drop_left, ← List.append_assoc]
    rfl
  · change client.written.filterMap Written.delivered = _
    rw [← grown, List.filterMap_append]
    rfl
  · change (client.taken ++ client.inbound).filterMap StreamItem.frame? = _
    rw [streams, List.filterMap_append, nothing]
    exact List.append_nil _

/-- What the server has read stays read. -/
theorem heard_first {action : ConversationAction E} (step : c.step speaker codec action = some d) :
    c.heard <+: d.heard := by
  cases step_rule step with
  | serverRead | serverFails => exact List.prefix_append _ _
  | client | clientAnswer | serverEnds | serverWrote | serverClosed | serverFailed
  | serverAnswer => exact List.prefix_refl _

/-- The two sides stay faithful to each other. -/
theorem Faithful.step (faithful : Faithful speaker codec program c)
    {action : ConversationAction E} (step : c.step speaker codec action = some d) :
    Faithful speaker codec program d := by
  have faces := faithful.faces
  cases step_rule step with
  | @client action client brings stepped =>
      obtain ⟨ops, upstream, wrote, downstream⟩ := clientAt_streams brings stepped
      have moved : (session codec program cfg).step c.client action = some client := stepped
      refine ⟨faithful.client.next moved, ?_, faithful.serverOwes, ?_, ?_, faces⟩
      · simp only [clientAt]
        split
        · exact nofun
        · exact Message.foldl_owed_isAnswer faithful.clientOwes _
      · rw [upstream, wrote, Message.asked_append, Message.asked_append, faithful.written,
          Written.asked_onWires faithful.clientOwes]
      · rw [downstream]
        exact faithful.brought
  | @clientAnswer answer owes =>
      refine ⟨faithful.client, nofun, faithful.serverOwes, ?_, faithful.brought, faces⟩
      have alone : Message.asked [answer] = [] := by
        have none := Message.asked_owed faithful.clientOwes
        rwa [owes] at none
      change Message.asked (c.heardFrames ++ (c.toServer ++ [answer])) = _
      rw [← List.append_assoc, Message.asked_append, alone, List.append_nil]
      exact faithful.written
  | @serverRead message rest waiting reads going =>
      rw [going] at faces
      refine ⟨faithful.client, faithful.clientOwes, Message.owed_isAnswer faithful.serverOwes _,
        ?_, faithful.brought, going ▸ faces.item reads (.ok message)⟩
      refine Eq.trans ?_ faithful.written
      simp [upstream, heardFrames, waiting, Except.toOption]
  | @serverFails e reads going =>
      rw [going] at faces
      refine ⟨faithful.client, faithful.clientOwes, faithful.serverOwes, ?_, faithful.brought,
        going ▸ faces.item reads (.error e)⟩
      refine Eq.trans ?_ faithful.written
      simp [upstream, heardFrames]
      rfl
  | serverEnds reads =>
      exact ⟨faithful.client, faithful.clientOwes, faithful.serverOwes, faithful.written,
        faithful.brought, faces.ends reads⟩
  | @serverWrote message writes passing =>
      refine ⟨Session.arrive_all _ faithful.client, faithful.clientOwes, nofun, faithful.written,
        ?_, faces.resumes writes ?_⟩
      · rw [said_downstream, bring_downstream, Message.asked_append, Message.asked_append]
        exact congrArg₂ (· ++ ·) faithful.brought
          (Message.asked_withOwed faithful.serverOwes message)
      · intro inbound
        rw [AuthEchoServer.written, passing]
        rfl
  | serverClosed writes passing =>
      refine ⟨Session.arrive_all _ faithful.client, faithful.clientOwes, nofun, faithful.written,
        ?_, faces.silent writes fun _ => passing⟩
      rw [bring_downstream, Message.asked_append, Message.asked_owed faithful.serverOwes,
        List.append_nil]
      exact faithful.brought
  | serverFailed writes =>
      exact ⟨faithful.client, faithful.clientOwes, faithful.serverOwes, faithful.written,
        faithful.brought, faces.silent writes fun _ => rfl⟩
  | @serverAnswer answer owes =>
      refine ⟨Session.arrive_all _ faithful.client, faithful.clientOwes, nofun, faithful.written,
        ?_, faces⟩
      have alone : Message.asked [answer] = [] := by
        have none := Message.asked_owed faithful.serverOwes
        rwa [owes] at none
      rw [bring_downstream, Message.asked_append, alone, List.append_nil]
      exact faithful.brought

/-- Either side hears what the other has said, in every reachable state. -/
theorem faithful (reached : (conversation speaker codec program cfg).Reachable c) :
    Faithful speaker codec program c :=
  reached.invariant (Faithful speaker codec program) .create
    fun _ _ _ _ faithful step => faithful.step step

end Conversation

/-- `echo_server` with the frame that it waits to send. -/
def EchoServer.speaker (parse : String → Option EchoControlMessage) :
    Speaker (EchoServer E) E where
  toService := EchoServer.service parse
  passing server := server.pc.passing

/-- `auth_echo_server` with the frame that it waits to send. -/
def AuthEchoServer.speaker (parseAuth : String → Option AuthMsg)
    (parse : String → Option EchoControlMessage) : Speaker (AuthEchoServer E) E where
  toService := AuthEchoServer.service parseAuth parse
  passing := AuthEchoServer.passing

section Servers

variable {parseAuth : String → Option AuthMsg} {parse : String → Option EchoControlMessage}

/-- The server replies to no answer. -/
theorem EchoServer.reply_answer {frame : Message} (answer : frame.isAnswer = true) :
    reply parse frame = none := by
  cases frame with
  | pong _ | close _ => rfl
  | text _ | binary _ | ping _ | frame _ => cases answer

/-- What `echo_server` makes of items is what it makes of the frames among them. -/
theorem EchoServer.replies_of_frames (items : List (Except E Message)) :
    items.filterMap (EchoServer.replyTo parse) =
      (items.filterMap Except.toOption).filterMap (EchoServer.reply parse) := by
  rw [List.filterMap_filterMap]
  apply List.filterMap_congr
  intro item _
  cases item <;> rfl

/-- On any items, all that the echo server writes is the first of its replies. -/
theorem EchoServer.writes_first {sent : List (Except E Message)}
    {trace : List (Exchange (EchoServer E) E × ExchangeAction E)}
    {final : Exchange (EchoServer E) E}
    (run : (echoServer parse sent).Run (echoServer parse sent).init trace final) :
    trace.filterMap (AuthEchoServer.written fun server => server.pc.passing) <+:
      sent.filterMap (EchoServer.replyTo parse) := by
  obtain ⟨taken, parts, replied⟩ := EchoServer.replied run
  rw [parts]
  exact replied.first.trans ((List.prefix_append _ _).filterMap _)

namespace AuthEchoServer

/-- More items are answered with more. -/
theorem answer_mono {items more : List (Except E Message)} (grows : items <+: more) :
    answer parseAuth parse items <+: answer parseAuth parse more := by
  obtain ⟨rest, rfl⟩ := grows
  cases items with
  | nil => exact List.nil_prefix
  | cons first items =>
      have replies : items.filterMap (EchoServer.replyTo parse) <+:
          (items ++ rest).filterMap (EchoServer.replyTo parse) :=
        (List.prefix_append _ _).filterMap _
      match first with
      | .ok (.text text) =>
          cases known : parseAuth text with
          | none =>
              simp only [answer, List.cons_append, known]
              exact replies
          | some auth =>
              simp only [answer, List.cons_append, known]
              split
              · exact (List.prefix_append_right_inj [_]).mpr replies
              · exact List.prefix_refl _
      | .error _ | .ok (.binary _) | .ok (.ping _) | .ok (.pong _) | .ok (.close _)
      | .ok (.frame _) => exact replies

/-- Answers after the first frame are no matter to the server. -/
theorem answer_of_asked {frames more : List Message} (first : frames.head? = more.head?)
    (same : Message.asked frames = Message.asked more) :
    answer parseAuth parse (frames.map (Except.ok : Message → Except E Message)) =
      answer parseAuth parse (more.map (Except.ok : Message → Except E Message)) := by
  match frames, more with
  | [], [] => rfl
  | [], _ :: _ => cases first
  | _ :: _, [] => cases first
  | message :: frames, other :: more =>
      obtain rfl := Option.some.inj first
      have rest : Message.asked frames = Message.asked more := by
        rw [← List.singleton_append, ← List.singleton_append (l := more), Message.asked_append,
          Message.asked_append] at same
        exact List.append_cancel_left same
      have replies : (frames.map (Except.ok : Message → Except E Message)).filterMap
          (EchoServer.replyTo parse) =
            (more.map (Except.ok : Message → Except E Message)).filterMap
              (EchoServer.replyTo parse) := by
        rw [List.filterMap_map, List.filterMap_map]
        exact Message.filterMap_of_asked (fun _ => EchoServer.reply_answer) rest
      cases message with
      | text text => simp only [List.map_cons, answer, replies]
      | binary _ | ping _ | pong _ | close _ | frame _ => exact replies

/-- On any items, all that the authenticating server writes is the first of its
answer. -/
theorem writes_first {sent : List (Except E Message)}
    {trace : List (Exchange (AuthEchoServer E) E × ExchangeAction E)}
    {final : Exchange (AuthEchoServer E) E}
    (run : (authEchoServer parseAuth parse sent).Run
      (authEchoServer parseAuth parse sent).init trace final) :
    trace.filterMap (written passing) <+: answer parseAuth parse sent := by
  obtain ⟨taken, parts, answered⟩ := answered run
  rw [parts]
  exact answered.first.trans (answer_mono (List.prefix_append _ _))

end AuthEchoServer

end Servers

namespace Conversation

open Connection

variable {parseAuth : String → Option AuthMsg} {parse : String → Option EchoControlMessage}
  {codec : Codec E Tx Rx} {program : Program E Tx Rx}

/-- The data frames among the items of a stream. -/
theorem data_of_frames (items : List (StreamItem E)) :
    dataFrames items = (items.filterMap StreamItem.frame?).filterMap Message.data? := by
  rw [List.filterMap_filterMap]
  apply List.filterMap_congr
  intro item _
  match item with
  | none | some (.error _) | some (.ok _) => rfl

/-- An answer of a socket is no data. -/
theorem data_answer {frame : Message} (answer : frame.isAnswer = true) : frame.data? = none := by
  cases frame with
  | pong _ | close _ => rfl
  | text _ | binary _ | ping _ | frame _ => cases answer

/-- A stream that has not failed has handed out frames. -/
private theorem clean_frames {heard : List (Except E Message)} (clean : ∀ e, .error e ∉ heard) :
    heard = (heard.filterMap Except.toOption).map .ok := by
  induction heard with
  | nil => rfl
  | cons item rest ih =>
      have later := ih fun e member => clean e (List.mem_cons_of_mem _ member)
      cases item with
      | ok message => exact congrArg (Except.ok message :: ·) later
      | error e => exact absurd List.mem_cons_self (clean e)

/-- The data frames that a client has taken from its stream are the first of
those that the server has said. -/
theorem Faithful.taken_first {speaker : Speaker S E} {c : Conversation S cfg E Tx Rx}
    (faithful : Faithful speaker codec program c) {answers : List Message}
    (spoken : c.said <+: answers) :
    dataFrames c.client.taken <+: answers.filterMap Message.data? := by
  have brought : c.downstream.filterMap Message.data? = c.said.filterMap Message.data? :=
    Message.filterMap_of_asked (fun _ => data_answer) faithful.brought
  rw [data_of_frames]
  apply (((List.prefix_append _ _).filterMap _).filterMap _).trans
  exact brought ▸ spoken.filterMap _

/-- What reaches the consumer of what the server has said. -/
private theorem data_in_order {speaker : Speaker S E} {c : Conversation S cfg E Tx Rx}
    (faithful : Faithful speaker codec program c) {system : System cfg E}
    (running : c.client.phase = .running system) {answers : List Message}
    (spoken : c.said <+: answers) :
    dataFrames (c.client.calls.flatMap LoggedCall.consumed) ++
        (system.received ++ system.conn.rx.queue) <+: answers.filterMap Message.data? := by
  have taken := (Session.account faithful.client).taken
  rw [running] at taken
  have read : dataFrames c.client.taken =
      dataFrames (c.client.calls.flatMap LoggedCall.consumed) ++ dataFrames system.conn.items := by
    rw [taken]
    exact List.filterMap_append
  have feed := System.feed_first (Session.running_reachable faithful.client running)
  apply ((List.prefix_append_right_inj _).mpr feed).trans
  rw [← read]
  exact faithful.taken_first spoken

/-- The data frames that a client gets from `echo_server`, in its handshake and
after it, are the first of what comes back for the frames that it has written,
the handshake's and then the task's, each once and in order. -/
theorem hears_echoes {c : Conversation (EchoServer E) cfg E Tx Rx}
    (reached : (conversation (EchoServer.speaker parse) codec program cfg).Reachable c) :
    dataFrames c.client.taken <+: EchoPair.echoes parse c.wrote ∧
      ∀ system, c.client.phase = .running system →
        dataFrames (c.client.calls.flatMap LoggedCall.consumed) ++
            (system.received ++ system.conn.rx.queue) <+: EchoPair.echoes parse c.wrote := by
  have faithful := faithful reached
  have spoken : c.said <+: c.wrote.filterMap (EchoServer.reply parse) := by
    obtain ⟨trace, run, said⟩ := faithful.faces [] fun _ => rfl
    have replies := EchoServer.writes_first run
    rw [List.append_nil, EchoServer.replies_of_frames] at replies
    rw [← said, ← Message.filterMap_of_asked (fun _ => EchoServer.reply_answer) faithful.written]
    exact replies.trans ((List.prefix_append _ _).filterMap _)
  rw [← EchoPair.echoes_eq]
  exact ⟨faithful.taken_first spoken, fun system running => data_in_order faithful running spoken⟩

/-- A handler that sends a text and waits for another. -/
def sendAndReceive (text : String) : Program Unit Message Message :=
  .write (.sendText text) fun _ => .read .recvText fun _ => .done (.ok ())

/-- The handler gets its answer, and then a message comes back to the consumer. -/
def handshakeThenEcho : List (ConversationAction Unit) :=
  [.client (.write (.ok ())), .serverReads, .serverWrites (.ok ()), .client .read, .client .proceed,
    .client (.run (.start 0 (.sendRaw (.text "\x7b\"Message\":\"a\"\x7d")))),
    .client (.run (.advance 0)), .client (.run (.loop (.arm .outgoing))),
    .client (.run (.loop (.sink (.ok ())))), .serverReads, .serverWrites (.ok ()), .client .read,
    .client (.run (.advance 0)), .client (.run (.start 0 .pollNext))]

theorem hears_echoes_handshakeThenEcho :
    let M := conversation (EchoServer.speaker EchoPair.readMessage) Session.rawCodec
      (sendAndReceive "\x7b\"Message\":\"a\"\x7d") .single
    let c := M.follow M.init handshakeThenEcho
    dataFrames c.client.taken <+: EchoPair.echoes EchoPair.readMessage c.wrote ∧
      ∃ system, c.client.phase = .running system ∧
        system.received = [.text "\x7b\"Message\":\"a\"\x7d"] ∧
        dataFrames (c.client.calls.flatMap LoggedCall.consumed) ++
            (system.received ++ system.conn.rx.queue) <+:
          EchoPair.echoes EchoPair.readMessage c.wrote := by
  intro M c
  have reached : M.Reachable c := M.follow_reachable handshakeThenEcho
  exact ⟨(hears_echoes reached).1, _, rfl, by decide, (hears_echoes reached).2 _ rfl⟩

/-- Then the client closes, and the server's socket answers its Close frame. -/
def thenClose : List (ConversationAction Unit) :=
  [.client (.run (.start 0 .closeConnection)), .client (.run (.advance 2)),
    .client (.run (.loop (.arm .outgoing))), .client (.run (.loop (.sink (.ok ())))),
    .serverReads, .serverWrites (.ok ())]

example :
    let M := conversation (EchoServer.speaker EchoPair.readMessage) Session.rawCodec
      (sendAndReceive "\x7b\"Message\":\"a\"\x7d") .single
    let c := M.follow M.init (handshakeThenEcho ++ thenClose)
    c.said.length = 2 ∧ c.downstream.drop 2 =
      [.close (some { code := 1000, reason := "Closing Connection" })] := by decide

/-- The first frame that the server reads is the first that the client has written,
and the client gets nothing before. -/
structure Quiet (c : Conversation (AuthEchoServer E) cfg E Tx Rx) : Prop where
  first : c.upstream.head? = c.wrote.head?
  before : c.heardFrames = [] →
    c.downstream = [] ∧ c.serverOwes = none ∧ c.clientOwes = none

/-- All that the server has said, if its stream is clean, is the first of its answer
to what it has read. -/
private theorem Faithful.answers {c : Conversation (AuthEchoServer E) cfg E Tx Rx}
    (faithful : Faithful (AuthEchoServer.speaker parseAuth parse) codec program c)
    (clean : ∀ e, .error e ∉ c.heard) :
    c.said <+: AuthEchoServer.answer parseAuth parse
      (c.heardFrames.map (Except.ok : Message → Except E Message)) := by
  obtain ⟨trace, run, said⟩ := faithful.faces [] fun _ => rfl
  rw [List.append_nil, clean_frames clean] at run
  rw [← said]
  exact AuthEchoServer.writes_first run

/-- A client that has taken no frame owes nothing. -/
private theorem clientAt_owes {S : Type} {c : Conversation S cfg E Tx Rx}
    {client : Session cfg E Tx Rx} (nothing : (c.clientAt client).downstream = [])
    (free : c.clientOwes = none) : (c.clientAt client).clientOwes = none := by
  have none (item : StreamItem E) (member : item ∈ client.taken ++ client.inbound) :
      item.frame? = none := List.filterMap_eq_nil_iff.mp nothing item member
  have read : (client.taken.drop c.client.taken.length).filterMap StreamItem.frame? = [] :=
    List.filterMap_eq_nil_iff.mpr fun item member =>
      none item (List.mem_append_left _ (List.mem_of_mem_drop member))
  simp only [clientAt, read, List.foldl_nil, free]
  split <;> rfl

/-- The client has nothing to answer before the server has read its first frame. -/
theorem Quiet.step {c d : Conversation (AuthEchoServer E) cfg E Tx Rx} (quiet : Quiet c)
    (next : Faithful (AuthEchoServer.speaker parseAuth parse) codec program d)
    (clean : ∀ e, .error e ∉ d.heard) {action : ConversationAction E}
    (step : c.step (AuthEchoServer.speaker parseAuth parse) codec action = some d) :
    Quiet d := by
  have answers := next.answers clean
  cases step_rule step with
  | @client action client brings stepped =>
      obtain ⟨ops, upstream, wrote, downstream⟩ := clientAt_streams brings stepped
      constructor
      · rw [upstream, wrote, List.head?_append, List.head?_append, ← quiet.first]
        by_cases started : c.heardFrames = []
        · rw [(quiet.before started).2.2, Written.onWires_none]
        · obtain ⟨message, rest, parts⟩ := List.exists_cons_of_ne_nil started
          rw [Conversation.upstream, parts]
          rfl
      · intro started
        obtain ⟨nothing, serverFree, clientFree⟩ := quiet.before started
        rw [← downstream] at nothing
        exact ⟨nothing, serverFree, clientAt_owes nothing clientFree⟩
  | @clientAnswer answer owes =>
      have started : c.heardFrames ≠ [] := by
        intro none
        rw [(quiet.before none).2.2] at owes
        cases owes
      refine ⟨?_, fun none => absurd none started⟩
      obtain ⟨message, rest, parts⟩ := List.exists_cons_of_ne_nil started
      refine Eq.trans ?_ quiet.first
      change (c.heardFrames ++ (c.toServer ++ [answer])).head? = c.upstream.head?
      rw [upstream, parts]
      rfl
  | @serverRead message rest waiting reads going =>
      constructor
      · refine Eq.trans (congrArg List.head? ?_) quiet.first
        simp [upstream, heardFrames, waiting, Except.toOption]
      · intro none
        simp [heardFrames, Except.toOption] at none
  | @serverFails e reads going =>
      exact absurd (List.mem_append_right _ List.mem_cons_self) (clean e)
  | serverEnds reads => exact ⟨quiet.first, quiet.before⟩
  | @serverWrote message writes passing =>
      refine ⟨quiet.first, fun none => ?_⟩
      change c.heardFrames = [] at none
      change c.said ++ [message] <+: AuthEchoServer.answer parseAuth parse
        (c.heardFrames.map (Except.ok : Message → Except E Message)) at answers
      rw [none] at answers
      have silent := List.prefix_nil.mp answers
      simp at silent
  | serverClosed writes passing =>
      refine ⟨quiet.first, fun none => ?_⟩
      obtain ⟨nothing, serverFree, clientFree⟩ := quiet.before none
      refine ⟨?_, rfl, clientFree⟩
      rw [bring_downstream, serverFree]
      exact (List.append_nil _).trans nothing
  | serverFailed writes => exact ⟨quiet.first, quiet.before⟩
  | @serverAnswer answer owes =>
      refine ⟨quiet.first, fun none => ?_⟩
      rw [(quiet.before none).2.1] at owes
      cases owes

/-- The first frame that the server reads is one that the client has written, as long
as the server's stream has not failed. -/
theorem quiet {c : Conversation (AuthEchoServer E) cfg E Tx Rx}
    (reached :
      (conversation (AuthEchoServer.speaker parseAuth parse) codec program cfg).Reachable c)
    (clean : ∀ e, .error e ∉ c.heard) : Quiet c := by
  refine reached.invariant (fun c => (∀ e, .error e ∉ c.heard) → Quiet c)
    (fun _ => ⟨rfl, fun _ => ⟨rfl, rfl, rfl⟩⟩) ?_ clean
  intro c action d before ih step clean
  have step : c.step (AuthEchoServer.speaker parseAuth parse) codec action = some d := step
  refine (ih fun e member => clean e ?_).step (faithful (before.next step)) clean step
  exact (heard_first step).subset member

/-- As long as the stream of `auth_echo_server` has not failed, the data frames that a
client gets from it, in its handshake and after it, are the first of those in the
server's answer to the frames that the client has written, each once and in order. -/
theorem hears_answer {c : Conversation (AuthEchoServer E) cfg E Tx Rx}
    (reached :
      (conversation (AuthEchoServer.speaker parseAuth parse) codec program cfg).Reachable c)
    (clean : ∀ e, .error e ∉ c.heard) :
    let answer := AuthEchoServer.answer parseAuth parse
      (c.wrote.map (Except.ok : Message → Except E Message))
    dataFrames c.client.taken <+: answer.filterMap Message.data? ∧
      ∀ system, c.client.phase = .running system →
        dataFrames (c.client.calls.flatMap LoggedCall.consumed) ++
            (system.received ++ system.conn.rx.queue) <+: answer.filterMap Message.data? := by
  intro answer
  have faithful := faithful reached
  have spoken : c.said <+: answer := by
    apply (faithful.answers clean).trans
    have same : AuthEchoServer.answer parseAuth parse
        (c.upstream.map (Except.ok : Message → Except E Message)) = answer :=
      AuthEchoServer.answer_of_asked (quiet reached clean).first faithful.written
    rw [← same]
    exact AuthEchoServer.answer_mono ((List.prefix_append _ _).map _)
  exact ⟨faithful.taken_first spoken, fun system running => data_in_order faithful running spoken⟩

theorem hears_answer_handshakeThenEcho :
    let M := conversation
      (AuthEchoServer.speaker AuthEchoServer.readAuth AuthEchoServer.readControl)
      Session.rawCodec (sendAndReceive "\x7b\"action\":\"auth\",\"token\":\"test-token\"\x7d")
      .single
    let c := M.follow M.init handshakeThenEcho
    let answer := AuthEchoServer.answer AuthEchoServer.readAuth AuthEchoServer.readControl
      (c.wrote.map (Except.ok : Message → Except Unit Message))
    dataFrames c.client.taken <+: answer.filterMap Message.data? ∧
      ∃ system, c.client.phase = .running system ∧
        system.received = [.text "\x7b\"Message\":\"a\"\x7d"] ∧
        dataFrames (c.client.calls.flatMap LoggedCall.consumed) ++
            (system.received ++ system.conn.rx.queue) <+: answer.filterMap Message.data? := by
  intro M c answer
  have reached : M.Reachable c := M.follow_reachable handshakeThenEcho
  have clean : ∀ e, .error e ∉ c.heard := by
    have heard : c.heard = [.ok (.text "\x7b\"action\":\"auth\",\"token\":\"test-token\"\x7d"),
        .ok (.text "\x7b\"Message\":\"a\"\x7d")] := rfl
    rw [heard]
    simp
  exact ⟨(hears_answer reached clean).1, _, rfl, by decide, (hears_answer reached clean).2 _ rfl⟩

end Conversation

end Socketeer
