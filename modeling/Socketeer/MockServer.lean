import Socketeer.Message

/-! # The echo servers

The servers that the tests connect to, cut at their awaits like the socket loop.
How a text is read as a control message is a parameter.
-/

namespace Socketeer

variable {E : Type}

/-- What a client asks of the server. -/
inductive EchoControlMessage where
  | message (payload : String)
  | sendPing
  | close
  | abort
  deriving DecidableEq, Repr

/-- Whether the request is for an echo. -/
def EchoControlMessage.isMessage : EchoControlMessage → Bool
  | .message _ => true
  | .sendPing | .close | .abort => false

/-- The points at which the server can be suspended, and how it can end. -/
inductive ServerPc (E : Type) where
  | reading
  | echoing (message : Message)
  | sendingPing
  | sendingClose
  | ponging
  | closing
  | returned (result : Except E Bool)
  | panicked

/-- What `echo_server` keeps between two awaits. -/
structure EchoServer (E : Type) where
  pc : ServerPc E
  shuttingDown : Bool

/-- The frame that the server waits to send. -/
def ServerPc.passing : ServerPc E → Option Message
  | .echoing message => some message
  | .sendingPing => some (.ping [])
  | .sendingClose => some (.close (some { code := 1000, reason := "" }))
  | .ponging => some (.pong [])
  | .reading | .closing | .returned _ | .panicked => none

/-- Whether the server has dropped its socket. -/
def ServerPc.stopped : ServerPc E → Bool
  | .returned _ | .panicked => true
  | .reading | .echoing _ | .sendingPing | .sendingClose | .ponging | .closing => false

/-- Whether the server waits to send back a message. -/
def ServerPc.isEchoing : ServerPc E → Bool
  | .echoing _ => true
  | .reading | .sendingPing | .sendingClose | .ponging | .closing | .returned _ | .panicked => false

/-- Whether the server waits for its stream. -/
def ServerPc.isReading : ServerPc E → Bool
  | .reading => true
  | .echoing _ | .sendingPing | .sendingClose | .ponging | .closing | .returned _ | .panicked =>
      false

/-- Whether the server waits for its sink. -/
def ServerPc.atSink : ServerPc E → Bool
  | .echoing _ | .sendingPing | .sendingClose | .ponging | .closing => true
  | .reading | .returned _ | .panicked => false

/-- A server that has stopped echoes nothing. -/
theorem ServerPc.isEchoing_of_stopped {pc : ServerPc E} (stopped : pc.stopped = true) :
    pc.isEchoing = false := by
  cases pc with
  | returned _ | panicked => rfl
  | reading | echoing _ | sendingPing | sendingClose | ponging | closing => cases stopped

/-- A server that writes nothing echoes nothing. -/
theorem ServerPc.isEchoing_of_passing {pc : ServerPc E} (idle : pc.passing = none) :
    pc.isEchoing = false := by
  cases pc with
  | reading | closing | returned _ | panicked => rfl
  | echoing _ | sendingPing | sendingClose | ponging => cases idle

namespace EchoServer

def create : EchoServer E where
  pc := .reading
  shuttingDown := false

/-- One turn of the loop of `echo_server`, from the item it reads up to its
operation on the sink. -/
def read (parse : String → Option EchoControlMessage) (server : EchoServer E) :
    StreamItem E → EchoServer E
  | none => { server with pc := .returned (.ok server.shuttingDown) }
  | some (.error _) => server
  | some (.ok message) =>
      match message with
      | .text text =>
          match parse text with
          | none => { server with pc := .panicked }
          | some (.message _) => { server with pc := .echoing (.text text) }
          | some .sendPing => { server with pc := .sendingPing }
          | some .close => { server with pc := .sendingClose }
          | some .abort => { server with pc := .returned (.ok true) }
      | .ping _ => { server with pc := .ponging }
      | .pong _ => server
      | .close _ =>
          if server.shuttingDown then { server with pc := .returned (.ok server.shuttingDown) }
          else { server with pc := .closing }
      | .binary _ | .frame _ => server

/-- The loop of `echo_server`, from the result of its operation on the sink. -/
def resume (server : EchoServer E) (result : Except E Unit) : EchoServer E :=
  match server.pc, result with
  | .echoing _, .ok () | .sendingPing, .ok () | .ponging, .ok () =>
      { server with pc := .reading }
  | .sendingClose, .ok () => { pc := .reading, shuttingDown := true }
  | .closing, .ok () => { server with pc := .returned (.ok server.shuttingDown) }
  | .echoing _, .error e | .sendingPing, .error e | .sendingClose, .error e =>
      { server with pc := .returned (.error e) }
  | .ponging, .error _ | .closing, .error _ => { server with pc := .panicked }
  | .reading, _ | .returned _, _ | .panicked, _ => server

/-- Once an operation on the sink is over, the server waits for no other. -/
theorem resume_passing (server : EchoServer E) (result : Except E Unit) :
    (server.resume result).pc.passing = none := by
  obtain ⟨pc, shuttingDown⟩ := server
  cases result with
  | ok value => cases pc <;> rfl
  | error e => cases pc <;> rfl

end EchoServer

/-- One turn of the loop of `msgpack_echo_server`, from the item it reads up to
its operation on the sink. It goes on from there as `echo_server` does. -/
def MsgpackEchoServer.read (parse : Bytes → Option EchoControlMessage) (server : EchoServer E) :
    StreamItem E → EchoServer E
  | none => { server with pc := .returned (.ok server.shuttingDown) }
  | some (.error _) => server
  | some (.ok message) =>
      match message with
      | .binary bytes =>
          match parse bytes with
          | none => { server with pc := .panicked }
          | some (.message _) => { server with pc := .echoing (.binary bytes) }
          | some .sendPing => { server with pc := .sendingPing }
          | some .close => { server with pc := .sendingClose }
          | some .abort => { server with pc := .returned (.ok true) }
      | .ping _ => { server with pc := .ponging }
      | .close _ =>
          if server.shuttingDown then { server with pc := .returned (.ok server.shuttingDown) }
          else { server with pc := .closing }
      | .text _ | .pong _ | .frame _ => server

/-- What `auth_echo_server` expects of the first text. -/
structure AuthMsg where
  action : String
  token : String
  deriving DecidableEq, Repr

/-- The credentials that `auth_echo_server` accepts. -/
def AuthMsg.accepted (auth : AuthMsg) : Bool :=
  auth.action = "auth" && auth.token = "test-token"

/-- The server accepts one token for one action. -/
theorem AuthMsg.accepted_iff (auth : AuthMsg) :
    auth.accepted = true ↔ auth.action = "auth" ∧ auth.token = "test-token" := by
  simp [AuthMsg.accepted]

/-- The points at which `auth_echo_server` can be suspended, and how it can end
before it goes on as `echo_server`. -/
inductive AuthEchoServer (E : Type) where
  | awaitingAuth
  | accepting
  | refusing
  | echoing (server : EchoServer E)
  | returned (result : Except E Bool)

namespace AuthEchoServer

/-- The frame that the server waits to send. -/
def passing : AuthEchoServer E → Option Message
  | .accepting => some (.text "\x7b\"status\":\"authenticated\"\x7d")
  | .refusing => some (.text "\x7b\"status\":\"error\"\x7d")
  | .echoing server => server.pc.passing
  | .awaitingAuth | .returned _ => none

/-- Whether the server waits for its stream. -/
def reads : AuthEchoServer E → Bool
  | .awaitingAuth => true
  | .echoing server => server.pc.isReading
  | .accepting | .refusing | .returned _ => false

/-- Whether the server waits for its sink. -/
def atSink : AuthEchoServer E → Bool
  | .accepting | .refusing => true
  | .echoing server => server.pc.atSink
  | .awaitingAuth | .returned _ => false

/-- `auth_echo_server`, from an item it reads up to its next await. How the first
text is read is a parameter too. -/
def read (parseAuth : String → Option AuthMsg) (parse : String → Option EchoControlMessage)
    (server : AuthEchoServer E) (item : StreamItem E) : AuthEchoServer E :=
  match server with
  | .awaitingAuth =>
      match item with
      | some (.ok (.text text)) =>
          match parseAuth text with
          | some auth => if auth.accepted then .accepting else .refusing
          | none => .echoing .create
      | _ => .echoing .create
  | .echoing server => .echoing (server.read parse item)
  | .accepting | .refusing | .returned _ => server

/-- `auth_echo_server`, from the result of its operation on the sink. The two
halves of its socket are of one socket, so they can be put together again. -/
def resume (server : AuthEchoServer E) (result : Except E Unit) : AuthEchoServer E :=
  match server, result with
  | .accepting, .ok () => .echoing .create
  | .refusing, .ok () => .returned (.ok true)
  | .accepting, .error e | .refusing, .error e => .returned (.error e)
  | .echoing server, result => .echoing (server.resume result)
  | .awaitingAuth, _ | .returned _, _ => server

end AuthEchoServer

end Socketeer
