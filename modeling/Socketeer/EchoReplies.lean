import Socketeer.AuthGate

/-! # What the echo servers reply

The frames that `echo_server` writes are its replies to what it has read, in
order, and what it returns says whether it was asked to end
(`EchoServer.replies_in_order`). It comes to an end with its stream at the latest
(`EchoServer.comes_to_an_end`). `auth_echo_server` answers the first item before it
goes on in the same way (`AuthEchoServer.answers_in_order`), and
`msgpack_echo_server` does the same for requests in binary frames
(`MsgpackEchoServer.as_text`).
-/

namespace Socketeer

open Foundation

variable {S E : Type} {parse : String → Option EchoControlMessage}

namespace EchoServer

/-- What `echo_server` writes when it has read a frame. -/
def reply (parse : String → Option EchoControlMessage) : Message → Option Message
  | .text text =>
      match parse text with
      | some (.message _) => some (.text text)
      | some .sendPing => some (.ping [])
      | some .close => some (.close (some { code := 1000, reason := "" }))
      | some .abort | none => none
  | .ping _ => some (.pong [])
  | .binary _ | .pong _ | .close _ | .frame _ => none

/-- The frame for the consumer that comes back for one that was sent. -/
def echo (parse : String → Option EchoControlMessage) (message : Message) : Option Message :=
  (reply parse message).bind Message.data?

/-- The server waits to write the reply to what it has read, unless it stops. -/
theorem read_passing (parse : String → Option EchoControlMessage)
    (server : EchoServer E) (reading : server.pc = .reading) (message : Message) :
    (server.read parse (some (.ok message))).pc.passing = reply parse message := by
  cases message with
  | text text =>
      simp only [read, reply]
      cases parse text with
      | none => rfl
      | some request => cases request <;> rfl
  | close frame =>
      simp only [read, reply]
      split <;> rfl
  | ping _ => rfl
  | binary _ | pong _ | frame _ =>
      simp only [read, reply, reading]
      rfl

/-- The server stops when a write fails, or when it has closed its sink. -/
theorem resume_stopped (server : EchoServer E) {result : Except E Unit}
    (ends : (server.pc.passing.isSome ∧ result ≠ .ok ()) ∨ server.pc = .closing) :
    (server.resume result).pc.stopped = true := by
  obtain ⟨pc, shuttingDown⟩ := server
  cases result with
  | ok value =>
      rcases ends with ⟨_, fails⟩ | closing
      · exact absurd rfl fails
      · change pc = .closing at closing
        rw [closing]
        rfl
  | error e =>
      cases pc with
      | echoing _ | sendingPing | sendingClose | ponging | closing => rfl
      | reading | returned _ | panicked =>
          rcases ends with ⟨waits, _⟩ | closing
          · cases waits
          · cases closing

/-- What `echo_server` writes for an item of its stream. -/
def replyTo (parse : String → Option EchoControlMessage) : Except E Message → Option Message
  | .ok message => reply parse message
  | .error _ => none

/-- Whether a client asks the server to close the connection or to abort it. -/
def asksToEnd (parse : String → Option EchoControlMessage) : Except E Message → Bool
  | .ok (.text text) =>
      match parse text with
      | some .close | some .abort => true
      | some (.message _) | some .sendPing | none => false
  | _ => false

/-- Whether the server knows that it is to end. -/
def leaving (server : EchoServer E) : Bool :=
  match server.pc with
  | .sendingClose => true
  | _ => server.shuttingDown

/-- What a server has written and knows, from what it has read. -/
structure Replied (parse : String → Option EchoControlMessage) (taken : List (Except E Message))
    (written : List Message) (server : EchoServer E) : Prop where
  first : written <+: taken.filterMap (replyTo parse)
  serving : server.pc.stopped = false →
    written ++ server.pc.passing.toList = taken.filterMap (replyTo parse) ∧
      server.leaving = taken.any (asksToEnd parse)
  returned : ∀ shutDown, server.pc = .returned (.ok shutDown) →
    written = taken.filterMap (replyTo parse) ∧ shutDown = taken.any (asksToEnd parse)

/-- A server that has stopped writes nothing. -/
theorem passing_of_stopped {pc : ServerPc E} (stopped : pc.stopped = true) :
    pc.passing = none := by
  cases pc with
  | returned _ | panicked => rfl
  | reading | echoing _ | sendingPing | sendingClose | ponging | closing => cases stopped

namespace Replied

variable {taken : List (Except E Message)} {written : List Message} {server : EchoServer E}

theorem create (parse : String → Option EchoControlMessage) :
    Replied parse [] [] (.create : EchoServer E) where
  first := List.prefix_refl _
  serving _ := ⟨rfl, rfl⟩
  returned _ same := nomatch same

/-- A server that waits for its stream has written all replies. -/
theorem at_stream (replied : Replied parse taken written server) (reading : server.pc = .reading) :
    written = taken.filterMap (replyTo parse) ∧
      server.shuttingDown = taken.any (asksToEnd parse) := by
  have serving := replied.serving (by rw [reading]; rfl)
  rw [leaving, reading] at serving
  exact ⟨(List.append_nil _).symm.trans serving.1, serving.2⟩

/-- A server that has read an item waits to write the reply, and knows whether it
is to end. -/
private theorem after_item (written' : written = taken.filterMap (replyTo parse))
    {item : Except E Message} {next : EchoServer E}
    (passes : next.pc.passing = replyTo parse item)
    (knows : next.pc.stopped = false →
      next.leaving = (taken.any (asksToEnd parse) || asksToEnd parse item))
    (returns : ∀ shutDown, next.pc = .returned (.ok shutDown) →
      shutDown = (taken.any (asksToEnd parse) || asksToEnd parse item)) :
    Replied parse (taken ++ [item]) written next := by
  have asked : (taken ++ [item]).any (asksToEnd parse) =
      (taken.any (asksToEnd parse) || asksToEnd parse item) := by
    simp
  have replies : (taken ++ [item]).filterMap (replyTo parse) =
      written ++ next.pc.passing.toList := by
    rw [List.filterMap_append, ← written', passes]
    cases reply : replyTo parse item <;> simp [reply]
  constructor
  · rw [replies]
    exact List.prefix_append _ _
  · intro going
    rw [replies, asked]
    exact ⟨rfl, knows going⟩
  · intro shutDown ended
    rw [replies, asked, ended]
    exact ⟨(List.append_nil _).symm, returns shutDown ended⟩

/-- An item that was read is answered next, if it is answered at all. -/
theorem read (replied : Replied parse taken written server) (reading : server.pc = .reading)
    (item : Except E Message) :
    Replied parse (taken ++ [item]) written (server.read parse (some item)) := by
  obtain ⟨all, knows⟩ := replied.at_stream reading
  obtain ⟨pc, shuttingDown⟩ := server
  change pc = .reading at reading
  subst reading
  change shuttingDown = _ at knows
  subst knows
  cases item with
  | error e =>
      apply after_item all rfl
      · exact fun _ => (Bool.or_false _).symm
      · intro shutDown ended
        cases ended
  | ok message =>
      apply after_item all (read_passing parse _ rfl message)
      · cases message with
        | text text =>
            simp only [EchoServer.read, asksToEnd]
            cases parse text with
            | none =>
                intro same
                cases same
            | some request =>
                cases request with
                | message _ | sendPing => exact fun _ => (Bool.or_false _).symm
                | close => exact fun _ => (Bool.or_true _).symm
                | abort =>
                    intro same
                    cases same
        | close frame =>
            simp only [EchoServer.read]
            split
            · intro same
              cases same
            · exact fun _ => (Bool.or_false _).symm
        | binary _ | ping _ | pong _ | frame _ => exact fun _ => (Bool.or_false _).symm
      · intro shutDown
        cases message with
        | text text =>
            simp only [EchoServer.read, asksToEnd]
            cases parse text with
            | none =>
                intro same
                cases same
            | some request =>
                cases request with
                | message _ | sendPing | close =>
                    intro same
                    cases same
                | abort =>
                    intro ended
                    cases ended
                    exact (Bool.or_true _).symm
        | close frame =>
            simp only [EchoServer.read]
            split
            · intro ended
              cases ended
              exact (Bool.or_false _).symm
            · intro same
              cases same
        | binary _ | ping _ | pong _ | frame _ =>
            intro same
            cases same

/-- At the end of its stream the server returns. -/
theorem ended (replied : Replied parse taken written server) (reading : server.pc = .reading) :
    Replied parse taken written (server.read parse none) := by
  obtain ⟨all, knows⟩ := replied.at_stream reading
  constructor
  · exact replied.first
  · exact nofun
  · intro shutDown same
    cases same
    exact ⟨all, knows⟩

/-- A write that succeeds adds its frame. -/
theorem sent (replied : Replied parse taken written server) {frame : Message}
    (passing : server.pc.passing = some frame) :
    Replied parse taken (written ++ [frame]) (server.resume (.ok ())) := by
  obtain ⟨pc, shuttingDown⟩ := server
  change pc.passing = some frame at passing
  have serving : pc.stopped = false := by
    by_contra stopped
    rw [passing_of_stopped (Bool.eq_true_of_not_eq_false stopped)] at passing
    cases passing
  obtain ⟨all, knows⟩ := replied.serving serving
  change written ++ pc.passing.toList = _ at all
  rw [passing] at all
  change written ++ [frame] = _ at all
  constructor
  · rw [all]
  · intro _
    rw [resume_passing]
    refine ⟨(List.append_nil _).trans all, ?_⟩
    rw [← knows]
    cases pc with
    | echoing _ | sendingPing | sendingClose | ponging => rfl
    | reading | closing | returned _ | panicked => cases passing
  · intro shutDown ended
    cases pc with
    | echoing _ | sendingPing | sendingClose | ponging => cases ended
    | reading | closing | returned _ | panicked => cases passing

/-- A server whose write fails has stopped, and has not returned `Ok`. -/
theorem failed (replied : Replied parse taken written server) (passing : server.pc.passing.isSome)
    (e : E) : Replied parse taken written (server.resume (.error e)) := by
  have fails : Except.error e ≠ (.ok () : Except E Unit) := by
    intro same
    cases same
  have stopped := server.resume_stopped (.inl ⟨passing, fails⟩)
  constructor
  · exact replied.first
  · intro going
    rw [stopped] at going
    cases going
  · intro shutDown ended
    obtain ⟨pc, shuttingDown⟩ := server
    cases pc with
    | echoing _ | sendingPing | sendingClose | ponging => cases ended
    | reading | closing | returned _ | panicked => cases passing

/-- A server that closes its sink was not asked to end. -/
theorem closed (replied : Replied parse taken written server) (closing : server.pc = .closing)
    (result : Except E Unit) : Replied parse taken written (server.resume result) := by
  have stopped : (server.resume result).pc.stopped = true := server.resume_stopped (.inr closing)
  obtain ⟨all, knows⟩ := replied.serving (by rw [closing]; rfl)
  constructor
  · exact replied.first
  · intro going
    rw [stopped] at going
    cases going
  · intro shutDown ended
    obtain ⟨pc, shuttingDown⟩ := server
    change pc = .closing at closing
    subst closing
    cases result with
    | error e => cases ended
    | ok value =>
        cases ended
        exact ⟨(List.append_nil _).symm.trans all, knows⟩

end Replied

section Run

variable {sent : List (Except E Message)}
  {trace : List (Exchange (EchoServer E) E × ExchangeAction E)} {final : Exchange (EchoServer E) E}

/-- The frames that `echo_server` has written. -/
def writes (trace : List (Exchange (EchoServer E) E × ExchangeAction E)) : List Message :=
  trace.filterMap (AuthEchoServer.written fun server => server.pc.passing)

/-- A server reads at one point. -/
theorem isReading_iff {pc : ServerPc E} : pc.isReading = true ↔ pc = .reading := by
  cases pc with
  | reading => exact ⟨fun _ => rfl, fun _ => rfl⟩
  | echoing _ | sendingPing | sendingClose | ponging | closing | returned _ | panicked =>
      exact ⟨nofun, nofun⟩

/-- A server at its sink sends a frame or closes. -/
theorem atSink_cases {pc : ServerPc E} (atSink : pc.atSink = true) :
    (∃ frame, pc.passing = some frame) ∨ (pc = .closing ∧ pc.passing = none) := by
  cases pc with
  | echoing _ | sendingPing | sendingClose | ponging => exact .inl ⟨_, rfl⟩
  | closing => exact .inr ⟨rfl, rfl⟩
  | reading | returned _ | panicked => cases atSink

/-- Where a run of `echo_server` stands, what it has written replies to what it has
read. -/
theorem replied
    (run : (echoServer parse sent).Run (echoServer parse sent).init trace final) :
    ∃ taken, sent = taken ++ final.inbound ∧ Replied parse taken (writes trace) final.server := by
  induction run with
  | nil => exact ⟨[], rfl, .create parse⟩
  | @snoc x y front action earlier step ih =>
      obtain ⟨taken, parts, replied⟩ := ih
      change (service parse).step x action = some y at step
      unfold writes at *
      rw [List.filterMap_append]
      cases action with
      | read =>
          simp only [Service.step, Option.ite_none_right_eq_some] at step
          obtain ⟨reads, same⟩ := step
          obtain rfl := Option.some.inj same
          have reading := isReading_iff.mp reads
          rw [List.filterMap_cons_none rfl, List.filterMap_nil, List.append_nil]
          cases inbound : x.inbound with
          | nil =>
              rw [inbound] at parts
              exact ⟨taken, parts, replied.ended reading⟩
          | cons item rest =>
              refine ⟨taken ++ [item], ?_, replied.read reading item⟩
              rw [parts, inbound, List.append_assoc]
              rfl
      | write result =>
          simp only [Service.step, Option.ite_none_right_eq_some] at step
          obtain ⟨atSink, same⟩ := step
          obtain rfl := Option.some.inj same
          refine ⟨taken, parts, ?_⟩
          rcases atSink_cases atSink with ⟨frame, passing⟩ | ⟨closing, silent⟩
          · cases result with
            | ok value =>
                have writesFrame : AuthEchoServer.written (fun server => server.pc.passing)
                    (x, ExchangeAction.write (.ok value)) = some frame := passing
                rw [List.filterMap_cons_some writesFrame]
                exact replied.sent passing
            | error e =>
                rw [List.filterMap_cons_none rfl, List.filterMap_nil, List.append_nil]
                exact replied.failed (passing ▸ rfl) e
          · have writesNothing : AuthEchoServer.written (fun server => server.pc.passing)
                (x, ExchangeAction.write result) = none := by
              cases result with
              | ok value => exact silent
              | error e => rfl
            rw [List.filterMap_cons_none writesNothing, List.filterMap_nil, List.append_nil]
            exact replied.closed closing result

/-- Whatever a client sends and whichever writes fail, the server has written the
first of the replies to what it has read, in order. While it serves, that is all
but the reply it is writing. When it returns `Ok`, it has written them all, and
what it returns says whether it was asked to end. -/
theorem replies_in_order
    (run : (echoServer parse sent).Run (echoServer parse sent).init trace final) :
    ∃ taken, sent = taken ++ final.inbound ∧
      writes trace <+: taken.filterMap (replyTo parse) ∧
      (final.server.pc.stopped = false →
        writes trace ++ final.server.pc.passing.toList = taken.filterMap (replyTo parse)) ∧
      ∀ shutDown, final.server.pc = .returned (.ok shutDown) →
        writes trace = taken.filterMap (replyTo parse) ∧
          shutDown = taken.any (asksToEnd parse) := by
  obtain ⟨taken, parts, replied⟩ := replied run
  exact ⟨taken, parts, replied.first, fun serving => (replied.serving serving).1, replied.returned⟩

/-- How many steps the server takes at most until it has dealt with what it read
last and with the end of its stream. -/
def toGo : ServerPc E → Nat
  | .echoing _ | .sendingPing | .sendingClose | .ponging => 2
  | .reading | .closing => 1
  | .returned _ | .panicked => 0

/-- An item makes for two steps at most. -/
theorem toGo_le_two (pc : ServerPc E) : toGo pc ≤ 2 := by
  cases pc with
  | reading | echoing _ | sendingPing | sendingClose | ponging | closing | returned _ | panicked =>
      simp [toGo]

/-- A write that ends takes the server nearer to the next item. -/
theorem resume_toGo (server : EchoServer E) (atSink : server.pc.atSink = true)
    (result : Except E Unit) : toGo (server.resume result).pc < toGo server.pc := by
  obtain ⟨pc, shuttingDown⟩ := server
  cases pc with
  | echoing _ | sendingPing | sendingClose | ponging | closing =>
      cases result with
      | ok _ | error _ => simp [resume, toGo]
  | reading | returned _ | panicked => cases atSink

/-- The server takes at most two steps for each item that a client sends and one
at the end, and a server that cannot take any more has returned or panicked. -/
theorem comes_to_an_end
    (run : (echoServer parse sent).Run (echoServer parse sent).init trace final) :
    trace.length ≤ 2 * sent.length + 1 ∧
      ((∀ action, (echoServer parse sent).step final action = none) →
        final.server.pc.stopped = true) := by
  constructor
  · have pays : ∀ x action y, True → (echoServer parse sent).step x action = some y →
        2 * y.inbound.length + toGo y.server.pc + 1 ≤
          2 * x.inbound.length + toGo x.server.pc + 0 := by
      intro x action y _ step
      change (service parse).step x action = some y at step
      cases action with
      | read =>
          simp only [Service.step, Option.ite_none_right_eq_some] at step
          obtain ⟨reads, same⟩ := step
          obtain rfl := Option.some.inj same
          have reading : toGo x.server.pc = 1 := by
            rw [isReading_iff.mp reads]
            rfl
          cases inbound : x.inbound with
          | nil =>
              change 0 + 1 ≤ 0 + toGo x.server.pc
              omega
          | cons item rest =>
              have bound := toGo_le_two (x.server.read parse (some item)).pc
              change 2 * rest.length + toGo (x.server.read parse (some item)).pc + 1 ≤
                2 * (rest.length + 1) + toGo x.server.pc
              omega
      | write result =>
          simp only [Service.step, Option.ite_none_right_eq_some] at step
          obtain ⟨atSink, same⟩ := step
          obtain rfl := Option.some.inj same
          have less := x.server.resume_toGo atSink result
          change 2 * x.inbound.length + toGo (x.server.resume result).pc + 1 ≤ _
          omega
    have bound := run.amortized trivial (fun _ _ _ (_ : True) _ => trivial)
      (fun x => 2 * x.inbound.length + toGo x.server.pc) (fun _ => 1) (fun _ => 0) pays
    have count : (trace.map fun _ => 1).sum = trace.length := by simp
    have none : (trace.map fun _ => 0).sum = 0 := by simp
    rw [count, none] at bound
    change _ ≤ 2 * sent.length + 1 at bound
    omega
  · intro still
    by_contra serving
    cases pc : final.server.pc with
    | returned _ | panicked =>
        rw [pc] at serving
        exact serving rfl
    | reading =>
        have reads : (service parse).reads final.server = true := isReading_iff.mpr pc
        have stuck : (service parse).step final .read = none := still .read
        rw [Service.step, if_pos reads] at stuck
        cases stuck
    | echoing _ | sendingPing | sendingClose | ponging | closing =>
        have writes : (service parse).writes final.server = true := by
          change final.server.pc.atSink = true
          rw [pc]
          rfl
        have stuck : (service parse).step final (.write (.ok ())) = none := still (.write (.ok ()))
        rw [Service.step, if_pos writes] at stuck
        cases stuck

end Run

/-- A client sends the message of the tests and a Close frame. -/
def messageThenClose : List (Except Unit Message) :=
  [.ok (.text "\x7b\"Message\":\"a\"\x7d"), .ok (.close none)]

/-- The server echoes the message and closes its sink. -/
def echoThenClose : List (ExchangeAction Unit) :=
  [.read, .write (.ok ()), .read, .write (.ok ())]

theorem replies_in_order_echoThenClose :
    let M := echoServer AuthEchoServer.readControl messageThenClose
    let final := M.follow M.init echoThenClose
    let replies := List.filterMap (replyTo AuthEchoServer.readControl)
    let written := writes (M.steps M.init echoThenClose)
    written = [.text "\x7b\"Message\":\"a\"\x7d"] ∧
      ∃ taken, messageThenClose = taken ++ final.inbound ∧ written <+: replies taken ∧
        (final.server.pc.stopped = false →
          written ++ final.server.pc.passing.toList = replies taken) ∧
        ∀ shutDown, final.server.pc = .returned (.ok shutDown) → written = replies taken ∧
          shutDown = taken.any (asksToEnd AuthEchoServer.readControl) := by
  intro M final replies written
  exact ⟨by decide, replies_in_order (M.run_steps M.init echoThenClose)⟩

theorem comes_to_an_end_echoThenClose :
    let M := echoServer AuthEchoServer.readControl messageThenClose
    let final := M.follow M.init echoThenClose
    (M.steps M.init echoThenClose).length ≤ 5 ∧
      ((∀ action, M.step final action = none) → final.server.pc.stopped = true) := by
  intro M final
  exact comes_to_an_end (M.run_steps M.init echoThenClose)

end EchoServer

namespace AuthEchoServer

variable {parseAuth : String → Option AuthMsg} {sent : List (Except E Message)}

/-- What `auth_echo_server` writes when it has read the items. -/
def answer (parseAuth : String → Option AuthMsg) (parse : String → Option EchoControlMessage) :
    List (Except E Message) → List Message
  | [] => []
  | item :: rest =>
      match item with
      | .ok (.text text) =>
          match parseAuth text with
          | some auth =>
              if auth.action = "auth" ∧ auth.token = "test-token" then
                .text "\x7b\"status\":\"authenticated\"\x7d" ::
                  rest.filterMap (EchoServer.replyTo parse)
              else [.text "\x7b\"status\":\"error\"\x7d"]
          | none => rest.filterMap (EchoServer.replyTo parse)
      | _ => rest.filterMap (EchoServer.replyTo parse)

/-- Whether a client begins with an attempt to authenticate that is refused. -/
def refuses (parseAuth : String → Option AuthMsg) (items : List (Except E Message)) : Bool :=
  (firstAuth parseAuth items).any fun auth =>
    !(auth.action = "auth" && auth.token = "test-token")

/-- Whether the server has ended. -/
def stopped : AuthEchoServer E → Bool
  | .returned _ => true
  | .echoing server => server.pc.stopped
  | .awaitingAuth | .accepting | .refusing => false

/-- The value that the server has returned in `Ok`. -/
def value? : AuthEchoServer E → Option Bool
  | .returned (.ok shutDown) => some shutDown
  | .echoing server =>
      match server.pc with
      | .returned (.ok shutDown) => some shutDown
      | _ => none
  | .returned (.error _) | .awaitingAuth | .accepting | .refusing => none

/-- What follows a text that reads as an attempt: its status, and the replies once
the attempt is accepted. -/
theorem answer_of_attempt (parse : String → Option EchoControlMessage)
    {items : List (Except E Message)} {auth : AuthMsg}
    (attempt : firstAuth parseAuth items = some auth) :
    answer parseAuth parse items =
      if auth.accepted then
        .text "\x7b\"status\":\"authenticated\"\x7d" ::
          items.tail.filterMap (EchoServer.replyTo parse)
      else [.text "\x7b\"status\":\"error\"\x7d"] := by
  match items with
  | .ok (.text text) :: rest =>
      have known : parseAuth text = some auth := attempt
      simp only [answer, known, auth.accepted_iff]
      rfl
  | [] | .error _ :: _ | .ok (.binary _) :: _ | .ok (.ping _) :: _ | .ok (.pong _) :: _
  | .ok (.close _) :: _ | .ok (.frame _) :: _ => cases attempt

/-- A first item that is no attempt gets no answer, and what comes after it gets the
replies. -/
theorem answer_of_no_attempt (parse : String → Option EchoControlMessage)
    {items : List (Except E Message)}
    (noAttempt : firstAuth parseAuth items = none) :
    answer parseAuth parse items = items.tail.filterMap (EchoServer.replyTo parse) := by
  match items with
  | .ok (.text text) :: rest =>
      have unknown : parseAuth text = none := noAttempt
      simp only [answer, unknown]
      rfl
  | [] | .error _ :: _ | .ok (.binary _) :: _ | .ok (.ping _) :: _ | .ok (.pong _) :: _
  | .ok (.close _) :: _ | .ok (.frame _) :: _ => rfl

/-- An attempt is refused unless it is accepted. -/
theorem refuses_of_attempt {items : List (Except E Message)} {auth : AuthMsg}
    (attempt : firstAuth parseAuth items = some auth) :
    refuses parseAuth items = !auth.accepted := by
  rw [refuses, attempt]
  rfl

/-- Whoever makes no attempt is not refused. -/
theorem refuses_of_no_attempt {items : List (Except E Message)}
    (noAttempt : firstAuth parseAuth items = none) : refuses parseAuth items = false := by
  rw [refuses, noAttempt]
  rfl

/-- What the server has read, once it has taken the first item. -/
private theorem taken_cons (parseAuth : String → Option AuthMsg)
    {later inbound : List (Except E Message)}
    (parts : sent.tail = later ++ inbound) :
    sent = sent.take 1 ++ later ++ inbound ∧
      firstAuth parseAuth (sent.take 1 ++ later) = firstAuth parseAuth sent ∧
      (sent.take 1 ++ later).tail = later := by
  cases sent with
  | nil =>
      obtain ⟨rfl, rfl⟩ := List.append_eq_nil_iff.mp parts.symm
      exact ⟨rfl, rfl, rfl⟩
  | cons first rest =>
      obtain rfl := parts
      refine ⟨rfl, ?_, rfl⟩
      match first with
      | .ok (.text _) => rfl
      | .error _ | .ok (.binary _) | .ok (.ping _) | .ok (.pong _) | .ok (.close _)
      | .ok (.frame _) => rfl

/-- What is written after the first item is what the echo server writes. -/
theorem written_echoing (trace : List (Exchange (EchoServer E) E × ExchangeAction E)) :
    (trace.map (Prod.map Exchange.within id)).filterMap (written passing) =
      EchoServer.writes trace := by
  rw [List.filterMap_map, written_within]
  rfl

/-- What a server has written and knows, from what it has read. -/
structure Answered (parseAuth : String → Option AuthMsg)
    (parse : String → Option EchoControlMessage) (taken : List (Except E Message))
    (written : List Message) (server : AuthEchoServer E) : Prop where
  first : written <+: answer parseAuth parse taken
  serving : server.stopped = false →
    written ++ server.passing.toList = answer parseAuth parse taken
  returned : ∀ shutDown, server.value? = some shutDown →
    written = answer parseAuth parse taken ∧
      shutDown = (refuses parseAuth taken || taken.tail.any (EchoServer.asksToEnd parse))

/-- Where the server goes on as the echo server, its answer is what it has written
before and the replies. -/
theorem Answered.echoing {taken : List (Except E Message)} (before : List Message)
    {written : List Message} {server : EchoServer E}
    (replied : EchoServer.Replied parse taken.tail written server)
    (answers : answer parseAuth parse taken =
      before ++ taken.tail.filterMap (EchoServer.replyTo parse))
    (admitted : refuses parseAuth taken = false) :
    Answered parseAuth parse taken (before ++ written) (.echoing server) := by
  constructor
  · rw [answers]
    exact (List.prefix_append_right_inj _).mpr replied.first
  · intro serving
    rw [answers, ← (replied.serving serving).1, List.append_assoc]
    rfl
  · intro shutDown returned
    obtain ⟨pc, shuttingDown⟩ := server
    have ended : pc = .returned (.ok shutDown) := by
      simp only [value?] at returned
      split at returned
      · rw [Option.some.inj returned]
      · cases returned
    obtain ⟨all, knows⟩ := replied.returned shutDown ended
    rw [answers, admitted, all]
    exact ⟨rfl, knows⟩

/-- Where a run of the server stands, what it has written answers what it has read. -/
theorem answered {trace : List (Exchange (AuthEchoServer E) E × ExchangeAction E)}
    {final : Exchange (AuthEchoServer E) E}
    (run : (authEchoServer parseAuth parse sent).Run
      (authEchoServer parseAuth parse sent).init trace final) :
    ∃ taken, sent = taken ++ final.inbound ∧
      Answered parseAuth parse taken (trace.filterMap (written passing)) final.server := by
  -- the server has read the first item, and what it has read later as the echo server
  have front {later : List (Except E Message)} {inbound : List (Except E Message)}
      (parts : sent.tail = later ++ inbound) := taken_cons parseAuth parts
  have nothing : sent.tail = [] ++ sent.tail := rfl
  cases course run with
  | awaiting => exact ⟨[], rfl, List.prefix_refl _, fun _ => rfl, nofun⟩
  | @accepting auth attempt accepted =>
      obtain ⟨parts, first, tail⟩ := front nothing
      have answers := answer_of_attempt parse (first.trans attempt)
      rw [accepted, tail] at answers
      exact ⟨_, parts, List.nil_prefix, fun _ => answers.symm, nofun⟩
  | @refusing auth attempt refused =>
      obtain ⟨parts, first, _⟩ := front nothing
      have answers := answer_of_attempt parse (first.trans attempt)
      rw [refused] at answers
      exact ⟨_, parts, List.nil_prefix, fun _ => answers.symm, nofun⟩
  | failed => exact ⟨_, (front nothing).1, List.nil_prefix, nofun, nofun⟩
  | @refused auth result attempt refused =>
      obtain ⟨parts, first, _⟩ := front nothing
      have answers := answer_of_attempt parse (first.trans attempt)
      have refuses := refuses_of_attempt (first.trans attempt)
      rw [refused] at answers refuses
      cases result with
      | error _ => exact ⟨_, parts, List.nil_prefix, nofun, nofun⟩
      | ok _ =>
          refine ⟨_, parts, answers ▸ List.prefix_refl _, nofun, ?_⟩
          intro shutDown same
          obtain rfl := Option.some.inj same
          exact ⟨answers.symm, by rw [refuses]; rfl⟩
  | @accepted auth steps x attempt accepted echoes =>
      obtain ⟨later, between, replied⟩ := EchoServer.replied echoes
      obtain ⟨parts, first, tail⟩ := front between
      have answers := answer_of_attempt parse (first.trans attempt)
      have admitted := refuses_of_attempt (first.trans attempt)
      rw [accepted] at answers admitted
      rw [← tail] at replied
      have wrote := Answered.echoing [_] replied answers admitted
      rw [← written_echoing] at wrote
      exact ⟨_, parts, wrote⟩
  | @passed steps x noAttempt echoes =>
      obtain ⟨later, between, replied⟩ := EchoServer.replied echoes
      obtain ⟨parts, first, tail⟩ := front between
      have answers := answer_of_no_attempt parse (first.trans noAttempt)
      have admitted := refuses_of_no_attempt (first.trans noAttempt)
      rw [← tail] at replied
      have wrote := Answered.echoing [] replied answers admitted
      rw [← written_echoing] at wrote
      exact ⟨_, parts, wrote⟩

/-- Whatever a client sends and whichever writes fail, the server has written the
first of its answer to what it has read, in order. While it goes on, that is all
but the frame that it is writing. When it returns `Ok`, it has written all of it,
and what it returns says whether it refused the client or was asked to end. -/
theorem answers_in_order {trace : List (Exchange (AuthEchoServer E) E × ExchangeAction E)}
    {final : Exchange (AuthEchoServer E) E}
    (run : (authEchoServer parseAuth parse sent).Run
      (authEchoServer parseAuth parse sent).init trace final) :
    ∃ taken, sent = taken ++ final.inbound ∧
      trace.filterMap (written passing) <+: answer parseAuth parse taken ∧
      (final.server.stopped = false →
        trace.filterMap (written passing) ++ final.server.passing.toList =
          answer parseAuth parse taken) ∧
      ∀ shutDown, final.server.value? = some shutDown →
        trace.filterMap (written passing) = answer parseAuth parse taken ∧
          shutDown = (refuses parseAuth taken ||
            taken.tail.any (EchoServer.asksToEnd parse)) := by
  obtain ⟨taken, parts, answered⟩ := answered run
  exact ⟨taken, parts, answered.first, answered.serving, answered.returned⟩

/-- A client that begins with credentials that the server does not know. -/
def guessFirst : List (Except Unit Message) :=
  [.ok (.text "guess"), .ok (.text "\x7b\"Message\":\"a\"\x7d")]

/-- It is told so, and its message is not read. -/
theorem answers_in_order_guessFirst :
    let readGuess := fun _ => some { action := "auth", token := "guess" }
    let M := authEchoServer readGuess readControl guessFirst
    let actions := [.read, .write (.ok ())]
    (M.follow M.init actions).inbound = [.ok (.text "\x7b\"Message\":\"a\"\x7d")] ∧
      (M.follow M.init actions).server.value? = some true ∧
      (M.steps M.init actions).filterMap (written passing) =
        [.text "\x7b\"status\":\"error\"\x7d"] := by
  intro readGuess M actions
  obtain ⟨taken, parts, _, _, returned⟩ := answers_in_order (M.run_steps M.init actions)
  have left : (M.follow M.init actions).inbound =
      [.ok (.text "\x7b\"Message\":\"a\"\x7d")] := rfl
  have ended : (M.follow M.init actions).server.value? = some true := rfl
  rw [left] at parts
  have front : guessFirst = [.ok (.text "guess")] ++
      [.ok (.text "\x7b\"Message\":\"a\"\x7d")] := rfl
  obtain rfl := List.append_cancel_right (front.symm.trans parts)
  exact ⟨left, ended, (returned true ended).1⟩

end AuthEchoServer

/-- `msgpack_echo_server` as a service. -/
def MsgpackEchoServer.service (parse : Bytes → Option EchoControlMessage) :
    Service (EchoServer E) E where
  create := .create
  reads server := server.pc.isReading
  writes server := server.pc.atSink
  read := MsgpackEchoServer.read parse
  resume := EchoServer.resume

/-- Every run of `msgpack_echo_server` on what a client sends. -/
def msgpackEchoServer (parse : Bytes → Option EchoControlMessage)
    (sent : List (Except E Message)) : Machine (Exchange (EchoServer E) E) (ExchangeAction E) :=
  (MsgpackEchoServer.service parse).facing sent

namespace MsgpackEchoServer

/-- A frame of the one server as a frame of the other: requests are in binary
frames for this one and in texts for that one, and each ignores what the other
reads. -/
def inText (conv : Bytes → String) : Message → Message
  | .binary bytes => .text (conv bytes)
  | .text _ => .binary []
  | .ping payload => .ping payload
  | .pong payload => .pong payload
  | .close frame => .close frame
  | .frame raw => .frame raw

def pcInText (conv : Bytes → String) : ServerPc E → ServerPc E
  | .echoing message => .echoing (inText conv message)
  | .reading => .reading
  | .sendingPing => .sendingPing
  | .sendingClose => .sendingClose
  | .ponging => .ponging
  | .closing => .closing
  | .returned result => .returned result
  | .panicked => .panicked

def serverInText (conv : Bytes → String) (server : EchoServer E) : EchoServer E :=
  { server with pc := pcInText conv server.pc }

def exchangeInText (conv : Bytes → String) (x : Exchange (EchoServer E) E) :
    Exchange (EchoServer E) E where
  server := serverInText conv x.server
  inbound := x.inbound.map (Except.map (inText conv))

section

variable {conv : Bytes → String} {parseBytes : Bytes → Option EchoControlMessage}

theorem passing_inText (pc : ServerPc E) :
    (pcInText conv pc).passing = pc.passing.map (inText conv) := by
  cases pc <;> rfl

theorem isReading_inText (pc : ServerPc E) : (pcInText conv pc).isReading = pc.isReading := by
  cases pc <;> rfl

theorem atSink_inText (pc : ServerPc E) : (pcInText conv pc).atSink = pc.atSink := by
  cases pc <;> rfl

/-- The two servers read alike, if they read requests alike. -/
theorem read_inText (agrees : ∀ bytes, parse (conv bytes) = parseBytes bytes)
    (server : EchoServer E) (item : StreamItem E) :
    serverInText conv (read parseBytes server item) =
      (serverInText conv server).read parse (item.map (Except.map (inText conv))) := by
  cases item with
  | none => rfl
  | some item =>
      cases item with
      | error e => rfl
      | ok message =>
          cases message with
          | binary bytes =>
              simp only [read, Option.map_some, Except.map, inText, EchoServer.read, agrees]
              cases parseBytes bytes with
              | none => rfl
              | some request => cases request <;> rfl
          | close frame =>
              simp only [read, Option.map_some, Except.map, inText, EchoServer.read]
              change _ = if server.shuttingDown = true then _ else _
              split <;> rfl
          | text _ | ping _ | pong _ | frame _ => rfl

theorem resume_inText (server : EchoServer E) (result : Except E Unit) :
    serverInText conv (server.resume result) = (serverInText conv server).resume result := by
  obtain ⟨pc, shuttingDown⟩ := server
  cases result with
  | ok value => cases pc <;> rfl
  | error e => cases pc <;> rfl

/-- A step of the one server is a step of the other. -/
theorem step_inText (agrees : ∀ bytes, parse (conv bytes) = parseBytes bytes)
    {x y : Exchange (EchoServer E) E} {action : ExchangeAction E}
    (step : (service parseBytes).step x action = some y) :
    (EchoServer.service parse).step (exchangeInText conv x) action =
      some (exchangeInText conv y) := by
  cases action with
  | read =>
      simp only [Service.step, Option.ite_none_right_eq_some] at step ⊢
      obtain ⟨reads, same⟩ := step
      obtain rfl := Option.some.inj same
      refine ⟨(isReading_inText _).trans reads, congrArg some ?_⟩
      have read := read_inText agrees x.server x.inbound.head?
      rw [← List.head?_map] at read
      unfold exchangeInText
      rw [List.map_tail]
      exact congrArg (Exchange.mk · _) read.symm
  | write result =>
      simp only [Service.step, Option.ite_none_right_eq_some] at step ⊢
      obtain ⟨atSink, same⟩ := step
      obtain rfl := Option.some.inj same
      refine ⟨(atSink_inText _).trans atSink, congrArg some ?_⟩
      exact congrArg (Exchange.mk · _) (resume_inText x.server result).symm

/-- `msgpack_echo_server` behaves like `echo_server` for the control messages in
its frames: a run of the one is a run of the other with texts for the binary
frames, and they write the same, with texts for the binary frames. -/
theorem as_text (agrees : ∀ bytes, parse (conv bytes) = parseBytes bytes)
    {sent : List (Except E Message)}
    {trace : List (Exchange (EchoServer E) E × ExchangeAction E)}
    {final : Exchange (EchoServer E) E}
    (run : (msgpackEchoServer parseBytes sent).Run (msgpackEchoServer parseBytes sent).init
      trace final) :
    let texts := sent.map (Except.map (inText conv))
    (echoServer parse texts).Run (echoServer parse texts).init
        (trace.map (Prod.map (exchangeInText conv) id)) (exchangeInText conv final) ∧
      EchoServer.writes (trace.map (Prod.map (exchangeInText conv) id)) =
        (EchoServer.writes trace).map (inText conv) := by
  intro texts
  have carries {x y : Exchange (EchoServer E) E} {action : ExchangeAction E}
      (step : (msgpackEchoServer parseBytes sent).step x action = some y) :
      (echoServer parse texts).step (exchangeInText conv x) action =
        some (exchangeInText conv y) := step_inText agrees step
  refine ⟨run.map carries, ?_⟩
  unfold EchoServer.writes
  rw [List.filterMap_map, List.map_filterMap]
  refine List.filterMap_congr fun entry _ => ?_
  obtain ⟨x, action⟩ := entry
  cases action with
  | read => rfl
  | write result =>
      cases result with
      | ok value => exact passing_inText x.server.pc
      | error e => rfl

end

/-- A conversion that knows one message. -/
def oneText (bytes : Bytes) : String :=
  if bytes = [1] then "\x7b\"Message\":\"a\"\x7d" else ""

theorem as_text_oneText :
    let parse := AuthEchoServer.readControl
    let M := msgpackEchoServer (E := Unit) (fun bytes => parse (oneText bytes)) [.ok (.binary [1])]
    let actions : List (ExchangeAction Unit) := [.read, .write (.ok ())]
    let texts := [Except.ok (.binary [1])].map (Except.map (inText oneText))
    EchoServer.writes (M.steps M.init actions) = [.binary [1]] ∧
      (echoServer parse texts).Run (echoServer parse texts).init
          ((M.steps M.init actions).map (Prod.map (exchangeInText oneText) id))
          (exchangeInText oneText (M.follow M.init actions)) ∧
        EchoServer.writes ((M.steps M.init actions).map (Prod.map (exchangeInText oneText) id)) =
          (EchoServer.writes (M.steps M.init actions)).map (inText oneText) := by
  intro parse M actions texts
  exact ⟨by decide, as_text (fun _ => rfl) (M.run_steps M.init actions)⟩

end MsgpackEchoServer

end Socketeer
