import Socketeer.Foundation.Machine
import Socketeer.MockServer

/-! # The gate of the authenticating echo server

The servers against all that a client sends. `auth_echo_server` goes on as
`echo_server` does, on what is left of the stream
(`AuthEchoServer.course`), once its first item has passed, and an item that is
no attempt to authenticate passes too.
-/

namespace Socketeer

open Foundation

variable {S E : Type}

/-- What a server does at the points where it awaits its stream or its sink. -/
structure Service (S E : Type) where
  create : S
  reads : S → Bool
  writes : S → Bool
  read : S → StreamItem E → S
  resume : S → Except E Unit → S

/-- A server with what its stream has still to hand out before it ends. -/
structure Exchange (S E : Type) where
  server : S
  inbound : List (Except E Message)

inductive ExchangeAction (E : Type) where
  | read
  | write (result : Except E Unit)

namespace Service

def step (service : Service S E) (x : Exchange S E) : ExchangeAction E → Option (Exchange S E)
  | .read =>
      if service.reads x.server then
        some { server := service.read x.server x.inbound.head?, inbound := x.inbound.tail }
      else none
  | .write result =>
      if service.writes x.server then some { x with server := service.resume x.server result }
      else none

/-- Every run of a server on what a client sends, with every outcome of its
writes. -/
def facing (service : Service S E) (sent : List (Except E Message)) :
    Machine (Exchange S E) (ExchangeAction E) where
  init := { server := service.create, inbound := sent }
  step := service.step

end Service

/-- `echo_server` as a service. -/
def EchoServer.service (parse : String → Option EchoControlMessage) : Service (EchoServer E) E where
  create := .create
  reads server := server.pc.isReading
  writes server := server.pc.atSink
  read := EchoServer.read parse
  resume := EchoServer.resume

/-- `auth_echo_server` as a service. -/
def AuthEchoServer.service (parseAuth : String → Option AuthMsg)
    (parse : String → Option EchoControlMessage) : Service (AuthEchoServer E) E where
  create := .awaitingAuth
  reads := AuthEchoServer.reads
  writes := AuthEchoServer.atSink
  read := AuthEchoServer.read parseAuth parse
  resume := AuthEchoServer.resume

/-- Every run of `echo_server` on what a client sends. -/
def echoServer (parse : String → Option EchoControlMessage) (sent : List (Except E Message)) :
    Machine (Exchange (EchoServer E) E) (ExchangeAction E) :=
  (EchoServer.service parse).facing sent

/-- Every run of `auth_echo_server` on what a client sends. -/
def authEchoServer (parseAuth : String → Option AuthMsg)
    (parse : String → Option EchoControlMessage) (sent : List (Except E Message)) :
    Machine (Exchange (AuthEchoServer E) E) (ExchangeAction E) :=
  (AuthEchoServer.service parseAuth parse).facing sent

/-- Whether `echo_server` acts on a control message or completes an echo in the
step. -/
def Exchange.serves (parse : String → Option EchoControlMessage)
    (x : Exchange (EchoServer E) E) : ExchangeAction E → Bool
  | .read =>
      match x.server.pc, x.inbound with
      | .reading, .ok (.text text) :: _ => (parse text).isSome
      | _, _ => false
  | .write result =>
      match x.server.pc, result with
      | .echoing _, .ok () => true
      | _, _ => false

/-- Whether `echo_server` acts on the item, panics at it or ends at it. -/
def decides : Except E Message → Bool
  | .ok (.text _) | .ok (.close _) => true
  | _ => false

def request (parse : String → Option EchoControlMessage) :
    Except E Message → Option EchoControlMessage
  | .ok (.text text) => parse text
  | _ => none

/-- The control message that `echo_server` acts on first. -/
def firstRequest (parse : String → Option EchoControlMessage) (sent : List (Except E Message)) :
    Option EchoControlMessage :=
  (sent.find? decides).bind (request parse)

section Echo

variable {parse : String → Option EchoControlMessage}

/-- Nothing that is left of the stream makes the server serve. -/
def Unasked (parse : String → Option EchoControlMessage) (x : Exchange (EchoServer E) E) : Prop :=
  match x.server.pc with
  | .reading | .ponging => firstRequest parse x.inbound = none
  | .closing | .returned _ | .panicked => True
  | .echoing _ | .sendingPing | .sendingClose => False

/-- An item that decides nothing is passed by. -/
theorem firstRequest_cons_of_not_decides {item : Except E Message} {rest : List (Except E Message)}
    (other : decides item = false) :
    firstRequest parse (item :: rest) = firstRequest parse rest := by
  rw [firstRequest, List.find?_cons_of_neg (by rw [other]; exact Bool.false_ne_true), firstRequest]

/-- The first item that decides something is the one that counts. -/
theorem firstRequest_cons_of_decides {item : Except E Message} {rest : List (Except E Message)}
    (here : decides item = true) : firstRequest parse (item :: rest) = request parse item := by
  rw [firstRequest, List.find?_cons_of_pos here, Option.bind_some]

/-- A server that is not asked serves in no step and is not asked after it. -/
theorem Unasked.step {x y : Exchange (EchoServer E) E} {action : ExchangeAction E}
    (unasked : Unasked parse x) (step : (EchoServer.service parse).step x action = some y) :
    x.serves parse action = false ∧ Unasked parse y := by
  obtain ⟨⟨pc, shuttingDown⟩, inbound⟩ := x
  cases action with
  | read =>
      simp only [Service.step, Option.ite_none_right_eq_some] at step
      obtain ⟨reads, same⟩ := step
      obtain rfl := Option.some.inj same
      cases pc with
      | reading =>
          cases inbound with
          | nil => exact ⟨rfl, trivial⟩
          | cons item rest =>
              change firstRequest parse (item :: rest) = none at unasked
              match item with
              | .error _ | .ok (.binary _) | .ok (.ping _) | .ok (.pong _) | .ok (.frame _) =>
                  rw [firstRequest_cons_of_not_decides rfl] at unasked
                  exact ⟨rfl, unasked⟩
              | .ok (.text text) =>
                  rw [firstRequest_cons_of_decides rfl] at unasked
                  change parse text = none at unasked
                  constructor
                  · change (parse text).isSome = false
                    rw [unasked]
                    rfl
                  · simp only [Unasked, EchoServer.service, EchoServer.read, List.head?_cons,
                      unasked]
              | .ok (.close _) =>
                  cases shuttingDown with
                  | true | false => exact ⟨rfl, trivial⟩
      | echoing _ | sendingPing | sendingClose | ponging | closing | returned _ | panicked =>
          cases reads
  | write result =>
      simp only [Service.step, Option.ite_none_right_eq_some] at step
      obtain ⟨writes, same⟩ := step
      obtain rfl := Option.some.inj same
      cases pc with
      | echoing _ | sendingPing | sendingClose => exact unasked.elim
      | reading | returned _ | panicked => cases writes
      | ponging =>
          cases result with
          | ok _ => exact ⟨rfl, unasked⟩
          | error _ => exact ⟨rfl, trivial⟩
      | closing =>
          cases result with
          | ok _ | error _ => exact ⟨rfl, trivial⟩

/-- A server that is asked for nothing serves nothing. -/
theorem unasked_run {sent : List (Except E Message)}
    {trace : List (Exchange (EchoServer E) E × ExchangeAction E)}
    {final : Exchange (EchoServer E) E}
    (quiet : firstRequest parse sent = none)
    (run : (echoServer parse sent).Run (echoServer parse sent).init trace final) :
    Unasked parse final ∧ ∀ entry ∈ trace, entry.1.serves parse entry.2 = false := by
  induction run with
  | nil => exact ⟨quiet, fun _ member => nomatch member⟩
  | snoc _ step ih =>
      obtain ⟨unasked, earlier⟩ := ih
      obtain ⟨silent, later⟩ := unasked.step step
      refine ⟨later, fun entry member => ?_⟩
      rcases List.mem_append.mp member with before | here
      · exact earlier entry before
      · rw [List.mem_singleton.mp here]
        exact silent

/-- A server that waits for its stream comes past an item that decides nothing. -/
private theorem passes_item {whole rest : List (Except E Message)} {item : Except E Message}
    (other : decides item = false) :
    ∃ trace, (echoServer parse whole).Run
      { server := .create, inbound := item :: rest } trace
      { server := .create, inbound := rest } := by
  match item with
  | .error _ | .ok (.binary _) | .ok (.pong _) | .ok (.frame _) =>
      exact ⟨_, (echoServer parse whole).run_steps _ [.read]⟩
  | .ok (.ping _) =>
      exact ⟨_, (echoServer parse whole).run_steps _ [.read, .write (.ok ())]⟩
  | .ok (.text _) | .ok (.close _) => cases other

/-- It comes to act on the first request, if no write fails. -/
theorem request_served (whole : List (Except E Message)) {sent : List (Except E Message)}
    (requested : (firstRequest parse sent).isSome) :
    ∃ trace x y, (echoServer parse whole).Run
        { server := .create, inbound := sent } trace x ∧
      (echoServer parse whole).step x .read = some y ∧ x.serves parse .read = true := by
  induction sent with
  | nil => cases requested
  | cons item rest ih =>
      cases here : decides item with
      | false =>
          rw [firstRequest_cons_of_not_decides here] at requested
          obtain ⟨trace, x, y, run, step, serves⟩ := ih requested
          obtain ⟨front, before⟩ := passes_item here
          exact ⟨front ++ trace, x, y, before.append run, step, serves⟩
      | true =>
          rw [firstRequest_cons_of_decides here] at requested
          match item with
          | .ok (.text _) => exact ⟨[], _, _, .nil _, rfl, requested⟩
          | .ok (.close _) => cases requested

end Echo

/-- The authenticating server where it goes on as the echo server. -/
def Exchange.within (x : Exchange (EchoServer E) E) : Exchange (AuthEchoServer E) E where
  server := .echoing x.server
  inbound := x.inbound

/-- Whether `auth_echo_server` acts on a control message or completes an echo in
the step. -/
def Exchange.authServes (parse : String → Option EchoControlMessage)
    (x : Exchange (AuthEchoServer E) E) (action : ExchangeAction E) : Bool :=
  match x.server with
  | .echoing server => Exchange.serves parse { server := server, inbound := x.inbound } action
  | .awaitingAuth | .accepting | .refusing | .returned _ => false

/-- The attempt to authenticate that the client begins with. -/
def firstAuth (parseAuth : String → Option AuthMsg) : List (Except E Message) → Option AuthMsg
  | .ok (.text text) :: _ => parseAuth text
  | _ => none

namespace AuthEchoServer

section

variable {parseAuth : String → Option AuthMsg} {parse : String → Option EchoControlMessage}
  {sent : List (Except E Message)}

/-- What a run of the server can be: it awaits the first item, answers an attempt
to authenticate, or goes on as the echo server on what follows the first item. -/
inductive Course (parseAuth : String → Option AuthMsg)
    (parse : String → Option EchoControlMessage) (sent : List (Except E Message)) :
    List (Exchange (AuthEchoServer E) E × ExchangeAction E) → Exchange (AuthEchoServer E) E →
      Prop where
  | awaiting : Course parseAuth parse sent [] { server := .awaitingAuth, inbound := sent }
  | accepting {auth} (attempt : firstAuth parseAuth sent = some auth)
      (accepted : auth.accepted = true) :
      Course parseAuth parse sent [({ server := .awaitingAuth, inbound := sent }, .read)]
        { server := .accepting, inbound := sent.tail }
  | refusing {auth} (attempt : firstAuth parseAuth sent = some auth)
      (refused : auth.accepted = false) :
      Course parseAuth parse sent [({ server := .awaitingAuth, inbound := sent }, .read)]
        { server := .refusing, inbound := sent.tail }
  | failed {auth e} (attempt : firstAuth parseAuth sent = some auth)
      (accepted : auth.accepted = true) :
      Course parseAuth parse sent
        [({ server := .awaitingAuth, inbound := sent }, .read),
          ({ server := .accepting, inbound := sent.tail }, .write (.error e))]
        { server := .returned (.error e), inbound := sent.tail }
  | refused {auth result} (attempt : firstAuth parseAuth sent = some auth)
      (refused : auth.accepted = false) :
      Course parseAuth parse sent
        [({ server := .awaitingAuth, inbound := sent }, .read),
          ({ server := .refusing, inbound := sent.tail }, .write result)]
        { server := .returned (result.map fun _ => true), inbound := sent.tail }
  | accepted {auth trace x} (attempt : firstAuth parseAuth sent = some auth)
      (accepted : auth.accepted = true)
      (echoes : (echoServer parse sent.tail).Run (echoServer parse sent.tail).init trace x) :
      Course parseAuth parse sent
        (({ server := .awaitingAuth, inbound := sent }, .read) ::
          ({ server := .accepting, inbound := sent.tail }, .write (.ok ())) ::
            trace.map (Prod.map Exchange.within id))
        x.within
  | passed {trace x} (noAttempt : firstAuth parseAuth sent = none)
      (echoes : (echoServer parse sent.tail).Run (echoServer parse sent.tail).init trace x) :
      Course parseAuth parse sent
        (({ server := .awaitingAuth, inbound := sent }, .read) ::
          trace.map (Prod.map Exchange.within id))
        x.within

/-- Where it goes on as the echo server, it takes the steps of the echo server. -/
theorem step_within {x : Exchange (EchoServer E) E} {action : ExchangeAction E} :
    (service parseAuth parse).step x.within action =
      ((EchoServer.service parse).step x action).map Exchange.within := by
  cases action with
  | read =>
      simp only [Service.step]
      change (if x.server.pc.isReading = true then _ else _) =
        Option.map _ (if x.server.pc.isReading = true then _ else _)
      split <;> rfl
  | write result =>
      simp only [Service.step]
      change (if x.server.pc.atSink = true then _ else _) =
        Option.map _ (if x.server.pc.atSink = true then _ else _)
      split <;> rfl

/-- The first item decides whether the server answers or goes on. -/
theorem read_first :
    read parseAuth parse (.awaitingAuth : AuthEchoServer E) sent.head? =
      match firstAuth parseAuth sent with
      | some auth => if auth.accepted then .accepting else .refusing
      | none => .echoing .create := by
  match sent with
  | .ok (.text _) :: _ => rfl
  | [] | .error _ :: _ | .ok (.binary _) :: _ | .ok (.ping _) :: _ | .ok (.pong _) :: _
  | .ok (.close _) :: _ | .ok (.frame _) :: _ => rfl

/-- A run of `auth_echo_server` is at its first item, or at the one answer to it, or
goes on as `echo_server`. -/
theorem course {trace : List (Exchange (AuthEchoServer E) E × ExchangeAction E)}
    {final : Exchange (AuthEchoServer E) E}
    (run : (authEchoServer parseAuth parse sent).Run
      (authEchoServer parseAuth parse sent).init trace final) :
    Course parseAuth parse sent trace final := by
  induction run with
  | nil => exact .awaiting
  | @snoc x y front action earlier step ih =>
      change (service parseAuth parse).step x action = some y at step
      cases ih with
      | awaiting =>
          cases action with
          | write _ => cases step
          | read =>
              obtain rfl := Option.some.inj step
              change Course parseAuth parse sent _
                { server := read parseAuth parse .awaitingAuth sent.head?, inbound := sent.tail }
              rw [read_first]
              cases attempt : firstAuth parseAuth sent with
              | none => exact .passed attempt (.nil _)
              | some auth =>
                  cases accepted : auth.accepted with
                  | true =>
                      simp only [accepted, ↓reduceIte]
                      exact .accepting attempt accepted
                  | false =>
                      simp only [accepted, Bool.false_eq_true, ↓reduceIte]
                      exact .refusing attempt accepted
      | accepting attempt accepted =>
          cases action with
          | read => cases step
          | write result =>
              obtain rfl := Option.some.inj step
              cases result with
              | ok _ => exact .accepted attempt accepted (.nil _)
              | error e => exact .failed attempt accepted
      | refusing attempt rejected =>
          cases action with
          | read => cases step
          | write result =>
              obtain rfl := Option.some.inj step
              cases result with
              | ok _ | error _ => exact .refused attempt rejected
      | failed | refused =>
          cases action with
          | read | write _ => cases step
      | accepted attempt accepted echoes =>
          rw [step_within] at step
          obtain ⟨next, taken, rfl⟩ := Option.map_eq_some_iff.mp step
          have course := Course.accepted attempt accepted (echoes.snoc taken)
          rwa [List.map_append] at course
      | passed noAttempt echoes =>
          rw [step_within] at step
          obtain ⟨next, taken, rfl⟩ := Option.map_eq_some_iff.mp step
          have course := Course.passed noAttempt (echoes.snoc taken)
          rwa [List.map_append] at course

/-- The frame that a step of a server gets written. -/
def written (passing : S → Option Message) :
    Exchange S E × ExchangeAction E → Option Message
  | (x, .write (.ok ())) => passing x.server
  | _ => none

/-- What the server writes once it has become an echo server is what that one
writes. -/
theorem written_within :
    (written passing ∘ Prod.map Exchange.within id :
      Exchange (EchoServer E) E × ExchangeAction E → Option Message) =
        written fun server => server.pc.passing := by
  funext ⟨x, action⟩
  match action with
  | .read | .write (.ok ()) | .write (.error _) => rfl

/-- A server that goes on as the echo server has written its reply to the attempt
to authenticate, if there was one, and what the echo server writes in a run on
what follows the first item. -/
theorem goes_on_as_echo_server
    {trace : List (Exchange (AuthEchoServer E) E × ExchangeAction E)}
    {final : Exchange (AuthEchoServer E) E} {server : EchoServer E}
    (run : (authEchoServer parseAuth parse sent).Run
      (authEchoServer parseAuth parse sent).init trace final)
    (echoing : final.server = .echoing server) :
    ∃ rest, (echoServer parse sent.tail).Run (echoServer parse sent.tail).init rest
        { server := server, inbound := final.inbound } ∧
      trace.filterMap (written passing) =
        ((firstAuth parseAuth sent).map fun _ =>
            Message.text "\x7b\"status\":\"authenticated\"\x7d").toList ++
          rest.filterMap (written fun server => server.pc.passing) := by
  cases course run with
  | awaiting | accepting | refusing | failed | refused => cases echoing
  | accepted attempt _ echoes =>
      cases echoing
      refine ⟨_, echoes, ?_⟩
      rw [attempt, List.filterMap_cons, List.filterMap_cons, List.filterMap_map, written_within]
      rfl
  | passed noAttempt echoes =>
      cases echoing
      refine ⟨_, echoes, ?_⟩
      rw [noAttempt, List.filterMap_cons, List.filterMap_map, written_within]
      rfl

/-- A client that begins with no attempt to authenticate is served if it asks. -/
theorem passed_is_served (noAttempt : firstAuth parseAuth sent = none)
    (requested : (firstRequest parse sent.tail).isSome) :
    ∃ trace final x action, (authEchoServer parseAuth parse sent).Run
        (authEchoServer parseAuth parse sent).init trace final ∧
      (x, action) ∈ trace ∧ x.authServes parse action = true := by
  have first : (authEchoServer parseAuth parse sent).step
      (authEchoServer parseAuth parse sent).init .read =
        some (echoServer parse sent.tail).init.within := by
    change some (Exchange.mk (read parseAuth parse .awaitingAuth sent.head?) sent.tail) = _
    rw [read_first, noAttempt]
    rfl
  have carries {x y : Exchange (EchoServer E) E} {action : ExchangeAction E}
      (step : (echoServer parse sent.tail).step x action = some y) :
      (authEchoServer parseAuth parse sent).step x.within action = some y.within :=
    step_within.trans (Option.map_eq_some_iff.mpr ⟨y, step, rfl⟩)
  obtain ⟨trace, x, y, run, step, serves⟩ := request_served sent.tail requested
  have echoes := (run.map carries).snoc (carries step)
  refine ⟨_, _, x.within, .read, ((Machine.Run.nil _).snoc first).append echoes, ?_, serves⟩
  exact List.mem_append_right _ (List.mem_append_right _ (List.mem_singleton_self _))

/-- It is served only if it asks, and any other only if it is let in. -/
theorem served_cases {trace : List (Exchange (AuthEchoServer E) E × ExchangeAction E)}
    {final x : Exchange (AuthEchoServer E) E} {action : ExchangeAction E}
    (run : (authEchoServer parseAuth parse sent).Run
      (authEchoServer parseAuth parse sent).init trace final)
    (member : (x, action) ∈ trace) (serves : x.authServes parse action = true) :
    (firstAuth parseAuth sent).any AuthMsg.accepted = true ∨
      (firstAuth parseAuth sent = none ∧ (firstRequest parse sent.tail).isSome) := by
  cases course run with
  | awaiting => cases member
  | accepting attempt accepted | failed attempt accepted | accepted attempt accepted =>
      left
      rw [attempt]
      exact accepted
  | refusing =>
      obtain ⟨rfl, rfl⟩ := Prod.mk.inj (List.mem_singleton.mp member)
      cases serves
  | refused =>
      rcases List.mem_cons.mp member with first | last
      · obtain ⟨rfl, rfl⟩ := Prod.mk.inj first
        cases serves
      · obtain ⟨rfl, rfl⟩ := Prod.mk.inj (List.mem_singleton.mp last)
        cases serves
  | passed noAttempt echoes =>
      refine .inr ⟨noAttempt, Option.isSome_iff_ne_none.mpr fun quiet => ?_⟩
      rcases List.mem_cons.mp member with first | inside
      · obtain ⟨rfl, rfl⟩ := Prod.mk.inj first
        cases serves
      · obtain ⟨⟨before, _⟩, entry, same⟩ := List.mem_map.mp inside
        obtain ⟨rfl, rfl⟩ := Prod.mk.inj same
        have silent := (unasked_run quiet echoes).2 _ entry
        exact absurd (silent.symm.trans serves) Bool.false_ne_true

/-- The client's first item is an attempt to authenticate, or no request comes
before every other text and every close among the later ones. -/
def Gated (parseAuth : String → Option AuthMsg) (parse : String → Option EchoControlMessage)
    (sent : List (Except E Message)) : Prop :=
  (firstAuth parseAuth sent).isSome ∨ firstRequest parse sent.tail = none

/-- Whatever a client sends, the server acts on its control messages and echoes
its messages in no run but after it has authenticated, if and only if its first
item is an attempt to authenticate or nothing it sends after that is served. -/
theorem serves_authenticated_iff (parseAuth : String → Option AuthMsg)
    (parse : String → Option EchoControlMessage) (sent : List (Except E Message)) :
    (∀ trace final, (authEchoServer parseAuth parse sent).Run
        (authEchoServer parseAuth parse sent).init trace final →
      ∀ x action, (x, action) ∈ trace → x.authServes parse action = true →
        ∃ auth ∈ firstAuth parseAuth sent, auth.action = "auth" ∧ auth.token = "test-token") ↔
      Gated parseAuth parse sent := by
  constructor
  · intro authenticated
    by_contra ungated
    obtain ⟨attempt, requested⟩ := not_or.mp ungated
    have noAttempt := Option.not_isSome_iff_eq_none.mp attempt
    obtain ⟨trace, final, x, action, run, member, serves⟩ :=
      passed_is_served noAttempt (Option.isSome_iff_ne_none.mpr requested)
    obtain ⟨auth, entered, _⟩ := authenticated trace final run x action member serves
    rw [noAttempt] at entered
    cases entered
  · intro gated trace final run x action member serves
    rcases served_cases run member serves with accepted | ⟨noAttempt, requested⟩
    · obtain ⟨auth, attempt, accepted⟩ := (Option.any_eq_true ..).mp accepted
      exact ⟨auth, attempt, auth.accepted_iff.mp accepted⟩
    · rcases gated with attempt | quiet
      · rw [noAttempt] at attempt
        cases attempt
      · rw [quiet] at requested
        cases requested

end

/-- `serde_json`, on the credentials of the tests. -/
def readAuth (text : String) : Option AuthMsg :=
  if text = "\x7b\"action\":\"auth\",\"token\":\"test-token\"\x7d" then
    some { action := "auth", token := "test-token" }
  else none

/-- `serde_json`, on one message of the tests. -/
def readControl (text : String) : Option EchoControlMessage :=
  if text = "\x7b\"Message\":\"a\"\x7d" then some (.message "a") else none

/-- A client that authenticates and then sends a message to echo. -/
def loginFirst : List (Except Unit Message) :=
  [.ok (.text "\x7b\"action\":\"auth\",\"token\":\"test-token\"\x7d"),
    .ok (.text "\x7b\"Message\":\"a\"\x7d")]

theorem goes_on_as_echo_server_loginFirst :
    let M := authEchoServer readAuth readControl loginFirst
    let actions := [.read, .write (.ok ()), .read, .write (.ok ())]
    ∃ rest server, (echoServer readControl loginFirst.tail).Run
        (echoServer readControl loginFirst.tail).init rest server ∧
      (M.steps M.init actions).filterMap (written passing) =
        .text "\x7b\"status\":\"authenticated\"\x7d" ::
          rest.filterMap (written fun server => server.pc.passing) := by
  intro M actions
  obtain ⟨rest, echoes, wrote⟩ := goes_on_as_echo_server (M.run_steps M.init actions) rfl
  exact ⟨rest, _, echoes, wrote⟩

/-- A client that sends a binary frame and then a message to echo. -/
def binaryFirst : List (Except Unit Message) :=
  [.ok (.binary [1]), .ok (.text "\x7b\"Message\":\"a\"\x7d")]

/-- It gets its message back. -/
theorem unauthenticated_echo :
    ¬ ∀ (sent : List (Except Unit Message)) trace final,
      (authEchoServer readAuth readControl sent).Run
        (authEchoServer readAuth readControl sent).init trace final →
      ∀ x action, (x, action) ∈ trace → x.authServes readControl action = true →
        ∃ auth ∈ firstAuth readAuth sent, auth.action = "auth" ∧ auth.token = "test-token" := by
  intro authenticated
  let M := authEchoServer readAuth readControl binaryFirst
  have run := M.run_steps M.init [.read, .read, .write (.ok ())]
  have served : ∃ entry ∈ M.steps M.init [.read, .read, .write (.ok ())],
      entry.1.authServes readControl entry.2 = true := by decide
  obtain ⟨⟨x, action⟩, member, serves⟩ := served
  obtain ⟨auth, entered, _⟩ := authenticated binaryFirst _ _ run x action member serves
  cases entered

example :
    ((authEchoServer readAuth readControl binaryFirst).steps
      (authEchoServer readAuth readControl binaryFirst).init
      [.read, .read, .write (.ok ())]).filterMap (written passing) =
        [.text "\x7b\"Message\":\"a\"\x7d"] := by decide

end AuthEchoServer

end Socketeer
