import Socketeer.EchoReplies

/-! # The task of `get_mock_address`

The task accepts one connection after the other and runs the handler on each,
until the handler returns `true`. It ends in a panic with everything that it
unwraps: an error of the listener, of the handshake or of the handler. A handler
that panics takes it along.
-/

namespace Socketeer

open Foundation

variable {S E : Type}

/-- How the future of a handler has ended. -/
inductive HandlerEnd (E : Type) where
  | returned (result : Except E Bool)
  | panicked

/-- A service that ends. -/
structure SocketHandler (S E : Type) extends Service S E where
  ended : S → Option (HandlerEnd E)

def EchoServer.ended (server : EchoServer E) : Option (HandlerEnd E) :=
  match server.pc with
  | .returned result => some (.returned result)
  | .panicked => some .panicked
  | .reading | .echoing _ | .sendingPing | .sendingClose | .ponging | .closing => none

def AuthEchoServer.ended : AuthEchoServer E → Option (HandlerEnd E)
  | .echoing server => server.ended
  | .returned result => some (.returned result)
  | .awaitingAuth | .accepting | .refusing => none

def EchoServer.handler (parse : String → Option EchoControlMessage) :
    SocketHandler (EchoServer E) E where
  toService := EchoServer.service parse
  ended := EchoServer.ended

def MsgpackEchoServer.handler (parse : Bytes → Option EchoControlMessage) :
    SocketHandler (EchoServer E) E where
  toService := MsgpackEchoServer.service parse
  ended := EchoServer.ended

def AuthEchoServer.handler (parseAuth : String → Option AuthMsg)
    (parse : String → Option EchoControlMessage) : SocketHandler (AuthEchoServer E) E where
  toService := AuthEchoServer.service parseAuth parse
  ended := AuthEchoServer.ended

/-- The points at which the task can be suspended, and how it can end. While it
serves, it knows all that the client sends only through the handler. -/
inductive ListenerPc (S E : Type) where
  | accepting
  | upgrading
  | serving (sent : List (Except E Message)) (x : Exchange S E)
  | stopped
  | panicked

/-- A connection on which the handler has ended, with all that its client sent
and where that left the handler. -/
structure Served (S E : Type) where
  sent : List (Except E Message)
  final : Exchange S E

/-- The task, with the connections it is done with in order. -/
structure Listener (S E : Type) where
  pc : ListenerPc S E
  served : List (Served S E)

/-- A result of `accept`, a result of `accept_async` with what the client sends
then, a step of the handler, or its end. -/
inductive ListenerAction (E : Type) where
  | accept (accepted : Bool)
  | upgrade (sent : Option (List (Except E Message)))
  | serve (action : ExchangeAction E)
  | conclude

/-- Where the end of a handler takes the task. -/
def HandlerEnd.next : HandlerEnd E → ListenerPc S E
  | .returned (.ok true) => .stopped
  | .returned (.ok false) => .accepting
  | .returned (.error _) | .panicked => .panicked

/-- Whether the task still accepts or serves. -/
def ListenerPc.going : ListenerPc S E → Bool
  | .accepting | .upgrading | .serving _ _ => true
  | .stopped | .panicked => false

/-- The listener does not go on with a connection whose handler has ended. -/
theorem HandlerEnd.next_ne_serving (ended : HandlerEnd E) (sent : List (Except E Message))
    (x : Exchange S E) : ended.next ≠ .serving sent x := by
  cases ended with
  | panicked => exact nofun
  | returned result =>
      cases result with
      | error _ => exact nofun
      | ok exits => cases exits <;> exact nofun

/-- The listener goes on after a handler that returned `false`. -/
theorem HandlerEnd.eq_of_next_going {ended : HandlerEnd E}
    (going : (ended.next : ListenerPc S E).going = true) : ended = .returned (.ok false) := by
  cases ended with
  | panicked => cases going
  | returned result =>
      cases result with
      | error _ => cases going
      | ok exits =>
          cases exits with
          | true => cases going
          | false => rfl

/-- The listener stops after a handler that returned `true`. -/
theorem HandlerEnd.eq_of_next_stopped {ended : HandlerEnd E}
    (stopped : (ended.next : ListenerPc S E) = .stopped) : ended = .returned (.ok true) := by
  cases ended with
  | panicked => cases stopped
  | returned result =>
      cases result with
      | error _ => cases stopped
      | ok exits =>
          cases exits with
          | true => rfl
          | false => cases stopped

namespace Listener

def create : Listener S E where
  pc := .accepting
  served := []

/-- The loop of `get_mock_address`. -/
def step (handler : SocketHandler S E) (l : Listener S E) :
    ListenerAction E → Option (Listener S E)
  | .accept accepted =>
      match l.pc with
      | .accepting => some { l with pc := if accepted then .upgrading else .panicked }
      | _ => none
  | .upgrade sent =>
      match l.pc with
      | .upgrading =>
          match sent with
          | some sent =>
              some { l with pc := .serving sent { server := handler.create, inbound := sent } }
          | none => some { l with pc := .panicked }
      | _ => none
  | .serve action =>
      match l.pc with
      | .serving sent x => (handler.step x action).map fun y => { l with pc := .serving sent y }
      | _ => none
  | .conclude =>
      match l.pc with
      | .serving sent x =>
          (handler.ended x.server).map fun ended =>
            { pc := ended.next, served := l.served ++ [{ sent := sent, final := x }] }
      | _ => none

end Listener

/-- Every run of the task, with any clients and any outcomes of the network. -/
def listener (handler : SocketHandler S E) : Machine (Listener S E) (ListenerAction E) where
  init := .create
  step := Listener.step handler

namespace Listener

variable {handler : SocketHandler S E} {l m : Listener S E}

/-- The rules of the task. -/
inductive Rule (handler : SocketHandler S E) (l : Listener S E) :
    ListenerAction E → Listener S E → Prop where
  | accepted (accepting : l.pc = .accepting) :
      Rule handler l (.accept true) { l with pc := .upgrading }
  | refused (accepting : l.pc = .accepting) :
      Rule handler l (.accept false) { l with pc := .panicked }
  | upgraded {sent} (upgrading : l.pc = .upgrading) :
      Rule handler l (.upgrade (some sent))
        { l with pc := .serving sent { server := handler.create, inbound := sent } }
  | failed (upgrading : l.pc = .upgrading) :
      Rule handler l (.upgrade none) { l with pc := .panicked }
  | serve {action sent x y} (serving : l.pc = .serving sent x)
      (stepped : handler.step x action = some y) :
      Rule handler l (.serve action) { l with pc := .serving sent y }
  | conclude {sent x ended} (serving : l.pc = .serving sent x)
      (ends : handler.ended x.server = some ended) :
      Rule handler l .conclude
        { pc := ended.next, served := l.served ++ [{ sent := sent, final := x }] }

/-- A step of the listener, by rules. -/
theorem step_rule {action : ListenerAction E} (step : l.step handler action = some m) :
    Rule handler l action m := by
  cases action with
  | accept accepted =>
      simp only [Listener.step] at step
      split at step
      · rename_i accepting
        cases step
        cases accepted with
        | true => exact .accepted accepting
        | false => exact .refused accepting
      · cases step
  | upgrade sent =>
      simp only [Listener.step] at step
      split at step
      · rename_i upgrading
        cases sent with
        | some sent =>
            cases step
            exact .upgraded upgrading
        | none =>
            cases step
            exact .failed upgrading
      · cases step
  | serve action =>
      simp only [Listener.step] at step
      split at step
      · rename_i sent x serving
        obtain ⟨y, stepped, rfl⟩ := Option.map_eq_some_iff.mp step
        exact .serve serving stepped
      · cases step
  | conclude =>
      simp only [Listener.step] at step
      split at step
      · rename_i sent x serving
        obtain ⟨ended, ends, rfl⟩ := Option.map_eq_some_iff.mp step
        exact .conclude serving ends
      · cases step

/-- What is known of the connections so far. -/
structure Account (handler : SocketHandler S E) (l : Listener S E) : Prop where
  serving : ∀ sent x, l.pc = .serving sent x → (handler.facing sent).Reachable x
  ran : ∀ served ∈ l.served, (handler.facing served.sent).Reachable served.final
  earlier : ∀ served ∈ l.served.dropLast,
    handler.ended served.final.server = some (.returned (.ok false))
  going : l.pc.going = true → ∀ served ∈ l.served,
    handler.ended served.final.server = some (.returned (.ok false))
  stopped : l.pc = .stopped → ∃ served, l.served.getLast? = some served ∧
    handler.ended served.final.server = some (.returned (.ok true))

/-- A step that leaves the connections that were served as they are. -/
private theorem Account.keep (account : Account handler l) (served : m.served = l.served)
    (live : l.pc.going = true) (open' : m.pc ≠ .stopped)
    (serving : ∀ sent x, m.pc = .serving sent x → (handler.facing sent).Reachable x) :
    Account handler m where
  serving := serving
  ran := by
    rw [served]
    exact account.ran
  earlier := by
    rw [served]
    exact account.earlier
  going _ := by
    rw [served]
    exact account.going live
  stopped same := absurd same open'

/-- The account of the connections is kept by every step. -/
theorem Account.step {action : ListenerAction E} (account : Account handler l)
    (step : l.step handler action = some m) : Account handler m := by
  have live {pc : ListenerPc S E} (here : l.pc = pc) (going : pc.going = true) :
      l.pc.going = true := by
    rw [here]
    exact going
  cases step_rule step with
  | accepted accepting | refused accepting =>
      exact account.keep (by rfl) (live accepting rfl) nofun nofun
  | failed upgrading => exact account.keep (by rfl) (live upgrading rfl) nofun nofun
  | upgraded upgrading =>
      refine account.keep (by rfl) (live upgrading rfl) nofun ?_
      intro sent x same
      cases same
      exact .initial
  | @serve action sent x y serving stepped =>
      refine account.keep (by rfl) (live serving rfl) nofun ?_
      intro sent' y' same
      cases same
      exact (account.serving sent x serving).next stepped
  | @conclude sent x ended serving ends =>
      have before := account.going (live serving rfl)
      constructor
      · exact fun sent' x' same => absurd same (ended.next_ne_serving sent' x')
      · intro served member
        rcases List.mem_append.mp member with earlier | last
        · exact account.ran served earlier
        · rw [List.mem_singleton.mp last]
          exact account.serving sent x serving
      · intro served member
        rw [List.dropLast_concat] at member
        exact before served member
      · intro going served member
        rcases List.mem_append.mp member with earlier | last
        · exact before served earlier
        · rw [List.mem_singleton.mp last, ← HandlerEnd.eq_of_next_going going]
          exact ends
      · intro stopped
        rw [← HandlerEnd.eq_of_next_stopped stopped]
        exact ⟨{ sent := sent, final := x }, List.getLast?_concat, ends⟩

/-- The connections were served one after the other, in every reachable state. -/
theorem account (reached : (listener handler).Reachable l) : Account handler l := by
  refine reached.invariant (Account handler) ?_ fun _ _ _ _ account step => account.step step
  constructor
  · exact nofun
  · exact nofun
  · exact nofun
  · exact fun _ => nofun
  · exact nofun

/-- The task serves one connection after the other, each with a handler that
starts afresh. The handler has returned `false` on all of them but the last, and
on the last as well while the task goes on. It has returned `true` on the last
one if the task has stopped. -/
theorem serves_in_turn (reached : (listener handler).Reachable l) :
    (∀ sent x, l.pc = .serving sent x → (handler.facing sent).Reachable x) ∧
      (∀ served ∈ l.served, (handler.facing served.sent).Reachable served.final) ∧
      (∀ served ∈ l.served, served ∈ l.served.dropLast ∨ l.pc.going = true →
        handler.ended served.final.server = some (.returned (.ok false))) ∧
      (l.pc = .stopped → ∃ served, l.served.getLast? = some served ∧
        handler.ended served.final.server = some (.returned (.ok true))) := by
  obtain ⟨serving, ran, earlier, going, stopped⟩ := account reached
  refine ⟨serving, ran, ?_, stopped⟩
  rintro served member (before | live)
  · exact earlier served before
  · exact going live served member

/-- With `echo_server`, the task goes on only as long as no client has asked a server
to end, and it has stopped only if its last client did. It need not go on then: a
handler that panics takes it along. -/
theorem stops_when_asked {parse : String → Option EchoControlMessage}
    {l : Listener (EchoServer E) E} (reached : (listener (EchoServer.handler parse)).Reachable l) :
    ∀ served ∈ l.served, ∃ taken, served.sent = taken ++ served.final.inbound ∧
      (served ∈ l.served.dropLast ∨ l.pc.going = true →
        taken.any (EchoServer.asksToEnd parse) = false) ∧
      (l.pc = .stopped → l.served.getLast? = some served →
        taken.any (EchoServer.asksToEnd parse) = true) := by
  have account := account reached
  have returned {server : EchoServer E} {exits : Bool}
      (ended : server.ended = some (.returned (.ok exits))) :
      server.pc = .returned (.ok exits) := by
    unfold EchoServer.ended at ended
    split at ended
    · rename_i result pc
      rw [pc]
      cases ended
      rfl
    · cases ended
    all_goals cases ended
  intro served member
  obtain ⟨trace, run⟩ := account.ran served member
  obtain ⟨taken, parts, replied⟩ := EchoServer.replied run
  refine ⟨taken, parts, ?_, ?_⟩
  · intro goesOn
    have ended : served.final.server.ended = some (.returned (.ok false)) := by
      rcases goesOn with earlier | going
      · exact account.earlier served earlier
      · exact account.going going served member
    exact (replied.returned false (returned ended)).2.symm
  · intro stopped last
    obtain ⟨served', last', ended⟩ := account.stopped stopped
    obtain rfl := Option.some.inj (last.symm.trans last')
    exact (replied.returned true (returned ended)).2.symm

/-- `serde_json`, on one request of the tests. -/
def readAbort (text : String) : Option EchoControlMessage :=
  if text = "\"Abort\"" then some .abort else none

/-- One client closes its connection, and the next one asks the server to abort. -/
def closesThenAborts : List (ListenerAction Unit) :=
  [.accept true, .upgrade (some [.ok (.close none)]), .serve .read, .serve (.write (.ok ())),
    .conclude, .accept true, .upgrade (some [.ok (.text "\"Abort\"")]), .serve .read, .conclude]

theorem serves_in_turn_closesThenAborts :
    let handler := EchoServer.handler (E := Unit) readAbort
    let l := (listener handler).follow .create closesThenAborts
    l.served.length = 2 ∧ l.pc.going = false ∧
      (∀ sent x, l.pc = .serving sent x → (handler.facing sent).Reachable x) ∧
      (∀ served ∈ l.served, (handler.facing served.sent).Reachable served.final) ∧
      (∀ served ∈ l.served, served ∈ l.served.dropLast ∨ l.pc.going = true →
        handler.ended served.final.server = some (.returned (.ok false))) ∧
      (l.pc = .stopped → ∃ served, l.served.getLast? = some served ∧
        handler.ended served.final.server = some (.returned (.ok true))) :=
  ⟨by decide, by decide, serves_in_turn (Machine.follow_reachable _ closesThenAborts)⟩

theorem stops_when_asked_closesThenAborts :
    let l := (listener (EchoServer.handler (E := Unit) readAbort)).follow .create closesThenAborts
    l.served.length = 2 ∧ ∀ served ∈ l.served, ∃ taken,
      served.sent = taken ++ served.final.inbound ∧
        (served ∈ l.served.dropLast ∨ l.pc.going = true →
          taken.any (EchoServer.asksToEnd readAbort) = false) ∧
        (l.pc = .stopped → l.served.getLast? = some served →
          taken.any (EchoServer.asksToEnd readAbort) = true) :=
  ⟨by decide, stops_when_asked (Machine.follow_reachable _ closesThenAborts)⟩

end Listener

end Socketeer
