import Socketeer.Config
import Socketeer.Foundation.Machine
import Socketeer.Foundation.Registry

/-! # Handles of several connections

The handles as the source has them, with the channel ends, the slot, the task
and the settings they own, and the operations that make and recombine them. A
channel, a slot and a task are named after the connection they are made for;
the code sees of a slot only where it is allocated.
-/

set_option linter.dupNamespace false

namespace Socketeer

open Foundation

variable {U N V C H R E : Type}

abbrev ConnId := Nat

/-- `mpsc::Sender`, by the channel it belongs to. -/
structure Sender (α : Type) where
  channel : ConnId
  deriving DecidableEq, Repr

/-- `mpsc::Receiver`, by the channel it belongs to. -/
structure Receiver (α : Type) where
  channel : ConnId
  deriving DecidableEq, Repr

structure JoinHandle where
  task : ConnId
  deriving DecidableEq, Repr

/-- The `Arc` of a slot: where it is allocated, and which slot it is. -/
structure TerminalError where
  address : Nat
  slot : ConnId
  deriving DecidableEq, Repr

/-- `Arc::ptr_eq`. -/
def TerminalError.ptrEq (left right : TerminalError) : Bool :=
  left.address = right.address

structure Socketeer (U N V C H : Type) where
  url : U
  options : ConnectOptions N V
  codec : C
  handler : H
  receiver : Receiver Message
  sender : Sender TxChannelPayload
  socketHandle : JoinHandle
  terminalError : TerminalError

structure SocketeerTx (C : Type) where
  sender : Sender TxChannelPayload
  codec : C
  terminalError : TerminalError

structure SocketeerRx (U N V C H : Type) where
  receiver : Receiver Message
  codec : C
  terminalError : TerminalError
  socketHandle : JoinHandle
  url : U
  options : ConnectOptions N V
  handler : H

structure ReuniteError (U N V C H : Type) where
  tx : SocketeerTx C
  rx : SocketeerRx U N V C H

/-- `SocketeerTx::clone`. -/
def SocketeerTx.clone (self : SocketeerTx C) : SocketeerTx C where
  sender := self.sender
  codec := self.codec
  terminalError := self.terminalError

/-- `Socketeer::split`. -/
def Socketeer.split (self : Socketeer U N V C H) : SocketeerTx C × SocketeerRx U N V C H :=
  ({ sender := self.sender
     codec := self.codec
     terminalError := self.terminalError },
   { receiver := self.receiver
     codec := self.codec
     terminalError := self.terminalError
     socketHandle := self.socketHandle
     url := self.url
     options := self.options
     handler := self.handler })

/-- `Socketeer::from_parts`. -/
def Socketeer.fromParts (url : U) (options : ConnectOptions N V) (codec : C) (handler : H)
    (receiver : Receiver Message) (sender : Sender TxChannelPayload) (socketHandle : JoinHandle)
    (terminalError : TerminalError) : Socketeer U N V C H where
  url := url
  options := options
  codec := codec
  handler := handler
  receiver := receiver
  sender := sender
  socketHandle := socketHandle
  terminalError := terminalError

/-- `SocketeerRx::reunite`. -/
def SocketeerRx.reunite (self : SocketeerRx U N V C H) (tx : SocketeerTx C) :
    Except (ReuniteError U N V C H) (Socketeer U N V C H) :=
  if self.terminalError.ptrEq tx.terminalError then
    .ok (.fromParts self.url self.options self.codec self.handler self.receiver tx.sender
      self.socketHandle self.terminalError)
  else .error { tx := tx, rx := self }

/-- What `socket_loop_split` is spawned with, less the two halves of the
socket. -/
structure Task where
  receiver : Receiver TxChannelPayload
  sender : Sender Message
  keepaliveInterval : Option Nat
  keepaliveMessage : Option Message
  terminalError : TerminalError

/-- The parts of `url` and `tungstenite` that make a request from a URL. -/
structure Externals (U N V R E : Type) where
  parse : String → Except String U
  asStr : U → String
  intoClientRequest : String → Except E (Request R N V)

/-- `Socketeer::connect_with_codec`, for a new connection and the address its
slot gets. What becomes of the request and the handler in `connect_async` and
`on_connected` is up to the network. -/
def connectWithCodec [DecidableEq N] (externals : Externals U N V R E) (conn : ConnId)
    (address : Nat) (url : String) (options : ConnectOptions N V) (codec : C) (handler : H)
    (network : Request R N V → H → Except (Error E) H) :
    Except (Error E) (Socketeer U N V C H × Task) := do
  let url ← (externals.parse url).mapError (Error.urlParse url)
  let request ← options.buildRequest externals.intoClientRequest (externals.asStr url)
  let handler ← network request handler
  return (
    { url := url
      options := options
      codec := codec
      handler := handler
      receiver := ⟨conn⟩
      sender := ⟨conn⟩
      socketHandle := ⟨conn⟩
      terminalError := { address := address, slot := conn } },
    { receiver := ⟨conn⟩
      sender := ⟨conn⟩
      keepaliveInterval := options.keepaliveInterval
      keepaliveMessage := options.customKeepaliveMessage
      terminalError := { address := address, slot := conn } })

/-- What a program can hold of a connection: one of the three handles, or the
future of a `reconnect`, which holds what it was called on until it ends. -/
inductive Handle (U N V C H : Type) where
  | socketeer (self : Socketeer U N V C H)
  | tx (self : SocketeerTx C)
  | rx (self : SocketeerRx U N V C H)
  | reconnecting (self : Socketeer U N V C H)

/-- What `connect_with_codec` was called with for a connection, and the task that
it has spawned. -/
structure Made (N V C H R E : Type) where
  url : String
  options : ConnectOptions N V
  codec : C
  handler : H
  network : Request R N V → H → Except (Error E) H
  task : Task

/-- The connections made so far and what is held of them. -/
structure World (U N V C H R E : Type) where
  connections : Registry (Made N V C H R E)
  handles : Registry (Handle U N V C H)

def Handle.terminalError : Handle U N V C H → TerminalError
  | .socketeer self | .reconnecting self => self.terminalError
  | .tx self => self.terminalError
  | .rx self => self.terminalError

/-- Whether the receive half of a connection is among what is held. -/
def Handle.receives : Handle U N V C H → Bool
  | .socketeer _ | .rx _ | .reconnecting _ => true
  | .tx _ => false

abbrev HandleName := Nat

/-- The operations on the handles. `reconnect` begins with one step and ends
with another, and may be dropped in between. -/
inductive Operation (U N V C H R E : Type) where
  | connect (url : String) (options : ConnectOptions N V) (codec : C) (handler : H)
      (network : Request R N V → H → Except (Error E) H) (address : Nat)
  | split (handle : HandleName)
  | clone (handle : HandleName)
  | drop (handle : HandleName)
  | reunite (rx tx : HandleName)
  | reconnect (handle : HandleName)
  | reconnected (handle : HandleName) (network : Request R N V → H → Except (Error E) H)
      (address : Nat)

namespace World

/-- No `Arc` that is held is allocated at the address. -/
def Free (w : World U N V C H R E) (address : Nat) : Prop :=
  ∀ name < w.handles.named, ∀ handle ∈ w.handles.find name,
    handle.terminalError.address ≠ address

instance (w : World U N V C H R E) (address : Nat) : Decidable (w.Free address) :=
  inferInstanceAs (Decidable (∀ name < w.handles.named, _))

/-- Add a connection and the handle that `connect_with_codec` returns. -/
def enter (w : World U N V C H R E) (made : Made N V C H R E)
    (socketeer : Socketeer U N V C H) : World U N V C H R E where
  connections := w.connections.add made
  handles := w.handles.add (.socketeer socketeer)

def connect [DecidableEq N] (externals : Externals U N V R E) (w : World U N V C H R E)
    (url : String) (options : ConnectOptions N V) (codec : C) (handler : H)
    (network : Request R N V → H → Except (Error E) H) (address : Nat) : World U N V C H R E :=
  match
    connectWithCodec externals w.connections.named address url options codec handler network
  with
  | .ok (socketeer, task) =>
      w.enter
        { url := url
          options := options
          codec := codec
          handler := handler
          network := network
          task := task }
        socketeer
  | .error _ => w

/-- The halves: the sender keeps the name. -/
def split (w : World U N V C H R E) (name : HandleName) : Option (World U N V C H R E) :=
  match w.handles.find name with
  | some (.socketeer self) =>
      some { w with handles := (w.handles.set name (.tx self.split.1)).add (.rx self.split.2) }
  | _ => none

def clone (w : World U N V C H R E) (name : HandleName) : Option (World U N V C H R E) :=
  match w.handles.find name with
  | some (.tx self) => some { w with handles := w.handles.add (.tx self.clone) }
  | _ => none

def drop (w : World U N V C H R E) (name : HandleName) : World U N V C H R E :=
  { w with handles := w.handles.remove name }

/-- The whole takes the name of the sender. When it is refused, what the error
carries is what is held from then on. -/
def reunite (w : World U N V C H R E) (rx tx : HandleName) : Option (World U N V C H R E) :=
  match w.handles.find rx, w.handles.find tx with
  | some (.rx receiver), some (.tx sender) =>
      match receiver.reunite sender with
      | .ok whole => some { w with handles := (w.handles.remove rx).set tx (.socketeer whole) }
      | .error halves =>
          some { w with handles := (w.handles.set rx (.rx halves.rx)).set tx (.tx halves.tx) }
  | _, _ => none

def reconnect (w : World U N V C H R E) (name : HandleName) : Option (World U N V C H R E) :=
  match w.handles.find name with
  | some (.socketeer self) =>
      some { w with handles := w.handles.set name (.reconnecting self) }
  | _ => none

/-- The end of a `reconnect`, which drops what it was called on. What becomes of
the handler in `on_disconnected` is up to the network too. -/
def reconnected [DecidableEq N] (externals : Externals U N V R E) (w : World U N V C H R E)
    (name : HandleName) (network : Request R N V → H → Except (Error E) H) (address : Nat) :
    Option (World U N V C H R E) :=
  match w.handles.find name with
  | some (.reconnecting self) =>
      some ((w.drop name).connect externals (externals.asStr self.url) self.options self.codec
        self.handler network address)
  | _ => none

def step [DecidableEq N] (externals : Externals U N V R E) (w : World U N V C H R E) :
    Operation U N V C H R E → Option (World U N V C H R E)
  | .connect url options codec handler network address =>
      if w.Free address then
        some (w.connect externals url options codec handler network address)
      else none
  | .split name => w.split name
  | .clone name => w.clone name
  | .drop name => some (w.drop name)
  | .reunite rx tx => w.reunite rx tx
  | .reconnect name => w.reconnect name
  | .reconnected name network address =>
      if w.Free address then w.reconnected externals name network address else none

end World

/-- Every sequence of operations on the handles. -/
def world [DecidableEq N] (externals : Externals U N V R E) (C H : Type) :
    Machine (World U N V C H R E) (Operation U N V C H R E) where
  init := { connections := .empty, handles := .empty }
  step := World.step externals

/-- The task has the other ends of the channels of its connection, and its slot. -/
structure Task.BelongsTo (task : Task) (conn : ConnId) : Prop where
  receiver : task.receiver.channel = conn
  sender : task.sender.channel = conn
  terminalError : task.terminalError.slot = conn

section Belonging

variable [DecidableEq N]

/-- The URL, the options, the codec and the handler of a connection: those that the
call was given, and what the network made of the handler, from the request for
the URL. -/
structure Made.Gives (externals : Externals U N V R E) (made : Made N V C H R E) (url : U)
    (options : ConnectOptions N V) (codec : C) (handler : H) : Prop where
  parses : externals.parse made.url = .ok url
  options : options = made.options
  codec : codec = made.codec
  requests : ∃ request,
    made.options.buildRequest externals.intoClientRequest (externals.asStr url) = .ok request ∧
      made.network request made.handler = .ok handler

/-- All parts are those of one connection, with what it was made with. -/
structure Socketeer.BelongsTo (externals : Externals U N V R E) (socketeer : Socketeer U N V C H)
    (conn : ConnId) (made : Made N V C H R E) : Prop where
  receiver : socketeer.receiver.channel = conn
  sender : socketeer.sender.channel = conn
  socketHandle : socketeer.socketHandle.task = conn
  terminalError : socketeer.terminalError = made.task.terminalError
  task : made.task.BelongsTo conn
  settings : made.Gives externals socketeer.url socketeer.options socketeer.codec socketeer.handler

structure SocketeerTx.BelongsTo (tx : SocketeerTx C) (conn : ConnId) (made : Made N V C H R E) :
    Prop where
  sender : tx.sender.channel = conn
  terminalError : tx.terminalError = made.task.terminalError
  task : made.task.BelongsTo conn
  codec : tx.codec = made.codec

structure SocketeerRx.BelongsTo (externals : Externals U N V R E) (rx : SocketeerRx U N V C H)
    (conn : ConnId) (made : Made N V C H R E) : Prop where
  receiver : rx.receiver.channel = conn
  socketHandle : rx.socketHandle.task = conn
  terminalError : rx.terminalError = made.task.terminalError
  task : made.task.BelongsTo conn
  settings : made.Gives externals rx.url rx.options rx.codec rx.handler

def Handle.BelongsTo (externals : Externals U N V R E) (conn : ConnId) (made : Made N V C H R E) :
    Handle U N V C H → Prop
  | .socketeer self | .reconnecting self => self.BelongsTo externals conn made
  | .tx self => self.BelongsTo conn made
  | .rx self => self.BelongsTo externals conn made

/-- All parts of what is held are those of one connection of the world. -/
def World.Belongs (externals : Externals U N V R E) (w : World U N V C H R E)
    (handle : Handle U N V C H) (conn : ConnId) : Prop :=
  ∃ made, w.connections.find conn = some made ∧ handle.BelongsTo externals conn made

end Belonging

/-- The task of the connection receives what the handle sends. -/
def World.Reaches (w : World U N V C H R E) (tx : SocketeerTx C) (conn : ConnId) : Prop :=
  ∃ made, w.connections.find conn = some made ∧ made.task.receiver.channel = tx.sender.channel

section Parts

variable {conn : ConnId} {made : Made N V C H R E}

/-- A clone of a sender is of the same connection. -/
theorem SocketeerTx.BelongsTo.clone {self : SocketeerTx C} (belongs : self.BelongsTo conn made) :
    self.clone.BelongsTo conn made :=
  ⟨belongs.sender, belongs.terminalError, belongs.task, belongs.codec⟩

/-- The two halves are recombined when their slots are at one address, and
returned as they were otherwise. -/
theorem reunite_cases (rx : SocketeerRx U N V C H) (tx : SocketeerTx C) :
    (rx.terminalError.address = tx.terminalError.address ∧
      rx.reunite tx = .ok (.fromParts rx.url rx.options rx.codec rx.handler rx.receiver tx.sender
        rx.socketHandle rx.terminalError)) ∨
      (rx.terminalError.address ≠ tx.terminalError.address ∧
        rx.reunite tx = .error { tx := tx, rx := rx }) := by
  unfold SocketeerRx.reunite TerminalError.ptrEq
  by_cases same : rx.terminalError.address = tx.terminalError.address
  · rw [decide_eq_true same]
    exact .inl ⟨same, rfl⟩
  · rw [decide_eq_false same]
    exact .inr ⟨same, rfl⟩

/-- What is recombined has the settings of the receive half. -/
theorem reunite_ok {rx : SocketeerRx U N V C H} {tx : SocketeerTx C}
    {whole : Socketeer U N V C H} (reunites : rx.reunite tx = .ok whole) :
    rx.terminalError.address = tx.terminalError.address ∧
      whole = .fromParts rx.url rx.options rx.codec rx.handler rx.receiver tx.sender
        rx.socketHandle rx.terminalError := by
  rcases reunite_cases rx tx with ⟨same, reunites'⟩ | ⟨_, refuses⟩
  · exact ⟨same, Except.ok.inj (reunites.symm.trans reunites')⟩
  · rw [refuses] at reunites
    cases reunites

/-- What succeeds after a result goes on from a result that succeeded. -/
theorem bind_eq_ok {ε α β : Type} {result : Except ε α} {next : α → Except ε β} {value : β}
    (succeeds : (result >>= next) = .ok value) :
    ∃ passed, result = .ok passed ∧ next passed = .ok value := by
  cases result with
  | error e => cases succeeds
  | ok passed => exact ⟨passed, rfl, succeeds⟩

/-- Another error is no success. -/
theorem eq_ok_of_mapError {ε ε' α : Type} {result : Except ε α} {error : ε → ε'} {value : α}
    (succeeds : result.mapError error = .ok value) : result = .ok value := by
  cases result with
  | error e => cases succeeds
  | ok passed =>
      cases succeeds
      rfl

variable [DecidableEq N] {externals : Externals U N V R E}

/-- Both halves are of the connection that is split. -/
theorem Socketeer.BelongsTo.split {self : Socketeer U N V C H}
    (belongs : self.BelongsTo externals conn made) :
    self.split.1.BelongsTo conn made ∧ self.split.2.BelongsTo externals conn made :=
  ⟨⟨belongs.sender, belongs.terminalError, belongs.task, belongs.settings.codec⟩,
    ⟨belongs.receiver, belongs.socketHandle, belongs.terminalError, belongs.task,
      belongs.settings⟩⟩

/-- A `Socketeer` has the slot of its connection. -/
theorem Socketeer.BelongsTo.slot {self : Socketeer U N V C H}
    (belongs : self.BelongsTo externals conn made) : self.terminalError.slot = conn :=
  (congrArg TerminalError.slot belongs.terminalError).trans belongs.task.terminalError

/-- What belongs to a connection has the slot of its task. -/
theorem Handle.BelongsTo.slot {handle : Handle U N V C H}
    (belongs : handle.BelongsTo externals conn made) : handle.terminalError.slot = conn := by
  cases handle with
  | socketeer self | reconnecting self => exact Socketeer.BelongsTo.slot belongs
  | tx self =>
      have parts : self.BelongsTo conn made := belongs
      exact (congrArg TerminalError.slot parts.terminalError).trans parts.task.terminalError
  | rx self =>
      have parts : self.BelongsTo externals conn made := belongs
      exact (congrArg TerminalError.slot parts.terminalError).trans parts.task.terminalError

/-- A connection that is made belongs to itself, with what the call was given. -/
theorem connectWithCodec_ok {address : Nat} {url : String} {options : ConnectOptions N V}
    {codec : C} {handler : H} {network : Request R N V → H → Except (Error E) H}
    {socketeer : Socketeer U N V C H} {task : Task}
    (connected : connectWithCodec externals conn address url options codec handler network =
      .ok (socketeer, task)) :
    socketeer.BelongsTo externals conn ⟨url, options, codec, handler, network, task⟩ ∧
      socketeer.terminalError.address = address := by
  obtain ⟨parsed, parses, connected⟩ := bind_eq_ok connected
  obtain ⟨request, requests, connected⟩ := bind_eq_ok connected
  obtain ⟨left, connects, connected⟩ := bind_eq_ok connected
  cases connected
  refine ⟨⟨rfl, rfl, rfl, rfl, ⟨rfl, rfl, rfl⟩, ?_⟩, rfl⟩
  exact ⟨eq_ok_of_mapError parses, rfl, rfl, request, requests, connects⟩

end Parts

namespace World

/-- What is known of two things that are held: their slots are the same when
their addresses are, and at most one of them has the receive half of a
connection. -/
structure Separate (handle other : Handle U N V C H) : Prop where
  address : handle.terminalError.address = other.terminalError.address ↔
    handle.terminalError.slot = other.terminalError.slot
  receives : handle.terminalError.slot = other.terminalError.slot →
    ¬ (handle.receives = true ∧ other.receives = true)

/-- Two handles are separate from each other. -/
theorem Separate.symm {handle other : Handle U N V C H} (separate : Separate handle other) :
    Separate other handle :=
  ⟨by rw [eq_comm, separate.address, eq_comm],
    fun same both => separate.receives same.symm both.symm⟩

variable {w w' : World U N V C H R E}

/-- A free address is no handle's. -/
theorem Free.apart {address : Nat} (free : w.Free address) {name : HandleName}
    {handle : Handle U N V C H} (found : w.handles.find name = some handle) :
    handle.terminalError.address ≠ address :=
  free name (Registry.lt_named found) handle found

variable [DecidableEq N] {externals : Externals U N V R E}

/-- The invariant of the world. -/
structure Sound (externals : Externals U N V R E) (w : World U N V C H R E) : Prop where
  belongs : ∀ name handle, w.handles.find name = some handle →
    w.Belongs externals handle handle.terminalError.slot
  apart : w.handles.Apart Separate
  tasks : ∀ conn made, w.connections.find conn = some made → made.task.BelongsTo conn

/-- Every handle has the slot of its connection. -/
theorem Belongs.slot {handle : Handle U N V C H} {conn : ConnId}
    (belongs : w.Belongs externals handle conn) :
    handle.terminalError.slot = conn := by
  obtain ⟨_, _, parts⟩ := belongs
  exact parts.slot

namespace Sound

variable (sound : Sound externals w) {name other : HandleName} {handle handle' : Handle U N V C H}
include sound

/-- One address is one slot. -/
theorem coherent (found : w.handles.find name = some handle)
    (found' : w.handles.find other = some handle') :
    handle.terminalError.address = handle'.terminalError.address ↔
      handle.terminalError.slot = handle'.terminalError.slot := by
  by_cases here : name = other
  · subst here
    obtain rfl := Option.some.inj (found.symm.trans found')
    exact iff_of_true rfl rfl
  · exact (sound.apart name other handle handle' found found' here).address

/-- A connection has one owner of its receive half. -/
theorem owner (found : w.handles.find name = some handle)
    (found' : w.handles.find other = some handle')
    (same : handle.terminalError.slot = handle'.terminalError.slot)
    (receives : handle.receives = true) (receives' : handle'.receives = true) : name = other := by
  by_contra different
  exact (sound.apart name other handle handle' found found' different).receives same
    ⟨receives, receives'⟩

/-- What is held belongs to a connection made before. -/
theorem slot_lt (found : w.handles.find name = some handle) :
    handle.terminalError.slot < w.connections.named := by
  obtain ⟨_, present, _⟩ := sound.belongs name handle found
  exact Registry.lt_named present

/-- Dropping a handle keeps the world sound. -/
theorem remove : Sound externals { w with handles := w.handles.remove name } :=
  ⟨fun other handle found => sound.belongs other handle (Registry.find_remove_cases found).2,
    sound.apart.remove, sound.tasks⟩

/-- A handle that changes within its connection keeps the world sound. -/
theorem set {conn : ConnId} (belongs : w.Belongs externals handle conn)
    (others : ∀ other found, other ≠ name → w.handles.find other = some found →
      Separate found handle) : Sound externals { w with handles := w.handles.set name handle } := by
  refine ⟨fun other found here => ?_, sound.apart.set .symm others, sound.tasks⟩
  rcases Registry.find_set_cases here with ⟨_, rfl, _⟩ | ⟨_, before⟩
  · rw [belongs.slot]
    exact belongs
  · exact sound.belongs other found before

/-- A further handle of a connection keeps the world sound. -/
theorem add {conn : ConnId} (belongs : w.Belongs externals handle conn)
    (others : ∀ other found, w.handles.find other = some found → Separate found handle) :
    Sound externals { w with handles := w.handles.add handle } := by
  refine ⟨fun other found here => ?_, sound.apart.add .symm others, sound.tasks⟩
  rcases Registry.find_add_cases here with ⟨_, rfl⟩ | before
  · rw [belongs.slot]
    exact belongs
  · exact sound.belongs other found before

/-- A new connection, with one handle, keeps the world sound. -/
theorem enter {socketeer : Socketeer U N V C H} {made : Made N V C H R E}
    (belongs : socketeer.BelongsTo externals w.connections.named made)
    (free : ∀ name handle, w.handles.find name = some handle →
      handle.terminalError.address ≠ socketeer.terminalError.address) :
    Sound externals (w.enter made socketeer) := by
  have slot : socketeer.terminalError.slot = w.connections.named :=
    Socketeer.BelongsTo.slot belongs
  constructor
  · intro name handle found
    rcases Registry.find_add_cases found with ⟨_, rfl⟩ | before
    · refine ⟨_, ?_, slot.symm ▸ belongs⟩
      change (w.connections.add _).find socketeer.terminalError.slot = _
      rw [slot]
      exact Registry.find_add_self
    · obtain ⟨made, present, parts⟩ := sound.belongs name handle before
      exact ⟨made, Registry.find_add_of_find present, parts⟩
  · refine sound.apart.add .symm fun other found before => ?_
    have earlier : found.terminalError.slot ≠ socketeer.terminalError.slot :=
      fun same => absurd (same.trans slot) (Nat.ne_of_lt (sound.slot_lt before))
    exact ⟨iff_of_false (free other found before) earlier, fun same => absurd same earlier⟩
  · intro conn made present
    rcases Registry.find_add_cases present with ⟨rfl, rfl⟩ | before
    · exact belongs.task
    · exact sound.tasks conn made before

end Sound

/-- What is held is as far apart from something with the same slot as from what
had that slot before, if that does not receive. -/
theorem Sound.separate (sound : Sound externals w) {name other : HandleName}
    {handle handle' found : Handle U N V C H} (old : w.handles.find name = some handle)
    (present : w.handles.find other = some found)
    (same : handle'.terminalError = handle.terminalError)
    (receives : handle'.receives = true → handle.receives = true ∧ other ≠ name) :
    Separate found handle' := by
  constructor
  · rw [same]
    exact sound.coherent present old
  · rintro slot ⟨first, second⟩
    rw [same] at slot
    obtain ⟨receives, different⟩ := receives second
    exact different (sound.owner present old slot first receives)

/-- Two halves are recombined if and only if they are of one connection. -/
theorem reunite_ok_iff (sound : Sound externals w) {name other : HandleName}
    {rx : SocketeerRx U N V C H} {tx : SocketeerTx C}
    (found : w.handles.find name = some (.rx rx)) (found' : w.handles.find other = some (.tx tx)) :
    (∃ whole, rx.reunite tx = .ok whole) ↔
      ∃ conn, w.Belongs externals (.rx rx) conn ∧ w.Belongs externals (.tx tx) conn := by
  have receives := sound.belongs name _ found
  have sends := sound.belongs other _ found'
  have coherent := sound.coherent found found'
  rcases reunite_cases rx tx with ⟨same, reunites⟩ | ⟨different, refuses⟩
  · rw [← coherent.mp same] at sends
    exact iff_of_true ⟨_, reunites⟩ ⟨_, receives, sends⟩
  · apply iff_of_false
    · rintro ⟨whole, reunites⟩
      rw [refuses] at reunites
      cases reunites
    · rintro ⟨conn, first, second⟩
      exact different (coherent.mpr (first.slot.trans second.slot.symm))

/-- What they are recombined to is of that connection. -/
theorem reunite_belongs (sound : Sound externals w) {name other : HandleName}
    {rx : SocketeerRx U N V C H} {tx : SocketeerTx C} {whole : Socketeer U N V C H} {conn : ConnId}
    (found : w.handles.find name = some (.rx rx)) (found' : w.handles.find other = some (.tx tx))
    (reunites : rx.reunite tx = .ok whole) (inside : w.Belongs externals (.rx rx) conn) :
    w.Belongs externals (.socketeer whole) conn := by
  obtain ⟨made, present, receives⟩ := inside
  obtain ⟨_, _, sends⟩ := sound.belongs other _ found'
  obtain ⟨same, rfl⟩ := reunite_ok reunites
  rw [← (sound.coherent found found').mp same, receives.slot] at sends
  have receives : rx.BelongsTo externals conn made := receives
  have sends : tx.sender.channel = conn := SocketeerTx.BelongsTo.sender sends
  have whole : (Socketeer.fromParts rx.url rx.options rx.codec rx.handler rx.receiver tx.sender
      rx.socketHandle rx.terminalError).BelongsTo externals conn made :=
    ⟨receives.receiver, sends, receives.socketHandle, receives.terminalError, receives.task,
      receives.settings⟩
  exact ⟨made, present, whole⟩

/-- A sender reaches the task of its own connection and no other. -/
theorem reaches_iff (sound : Sound externals w) {name : HandleName} {tx : SocketeerTx C}
    (found : w.handles.find name = some (.tx tx)) (conn : ConnId) :
    w.Reaches tx conn ↔ conn = tx.terminalError.slot := by
  obtain ⟨made, present, parts⟩ := sound.belongs name _ found
  have sends : tx.sender.channel = tx.terminalError.slot := SocketeerTx.BelongsTo.sender parts
  constructor
  · rintro ⟨made', present', reaches⟩
    rw [← (sound.tasks conn made' present').receiver, reaches, sends]
  · rintro rfl
    exact ⟨made, present, (sound.tasks _ made present).receiver.trans sends.symm⟩

/-- The rules of the world. -/
inductive Rule (externals : Externals U N V R E) (w : World U N V C H R E) :
    Operation U N V C H R E → World U N V C H R E → Prop where
  | connected {url options codec handler network address socketeer task}
      (free : w.Free address)
      (made : connectWithCodec externals w.connections.named address url options codec handler
        network = .ok (socketeer, task)) :
      Rule externals w (.connect url options codec handler network address)
        (w.enter ⟨url, options, codec, handler, network, task⟩ socketeer)
  | failed {url options codec handler network address} :
      Rule externals w (.connect url options codec handler network address) w
  | split {name self} (found : w.handles.find name = some (.socketeer self)) :
      Rule externals w (.split name)
        { w with handles := (w.handles.set name (.tx self.split.1)).add (.rx self.split.2) }
  | clone {name self} (found : w.handles.find name = some (.tx self)) :
      Rule externals w (.clone name) { w with handles := w.handles.add (.tx self.clone) }
  | drop {name} : Rule externals w (.drop name) (w.drop name)
  | reunited {rx tx receiver sender whole}
      (found : w.handles.find rx = some (.rx receiver))
      (found' : w.handles.find tx = some (.tx sender))
      (reunites : receiver.reunite sender = .ok whole) :
      Rule externals w (.reunite rx tx)
        { w with handles := (w.handles.remove rx).set tx (.socketeer whole) }
  | refused {rx tx} : Rule externals w (.reunite rx tx) w
  | reconnecting {name self} (found : w.handles.find name = some (.socketeer self)) :
      Rule externals w (.reconnect name)
        { w with handles := w.handles.set name (.reconnecting self) }
  | reconnected {name network address socketeer task} {self : Socketeer U N V C H}
      (found : w.handles.find name = some (.reconnecting self)) (free : w.Free address)
      (made : connectWithCodec externals w.connections.named address (externals.asStr self.url)
        self.options self.codec self.handler network = .ok (socketeer, task)) :
      Rule externals w (.reconnected name network address)
        ((w.drop name).enter
          ⟨externals.asStr self.url, self.options, self.codec, self.handler, network, task⟩
          socketeer)
  | lost {name network address} :
      Rule externals w (.reconnected name network address) (w.drop name)

/-- Every operation falls under a rule. -/
theorem step_rule {operation : Operation U N V C H R E}
    (step : w.step externals operation = some w') : Rule externals w operation w' := by
  cases operation with
  | connect url options codec handler network address =>
      simp only [World.step, Option.ite_none_right_eq_some] at step
      obtain ⟨free, same⟩ := step
      obtain rfl := Option.some.inj same
      unfold World.connect
      split
      · rename_i made
        exact .connected free made
      · exact .failed
  | split name =>
      simp only [World.step, World.split] at step
      split at step
      · rename_i found
        cases step
        exact .split found
      · cases step
  | clone name =>
      simp only [World.step, World.clone] at step
      split at step
      · rename_i found
        cases step
        exact .clone found
      · cases step
  | drop name =>
      cases step
      exact .drop
  | reunite rx tx =>
      simp only [World.step, World.reunite] at step
      split at step
      · rename_i receiver sender found found'
        split at step
        · rename_i reunites
          cases step
          exact .reunited found found' reunites
        · rename_i halves refuses
          rcases reunite_cases receiver sender with ⟨_, reunites⟩ | ⟨_, refuses'⟩
          · rw [reunites] at refuses
            cases refuses
          · obtain rfl := Except.error.inj (refuses.symm.trans refuses')
            rw [Registry.set_same found, Registry.set_same found'] at step
            cases step
            exact .refused
      · cases step
  | reconnect name =>
      simp only [World.step, World.reconnect] at step
      split at step
      · rename_i found
        cases step
        exact .reconnecting found
      · cases step
  | reconnected name network address =>
      simp only [World.step, Option.ite_none_right_eq_some] at step
      obtain ⟨free, same⟩ := step
      unfold World.reconnected at same
      split at same
      · rename_i self found
        obtain rfl := Option.some.inj same
        unfold World.connect
        split
        · rename_i made
          exact .reconnected found free made
        · exact .lost
      · cases same

/-- Every operation keeps the world sound. -/
theorem Sound.step {operation : Operation U N V C H R E} (sound : Sound externals w)
    (rule : Rule externals w operation w') : Sound externals w' := by
  cases rule with
  | connected free made =>
      obtain ⟨belongs, address⟩ := connectWithCodec_ok made
      exact sound.enter belongs fun _ _ found => address ▸ free.apart found
  | failed | refused => exact sound
  | @split name self found =>
      obtain ⟨made, present, parts⟩ := sound.belongs name _ found
      have halves := Socketeer.BelongsTo.split parts
      have first : Sound externals { w with handles := w.handles.set name (.tx self.split.1) } :=
        sound.set ⟨made, present, halves.1⟩ fun other there _ before =>
          sound.separate found before rfl nofun
      refine first.add ⟨made, present, halves.2⟩ fun other there before => ?_
      rcases Registry.find_set_cases before with ⟨_, rfl, _⟩ | ⟨away, before⟩
      · exact ⟨iff_of_true rfl rfl, fun _ both => nomatch both.1⟩
      · exact sound.separate found before rfl fun _ => ⟨rfl, away⟩
  | @clone name self found =>
      obtain ⟨made, present, parts⟩ := sound.belongs name _ found
      exact sound.add ⟨made, present, SocketeerTx.BelongsTo.clone parts⟩ fun other there before =>
        sound.separate found before rfl nofun
  | drop | lost => exact sound.remove
  | @reunited rx tx receiver sender whole found found' reunites =>
      have inside := reunite_belongs sound found found' reunites (sound.belongs rx _ found)
      refine sound.remove.set inside fun other there _ before => ?_
      obtain ⟨away, before⟩ := Registry.find_remove_cases before
      exact sound.separate found before (congrArg Socketeer.terminalError (reunite_ok reunites).2)
        fun _ => ⟨rfl, away⟩
  | @reconnecting name self found =>
      obtain ⟨made, present, parts⟩ := sound.belongs name _ found
      exact sound.set ⟨made, present, parts⟩ fun other there away before =>
        sound.separate found before rfl fun _ => ⟨rfl, away⟩
  | @reconnected name network address socketeer task self found free made =>
      obtain ⟨belongs, address⟩ := connectWithCodec_ok made
      refine sound.remove.enter belongs fun other handle there => ?_
      rw [address]
      exact free.apart (Registry.find_remove_cases there).2

/-- Every reachable world is sound. -/
theorem sound (reached : (world externals C H).Reachable w) : Sound externals w := by
  apply reached.invariant (Sound externals)
  · constructor
    · intro name handle found
      cases found
    · intro name other handle handle' found
      cases found
    · intro conn made present
      cases present
  · intro w operation w' _ sound step
    exact sound.step (step_rule step)

/-- A name that was given out before stands for something of the connection it
stood for. -/
theorem came_from (sound : Sound externals w) {operation : Operation U N V C H R E}
    (rule : Rule externals w operation w') {name : HandleName} {handle : Handle U N V C H}
    (found : w'.handles.find name = some handle) (old : name < w.handles.named) :
    ∃ before, w.handles.find name = some before ∧
      before.terminalError.slot = handle.terminalError.slot := by
  cases rule with
  | connected =>
      rcases Registry.find_add_cases found with ⟨rfl, _⟩ | before
      · exact absurd old (Nat.lt_irrefl _)
      · exact ⟨handle, before, rfl⟩
  | failed | refused => exact ⟨handle, found, rfl⟩
  | @split split self there =>
      rcases Registry.find_add_cases found with ⟨rfl, _⟩ | before
      · exact absurd old (Nat.lt_irrefl _)
      · rcases Registry.find_set_cases before with ⟨rfl, rfl, _⟩ | ⟨_, before⟩
        · exact ⟨_, there, rfl⟩
        · exact ⟨handle, before, rfl⟩
  | clone =>
      rcases Registry.find_add_cases found with ⟨rfl, _⟩ | before
      · exact absurd old (Nat.lt_irrefl _)
      · exact ⟨handle, before, rfl⟩
  | drop | lost => exact ⟨handle, (Registry.find_remove_cases found).2, rfl⟩
  | @reunited rx tx receiver sender whole there there' reunites =>
      rcases Registry.find_set_cases found with ⟨rfl, rfl, _⟩ | ⟨_, before⟩
      · obtain ⟨same, rfl⟩ := reunite_ok reunites
        exact ⟨_, there', ((sound.coherent there there').mp same).symm⟩
      · exact ⟨handle, (Registry.find_remove_cases before).2, rfl⟩
  | reconnecting there =>
      rcases Registry.find_set_cases found with ⟨rfl, rfl, _⟩ | ⟨_, before⟩
      · exact ⟨_, there, rfl⟩
      · exact ⟨handle, before, rfl⟩
  | reconnected =>
      rcases Registry.find_add_cases found with ⟨rfl, _⟩ | before
      · exact absurd old (Nat.lt_irrefl _)
      · exact ⟨handle, (Registry.find_remove_cases before).2, rfl⟩

/-- Names are not given twice. -/
theorem named_le {operation : Operation U N V C H R E} (rule : Rule externals w operation w') :
    w.handles.named ≤ w'.handles.named := by
  cases rule with
  | connected | split | clone | reconnected => exact Nat.le_succ _
  | failed | refused | drop | lost | reunited | reconnecting => exact Nat.le_refl _

/-- As long as a name stands for something, it is of one connection. -/
theorem stays (reached : (world externals C H).Reachable w)
    {trace : List (World U N V C H R E × Operation U N V C H R E)} {final : World U N V C H R E}
    (run : (world externals C H).Run w trace final) {name : HandleName}
    {handle handle' : Handle U N V C H} (found : w.handles.find name = some handle)
    (found' : final.handles.find name = some handle') :
    handle'.terminalError.slot = handle.terminalError.slot := by
  obtain ⟨_, start⟩ := reached
  have kept : name < final.handles.named ∧ ∀ later, final.handles.find name = some later →
      later.terminalError.slot = handle.terminalError.slot := by
    clear found'
    induction run with
    | nil =>
        refine ⟨Registry.lt_named found, fun later present => ?_⟩
        rw [Option.some.inj (present.symm.trans found)]
    | snoc earlier step ih =>
        obtain ⟨old, same⟩ := ih
        have rule := step_rule step
        refine ⟨old.trans_le (named_le rule), fun later present => ?_⟩
        obtain ⟨before, there, slot⟩ := came_from (sound ⟨_, start.append earlier⟩) rule present old
        rw [← slot]
        exact same before there
  exact kept.2 handle' found'

/-- The handle that a `reconnect` returns is of another connection than all that
is held meanwhile. -/
theorem reconnected_fresh (sound : Sound externals w) {name other : HandleName}
    {network : Request R N V → H → Except (Error E) H} {address : Nat}
    {handle fresh : Handle U N V C H}
    (step : w.step externals (.reconnected name network address) = some w')
    (made : w'.handles.find w.handles.named = some fresh)
    (found : w.handles.find other = some handle) :
    fresh.terminalError.slot ≠ handle.terminalError.slot := by
  have earlier := sound.slot_lt found
  cases step_rule step with
  | lost =>
      have absent := (Registry.find_remove_cases made).2
      exact absurd (Registry.lt_named absent) (Nat.lt_irrefl _)
  | reconnected _ _ connected =>
      rcases Registry.find_add_cases made with ⟨_, rfl⟩ | before
      · have slot := (connectWithCodec_ok connected).1.slot
        exact fun same => absurd (slot.symm.trans same) (Nat.ne_of_gt earlier)
      · have absent := (Registry.find_remove_cases before).2
        exact absurd (Registry.lt_named absent) (Nat.lt_irrefl _)

/-- Halves that are refused are returned, and are held as before. -/
theorem reunite_error {name other : HandleName} {rx : SocketeerRx U N V C H} {tx : SocketeerTx C}
    {halves : ReuniteError U N V C H} (found : w.handles.find name = some (.rx rx))
    (found' : w.handles.find other = some (.tx tx)) (refuses : rx.reunite tx = .error halves) :
    halves = { tx := tx, rx := rx } ∧ w.step externals (.reunite name other) = some w := by
  rcases reunite_cases rx tx with ⟨_, reunites⟩ | ⟨_, refuses'⟩
  · rw [reunites] at refuses
    cases refuses
  · refine ⟨(Except.error.inj (refuses.symm.trans refuses')), ?_⟩
    simp only [World.step, World.reunite, found, found', refuses', Registry.set_same found,
      Registry.set_same found']

/-- All parts of whatever is held are those of one connection, and each
connection has at most one owner of its receive half. So two halves are
recombined if and only if they are of one connection, and returned as they were
otherwise; a name never passes to another connection, so a sender that is kept
reaches no task but that of its own; and what `reconnect` returns is of another
connection than all that is kept. -/
theorem handles_never_mix (reached : (world externals C H).Reachable w) :
    (∀ name handle, w.handles.find name = some handle → ∃ conn, w.Belongs externals handle conn) ∧
    (∀ name other handle handle' conn, w.handles.find name = some handle →
      w.handles.find other = some handle' → w.Belongs externals handle conn →
      w.Belongs externals handle' conn →
      handle.receives = true → handle'.receives = true → name = other) ∧
    (∀ name other rx tx, w.handles.find name = some (.rx rx) →
      w.handles.find other = some (.tx tx) →
      ((∃ whole, rx.reunite tx = .ok whole) ↔
        ∃ conn, w.Belongs externals (.rx rx) conn ∧ w.Belongs externals (.tx tx) conn) ∧
      (∀ whole conn, rx.reunite tx = .ok whole → w.Belongs externals (.rx rx) conn →
        w.Belongs externals (.socketeer whole) conn) ∧
      ∀ halves, rx.reunite tx = .error halves → halves = { tx := tx, rx := rx } ∧
        w.step externals (.reunite name other) = some w) ∧
    (∀ trace final name handle tx conn, (world externals C H).Run w trace final →
      w.handles.find name = some handle → w.Belongs externals handle conn →
      final.handles.find name = some (.tx tx) → ∀ conn', final.Reaches tx conn' ↔ conn' = conn) ∧
    ∀ name other network address w' handle fresh conn,
      w.step externals (.reconnected name network address) = some w' →
      w'.handles.find w.handles.named = some fresh → w.handles.find other = some handle →
      w.Belongs externals handle conn → ¬ w'.Belongs externals fresh conn := by
  have sound := sound reached
  refine ⟨fun name handle found => ⟨_, sound.belongs name handle found⟩, ?_, ?_, ?_, ?_⟩
  · intro name other handle handle' conn found found' belongs belongs' receives receives'
    exact sound.owner found found' (belongs.slot.trans belongs'.slot.symm) receives receives'
  · intro name other rx tx found found'
    refine ⟨reunite_ok_iff sound found found', ?_, fun halves => reunite_error found found'⟩
    exact fun whole conn => reunite_belongs sound found found'
  · intro trace final name handle tx conn run found belongs kept conn'
    have slot : tx.terminalError.slot = handle.terminalError.slot := stays reached run found kept
    obtain ⟨_, start⟩ := reached
    rw [reaches_iff (World.sound ⟨_, start.append run⟩) kept, slot, belongs.slot]
  · intro name other network address w' handle fresh conn step made found belongs inside
    exact reconnected_fresh sound step made found (inside.slot.trans belongs.slot.symm)

/-- Any string is a URL. -/
def anyUrl : Externals String String String String Unit where
  parse := .ok
  asStr := id
  intoClientRequest := ConnectOptions.bareRequest

/-- A sender is cloned before its connection is put together again and replaced,
and the new connection is split. -/
def keptClone : List (Operation String String String Unit Unit String Unit) :=
  [.connect "ws://localhost" .default () () (fun _ handler => .ok handler) 7, .split 0, .clone 0,
    .reunite 1 0, .reconnect 0, .reconnected 0 (fun _ handler => .ok handler) 8, .split 3]

/-- The new receiver and the old sender stay apart. -/
theorem handles_never_mix_keptClone :
    let w := (world anyUrl Unit Unit).follow (world anyUrl Unit Unit).init keptClone
    ∃ rx tx, w.handles.find 4 = some (.rx rx) ∧ w.handles.find 2 = some (.tx tx) ∧
      rx.reunite tx = .error { tx := tx, rx := rx } ∧
      w.step anyUrl (.reunite 4 2) = some w := by
  intro w
  have reached : (world anyUrl Unit Unit).Reachable w :=
    (world anyUrl Unit Unit).follow_reachable keptClone
  exact ⟨_, _, rfl, rfl, rfl, ((handles_never_mix reached).2.2.1 4 2 _ _ rfl rfl).2.2 _ rfl |>.2⟩

end World

end Socketeer
