import Mathlib.Data.UInt

/-! # Frames, errors and payloads

The data that moves between the handles, the socket loop and the network. The
error type of `tungstenite` is a parameter: the loop only moves its values.
-/

namespace Socketeer

abbrev Bytes := List UInt8

structure CloseFrame where
  code : UInt16
  reason : String
  deriving DecidableEq, Repr

/-- `tungstenite::Message`. -/
inductive Message where
  | text (payload : String)
  | binary (payload : Bytes)
  | ping (payload : Bytes)
  | pong (payload : Bytes)
  | close (frame : Option CloseFrame)
  | frame (raw : Bytes)
  deriving DecidableEq, Repr

/-- `socketeer::Error`, with the sources it boxes or displays as text. -/
inductive Error (E : Type) where
  | urlParse (url source : String)
  | websocketError (source : E)
  | websocketClosed
  | unexpectedMessageType (message : Message)
  | codec (source : String)
  | socketeerDroppedWithoutClosing
  deriving DecidableEq, Repr

abbrev HandleId := Nat

abbrev CallId := Nat

/-- A frame to send, with the one-shot on which the loop reports the result of
the underlying `sink.send`; the one-shot carries the name of the call that
created it. `none` for fire-and-forget sends. -/
structure TxChannelPayload where
  message : Message
  responseTx : Option CallId
  deriving DecidableEq, Repr

/-- An item of the inbound stream; `none` is its end. -/
abbrev StreamItem (E : Type) := Option (Except E Message)

/-- `Codec`, for the values a connection sends and those it receives. -/
structure Codec (E Tx Rx : Type) where
  encode : Tx → Except (Error E) Message
  decode : Message → Except (Error E) Rx

/-- What a connection is configured with: `CHANNEL_SIZE`, which the channel
constructor requires to be positive, and the two keepalive options. -/
structure LoopConfig where
  channelSize : Nat
  keepaliveInterval : Option Nat
  customKeepaliveMessage : Option Message
  channelSizePos : 0 < channelSize

/-- Room for one frame, and no keepalive. -/
def LoopConfig.single : LoopConfig where
  channelSize := 1
  keepaliveInterval := none
  customKeepaliveMessage := none
  channelSizePos := Nat.one_pos

/-- Room for two frames, and no keepalive. -/
def LoopConfig.double : LoopConfig where
  channelSize := 2
  keepaliveInterval := none
  customKeepaliveMessage := none
  channelSizePos := Nat.two_pos

/-- Room for one frame, and a keepalive that sends pings. -/
def LoopConfig.timed : LoopConfig where
  channelSize := 1
  keepaliveInterval := some 5
  customKeepaliveMessage := none
  channelSizePos := Nat.one_pos

/-- The frames that carry data, as opposed to protocol frames. -/
def Message.data? : Message → Option Message
  | .text payload => some (.text payload)
  | .binary payload => some (.binary payload)
  | _ => none

/-- Data frames are texts and binary frames, as they are. -/
theorem Message.data?_eq_some {message frame : Message} (data : message.data? = some frame) :
    frame = message ∧
      ((∃ payload, frame = .text payload) ∨ ∃ payload, frame = .binary payload) := by
  cases message with
  | text payload =>
      obtain rfl := Option.some.inj data
      exact ⟨rfl, .inl ⟨payload, rfl⟩⟩
  | binary payload =>
      obtain rfl := Option.some.inj data
      exact ⟨rfl, .inr ⟨payload, rfl⟩⟩
  | ping _ | pong _ | close _ | frame _ => cases data

end Socketeer
