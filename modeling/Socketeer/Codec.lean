import Socketeer.Message

/-! # Codecs

The three codecs of the crate, over what `serde_json` and `rmp_serde` make of
the values. A codec is good for a connection when the other side reads what it
wrote (`Codec.ReadBy`).
-/

namespace Socketeer

variable {E Tx Rx Rx' Tx' : Type}

/-- `serde_json`, on the values of a connection; errors are as displayed. -/
structure SerdeJson (Tx Rx : Type) where
  toString : Tx → Except String String
  fromStr : String → Except String Rx
  fromSlice : Bytes → Except String Rx

/-- `rmp_serde`, on the values of a connection. -/
structure RmpSerde (Tx Rx : Type) where
  toVecNamed : Tx → Except String Bytes
  fromSlice : Bytes → Except String Rx

def JsonCodec (serde : SerdeJson Tx Rx) : Codec E Tx Rx where
  encode value :=
    match serde.toString value with
    | .ok text => .ok (.text text)
    | .error e => .error (.codec e)
  decode
    | .text text => (serde.fromStr text).mapError .codec
    | .binary bytes => (serde.fromSlice bytes).mapError .codec
    | other => .error (.unexpectedMessageType other)

def MsgPackCodec (serde : RmpSerde Tx Rx) : Codec E Tx Rx where
  encode value :=
    match serde.toVecNamed value with
    | .ok bytes => .ok (.binary bytes)
    | .error e => .error (.codec e)
  decode
    | .binary bytes => (serde.fromSlice bytes).mapError .codec
    | other => .error (.unexpectedMessageType other)

def RawCodec : Codec E Message Message where
  encode value := .ok value
  decode frame := .ok frame

namespace Codec

/-- Whatever the codec writes for a value, the other one reads as that value. -/
def ReadBy (codec : Codec E Tx Rx) (peer : Codec E Tx' Tx) : Prop :=
  ∀ value frame, codec.encode value = .ok frame → peer.decode frame = .ok value

end Codec

/-- JSON goes in text frames. -/
theorem JsonCodec.encode_ok {serde : SerdeJson Tx Rx} {value : Tx} {frame : Message}
    (encoded : (JsonCodec serde : Codec E Tx Rx).encode value = .ok frame) :
    ∃ text, serde.toString value = .ok text ∧ frame = .text text := by
  simp only [JsonCodec] at encoded
  cases made : serde.toString value with
  | ok text =>
      rw [made] at encoded
      cases encoded
      exact ⟨text, rfl, rfl⟩
  | error e =>
      rw [made] at encoded
      cases encoded

/-- MessagePack goes in binary frames. -/
theorem MsgPackCodec.encode_ok {serde : RmpSerde Tx Rx} {value : Tx} {frame : Message}
    (encoded : (MsgPackCodec serde : Codec E Tx Rx).encode value = .ok frame) :
    ∃ bytes, serde.toVecNamed value = .ok bytes ∧ frame = .binary bytes := by
  simp only [MsgPackCodec] at encoded
  cases made : serde.toVecNamed value with
  | ok bytes =>
      rw [made] at encoded
      cases encoded
      exact ⟨bytes, rfl, rfl⟩
  | error e =>
      rw [made] at encoded
      cases encoded

/-- JSON is read back if `serde_json` reads back what it writes. -/
theorem JsonCodec.readBy {serde : SerdeJson Tx Rx} {other : SerdeJson Tx' Tx}
    (inverse : ∀ value text, serde.toString value = .ok text → other.fromStr text = .ok value) :
    (JsonCodec serde : Codec E Tx Rx).ReadBy (JsonCodec other) := by
  intro value frame encoded
  obtain ⟨text, made, rfl⟩ := JsonCodec.encode_ok encoded
  simp only [JsonCodec, inverse value text made]
  rfl

/-- A peer whose MessagePack inverts ours reads what we send. -/
theorem MsgPackCodec.readBy {serde : RmpSerde Tx Rx} {other : RmpSerde Tx' Tx}
    (inverse : ∀ value bytes, serde.toVecNamed value = .ok bytes →
      other.fromSlice bytes = .ok value) :
    (MsgPackCodec serde : Codec E Tx Rx).ReadBy (MsgPackCodec other) := by
  intro value frame encoded
  obtain ⟨bytes, made, rfl⟩ := MsgPackCodec.encode_ok encoded
  simp only [MsgPackCodec, inverse value bytes made]
  rfl

/-- Raw frames are read as they are. -/
theorem RawCodec.readBy : (RawCodec : Codec E Message Message).ReadBy RawCodec :=
  fun _ _ encoded => encoded.symm

end Socketeer
