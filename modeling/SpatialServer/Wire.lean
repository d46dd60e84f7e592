import SpatialServer.Entities

/-!
# Inbound packets

A client packet is an eight-byte header followed by a payload that may be
compressed. Decompression and the unmarshalling of the three inbound messages
are parameters; the header is decoded here.
-/
namespace SpatialServer

abbrev Bytes := List UInt8

namespace Wire

def protocolVersionV1 : UInt8 := 0x01
def compressionFlag : UInt8 := 0x01

def packetIDPositionUpdate : ℕ := 0x03
def packetIDEntityAction : ℕ := 0x07
def packetIDEntityState : ℕ := 0x08

inductive GunzipError where
  | reader
  | decompress
  deriving DecidableEq, Repr

inductive DecodeError where
  | packetTooShort (bytes : ℕ)
  | unsupportedVersion
  | gzipReader
  | gzipDecompress
  deriving DecidableEq, Repr

structure Decoded where
  version : UInt8
  id : ℕ
  payload : Bytes
  compressed : Bool
  seq : ℕ
  deriving DecidableEq, Repr

/-- A missing position message reads as the zero vector field by field. -/
structure EntityUpdate where
  entityID : String
  position : Option Vector3

structure EntityAction where
  entityID : String
  action : String
  payload : Bytes

structure EntityState where
  entityID : String

structure Codec where
  gunzip : Bytes → Except GunzipError Bytes
  entityUpdate : Bytes → Option EntityUpdate
  entityAction : Bytes → Option EntityAction
  entityState : Bytes → Option EntityState

/-- Both integers of the header are big-endian. -/
def decode (c : Codec) (packet : Bytes) : Except DecodeError Decoded :=
  match packet with
  | version :: i1 :: i0 :: flags :: s3 :: s2 :: s1 :: s0 :: data =>
    if version ≠ protocolVersionV1 then .error .unsupportedVersion
    else
      let id := i1.toNat * 256 + i0.toNat
      let seq := ((s3.toNat * 256 + s2.toNat) * 256 + s1.toNat) * 256 + s0.toNat
      if flags &&& compressionFlag ≠ 0 then
        match c.gunzip data with
        | .error .reader => .error .gzipReader
        | .error .decompress => .error .gzipDecompress
        | .ok plain => .ok ⟨version, id, plain, true, seq⟩
      else .ok ⟨version, id, data, false, seq⟩
  | short => .error (.packetTooShort short.length)

end Wire

/-- What a game server takes from its host. -/
structure Host where
  numerics : Numerics
  codec : Wire.Codec

/-- A host without randomness or compression, on which every position update
asks for the same position. -/
def Host.steady (pos : Vector3) : Host where
  numerics := ⟨fun _ => 0, fun _ => 1, fun _ => 0, fun n => (0, n)⟩
  codec := ⟨.ok, fun _ => some ⟨"", some pos⟩, fun _ => none, fun _ => none⟩

end SpatialServer
