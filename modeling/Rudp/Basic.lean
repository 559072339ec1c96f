import Mathlib.Data.UInt
import Mathlib.Tactic.SplitIfs
import Mathlib.Tactic.Use

/-!
# Data model of the RUDP connection layer

What the connection manager and the transport read; what they take from files
outside this snapshot is bundled in `Externals` and `PacketCodec`.
-/

set_option autoImplicit false

namespace Rudp

/-- `uint32_t` socket ids, ordered as `std::map` orders its keys. -/
instance uint32LinearOrder : LinearOrder UInt32 where
  le := (· ≤ ·)
  lt := (· < ·)
  le_refl a := UInt32.le_refl a
  le_trans _ _ _ := UInt32.le_trans
  le_antisymm _ _ below above := UInt32.toNat.inj (Nat.le_antisymm below above)
  le_total := UInt32.le_total
  lt_iff_le_not_le _ _ := Nat.lt_iff_le_not_le
  decidableLE := inferInstance
  decidableEq := inferInstance
  decidableLT := inferInstance

/-!
## Identities and endpoints
-/

/-- Modelled from the spec: a node id is an opaque identifier, here its bits read
as a number, and the default `NodeId()` the code uses to say "no peer" is the
one invalid id. -/
structure NodeId where
  raw : Nat
deriving DecidableEq, Repr

/-- `NodeId()`. -/
def NodeId.null : NodeId := ⟨0⟩

/-- Modelled from the spec: `NodeId::IsValid`. -/
def NodeId.isValid (id : NodeId) : Bool := id.raw != 0

@[simp] theorem NodeId.isValid_null : NodeId.null.isValid = false := rfl

/-- An `asio::ip::address`. -/
inductive IpAddress where
  | v4 (bits : UInt32)
  | v6 (bits : BitVec 128)
deriving DecidableEq, Repr

/-- An `asio::ip::udp::endpoint`. -/
structure Endpoint where
  address : IpAddress
  port : UInt16
deriving DecidableEq, Repr

/-- `Endpoint()`: the unspecified IPv4 address and port 0. -/
def Endpoint.null : Endpoint := ⟨.v4 0, 0⟩

/-- The two endpoints a peer may be reached on during a rendezvous connect. -/
structure EndpointPair where
  localEndpoint : Endpoint
  externalEndpoint : Endpoint
deriving DecidableEq, Repr

/-- An `asymm::PublicKey`, carried through the handshake and never inspected. -/
structure PublicKey where
  raw : List UInt8
deriving DecidableEq, Repr

/-- A bootstrap candidate. -/
structure Contact where
  id : NodeId
  endpointPair : EndpointPair
  publicKey : PublicKey
deriving DecidableEq, Repr

/-- `Contact()`. -/
def Contact.null : Contact := ⟨NodeId.null, ⟨Endpoint.null, Endpoint.null⟩, ⟨[]⟩⟩

/-- A `bptime::time_duration`: a tick count, or `pos_infin`. -/
inductive Duration where
  | ticks (count : Nat)
  | posInfin
deriving DecidableEq, Repr

/-- `bptime::time_duration()`. -/
def Duration.zero : Duration := .ticks 0

/-- The transport's view of its own NAT. -/
inductive NatType where
  | unknown
  | symmetric
  | other
deriving DecidableEq, Repr

/-!
## Handshakes, sockets and connections
-/

/-- Modelled from the spec: the reasons a handshake may carry (`Session::Mode`). -/
inductive ConnectionReason where
  | normal
  | bootstrapAndDrop
  | natDetection
  | ping
deriving DecidableEq, Repr

/-- The fields of a decoded `HandshakePacket` that the dispatcher reads. -/
structure HandshakePacket where
  nodeId : NodeId
  connectionReason : ConnectionReason
deriving DecidableEq, Repr

/-- A `Socket`, through the accessors the connection layer calls. -/
structure Socket where
  peerEndpoint : Endpoint
  peerNodeId : NodeId
  peerPublicKey : PublicKey
  peerGuessedPort : UInt16
  thisEndpoint : Endpoint
  remoteNatDetectionEndpoint : Endpoint
  isConnected : Bool
deriving DecidableEq, Repr

/-- Modelled from the spec: `Socket::UpdatePeerEndpoint` moves the socket to the
new peer endpoint and records the port it expected as the guessed port. -/
def Socket.updatePeerEndpoint (socket : Socket) (endpoint : Endpoint) : Socket :=
  { socket with peerEndpoint := endpoint, peerGuessedPort := socket.peerEndpoint.port }

@[simp] theorem Socket.updatePeerEndpoint_peerEndpoint (socket : Socket) (endpoint : Endpoint) :
    (socket.updatePeerEndpoint endpoint).peerEndpoint = endpoint := rfl

@[simp] theorem Socket.updatePeerEndpoint_peerNodeId (socket : Socket) (endpoint : Endpoint) :
    (socket.updatePeerEndpoint endpoint).peerNodeId = socket.peerNodeId := rfl

/-- Modelled from the spec: the socket a fresh connection starts its handshake
with, aimed at the requested peer. -/
def Socket.connecting (peerId : NodeId) (peerEndpoint : Endpoint) : Socket :=
  ⟨peerEndpoint, peerId, ⟨[]⟩, 0, Endpoint.null, Endpoint.null, false⟩

/-- `Connection::State`. -/
inductive Connection.State where
  | pending
  | bootstrapping
  | temporary
  | unvalidated
  | permanent
  | duplicate
deriving DecidableEq, Repr

/-- `IsNormal` of `connection_manager.cc`. -/
def Connection.State.isNormal : Connection.State → Bool
  | .permanent | .unvalidated | .bootstrapping => true
  | _ => false

/-- A `Connection` owns its `Socket` as a member, so a `Socket*` is the address
of the connection that owns it. -/
structure Connection where
  state : Connection.State
  socket : Socket
deriving DecidableEq, Repr

/-- Addresses of connection objects, and of the sockets they own. -/
abbrev ConnRef := Nat

/-!
## Collaborators outside the snapshot
-/

/-- The codes of `return_codes.h` that the modelled code names. -/
inductive ReturnCode where
  | success
  | notConnectable
  | invalidConnection
  | connectionAlreadyExists
deriving DecidableEq, Repr

/-- The `RudpErrors` an attempt can fail with; `none` is the empty error code. -/
inductive RudpError where
  | timedOut
  | failedToConnect
deriving DecidableEq, Repr

/-- What the modelled code takes from `utils.h`, `parameters.h` and
`return_codes.h`, none of which is part of this snapshot. -/
structure Externals where
  isValid : Endpoint → Bool
  onPrivateNetwork : Endpoint → Bool
  bootstrapConnectTimeout : Duration
  bootstrapConnectionLifespan : Duration
  rendezvousConnectTimeout : Duration
  returnCodeValue : ReturnCode → Int

/-- `Packet::DecodeDestinationSocketId` and `HandshakePacket::Decode`. -/
structure PacketCodec (Buffer : Type) where
  decodeDestinationSocketId : Buffer → Option UInt32
  decodeHandshake : Buffer → Option HandshakePacket

/-- A buffer given by what the codec reads from it. -/
def PacketCodec.decoded : PacketCodec (Option UInt32 × Option HandshakePacket) := ⟨Prod.fst, Prod.snd⟩

/-- Modelled from the spec: RFC 1918, loopback and link-local addresses are private. -/
def IpAddress.onPrivateNetwork : IpAddress → Bool
  | .v4 bits =>
      let first := bits.toNat / 2 ^ 24
      let second := bits.toNat / 2 ^ 16 % 256
      first == 10 || (first == 172 && 16 ≤ second && second ≤ 31) || (first == 192 && second == 168) ||
        first == 127 || (first == 169 && second == 254)
  | .v6 bits => bits.toNat == 1 || bits.toNat / 2 ^ 118 == 0x3fa

/-- Modelled from the spec: the endpoint helpers as the spec describes them, with
`IsValid` rejecting the null endpoint. The spec gives no values for the timeouts
or the return codes; those here are placeholders. -/
def Externals.described : Externals where
  isValid endpoint := endpoint != Endpoint.null
  onPrivateNetwork endpoint := endpoint.address.onPrivateNetwork
  bootstrapConnectTimeout := .ticks 0
  bootstrapConnectionLifespan := .ticks 0
  rendezvousConnectTimeout := .ticks 0
  returnCodeValue
    | .success => 0
    | .notConnectable => -1
    | .invalidConnection => -2
    | .connectionAlreadyExists => -3

end Rudp
