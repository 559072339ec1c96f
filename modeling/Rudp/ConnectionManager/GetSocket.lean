import Rudp.ConnectionManager.Sockets

/-!
# Steering datagrams to sockets

`GetSocket` of `connection_manager.cc`, and the spec's dispatch table it follows.
-/

set_option autoImplicit false

namespace Rudp

namespace ConnectionManager

variable {Buffer : Type} (codec : PacketCodec Buffer) (ext : Externals) (cm : ConnectionManager)

/-- The socket behind a registry entry. -/
def socketAt (socket : ConnRef) : Socket := (cm.heap socket).socket

/-- `std::find_if` over the registry: the first entry, in id order, whose socket matches. -/
def findSocket (accepts : Socket → Bool) : Option (UInt32 × ConnRef) :=
  cm.sockets.entries.find? (fun entry => accepts (cm.socketAt entry.2))

/-- The search for the socket expecting exactly this peer endpoint. -/
def expectsEndpoint (endpoint : Endpoint) (socket : Socket) : Bool :=
  socket.peerEndpoint == endpoint

/-- The symmetric-NAT search: same address, public peer endpoint, not yet connected. -/
def natRevisable (endpoint : Endpoint) (socket : Socket) : Bool :=
  socket.peerEndpoint.address == endpoint.address && !ext.onPrivateNetwork socket.peerEndpoint &&
    !socket.isConnected

/-- `UpdatePeerEndpoint` on the socket owned by the connection at `socket`. -/
def updatePeerEndpoint (socket : ConnRef) (endpoint : Endpoint) : ConnectionManager :=
  let revised : Connection := ⟨(cm.heap socket).state, (cm.socketAt socket).updatePeerEndpoint endpoint⟩
  { cm with heap := Function.update cm.heap socket revised }

@[simp] theorem updatePeerEndpoint_sockets (socket : ConnRef) (endpoint : Endpoint) :
    (cm.updatePeerEndpoint socket endpoint).sockets = cm.sockets := rfl

@[simp] theorem updatePeerEndpoint_connections (socket : ConnRef) (endpoint : Endpoint) :
    (cm.updatePeerEndpoint socket endpoint).connections = cm.connections := rfl

@[simp] theorem updatePeerEndpoint_nextRef (socket : ConnRef) (endpoint : Endpoint) :
    (cm.updatePeerEndpoint socket endpoint).nextRef = cm.nextRef := rfl

@[simp] theorem updatePeerEndpoint_tasks (socket : ConnRef) (endpoint : Endpoint) :
    (cm.updatePeerEndpoint socket endpoint).tasks = cm.tasks := rfl

@[simp] theorem updatePeerEndpoint_socketAt_self (socket : ConnRef) (endpoint : Endpoint) :
    (cm.updatePeerEndpoint socket endpoint).socketAt socket =
      (cm.socketAt socket).updatePeerEndpoint endpoint := by
  simp [updatePeerEndpoint, socketAt]

theorem updatePeerEndpoint_heap_of_ne {socket other : ConnRef} (endpoint : Endpoint)
    (different : other ≠ socket) : (cm.updatePeerEndpoint socket endpoint).heap other = cm.heap other :=
  Function.update_noteq different _ _

/-- `GetSocket`: the socket a datagram from `endpoint` is delivered to, and the
manager afterwards. `transportAlive` is whether `HandlePingFrom`'s connect
finds the transport alive. -/
def getSocket (transportAlive : Bool) (data : Buffer) (endpoint : Endpoint) :
    Option ConnRef × ConnectionManager :=
  if cm.sockets.isEmpty then (none, cm)
  else
    match codec.decodeDestinationSocketId data with
    | none => (none, cm)
    | some socketId =>
        if socketId = 0 then
          match codec.decodeHandshake data with
          | none => (none, cm)
          | some handshake =>
              if handshake.connectionReason = .normal then
                match cm.findSocket (expectsEndpoint endpoint) with
                | some entry => (some entry.2, cm)
                | none =>
                    match cm.findSocket (natRevisable ext endpoint) with
                    | some entry => (some entry.2, cm.updatePeerEndpoint entry.2 endpoint)
                    | none => (none, cm)
              else
                match cm.findSocket (expectsEndpoint endpoint) with
                | some entry => (some entry.2, cm)
                | none => (none, cm.handlePingFrom ext transportAlive handshake endpoint)
        else (cm.sockets.find socketId, cm)

/-!
## The spec's dispatch table
-/

/-- A socket of the registry. -/
def Registered (socket : ConnRef) : Prop := ∃ id, (id, socket) ∈ cm.sockets.entries

/-- What a dispatch does: drop the datagram, deliver it to a socket, revise a
socket's peer endpoint and deliver it there, or hand its handshake to
`HandlePingFrom`. -/
inductive Dispatch where
  | drop
  | deliver (socket : ConnRef)
  | revise (socket : ConnRef)
  | pingFrom (handshake : HandshakePacket)
deriving DecidableEq, Repr

/-- The result and the manager afterwards that a dispatch stands for. A
revision sets the socket's peer endpoint to the sender's, keeps the old port as
the guessed port, and changes nothing else. -/
def Dispatch.perform (transportAlive : Bool) (endpoint : Endpoint) :
    Dispatch → Option ConnRef × ConnectionManager
  | .drop => (none, cm)
  | .deliver socket => (some socket, cm)
  | .revise socket =>
      (some socket, { cm with
        heap := Function.update cm.heap socket { cm.heap socket with
          socket := { cm.socketAt socket with
            peerEndpoint := endpoint, peerGuessedPort := (cm.socketAt socket).peerEndpoint.port } } })
  | .pingFrom handshake => (none, cm.handlePingFrom ext transportAlive handshake endpoint)

/-- The dispatch table of the spec for a datagram from `endpoint`, preceded by
the code's empty-registry guard: each constructor is one row. -/
inductive DispatchTable (data : Buffer) (endpoint : Endpoint) : Dispatch → Prop where
  | emptyRegistry : cm.sockets.entries = [] → DispatchTable data endpoint .drop
  | notRudp : cm.sockets.entries ≠ [] → codec.decodeDestinationSocketId data = none →
      DispatchTable data endpoint .drop
  | bound {id : UInt32} {socket : ConnRef} : cm.sockets.entries ≠ [] →
      codec.decodeDestinationSocketId data = some id → id ≠ 0 → cm.sockets.find id = some socket →
      DispatchTable data endpoint (.deliver socket)
  | unbound {id : UInt32} : cm.sockets.entries ≠ [] →
      codec.decodeDestinationSocketId data = some id → id ≠ 0 → cm.sockets.find id = none →
      DispatchTable data endpoint .drop
  | badHandshake : cm.sockets.entries ≠ [] → codec.decodeDestinationSocketId data = some 0 →
      codec.decodeHandshake data = none → DispatchTable data endpoint .drop
  | normalExact {handshake : HandshakePacket} {socket : ConnRef} : cm.sockets.entries ≠ [] →
      codec.decodeDestinationSocketId data = some 0 → codec.decodeHandshake data = some handshake →
      handshake.connectionReason = .normal → cm.Registered socket →
      (cm.socketAt socket).peerEndpoint = endpoint → DispatchTable data endpoint (.deliver socket)
  | normalRevise {handshake : HandshakePacket} {socket : ConnRef} : cm.sockets.entries ≠ [] →
      codec.decodeDestinationSocketId data = some 0 → codec.decodeHandshake data = some handshake →
      handshake.connectionReason = .normal →
      (∀ other, cm.Registered other → (cm.socketAt other).peerEndpoint ≠ endpoint) →
      cm.Registered socket → (cm.socketAt socket).peerEndpoint.address = endpoint.address →
      ext.onPrivateNetwork (cm.socketAt socket).peerEndpoint = false →
      (cm.socketAt socket).isConnected = false → DispatchTable data endpoint (.revise socket)
  | normalDrop {handshake : HandshakePacket} : cm.sockets.entries ≠ [] →
      codec.decodeDestinationSocketId data = some 0 → codec.decodeHandshake data = some handshake →
      handshake.connectionReason = .normal →
      (∀ other, cm.Registered other → (cm.socketAt other).peerEndpoint ≠ endpoint) →
      (∀ other, cm.Registered other → ¬ ((cm.socketAt other).peerEndpoint.address = endpoint.address ∧
        ext.onPrivateNetwork (cm.socketAt other).peerEndpoint = false ∧ (cm.socketAt other).isConnected = false)) →
      DispatchTable data endpoint .drop
  | otherExact {handshake : HandshakePacket} {socket : ConnRef} : cm.sockets.entries ≠ [] →
      codec.decodeDestinationSocketId data = some 0 → codec.decodeHandshake data = some handshake →
      handshake.connectionReason ≠ .normal → cm.Registered socket →
      (cm.socketAt socket).peerEndpoint = endpoint → DispatchTable data endpoint (.deliver socket)
  | otherPing {handshake : HandshakePacket} : cm.sockets.entries ≠ [] →
      codec.decodeDestinationSocketId data = some 0 → codec.decodeHandshake data = some handshake →
      handshake.connectionReason ≠ .normal →
      (∀ other, cm.Registered other → (cm.socketAt other).peerEndpoint ≠ endpoint) →
      DispatchTable data endpoint (.pingFrom handshake)

/-!
## Searches
-/

variable {cm}

theorem findSocket_some {accepts : Socket → Bool} {entry : UInt32 × ConnRef}
    (found : cm.findSocket accepts = some entry) :
    cm.Registered entry.2 ∧ accepts (cm.socketAt entry.2) = true :=
  have searched : cm.sockets.entries.find? (fun entry => accepts (cm.socketAt entry.2)) = some entry :=
    found
  ⟨⟨entry.1, List.mem_of_find?_eq_some searched⟩, by simpa using List.find?_some searched⟩

theorem findSocket_none {accepts : Socket → Bool} (missing : cm.findSocket accepts = none)
    {socket : ConnRef} (registered : cm.Registered socket) : accepts (cm.socketAt socket) = false := by
  obtain ⟨id, member⟩ := registered
  simpa using List.find?_eq_none.mp missing _ member

theorem expectsEndpoint_iff {endpoint : Endpoint} {socket : Socket} :
    expectsEndpoint endpoint socket = true ↔ socket.peerEndpoint = endpoint := by
  simp [expectsEndpoint]

theorem natRevisable_iff {endpoint : Endpoint} {socket : Socket} :
    natRevisable ext endpoint socket = true ↔
      socket.peerEndpoint.address = endpoint.address ∧
        ext.onPrivateNetwork socket.peerEndpoint = false ∧ socket.isConnected = false := by
  simp [natRevisable, and_assoc]

theorem isEmpty_sockets_iff : cm.sockets.isEmpty = true ↔ cm.sockets.entries = [] :=
  List.isEmpty_iff

theorem findSocket_expects_eq_none_iff {endpoint : Endpoint} :
    cm.findSocket (expectsEndpoint endpoint) = none ↔
      ∀ other, cm.Registered other → (cm.socketAt other).peerEndpoint ≠ endpoint := by
  refine ⟨fun missing other registered same => ?_, fun unknown => ?_⟩
  · simpa [expectsEndpoint, same] using findSocket_none missing registered
  · unfold findSocket
    rw [List.find?_eq_none]
    intro entry member
    simpa [expectsEndpoint] using unknown entry.2 ⟨entry.1, member⟩

/-- The code follows the spec's dispatch table, with the empty-registry guard
first: every registry, datagram and sender fall under one row, and the result
and the manager afterwards are that row's. -/
theorem getSocket_follows_dispatchTable (transportAlive : Bool) (data : Buffer) (endpoint : Endpoint) :
    ∃ dispatch, DispatchTable codec ext cm data endpoint dispatch ∧
      cm.getSocket codec ext transportAlive data endpoint =
        dispatch.perform ext cm transportAlive endpoint := by
  unfold getSocket
  by_cases empty : cm.sockets.isEmpty = true
  · exact ⟨.drop, .emptyRegistry (isEmpty_sockets_iff.mp empty), by simp [empty, Dispatch.perform]⟩
  have nonempty : cm.sockets.entries ≠ [] := fun none => empty (isEmpty_sockets_iff.mpr none)
  rw [if_neg empty]
  cases decoded : codec.decodeDestinationSocketId data with
  | none => exact ⟨.drop, .notRudp nonempty decoded, rfl⟩
  | some socketId =>
      by_cases unbound : socketId = 0
      swap
      · simp only [unbound, ↓reduceIte]
        cases bound : cm.sockets.find socketId with
        | none => exact ⟨.drop, .unbound nonempty decoded unbound bound, rfl⟩
        | some socket => exact ⟨.deliver socket, .bound nonempty decoded unbound bound, rfl⟩
      subst unbound
      simp only [↓reduceIte]
      cases handshaken : codec.decodeHandshake data with
      | none => exact ⟨.drop, .badHandshake nonempty decoded handshaken, rfl⟩
      | some handshake =>
          -- Both reasons first look for the socket expecting the sender.
          cases exact : cm.findSocket (expectsEndpoint endpoint) with
          | some entry =>
              obtain ⟨registered, expects⟩ := findSocket_some exact
              have expected := expectsEndpoint_iff.mp expects
              by_cases normal : handshake.connectionReason = .normal
              · exact ⟨_, .normalExact nonempty decoded handshaken normal registered expected,
                  by simp only [normal, ↓reduceIte, Dispatch.perform]⟩
              · exact ⟨_, .otherExact nonempty decoded handshaken normal registered expected,
                  by simp only [normal, ↓reduceIte, Dispatch.perform]⟩
          | none =>
              have unknown := findSocket_expects_eq_none_iff.mp exact
              by_cases normal : handshake.connectionReason = .normal
              swap
              · exact ⟨_, .otherPing nonempty decoded handshaken normal unknown,
                  by simp only [normal, ↓reduceIte, Dispatch.perform]⟩
              simp only [normal, ↓reduceIte]
              cases revisable : cm.findSocket (natRevisable ext endpoint) with
              | some entry =>
                  obtain ⟨registered, matched⟩ := findSocket_some revisable
                  obtain ⟨address, public, pending⟩ := (natRevisable_iff ext).mp matched
                  exact ⟨_, .normalRevise nonempty decoded handshaken normal unknown registered address
                    public pending, rfl⟩
              | none =>
                  exact ⟨_, .normalDrop nonempty decoded handshaken normal unknown fun _ registered matched =>
                    Bool.false_ne_true ((findSocket_none revisable registered).symm.trans
                      ((natRevisable_iff ext).mpr matched)), rfl⟩

/-- What `GetSocket` can do to the manager: nothing, while handing out a
registered socket or none; revise the socket the symmetric-NAT search finds; or
pass a handshake from an unknown sender to `HandlePingFrom`. -/
theorem getSocket_cases (transportAlive : Bool) (data : Buffer) (endpoint : Endpoint) :
    ((cm.getSocket codec ext transportAlive data endpoint).2 = cm ∧
        ∀ socket, (cm.getSocket codec ext transportAlive data endpoint).1 = some socket → cm.Registered socket) ∨
      (∃ entry, cm.sockets.entries ≠ [] ∧ codec.decodeDestinationSocketId data = some 0 ∧
        (∃ handshake, codec.decodeHandshake data = some handshake ∧ handshake.connectionReason = .normal) ∧
        cm.findSocket (expectsEndpoint endpoint) = none ∧ cm.findSocket (natRevisable ext endpoint) = some entry ∧
        cm.getSocket codec ext transportAlive data endpoint = (some entry.2, cm.updatePeerEndpoint entry.2 endpoint)) ∨
      ∃ handshake, cm.sockets.entries ≠ [] ∧ codec.decodeDestinationSocketId data = some 0 ∧
        codec.decodeHandshake data = some handshake ∧ handshake.connectionReason ≠ .normal ∧
        cm.findSocket (expectsEndpoint endpoint) = none ∧
        cm.getSocket codec ext transportAlive data endpoint =
          (none, cm.handlePingFrom ext transportAlive handshake endpoint) := by
  unfold getSocket
  split_ifs with empty
  · exact .inl ⟨rfl, nofun⟩
  have nonempty : cm.sockets.entries ≠ [] := fun none => empty (isEmpty_sockets_iff.mpr none)
  cases decoded : codec.decodeDestinationSocketId data with
  | none => exact .inl ⟨rfl, nofun⟩
  | some socketId =>
      dsimp only
      split_ifs with zero
      swap
      · exact .inl ⟨rfl, fun socket found => ⟨socketId, SortedMap.mem_of_find_eq_some found⟩⟩
      subst zero
      cases handshaken : codec.decodeHandshake data with
      | none => exact .inl ⟨rfl, nofun⟩
      | some handshake =>
          dsimp only
          cases exact : cm.findSocket (expectsEndpoint endpoint) with
          | some entry =>
              have registered := (findSocket_some exact).1
              split_ifs <;> exact .inl ⟨rfl, fun _ returned => Option.some_injective _ returned ▸ registered⟩
          | none =>
              split_ifs with normal
              · cases revisable : cm.findSocket (natRevisable ext endpoint) with
                | none => exact .inl ⟨rfl, nofun⟩
                | some entry =>
                    exact .inr (.inl ⟨entry, nonempty, rfl, ⟨handshake, rfl, normal⟩, rfl, rfl, rfl⟩)
              · exact .inr (.inr ⟨handshake, nonempty, rfl, rfl, normal, rfl, rfl⟩)

/-- Every socket `GetSocket` returns is in the registry it searched: the
dispatcher never hands out a socket that is not registered. -/
theorem getSocket_registered (transportAlive : Bool) (data : Buffer) (endpoint : Endpoint) {socket : ConnRef}
    (returned : (cm.getSocket codec ext transportAlive data endpoint).1 = some socket) : cm.Registered socket := by
  rcases getSocket_cases codec ext transportAlive data endpoint with
    ⟨-, registered⟩ | ⟨entry, -, -, -, -, revisable, revised⟩ | ⟨_, -, -, -, -, -, pinged⟩
  · exact registered socket returned
  · rw [revised] at returned
    exact Option.some_injective _ returned ▸ (findSocket_some revisable).1
  · rw [pinged] at returned
    cases returned

/-!
## The empty registry
-/

/-- At an empty registry a ping handshake from a valid endpoint is dropped:
`GetSocket` returns null and leaves the manager as it was, although
`HandlePingFrom` would have started a connection to the peer. -/
theorem getSocket_empty_registry_skips_handlePingFrom :
    (initial ⟨1⟩).getSocket PacketCodec.decoded Externals.described true
        (some 0, some ⟨⟨7⟩, .ping⟩) ⟨.v4 0x01020304, 5000⟩ = (none, initial ⟨1⟩) ∧
      ((initial ⟨1⟩).handlePingFrom Externals.described true ⟨⟨7⟩, .ping⟩
        ⟨.v4 0x01020304, 5000⟩).nextRef ≠ (initial ⟨1⟩).nextRef :=
  ⟨rfl, by decide⟩

/-!
## Revising a socket's peer endpoint
-/

/-- Every registered socket belongs to an allocated connection. -/
def SocketsAllocated (cm : ConnectionManager) : Prop :=
  ∀ entry ∈ cm.sockets.entries, entry.2 < cm.nextRef

private theorem find?_congr_of_mem {α : Type} {p q : α → Bool} :
    ∀ {items : List α}, (∀ item ∈ items, p item = q item) → items.find? p = items.find? q
  | [], _ => rfl
  | item :: rest, same => by
      simp only [List.find?, same item (List.mem_cons_self _ _),
        find?_congr_of_mem (fun other member => same other (List.mem_cons_of_mem _ member))]

/-- A search sees only the registry and the registered sockets. -/
theorem findSocket_congr {after : ConnectionManager} (sockets : after.sockets = cm.sockets)
    (same : ∀ entry ∈ cm.sockets.entries, after.socketAt entry.2 = cm.socketAt entry.2)
    (accepts : Socket → Bool) : after.findSocket accepts = cm.findSocket accepts := by
  unfold findSocket
  rw [sockets]
  exact find?_congr_of_mem fun entry member => by rw [same entry member]

theorem getSocket_of_exact (transportAlive : Bool) {data : Buffer} {endpoint : Endpoint}
    {handshake : HandshakePacket} {entry : UInt32 × ConnRef} (nonempty : cm.sockets.entries ≠ [])
    (decoded : codec.decodeDestinationSocketId data = some 0)
    (handshaken : codec.decodeHandshake data = some handshake)
    (found : cm.findSocket (expectsEndpoint endpoint) = some entry) :
    cm.getSocket codec ext transportAlive data endpoint = (some entry.2, cm) := by
  have full : cm.sockets.isEmpty = false := by simpa [SortedMap.isEmpty] using nonempty
  unfold getSocket
  by_cases normal : handshake.connectionReason = .normal <;> simp [full, decoded, handshaken, normal, found]

theorem getSocket_of_unknown_ping (transportAlive : Bool) {data : Buffer} {endpoint : Endpoint}
    {handshake : HandshakePacket} (nonempty : cm.sockets.entries ≠ [])
    (decoded : codec.decodeDestinationSocketId data = some 0)
    (handshaken : codec.decodeHandshake data = some handshake)
    (other : handshake.connectionReason ≠ .normal)
    (unknown : cm.findSocket (expectsEndpoint endpoint) = none) :
    cm.getSocket codec ext transportAlive data endpoint =
      (none, cm.handlePingFrom ext transportAlive handshake endpoint) := by
  have full : cm.sockets.isEmpty = false := by simpa [SortedMap.isEmpty] using nonempty
  simp [getSocket, full, decoded, handshaken, other, unknown]

/-- A datagram addressed to a registered non-zero id goes to that id's socket
and changes nothing. -/
theorem getSocket_of_bound (transportAlive : Bool) {data : Buffer} (endpoint : Endpoint) {id : UInt32}
    {socket : ConnRef} (decoded : codec.decodeDestinationSocketId data = some id) (nonzero : id ≠ 0)
    (found : cm.sockets.find id = some socket) :
    cm.getSocket codec ext transportAlive data endpoint = (some socket, cm) := by
  have full : cm.sockets.isEmpty = false := by
    simpa [SortedMap.isEmpty] using List.ne_nil_of_mem (SortedMap.mem_of_find_eq_some found)
  simp [getSocket, full, decoded, nonzero, found]

/-- Once a socket has been revised to the sender, it is the first socket
expecting the sender. -/
theorem findSocket_after_revision {socket : ConnRef} {endpoint : Endpoint}
    (registered : cm.Registered socket)
    (unknown : ∀ other, cm.Registered other → (cm.socketAt other).peerEndpoint ≠ endpoint) :
    ∃ id, (cm.updatePeerEndpoint socket endpoint).findSocket (expectsEndpoint endpoint) =
      some (id, socket) := by
  obtain ⟨id, member⟩ := registered
  cases found : (cm.updatePeerEndpoint socket endpoint).findSocket (expectsEndpoint endpoint) with
  | none =>
      have missed := findSocket_none found ⟨id, member⟩
      simp [expectsEndpoint] at missed
  | some entry =>
      obtain ⟨⟨entryId, entryMember⟩, expects⟩ := findSocket_some found
      by_cases same : entry.2 = socket
      · exact ⟨entry.1, by rw [← same]⟩
      · have kept : (cm.updatePeerEndpoint socket endpoint).socketAt entry.2 = cm.socketAt entry.2 := by
          simp [socketAt, updatePeerEndpoint_heap_of_ne _ _ same]
        rw [kept, expectsEndpoint_iff] at expects
        exact absurd expects (unknown entry.2 ⟨entryId, entryMember⟩)

/-- `GetSocket` changes no registered socket, connection or registry entry, or
it revises one registered socket on the id-0 `kNormal` path, moving it to the
sender, and returns it; the same datagram again returns the same socket. -/
theorem getSocket_revises_at_most_one (transportAlive : Bool) (data : Buffer) (sender : Endpoint)
    (allocated : cm.SocketsAllocated) :
    let result := cm.getSocket codec ext transportAlive data sender
    (cm.Extends result.2 ∨
      ∃ socket, result.1 = some socket ∧ result.2 = cm.updatePeerEndpoint socket sender ∧
        (result.2.socketAt socket).peerEndpoint = sender ∧
        (∀ other ≠ socket, result.2.heap other = cm.heap other) ∧ result.2.sockets = cm.sockets ∧
        cm.Registered socket ∧ codec.decodeDestinationSocketId data = some 0 ∧
        (∃ handshake, codec.decodeHandshake data = some handshake ∧
          handshake.connectionReason = .normal) ∧
        (∀ other, cm.Registered other → (cm.socketAt other).peerEndpoint ≠ sender) ∧
        (cm.socketAt socket).peerEndpoint.address = sender.address ∧
        ext.onPrivateNetwork (cm.socketAt socket).peerEndpoint = false ∧
        (cm.socketAt socket).isConnected = false) ∧
    (result.2.getSocket codec ext transportAlive data sender).1 = result.1 ∧
    result.2.Extends (result.2.getSocket codec ext transportAlive data sender).2 := by
  dsimp only
  rcases getSocket_cases codec ext transportAlive data sender with
    ⟨same, -⟩ | ⟨entry, nonempty, decoded, ⟨handshake, handshaken, normal⟩, exact, revisable, revised⟩ |
      ⟨handshake, nonempty, decoded, handshaken, other, exact, pinged⟩
  · rw [same, same]
    exact ⟨.inl (Extends.refl cm), rfl, Extends.refl cm⟩
  · obtain ⟨registered, matched⟩ := findSocket_some revisable
    obtain ⟨address, public, pending⟩ := (natRevisable_iff ext).mp matched
    have unknown := findSocket_expects_eq_none_iff.mp exact
    obtain ⟨id, found⟩ := findSocket_after_revision registered unknown
    have again := getSocket_of_exact codec ext transportAlive
      (show (cm.updatePeerEndpoint _ sender).sockets.entries ≠ [] from nonempty) decoded handshaken found
    rw [revised, again]
    exact ⟨.inr ⟨_, rfl, rfl, by simp, fun _ => updatePeerEndpoint_heap_of_ne _ _, rfl, registered, decoded,
      ⟨_, handshaken, normal⟩, unknown, address, public, pending⟩, rfl, Extends.refl _⟩
  · have grown := cm.extends_handlePingFrom ext transportAlive handshake sender
    have same : ∀ entry ∈ cm.sockets.entries,
        (cm.handlePingFrom ext transportAlive handshake sender).socketAt entry.2 = cm.socketAt entry.2 :=
      fun entry member => by rw [socketAt, socketAt, grown.heap _ (allocated entry member)]
    have missing := (findSocket_congr grown.sockets same _).trans exact
    have again := getSocket_of_unknown_ping codec ext transportAlive
      (show (cm.handlePingFrom ext transportAlive handshake sender).sockets.entries ≠ [] by
        rwa [grown.sockets]) decoded handshaken other missing
    rw [pinged, again]
    exact ⟨.inl grown, rfl, extends_handlePingFrom _ _ _ _ _⟩

/-- A manager whose registry holds one pending socket, under id 1, expecting
peer 1 at the public endpoint 1.2.3.4:40000. -/
def pendingAtPublicAddress : ConnectionManager :=
  { initial ⟨9⟩ with
    sockets := SortedMap.empty.insert 1 0
    heap := fun _ => ⟨.pending, Socket.connecting ⟨1⟩ ⟨.v4 0x01020304, 40000⟩⟩
    nextRef := 1 }

/-- A `kNormal` handshake from 1.2.3.4:40123 moves the pending socket from port
40000 to 40123, and the repeated datagram finds it again. -/
theorem getSocket_revision_repeats :
    pendingAtPublicAddress.SocketsAllocated ∧
      (pendingAtPublicAddress.socketAt 0).peerEndpoint = ⟨.v4 0x01020304, 40000⟩ ∧
      ((pendingAtPublicAddress.getSocket PacketCodec.decoded Externals.described true
        (some 0, some ⟨⟨2⟩, .normal⟩) ⟨.v4 0x01020304, 40123⟩).2.socketAt 0).peerEndpoint =
          ⟨.v4 0x01020304, 40123⟩ ∧
      (pendingAtPublicAddress.getSocket PacketCodec.decoded Externals.described true
        (some 0, some ⟨⟨2⟩, .normal⟩) ⟨.v4 0x01020304, 40123⟩).1 = some 0 ∧
      ((pendingAtPublicAddress.getSocket PacketCodec.decoded Externals.described true
        (some 0, some ⟨⟨2⟩, .normal⟩) ⟨.v4 0x01020304, 40123⟩).2.getSocket PacketCodec.decoded
          Externals.described true (some 0, some ⟨⟨2⟩, .normal⟩) ⟨.v4 0x01020304, 40123⟩).1 = some 0 := by
  have allocated : pendingAtPublicAddress.SocketsAllocated := by
    unfold SocketsAllocated
    decide
  exact ⟨allocated, rfl, rfl, rfl, (getSocket_revises_at_most_one PacketCodec.decoded Externals.described true
    (some 0, some ⟨⟨2⟩, .normal⟩) ⟨.v4 0x01020304, 40123⟩ allocated).2.1⟩

/-!
## Handshakes from a connected peer
-/

/-- A handshake from a connected peer, for any reason but `kBootstrapAndDrop`,
starts no connection: `GetSocket` allocates nothing, keeps the set, and hands
out no work but `Close` on the peer's connection, for a non-`kNormal` handshake. -/
theorem getSocket_connected_peer_starts_no_connection (transportAlive : Bool) {data : Buffer}
    (sender : Endpoint) {handshake : HandshakePacket} {joining : ConnRef}
    (handshaken : codec.decodeHandshake data = some handshake)
    (connected : cm.findConnection handshake.nodeId = some joining)
    (kept : handshake.connectionReason ≠ .bootstrapAndDrop) :
    (cm.getSocket codec ext transportAlive data sender).2.nextRef = cm.nextRef ∧
      (cm.getSocket codec ext transportAlive data sender).2.connections = cm.connections ∧
      ((cm.getSocket codec ext transportAlive data sender).2.tasks = cm.tasks ∨
        handshake.connectionReason ≠ .normal ∧
          (cm.getSocket codec ext transportAlive data sender).2.tasks = cm.tasks ++ [.close joining]) := by
  rcases getSocket_cases codec ext transportAlive data sender with
    ⟨same, -⟩ | ⟨_, -, -, -, -, -, revised⟩ | ⟨other, -, -, found, reason, -, pinged⟩
  · rw [same]
    exact ⟨rfl, rfl, .inl rfl⟩
  · rw [revised]
    exact ⟨rfl, rfl, .inl rfl⟩
  · cases handshaken.symm.trans found
    rw [pinged]
    rcases cm.handlePingFrom_of_connected ext transportAlive connected kept sender with same | closed
    · rw [same]
      exact ⟨rfl, rfl, .inl rfl⟩
    · rw [closed]
      exact ⟨rfl, rfl, .inr ⟨reason, rfl⟩⟩

/-- A manager connected to peer 5 through connection 0, in `kBootstrapping`
with peer endpoint 1.2.3.4:6000 and registered under socket id 1. -/
def connectedToPeer : ConnectionManager :=
  { initial ⟨9⟩ with
    connections := SortedMap.empty.insert 0 ()
    sockets := SortedMap.empty.insert 1 0
    heap := fun _ => ⟨.bootstrapping, Socket.connecting ⟨5⟩ ⟨.v4 0x01020304, 6000⟩⟩
    nextRef := 1 }

/-- A `kPing` handshake from peer 5 at a new endpoint closes its connection. -/
theorem getSocket_connected_peer_ping_closes :
    (PacketCodec.decoded.decodeHandshake (some 0, some ⟨⟨5⟩, .ping⟩) = some ⟨⟨5⟩, .ping⟩ ∧
      connectedToPeer.findConnection ⟨5⟩ = some 0 ∧ ConnectionReason.ping ≠ .bootstrapAndDrop) ∧
    (connectedToPeer.getSocket PacketCodec.decoded Externals.described true (some 0, some ⟨⟨5⟩, .ping⟩)
        ⟨.v4 0x01020304, 7000⟩).2.nextRef = connectedToPeer.nextRef ∧
      (connectedToPeer.getSocket PacketCodec.decoded Externals.described true (some 0, some ⟨⟨5⟩, .ping⟩)
        ⟨.v4 0x01020304, 7000⟩).2.connections = connectedToPeer.connections ∧
      ((connectedToPeer.getSocket PacketCodec.decoded Externals.described true (some 0, some ⟨⟨5⟩, .ping⟩)
          ⟨.v4 0x01020304, 7000⟩).2.tasks = connectedToPeer.tasks ∨
        ConnectionReason.ping ≠ .normal ∧
          (connectedToPeer.getSocket PacketCodec.decoded Externals.described true (some 0, some ⟨⟨5⟩, .ping⟩)
            ⟨.v4 0x01020304, 7000⟩).2.tasks = connectedToPeer.tasks ++ [.close 0]) :=
  ⟨⟨rfl, rfl, by decide⟩, getSocket_connected_peer_starts_no_connection PacketCodec.decoded Externals.described
    true ⟨.v4 0x01020304, 7000⟩
    (rfl : PacketCodec.decoded.decodeHandshake (some 0, some ⟨⟨5⟩, .ping⟩) = some ⟨⟨5⟩, .ping⟩) rfl (by decide)⟩

/-!
## Node ids play no part in the revision
-/

/-- A handshake from node 2 revises the pending socket that expects node 1. -/
theorem getSocket_revises_socket_of_other_peer :
    (pendingAtPublicAddress.socketAt 0).peerNodeId ≠ ⟨2⟩ ∧
      pendingAtPublicAddress.getSocket PacketCodec.decoded Externals.described true
          (some 0, some ⟨⟨2⟩, .normal⟩) ⟨.v4 0x01020304, 40123⟩ =
        (some 0, pendingAtPublicAddress.updatePeerEndpoint 0 ⟨.v4 0x01020304, 40123⟩) ∧
      (pendingAtPublicAddress.socketAt 0).peerEndpoint ≠ ⟨.v4 0x01020304, 40123⟩ :=
  ⟨by decide, rfl, by decide⟩

/-- On the id-0 `kNormal` path nothing depends on the handshake's node id:
the same datagram carrying any other node id is delivered, and revises, alike. -/
theorem getSocket_ignores_handshake_nodeId (transportAlive : Bool) {data other : Buffer}
    {sender : Endpoint} {handshake : HandshakePacket} (nodeId : NodeId)
    (decoded : codec.decodeDestinationSocketId data = some 0)
    (decodedOther : codec.decodeDestinationSocketId other = some 0)
    (handshaken : codec.decodeHandshake data = some handshake)
    (handshakenOther : codec.decodeHandshake other = some { handshake with nodeId := nodeId })
    (normal : handshake.connectionReason = .normal) :
    cm.getSocket codec ext transportAlive other sender = cm.getSocket codec ext transportAlive data sender := by
  simp [getSocket, decoded, decodedOther, handshaken, handshakenOther, normal]

/-- Handshakes from node 1 and from node 2 revise the pending socket alike. -/
theorem getSocket_ignores_handshake_nodeId_at_shared_address :
    pendingAtPublicAddress.getSocket PacketCodec.decoded Externals.described true
        (some 0, some ⟨⟨2⟩, .normal⟩) ⟨.v4 0x01020304, 40123⟩ =
      pendingAtPublicAddress.getSocket PacketCodec.decoded Externals.described true
        (some 0, some ⟨⟨1⟩, .normal⟩) ⟨.v4 0x01020304, 40123⟩ :=
  getSocket_ignores_handshake_nodeId PacketCodec.decoded Externals.described true ⟨2⟩ rfl rfl rfl rfl rfl

end ConnectionManager

end Rudp
