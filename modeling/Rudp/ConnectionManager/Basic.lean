import Rudp.SortedMap

/-!
# The connection manager

`ConnectionManager` of `connection_manager.cc`: its set, socket registry, object
heap and the work it hands to connections, with its operations on them.
-/

set_option autoImplicit false

namespace Rudp

/-- `ConnectionManager::ConnectionGroup`: a `std::set<ConnectionPtr>`, ordered by address. -/
abbrev ConnectionGroup := SortedMap ConnRef Unit

/-- `ConnectionManager::SocketMap`: a `std::map<uint32_t, Socket*>`. -/
abbrev SocketMap := SortedMap UInt32 ConnRef

/-- Work handed to a connection. -/
inductive Task where
  | close (connection : ConnRef)
  | startSending (connection : ConnRef) (message : String)
  | startConnecting (connection : ConnRef) (peerId : NodeId) (peerEndpoint : Endpoint)
      (validationData : String) (connectAttemptTimeout lifespan : Duration)
  | ping (connection : ConnRef) (peerId : NodeId) (peerEndpoint : Endpoint)
deriving DecidableEq, Repr

/-- A connection manager with the objects it reaches. -/
structure ConnectionManager where
  connections : ConnectionGroup
  sockets : SocketMap
  thisNodeId : NodeId
  heap : ConnRef → Connection
  nextRef : ConnRef
  tasks : List Task

namespace ConnectionManager

variable (cm : ConnectionManager)

/-- A manager with no connections, no sockets and nothing allocated. -/
def initial (thisNodeId : NodeId) : ConnectionManager :=
  ⟨SortedMap.empty, SortedMap.empty, thisNodeId,
    fun _ => ⟨.pending, Socket.connecting NodeId.null Endpoint.null⟩, 0, []⟩

/-- `connection->Socket().PeerNodeId()`. -/
def peerNodeId (connection : ConnRef) : NodeId := (cm.heap connection).socket.peerNodeId

/-- `FindConnection`: the first connection, in set order, whose socket reports `peerId`. -/
def findConnection (peerId : NodeId) : Option ConnRef :=
  (cm.connections.entries.find? (fun entry => cm.peerNodeId entry.1 = peerId)).map Prod.fst

theorem findConnection_of_entries {connection : ConnRef} {peerId : NodeId}
    (only : cm.connections.entries = [(connection, ())]) (peer : cm.peerNodeId connection = peerId) :
    cm.findConnection peerId = some connection := by
  simp [findConnection, only, peer]

/-- Hands `task` to its connection. -/
def post (task : Task) : ConnectionManager := { cm with tasks := cm.tasks ++ [task] }

/-- A fresh connection object at the next address, aimed at a peer. -/
def spawn (peerId : NodeId) (peerEndpoint : Endpoint) : ConnectionManager :=
  { cm with
    heap := Function.update cm.heap cm.nextRef ⟨.pending, Socket.connecting peerId peerEndpoint⟩
    nextRef := cm.nextRef + 1 }

/-- `Connect`: when the owning transport is still alive, a fresh connection
starts its handshake. -/
def connect (transportAlive : Bool) (peerId : NodeId) (peerEndpoint : Endpoint)
    (validationData : String) (connectAttemptTimeout lifespan : Duration) : ConnectionManager :=
  if transportAlive then
    (cm.spawn peerId peerEndpoint).post
      (.startConnecting cm.nextRef peerId peerEndpoint validationData connectAttemptTimeout lifespan)
  else cm

/-- `AddConnection`, as built with `NDEBUG`: a connection in a normal state is
inserted into the set, and the result is whether `std::set::insert` inserted. -/
def addConnection (connection : ConnRef) : Bool × ConnectionManager :=
  if (cm.heap connection).state.isNormal then
    (!cm.connections.contains connection,
      { cm with connections := cm.connections.insert connection () })
  else (false, cm)

/-- `CloseConnection`: dispatches `Connection::Close` on the connection to the peer. -/
def closeConnection (peerId : NodeId) : Bool × ConnectionManager :=
  match cm.findConnection peerId with
  | none => (false, cm)
  | some connection => (true, cm.post (.close connection))

/-- `RemoveConnection`: erases the connection from the set. -/
def removeConnection (connection : ConnRef) : ConnectionManager :=
  { cm with connections := cm.connections.erase connection }

/-- `GetConnection`. -/
def getConnection (peerId : NodeId) : Option ConnRef := cm.findConnection peerId

/-- `Ping`: when the owning transport is still alive, a fresh connection pings the peer. -/
def ping (transportAlive : Bool) (peerId : NodeId) (peerEndpoint : Endpoint) : ConnectionManager :=
  if transportAlive then
    (cm.spawn peerId peerEndpoint).post (.ping cm.nextRef peerId peerEndpoint)
  else cm

/-- `Send`: dispatches `StartSending` on the connection to the peer. -/
def send (peerId : NodeId) (message : String) : Bool × ConnectionManager :=
  match cm.findConnection peerId with
  | none => (false, cm)
  | some connection => (true, cm.post (.startSending connection message))

/-- Modelled from the spec: `Connection::MakePermanent` moves the connection to `kPermanent`. -/
def Connection.makePermanent (connection : Connection) : Connection :=
  { connection with state := .permanent }

/-- `MakeConnectionPermanent`: the result, the peer endpoint passed back (only
when it is not on a private network), and the manager afterwards. The spec
describes no effect of `validated`. -/
def makeConnectionPermanent (ext : Externals) (peerId : NodeId) (_validated : Bool) :
    Bool × Endpoint × ConnectionManager :=
  match cm.findConnection peerId with
  | none => (false, Endpoint.null, cm)
  | some connection =>
      let peerEndpoint := (cm.heap connection).socket.peerEndpoint
      let made := Connection.makePermanent (cm.heap connection)
      (true, if ext.onPrivateNetwork peerEndpoint then Endpoint.null else peerEndpoint,
        { cm with heap := Function.update cm.heap connection made })

/-- `ThisEndpoint`. -/
def thisEndpoint (peerId : NodeId) : Endpoint :=
  match cm.findConnection peerId with
  | none => Endpoint.null
  | some connection => (cm.heap connection).socket.thisEndpoint

/-- `RemoteNatDetectionEndpoint`. -/
def remoteNatDetectionEndpoint (peerId : NodeId) : Endpoint :=
  match cm.findConnection peerId with
  | none => Endpoint.null
  | some connection => (cm.heap connection).socket.remoteNatDetectionEndpoint

/-- `Close`: posts `Connection::Close` on every connection; the set is left as it is. -/
def close : ConnectionManager :=
  { cm with tasks := cm.tasks ++ cm.connections.entries.map (fun entry => .close entry.1) }

/-- `NormalConnectionsCount`. -/
def normalConnectionsCount : Nat := cm.connections.entries.length

/-- `HandlePingFrom`: a handshake from a peer asking to ping or join. A peer
that is already connected has that connection closed, unless it asks for
bootstrap-and-drop; otherwise a bootstrap connection to it is started. -/
def handlePingFrom (ext : Externals) (transportAlive : Bool) (handshake : HandshakePacket)
    (endpoint : Endpoint) : ConnectionManager :=
  if handshake.nodeId = cm.thisNodeId then cm
  else if ext.isValid endpoint then
    let bootstrapAndDrop := handshake.connectionReason == .bootstrapAndDrop
    match cm.findConnection handshake.nodeId, bootstrapAndDrop with
    | some joining, false => cm.post (.close joining)
    | _, _ =>
        cm.connect transportAlive handshake.nodeId endpoint "" ext.bootstrapConnectTimeout
          (if bootstrapAndDrop then Duration.zero else ext.bootstrapConnectionLifespan)
  else cm

/-!
## Frame lemmas
-/

@[simp] theorem post_connections (task : Task) : (cm.post task).connections = cm.connections := rfl
@[simp] theorem post_sockets (task : Task) : (cm.post task).sockets = cm.sockets := rfl
@[simp] theorem post_heap (task : Task) : (cm.post task).heap = cm.heap := rfl
@[simp] theorem post_nextRef (task : Task) : (cm.post task).nextRef = cm.nextRef := rfl
@[simp] theorem post_thisNodeId (task : Task) : (cm.post task).thisNodeId = cm.thisNodeId := rfl

@[simp] theorem spawn_connections (peerId : NodeId) (peerEndpoint : Endpoint) :
    (cm.spawn peerId peerEndpoint).connections = cm.connections := rfl
@[simp] theorem spawn_sockets (peerId : NodeId) (peerEndpoint : Endpoint) :
    (cm.spawn peerId peerEndpoint).sockets = cm.sockets := rfl
@[simp] theorem spawn_nextRef (peerId : NodeId) (peerEndpoint : Endpoint) :
    (cm.spawn peerId peerEndpoint).nextRef = cm.nextRef + 1 := rfl
@[simp] theorem spawn_thisNodeId (peerId : NodeId) (peerEndpoint : Endpoint) :
    (cm.spawn peerId peerEndpoint).thisNodeId = cm.thisNodeId := rfl

theorem spawn_heap_of_lt (peerId : NodeId) (peerEndpoint : Endpoint) {connection : ConnRef}
    (allocated : connection < cm.nextRef) :
    (cm.spawn peerId peerEndpoint).heap connection = cm.heap connection :=
  Function.update_noteq (Nat.ne_of_lt allocated) _ _

@[simp] theorem addConnection_heap (connection : ConnRef) :
    (cm.addConnection connection).2.heap = cm.heap := by
  unfold addConnection; split <;> rfl

@[simp] theorem addConnection_nextRef (connection : ConnRef) :
    (cm.addConnection connection).2.nextRef = cm.nextRef := by
  unfold addConnection; split <;> rfl

@[simp] theorem addConnection_sockets (connection : ConnRef) :
    (cm.addConnection connection).2.sockets = cm.sockets := by
  unfold addConnection; split <;> rfl

/-- `AddConnection` puts the connection into the set when its state is normal,
and nothing else. -/
theorem addConnection_contains (connection other : ConnRef) :
    (cm.addConnection connection).2.connections.contains other = true ↔
      cm.connections.contains other = true ∨ (other = connection ∧ (cm.heap connection).state.isNormal = true) := by
  unfold addConnection
  split <;> simp_all [SortedMap.contains_insert, or_comm]

/-!
## Operations that only add
-/

/-- `after` keeps the connection set, the registry and every allocated object
of `cm`; it may add fresh objects and hand out work. -/
structure Extends (after : ConnectionManager) : Prop where
  connections : after.connections = cm.connections
  sockets : after.sockets = cm.sockets
  thisNodeId : after.thisNodeId = cm.thisNodeId
  nextRef : cm.nextRef ≤ after.nextRef
  heap : ∀ connection < cm.nextRef, after.heap connection = cm.heap connection

theorem Extends.refl : cm.Extends cm := ⟨rfl, rfl, rfl, le_rfl, fun _ _ => rfl⟩

theorem Extends.trans {cm middle after : ConnectionManager} (first : cm.Extends middle)
    (second : middle.Extends after) : cm.Extends after :=
  ⟨second.connections.trans first.connections, second.sockets.trans first.sockets,
    second.thisNodeId.trans first.thisNodeId, first.nextRef.trans second.nextRef,
    fun connection allocated => (second.heap connection (lt_of_lt_of_le allocated first.nextRef)).trans
      (first.heap connection allocated)⟩

theorem extends_post (task : Task) : cm.Extends (cm.post task) :=
  ⟨rfl, rfl, rfl, le_rfl, fun _ _ => rfl⟩

theorem extends_spawn (peerId : NodeId) (peerEndpoint : Endpoint) :
    cm.Extends (cm.spawn peerId peerEndpoint) :=
  ⟨rfl, rfl, rfl, Nat.le_succ _, fun _ allocated => cm.spawn_heap_of_lt peerId peerEndpoint allocated⟩

theorem extends_connect (transportAlive : Bool) (peerId : NodeId) (peerEndpoint : Endpoint)
    (validationData : String) (connectAttemptTimeout lifespan : Duration) :
    cm.Extends (cm.connect transportAlive peerId peerEndpoint validationData connectAttemptTimeout lifespan) := by
  unfold connect
  split
  · exact (cm.extends_spawn peerId peerEndpoint).trans (extends_post _ _)
  · exact Extends.refl cm

theorem extends_ping (transportAlive : Bool) (peerId : NodeId) (peerEndpoint : Endpoint) :
    cm.Extends (cm.ping transportAlive peerId peerEndpoint) := by
  unfold ping
  split
  · exact (cm.extends_spawn peerId peerEndpoint).trans (extends_post _ _)
  · exact Extends.refl cm

theorem extends_close : cm.Extends cm.close := ⟨rfl, rfl, rfl, le_rfl, fun _ _ => rfl⟩

theorem extends_closeConnection (peerId : NodeId) : cm.Extends (cm.closeConnection peerId).2 := by
  unfold closeConnection
  split
  · exact Extends.refl cm
  · exact extends_post cm _

theorem extends_send (peerId : NodeId) (message : String) : cm.Extends (cm.send peerId message).2 := by
  unfold send
  split
  · exact Extends.refl cm
  · exact extends_post cm _

theorem extends_handlePingFrom (ext : Externals) (transportAlive : Bool) (handshake : HandshakePacket)
    (endpoint : Endpoint) : cm.Extends (cm.handlePingFrom ext transportAlive handshake endpoint) := by
  unfold handlePingFrom
  split_ifs
  · exact Extends.refl cm
  · dsimp only
    split
    · exact extends_post cm _
    · exact extends_connect cm _ _ _ _ _ _
  · exact Extends.refl cm

/-- A handshake from a peer already in the set, for any reason but
`kBootstrapAndDrop`, closes that peer's connection or does nothing: it never
starts a connection. -/
theorem handlePingFrom_of_connected (ext : Externals) (transportAlive : Bool) {handshake : HandshakePacket}
    {joining : ConnRef} (connected : cm.findConnection handshake.nodeId = some joining)
    (kept : handshake.connectionReason ≠ .bootstrapAndDrop) (endpoint : Endpoint) :
    cm.handlePingFrom ext transportAlive handshake endpoint = cm ∨
      cm.handlePingFrom ext transportAlive handshake endpoint = cm.post (.close joining) := by
  have notDrop : (handshake.connectionReason == .bootstrapAndDrop) = false := by simpa using kept
  unfold handlePingFrom
  split_ifs
  · exact .inl rfl
  · exact .inr (by simp only [connected, notDrop])
  · exact .inl rfl

end ConnectionManager

end Rudp
