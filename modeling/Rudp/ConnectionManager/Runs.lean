import Rudp.ConnectionManager.GetSocket

/-!
# Runs of the connection manager

Runs from an empty manager, as sequences of labelled steps: every reachable
manager is well formed, and each part of its state changes only by the steps
the code allows to change it.
-/

set_option autoImplicit false

namespace Rudp

namespace ConnectionManager

/-- Which operation a step of the manager is, with the arguments that tell
apart the steps a run may exclude. -/
inductive Operation where
  | addConnection (connection : ConnRef)
  | removeConnection (connection : ConnRef)
  | closeConnection
  | makeConnectionPermanent
  | send
  | close
  | ping
  | handlePingFrom
  | addSocket (socket : ConnRef)
  | removeSocket (id : UInt32)
  | getSocket
  | progress (connection : ConnRef)
deriving DecidableEq, Repr

/-- One step of a manager's life: one of its operations, or a connection that
is not in the set making progress on its own (code of `Connection` and
`Socket`, outside this snapshot). -/
inductive Step : Operation → ConnectionManager → ConnectionManager → Prop where
  | addConnection {cm : ConnectionManager} {connection : ConnRef} :
      (cm.heap connection).state ≠ .pending → connection < cm.nextRef →
      Step (.addConnection connection) cm (cm.addConnection connection).2
  | removeConnection {cm : ConnectionManager} {connection : ConnRef} :
      (cm.heap connection).state.isNormal = true →
      Step (.removeConnection connection) cm (cm.removeConnection connection)
  | closeConnection {cm : ConnectionManager} (peerId : NodeId) :
      Step .closeConnection cm (cm.closeConnection peerId).2
  | makeConnectionPermanent {cm : ConnectionManager} (ext : Externals) (peerId : NodeId) (validated : Bool) :
      Step .makeConnectionPermanent cm (cm.makeConnectionPermanent ext peerId validated).2.2
  | send {cm : ConnectionManager} (peerId : NodeId) (message : String) : Step .send cm (cm.send peerId message).2
  | close {cm : ConnectionManager} : Step .close cm cm.close
  | ping {cm : ConnectionManager} (transportAlive : Bool) (peerId : NodeId) (peerEndpoint : Endpoint) :
      Step .ping cm (cm.ping transportAlive peerId peerEndpoint)
  | handlePingFrom {cm : ConnectionManager} (ext : Externals) (transportAlive : Bool)
      (handshake : HandshakePacket) (endpoint : Endpoint) :
      Step .handlePingFrom cm (cm.handlePingFrom ext transportAlive handshake endpoint)
  | addSocket {cm after : ConnectionManager} {socket : ConnRef} {random rest : List UInt32}
      {id : UInt32} : socket < cm.nextRef → cm.addSocket socket random = some (id, rest, after) →
      Step (.addSocket socket) cm after
  | removeSocket {cm : ConnectionManager} (id : UInt32) : Step (.removeSocket id) cm (cm.removeSocket id)
  | getSocket {cm : ConnectionManager} {Buffer : Type} (codec : PacketCodec Buffer) (ext : Externals)
      (transportAlive : Bool) (data : Buffer) (endpoint : Endpoint) :
      Step .getSocket cm (cm.getSocket codec ext transportAlive data endpoint).2
  | progress {cm : ConnectionManager} {connection : ConnRef} (updated : Connection) :
      cm.connections.contains connection = false → connection < cm.nextRef →
      Step (.progress connection) cm { cm with heap := Function.update cm.heap connection updated }

/-- The managers a run from an empty one can reach. -/
inductive Reachable : ConnectionManager → Prop where
  | initial (thisNodeId : NodeId) : Reachable (initial thisNodeId)
  | step {operation : Operation} {cm after : ConnectionManager} :
      Reachable cm → Step operation cm after → Reachable after

/-- What every reachable manager satisfies. -/
structure WellFormed (cm : ConnectionManager) : Prop where
  normal : ∀ entry ∈ cm.connections.entries, (cm.heap entry.1).state.isNormal = true
  connectionsAllocated : ∀ entry ∈ cm.connections.entries, entry.1 < cm.nextRef
  socketsAllocated : cm.SocketsAllocated

variable {cm after : ConnectionManager} {operation : Operation}

theorem WellFormed.initial (thisNodeId : NodeId) : (initial thisNodeId).WellFormed :=
  ⟨nofun, nofun, nofun⟩

theorem WellFormed.of_extends (formed : cm.WellFormed) (grown : cm.Extends after) : after.WellFormed where
  normal entry member := by
    rw [grown.connections] at member
    rw [grown.heap _ (formed.connectionsAllocated entry member)]
    exact formed.normal entry member
  connectionsAllocated entry member := by
    rw [grown.connections] at member
    exact lt_of_lt_of_le (formed.connectionsAllocated entry member) grown.nextRef
  socketsAllocated entry member := by
    rw [grown.sockets] at member
    exact lt_of_lt_of_le (formed.socketsAllocated entry member) grown.nextRef

/-- A change to one connection's object that keeps its state and the registry. -/
theorem WellFormed.of_update (formed : cm.WellFormed) {connection : ConnRef} {updated : Connection}
    (normal : connection ∈ cm.connections.entries.map Prod.fst → updated.state.isNormal = true) :
    ({ cm with heap := Function.update cm.heap connection updated } : ConnectionManager).WellFormed where
  normal entry member := by
    by_cases same : entry.1 = connection
    · dsimp only
      rw [same, Function.update_same]
      exact normal (List.mem_map.mpr ⟨entry, member, same⟩)
    · simpa [Function.update_noteq same] using formed.normal entry member
  connectionsAllocated := formed.connectionsAllocated
  socketsAllocated := formed.socketsAllocated

theorem WellFormed.addConnection (formed : cm.WellFormed) {connection : ConnRef}
    (allocated : connection < cm.nextRef) : (cm.addConnection connection).2.WellFormed := by
  unfold ConnectionManager.addConnection
  split
  · rename_i normal
    refine ⟨fun entry member => ?_, fun entry member => ?_, formed.socketsAllocated⟩
    · rcases SortedMap.mem_entries_insert member with rfl | kept
      · exact normal
      · exact formed.normal entry kept
    · rcases SortedMap.mem_entries_insert member with rfl | kept
      · exact allocated
      · exact formed.connectionsAllocated entry kept
  · exact formed

theorem WellFormed.removeConnection (formed : cm.WellFormed) (connection : ConnRef) :
    (cm.removeConnection connection).WellFormed :=
  ⟨fun entry member => formed.normal entry (SortedMap.mem_entries_erase.mp member).1,
    fun entry member => formed.connectionsAllocated entry (SortedMap.mem_entries_erase.mp member).1,
    formed.socketsAllocated⟩

theorem WellFormed.makeConnectionPermanent (formed : cm.WellFormed) (ext : Externals) (peerId : NodeId)
    (validated : Bool) : (cm.makeConnectionPermanent ext peerId validated).2.2.WellFormed := by
  unfold ConnectionManager.makeConnectionPermanent
  split
  · exact formed
  · exact formed.of_update fun _ => rfl

theorem WellFormed.addSocket (formed : cm.WellFormed) {socket : ConnRef} {random rest : List UInt32}
    {id : UInt32} (allocated : socket < cm.nextRef) (added : cm.addSocket socket random = some (id, rest, after)) :
    after.WellFormed := by
  obtain ⟨_, _, rfl⟩ := addSocket_spec added
  refine ⟨formed.normal, formed.connectionsAllocated, fun entry member => ?_⟩
  rcases SortedMap.mem_entries_insert member with rfl | kept
  · exact allocated
  · exact formed.socketsAllocated entry kept

theorem WellFormed.removeSocket (formed : cm.WellFormed) (id : UInt32) : (cm.removeSocket id).WellFormed := by
  unfold ConnectionManager.removeSocket
  split
  · exact ⟨formed.normal, formed.connectionsAllocated,
      fun entry member => formed.socketsAllocated entry (SortedMap.mem_entries_erase.mp member).1⟩
  · exact formed

theorem WellFormed.getSocket (formed : cm.WellFormed) {Buffer : Type} (codec : PacketCodec Buffer)
    (ext : Externals) (transportAlive : Bool) (data : Buffer) (endpoint : Endpoint) :
    (cm.getSocket codec ext transportAlive data endpoint).2.WellFormed := by
  rcases getSocket_cases codec ext transportAlive data endpoint with
    ⟨same, -⟩ | ⟨⟨_, socket⟩, -, -, -, -, -, revised⟩ | ⟨handshake, -, -, -, -, -, pinged⟩
  · exact same ▸ formed
  · rw [revised]
    refine formed.of_update fun member => ?_
    obtain ⟨entry, kept, rfl⟩ := List.mem_map.mp member
    exact formed.normal entry kept
  · rw [pinged]
    exact formed.of_extends (extends_handlePingFrom _ _ _ _ _)

theorem WellFormed.step (formed : cm.WellFormed) (stepped : Step operation cm after) : after.WellFormed := by
  cases stepped with
  | addConnection _ allocated => exact formed.addConnection allocated
  | removeConnection => exact formed.removeConnection _
  | closeConnection peerId => exact formed.of_extends (extends_closeConnection _ peerId)
  | makeConnectionPermanent ext peerId validated => exact formed.makeConnectionPermanent ext peerId validated
  | send peerId message => exact formed.of_extends (extends_send _ peerId message)
  | close => exact formed.of_extends (extends_close _)
  | ping transportAlive peerId peerEndpoint => exact formed.of_extends (extends_ping _ _ _ _)
  | handlePingFrom ext transportAlive handshake endpoint =>
      exact formed.of_extends (extends_handlePingFrom _ _ _ _ _)
  | addSocket allocated added => exact formed.addSocket allocated added
  | removeSocket id => exact formed.removeSocket id
  | getSocket codec ext transportAlive data endpoint => exact formed.getSocket codec ext transportAlive data endpoint
  | progress updated outside allocated =>
      refine formed.of_update fun member => absurd ?_ (Bool.eq_false_iff.mp outside)
      obtain ⟨entry, kept, rfl⟩ := List.mem_map.mp member
      simp [SortedMap.contains, SortedMap.find_eq_some_of_mem kept]

/-- Every reachable manager is well formed: the connections in its set are in a
normal state (`kBootstrapping`, `kUnvalidated` or `kPermanent`) and allocated,
and its registered sockets belong to allocated connections. -/
theorem reachable_wellFormed (reachable : Reachable cm) : cm.WellFormed := by
  induction reachable with
  | initial thisNodeId => exact WellFormed.initial thisNodeId
  | step _ stepped formed => exact formed.step stepped

/-- Connection 0 to peer 5, made by `Ping` and registered under id 1, and
connection 1, made when a `kPing` handshake from peer 5 reaches `HandlePingFrom`
through `GetSocket`; both in `kBootstrapping`, outside the set. -/
def racingToPeer : ConnectionManager :=
  let pinged := (initial ⟨9⟩).ping true ⟨5⟩ ⟨.v4 0x01020304, 1000⟩
  let registered : ConnectionManager := { pinged with sockets := pinged.sockets.insert 1 0 }
  let handed := (registered.getSocket PacketCodec.decoded Externals.described true (some 0, some ⟨⟨5⟩, .ping⟩)
    ⟨.v4 0x01020304, 2000⟩).2
  let first : ConnectionManager :=
    { handed with heap := Function.update handed.heap 0 ⟨.bootstrapping, handed.socketAt 0⟩ }
  { first with heap := Function.update first.heap 1 ⟨.bootstrapping, first.socketAt 1⟩ }

theorem reachable_racingToPeer : Reachable racingToPeer := by
  let pinged := (initial ⟨9⟩).ping true ⟨5⟩ ⟨.v4 0x01020304, 1000⟩
  have registering : pinged.addSocket 0 [1] = some (1, [], { pinged with sockets := pinged.sockets.insert 1 0 }) :=
    rfl
  have registered := Reachable.step (.step (.initial ⟨9⟩) (.ping true ⟨5⟩ ⟨.v4 0x01020304, 1000⟩))
    (.addSocket (by decide) registering)
  exact .step (.step (.step registered (.getSocket PacketCodec.decoded Externals.described true _ _))
    (.progress _ (by decide) (by decide))) (.progress _ (by decide) (by decide))

/-- Both racing connections added: a registered socket and two connections to
peer 5 in the set, and the manager is well formed. -/
theorem reachable_wellFormed_of_racing_connections :
    Reachable ((racingToPeer.addConnection 0).2.addConnection 1).2 ∧
      ((racingToPeer.addConnection 0).2.addConnection 1).2.WellFormed :=
  let reached := Reachable.step (.step reachable_racingToPeer (.addConnection (by decide) (by decide)))
    (.addConnection (by decide) (by decide))
  ⟨reached, reachable_wellFormed reached⟩

/-!
## Objects not yet handed out

A step writes only to objects it had allocated or allocates, so the addresses
past `nextRef` keep the pending placeholder.
-/

/-- A well-formed manager whose objects at or past the next free address were
never handed out: they are still the pending placeholder. -/
structure Sound (cm : ConnectionManager) : Prop where
  wellFormed : cm.WellFormed
  freshPending : ∀ connection, cm.nextRef ≤ connection → (cm.heap connection).state = .pending

/-- From `cm` to `after` no address was handed back, and nothing at or past
`after`'s next free address changed. -/
structure LeavesFresh (cm after : ConnectionManager) : Prop where
  nextRef : cm.nextRef ≤ after.nextRef
  beyond : ∀ connection, after.nextRef ≤ connection → after.heap connection = cm.heap connection

theorem LeavesFresh.refl (cm : ConnectionManager) : LeavesFresh cm cm := ⟨le_rfl, fun _ _ => rfl⟩

theorem LeavesFresh.trans {middle : ConnectionManager} (first : LeavesFresh cm middle)
    (second : LeavesFresh middle after) : LeavesFresh cm after :=
  ⟨first.nextRef.trans second.nextRef, fun connection beyond =>
    (second.beyond connection beyond).trans (first.beyond connection (second.nextRef.trans beyond))⟩

theorem leavesFresh_post (task : Task) : LeavesFresh cm (cm.post task) := ⟨le_rfl, fun _ _ => rfl⟩

theorem leavesFresh_spawn (peerId : NodeId) (peerEndpoint : Endpoint) : LeavesFresh cm (cm.spawn peerId peerEndpoint) :=
  ⟨Nat.le_succ _, fun _ beyond => Function.update_noteq (Nat.ne_of_gt beyond) _ _⟩

theorem leavesFresh_update {connection : ConnRef} (allocated : connection < cm.nextRef) (updated : Connection) :
    LeavesFresh cm { cm with heap := Function.update cm.heap connection updated } :=
  ⟨le_rfl, fun _ beyond => Function.update_noteq (Nat.ne_of_gt (lt_of_lt_of_le allocated beyond)) _ _⟩

theorem leavesFresh_connect (transportAlive : Bool) (peerId : NodeId) (peerEndpoint : Endpoint)
    (validationData : String) (connectAttemptTimeout lifespan : Duration) :
    LeavesFresh cm (cm.connect transportAlive peerId peerEndpoint validationData connectAttemptTimeout lifespan) := by
  unfold ConnectionManager.connect
  split
  · exact (leavesFresh_spawn peerId peerEndpoint).trans (leavesFresh_post _)
  · exact .refl cm

theorem leavesFresh_handlePingFrom (ext : Externals) (transportAlive : Bool) (handshake : HandshakePacket)
    (endpoint : Endpoint) : LeavesFresh cm (cm.handlePingFrom ext transportAlive handshake endpoint) := by
  unfold ConnectionManager.handlePingFrom
  split_ifs
  · exact .refl cm
  · dsimp only
    split
    · exact leavesFresh_post _
    · exact leavesFresh_connect _ _ _ _ _ _
  · exact .refl cm

theorem WellFormed.findConnection_allocated (formed : cm.WellFormed) {peerId : NodeId} {connection : ConnRef}
    (found : cm.findConnection peerId = some connection) : connection < cm.nextRef := by
  obtain ⟨entry, member, rfl⟩ := Option.map_eq_some'.mp found
  exact formed.connectionsAllocated entry (List.mem_of_find?_eq_some member)

/-- What a step writes: objects it had allocated, found in the set or in the
registry, and the one it allocates. -/
theorem Step.leavesFresh (formed : cm.WellFormed) (stepped : Step operation cm after) : LeavesFresh cm after := by
  cases stepped with
  | addConnection => exact ⟨(addConnection_nextRef _ _).ge, fun _ _ => by rw [addConnection_heap]⟩
  | removeConnection | close => exact ⟨le_rfl, fun _ _ => rfl⟩
  | closeConnection peerId =>
      unfold ConnectionManager.closeConnection
      split
      · exact .refl cm
      · exact leavesFresh_post _
  | send peerId message =>
      unfold ConnectionManager.send
      split
      · exact .refl cm
      · exact leavesFresh_post _
  | makeConnectionPermanent ext peerId validated =>
      unfold ConnectionManager.makeConnectionPermanent
      split
      · exact .refl cm
      · exact leavesFresh_update (formed.findConnection_allocated ‹_›) _
  | ping transportAlive peerId peerEndpoint =>
      unfold ConnectionManager.ping
      split
      · exact (leavesFresh_spawn peerId peerEndpoint).trans (leavesFresh_post _)
      · exact .refl cm
  | handlePingFrom ext transportAlive handshake endpoint =>
      exact leavesFresh_handlePingFrom ext transportAlive handshake endpoint
  | addSocket _ added =>
      obtain ⟨-, -, rfl⟩ := addSocket_spec added
      exact ⟨le_rfl, fun _ _ => rfl⟩
  | removeSocket id =>
      unfold ConnectionManager.removeSocket
      split <;> exact ⟨le_rfl, fun _ _ => rfl⟩
  | getSocket codec ext transportAlive data endpoint =>
      rcases getSocket_cases codec ext transportAlive data endpoint with
        ⟨same, -⟩ | ⟨entry, -, -, -, -, revisable, revised⟩ | ⟨handshake, -, -, -, -, -, pinged⟩
      · exact same ▸ .refl cm
      · obtain ⟨⟨_, member⟩, -⟩ := findSocket_some revisable
        rw [revised]
        exact leavesFresh_update (formed.socketsAllocated _ member) _
      · rw [pinged]
        exact leavesFresh_handlePingFrom ext transportAlive handshake endpoint
  | progress updated _ allocated => exact leavesFresh_update allocated updated

theorem Sound.of_leavesFresh (sound : cm.Sound) (formed : after.WellFormed) (fresh : LeavesFresh cm after) :
    after.Sound :=
  ⟨formed, fun connection beyond => by
    rw [fresh.beyond connection beyond]
    exact sound.freshPending connection (fresh.nextRef.trans beyond)⟩

theorem Sound.initial (thisNodeId : NodeId) : (initial thisNodeId).Sound :=
  ⟨WellFormed.initial thisNodeId, fun _ _ => rfl⟩

/-- Every step of the manager keeps it sound. -/
theorem Sound.step (sound : cm.Sound) (stepped : Step operation cm after) : after.Sound :=
  sound.of_leavesFresh (sound.wellFormed.step stepped) (stepped.leavesFresh sound.wellFormed)

/-!
## Who changes the registry
-/

/-- `GetSocket` keeps the set and the registry, whichever row it takes. -/
theorem getSocket_keeps_set_and_registry {Buffer : Type} (codec : PacketCodec Buffer) (ext : Externals)
    (transportAlive : Bool) (data : Buffer) (endpoint : Endpoint) :
    (cm.getSocket codec ext transportAlive data endpoint).2.connections = cm.connections ∧
      (cm.getSocket codec ext transportAlive data endpoint).2.sockets = cm.sockets := by
  rcases getSocket_cases codec ext transportAlive data endpoint with
    ⟨same, -⟩ | ⟨_, -, -, -, -, -, revised⟩ | ⟨_, -, -, -, -, -, pinged⟩
  · rw [same]
    exact ⟨rfl, rfl⟩
  · rw [revised]
    exact ⟨rfl, rfl⟩
  · rw [pinged]
    exact ⟨(extends_handlePingFrom _ _ _ _ _).connections, (extends_handlePingFrom _ _ _ _ _).sockets⟩

/-- What a step does to the set and the registry: an `AddConnection`,
`RemoveConnection`, `AddSocket` or `RemoveSocket` step is that call, and a step
of any other operation keeps both. -/
theorem step_cases (stepped : Step operation cm after) :
    (∃ connection, operation = .addConnection connection ∧ after = (cm.addConnection connection).2) ∨
      (∃ connection, operation = .removeConnection connection ∧ after = cm.removeConnection connection) ∨
      (∃ socket random id rest, operation = .addSocket socket ∧
        cm.addSocket socket random = some (id, rest, after)) ∨
      (∃ id, operation = .removeSocket id ∧ after = cm.removeSocket id) ∨
      (after.connections = cm.connections ∧ after.sockets = cm.sockets) := by
  have kept : ∀ {grown : ConnectionManager}, cm.Extends grown →
      grown.connections = cm.connections ∧ grown.sockets = cm.sockets := fun grown => ⟨grown.connections, grown.sockets⟩
  cases stepped with
  | addConnection => exact .inl ⟨_, rfl, rfl⟩
  | removeConnection => exact .inr (.inl ⟨_, rfl, rfl⟩)
  | addSocket _ added => exact .inr (.inr (.inl ⟨_, _, _, _, rfl, added⟩))
  | removeSocket id => exact .inr (.inr (.inr (.inl ⟨id, rfl, rfl⟩)))
  | makeConnectionPermanent ext peerId validated =>
      refine .inr (.inr (.inr (.inr ?_)))
      unfold ConnectionManager.makeConnectionPermanent
      split <;> exact ⟨rfl, rfl⟩
  | getSocket codec ext transportAlive data endpoint =>
      exact .inr (.inr (.inr (.inr (getSocket_keeps_set_and_registry codec ext transportAlive data endpoint))))
  | closeConnection peerId => exact .inr (.inr (.inr (.inr (kept (extends_closeConnection _ peerId)))))
  | send peerId message => exact .inr (.inr (.inr (.inr (kept (extends_send _ peerId message)))))
  | close => exact .inr (.inr (.inr (.inr (kept (extends_close _)))))
  | ping transportAlive peerId peerEndpoint => exact .inr (.inr (.inr (.inr (kept (extends_ping _ _ _ _)))))
  | handlePingFrom ext transportAlive handshake endpoint =>
      exact .inr (.inr (.inr (.inr (kept (extends_handlePingFrom _ _ _ _ _)))))
  | progress => exact .inr (.inr (.inr (.inr ⟨rfl, rfl⟩)))

/-- What a step does to the set: an `AddConnection` or `RemoveConnection` step
is that call, and a step of any other operation leaves the set as it was. -/
theorem step_connections_cases (stepped : Step operation cm after) :
    (∃ connection, operation = .addConnection connection ∧ after = (cm.addConnection connection).2) ∨
      (∃ connection, operation = .removeConnection connection ∧ after = cm.removeConnection connection) ∨
      after.connections = cm.connections := by
  rcases step_cases stepped with added | removed | ⟨_, _, _, _, -, added⟩ | ⟨id, -, rfl⟩ | ⟨same, -⟩
  · exact .inl added
  · exact .inr (.inl removed)
  · obtain ⟨-, -, rfl⟩ := addSocket_spec added
    exact .inr (.inr rfl)
  · exact .inr (.inr (removeSocket_connections id))
  · exact .inr (.inr same)

/-- A step takes a connection out of the set only as `RemoveConnection` of
that connection. -/
theorem step_removes_only_by_removeConnection (stepped : Step operation cm after) {connection : ConnRef}
    (member : cm.connections.contains connection = true) (gone : after.connections.contains connection = false) :
    operation = .removeConnection connection := by
  rcases step_connections_cases stepped with ⟨other, -, rfl⟩ | ⟨other, rfl, rfl⟩ | same
  · rw [(cm.addConnection_contains other connection).mpr (.inl member)] at gone
    cases gone
  · by_cases same : connection = other
    · rw [same]
    · have kept : (cm.removeConnection other).connections.contains connection = true :=
        (SortedMap.contains_erase _ other connection).mpr ⟨same, member⟩
      rw [kept] at gone
      cases gone
  · rw [same, member] at gone
    cases gone

/-- What a step does to the registry: an `AddSocket` or `RemoveSocket` step is
that call, and a step of any other operation leaves the registry as it was. -/
theorem step_sockets_cases (stepped : Step operation cm after) :
    (∃ socket random id rest, operation = .addSocket socket ∧
        cm.addSocket socket random = some (id, rest, after)) ∨
      (∃ id, operation = .removeSocket id ∧ after = cm.removeSocket id) ∨ after.sockets = cm.sockets := by
  rcases step_cases stepped with ⟨connection, -, rfl⟩ | ⟨_, -, rfl⟩ | added | removed | ⟨-, same⟩
  · exact .inr (.inr (cm.addConnection_sockets connection))
  · exact .inr (.inr rfl)
  · exact .inl added
  · exact .inr (.inl removed)
  · exact .inr (.inr same)

/-- The runs from `cm` to `after` in which no step is `AddSocket` of `socket`. -/
def RunWithout (socket : ConnRef) : ConnectionManager → ConnectionManager → Prop :=
  Relation.ReflTransGen fun cm after => ∃ operation, Step operation cm after ∧ operation ≠ .addSocket socket

/-- A socket registered after a step was registered before it, or the step is
its `AddSocket`. -/
theorem registered_of_step (stepped : Step operation cm after) {socket : ConnRef}
    (registered : after.Registered socket) : cm.Registered socket ∨ operation = .addSocket socket := by
  obtain ⟨key, member⟩ := registered
  rcases step_sockets_cases stepped with ⟨other, random, id, rest, rfl, added⟩ | ⟨id, rfl, rfl⟩ | same
  · obtain ⟨-, -, rfl⟩ := addSocket_spec added
    rcases SortedMap.mem_entries_insert member with same | kept
    · cases same
      exact .inr rfl
    · exact .inl ⟨key, kept⟩
  · unfold removeSocket at member
    split_ifs at member
    · exact .inl ⟨key, (SortedMap.mem_entries_erase.mp member).1⟩
    · exact .inl ⟨key, member⟩
  · exact .inl ⟨key, same ▸ member⟩

theorem runWithout_unregistered {socket : ConnRef} (run : RunWithout socket cm after)
    (unregistered : ¬ cm.Registered socket) : ¬ after.Registered socket := by
  induction run with
  | refl => exact unregistered
  | tail _ last earlier =>
      obtain ⟨_, stepped, other⟩ := last
      intro registered
      rcases registered_of_step stepped registered with before | registers
      · exact earlier before
      · exact other registers

theorem removeSocket_unregisters {socket : ConnRef} {id : UInt32} (nonzero : id ≠ 0)
    (only : ∀ key, (key, socket) ∈ cm.sockets.entries → key = id) : ¬ (cm.removeSocket id).Registered socket := by
  rintro ⟨key, member⟩
  simp only [removeSocket, ne_eq, nonzero, not_false_eq_true, if_true, SortedMap.mem_entries_erase] at member
  exact member.2 (only key member.1)

/-- After `RemoveSocket(id)` of a socket registered under `id` alone, no run of
the manager that does not register the socket again, whatever else it does,
reaches a state where `GetSocket` returns it for any datagram from any sender. -/
theorem getSocket_never_returns_removed_socket {socket : ConnRef} {id : UInt32} (nonzero : id ≠ 0)
    (only : ∀ key, (key, socket) ∈ cm.sockets.entries → key = id)
    (run : RunWithout socket (cm.removeSocket id) after) {Buffer : Type} (codec : PacketCodec Buffer)
    (ext : Externals) (transportAlive : Bool) (data : Buffer) (sender : Endpoint) :
    (after.getSocket codec ext transportAlive data sender).1 ≠ some socket := fun returned =>
  runWithout_unregistered run (removeSocket_unregisters nonzero only)
    (getSocket_registered codec ext transportAlive data sender returned)

/-- `pendingAtPublicAddress` after `RemoveSocket(1)`, a `Ping` that makes
connection 1, and connection 1's socket registered under the freed id 1. -/
def reusedAfterRemoval : ConnectionManager :=
  { (pendingAtPublicAddress.removeSocket 1).ping true ⟨3⟩ ⟨.v4 0x05060708, 7000⟩ with
    sockets := SortedMap.empty.insert 1 1 }

/-- After `RemoveSocket(1)`, a `Ping` and the reuse of id 1 by another socket,
a datagram for id 1 no longer reaches socket 0. -/
theorem getSocket_never_returns_removed_socket_of_pending :
    ((1 : UInt32) ≠ 0 ∧ (∀ key, (key, (0 : ConnRef)) ∈ pendingAtPublicAddress.sockets.entries → key = 1) ∧
      RunWithout 0 (pendingAtPublicAddress.removeSocket 1) reusedAfterRemoval) ∧
    (reusedAfterRemoval.getSocket PacketCodec.decoded Externals.described true (some 1, none)
      ⟨.v4 0x01020304, 40123⟩).1 ≠ some 0 := by
  have only : ∀ key, (key, (0 : ConnRef)) ∈ pendingAtPublicAddress.sockets.entries → key = 1 := by
    intro key member
    have entries : pendingAtPublicAddress.sockets.entries = [(1, 0)] := rfl
    rw [entries] at member
    simpa using member
  have reusing : ((pendingAtPublicAddress.removeSocket 1).ping true ⟨3⟩ ⟨.v4 0x05060708, 7000⟩).addSocket 1 [1] =
      some (1, [], reusedAfterRemoval) := rfl
  have run : RunWithout 0 (pendingAtPublicAddress.removeSocket 1) reusedAfterRemoval :=
    .tail (.single ⟨_, .ping true ⟨3⟩ ⟨.v4 0x05060708, 7000⟩, nofun⟩) ⟨_, .addSocket (by decide) reusing, by decide⟩
  exact ⟨⟨by decide, only, run⟩, getSocket_never_returns_removed_socket (by decide) only run
    PacketCodec.decoded Externals.described true (some 1, none) ⟨.v4 0x01020304, 40123⟩⟩

/-!
## Registered ids keep routing

`AddSocket` never takes over a live id, so an id routes to its socket until
`RemoveSocket` removes it.
-/

/-- The runs from `cm` to `after` in which no step is `RemoveSocket` of `id`. -/
def RunKeeping (id : UInt32) : ConnectionManager → ConnectionManager → Prop :=
  Relation.ReflTransGen fun cm after => ∃ operation, Step operation cm after ∧ operation ≠ .removeSocket id

theorem find_of_step (stepped : Step operation cm after) {id : UInt32} {socket : ConnRef}
    (found : cm.sockets.find id = some socket) (kept : operation ≠ .removeSocket id) :
    after.sockets.find id = some socket := by
  rcases step_sockets_cases stepped with ⟨other, random, fresh, rest, -, added⟩ | ⟨removed, rfl, rfl⟩ | same
  · obtain ⟨-, unused, rfl⟩ := addSocket_spec added
    have different : id ≠ fresh := by
      rintro rfl
      rw [unused] at found
      cases found
    rwa [SortedMap.find_insert, if_neg different]
  · have different : id ≠ removed := by
      rintro rfl
      exact kept rfl
    rw [removeSocket_find]
    split_ifs
    · rwa [Function.update_noteq different]
    · exact found
  · rwa [same]

/-- A datagram for a registered non-zero id reaches its socket, from any sender
and changing nothing, after any run with no `RemoveSocket` of that id, whatever
else it does. -/
theorem getSocket_routes_until_removeSocket {id : UInt32} {socket : ConnRef} (nonzero : id ≠ 0)
    (registered : cm.sockets.find id = some socket) (run : RunKeeping id cm after) {Buffer : Type}
    (codec : PacketCodec Buffer) (ext : Externals) (transportAlive : Bool) {data : Buffer}
    (addressed : codec.decodeDestinationSocketId data = some id) (sender : Endpoint) :
    after.getSocket codec ext transportAlive data sender = (some socket, after) := by
  have found : after.sockets.find id = some socket := by
    induction run with
    | refl => exact registered
    | tail _ last found =>
        obtain ⟨_, stepped, kept⟩ := last
        exact find_of_step stepped found kept
  exact getSocket_of_bound codec ext transportAlive sender addressed nonzero found

/-- Id 1 of `connectedToPeer` still routes to connection 0 after `Close`. -/
theorem getSocket_routes_until_removeSocket_after_close :
    ((1 : UInt32) ≠ 0 ∧ connectedToPeer.sockets.find 1 = some 0 ∧ RunKeeping 1 connectedToPeer connectedToPeer.close ∧
      PacketCodec.decoded.decodeDestinationSocketId (some 1, none) = some 1) ∧
    connectedToPeer.close.getSocket PacketCodec.decoded Externals.described true (some 1, none)
      ⟨.v4 0x05060708, 7000⟩ = (some 0, connectedToPeer.close) := by
  have registered : connectedToPeer.sockets.find 1 = some 0 := rfl
  have run : RunKeeping 1 connectedToPeer connectedToPeer.close := .single ⟨_, .close, nofun⟩
  have addressed : PacketCodec.decoded.decodeDestinationSocketId (some 1, none) = some 1 := rfl
  exact ⟨⟨by decide, registered, run, addressed⟩, getSocket_routes_until_removeSocket (by decide) registered run
    PacketCodec.decoded Externals.described true addressed ⟨.v4 0x05060708, 7000⟩⟩

/-!
## Two connections to one peer
-/

/-- Two handshakes with peer 5 race: the connection `Ping` made and the one
`HandlePingFrom` made through `GetSocket` both finish their handshakes. Once the
first is added, `AddConnection` on the second still returns true and inserts it. -/
theorem addConnection_inserts_second_connection_to_peer :
    ∃ cm : ConnectionManager, Reachable cm ∧ cm.findConnection ⟨5⟩ = some 0 ∧
      cm.peerNodeId 1 = ⟨5⟩ ∧ (cm.heap 1).state = .bootstrapping ∧ (cm.addConnection 1).1 = true ∧
      Reachable (cm.addConnection 1).2 ∧
      (cm.addConnection 1).2.connections.entries.map Prod.fst = [0, 1] := by
  have reached : Reachable (racingToPeer.addConnection 0).2 :=
    .step reachable_racingToPeer (.addConnection (by decide) (by decide))
  exact ⟨_, reached, rfl, rfl, rfl, rfl, .step reached (.addConnection (by decide) (by decide)), rfl⟩

end ConnectionManager

end Rudp
