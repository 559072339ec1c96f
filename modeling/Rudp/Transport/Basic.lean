import Rudp.ConnectionManager.Runs

/-!
# The transport

The synchronous parts of `transport.cc`, for a live transport: `AddConnection`,
`RemoveConnection`, the default handlers and `Close`, and the slot calls they make.
-/

set_option autoImplicit false

namespace Rudp

/-- A call of one of the user's connection slots. -/
inductive Callback where
  /-- `on_connection_added_(peer_id, transport, temporary, connection)`. -/
  | connectionAdded (peerId : NodeId) (temporary : Bool) (connection : ConnRef)
  /-- `on_connection_lost_(peer_id, transport, temporary, timed_out)`. -/
  | connectionLost (peerId : NodeId) (temporary : Bool) (timedOut : Bool)
deriving DecidableEq, Repr

/-- A transport with the manager it owns. -/
structure Transport where
  connectionManager : ConnectionManager
  natType : NatType
  /-- Whether `on_connection_added_` holds a function. -/
  onConnectionAdded : Bool
  /-- Whether `on_connection_lost_` holds a function. -/
  onConnectionLost : Bool
  /-- The calls of the connection slots so far, oldest first. -/
  fired : List Callback

namespace Transport

variable (t : Transport) (ext : Externals)

/-- A transport as its constructor leaves it: `nat_type_` as given, both slots
empty, and an empty manager in place of the null `connection_manager_`. -/
def constructed (natType : NatType) : Transport :=
  ⟨ConnectionManager.initial NodeId.null, natType, false, false, []⟩

/-- A transport as `Bootstrap` leaves it before bootstrapping: both slots
installed and a fresh manager. -/
def bootstrapped (thisNodeId : NodeId) (natType : NatType) : Transport :=
  ⟨ConnectionManager.initial thisNodeId, natType, true, true, []⟩

/-- Calls `on_connection_added_` for `connection`, if the slot holds a function. -/
def announceAdded (connection : ConnRef) : Transport :=
  if t.onConnectionAdded then
    { t with
      fired := t.fired ++ [.connectionAdded (t.connectionManager.peerNodeId connection)
        ((t.connectionManager.heap connection).state == .temporary) connection] }
  else t

/-- `AddConnection`: a temporary connection is only announced; for any other the
manager's `bool`, as 0 or 1, equal to `kInvalidConnection` closes it, equal to
`kConnectionAlreadyExists` ignores it, and otherwise it is announced. -/
def addConnection (connection : ConnRef) : Transport :=
  if (t.connectionManager.heap connection).state ≠ .temporary then
    let result := t.connectionManager.addConnection connection
    let code : Int := if result.1 then 1 else 0
    let added := { t with connectionManager := result.2 }
    if code = ext.returnCodeValue .invalidConnection then
      { added with connectionManager := result.2.post (.close connection) }
    else if code = ext.returnCodeValue .connectionAlreadyExists then added
    else added.announceAdded connection
  else t.announceAdded connection

/-- `RemoveConnection`: calls `on_connection_lost_` for a connection not labelled
`kDuplicate`, if the slot holds a function. -/
def removeConnection (connection : ConnRef) (timedOut : Bool) : Transport :=
  let state := (t.connectionManager.heap connection).state
  if state ≠ .duplicate then
    if t.onConnectionLost then
      { t with
        fired := t.fired ++ [.connectionLost (t.connectionManager.peerNodeId connection)
          (state == .temporary) timedOut] }
    else t
  else t

/-- The handler `DefaultOnConnectHandler` returns: a connection reported without
an error is added. -/
def defaultOnConnect (error : Option RudpError) (connection : ConnRef) : Transport :=
  match error with
  | some _ => t
  | none => t.addConnection ext connection

/-- The handler `DefaultOnCloseHandler` returns. -/
def defaultOnClose (error : Option RudpError) (connection : ConnRef) : Transport :=
  t.removeConnection connection (error == some .timedOut)

/-- `Close`: empties the slots and has the manager close every connection. The
multiplexer's `Close` is outside the model. -/
def close : Transport :=
  { t with
    onConnectionAdded := false
    onConnectionLost := false
    connectionManager := t.connectionManager.close }

/-!
## What the handlers change
-/

@[simp] theorem announceAdded_connectionManager (connection : ConnRef) :
    (t.announceAdded connection).connectionManager = t.connectionManager := by
  unfold announceAdded; split <;> rfl

@[simp] theorem announceAdded_slots (connection : ConnRef) :
    (t.announceAdded connection).onConnectionAdded = t.onConnectionAdded ∧
      (t.announceAdded connection).onConnectionLost = t.onConnectionLost ∧
      (t.announceAdded connection).natType = t.natType := by
  unfold announceAdded; split <;> exact ⟨rfl, rfl, rfl⟩

@[simp] theorem removeConnection_connectionManager (connection : ConnRef) (timedOut : Bool) :
    (t.removeConnection connection timedOut).connectionManager = t.connectionManager := by
  unfold removeConnection; dsimp only; split_ifs <;> rfl

@[simp] theorem removeConnection_onConnectionAdded (connection : ConnRef) (timedOut : Bool) :
    (t.removeConnection connection timedOut).onConnectionAdded = t.onConnectionAdded := by
  unfold removeConnection; dsimp only; split_ifs <;> rfl

@[simp] theorem removeConnection_onConnectionLost (connection : ConnRef) (timedOut : Bool) :
    (t.removeConnection connection timedOut).onConnectionLost = t.onConnectionLost := by
  unfold removeConnection; dsimp only; split_ifs <;> rfl

/-- `AddConnection` replaces the manager by one with the same objects, and may
then call `on_connection_added_`. -/
theorem addConnection_cases (connection : ConnRef) :
    ∃ manager : ConnectionManager, manager.heap = t.connectionManager.heap ∧
      manager.nextRef = t.connectionManager.nextRef ∧
      (t.addConnection ext connection = { t with connectionManager := manager } ∨
        t.addConnection ext connection =
          ({ t with connectionManager := manager } : Transport).announceAdded connection) := by
  unfold addConnection
  dsimp only
  split_ifs
  all_goals first
    | exact ⟨_, by simp, by simp, .inl rfl⟩
    | exact ⟨_, by simp, by simp, .inr rfl⟩

/-- The manager `AddConnection` leaves: the same for a temporary connection;
otherwise the one `ConnectionManager::AddConnection` returns, which then gets
`Close` posted for the connection when the result reads as `kInvalidConnection`. -/
theorem addConnection_connectionManager (connection : ConnRef) :
    (t.addConnection ext connection).connectionManager = t.connectionManager ∨
      (t.addConnection ext connection).connectionManager = (t.connectionManager.addConnection connection).2 ∨
      (t.addConnection ext connection).connectionManager =
        (t.connectionManager.addConnection connection).2.post (.close connection) := by
  unfold addConnection
  dsimp only
  split_ifs <;> simp

/-- `AddConnection` keeps every object, the NAT type and the slots. -/
theorem addConnection_frame (connection : ConnRef) :
    (t.addConnection ext connection).connectionManager.heap = t.connectionManager.heap ∧
      (t.addConnection ext connection).connectionManager.nextRef = t.connectionManager.nextRef ∧
      (t.addConnection ext connection).natType = t.natType ∧
      (t.addConnection ext connection).onConnectionAdded = t.onConnectionAdded ∧
      (t.addConnection ext connection).onConnectionLost = t.onConnectionLost := by
  obtain ⟨manager, heap, nextRef, added | added⟩ := t.addConnection_cases ext connection <;>
    simp [added, heap, nextRef]

/-- `AddConnection` puts the connection into the manager's set when its state
is normal, and nothing else: a temporary connection is not normal. -/
theorem addConnection_contains (connection other : ConnRef) :
    (t.addConnection ext connection).connectionManager.connections.contains other = true ↔
      t.connectionManager.connections.contains other = true ∨
        (other = connection ∧ (t.connectionManager.heap connection).state.isNormal = true) := by
  unfold addConnection
  dsimp only
  split_ifs with kept <;> simp only [ConnectionManager.post_connections, announceAdded_connectionManager,
    ConnectionManager.addConnection_contains]
  simp [not_not.mp kept, Connection.State.isNormal]

/-- `DefaultOnConnectHandler` puts the connection into the set when it comes
without an error and its state is normal, and nothing else. -/
theorem defaultOnConnect_contains (error : Option RudpError) (connection other : ConnRef) :
    (t.defaultOnConnect ext error connection).connectionManager.connections.contains other = true ↔
      t.connectionManager.connections.contains other = true ∨
        (other = connection ∧ error = none ∧ (t.connectionManager.heap connection).state.isNormal = true) := by
  cases error with
  | some _ => simp [defaultOnConnect]
  | none => simpa using t.addConnection_contains ext connection other

@[simp] theorem defaultOnConnect_heap (error : Option RudpError) (connection : ConnRef) :
    (t.defaultOnConnect ext error connection).connectionManager.heap = t.connectionManager.heap ∧
      (t.defaultOnConnect ext error connection).connectionManager.nextRef = t.connectionManager.nextRef ∧
      (t.defaultOnConnect ext error connection).natType = t.natType := by
  cases error with
  | some _ => exact ⟨rfl, rfl, rfl⟩
  | none =>
      obtain ⟨heap, nextRef, natType, -⟩ := t.addConnection_frame ext connection
      exact ⟨heap, nextRef, natType⟩

/-- A non-temporary normal connection not in the set is inserted, with result
`true`, and announced unless 1 is one of the two return codes. -/
theorem addConnection_of_fresh (connection : ConnRef)
    (normal : (t.connectionManager.heap connection).state.isNormal = true)
    (fresh : t.connectionManager.connections.contains connection = false) :
    (t.addConnection ext connection).connectionManager.connections =
        t.connectionManager.connections.insert connection () ∧
      (t.addConnection ext connection).fired = t.fired ++
        if (1 : Int) = ext.returnCodeValue .invalidConnection ∨
            (1 : Int) = ext.returnCodeValue .connectionAlreadyExists ∨ t.onConnectionAdded = false then []
        else [.connectionAdded (t.connectionManager.peerNodeId connection) false connection] := by
  have temporary : (t.connectionManager.heap connection).state ≠ .temporary := by
    intro same
    simp [same, Connection.State.isNormal] at normal
  unfold addConnection ConnectionManager.addConnection
  simp only [ne_eq, temporary, not_false_eq_true, if_true, normal, fresh, Bool.not_false]
  split_ifs <;> simp_all [announceAdded, ConnectionManager.peerNodeId]

/-- `RemoveConnection` reports the loss of a connection not labelled
`kDuplicate` while `on_connection_lost_` holds a function. -/
theorem removeConnection_fired {connection : ConnRef} (timedOut : Bool)
    (kept : (t.connectionManager.heap connection).state ≠ .duplicate) (slot : t.onConnectionLost = true) :
    (t.removeConnection connection timedOut).fired = t.fired ++
      [.connectionLost (t.connectionManager.peerNodeId connection)
        ((t.connectionManager.heap connection).state == .temporary) timedOut] := by
  simp [removeConnection, kept, slot]

/-!
## A closed transport calls no slot

After `Close` empties the slots, nothing the connections report reaches the
user: a run of reports and of connection objects changing on their own fires
no callback.
-/

/-- What the transport's connections do on their own. -/
inductive Report where
  /-- A connection attempt reports to `DefaultOnConnectHandler`. -/
  | connected (error : Option RudpError) (connection : ConnRef)
  /-- A closing connection reports to `DefaultOnCloseHandler`. -/
  | closed (error : Option RudpError) (connection : ConnRef)
  /-- A connection object changes state or socket. -/
  | progress (connection : ConnRef) (updated : Connection)

/-- The transport after one report. -/
def handle : Report → Transport
  | .connected error connection => t.defaultOnConnect ext error connection
  | .closed error connection => t.defaultOnClose error connection
  | .progress connection updated =>
      { t with
        connectionManager :=
          { t.connectionManager with
            heap := Function.update t.connectionManager.heap connection updated } }

/-- The transport after a run of reports. -/
def handleAll (reports : List Report) : Transport :=
  reports.foldl (fun current report => current.handle ext report) t

/-- Both slots are empty. -/
def Silent : Prop := t.onConnectionAdded = false ∧ t.onConnectionLost = false

variable {t}

private theorem announceAdded_of_silent (silent : t.Silent) (connection : ConnRef) :
    t.announceAdded connection = t := by
  simp [announceAdded, silent.1]

private theorem removeConnection_of_silent (silent : t.Silent) (connection : ConnRef) (timedOut : Bool) :
    t.removeConnection connection timedOut = t := by
  simp [removeConnection, silent.2]

private theorem addConnection_of_silent (silent : t.Silent) (connection : ConnRef) :
    (t.addConnection ext connection).Silent ∧ (t.addConnection ext connection).fired = t.fired := by
  obtain ⟨manager, -, -, added | added⟩ := t.addConnection_cases ext connection <;> rw [added]
  · exact ⟨silent, rfl⟩
  · rw [announceAdded_of_silent (show ({ t with connectionManager := manager } : Transport).Silent from silent)]
    exact ⟨silent, rfl⟩

theorem Silent.handle (silent : t.Silent) (report : Report) :
    (t.handle ext report).Silent ∧ (t.handle ext report).fired = t.fired := by
  cases report with
  | connected error connection =>
      cases error with
      | some _ => exact ⟨silent, rfl⟩
      | none => exact addConnection_of_silent ext silent connection
  | closed error connection =>
      show (t.defaultOnClose error connection).Silent ∧ (t.defaultOnClose error connection).fired = t.fired
      rw [defaultOnClose, removeConnection_of_silent silent]
      exact ⟨silent, rfl⟩
  | progress connection updated => exact ⟨silent, rfl⟩

theorem Silent.handleAll (silent : t.Silent) (reports : List Report) :
    (t.handleAll ext reports).Silent ∧ (t.handleAll ext reports).fired = t.fired := by
  induction reports generalizing t with
  | nil => exact ⟨silent, rfl⟩
  | cons report rest ih =>
      obtain ⟨stillSilent, same⟩ := silent.handle ext report
      obtain ⟨silentAfter, sameAfter⟩ := ih stillSilent
      exact ⟨silentAfter, sameAfter.trans same⟩

variable (t)

/-- After `Close`, no run of reports calls a slot. -/
theorem close_silences_callbacks (reports : List Report) :
    (t.close.handleAll ext reports).fired = t.fired :=
  (Silent.handleAll ext ⟨rfl, rfl⟩ reports).2

/-!
## What a live transport announces

`AddConnection` compares the manager's `bool`, as 0 or 1, with two error
codes; when neither matches, every report is announced, inserted or not.
-/

/-- Neither result of `ConnectionManager::AddConnection`, as 0 or 1, is one of
the two codes `Transport::AddConnection` compares it with. -/
def ResultsApartFromCodes (ext : Externals) : Prop :=
  ∀ inserted : Bool, ((if inserted then 1 else 0) : Int) ≠ ext.returnCodeValue .invalidConnection ∧
    ((if inserted then 1 else 0) : Int) ≠ ext.returnCodeValue .connectionAlreadyExists

/-- The callbacks of a run of reports over the objects `heap`, when every
connection reported connected is announced. -/
def announcements : (ConnRef → Connection) → List Report → List Callback
  | _, [] => []
  | heap, .connected (some _) _ :: rest => announcements heap rest
  | heap, .connected none connection :: rest =>
      .connectionAdded (heap connection).socket.peerNodeId ((heap connection).state == .temporary) connection ::
        announcements heap rest
  | heap, .closed error connection :: rest =>
      (if (heap connection).state ≠ .duplicate then
        [.connectionLost (heap connection).socket.peerNodeId ((heap connection).state == .temporary)
          (error == some .timedOut)]
      else []) ++ announcements heap rest
  | heap, .progress connection updated :: rest => announcements (Function.update heap connection updated) rest

/-- Both slots hold a function. -/
def Live : Prop := t.onConnectionAdded = true ∧ t.onConnectionLost = true

variable {t}

theorem addConnection_announces (apart : ResultsApartFromCodes ext) (live : t.Live) (connection : ConnRef) :
    (t.addConnection ext connection).fired = t.fired ++
      [.connectionAdded (t.connectionManager.peerNodeId connection)
        ((t.connectionManager.heap connection).state == .temporary) connection] := by
  unfold addConnection
  split
  · dsimp only
    rw [if_neg (apart _).1, if_neg (apart _).2]
    simp [announceAdded, live.1, ConnectionManager.peerNodeId]
  · simp [announceAdded, live.1]

theorem Live.handle (live : t.Live) (report : Report) :
    (t.handle ext report).Live := by
  cases report with
  | connected error connection =>
      cases error with
      | some _ => exact live
      | none =>
          obtain ⟨-, -, -, added, lost⟩ := t.addConnection_frame ext connection
          exact ⟨added.trans live.1, lost.trans live.2⟩
  | closed error connection =>
      exact ⟨(removeConnection_onConnectionAdded _ _ _).trans live.1,
        (removeConnection_onConnectionLost _ _ _).trans live.2⟩
  | progress connection updated => exact live

/-- One report fires the callbacks `announcements` gives it. -/
theorem handle_fired (apart : ResultsApartFromCodes ext) (live : t.Live) (report : Report) (rest : List Report) :
    (t.handle ext report).fired ++ announcements (t.handle ext report).connectionManager.heap rest =
      t.fired ++ announcements t.connectionManager.heap (report :: rest) := by
  cases report with
  | connected error connection =>
      cases error with
      | some _ => rfl
      | none =>
          show (t.addConnection ext connection).fired ++
            announcements (t.addConnection ext connection).connectionManager.heap rest = _
          rw [addConnection_announces ext apart live, (t.addConnection_frame ext connection).1]
          simp [announcements, ConnectionManager.peerNodeId]
  | closed error connection =>
      show (t.removeConnection connection _).fired ++
        announcements (t.removeConnection connection _).connectionManager.heap rest = _
      by_cases duplicate : (t.connectionManager.heap connection).state = .duplicate
      · simp [removeConnection, duplicate, announcements]
      · rw [removeConnection_fired _ _ duplicate live.2]
        simp [announcements, duplicate, ConnectionManager.peerNodeId]
  | progress connection updated => rfl

variable {ext}

/-- When neither 0 nor 1 is one of the codes, a live transport announces every
connection reported connected and every loss of a connection not labelled
`kDuplicate`, over every run of reports. -/
theorem handleAll_fires_announcements (apart : ResultsApartFromCodes ext) (live : t.Live)
    (reports : List Report) :
    (t.handleAll ext reports).fired = t.fired ++ announcements t.connectionManager.heap reports := by
  induction reports generalizing t with
  | nil => simp [handleAll, announcements]
  | cons report rest ih =>
      show ((t.handle ext report).handleAll ext rest).fired = _
      rw [ih (live.handle ext report), handle_fired ext apart live]

theorem handleAll_fires_announcements_for_described :
    ResultsApartFromCodes Externals.described ∧ (bootstrapped ⟨9⟩ .unknown).Live ∧
      ((bootstrapped ⟨9⟩ .unknown).handleAll Externals.described [.connected none 0, .closed none 0]).fired =
        (bootstrapped ⟨9⟩ .unknown).fired ++ announcements (bootstrapped ⟨9⟩ .unknown).connectionManager.heap
          [.connected none 0, .closed none 0] :=
  have apart : ResultsApartFromCodes Externals.described := fun inserted => by cases inserted <;> decide
  ⟨apart, ⟨rfl, rfl⟩, handleAll_fires_announcements apart ⟨rfl, rfl⟩ _⟩

end Transport

/-!
## Added and lost, in turn
-/

/-- A callback's place in a peer's sessions: `some true` for a non-temporary
`on_connection_added` for `peerId`, `some false` for a non-temporary
`on_connection_lost`, and `none` for any other callback. -/
def Callback.sessionEvent (peerId : NodeId) : Callback → Option Bool
  | .connectionAdded peer temporary _ => if peer = peerId ∧ temporary = false then some true else none
  | .connectionLost peer temporary _ => if peer = peerId ∧ temporary = false then some false else none

/-- Whether additions (`true`) and losses (`false`) take turns, the first being
`expectAdded`. -/
def alternates : Bool → List Bool → Bool
  | _, [] => true
  | expectAdded, added :: rest => added == expectAdded && alternates (!expectAdded) rest

/-- For every peer, the non-temporary callbacks take turns: added, lost, added,
and so on, starting with added. -/
def CallbacksAlternate (fired : List Callback) : Prop :=
  ∀ peerId, alternates true (fired.filterMap (Callback.sessionEvent peerId)) = true

namespace Transport

/-- A bootstrapped transport whose manager has started two connections to peer
5 at 1.2.3.4:6000. -/
def twoConnectionsToPeer : Transport :=
  { bootstrapped ⟨9⟩ .unknown with
    connectionManager :=
      ((ConnectionManager.initial ⟨9⟩).connect true ⟨5⟩ ⟨.v4 0x01020304, 6000⟩ "" Duration.zero .posInfin).connect
        true ⟨5⟩ ⟨.v4 0x01020304, 6000⟩ "" Duration.zero .posInfin }

/-- A connection to peer 5 that finished its handshake as `kUnvalidated`. -/
def handshakenWithPeer : Connection := ⟨.unvalidated, Socket.connecting ⟨5⟩ ⟨.v4 0x01020304, 6000⟩⟩

/-- Both connections report to `DefaultOnConnectHandler` and later close: peer
5's non-temporary callbacks are two losses, after two additions unless 1 is
one of the codes, so they do not take turns. -/
theorem racing_connections_break_callback_order (ext : Externals) :
    let run := twoConnectionsToPeer.handleAll ext
      [.progress 0 handshakenWithPeer, .progress 1 handshakenWithPeer, .connected none 0, .connected none 1,
        .closed none 0, .closed none 1]
    run.fired.filterMap (Callback.sessionEvent ⟨5⟩) =
        (if (1 : Int) = ext.returnCodeValue .invalidConnection ∨
          (1 : Int) = ext.returnCodeValue .connectionAlreadyExists then [] else [true, true]) ++ [false, false] ∧
      ¬ CallbacksAlternate run.fired := by
  let handshaken : Transport :=
    { twoConnectionsToPeer with
      connectionManager := { twoConnectionsToPeer.connectionManager with
        heap := Function.update (Function.update twoConnectionsToPeer.connectionManager.heap 0 handshakenWithPeer)
          1 handshakenWithPeer } }
  obtain ⟨inserted, firstFired⟩ := handshaken.addConnection_of_fresh ext 0 rfl rfl
  obtain ⟨firstHeap, -, -, firstAdded, firstLost⟩ := handshaken.addConnection_frame ext 0
  have secondPeer : (handshaken.addConnection ext 0).connectionManager.peerNodeId 1 = ⟨5⟩ := by
    simp only [ConnectionManager.peerNodeId, firstHeap]
    rfl
  obtain ⟨-, secondFired⟩ := (handshaken.addConnection ext 0).addConnection_of_fresh ext 1
    (by rw [firstHeap]; rfl) (by rw [inserted]; rfl)
  obtain ⟨secondHeap, -, -, -, secondLost⟩ := (handshaken.addConnection ext 0).addConnection_frame ext 1
  have trace : ((((handshaken.addConnection ext 0).addConnection ext 1).removeConnection 0 false).removeConnection
      1 false).fired = ((handshaken.addConnection ext 0).addConnection ext 1).fired ++
        [.connectionLost ⟨5⟩ false false, .connectionLost ⟨5⟩ false false] := by
    rw [removeConnection_fired _ _ (by simp [secondHeap, firstHeap]; decide)
        (by simp only [removeConnection_onConnectionLost, secondLost, firstLost]; rfl),
      removeConnection_fired _ _ (by simp [secondHeap, firstHeap]; decide)
        (by simp only [secondLost, firstLost]; rfl)]
    simp [secondHeap, firstHeap, ConnectionManager.peerNodeId, handshakenWithPeer, Socket.connecting]
  have run : twoConnectionsToPeer.handleAll ext
      [.progress 0 handshakenWithPeer, .progress 1 handshakenWithPeer, .connected none 0, .connected none 1,
        .closed none 0, .closed none 1] =
      (((handshaken.addConnection ext 0).addConnection ext 1).removeConnection 0 false).removeConnection 1 false := by
    simp only [handleAll, List.foldl, handle, defaultOnConnect, defaultOnClose]
    rfl
  have events : (twoConnectionsToPeer.handleAll ext
      [.progress 0 handshakenWithPeer, .progress 1 handshakenWithPeer, .connected none 0, .connected none 1,
        .closed none 0, .closed none 1]).fired.filterMap (Callback.sessionEvent ⟨5⟩) =
        (if (1 : Int) = ext.returnCodeValue .invalidConnection ∨
          (1 : Int) = ext.returnCodeValue .connectionAlreadyExists then [] else [true, true]) ++ [false, false] := by
    have start : handshaken.fired = [] ∧ handshaken.onConnectionAdded = true ∧
        handshaken.connectionManager.peerNodeId 0 = ⟨5⟩ := ⟨rfl, rfl, rfl⟩
    rw [run, trace, secondFired, firstFired, firstAdded, secondPeer, start.1, start.2.1, start.2.2]
    simp only [Bool.true_eq_false, or_false]
    split_ifs <;> rfl
  refine ⟨events, fun alternate => ?_⟩
  have peer := alternate ⟨5⟩
  rw [events] at peer
  split_ifs at peer <;> simp [alternates] at peer

end Transport

end Rudp
