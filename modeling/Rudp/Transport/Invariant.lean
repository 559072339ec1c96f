import Rudp.Transport.Bootstrap
import Rudp.Transport.Connect

/-!
# The transport as a whole

The transport as one labelled transition system over worlds, the chains as
runs of it, and the invariants every interleaving keeps.
-/

set_option autoImplicit false

namespace Rudp

namespace ConnectionManager

variable {cm : ConnectionManager}

theorem Sound.post (sound : cm.Sound) (task : Task) : (cm.post task).Sound :=
  ⟨sound.wellFormed.of_extends (extends_post cm task), sound.freshPending⟩

/-- A connection past the next free address is pending, so `AddConnection`
leaves it out of the set. -/
theorem Sound.addConnection (sound : cm.Sound) (connection : ConnRef) : (cm.addConnection connection).2.Sound := by
  refine ⟨?_, by simpa using sound.freshPending⟩
  by_cases allocated : connection < cm.nextRef
  · exact sound.wellFormed.addConnection allocated
  · have pending := sound.freshPending connection (Nat.le_of_not_lt allocated)
    have unchanged : (cm.addConnection connection).2 = cm := by
      simp [ConnectionManager.addConnection, pending, Connection.State.isNormal]
    rw [unchanged]
    exact sound.wellFormed

end ConnectionManager

/-- A world whose transport's manager is sound. -/
def World.Sound (w : World) : Prop := w.transport.connectionManager.Sound

/-- Which transition of the transport a step is. -/
inductive Event where
  | manager (operation : ConnectionManager.Operation)
  | connected
  | closed
  | attempt
  | ping
  | check
  | setNatType
  | abort
  | close
  | install
deriving DecidableEq, Repr

/-- One step of the transport as a whole, labelled with its event. -/
inductive Transition (ext : Externals) : Event → World → World → Prop where
  /-- An operation of the manager, or a connection outside the set changing on its own. -/
  | manager (w : World) {operation : ConnectionManager.Operation} {after : ConnectionManager} :
      w.transport.connectionManager.Step operation after →
      Transition ext (.manager operation) w { w with transport := { w.transport with connectionManager := after } }
  /-- A connection reports to `DefaultOnConnectHandler`. -/
  | connected (w : World) (error : Option RudpError) (connection : ConnRef) :
      Transition ext .connected w ((Async.defaultOnConnect ext error connection).run w).2
  /-- A closing connection reports to `DefaultOnCloseHandler`. -/
  | closed (w : World) (error : Option RudpError) (connection : ConnRef) :
      Transition ext .closed w ((Async.defaultOnClose error connection).run w).2
  /-- A chain starts an attempt, whose connection object is made at the next address. -/
  | attempt (w : World) (connection : Connection) (attempt : Attempt) :
      Transition ext .attempt w { Async.allocate connection w with attempts := w.attempts ++ [attempt] }
  /-- A chain starts a ping. -/
  | ping (w : World) (request : PingRequest) : Transition ext .ping w { w with pings := w.pings ++ [request] }
  /-- A chain asks whether the multiplexer is open. -/
  | check (w : World) : Transition ext .check w { w with openChecks := w.openChecks + 1 }
  | setNatType (w : World) (natType : NatType) : Transition ext .setNatType w ((Async.setNatType natType).run w).2
  | abort (w : World) : Transition ext .abort w (Async.abort.run w).2
  | close (w : World) : Transition ext .close w { w with transport := w.transport.close }
  /-- `Bootstrap` after a successful `Open`: the slots and a fresh manager. -/
  | install (w : World) (thisNodeId : NodeId) (onConnectionAdded onConnectionLost : Bool) :
      Transition ext .install w ((Async.install thisNodeId onConnectionAdded onConnectionLost).run w).2

/-- `inv` is kept by every transition. -/
def Invariant (ext : Externals) (inv : World → Prop) : Prop :=
  ∀ event w after, Transition ext event w after → inv w → inv after

theorem Invariant.run {ext : Externals} {inv : World → Prop} (invariant : Invariant ext inv) {w after : World}
    (run : Relation.ReflTransGen (fun w after => ∃ event, Transition ext event w after) w after) (kept : inv w) :
    inv after := by
  induction run with
  | refl => exact kept
  | tail _ step reached =>
      obtain ⟨event, step⟩ := step
      exact invariant _ _ _ step reached

namespace Async

/-- Running `program` from a world satisfying `inv` ends in one satisfying it. -/
def Keeps {α : Type} (inv : World → Prop) (program : Async α) : Prop :=
  ∀ w, inv w → inv (program.run w).2

/-!
## Rules
-/

section Rules

variable {inv : World → Prop}

theorem Keeps.bind {α β : Type} {first : Async α} {next : α → Async β} (keepsFirst : Keeps inv first)
    (keepsNext : ∀ value, Keeps inv (next value)) : Keeps inv (first >>= next) :=
  fun w kept => keepsNext _ _ (keepsFirst w kept)

theorem Keeps.pure {α : Type} (value : α) : Keeps inv (Pure.pure value : Async α) :=
  fun _ kept => kept

theorem Keeps.get : Keeps inv (get : Async World) :=
  fun _ kept => kept

theorem Keeps.ite {α : Type} {condition : Prop} [Decidable condition] {yes no : Async α}
    (keepsYes : Keeps inv yes) (keepsNo : Keeps inv no) : Keeps inv (if condition then yes else no) := by
  split
  · exact keepsYes
  · exact keepsNo

end Rules

/-!
## The primitives
-/

variable (env : Environment) (ext : Externals) {inv : World → Prop}

theorem keeps_isOpen (invariant : Invariant ext inv) : Keeps inv (isOpen env) :=
  fun w kept => invariant _ _ _ (.check w) kept

theorem keeps_connect (invariant : Invariant ext inv) (peerId : NodeId) (peerEndpoint : Endpoint)
    (peerPublicKey : PublicKey) (connectAttemptTimeout lifespan : Duration)
    {onConnect : Option RudpError → ConnRef → Async Unit}
    (keepsOnConnect : ∀ error connection, Keeps inv (onConnect error connection)) :
    Keeps inv (connect env peerId peerEndpoint peerPublicKey connectAttemptTimeout lifespan onConnect) := by
  intro w kept
  rw [connect_run]
  exact keepsOnConnect _ _ _ (invariant _ _ _ (.attempt w _ _) kept)

theorem keeps_ping (invariant : Invariant ext inv) (peerId : NodeId) (peerEndpoint : Endpoint)
    (peerPublicKey : PublicKey) {onPing : Int → Async Unit} (keepsOnPing : ∀ result, Keeps inv (onPing result)) :
    Keeps inv (ping env peerId peerEndpoint peerPublicKey onPing) := by
  intro w kept
  rw [ping_run]
  exact keepsOnPing _ _ (invariant _ _ _ (.ping w _) kept)

theorem keeps_abort (invariant : Invariant ext inv) : Keeps inv abort :=
  fun w kept => invariant _ _ _ (.abort w) kept

theorem keeps_setNatType (invariant : Invariant ext inv) (natType : NatType) : Keeps inv (setNatType natType) :=
  fun w kept => invariant _ _ _ (.setNatType w natType) kept

theorem keeps_defaultOnConnect (invariant : Invariant ext inv) (error : Option RudpError) (connection : ConnRef) :
    Keeps inv (defaultOnConnect ext error connection) :=
  fun w kept => invariant _ _ _ (.connected w error connection) kept

theorem keeps_install (invariant : Invariant ext inv) (thisNodeId : NodeId)
    (onConnectionAdded onConnectionLost : Bool) :
    Keeps inv (install thisNodeId onConnectionAdded onConnectionLost) :=
  fun w kept => invariant _ _ _ (.install w thisNodeId onConnectionAdded onConnectionLost) kept

/-!
## The chains
-/

theorem keeps_detectNatType (invariant : Invariant ext inv) (peerId : NodeId) (peerPublicKey : PublicKey)
    {handler : Async Unit} (keepsHandler : Keeps inv handler) :
    Keeps inv (detectNatType env ext peerId peerPublicKey handler) := by
  unfold detectNatType
  refine Keeps.bind Keeps.get fun w => Keeps.ite keepsHandler ?_
  refine keeps_ping env ext invariant _ _ _ fun result => ?_
  exact Keeps.ite (Keeps.bind (keeps_setNatType ext invariant _) fun _ => keepsHandler)
    (Keeps.bind (Keeps.pure _) fun _ => keepsHandler)

theorem keeps_connectToBootstrapEndpoint (invariant : Invariant ext inv) (contact : Contact) (lifespan : Duration)
    {handler : NodeId → Async Unit} (keepsHandler : ∀ peerId, Keeps inv (handler peerId)) :
    Keeps inv (connectToBootstrapEndpoint env ext contact lifespan handler) := by
  unfold connectToBootstrapEndpoint
  refine Keeps.ite (keepsHandler _) (keeps_connect env ext invariant _ _ _ _ _ fun error connection => ?_)
  cases error with
  | some _ => exact keepsHandler _
  | none =>
      exact Keeps.bind (keeps_defaultOnConnect ext invariant _ _) fun _ =>
        Keeps.bind Keeps.get fun _ => keeps_detectNatType env ext invariant _ _ (keepsHandler _)

theorem keeps_connectToBootstrapEndpoints (invariant : Invariant ext inv) (candidates : List Contact)
    (lifespan : Duration) {handler : NodeId → Async Unit} (keepsHandler : ∀ peerId, Keeps inv (handler peerId)) :
    Keeps inv (connectToBootstrapEndpoints env ext candidates lifespan handler) := by
  induction candidates with
  | nil => exact keepsHandler _
  | cons contact rest ih =>
      exact keeps_connectToBootstrapEndpoint env ext invariant contact lifespan fun peerId =>
        Keeps.ite ih (keepsHandler peerId)

theorem keeps_tryBootstrapping (invariant : Invariant ext inv) (bootstrapList : List Contact)
    (bootstrapOffExistingConnection : Bool) {handler : ReturnCode → Contact → Async Unit}
    (keepsHandler : ∀ code contact, Keeps inv (handler code contact)) :
    Keeps inv (tryBootstrapping env ext bootstrapList bootstrapOffExistingConnection handler) := by
  unfold tryBootstrapping
  refine Keeps.bind Keeps.get fun w => Keeps.ite (keepsHandler _ _) ?_
  refine keeps_connectToBootstrapEndpoints env ext invariant _ _ fun peerId => Keeps.ite ?_ (keepsHandler _ _)
  split
  · exact keepsHandler _ _
  · exact keeps_abort ext invariant

theorem keeps_bootstrap (invariant : Invariant ext inv) (bootstrapList : List Contact) (thisNodeId : NodeId)
    (openResult : ReturnCode) (bootstrapOffExistingConnection onConnectionAdded onConnectionLost : Bool)
    {handler : ReturnCode → Contact → Async Unit} (keepsHandler : ∀ code contact, Keeps inv (handler code contact)) :
    Keeps inv (bootstrap env ext bootstrapList thisNodeId openResult bootstrapOffExistingConnection
      onConnectionAdded onConnectionLost handler) := by
  unfold bootstrap
  exact Keeps.ite (keepsHandler _ _)
    (Keeps.bind (keeps_install ext invariant _ _ _) fun _ => keeps_tryBootstrapping env ext invariant _ _ keepsHandler)

theorem keeps_doConnect (invariant : Invariant ext inv) (peerId : NodeId) (peerEndpointPair : EndpointPair)
    (peerPublicKey : PublicKey) {handler : Option RudpError → Async Unit}
    (keepsHandler : ∀ error, Keeps inv (handler error)) :
    Keeps inv (doConnect env ext peerId peerEndpointPair peerPublicKey handler) := by
  have keepsOnConnect : ∀ error connection, Keeps inv (defaultOnConnect ext error connection >>= fun _ => handler error) :=
    fun error connection => Keeps.bind (keeps_defaultOnConnect ext invariant _ _) fun _ => keepsHandler error
  unfold doConnect
  refine Keeps.bind (keeps_isOpen env ext invariant) fun opened => Keeps.ite (keepsHandler _) ?_
  refine Keeps.ite (keeps_connect env ext invariant _ _ _ _ _ fun error connection => ?_)
    (keeps_connect env ext invariant _ _ _ _ _ keepsOnConnect)
  split
  · exact Keeps.bind (keeps_isOpen env ext invariant) fun _ =>
      Keeps.ite (keepsOnConnect _ _) (keeps_connect env ext invariant _ _ _ _ _ keepsOnConnect)
  · exact keepsOnConnect _ _

/-- A run of `Bootstrap`, up to the point where it calls its handler, is a run
of transitions: the chain refines the transition system. -/
theorem bootstrap_transitions (bootstrapList : List Contact) (thisNodeId : NodeId) (openResult : ReturnCode)
    (bootstrapOffExistingConnection onConnectionAdded onConnectionLost : Bool) (w : World) :
    Relation.ReflTransGen (fun w after => ∃ event, Transition ext event w after) w
      ((bootstrap env ext bootstrapList thisNodeId openResult bootstrapOffExistingConnection onConnectionAdded
        onConnectionLost fun _ _ => Pure.pure ()).run w).2 :=
  keeps_bootstrap env ext (fun _ _ _ step reached => reached.tail ⟨_, step⟩) bootstrapList thisNodeId openResult
    bootstrapOffExistingConnection onConnectionAdded onConnectionLost (fun _ _ => Keeps.pure ()) w .refl

end Async

/-!
## Soundness
-/

theorem sound_allocate {w : World} (sound : w.Sound) (connection : Connection) :
    (Async.allocate connection w).Sound := by
  refine ⟨sound.wellFormed.of_extends ⟨rfl, rfl, rfl, Nat.le_succ _, fun other below => ?_⟩, fun other beyond => ?_⟩
  · exact Function.update_noteq (Nat.ne_of_lt below) _ _
  · have past : w.transport.connectionManager.nextRef < other := beyond
    show (Function.update w.transport.connectionManager.heap w.transport.connectionManager.nextRef connection
      other).state = .pending
    rw [Function.update_noteq (Nat.ne_of_gt past)]
    exact sound.freshPending other (Nat.le_of_lt past)

/-- `DefaultOnConnectHandler` keeps the manager sound, whatever object it is given. -/
theorem sound_defaultOnConnect (ext : Externals) {t : Transport} (sound : t.connectionManager.Sound)
    (error : Option RudpError) (connection : ConnRef) : (t.defaultOnConnect ext error connection).connectionManager.Sound := by
  cases error with
  | some _ => exact sound
  | none =>
      rcases t.addConnection_connectionManager ext connection with same | added | closed
      · exact same ▸ sound
      · exact added ▸ ConnectionManager.Sound.addConnection sound connection
      · exact closed ▸ (ConnectionManager.Sound.addConnection sound connection).post _

theorem invariant_sound (ext : Externals) : Invariant ext World.Sound := by
  intro event w after step sound
  cases step with
  | manager w stepped => exact ConnectionManager.Sound.step sound stepped
  | connected w error connection => exact sound_defaultOnConnect ext sound error connection
  | closed w error connection =>
      show (w.transport.removeConnection connection _).connectionManager.Sound
      rw [Transport.removeConnection_connectionManager]
      exact sound
  | attempt w connection => exact sound_allocate sound connection
  | ping | check | setNatType | abort => exact sound
  | close => exact ⟨sound.wellFormed.of_extends (ConnectionManager.extends_close _), sound.freshPending⟩
  | install w thisNodeId => exact ConnectionManager.Sound.initial thisNodeId

/-- Whatever order the manager's operations, the strand's handlers and chain
steps, `Close` and `Bootstrap`'s setup interleave in, and whatever objects the
reports name, a sound transport stays sound. -/
theorem transitions_keep_sound {ext : Externals} {w after : World}
    (run : Relation.ReflTransGen (fun w after => ∃ event, Transition ext event w after) w after)
    (sound : w.Sound) : after.Sound :=
  (invariant_sound ext).run run sound

/-- A whole `Bootstrap` from a fresh transport, whose first candidate connects. -/
theorem transitions_keep_sound_of_bootstrap :
    Relation.ReflTransGen (fun w after => ∃ event, Transition Externals.described event w after)
        (World.fresh (Transport.constructed .unknown))
        ((Async.bootstrap Async.candidateListens Externals.described [Async.listeningCandidate] ⟨1⟩ .success
          false true true fun _ _ => Pure.pure ()).run (World.fresh (Transport.constructed .unknown))).2 ∧
      (World.fresh (Transport.constructed .unknown)).Sound ∧
      ((Async.bootstrap Async.candidateListens Externals.described [Async.listeningCandidate] ⟨1⟩ .success
          false true true fun _ _ => Pure.pure ()).run (World.fresh (Transport.constructed .unknown))).2.Sound :=
  let run := Async.bootstrap_transitions Async.candidateListens Externals.described [Async.listeningCandidate]
    ⟨1⟩ .success false true true (World.fresh (Transport.constructed .unknown))
  let sound := ConnectionManager.Sound.initial NodeId.null
  ⟨run, sound, transitions_keep_sound run sound⟩

namespace Async

variable (env : Environment) (ext : Externals)

/-- `DoConnect` keeps the manager sound, whatever the outcomes and the
multiplexer's answers, as long as the caller's handler does. -/
theorem doConnect_keeps_sound (peerId : NodeId) (peerEndpointPair : EndpointPair) (peerPublicKey : PublicKey)
    {handler : Option RudpError → Async Unit} (keepsHandler : ∀ error, Keeps World.Sound (handler error)) :
    Keeps World.Sound (doConnect env ext peerId peerEndpointPair peerPublicKey handler) :=
  keeps_doConnect env ext (invariant_sound ext) peerId peerEndpointPair peerPublicKey keepsHandler

theorem doConnect_keeps_sound_of_peer_behind_nat :
    (∀ error : Option RudpError, Keeps World.Sound ((fun _ => Pure.pure ()) error : Async Unit)) ∧
      Keeps World.Sound (doConnect externalConnectsLocalTimesOut Externals.described ⟨5⟩ peerBehindNat ⟨[]⟩
        fun _ => Pure.pure ()) :=
  ⟨fun _ => Keeps.pure (), doConnect_keeps_sound externalConnectsLocalTimesOut Externals.described ⟨5⟩
    peerBehindNat ⟨[]⟩ fun _ => Keeps.pure ()⟩

/-- `Bootstrap` keeps the manager sound, whatever the candidates and answers, as
long as `on_bootstrap` does: the fresh manager stays sound through every attempt. -/
theorem bootstrap_keeps_sound (bootstrapList : List Contact) (thisNodeId : NodeId) (openResult : ReturnCode)
    (bootstrapOffExistingConnection onConnectionAdded onConnectionLost : Bool)
    {handler : ReturnCode → Contact → Async Unit}
    (keepsHandler : ∀ code contact, Keeps World.Sound (handler code contact)) :
    Keeps World.Sound (bootstrap env ext bootstrapList thisNodeId openResult bootstrapOffExistingConnection
      onConnectionAdded onConnectionLost handler) :=
  keeps_bootstrap env ext (invariant_sound ext) bootstrapList thisNodeId openResult bootstrapOffExistingConnection
    onConnectionAdded onConnectionLost keepsHandler

theorem bootstrap_keeps_sound_of_listening :
    (∀ (code : ReturnCode) (contact : Contact),
        Keeps World.Sound ((fun _ _ => Pure.pure ()) code contact : Async Unit)) ∧
      Keeps World.Sound (bootstrap candidateListens Externals.described [listeningCandidate] ⟨1⟩ .success
        false true true fun _ _ => Pure.pure ()) :=
  ⟨fun _ _ => Keeps.pure (), bootstrap_keeps_sound candidateListens Externals.described [listeningCandidate]
    ⟨1⟩ .success false true true fun _ _ => Keeps.pure ()⟩

end Async

/-!
## Connections leave the set only when removed

`Close` and the closing reports leave the set as it is; a connection leaves it
only by the manager's `RemoveConnection`, which it calls on its way down.
-/

/-- A transition keeps a connection in the set unless it is the manager's
`RemoveConnection` of that connection or `Bootstrap`'s installing a manager. -/
theorem transition_keeps_connection {ext : Externals} {event : Event} {w after : World}
    (step : Transition ext event w after) {connection : ConnRef}
    (member : w.transport.connectionManager.connections.contains connection = true)
    (notRemoving : event ≠ .manager (.removeConnection connection)) (notInstalling : event ≠ .install) :
    after.transport.connectionManager.connections.contains connection = true := by
  cases step with
  | manager w stepped =>
      by_contra gone
      exact notRemoving (congrArg Event.manager (ConnectionManager.step_removes_only_by_removeConnection stepped
        member (Bool.eq_false_iff.mpr gone)))
  | connected w error reported => exact (Transport.defaultOnConnect_contains _ ext _ _ _).mpr (.inl member)
  | closed w error reported =>
      show (w.transport.removeConnection reported _).connectionManager.connections.contains connection = true
      rw [Transport.removeConnection_connectionManager]
      exact member
  | attempt | ping | check | setNatType | abort | close => exact member
  | install => exact absurd rfl notInstalling

/-- Once in the set, a connection stays there through any interleaving of
transitions with no `RemoveConnection` of it and no new manager: the closing
reports, `Close`, `CloseConnection` and every chain step leave it in. -/
theorem connection_stays_until_removed {ext : Externals} {connection : ConnRef} {w after : World}
    (run : Relation.ReflTransGen (fun w after => ∃ event, Transition ext event w after ∧
      event ≠ .manager (.removeConnection connection) ∧ event ≠ .install) w after)
    (member : w.transport.connectionManager.connections.contains connection = true) :
    after.transport.connectionManager.connections.contains connection = true := by
  induction run with
  | refl => exact member
  | tail _ last stays =>
      obtain ⟨_, step, notRemoving, notInstalling⟩ := last
      exact transition_keeps_connection step stays notRemoving notInstalling

/-- The world holding `connectedToPeer`. -/
def worldConnectedToPeer : World :=
  World.fresh { Transport.constructed .unknown with connectionManager := ConnectionManager.connectedToPeer }

/-- `Close`, and then connection 0's own closing report to `DefaultOnCloseHandler`,
keep connection 0 in the set. -/
theorem connection_stays_until_removed_after_close :
    (Relation.ReflTransGen (fun w after => ∃ event, Transition Externals.described event w after ∧
        event ≠ .manager (.removeConnection 0) ∧ event ≠ .install) worldConnectedToPeer
        ((Async.defaultOnClose none 0).run
          { worldConnectedToPeer with transport := worldConnectedToPeer.transport.close }).2 ∧
      worldConnectedToPeer.transport.connectionManager.connections.contains 0 = true) ∧
    ((Async.defaultOnClose none 0).run
        { worldConnectedToPeer with transport := worldConnectedToPeer.transport.close }).2.transport.connectionManager.connections.contains
      0 = true :=
  let run := Relation.ReflTransGen.tail (.single ⟨_, .close worldConnectedToPeer, nofun, nofun⟩)
    ⟨_, .closed _ none 0, nofun, nofun⟩
  ⟨⟨run, rfl⟩, connection_stays_until_removed run rfl⟩

end Rudp
