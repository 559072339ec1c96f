import Rudp.Transport.Async

/-!
# Connecting to a peer

`Transport::Connect` and `DoConnect`: the handler runs once, with the result of
the last attempt started, and only that attempt's connection can enter the set.
-/

set_option autoImplicit false

namespace Rudp

namespace Async

variable (env : Environment) (ext : Externals)

/-- `DoConnect`. -/
def doConnect (peerId : NodeId) (peerEndpointPair : EndpointPair) (peerPublicKey : PublicKey)
    (handler : Option RudpError → Async Unit) : Async Unit := do
  if !(← isOpen env) then handler (some .failedToConnect)
  else
    let onConnect := fun (error : Option RudpError) (connection : ConnRef) => do
      defaultOnConnect ext error connection
      handler error
    if ext.isValid peerEndpointPair.externalEndpoint then
      let onConnect2 :=
        if peerEndpointPair.localEndpoint ≠ peerEndpointPair.externalEndpoint then
          fun (error : Option RudpError) (connection : ConnRef) => do
            if !(← isOpen env) then onConnect error connection
            else
              connect env peerId peerEndpointPair.localEndpoint peerPublicKey ext.rendezvousConnectTimeout
                .posInfin onConnect
        else onConnect
      connect env peerId peerEndpointPair.externalEndpoint peerPublicKey ext.rendezvousConnectTimeout
        .posInfin onConnect2
    else
      connect env peerId peerEndpointPair.localEndpoint peerPublicKey ext.rendezvousConnectTimeout
        .posInfin onConnect

/-- The world after an attempt from `w` to `peerEndpoint` completes and its
connection is handed to `default_on_connect`. -/
def connectedWorld (peerId : NodeId) (peerEndpoint : Endpoint) (peerPublicKey : PublicKey) (w : World) : World :=
  let started : World := { allocate (env.connectOutcome w.attempts.length).connection w with
    attempts := w.attempts ++
      [Attempt.mk peerId peerEndpoint peerPublicKey ext.rendezvousConnectTimeout .posInfin] }
  { started with
    transport := started.transport.defaultOnConnect ext (env.connectOutcome w.attempts.length).error
      w.transport.connectionManager.nextRef }

theorem connect_onConnect_run (peerId : NodeId) (peerEndpoint : Endpoint) (peerPublicKey : PublicKey)
    (handler : Option RudpError → Async Unit) (w : World) :
    (connect env peerId peerEndpoint peerPublicKey ext.rendezvousConnectTimeout .posInfin
        fun error connection => do
          defaultOnConnect ext error connection
          handler error).run w =
      (handler (env.connectOutcome w.attempts.length).error).run
        (connectedWorld env ext peerId peerEndpoint peerPublicKey w) := rfl

@[simp] theorem connectedWorld_attempts (peerId : NodeId) (peerEndpoint : Endpoint) (peerPublicKey : PublicKey)
    (w : World) :
    (connectedWorld env ext peerId peerEndpoint peerPublicKey w).attempts =
      w.attempts ++ [Attempt.mk peerId peerEndpoint peerPublicKey ext.rendezvousConnectTimeout .posInfin] := rfl

/-- An attempt whose connection goes to `default_on_connect` owns the next
object, and the set gains that object when the attempt connects in a normal state. -/
theorem connectedWorld_contains (peerId : NodeId) (peerEndpoint : Endpoint) (peerPublicKey : PublicKey)
    (w : World) (other : ConnRef) :
    (connectedWorld env ext peerId peerEndpoint peerPublicKey w).transport.connectionManager.connections.contains
        other = true ↔
      w.transport.connectionManager.connections.contains other = true ∨
        (other = w.transport.connectionManager.nextRef ∧ env.ConnectsNormally w.attempts.length) := by
  rw [connectedWorld, Transport.defaultOnConnect_contains]
  simp only [allocate, Function.update_same, Environment.ConnectsNormally]

@[simp] theorem connectedWorld_nextRef (peerId : NodeId) (peerEndpoint : Endpoint) (peerPublicKey : PublicKey)
    (w : World) :
    (connectedWorld env ext peerId peerEndpoint peerPublicKey w).transport.connectionManager.nextRef =
      w.transport.connectionManager.nextRef + 1 :=
  (Transport.defaultOnConnect_heap _ ext _ _).2.1

/-- `DoConnect` path by path: the handler runs once, last, with the last
attempt's result or `failed_to_connect`; at most two attempts, each owning the
next object; and only the last attempt's connection can enter the set. -/
theorem doConnect_run (peerId : NodeId) (peerEndpointPair : EndpointPair) (peerPublicKey : PublicKey)
    (w : World) :
    ∃ (after : World) (error : Option RudpError),
      CallsOnce (doConnect env ext peerId peerEndpointPair peerPublicKey) w error after ∧
      w.attempts.length ≤ after.attempts.length ∧ after.attempts.length ≤ w.attempts.length + 2 ∧
      (error = if after.attempts.length = w.attempts.length then some .failedToConnect
        else (env.connectOutcome (after.attempts.length - 1)).error) ∧
      after.transport.connectionManager.nextRef =
        w.transport.connectionManager.nextRef + (after.attempts.length - w.attempts.length) ∧
      ∀ other, after.transport.connectionManager.connections.contains other = true ↔
        w.transport.connectionManager.connections.contains other = true ∨
          (w.attempts.length < after.attempts.length ∧ other + 1 = after.transport.connectionManager.nextRef ∧
            env.ConnectsNormally (after.attempts.length - 1)) := by
  let opened : World := { w with openChecks := w.openChecks + 1 }
  by_cases open1 : env.multiplexerOpen w.openChecks = true
  swap
  · refine ⟨opened, some .failedToConnect, fun handler => ?_, le_rfl, by simp [opened], by simp [opened],
      by simp [opened], fun other => by simp [opened]⟩
    rw [doConnect, isOpen_bind, if_pos (by simp [open1])]
  by_cases valid : ext.isValid peerEndpointPair.externalEndpoint = true
  swap
  · refine ⟨connectedWorld env ext peerId peerEndpointPair.localEndpoint peerPublicKey opened,
      (env.connectOutcome w.attempts.length).error, fun handler => ?_, by simp [opened], by simp [opened],
      by simp [opened], by simp [opened], fun other => by rw [connectedWorld_contains]; simp [opened]⟩
    rw [doConnect, isOpen_bind, if_neg (by simp [open1]), if_neg valid, connect_onConnect_run]
  by_cases differ : peerEndpointPair.localEndpoint ≠ peerEndpointPair.externalEndpoint
  swap
  · refine ⟨connectedWorld env ext peerId peerEndpointPair.externalEndpoint peerPublicKey opened,
      (env.connectOutcome w.attempts.length).error, fun handler => ?_, by simp [opened], by simp [opened],
      by simp [opened], by simp [opened], fun other => by rw [connectedWorld_contains]; simp [opened]⟩
    rw [doConnect, isOpen_bind, if_neg (by simp [open1]), if_pos valid]
    simp only [differ, if_false]
    exact connect_onConnect_run env ext _ _ _ _ _
  -- The external attempt's handler checks the multiplexer again before the local attempt.
  let started : World := { allocate (env.connectOutcome w.attempts.length).connection opened with
    attempts := w.attempts ++
      [Attempt.mk peerId peerEndpointPair.externalEndpoint peerPublicKey ext.rendezvousConnectTimeout .posInfin] }
  let checked : World := { started with openChecks := started.openChecks + 1 }
  have external : ∀ handler, (doConnect env ext peerId peerEndpointPair peerPublicKey handler).run w =
      (if !env.multiplexerOpen started.openChecks then do
        defaultOnConnect ext (env.connectOutcome w.attempts.length).error w.transport.connectionManager.nextRef
        handler (env.connectOutcome w.attempts.length).error
      else
        connect env peerId peerEndpointPair.localEndpoint peerPublicKey ext.rendezvousConnectTimeout .posInfin
          fun error connection => do
            defaultOnConnect ext error connection
            handler error).run checked := fun handler => by
    rw [doConnect, isOpen_bind, if_neg (by simp [open1]), if_pos valid, if_pos differ, connect_run, isOpen_bind]
  by_cases open2 : env.multiplexerOpen started.openChecks = true
  · refine ⟨connectedWorld env ext peerId peerEndpointPair.localEndpoint peerPublicKey checked,
      (env.connectOutcome checked.attempts.length).error, fun handler => ?_,
      by simp [checked, started], by simp [checked, started], by simp [checked, started],
      by simp [checked, started, allocate], fun other => ?_⟩
    · rw [external, if_neg (by simp [open2]), connect_onConnect_run]
    · rw [connectedWorld_contains]
      simp [checked, started, allocate]
  · refine ⟨{ checked with
        transport := checked.transport.defaultOnConnect ext (env.connectOutcome w.attempts.length).error
          w.transport.connectionManager.nextRef },
      (env.connectOutcome w.attempts.length).error, fun handler => ?_,
      by simp [checked, started], by simp [checked, started], by simp [checked, started],
      by simp [checked, started, allocate], fun other => ?_⟩
    · rw [external, if_pos (by simp [open2])]
      rfl
    · rw [Transport.defaultOnConnect_contains]
      simp [checked, started, allocate, Environment.ConnectsNormally]

/-- `DoConnect` calls its handler exactly once, last, with the result of the
last attempt it started, or with `failed_to_connect` when the multiplexer was
closed and it started none. It starts at most two attempts. -/
theorem doConnect_reports_last_attempt (peerId : NodeId) (peerEndpointPair : EndpointPair)
    (peerPublicKey : PublicKey) (w : World) :
    ∃ (after : World) (error : Option RudpError),
      CallsOnce (doConnect env ext peerId peerEndpointPair peerPublicKey) w error after ∧
      w.attempts.length ≤ after.attempts.length ∧ after.attempts.length ≤ w.attempts.length + 2 ∧
      error = if after.attempts.length = w.attempts.length then some .failedToConnect
        else (env.connectOutcome (after.attempts.length - 1)).error :=
  let ⟨after, error, calls, started, bounded, reported, _⟩ := doConnect_run env ext peerId peerEndpointPair
    peerPublicKey w
  ⟨after, error, calls, started, bounded, reported⟩

/-- Each attempt of `DoConnect` owns the next object, and the set gains only the
last attempt's connection: the external attempt's connection never enters it,
since no handler of the chain passes it to `default_on_connect`. -/
theorem doConnect_adds_only_last_attempt (peerId : NodeId) (peerEndpointPair : EndpointPair)
    (peerPublicKey : PublicKey) (w : World) :
    ∃ (after : World) (error : Option RudpError),
      CallsOnce (doConnect env ext peerId peerEndpointPair peerPublicKey) w error after ∧
      after.transport.connectionManager.nextRef =
        w.transport.connectionManager.nextRef + (after.attempts.length - w.attempts.length) ∧
      ∀ other, after.transport.connectionManager.connections.contains other = true ↔
        w.transport.connectionManager.connections.contains other = true ∨
          (w.attempts.length < after.attempts.length ∧ other + 1 = after.transport.connectionManager.nextRef ∧
            env.ConnectsNormally (after.attempts.length - 1)) :=
  let ⟨after, error, calls, _, _, _, allocated, contains⟩ := doConnect_run env ext peerId peerEndpointPair
    peerPublicKey w
  ⟨after, error, calls, allocated, contains⟩

/-!
## A successful external attempt
-/

/-- A peer behind a NAT: local endpoint 192.168.1.5:5000, external endpoint 1.2.3.4:6000. -/
def peerBehindNat : EndpointPair := ⟨⟨.v4 0xC0A80105, 5000⟩, ⟨.v4 0x01020304, 6000⟩⟩

/-- The first attempt connects to peer 5 as `kUnvalidated`; every later one
times out. The multiplexer stays open. -/
def externalConnectsLocalTimesOut : Environment where
  connectOutcome
    | 0 => ⟨none, ⟨.unvalidated, Socket.connecting ⟨5⟩ ⟨.v4 0x01020304, 6000⟩⟩⟩
    | _ => ⟨some .timedOut, ⟨.pending, Socket.connecting ⟨5⟩ ⟨.v4 0xC0A80105, 5000⟩⟩⟩
  pingResult _ := 0
  multiplexerOpen _ := true

/-- The external attempt connects and the local one times out: the handler is
called once, with the local attempt's `timed_out`, and the connected external
connection is left live, never added to the set and never announced. -/
theorem doConnect_drops_connected_external_attempt :
    (externalConnectsLocalTimesOut.connectOutcome 0).error = none ∧
      ∃ after : World,
        after.attempts.map Attempt.peerEndpoint = [peerBehindNat.externalEndpoint, peerBehindNat.localEndpoint] ∧
        (after.transport.connectionManager.heap 0).state = .unvalidated ∧
        after.transport.connectionManager.connections.entries = [] ∧ after.transport.fired = [] ∧
        ∀ handler, (doConnect externalConnectsLocalTimesOut Externals.described ⟨5⟩ peerBehindNat ⟨[]⟩ handler).run
            (World.fresh (Transport.bootstrapped ⟨9⟩ .unknown)) = (handler (some .timedOut)).run after := by
  refine ⟨rfl, _, ?_, ?_, ?_, ?_, fun handler => rfl⟩ <;> rfl

end Async

end Rudp
