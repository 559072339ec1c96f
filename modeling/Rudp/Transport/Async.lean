import Rudp.Transport.Basic

/-!
# Completion chains

The transport's chains of completion handlers as state-monad programs; every
connect outcome, ping result and `IsOpen` answer is the environment's.
-/

set_option autoImplicit false

namespace Rudp

/-- How a connection attempt ends: the error its connect handler receives and
the connection object as the handler finds it. -/
structure ConnectOutcome where
  error : Option RudpError
  connection : Connection

/-- The answers of the world outside the transport. -/
structure Environment where
  /-- How the `n`-th connection attempt ends. -/
  connectOutcome : Nat → ConnectOutcome
  /-- The result the `n`-th ping reports. -/
  pingResult : Nat → Int
  /-- Whether the multiplexer is open at the `n`-th `IsOpen` check. -/
  multiplexerOpen : Nat → Bool

/-- The `index`-th connection attempt connects, in a normal state. -/
def Environment.ConnectsNormally (env : Environment) (index : Nat) : Prop :=
  (env.connectOutcome index).error = none ∧ (env.connectOutcome index).connection.state.isNormal = true

/-- The arguments of a connection attempt. -/
structure Attempt where
  peerId : NodeId
  peerEndpoint : Endpoint
  peerPublicKey : PublicKey
  connectAttemptTimeout : Duration
  lifespan : Duration
deriving DecidableEq, Repr

/-- The arguments of a ping. -/
structure PingRequest where
  peerId : NodeId
  peerEndpoint : Endpoint
  peerPublicKey : PublicKey
deriving DecidableEq, Repr

/-- The transport and what its chains have started so far. -/
structure World where
  transport : Transport
  attempts : List Attempt
  pings : List PingRequest
  openChecks : Nat
  /-- The chain dereferenced an end iterator; in the `NDEBUG` build the model
  follows, the `assert` before it is compiled out, so the model stops there. -/
  aborted : Bool

/-- A world with nothing started yet. -/
def World.fresh (transport : Transport) : World := ⟨transport, [], [], 0, false⟩

/-- The programs completion chains are. -/
abbrev Async := StateM World

namespace Async

variable (env : Environment)

/-- `multiplexer_->IsOpen()`. -/
def isOpen : Async Bool :=
  modifyGet fun w => (env.multiplexerOpen w.openChecks, { w with openChecks := w.openChecks + 1 })

/-- A new connection object, as it is when its attempt completes. -/
def allocate (connection : Connection) (w : World) : World :=
  { w with
    transport :=
      { w.transport with
        connectionManager :=
          { w.transport.connectionManager with
            heap := Function.update w.transport.connectionManager.heap
              w.transport.connectionManager.nextRef connection
            nextRef := w.transport.connectionManager.nextRef + 1 } } }

/-- `connection_manager_->Connect(...)`: a new connection object tries to reach
the peer, and `onConnect` receives the attempt's error and the object; the
close handler is always `DefaultOnCloseHandler` (`Transport.Report.closed`). -/
def connect (peerId : NodeId) (peerEndpoint : Endpoint) (peerPublicKey : PublicKey)
    (connectAttemptTimeout lifespan : Duration) (onConnect : Option RudpError → ConnRef → Async Unit) :
    Async Unit := do
  let w ← get
  let outcome := env.connectOutcome w.attempts.length
  set { allocate outcome.connection w with
    attempts := w.attempts ++ [Attempt.mk peerId peerEndpoint peerPublicKey connectAttemptTimeout lifespan] }
  onConnect outcome.error w.transport.connectionManager.nextRef

/-- `connection_manager_->Ping(peer_id, endpoint, public_key, on_ping)`. The
overload is outside the snapshot; the connection it makes for the ping, and
what that connection reports, are left out. -/
def ping (peerId : NodeId) (peerEndpoint : Endpoint) (peerPublicKey : PublicKey)
    (onPing : Int → Async Unit) : Async Unit := do
  let w ← get
  set { w with pings := w.pings ++ [PingRequest.mk peerId peerEndpoint peerPublicKey] }
  onPing (env.pingResult w.pings.length)

/-- Dereferencing `find_if`'s end iterator, where a debug build's `assert` fails. -/
def abort : Async Unit := modify fun w => { w with aborted := true }

/-- Runs the transport's `DefaultOnConnectHandler`. -/
def defaultOnConnect (ext : Externals) (error : Option RudpError) (connection : ConnRef) : Async Unit :=
  modify fun w => { w with transport := w.transport.defaultOnConnect ext error connection }

/-- Runs the transport's `DefaultOnCloseHandler`, as a closing connection does. -/
def defaultOnClose (error : Option RudpError) (connection : ConnRef) : Async Unit :=
  modify fun w => { w with transport := w.transport.defaultOnClose error connection }

/-- `nat_type_ = natType`. -/
def setNatType (natType : NatType) : Async Unit :=
  modify fun w => { w with transport := { w.transport with natType := natType } }

/-!
## Handlers called once

A chain ends by calling the handler its caller passed: whatever the handler,
running the chain is running the handler once, last.
-/

/-- From `w`, `action` calls its handler exactly once, last, with `argument`, in `after`. -/
def CallsOnce {α : Type} (action : (α → Async Unit) → Async Unit) (w : World) (argument : α)
    (after : World) : Prop :=
  ∀ handler, (action handler).run w = (handler argument).run after

theorem get_bind_run {α : Type} (next : World → Async α) (w : World) :
    ((get : Async World) >>= next).run w = (next w).run w := rfl

theorem defaultOnConnect_bind {α : Type} (ext : Externals) (error : Option RudpError) (connection : ConnRef)
    (next : Unit → Async α) (w : World) :
    (defaultOnConnect ext error connection >>= next).run w =
      (next ()).run { w with transport := w.transport.defaultOnConnect ext error connection } := rfl

theorem isOpen_bind {α : Type} (next : Bool → Async α) (w : World) :
    (isOpen env >>= next).run w =
      (next (env.multiplexerOpen w.openChecks)).run { w with openChecks := w.openChecks + 1 } := rfl

theorem connect_run (peerId : NodeId) (peerEndpoint : Endpoint) (peerPublicKey : PublicKey)
    (connectAttemptTimeout lifespan : Duration) (onConnect : Option RudpError → ConnRef → Async Unit)
    (w : World) :
    (connect env peerId peerEndpoint peerPublicKey connectAttemptTimeout lifespan onConnect).run w =
      (onConnect (env.connectOutcome w.attempts.length).error w.transport.connectionManager.nextRef).run
        { allocate (env.connectOutcome w.attempts.length).connection w with
          attempts := w.attempts ++ [Attempt.mk peerId peerEndpoint peerPublicKey connectAttemptTimeout lifespan] } :=
  rfl

theorem ping_run (peerId : NodeId) (peerEndpoint : Endpoint) (peerPublicKey : PublicKey)
    (onPing : Int → Async Unit) (w : World) :
    (ping env peerId peerEndpoint peerPublicKey onPing).run w =
      (onPing (env.pingResult w.pings.length)).run
        { w with pings := w.pings ++ [PingRequest.mk peerId peerEndpoint peerPublicKey] } := rfl

@[simp] theorem allocate_attempts (connection : Connection) (w : World) :
    (allocate connection w).attempts = w.attempts := rfl

@[simp] theorem allocate_heap_nextRef (connection : Connection) (w : World) :
    (allocate connection w).transport.connectionManager.heap w.transport.connectionManager.nextRef =
      connection :=
  Function.update_same _ _ _

end Async

end Rudp
