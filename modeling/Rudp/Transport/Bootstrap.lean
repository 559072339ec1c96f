import Rudp.Transport.Async

/-!
# Bootstrapping

`Bootstrap`, `TryBootstrapping`, `ConnectToBootstrapEndpoint` and `DetectNatType`
as completion chains, and the spec's bootstrap loop they run.
-/

set_option autoImplicit false

namespace Rudp

namespace Async

variable (env : Environment) (ext : Externals)

/-- `DetectNatType`: when the peer's NAT detection endpoint is valid, pings it
and records a symmetric NAT if the ping fails; then calls `handler`. -/
def detectNatType (peerId : NodeId) (peerPublicKey : PublicKey) (handler : Async Unit) : Async Unit := do
  let w ← get
  let natDetectionEndpoint := w.transport.connectionManager.remoteNatDetectionEndpoint peerId
  if !ext.isValid natDetectionEndpoint then handler
  else
    ping env peerId natDetectionEndpoint peerPublicKey fun result => do
      if result ≠ ext.returnCodeValue .success then setNatType .symmetric
      handler

/-- `ConnectToBootstrapEndpoint` for one contact: the null id for an invalid
endpoint or a failed attempt; on success the connection is added, NAT detection
runs, and the handler gets the id the connected socket reports. -/
def connectToBootstrapEndpoint (contact : Contact) (lifespan : Duration) (handler : NodeId → Async Unit) :
    Async Unit :=
  if !ext.isValid contact.endpointPair.externalEndpoint then handler NodeId.null
  else
    connect env contact.id contact.endpointPair.externalEndpoint contact.publicKey
      ext.bootstrapConnectTimeout lifespan fun error connection =>
        match error with
        | some _ => handler NodeId.null
        | none => do
            defaultOnConnect ext error connection
            let w ← get
            let peerId := w.transport.connectionManager.peerNodeId connection
            let peerPublicKey := (w.transport.connectionManager.heap connection).socket.peerPublicKey
            detectNatType env ext peerId peerPublicKey (handler peerId)

/-- `ConnectToBootstrapEndpoint` over the candidates from `begin` to `end`: on
an invalid id, retries with the next candidate; the handler gets the first
valid id, or the null id once the list is exhausted. -/
def connectToBootstrapEndpoints : List Contact → Duration → (NodeId → Async Unit) → Async Unit
  | [], _, handler => handler NodeId.null
  | contact :: rest, lifespan, handler =>
      connectToBootstrapEndpoint env ext contact lifespan fun peerId =>
        if !peerId.isValid then connectToBootstrapEndpoints rest lifespan handler
        else handler peerId

/-- `TryBootstrapping`: nothing is tried off an existing connection behind a
symmetric NAT; otherwise the id of the first success is mapped back to the
first candidate carrying it, and `abort` stands for the end iterator. -/
def tryBootstrapping (bootstrapList : List Contact) (bootstrapOffExistingConnection : Bool)
    (handler : ReturnCode → Contact → Async Unit) : Async Unit := do
  let w ← get
  let tryConnect := if bootstrapOffExistingConnection then w.transport.natType != .symmetric else true
  let lifespan := if bootstrapOffExistingConnection then Duration.zero else ext.bootstrapConnectionLifespan
  if !tryConnect then handler .success Contact.null
  else
    let onBootstrap := fun peerId : NodeId =>
      if peerId.isValid then
        match bootstrapList.find? (fun contact => contact.id == peerId) with
        | some contact => handler .success contact
        | none => abort
      else handler .notConnectable Contact.null
    connectToBootstrapEndpoints env ext bootstrapList lifespan onBootstrap

/-- What `Bootstrap` does once the multiplexer is open, before it bootstraps:
installs the two connection slots and makes a manager for `thisNodeId`. -/
def install (thisNodeId : NodeId) (onConnectionAdded onConnectionLost : Bool) : Async Unit :=
  modify fun w => { w with
    transport := { w.transport with
      connectionManager := ConnectionManager.initial thisNodeId
      onConnectionAdded := onConnectionAdded
      onConnectionLost := onConnectionLost } }

/-- `Bootstrap`, with its `assert`s compiled out: when `Open` (`openResult`)
fails the handler gets its result and the empty contact; the dispatch loop it
starts is outside the model. -/
def bootstrap (bootstrapList : List Contact) (thisNodeId : NodeId) (openResult : ReturnCode)
    (bootstrapOffExistingConnection onConnectionAdded onConnectionLost : Bool)
    (onBootstrap : ReturnCode → Contact → Async Unit) : Async Unit :=
  if ext.returnCodeValue openResult ≠ ext.returnCodeValue .success then onBootstrap openResult Contact.null
  else do
    install thisNodeId onConnectionAdded onConnectionLost
    tryBootstrapping env ext bootstrapList bootstrapOffExistingConnection onBootstrap

/-!
## The spec's loop
-/

/-- The attempt `ConnectToBootstrapEndpoint` starts for a contact. -/
def bootstrapAttempt (lifespan : Duration) (contact : Contact) : Attempt :=
  ⟨contact.id, contact.endpointPair.externalEndpoint, contact.publicKey, ext.bootstrapConnectTimeout, lifespan⟩

/-- The bootstrap loop over the environment's outcomes from the `index`-th
attempt on: the candidates attempted, in list order and skipping invalid
endpoints, up to the first that connects to a peer reporting a valid id. -/
def bootstrapLoop : Nat → List Contact → List Contact × Option NodeId
  | _, [] => ([], none)
  | index, contact :: rest =>
      if ext.isValid contact.endpointPair.externalEndpoint then
        let outcome := env.connectOutcome index
        if outcome.error = none ∧ outcome.connection.socket.peerNodeId.isValid then
          ([contact], some outcome.connection.socket.peerNodeId)
        else
          let later := bootstrapLoop (index + 1) rest
          (contact :: later.1, later.2)
      else bootstrapLoop index rest

/-- Each candidate is attempted at most once, in list order. -/
theorem bootstrapLoop_sublist (index : Nat) (candidates : List Contact) :
    (bootstrapLoop env ext index candidates).1.Sublist candidates := by
  induction candidates generalizing index with
  | nil => exact List.Sublist.slnil
  | cons contact rest ih =>
      simp only [bootstrapLoop]
      split_ifs
      · exact List.singleton_sublist.mpr (List.mem_cons_self _ _)
      · exact (ih (index + 1)).cons_cons contact
      · exact (ih index).cons contact

/-- NAT detection as the spec states it: when the peer's NAT detection endpoint
is valid, one ping to it, and a symmetric NAT recorded if the ping fails. -/
def natDetected (peerId : NodeId) (peerPublicKey : PublicKey) (w : World) : World :=
  let endpoint := w.transport.connectionManager.remoteNatDetectionEndpoint peerId
  if ext.isValid endpoint then
    { w with
      pings := w.pings ++ [⟨peerId, endpoint, peerPublicKey⟩]
      transport := if env.pingResult w.pings.length = ext.returnCodeValue .success then w.transport
        else { w.transport with natType := .symmetric } }
  else w

/-- One attempt of the loop, for a candidate whose external endpoint is valid:
it owns the next object, and when it connects the connection goes through
`AddConnection` and NAT detection runs for its peer. -/
def attempted (lifespan : Duration) (contact : Contact) (w : World) : World :=
  let outcome := env.connectOutcome w.attempts.length
  let started : World :=
    { allocate outcome.connection w with attempts := w.attempts ++ [bootstrapAttempt ext lifespan contact] }
  match outcome.error with
  | some _ => started
  | none =>
      natDetected env ext outcome.connection.socket.peerNodeId outcome.connection.socket.peerPublicKey
        { started with transport := started.transport.addConnection ext w.transport.connectionManager.nextRef }

/-- The world the loop leaves after attempting `contacts` in order. -/
def bootstrapRun (lifespan : Duration) : List Contact → World → World
  | [], w => w
  | contact :: rest, w => bootstrapRun lifespan rest (attempted env ext lifespan contact w)

section Frame

variable (peerId : NodeId) (peerPublicKey : PublicKey) (w : World)

@[simp] theorem natDetected_attempts : (natDetected env ext peerId peerPublicKey w).attempts = w.attempts := by
  dsimp only [natDetected]; split_ifs <;> rfl

@[simp] theorem natDetected_connectionManager :
    (natDetected env ext peerId peerPublicKey w).transport.connectionManager = w.transport.connectionManager := by
  dsimp only [natDetected]; split_ifs <;> rfl

@[simp] theorem natDetected_fired :
    (natDetected env ext peerId peerPublicKey w).transport.fired = w.transport.fired := by
  dsimp only [natDetected]; split_ifs <;> rfl

@[simp] theorem attempted_attempts (lifespan : Duration) (contact : Contact) :
    (attempted env ext lifespan contact w).attempts = w.attempts ++ [bootstrapAttempt ext lifespan contact] := by
  dsimp only [attempted]; split <;> simp

theorem attempted_of_failed (lifespan : Duration) (contact : Contact)
    (failed : (env.connectOutcome w.attempts.length).error ≠ none) :
    attempted env ext lifespan contact w = { allocate (env.connectOutcome w.attempts.length).connection w with
      attempts := w.attempts ++ [bootstrapAttempt ext lifespan contact] } := by
  obtain ⟨failure, outcome⟩ := Option.ne_none_iff_exists'.mp failed
  simp only [attempted, outcome]

theorem bootstrapRun_attempts (lifespan : Duration) (contacts : List Contact) :
    (bootstrapRun env ext lifespan contacts w).attempts = w.attempts ++ contacts.map (bootstrapAttempt ext lifespan) := by
  induction contacts generalizing w with
  | nil => simp [bootstrapRun]
  | cons contact rest ih => simp [bootstrapRun, ih]

end Frame

/-- The id an attempt from `w` passes on: the peer's, when the contact's
external endpoint is valid and the attempt connects, else the null id. -/
def reportedId (index : Nat) (contact : Contact) : NodeId :=
  if ext.isValid contact.endpointPair.externalEndpoint ∧ (env.connectOutcome index).error = none then
    (env.connectOutcome index).connection.socket.peerNodeId
  else NodeId.null

theorem reportedId_isValid (index : Nat) (contact : Contact) :
    (reportedId env ext index contact).isValid = true ↔
      ext.isValid contact.endpointPair.externalEndpoint = true ∧
        ((env.connectOutcome index).error = none ∧ (env.connectOutcome index).connection.socket.peerNodeId.isValid) := by
  unfold reportedId
  split_ifs with connected
  · simp [connected]
  · simp only [NodeId.isValid_null, Bool.false_eq_true, false_iff]
    exact fun ⟨valid, success, _⟩ => connected ⟨valid, success⟩

/-!
## What the loop leaves behind
-/

/-- From `w` to `after`, `started` attempts were made, the `k`-th of them
owning the manager's `k`-th new object, and the set gained the connection of
each attempt that connected in a normal state, and nothing else. -/
def AddsConnected (w after : World) : Prop :=
  ∃ started : Nat, after.attempts.length = w.attempts.length + started ∧
    after.transport.connectionManager.nextRef = w.transport.connectionManager.nextRef + started ∧
    ∀ other, after.transport.connectionManager.connections.contains other = true ↔
      w.transport.connectionManager.connections.contains other = true ∨
        ∃ k < started, other = w.transport.connectionManager.nextRef + k ∧
          env.ConnectsNormally (w.attempts.length + k)

theorem AddsConnected.refl (w : World) : AddsConnected env w w :=
  ⟨0, rfl, rfl, fun _ => by simp⟩

theorem AddsConnected.trans {w middle after : World} (first : AddsConnected env w middle)
    (second : AddsConnected env middle after) : AddsConnected env w after := by
  obtain ⟨started, attempts, nextRef, contains⟩ := first
  obtain ⟨later, attempts', nextRef', contains'⟩ := second
  have shift : ∀ k, middle.transport.connectionManager.nextRef + k =
      w.transport.connectionManager.nextRef + (started + k) := fun k => by rw [nextRef, Nat.add_assoc]
  have index : ∀ k, middle.attempts.length + k = w.attempts.length + (started + k) := fun k => by omega
  refine ⟨started + later, by omega, by rw [nextRef', shift], fun other => ?_⟩
  rw [contains', contains, or_assoc]
  refine or_congr_right ⟨?_, ?_⟩
  · rintro (⟨k, below, rfl, connects⟩ | ⟨k, below, rfl, connects⟩)
    · exact ⟨k, by omega, rfl, connects⟩
    · exact ⟨started + k, by omega, shift k, index k ▸ connects⟩
  · rintro ⟨k, below, rfl, connects⟩
    by_cases early : k < started
    · exact .inl ⟨k, early, rfl, connects⟩
    · obtain ⟨k, rfl⟩ := Nat.exists_eq_add_of_le (Nat.le_of_not_lt early)
      exact .inr ⟨k, by omega, (shift k).symm, (index k).symm ▸ connects⟩

/-- An attempt owns a new object, and the set gains its connection exactly
when it connected in a normal state. -/
theorem addsConnected_attempted (lifespan : Duration) (contact : Contact) (w : World) :
    AddsConnected env w (attempted env ext lifespan contact w) := by
  dsimp only [attempted]
  split
  · rename_i failed
    exact ⟨1, by simp, rfl, fun other => by simp [allocate, Environment.ConnectsNormally, failed]⟩
  · rename_i connected
    refine ⟨1, by simp, ?_, fun other => ?_⟩
    · rw [natDetected_connectionManager, (Transport.addConnection_frame _ ext _).2.1]
      rfl
    · rw [natDetected_connectionManager, Transport.addConnection_contains]
      simp [allocate, Environment.ConnectsNormally, connected]

theorem addsConnected_bootstrapRun (lifespan : Duration) (contacts : List Contact) (w : World) :
    AddsConnected env w (bootstrapRun env ext lifespan contacts w) := by
  induction contacts generalizing w with
  | nil => exact .refl env w
  | cons contact rest ih => exact (addsConnected_attempted env ext lifespan contact w).trans env (ih _)

/-- From `w` to `after` pings were only added; the NAT type became symmetric
if one of them failed, and stayed as it was if all succeeded. -/
structure RecordsNatType (w after : World) : Prop where
  pinged : w.pings.length ≤ after.pings.length
  failed : (∃ index, w.pings.length ≤ index ∧ index < after.pings.length ∧
    env.pingResult index ≠ ext.returnCodeValue .success) → after.transport.natType = .symmetric
  succeeded : (∀ index, w.pings.length ≤ index → index < after.pings.length →
    env.pingResult index = ext.returnCodeValue .success) → after.transport.natType = w.transport.natType

/-- A step that neither pings nor sets the NAT type. -/
theorem RecordsNatType.of_frame {w after : World} (pings : after.pings = w.pings)
    (natType : after.transport.natType = w.transport.natType) : RecordsNatType env ext w after :=
  ⟨pings ▸ le_rfl, fun ⟨_, below, above, _⟩ => absurd (pings ▸ above) (Nat.not_lt.mpr below), fun _ => natType⟩

theorem RecordsNatType.trans {w middle after : World} (first : RecordsNatType env ext w middle)
    (second : RecordsNatType env ext middle after) : RecordsNatType env ext w after where
  pinged := first.pinged.trans second.pinged
  failed := fun ⟨index, below, above, bad⟩ => by
    by_cases late : middle.pings.length ≤ index
    · exact second.failed ⟨index, late, above, bad⟩
    · have symmetric := first.failed ⟨index, below, Nat.lt_of_not_le late, bad⟩
      by_cases laterFailed : ∃ later, middle.pings.length ≤ later ∧ later < after.pings.length ∧
          env.pingResult later ≠ ext.returnCodeValue .success
      · exact second.failed laterFailed
      · rw [second.succeeded fun later below above => Classical.byContradiction fun bad =>
          laterFailed ⟨later, below, above, bad⟩, symmetric]
  succeeded := fun ok => by
    rw [second.succeeded fun index below above => ok index (first.pinged.trans below) above,
      first.succeeded fun index below above => ok index below (Nat.lt_of_lt_of_le above second.pinged)]

theorem recordsNatType_natDetected (peerId : NodeId) (peerPublicKey : PublicKey) (w : World) :
    RecordsNatType env ext w (natDetected env ext peerId peerPublicKey w) := by
  dsimp only [natDetected]
  split_ifs with valid succeeded
  · refine ⟨by simp, fun ⟨index, below, above, bad⟩ => ?_, fun _ => rfl⟩
    have only : index = w.pings.length := by simp at above; omega
    exact absurd (only ▸ succeeded) bad
  · exact ⟨by simp, fun _ => rfl, fun ok => absurd (ok _ le_rfl (by simp)) succeeded⟩
  · exact .of_frame env ext rfl rfl

theorem recordsNatType_attempted (lifespan : Duration) (contact : Contact) (w : World) :
    RecordsNatType env ext w (attempted env ext lifespan contact w) := by
  dsimp only [attempted]
  split
  · exact .of_frame env ext rfl rfl
  · let added : World := { allocate (env.connectOutcome w.attempts.length).connection w with
      attempts := w.attempts ++ [bootstrapAttempt ext lifespan contact]
      transport := (allocate (env.connectOutcome w.attempts.length).connection w).transport.addConnection ext
        w.transport.connectionManager.nextRef }
    have natType : added.transport.natType = w.transport.natType := (Transport.addConnection_frame _ ext _).2.2.1
    exact (@RecordsNatType.of_frame env ext w added rfl natType).trans env ext
      (recordsNatType_natDetected env ext _ _ added)

theorem recordsNatType_bootstrapRun (lifespan : Duration) (contacts : List Contact) (w : World) :
    RecordsNatType env ext w (bootstrapRun env ext lifespan contacts w) := by
  induction contacts generalizing w with
  | nil => exact .of_frame env ext rfl rfl
  | cons contact rest ih => exact (recordsNatType_attempted env ext lifespan contact w).trans env ext (ih _)

/-!
## The chains run the loop
-/

theorem detectNatType_run (peerId : NodeId) (peerPublicKey : PublicKey) (handler : Async Unit) (w : World) :
    (detectNatType env ext peerId peerPublicKey handler).run w =
      handler.run (natDetected env ext peerId peerPublicKey w) := by
  by_cases valid : ext.isValid (w.transport.connectionManager.remoteNatDetectionEndpoint peerId) = true
  · by_cases succeeded : env.pingResult w.pings.length = ext.returnCodeValue .success
    · simp [detectNatType, natDetected, valid, ping_run, succeeded]
    · simp [detectNatType, natDetected, valid, ping_run, succeeded]
      rfl
  · simp [detectNatType, natDetected, valid]

/-- One contact: an attempt of the loop when its external endpoint is valid,
and then the handler, once, with the id the attempt reports. -/
theorem connectToBootstrapEndpoint_run (contact : Contact) (lifespan : Duration) (w : World) :
    CallsOnce (connectToBootstrapEndpoint env ext contact lifespan) w (reportedId env ext w.attempts.length contact)
      (if ext.isValid contact.endpointPair.externalEndpoint then attempted env ext lifespan contact w else w) := by
  intro handler
  by_cases valid : ext.isValid contact.endpointPair.externalEndpoint = true
  swap
  · simp [connectToBootstrapEndpoint, valid, reportedId]
  rw [if_pos valid, connectToBootstrapEndpoint, if_neg (by simp [valid]), connect_run]
  cases outcome : (env.connectOutcome w.attempts.length).error with
  | some failure =>
      have reported : reportedId env ext w.attempts.length contact = NodeId.null :=
        if_neg fun ⟨_, connected⟩ => by rw [outcome] at connected; cases connected
      simp only [attempted, outcome, reported]
      rfl
  | none =>
      have reported : reportedId env ext w.attempts.length contact =
          (env.connectOutcome w.attempts.length).connection.socket.peerNodeId := if_pos ⟨valid, outcome⟩
      dsimp only
      rw [defaultOnConnect_bind, get_bind_run, detectNatType_run]
      simp only [attempted, outcome, reported, Transport.defaultOnConnect, ConnectionManager.peerNodeId,
        (Transport.addConnection_frame _ ext _).1, allocate_heap_nextRef]
      rfl

/-- The iterator overload runs the loop: it makes the loop's attempts, and then
calls its handler once, with the id of the first success or the null id. -/
theorem connectToBootstrapEndpoints_run (candidates : List Contact) (lifespan : Duration) (w : World) :
    CallsOnce (connectToBootstrapEndpoints env ext candidates lifespan) w
      ((bootstrapLoop env ext w.attempts.length candidates).2.getD NodeId.null)
      (bootstrapRun env ext lifespan (bootstrapLoop env ext w.attempts.length candidates).1 w) := by
  induction candidates generalizing w with
  | nil => exact fun handler => rfl
  | cons contact rest ih =>
      intro handler
      rw [connectToBootstrapEndpoints, connectToBootstrapEndpoint_run env ext contact lifespan w]
      by_cases success : (reportedId env ext w.attempts.length contact).isValid = true
      · obtain ⟨valid, succeeded⟩ := (reportedId_isValid env ext _ contact).mp success
        rw [if_neg (by simp [success])]
        simp [bootstrapLoop, valid, succeeded, reportedId, bootstrapRun]
      · rw [if_pos (by simp [success])]
        by_cases valid : ext.isValid contact.endpointPair.externalEndpoint = true
        · have failed : ¬((env.connectOutcome w.attempts.length).error = none ∧
              (env.connectOutcome w.attempts.length).connection.socket.peerNodeId.isValid = true) :=
            fun succeeded => success ((reportedId_isValid env ext _ contact).mpr ⟨valid, succeeded⟩)
          rw [if_pos valid, ih]
          simp [bootstrapLoop, valid, failed, bootstrapRun]
        · rw [if_neg valid, ih]
          simp [bootstrapLoop, valid]

theorem bootstrapLoop_found_isValid {index : Nat} {candidates : List Contact} {peerId : NodeId}
    (found : (bootstrapLoop env ext index candidates).2 = some peerId) : peerId.isValid = true := by
  induction candidates generalizing index with
  | nil => cases found
  | cons contact rest ih =>
      simp only [bootstrapLoop] at found
      split_ifs at found with valid succeeded
      · cases found
        exact succeeded.2
      · exact ih found
      · exact ih found

/-- When it tries to connect, `TryBootstrapping` runs the iterator overload
over the whole list, with `on_bootstrap` as its handler. -/
theorem tryBootstrapping_run (bootstrapList : List Contact) (bootstrapOffExistingConnection : Bool) (w : World)
    (tryConnect : bootstrapOffExistingConnection = false ∨ w.transport.natType ≠ .symmetric)
    (handler : ReturnCode → Contact → Async Unit) :
    (tryBootstrapping env ext bootstrapList bootstrapOffExistingConnection handler).run w =
      (connectToBootstrapEndpoints env ext bootstrapList
        (if bootstrapOffExistingConnection then Duration.zero else ext.bootstrapConnectionLifespan)
        fun peerId =>
          if peerId.isValid then
            match bootstrapList.find? (fun contact => contact.id == peerId) with
            | some contact => handler .success contact
            | none => abort
          else handler .notConnectable Contact.null).run w := by
  have connects : (if bootstrapOffExistingConnection then w.transport.natType != .symmetric else true) = true := by
    cases bootstrapOffExistingConnection <;> simp_all
  rw [tryBootstrapping, get_bind_run]
  simp only [connects, Bool.not_true, Bool.false_eq_true, if_false]

/-- `TryBootstrapping` attempts the loop's candidates, in list order and each at
most once, and after the last attempt and its NAT detection calls its handler
once, with the first candidate carrying the reported id. -/
theorem tryBootstrapping_reports_first_contact_with_id (bootstrapList : List Contact)
    (bootstrapOffExistingConnection : Bool) (w : World)
    (tryConnect : bootstrapOffExistingConnection = false ∨ w.transport.natType ≠ .symmetric) :
    let loop := bootstrapLoop env ext w.attempts.length bootstrapList
    let after := bootstrapRun env ext
      (if bootstrapOffExistingConnection then Duration.zero else ext.bootstrapConnectionLifespan) loop.1 w
    loop.1.Sublist bootstrapList ∧
      ∀ handler, (tryBootstrapping env ext bootstrapList bootstrapOffExistingConnection handler).run w =
        match loop.2 with
        | none => (handler .notConnectable Contact.null).run after
        | some peerId =>
            match bootstrapList.find? (fun contact => contact.id == peerId) with
            | some contact => (handler .success contact).run after
            | none => ((), { after with aborted := true }) := by
  refine ⟨bootstrapLoop_sublist env ext _ _, fun handler => ?_⟩
  rw [tryBootstrapping_run env ext bootstrapList bootstrapOffExistingConnection w tryConnect]
  refine (connectToBootstrapEndpoints_run env ext bootstrapList _ w _).trans ?_
  cases found : (bootstrapLoop env ext w.attempts.length bootstrapList).2 with
  | none => rfl
  | some peerId =>
      simp only [Option.getD_some, bootstrapLoop_found_isValid env ext found, if_true]
      split <;> rfl

/-!
## Two candidates with one id
-/

/-- A candidate with id 7 at 1.2.3.4:5000. -/
def firstSharedIdCandidate : Contact :=
  ⟨⟨7⟩, ⟨⟨.v4 0x01020304, 5000⟩, ⟨.v4 0x01020304, 5000⟩⟩, ⟨[]⟩⟩

/-- Another candidate with id 7, at 5.6.7.8:5000. -/
def secondSharedIdCandidate : Contact :=
  ⟨⟨7⟩, ⟨⟨.v4 0x05060708, 5000⟩, ⟨.v4 0x05060708, 5000⟩⟩, ⟨[]⟩⟩

/-- The first attempt times out; every later one connects to a peer reporting id 7. -/
def secondCandidateConnects : Environment where
  connectOutcome
    | 0 => ⟨some .timedOut, ⟨.pending, Socket.connecting ⟨7⟩ ⟨.v4 0x01020304, 5000⟩⟩⟩
    | _ => ⟨none, ⟨.bootstrapping, Socket.connecting ⟨7⟩ ⟨.v4 0x05060708, 5000⟩⟩⟩
  pingResult _ := 0
  multiplexerOpen _ := true

/-- The first candidate's attempt fails and the second's succeeds, yet the
handler is given the first candidate, found again by the id both carry. -/
theorem tryBootstrapping_reports_unsuccessful_candidate :
    (secondCandidateConnects.connectOutcome 0).error = some .timedOut ∧
      (secondCandidateConnects.connectOutcome 1).error = none ∧
      firstSharedIdCandidate ≠ secondSharedIdCandidate ∧
      ∃ after : World,
        after.attempts.map Attempt.peerEndpoint =
          [firstSharedIdCandidate.endpointPair.externalEndpoint,
            secondSharedIdCandidate.endpointPair.externalEndpoint] ∧
        ∀ handler, (tryBootstrapping secondCandidateConnects Externals.described
            [firstSharedIdCandidate, secondSharedIdCandidate] false handler).run
              (World.fresh (Transport.bootstrapped ⟨9⟩ .unknown)) =
          (handler .success firstSharedIdCandidate).run after := by
  refine ⟨rfl, rfl, by decide, _, ?_, fun handler => rfl⟩
  rfl

theorem tryBootstrapping_reports_first_contact_with_id_of_shared_id :
    (false = false ∨ (World.fresh (Transport.bootstrapped ⟨9⟩ .unknown)).transport.natType ≠ .symmetric) ∧
    let loop := bootstrapLoop secondCandidateConnects Externals.described 0
      [firstSharedIdCandidate, secondSharedIdCandidate]
    let after := bootstrapRun secondCandidateConnects Externals.described
      (if false then Duration.zero else Externals.described.bootstrapConnectionLifespan) loop.1
      (World.fresh (Transport.bootstrapped ⟨9⟩ .unknown))
    loop.1.Sublist [firstSharedIdCandidate, secondSharedIdCandidate] ∧
      ∀ handler, (tryBootstrapping secondCandidateConnects Externals.described
          [firstSharedIdCandidate, secondSharedIdCandidate] false handler).run
            (World.fresh (Transport.bootstrapped ⟨9⟩ .unknown)) =
        match loop.2 with
        | none => (handler .notConnectable Contact.null).run after
        | some peerId =>
            match [firstSharedIdCandidate, secondSharedIdCandidate].find? (fun contact => contact.id == peerId) with
            | some contact => (handler .success contact).run after
            | none => ((), { after with aborted := true }) :=
  ⟨.inl rfl, tryBootstrapping_reports_first_contact_with_id secondCandidateConnects Externals.described
    [firstSharedIdCandidate, secondSharedIdCandidate] false (World.fresh (Transport.bootstrapped ⟨9⟩ .unknown))
    (.inl rfl)⟩

/-!
## Bootstrapping a transport
-/

theorem bootstrap_run_of_opened (bootstrapList : List Contact) (thisNodeId : NodeId) (openResult : ReturnCode)
    (bootstrapOffExistingConnection onConnectionAdded onConnectionLost : Bool)
    (handler : ReturnCode → Contact → Async Unit) (w : World)
    (opened : ext.returnCodeValue openResult = ext.returnCodeValue .success) :
    (bootstrap env ext bootstrapList thisNodeId openResult bootstrapOffExistingConnection onConnectionAdded
        onConnectionLost handler).run w =
      (tryBootstrapping env ext bootstrapList bootstrapOffExistingConnection handler).run
        ((install thisNodeId onConnectionAdded onConnectionLost).run w).2 := by
  rw [bootstrap, if_neg (not_not.mpr opened)]
  rfl

/-- When no attempt connects, the iterator overload starts an attempt for every
candidate with a valid external endpoint, in list order, and calls its handler
once, last, with the null id; the manager's set and the callbacks are untouched. -/
theorem connectToBootstrapEndpoints_of_unreachable (unreachable : ∀ index, (env.connectOutcome index).error ≠ none)
    (candidates : List Contact) (lifespan : Duration) (w : World) :
    ∃ after : World,
      after.attempts = w.attempts ++
        (candidates.filter fun contact => ext.isValid contact.endpointPair.externalEndpoint).map
          (bootstrapAttempt ext lifespan) ∧
      after.transport.connectionManager.connections = w.transport.connectionManager.connections ∧
      after.transport.fired = w.transport.fired ∧
      CallsOnce (connectToBootstrapEndpoints env ext candidates lifespan) w NodeId.null after := by
  induction candidates generalizing w with
  | nil => exact ⟨w, by simp, rfl, rfl, fun handler => rfl⟩
  | cons contact rest ih =>
      have reported : reportedId env ext w.attempts.length contact = NodeId.null :=
        if_neg fun ⟨_, connected⟩ => unreachable _ connected
      by_cases valid : ext.isValid contact.endpointPair.externalEndpoint = true
      · obtain ⟨after, attempts, connections, fired, calls⟩ := ih (attempted env ext lifespan contact w)
        have started := attempted_of_failed env ext w lifespan contact (unreachable _)
        refine ⟨after, by simp [attempts, valid], by rw [connections, started]; rfl, by rw [fired, started]; rfl,
          fun handler => ?_⟩
        rw [connectToBootstrapEndpoints, connectToBootstrapEndpoint_run, reported, if_pos valid]
        exact calls handler
      · obtain ⟨after, attempts, connections, fired, calls⟩ := ih w
        refine ⟨after, by simp [attempts, valid], connections, fired, fun handler => ?_⟩
        rw [connectToBootstrapEndpoints, connectToBootstrapEndpoint_run, reported, if_neg valid]
        exact calls handler

/-- When no candidate answers, `Bootstrap` attempts every candidate with a valid
endpoint, in order, then reports `kNotConnectable` once, last; the set stays
empty and no slot is called. -/
theorem bootstrap_unreachable_reports_notConnectable (bootstrapList : List Contact) (thisNodeId : NodeId)
    (openResult : ReturnCode) (bootstrapOffExistingConnection onConnectionAdded onConnectionLost : Bool)
    (w : World) (opened : ext.returnCodeValue openResult = ext.returnCodeValue .success)
    (tryConnect : bootstrapOffExistingConnection = false ∨ w.transport.natType ≠ .symmetric)
    (unreachable : ∀ index, (env.connectOutcome index).error ≠ none) :
    ∃ after : World,
      after.attempts = w.attempts ++
        (bootstrapList.filter fun contact => ext.isValid contact.endpointPair.externalEndpoint).map
          (bootstrapAttempt ext
            (if bootstrapOffExistingConnection then Duration.zero else ext.bootstrapConnectionLifespan)) ∧
      after.transport.connectionManager.connections.entries = [] ∧ after.transport.fired = w.transport.fired ∧
      ∀ handler, (bootstrap env ext bootstrapList thisNodeId openResult bootstrapOffExistingConnection
          onConnectionAdded onConnectionLost handler).run w = (handler .notConnectable Contact.null).run after := by
  obtain ⟨after, attempts, connections, fired, calls⟩ := connectToBootstrapEndpoints_of_unreachable env ext
    unreachable bootstrapList
    (if bootstrapOffExistingConnection then Duration.zero else ext.bootstrapConnectionLifespan)
    ((install thisNodeId onConnectionAdded onConnectionLost).run w).2
  refine ⟨after, attempts, by rw [connections]; rfl, fired, fun handler => ?_⟩
  rw [bootstrap_run_of_opened env ext _ _ _ _ _ _ _ w opened,
    tryBootstrapping_run env ext _ _ ((install thisNodeId onConnectionAdded onConnectionLost).run w).2 tryConnect]
  exact calls _

/-- A candidate with id 88 at 10.0.0.1:9000. -/
def silentCandidate : Contact :=
  ⟨⟨88⟩, ⟨⟨.v4 0x0A000001, 9000⟩, ⟨.v4 0x0A000001, 9000⟩⟩, ⟨[]⟩⟩

/-- Nothing listens: every attempt times out. -/
def nothingListens : Environment where
  connectOutcome _ := ⟨some .timedOut, ⟨.pending, Socket.connecting ⟨88⟩ ⟨.v4 0x0A000001, 9000⟩⟩⟩
  pingResult _ := 0
  multiplexerOpen _ := true

theorem bootstrap_unreachable_reports_notConnectable_of_silent_candidate :
    (Externals.described.returnCodeValue .success = Externals.described.returnCodeValue .success ∧
      (false = false ∨ (World.fresh (Transport.constructed .unknown)).transport.natType ≠ .symmetric) ∧
      ∀ index, (nothingListens.connectOutcome index).error ≠ none) ∧
    ∃ after : World,
      after.attempts = (World.fresh (Transport.constructed .unknown)).attempts ++
        ([silentCandidate].filter fun contact => Externals.described.isValid contact.endpointPair.externalEndpoint).map
          (bootstrapAttempt Externals.described
            (if false then Duration.zero else Externals.described.bootstrapConnectionLifespan)) ∧
      after.transport.connectionManager.connections.entries = [] ∧
      after.transport.fired = (World.fresh (Transport.constructed .unknown)).transport.fired ∧
      ∀ handler, (bootstrap nothingListens Externals.described [silentCandidate] ⟨1⟩ .success false true true
          handler).run (World.fresh (Transport.constructed .unknown)) =
        (handler .notConnectable Contact.null).run after :=
  ⟨⟨rfl, .inl rfl, fun _ => Option.some_ne_none _⟩,
    bootstrap_unreachable_reports_notConnectable nothingListens Externals.described [silentCandidate] ⟨1⟩ .success
      false true true (World.fresh (Transport.constructed .unknown)) rfl (.inl rfl) fun _ => Option.some_ne_none _⟩

/-- When the first candidate connects to the peer it names, `Bootstrap` makes
that attempt only, the manager finds the connection under the peer's id, it is
announced once unless a code or the slot prevents it, and `kSuccess` follows. -/
theorem bootstrap_announces_connected_candidate (contact : Contact) (rest : List Contact) (thisNodeId : NodeId)
    (openResult : ReturnCode) (bootstrapOffExistingConnection onConnectionAdded onConnectionLost : Bool)
    (w : World) (opened : ext.returnCodeValue openResult = ext.returnCodeValue .success)
    (tryConnect : bootstrapOffExistingConnection = false ∨ w.transport.natType ≠ .symmetric)
    (valid : ext.isValid contact.endpointPair.externalEndpoint = true)
    (connected : (env.connectOutcome w.attempts.length).error = none)
    (normal : (env.connectOutcome w.attempts.length).connection.state.isNormal = true)
    (peer : (env.connectOutcome w.attempts.length).connection.socket.peerNodeId = contact.id)
    (peerValid : contact.id.isValid = true) :
    ∃ after : World,
      after.attempts = w.attempts ++ [bootstrapAttempt ext
        (if bootstrapOffExistingConnection then Duration.zero else ext.bootstrapConnectionLifespan) contact] ∧
      after.transport.connectionManager.findConnection contact.id = some 0 ∧
      after.transport.fired = w.transport.fired ++
        (if (1 : Int) = ext.returnCodeValue .invalidConnection ∨
            (1 : Int) = ext.returnCodeValue .connectionAlreadyExists ∨ onConnectionAdded = false then []
          else [.connectionAdded contact.id false 0]) ∧
      ∀ handler, (bootstrap env ext (contact :: rest) thisNodeId openResult bootstrapOffExistingConnection
          onConnectionAdded onConnectionLost handler).run w = (handler .success contact).run after := by
  let installed := ((install thisNodeId onConnectionAdded onConnectionLost).run w).2
  let lifespan := if bootstrapOffExistingConnection then Duration.zero else ext.bootstrapConnectionLifespan
  have peer : (env.connectOutcome installed.attempts.length).connection.socket.peerNodeId = contact.id := peer
  have installedConnected : (env.connectOutcome installed.attempts.length).error = none := connected
  have added : (attempted env ext lifespan contact installed).transport =
      { (allocate (env.connectOutcome installed.attempts.length).connection installed).transport.addConnection ext
          installed.transport.connectionManager.nextRef with
        natType := (attempted env ext lifespan contact installed).transport.natType } := by
    simp only [attempted, installedConnected]
    dsimp only [natDetected]
    split_ifs <;> rfl
  obtain ⟨inserted, announced⟩ := Transport.addConnection_of_fresh
    (allocate (env.connectOutcome installed.attempts.length).connection installed).transport ext
    installed.transport.connectionManager.nextRef normal rfl
  refine ⟨attempted env ext lifespan contact installed, attempted_attempts env ext _ _ _, ?_, ?_, fun handler => ?_⟩
  · rw [added]
    refine ConnectionManager.findConnection_of_entries _ (by rw [inserted]; rfl) ?_
    rw [ConnectionManager.peerNodeId, (Transport.addConnection_frame _ ext _).1]
    exact peer
  · rw [added]
    show _ = _ ++ _
    rw [announced, ← peer]
    rfl
  · rw [bootstrap_run_of_opened env ext _ _ _ _ _ _ _ w opened,
      tryBootstrapping_run env ext _ _ installed tryConnect, connectToBootstrapEndpoints,
      connectToBootstrapEndpoint_run, if_pos valid]
    simp [reportedId, valid, installedConnected, peer, peerValid]

/-- A candidate with id 66 at 127.0.0.1:5001. -/
def listeningCandidate : Contact :=
  ⟨⟨66⟩, ⟨⟨.v4 0x7F000001, 5001⟩, ⟨.v4 0x7F000001, 5001⟩⟩, ⟨[]⟩⟩

/-- The first attempt reaches peer 66, which completes the handshake as
`kBootstrapping`; every later attempt times out. -/
def candidateListens : Environment where
  connectOutcome
    | 0 => ⟨none, ⟨.bootstrapping, Socket.connecting ⟨66⟩ ⟨.v4 0x7F000001, 5001⟩⟩⟩
    | _ => ⟨some .timedOut, ⟨.pending, Socket.connecting ⟨66⟩ ⟨.v4 0x7F000001, 5001⟩⟩⟩
  pingResult _ := 0
  multiplexerOpen _ := true

theorem bootstrap_announces_connected_candidate_of_listening :
    (Externals.described.returnCodeValue .success = Externals.described.returnCodeValue .success ∧
      (false = false ∨ (World.fresh (Transport.constructed .unknown)).transport.natType ≠ .symmetric) ∧
      Externals.described.isValid listeningCandidate.endpointPair.externalEndpoint = true ∧
      (candidateListens.connectOutcome 0).error = none ∧
      (candidateListens.connectOutcome 0).connection.state.isNormal = true ∧
      (candidateListens.connectOutcome 0).connection.socket.peerNodeId = listeningCandidate.id ∧
      listeningCandidate.id.isValid = true) ∧
    ∃ after : World,
      after.attempts = (World.fresh (Transport.constructed .unknown)).attempts ++ [bootstrapAttempt
        Externals.described (if false then Duration.zero else Externals.described.bootstrapConnectionLifespan)
        listeningCandidate] ∧
      after.transport.connectionManager.findConnection listeningCandidate.id = some 0 ∧
      after.transport.fired = (World.fresh (Transport.constructed .unknown)).transport.fired ++
        (if (1 : Int) = Externals.described.returnCodeValue .invalidConnection ∨
            (1 : Int) = Externals.described.returnCodeValue .connectionAlreadyExists ∨ true = false then []
          else [.connectionAdded listeningCandidate.id false 0]) ∧
      ∀ handler, (bootstrap candidateListens Externals.described [listeningCandidate] ⟨1⟩ .success false true true
          handler).run (World.fresh (Transport.constructed .unknown)) =
        (handler .success listeningCandidate).run after :=
  ⟨⟨rfl, .inl rfl, by decide, rfl, rfl, rfl, rfl⟩,
    bootstrap_announces_connected_candidate candidateListens Externals.described listeningCandidate [] ⟨1⟩ .success
      false true true (World.fresh (Transport.constructed .unknown)) rfl (.inl rfl) (by decide) rfl rfl rfl rfl⟩

/-- When the multiplexer opens and the candidates are tried, `Bootstrap` with
an `on_bootstrap` that does nothing ends where the loop ends from the fresh
manager, but for the `aborted` flag. -/
theorem bootstrap_settles (bootstrapList : List Contact) (thisNodeId : NodeId) (openResult : ReturnCode)
    (bootstrapOffExistingConnection onConnectionAdded onConnectionLost : Bool) (w : World)
    (opened : ext.returnCodeValue openResult = ext.returnCodeValue .success)
    (tryConnect : bootstrapOffExistingConnection = false ∨ w.transport.natType ≠ .symmetric) :
    let final := ((bootstrap env ext bootstrapList thisNodeId openResult bootstrapOffExistingConnection
      onConnectionAdded onConnectionLost fun _ _ => pure ()).run w).2
    let after := bootstrapRun env ext
      (if bootstrapOffExistingConnection then Duration.zero else ext.bootstrapConnectionLifespan)
      (bootstrapLoop env ext w.attempts.length bootstrapList).1
      ((install thisNodeId onConnectionAdded onConnectionLost).run w).2
    final.transport = after.transport ∧ final.pings = after.pings := by
  intro final after
  have settled : final = after ∨ final = { after with aborted := true } := by
    simp only [final]
    rw [bootstrap_run_of_opened env ext _ _ _ _ _ _ _ w opened,
      tryBootstrapping_run env ext _ _ ((install thisNodeId onConnectionAdded onConnectionLost).run w).2 tryConnect,
      connectToBootstrapEndpoints_run]
    split
    · split
      · exact .inl rfl
      · exact .inr rfl
    · exact .inl rfl
  rcases settled with same | same <;> rw [same] <;> exact ⟨rfl, rfl⟩

/-- The set `Bootstrap` leaves holds exactly the connections of the loop's
attempts that connected in a normal state, the `k`-th owning object `k`; those
whose peer reported the null id are passed over but not closed. -/
theorem bootstrap_keeps_every_connected_attempt (bootstrapList : List Contact) (thisNodeId : NodeId)
    (openResult : ReturnCode) (bootstrapOffExistingConnection onConnectionAdded onConnectionLost : Bool)
    (w : World) (opened : ext.returnCodeValue openResult = ext.returnCodeValue .success)
    (tryConnect : bootstrapOffExistingConnection = false ∨ w.transport.natType ≠ .symmetric)
    (connection : ConnRef) :
    ((bootstrap env ext bootstrapList thisNodeId openResult bootstrapOffExistingConnection onConnectionAdded
        onConnectionLost fun _ _ => pure ()).run w).2.transport.connectionManager.connections.contains
          connection = true ↔
      connection < (bootstrapLoop env ext w.attempts.length bootstrapList).1.length ∧
        env.ConnectsNormally (w.attempts.length + connection) := by
  let installed := ((install thisNodeId onConnectionAdded onConnectionLost).run w).2
  let lifespan := if bootstrapOffExistingConnection then Duration.zero else ext.bootstrapConnectionLifespan
  have sameAttempts : installed.attempts = w.attempts := rfl
  have fresh : installed.transport.connectionManager = ConnectionManager.initial thisNodeId := rfl
  obtain ⟨started, length, -, contains⟩ := addsConnected_bootstrapRun env ext lifespan
    (bootstrapLoop env ext w.attempts.length bootstrapList).1 installed
  rw [bootstrapRun_attempts, sameAttempts, List.length_append, List.length_map] at length
  rw [sameAttempts, fresh] at contains
  rw [(bootstrap_settles env ext bootstrapList thisNodeId openResult bootstrapOffExistingConnection
    onConnectionAdded onConnectionLost w opened tryConnect).1, contains,
    (by omega : started = (bootstrapLoop env ext w.attempts.length bootstrapList).1.length)]
  simp only [ConnectionManager.initial, SortedMap.contains, SortedMap.find_empty, Option.isSome_none,
    Bool.false_eq_true, false_or, Nat.zero_add]
  exact ⟨fun ⟨_, below, same, connects⟩ => same ▸ ⟨below, connects⟩,
    fun ⟨below, connects⟩ => ⟨connection, below, rfl, connects⟩⟩

/-- The first attempt connects, in a normal state, to a peer that reports the
null id; every later one reaches peer 66. -/
def nullPeerThenListens : Environment where
  connectOutcome
    | 0 => ⟨none, ⟨.bootstrapping, Socket.connecting NodeId.null ⟨.v4 0x0A000001, 9000⟩⟩⟩
    | _ => ⟨none, ⟨.bootstrapping, Socket.connecting ⟨66⟩ ⟨.v4 0x7F000001, 5001⟩⟩⟩
  pingResult _ := 0
  multiplexerOpen _ := true

example : ((bootstrap nullPeerThenListens Externals.described [silentCandidate, listeningCandidate] ⟨1⟩ .success
    false true true fun _ _ => pure ()).run
      (World.fresh (Transport.constructed .unknown))).2.transport.connectionManager.connections.entries =
    [(0, ()), (1, ())] := rfl

theorem bootstrap_keeps_every_connected_attempt_of_null_peer :
    (Externals.described.returnCodeValue .success = Externals.described.returnCodeValue .success ∧
      (false = false ∨ (World.fresh (Transport.constructed .unknown)).transport.natType ≠ .symmetric)) ∧
    (((bootstrap nullPeerThenListens Externals.described [silentCandidate, listeningCandidate] ⟨1⟩ .success
        false true true fun _ _ => pure ()).run
          (World.fresh (Transport.constructed .unknown))).2.transport.connectionManager.connections.contains 0 =
        true ↔
      0 < (bootstrapLoop nullPeerThenListens Externals.described 0 [silentCandidate, listeningCandidate]).1.length ∧
        nullPeerThenListens.ConnectsNormally (0 + 0)) :=
  ⟨⟨rfl, .inl rfl⟩, bootstrap_keeps_every_connected_attempt nullPeerThenListens Externals.described
    [silentCandidate, listeningCandidate] ⟨1⟩ .success false true true (World.fresh (Transport.constructed .unknown))
    rfl (.inl rfl) 0⟩

/-- `Bootstrap` leaves the NAT type symmetric when one of its pings failed and as
it was when all succeeded; when it tries to connect, its pings are the loop's,
one after every attempt that connects to a peer with a NAT detection endpoint. -/
theorem bootstrap_records_nat_detection (bootstrapList : List Contact) (thisNodeId : NodeId)
    (openResult : ReturnCode) (bootstrapOffExistingConnection onConnectionAdded onConnectionLost : Bool)
    (w : World) :
    let final := ((bootstrap env ext bootstrapList thisNodeId openResult bootstrapOffExistingConnection
      onConnectionAdded onConnectionLost fun _ _ => pure ()).run w).2
    RecordsNatType env ext w final ∧
      (ext.returnCodeValue openResult = ext.returnCodeValue .success →
        (bootstrapOffExistingConnection = false ∨ w.transport.natType ≠ .symmetric) →
        final.pings = (bootstrapRun env ext
          (if bootstrapOffExistingConnection then Duration.zero else ext.bootstrapConnectionLifespan)
          (bootstrapLoop env ext w.attempts.length bootstrapList).1
          ((install thisNodeId onConnectionAdded onConnectionLost).run w).2).pings) := by
  intro final
  refine ⟨?_, fun opened tryConnect => (bootstrap_settles env ext bootstrapList thisNodeId openResult
    bootstrapOffExistingConnection onConnectionAdded onConnectionLost w opened tryConnect).2⟩
  by_cases opened : ext.returnCodeValue openResult = ext.returnCodeValue .success
  · by_cases tryConnect : bootstrapOffExistingConnection = false ∨ w.transport.natType ≠ .symmetric
    · obtain ⟨settled, pinged⟩ := bootstrap_settles env ext bootstrapList thisNodeId openResult
        bootstrapOffExistingConnection onConnectionAdded onConnectionLost w opened tryConnect
      let installed := ((install thisNodeId onConnectionAdded onConnectionLost).run w).2
      exact ((@RecordsNatType.of_frame env ext w installed rfl rfl).trans env ext
        (recordsNatType_bootstrapRun env ext _ _ installed)).trans env ext
          (.of_frame env ext pinged (congrArg Transport.natType settled))
    · have skipped : (if bootstrapOffExistingConnection then
          ((install thisNodeId onConnectionAdded onConnectionLost).run w).2.transport.natType != .symmetric
          else true) = false := by
        show (if bootstrapOffExistingConnection then w.transport.natType != .symmetric else true) = false
        cases bootstrapOffExistingConnection <;> simp_all
      show RecordsNatType env ext w ((bootstrap env ext _ _ _ _ _ _ _).run w).2
      rw [bootstrap_run_of_opened env ext _ _ _ _ _ _ _ w opened, tryBootstrapping, get_bind_run]
      simp only [skipped, Bool.not_false, ↓reduceIte]
      exact .of_frame env ext rfl rfl
  · show RecordsNatType env ext w ((bootstrap env ext _ _ _ _ _ _ _).run w).2
    rw [bootstrap, if_pos opened]
    exact .of_frame env ext rfl rfl

/-- Peer 66 has a NAT detection endpoint, and every ping fails. -/
def natDetectionFails : Environment where
  connectOutcome _ := ⟨none, ⟨.bootstrapping,
    { Socket.connecting ⟨66⟩ ⟨.v4 0x7F000001, 5001⟩ with remoteNatDetectionEndpoint := ⟨.v4 0x7F000001, 5002⟩ }⟩⟩
  pingResult _ := 1
  multiplexerOpen _ := true

/-- Bootstrapping from `listeningCandidate` pings peer 66's NAT detection
endpoint once, the ping fails, and the NAT type turns symmetric. -/
theorem bootstrap_records_nat_detection_of_failed_ping :
    (Externals.described.returnCodeValue .success = Externals.described.returnCodeValue .success ∧
      (false = false ∨ (World.fresh (Transport.constructed .unknown)).transport.natType ≠ .symmetric)) ∧
    ((bootstrap natDetectionFails Externals.described [listeningCandidate] ⟨1⟩ .success false true true
        fun _ _ => pure ()).run (World.fresh (Transport.constructed .unknown))).2.pings =
      [⟨⟨66⟩, ⟨.v4 0x7F000001, 5002⟩, ⟨[]⟩⟩] ∧
    ((bootstrap natDetectionFails Externals.described [listeningCandidate] ⟨1⟩ .success false true true
        fun _ _ => pure ()).run (World.fresh (Transport.constructed .unknown))).2.transport.natType = .symmetric ∧
    RecordsNatType natDetectionFails Externals.described (World.fresh (Transport.constructed .unknown))
      ((bootstrap natDetectionFails Externals.described [listeningCandidate] ⟨1⟩ .success false true true
        fun _ _ => pure ()).run (World.fresh (Transport.constructed .unknown))).2 :=
  ⟨⟨rfl, .inl rfl⟩, rfl, rfl, (bootstrap_records_nat_detection natDetectionFails Externals.described
    [listeningCandidate] ⟨1⟩ .success false true true (World.fresh (Transport.constructed .unknown))).1⟩

end Async

end Rudp
