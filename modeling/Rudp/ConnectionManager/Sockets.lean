import Rudp.ConnectionManager.Basic

/-!
# The socket registry

`AddSocket` and `RemoveSocket` of `connection_manager.cc`, with `RandomUint32`
as an explicit stream, and the registry law over every run of them.
-/

set_option autoImplicit false

namespace Rudp

/-- The id loop of `AddSocket`: the first drawn id that is non-zero and unused,
with the rest of the stream. -/
def freshSocketId (sockets : SocketMap) : List UInt32 → Option (UInt32 × List UInt32)
  | [] => none
  | id :: rest => if id = 0 ∨ sockets.contains id then freshSocketId sockets rest else some (id, rest)

namespace ConnectionManager

variable (cm : ConnectionManager)

/-- `AddSocket`: the new id, the rest of the random stream, and the manager afterwards. -/
def addSocket (socket : ConnRef) (random : List UInt32) :
    Option (UInt32 × List UInt32 × ConnectionManager) :=
  (freshSocketId cm.sockets random).map fun (id, rest) =>
    (id, rest, { cm with sockets := cm.sockets.insert id socket })

/-- `RemoveSocket`. -/
def removeSocket (id : UInt32) : ConnectionManager :=
  if id ≠ 0 then { cm with sockets := cm.sockets.erase id } else cm

end ConnectionManager

/-!
## One call
-/

/-- The loop stops at the first drawn id that is non-zero and not registered. -/
theorem freshSocketId_eq_some_iff (sockets : SocketMap) (random : List UInt32) (id : UInt32)
    (rest : List UInt32) :
    freshSocketId sockets random = some (id, rest) ↔
      ∃ skipped, random = skipped ++ id :: rest ∧ id ≠ 0 ∧ sockets.find id = none ∧
        ∀ drawn ∈ skipped, drawn = 0 ∨ sockets.contains drawn := by
  induction random with
  | nil =>
      constructor
      · intro found
        cases found
      · rintro ⟨_ | ⟨first, skipped⟩, split, -⟩ <;> cases split
  | cons drawn random ih =>
      by_cases rejected : drawn = 0 ∨ sockets.contains drawn
      · simp only [freshSocketId, rejected, ↓reduceIte, ih]
        constructor
        · rintro ⟨skipped, rfl, fresh⟩
          exact ⟨drawn :: skipped, rfl, fresh.1, fresh.2.1, List.forall_mem_cons.mpr ⟨rejected, fresh.2.2⟩⟩
        · rintro ⟨_ | ⟨first, skipped⟩, split, nonzero, unused, earlier⟩
          · cases split
            simp [SortedMap.contains, unused, nonzero] at rejected
          · cases split
            exact ⟨skipped, rfl, nonzero, unused, fun other member => earlier other (by simp [member])⟩
      · simp only [freshSocketId, rejected, ↓reduceIte, Option.some.injEq, Prod.mk.injEq]
        simp only [not_or, SortedMap.contains, Option.isSome_iff_ne_none, ne_eq,
          not_not] at rejected
        constructor
        · rintro ⟨rfl, rfl⟩
          exact ⟨[], rfl, rejected.1, rejected.2, by simp⟩
        · rintro ⟨_ | ⟨first, skipped⟩, split, nonzero, unused, earlier⟩
          · cases split
            exact ⟨rfl, rfl⟩
          · cases split
            simpa [SortedMap.contains, rejected.2, rejected.1] using earlier drawn (List.mem_cons_self _ _)

theorem freshSocketId_fresh {sockets : SocketMap} {random : List UInt32} {id : UInt32}
    {rest : List UInt32} (drawn : freshSocketId sockets random = some (id, rest)) :
    id ≠ 0 ∧ sockets.find id = none := by
  obtain ⟨_, _, nonzero, unused, _⟩ := (freshSocketId_eq_some_iff sockets random id rest).mp drawn
  exact ⟨nonzero, unused⟩

namespace ConnectionManager

variable {cm : ConnectionManager}

/-- `AddSocket` returns a non-zero id that was unused, maps it to the socket,
and changes no other entry and nothing else of the manager. -/
theorem addSocket_spec {socket : ConnRef} {random rest : List UInt32} {id : UInt32}
    {after : ConnectionManager} (added : cm.addSocket socket random = some (id, rest, after)) :
    id ≠ 0 ∧ cm.sockets.find id = none ∧ after = { cm with sockets := cm.sockets.insert id socket } := by
  simp only [addSocket, Option.map_eq_some', Prod.exists, Prod.mk.injEq] at added
  obtain ⟨drawn, remaining, fresh, rfl, rfl, rfl⟩ := added
  exact ⟨(freshSocketId_fresh fresh).1, (freshSocketId_fresh fresh).2, rfl⟩

theorem removeSocket_find (id : UInt32) :
    (cm.removeSocket id).sockets.find =
      if id ≠ 0 then Function.update cm.sockets.find id none else cm.sockets.find := by
  by_cases zero : id = 0
  · simp [removeSocket, zero]
  · simp [removeSocket, zero, SortedMap.find_erase_eq_update]

@[simp] theorem removeSocket_connections (id : UInt32) :
    (cm.removeSocket id).connections = cm.connections := by
  unfold removeSocket; split <;> rfl

@[simp] theorem removeSocket_heap (id : UInt32) : (cm.removeSocket id).heap = cm.heap := by
  unfold removeSocket; split <;> rfl

end ConnectionManager

/-!
## Runs
-/

/-- A call to the registry. -/
inductive SocketOp where
  | addSocket (socket : ConnRef)
  | removeSocket (id : UInt32)
deriving DecidableEq, Repr

/-- A finished registry call: the id `AddSocket` returned, or the id removed. -/
inductive SocketEvent where
  | added (id : UInt32) (socket : ConnRef)
  | removed (id : UInt32)
deriving DecidableEq, Repr

/-- Runs registry calls in order, threading the random stream; `none` when an
`AddSocket` loop exhausts the stream. -/
def runSockets : ConnectionManager → List UInt32 → List SocketOp →
    Option (ConnectionManager × List SocketEvent × List UInt32)
  | cm, random, [] => some (cm, [], random)
  | cm, random, .addSocket socket :: ops =>
      match cm.addSocket socket random with
      | none => none
      | some (id, rest, after) =>
          (runSockets after rest ops).map fun (final, events, left) =>
            (final, .added id socket :: events, left)
  | cm, random, .removeSocket id :: ops =>
      (runSockets (cm.removeSocket id) random ops).map fun (final, events, left) =>
        (final, .removed id :: events, left)

/-- Each `AddSocket` of `ops` meets, in what is left of the stream, a non-zero
id unused at that point, after drawing only zeros and used ids. -/
def LoopsTerminate : ConnectionManager → List UInt32 → List SocketOp → Prop
  | _, _, [] => True
  | cm, random, .addSocket socket :: ops =>
      ∃ skipped id rest, random = skipped ++ id :: rest ∧ id ≠ 0 ∧ cm.sockets.find id = none ∧
        (∀ drawn ∈ skipped, drawn = 0 ∨ cm.sockets.contains drawn = true) ∧
        LoopsTerminate { cm with sockets := cm.sockets.insert id socket } rest ops
  | cm, random, .removeSocket id :: ops => LoopsTerminate (cm.removeSocket id) random ops

/-- A run finishes exactly when the stream lets every `AddSocket` loop stop. -/
theorem loopsTerminate_iff {cm : ConnectionManager} {random : List UInt32} {ops : List SocketOp} :
    LoopsTerminate cm random ops ↔ ∃ final events left, runSockets cm random ops = some (final, events, left) := by
  induction ops generalizing cm random with
  | nil => simp [LoopsTerminate, runSockets]
  | cons op ops ih =>
      cases op with
      | addSocket socket =>
          constructor
          · rintro ⟨skipped, id, rest, split, nonzero, unused, earlier, later⟩
            have drawn : freshSocketId cm.sockets random = some (id, rest) :=
              (freshSocketId_eq_some_iff _ _ _ _).mpr ⟨skipped, split, nonzero, unused, earlier⟩
            obtain ⟨final, events, left, run⟩ := ih.mp later
            exact ⟨final, .added id socket :: events, left, by simp [runSockets, ConnectionManager.addSocket, drawn, run]⟩
          · rintro ⟨final, events, left, run⟩
            simp only [runSockets] at run
            split at run
            · cases run
            · rename_i id rest after added
              simp only [ConnectionManager.addSocket, Option.map_eq_some', Prod.exists, Prod.mk.injEq] at added
              obtain ⟨_, _, drawn, rfl, rfl, rfl⟩ := added
              obtain ⟨skipped, split, nonzero, unused, earlier⟩ := (freshSocketId_eq_some_iff _ _ _ _).mp drawn
              obtain ⟨⟨final, events, left⟩, later, -⟩ := Option.map_eq_some'.mp run
              exact ⟨skipped, _, _, split, nonzero, unused, earlier, ih.mpr ⟨final, events, left, later⟩⟩
      | removeSocket id =>
          simp only [LoopsTerminate, runSockets, Option.map_eq_some', Prod.exists, Prod.mk.injEq]
          refine ih.trans ⟨fun ⟨final, events, left, run⟩ => ⟨final, _, left, final, events, left, run, rfl, rfl, rfl⟩,
            fun ⟨_, _, _, final, events, left, run, _⟩ => ⟨final, events, left, run⟩⟩

/-- What a history of registry calls says each id maps to, starting from `start`. -/
def replaySockets (start : UInt32 → Option ConnRef) : List SocketEvent → UInt32 → Option ConnRef
  | [] => start
  | .added id socket :: events => replaySockets (Function.update start id (some socket)) events
  | .removed id :: events =>
      replaySockets (if id ≠ 0 then Function.update start id none else start) events

/-- Every id an `AddSocket` of the history returned was non-zero and not
registered just before that call. -/
def FreshIds (start : UInt32 → Option ConnRef) (events : List SocketEvent) : Prop :=
  ∀ before id socket after, events = before ++ .added id socket :: after →
    id ≠ 0 ∧ replaySockets start before id = none

theorem FreshIds.nil (start : UInt32 → Option ConnRef) : FreshIds start [] := by
  intro before _ _ _ split
  cases before <;> cases split

theorem FreshIds.cons_added {start : UInt32 → Option ConnRef} {id : UInt32} {socket : ConnRef}
    {events : List SocketEvent} (nonzero : id ≠ 0) (unused : start id = none)
    (later : FreshIds (Function.update start id (some socket)) events) :
    FreshIds start (.added id socket :: events) := by
  intro before returned socket' after split
  cases before with
  | nil =>
      cases split
      exact ⟨nonzero, unused⟩
  | cons event before =>
      simp only [List.cons_append, List.cons.injEq] at split
      obtain ⟨rfl, rest⟩ := split
      exact later before returned socket' after rest

theorem FreshIds.cons_removed {start : UInt32 → Option ConnRef} {id : UInt32}
    {events : List SocketEvent}
    (later : FreshIds (if id ≠ 0 then Function.update start id none else start) events) :
    FreshIds start (.removed id :: events) := by
  intro before returned socket after split
  cases before with
  | nil => cases split
  | cons event before =>
      simp only [List.cons_append, List.cons.injEq] at split
      obtain ⟨rfl, rest⟩ := split
      exact later before returned socket after rest

theorem FreshIds.nonzero {start : UInt32 → Option ConnRef} {events : List SocketEvent}
    (fresh : FreshIds start events) {id : UInt32} {socket : ConnRef}
    (member : SocketEvent.added id socket ∈ events) : id ≠ 0 := by
  obtain ⟨before, after, split⟩ := List.append_of_mem member
  exact (fresh before id socket after split).1

/-- Over a run, the registry is the replay of the calls' results, and each
`AddSocket` returned an id that was non-zero and unused at that point. -/
theorem runSockets_replay {cm final : ConnectionManager} {random left : List UInt32}
    {ops : List SocketOp} {events : List SocketEvent}
    (run : runSockets cm random ops = some (final, events, left)) :
    final.sockets.find = replaySockets cm.sockets.find events ∧ FreshIds cm.sockets.find events := by
  induction ops generalizing cm random events with
  | nil =>
      simp only [runSockets, Option.some.injEq, Prod.mk.injEq] at run
      obtain ⟨rfl, rfl, rfl⟩ := run
      exact ⟨rfl, FreshIds.nil _⟩
  | cons op ops ih =>
      cases op with
      | addSocket socket =>
          simp only [runSockets] at run
          split at run
          · cases run
          · rename_i id rest after added
            simp only [Option.map_eq_some', Prod.exists, Prod.mk.injEq] at run
            obtain ⟨_, tail, _, later, rfl, rfl, rfl⟩ := run
            obtain ⟨nonzero, unused, rfl⟩ := ConnectionManager.addSocket_spec added
            obtain ⟨replayed, fresh⟩ := ih later
            simp only [SortedMap.find_insert_eq_update] at replayed fresh
            exact ⟨by rw [replayed, replaySockets], fresh.cons_added nonzero unused⟩
      | removeSocket id =>
          simp only [runSockets, Option.map_eq_some', Prod.exists, Prod.mk.injEq] at run
          obtain ⟨_, tail, _, later, rfl, rfl, rfl⟩ := run
          obtain ⟨replayed, fresh⟩ := ih later
          rw [ConnectionManager.removeSocket_find] at replayed fresh
          exact ⟨by rw [replayed, replaySockets], fresh.cons_removed⟩

/-- A replay that never adds id 0 maps it to what it started from. -/
theorem replaySockets_zero (start : UInt32 → Option ConnRef) (events : List SocketEvent)
    (nonzeros : ∀ id socket, SocketEvent.added id socket ∈ events → id ≠ 0) :
    replaySockets start events 0 = start 0 := by
  induction events generalizing start with
  | nil => rfl
  | cons event events ih =>
      have later : ∀ id socket, SocketEvent.added id socket ∈ events → id ≠ 0 :=
        fun id socket member => nonzeros id socket (List.mem_cons_of_mem _ member)
      cases event with
      | added id socket =>
          have nonzero := nonzeros id socket (List.mem_cons_self _ _)
          rw [replaySockets, ih _ later]
          simp [Function.update_apply, Ne.symm nonzero]
      | removed id =>
          rw [replaySockets, ih _ later]
          by_cases zero : id = 0
          · simp [zero]
          · simp [zero, Function.update_apply, Ne.symm zero]

/-- From an empty registry, on a stream that lets each `AddSocket` loop stop, a
run finishes, never registers id 0, gets a fresh non-zero id from each
`AddSocket`, and leaves every id mapped as the history says. -/
theorem socket_registry_law {cm : ConnectionManager} {random : List UInt32} {ops : List SocketOp}
    (empty : cm.sockets = SortedMap.empty) (terminates : LoopsTerminate cm random ops) :
    ∃ final events left, runSockets cm random ops = some (final, events, left) ∧
      (∀ entry ∈ final.sockets.entries, entry.1 ≠ 0) ∧
      FreshIds (fun _ => none) events ∧
      ∀ id, final.sockets.find id = replaySockets (fun _ => none) events id := by
  obtain ⟨final, events, left, run⟩ := loopsTerminate_iff.mp terminates
  obtain ⟨replayed, fresh⟩ := runSockets_replay run
  rw [empty] at replayed fresh
  have cleared : (SortedMap.empty : SocketMap).find = fun _ => none := rfl
  rw [cleared] at replayed fresh
  refine ⟨final, events, left, run, fun entry member zero => ?_, fresh, fun id => by rw [replayed]⟩
  have found := SortedMap.find_eq_some_of_mem member
  rw [replayed, zero, replaySockets_zero _ _ (fun _ _ member => fresh.nonzero member)] at found
  cases found

/-- The stream 0, 7, 7, 9 for two `AddSocket`s and a `RemoveSocket`: id 0 and
the used id 7 are skipped, and id 7 is gone after its removal. -/
theorem socket_registry_law_run :
    LoopsTerminate (ConnectionManager.initial NodeId.null) [0, 7, 7, 9]
        [.addSocket 1, .addSocket 2, .removeSocket 7] ∧
      ∃ final left, runSockets (ConnectionManager.initial NodeId.null) [0, 7, 7, 9]
          [.addSocket 1, .addSocket 2, .removeSocket 7] =
          some (final, [.added 7 1, .added 9 2, .removed 7], left) ∧
        final.sockets.find 9 = some 2 ∧ final.sockets.find 7 = none ∧
        ∀ entry ∈ final.sockets.entries, entry.1 ≠ 0 := by
  have terminates : LoopsTerminate (ConnectionManager.initial NodeId.null) [0, 7, 7, 9]
      [.addSocket 1, .addSocket 2, .removeSocket 7] :=
    ⟨[0], 7, [7, 9], rfl, by decide, rfl, by decide, [7], 9, [], rfl, by decide, rfl, by decide, trivial⟩
  obtain ⟨final, events, left, run, nonzero, -, replayed⟩ := socket_registry_law rfl terminates
  have computed : runSockets (ConnectionManager.initial NodeId.null) [0, 7, 7, 9]
      [.addSocket 1, .addSocket 2, .removeSocket 7] = some (_, [.added 7 1, .added 9 2, .removed 7], _) := rfl
  rw [computed, Option.some.injEq, Prod.mk.injEq, Prod.mk.injEq] at run
  obtain ⟨rfl, rfl, rfl⟩ := run
  exact ⟨terminates, _, _, computed, by rw [replayed]; rfl, by rw [replayed]; rfl, nonzero⟩

end Rudp
