/-
  NimbusIo.WebServer.Destroyer

  `web_server/destroyer.py`: a destroy of one key, or of one version of
  it, on every data writer.  `destroy` refuses to start while a greenlet of
  its last run is still in the group, reads the status rows, spawns one
  `destroy_key` greenlet per data writer, the i-th for segment number
  i + 1, and joins the group.  It returns the summed file size only when
  every greenlet has ended in time; otherwise it raises again the
  exception of one that raised, or `DestroyFailedError` for one still
  running, which stays in the group.

  gevent is outside the sources.  How each greenlet stands when the join
  is over is the environment's choice, an argument `ends` of `destroy`
  that stands for the timeout as well: returned, raised, killed, or still
  running, in which case it ends later by a `finish` event.  gevent raises
  the exception of one failed greenlet, picked from a set; the model takes
  the first spawned.  `current_status_of_key`, `current_status_of_version`
  and `NIMBUSIO_NODE_NAME` are parameters.

  Over any run the destroyer sends whole rounds: each destroy that found
  status rows sends `destroy_key` to every data writer, and the greenlets
  in the group all belong to one round, one per segment number, so no
  data writer has two calls of this destroyer running.  A destroy that
  returns has seen every call of its round end without an exception.
-/
import NimbusIo.Rows

namespace NimbusIo
namespace WebServer

/-- A row of `current_status_of_key` or `current_status_of_version`, of
    which `destroy` reads the size. -/
structure StatusRow where
  segFileSize : Int
  deriving DecidableEq, Repr

/-- What `destroy` reads outside the sources. -/
structure DestroyEnv where
  /-- `current_status_of_key(node_local_connection, collection_id, key)` -/
  currentStatusOfKey : Int → String → List StatusRow
  /-- `current_status_of_version(node_local_connection, unified_id_to_delete)` -/
  currentStatusOfVersion : Int → List StatusRow
  /-- `_local_node_name = os.environ["NIMBUSIO_NODE_NAME"]` -/
  localNodeName : String

/-- A `Destroyer` as `__init__` builds it; a data writer is known by its name. -/
structure Destroyer where
  dataWriters : List String
  collectionId : Int
  key : String
  unifiedIdToDelete : Option Int
  unifiedId : Int
  timestamp : Timestamp

/-- The `data_writer.destroy_key(...)` call one greenlet makes. -/
structure DestroyCall where
  dataWriter : String
  collectionId : Int
  key : String
  unifiedIdToDelete : Option Int
  unifiedId : Int
  timestamp : Timestamp
  segmentNum : Nat
  localNodeName : String
  deriving DecidableEq, Repr

/-- How a greenlet stands when `join` is over. -/
inductive GreenletEnd where
  | returned
  | raised (e : String)
  /-- ended by `GreenletExit`, a kill from outside the destroyer -/
  | killed
  | running
  deriving DecidableEq, Repr

/-- The exception of a greenlet that raised. -/
def GreenletEnd.exception : GreenletEnd → Option String
  | .raised e => some e
  | _ => none

/-- What `destroy` changes: the group `_pending`, by the calls of its
    greenlets, `_done`, and (ghost) every call spawned so far. -/
structure DestroyerState where
  pending : List DestroyCall
  done : List DestroyCall
  spawned : List DestroyCall
  deriving DecidableEq, Repr

/-- `__init__`: an empty group and nothing done. -/
def DestroyerState.init : DestroyerState := ⟨[], [], []⟩

-- ============================================================================
-- The methods
-- ============================================================================

/-- `_done_link(task)`: a greenlet killed with `GreenletExit` is not recorded. -/
def doneLink (c : DestroyCall) (e : GreenletEnd) (st : DestroyerState) : DestroyerState :=
  if e = .killed then st else { st with done := st.done ++ [c] }

/-- A greenlet of the group ends: the group drops it, then its link runs. -/
def endGreenlet (c : DestroyCall) (e : GreenletEnd) (st : DestroyerState) : DestroyerState :=
  doneLink c e { st with pending := st.pending.erase c }

/-- The greenlets `gs` that `ends` says are over end, in order. -/
def endAll (ends : DestroyCall → GreenletEnd) (gs : List DestroyCall) (st : DestroyerState) :
    DestroyerState :=
  (gs.filter fun c => ends c ≠ .running).foldl (fun st c => endGreenlet c (ends c) st) st

/-- `_spawn(data_writer.destroy_key, *args)`: the greenlet joins the group. -/
def spawn (c : DestroyCall) : PyM DestroyerState Unit :=
  modify fun st => { st with pending := st.pending ++ [c], spawned := st.spawned ++ [c] }

/-- `_join(timeout)`: `self._pending.join(timeout, True)` waits, then raises
    again the exception of a greenlet that raised; `gevent.sleep(0)` lets
    the links run; a greenlet still in the group raises `DestroyFailedError`. -/
def join (ends : DestroyCall → GreenletEnd) : PyM DestroyerState Unit := do
  let greenlets := (← get).pending
  modify (endAll ends greenlets)
  match greenlets.findSome? fun c => (ends c).exception with
  | some e => throw (.raised e)
  | none => if (← get).pending.isEmpty then pure () else throw (.raised "DestroyFailedError")

/-- The `for i, data_writer in enumerate(self.data_writers)` loop of `destroy`. -/
def Destroyer.spawnEach (d : Destroyer) (localNodeName : String) :
    List (Nat × String) → PyM DestroyerState Unit
  | [] => pure ()
  | (i, dataWriter) :: rest => do
    let segmentNum := i + 1
    spawn ⟨dataWriter, d.collectionId, d.key, d.unifiedIdToDelete, d.unifiedId, d.timestamp,
      segmentNum, localNodeName⟩
    d.spawnEach localNodeName rest

/-- The status rows `destroy` reads: of the key, or of one version of it. -/
def Destroyer.statusRows (env : DestroyEnv) (d : Destroyer) : List StatusRow :=
  match d.unifiedIdToDelete with
  | none => env.currentStatusOfKey d.collectionId d.key
  | some unifiedIdToDelete => env.currentStatusOfVersion unifiedIdToDelete

/-- `destroy(timeout)`. -/
def Destroyer.destroy (env : DestroyEnv) (d : Destroyer) (ends : DestroyCall → GreenletEnd) :
    PyM DestroyerState Int := do
  if !(← get).pending.isEmpty then throw (.raised "AlreadyInProgress")
  let statusRows := d.statusRows env
  if statusRows.length = 0 then throw (.raised "DestroyFailedError: no status rows found")
  let fileSize := (statusRows.map StatusRow.segFileSize).sum
  d.spawnEach env.localNodeName d.dataWriters.enum
  join ends
  modify fun st => { st with done := [] }
  pure fileSize

/-- What happens to a destroyer: a `destroy` call, with how its greenlets
    stand when the join is over, or a greenlet left running ending later. -/
inductive DestroyEvent where
  | destroy (ends : DestroyCall → GreenletEnd)
  | finish (c : DestroyCall) (e : GreenletEnd)

/-- The destroyer after an event; a `finish` is for a greenlet in the group
    that does end. -/
def Destroyer.step (env : DestroyEnv) (d : Destroyer) (st : DestroyerState) :
    DestroyEvent → DestroyerState
  | .destroy ends => resultState ((d.destroy env ends).run st)
  | .finish c e => if c ∈ st.pending ∧ e ≠ .running then endGreenlet c e st else st

/-- The states a destroyer reaches from `__init__`. -/
inductive Destroyer.Reachable (env : DestroyEnv) (d : Destroyer) : DestroyerState → Prop where
  | init : Destroyer.Reachable env d DestroyerState.init
  | step {st : DestroyerState} (ev : DestroyEvent) :
      Destroyer.Reachable env d st → Destroyer.Reachable env d (d.step env st ev)

-- ============================================================================
-- One round of calls
-- ============================================================================

/-- The call to the data writer at place `p.1` of `data_writers`. -/
def Destroyer.call (d : Destroyer) (localNodeName : String) (p : Nat × String) : DestroyCall :=
  ⟨p.2, d.collectionId, d.key, d.unifiedIdToDelete, d.unifiedId, d.timestamp, p.1 + 1, localNodeName⟩

/-- A round: one call to each data writer, the i-th for segment number i + 1. -/
def Destroyer.calls (d : Destroyer) (localNodeName : String) : List DestroyCall :=
  d.dataWriters.enum.map (d.call localNodeName)

section Round

variable {d : Destroyer} {n : String}

theorem Destroyer.run_spawnEach (ps : List (Nat × String)) (st : DestroyerState) :
    (d.spawnEach n ps).run st = .ok ()
      { st with pending := st.pending ++ ps.map (d.call n), spawned := st.spawned ++ ps.map (d.call n) } := by
  induction ps generalizing st with
  | nil => simp [Destroyer.spawnEach]
  | cons p ps ih =>
    obtain ⟨i, w⟩ := p
    simp [Destroyer.spawnEach, spawn, ih, Destroyer.call]

/-- A round's segment numbers are 1 up to the number of data writers. -/
theorem Destroyer.calls_segmentNum :
    (d.calls n).map DestroyCall.segmentNum = List.range' 1 d.dataWriters.length := by
  rw [List.range'_eq_map_range, ← List.enum_map_fst, Destroyer.calls, List.map_map, List.map_map]
  exact List.map_congr_left fun p _ => Nat.add_comm _ _

end Round

-- ============================================================================
-- Joining the group
-- ============================================================================

section Join

variable {ends : DestroyCall → GreenletEnd}

@[simp] theorem endGreenlet_pending (c : DestroyCall) (e : GreenletEnd) (st : DestroyerState) :
    (endGreenlet c e st).pending = st.pending.erase c := by
  unfold endGreenlet doneLink; split <;> rfl

@[simp] theorem endGreenlet_spawned (c : DestroyCall) (e : GreenletEnd) (st : DestroyerState) :
    (endGreenlet c e st).spawned = st.spawned := by
  unfold endGreenlet doneLink; split <;> rfl

theorem foldl_endGreenlet_spawned (l : List DestroyCall) (st : DestroyerState) :
    (l.foldl (fun st c => endGreenlet c (ends c) st) st).spawned = st.spawned := by
  induction l generalizing st with
  | nil => rfl
  | cons c l ih => rw [List.foldl_cons, ih, endGreenlet_spawned]

theorem foldl_endGreenlet_pending_sublist (l : List DestroyCall) (st : DestroyerState) :
    List.Sublist (l.foldl (fun st c => endGreenlet c (ends c) st) st).pending st.pending := by
  induction l generalizing st with
  | nil => exact List.Sublist.refl _
  | cons c l ih =>
    rw [List.foldl_cons]
    exact (ih _).trans (by rw [endGreenlet_pending]; exact List.erase_sublist c st.pending)

theorem mem_foldl_endGreenlet_pending {c : DestroyCall} (l : List DestroyCall) (hl : c ∉ l)
    {st : DestroyerState} (hc : c ∈ st.pending) :
    c ∈ (l.foldl (fun st c => endGreenlet c (ends c) st) st).pending := by
  induction l generalizing st with
  | nil => exact hc
  | cons c' l ih =>
    rw [List.foldl_cons]
    refine ih (fun h => hl (List.mem_cons_of_mem _ h)) ?_
    rw [endGreenlet_pending, List.mem_erase_of_ne fun h => hl (by simp [h])]
    exact hc

theorem endAll_spawned (gs : List DestroyCall) (st : DestroyerState) :
    (endAll ends gs st).spawned = st.spawned :=
  foldl_endGreenlet_spawned _ _

theorem endAll_pending_sublist (gs : List DestroyCall) (st : DestroyerState) :
    List.Sublist (endAll ends gs st).pending st.pending :=
  foldl_endGreenlet_pending_sublist _ _

/-- A greenlet still running when the wait is over stays in the group. -/
theorem mem_endAll_pending {c : DestroyCall} (hr : ends c = .running) (gs : List DestroyCall)
    {st : DestroyerState} (hc : c ∈ st.pending) : c ∈ (endAll ends gs st).pending :=
  mem_foldl_endGreenlet_pending _ (by simp [hr]) hc

/-- `join` leaves the group as the ended greenlets leave it, whether it raises or not. -/
theorem join_state (st : DestroyerState) :
    resultState ((join ends).run st) = endAll ends st.pending st := by
  simp only [join, PyM.run_bind, PyM.run_get, PyM.run_modify]
  split
  · rfl
  · simp only [PyM.run_bind, PyM.run_get]
    split <;> rfl

/-- A `join` that returns saw every greenlet of the group end without an exception. -/
theorem join_ok {st st' : DestroyerState} {u : Unit} (h : (join ends).run st = .ok u st') :
    st' = endAll ends st.pending st ∧ st'.pending = [] ∧
      ∀ c ∈ st.pending, ends c ≠ .running ∧ (ends c).exception = none := by
  have hst : st' = endAll ends st.pending st := by
    simpa [resultState] using (congrArg resultState h).symm.trans (join_state st)
  simp only [join, PyM.run_bind, PyM.run_get, PyM.run_modify] at h
  split at h
  · cases h
  rename_i hfind
  simp only [PyM.run_bind, PyM.run_get] at h
  split at h
  · rename_i hempty
    have hnil : st'.pending = [] := by rw [hst]; exact List.isEmpty_iff.mp hempty
    refine ⟨hst, hnil, fun c hc => ⟨fun hr => ?_, List.findSome?_eq_none_iff.mp hfind c hc⟩⟩
    have := mem_endAll_pending hr st.pending hc
    rw [← hst, hnil] at this
    exact List.not_mem_nil _ this
  · cases h

end Join

-- ============================================================================
-- One destroy
-- ============================================================================

section Destroy

variable {env : DestroyEnv} {d : Destroyer} {ends : DestroyCall → GreenletEnd} {st : DestroyerState}

/-- While a greenlet of the last destroy is in the group, `destroy` raises
    `AlreadyInProgress` and changes nothing. -/
theorem Destroyer.destroy_alreadyInProgress (h : st.pending ≠ []) :
    (d.destroy env ends).run st = .error (.raised "AlreadyInProgress") st := by
  simp [Destroyer.destroy, List.isEmpty_iff, h]

/-- Without status rows, `destroy` raises and spawns nothing. -/
theorem Destroyer.destroy_noStatusRows (hp : st.pending = []) (h : d.statusRows env = []) :
    (d.destroy env ends).run st =
      .error (.raised "DestroyFailedError: no status rows found") st := by
  simp [Destroyer.destroy, hp, h]

/-- Past its checks, `destroy` spawns a round into the empty group, joins
    it, and on return clears `_done` and gives the summed file size. -/
theorem Destroyer.destroy_run (hp : st.pending = []) (h : d.statusRows env ≠ []) :
    (d.destroy env ends).run st =
      (join ends >>= fun _ => modify (fun st => { st with done := [] }) >>= fun _ =>
          pure ((d.statusRows env).map StatusRow.segFileSize).sum).run
        { st with pending := d.calls env.localNodeName,
                  spawned := st.spawned ++ d.calls env.localNodeName } := by
  simp [Destroyer.destroy, hp, h, Destroyer.run_spawnEach, Destroyer.calls]

/-- A destroy that returns found an idle group and status rows, sent a
    whole round and saw every call of it end in time without raising; it
    gives the summed file size and leaves the group and `_done` empty. -/
theorem Destroyer.destroy_returns {n : Int} {st' : DestroyerState}
    (h : (d.destroy env ends).run st = .ok n st') :
    st.pending = [] ∧ d.statusRows env ≠ [] ∧
      n = ((d.statusRows env).map StatusRow.segFileSize).sum ∧
      st'.spawned = st.spawned ++ d.calls env.localNodeName ∧ st'.pending = [] ∧ st'.done = [] ∧
      ∀ c ∈ d.calls env.localNodeName, ends c ≠ .running ∧ (ends c).exception = none := by
  by_cases hp : st.pending = []
  swap
  · rw [Destroyer.destroy_alreadyInProgress hp] at h; cases h
  by_cases hr : d.statusRows env = []
  · rw [Destroyer.destroy_noStatusRows hp hr] at h; cases h
  rw [Destroyer.destroy_run hp hr] at h
  obtain ⟨u, st₂, hj, h⟩ := PyM.run_bind_ok h
  obtain ⟨hst, hnil, hall⟩ := join_ok hj
  cases h
  exact ⟨hp, hr, rfl, by rw [hst, endAll_spawned], hnil, rfl, hall⟩

/-- Two data writers, on nodes 1 and 2, for a key with one status row of 1024 bytes. -/
def twoWriterEnv : DestroyEnv := ⟨fun _ _ => [⟨1024⟩], fun _ => [], "node-1"⟩

/-- A destroy of every version of one key. -/
def twoWriterDestroyer : Destroyer :=
  ⟨["node-1", "node-2"], 1001, "aaa/bbb/ccc", none, 7, ⟨2011, 5, 3, 12, 0, 7, 5⟩⟩

theorem twoWriters_destroy_returns :
    ∃ st' : DestroyerState,
      (twoWriterDestroyer.destroy twoWriterEnv fun _ => .returned).run .init = .ok 1024 st' ∧
      DestroyerState.init.pending = [] ∧ twoWriterDestroyer.statusRows twoWriterEnv ≠ [] ∧
      1024 = ((twoWriterDestroyer.statusRows twoWriterEnv).map StatusRow.segFileSize).sum ∧
      st'.spawned = DestroyerState.init.spawned ++ twoWriterDestroyer.calls "node-1" ∧
      st'.pending = [] ∧ st'.done = [] ∧
      ∀ c ∈ twoWriterDestroyer.calls "node-1",
        GreenletEnd.returned ≠ .running ∧ GreenletEnd.returned.exception = none :=
  have h : (twoWriterDestroyer.destroy twoWriterEnv fun _ => .returned).run .init =
      .ok 1024 ⟨[], [], twoWriterDestroyer.calls "node-1"⟩ := rfl
  ⟨_, h, Destroyer.destroy_returns h⟩

end Destroy

-- ============================================================================
-- Whole rounds
-- ============================================================================

/-- What every reachable destroyer keeps: what it has spawned is whole
    rounds, and the greenlets in its group are calls of one round. -/
structure Destroyer.Inv (calls : List DestroyCall) (st : DestroyerState) : Prop where
  rounds : ∃ k, st.spawned = (List.replicate k calls).flatten
  pending : List.Sublist st.pending calls

section Rounds

variable {env : DestroyEnv} {d : Destroyer} {st : DestroyerState}

/-- A destroy keeps the invariant: it either changes nothing or spawns a
    whole round into the empty group, of which the join leaves a part. -/
theorem Destroyer.Inv.destroy (h : Destroyer.Inv (d.calls env.localNodeName) st)
    (ends : DestroyCall → GreenletEnd) :
    Destroyer.Inv (d.calls env.localNodeName) (resultState ((d.destroy env ends).run st)) := by
  by_cases hp : st.pending = []
  swap
  · rw [Destroyer.destroy_alreadyInProgress hp]; exact h
  by_cases hr : d.statusRows env = []
  · rw [Destroyer.destroy_noStatusRows hp hr]; exact h
  obtain ⟨k, hk⟩ := h.rounds
  set calls := d.calls env.localNodeName
  set st₁ : DestroyerState := { st with pending := calls, spawned := st.spawned ++ calls }
  have hend : Destroyer.Inv calls (endAll ends calls st₁) :=
    ⟨⟨k + 1, by simp [endAll_spawned, st₁, List.replicate_succ', hk]⟩,
      endAll_pending_sublist calls st₁⟩
  have hs := @join_state ends st₁
  rw [Destroyer.destroy_run hp hr, PyM.run_bind]
  revert hs
  cases (join ends).run st₁ with
  | ok u st' =>
    rintro rfl
    exact ⟨hend.rounds, hend.pending⟩
  | error e st' =>
    rintro rfl
    exact hend

/-- A greenlet left running that ends keeps the invariant. -/
theorem Destroyer.Inv.finish {calls : List DestroyCall} (h : Destroyer.Inv calls st)
    (c : DestroyCall) (e : GreenletEnd) : Destroyer.Inv calls (endGreenlet c e st) :=
  ⟨by rw [endGreenlet_spawned]; exact h.rounds,
    by rw [endGreenlet_pending]; exact (List.erase_sublist c _).trans h.pending⟩

/-- A run of events from a reachable state stays reachable. -/
theorem Destroyer.Reachable.foldl (h : d.Reachable env st) (evs : List DestroyEvent) :
    d.Reachable env (evs.foldl (d.step env) st) := by
  induction evs generalizing st with
  | nil => exact h
  | cons ev evs ih => exact ih (.step ev h)

theorem Destroyer.Reachable.inv (h : d.Reachable env st) : Destroyer.Inv (d.calls env.localNodeName) st := by
  induction h with
  | init => exact ⟨⟨0, rfl⟩, List.nil_sublist _⟩
  | step ev _ ih =>
    cases ev with
    | destroy ends => exact ih.destroy ends
    | finish c e =>
      simp only [Destroyer.step]
      split
      · exact ih.finish c e
      · exact ih

/-- The destroyer over any run: what it has spawned is whole rounds, each a
    `destroy_key` to every data writer, the i-th for segment number i + 1
    with the destroyer's arguments; and the greenlets in its group are
    calls of one round, no two for one segment number, so no data writer
    has two calls of it running. -/
theorem destroyer_whole_rounds (h : d.Reachable env st) :
    (∃ k, st.spawned = (List.replicate k (d.calls env.localNodeName)).flatten) ∧
      List.Sublist st.pending (d.calls env.localNodeName) ∧
      (st.pending.map DestroyCall.segmentNum).Nodup := by
  have hinv := h.inv
  refine ⟨hinv.rounds, hinv.pending, ?_⟩
  have hround := List.nodup_range' 1 d.dataWriters.length
  rw [← Destroyer.calls_segmentNum (n := env.localNodeName)] at hround
  exact hround.sublist (hinv.pending.map _)

/-- The writer for segment 2 is still running when the first join is over. -/
def slowSecond (c : DestroyCall) : GreenletEnd := if c.segmentNum = 2 then .running else .returned

/-- A first destroy that fails on its slow second writer, a second refused
    while that writer runs, the writer ending, and a third that goes through. -/
def timeoutEvents : List DestroyEvent :=
  [.destroy slowSecond, .destroy fun _ => .returned,
   .finish (twoWriterDestroyer.call "node-1" (1, "node-2")) .returned, .destroy fun _ => .returned]

/-- The destroyer after those events. -/
def timeoutRun : DestroyerState :=
  timeoutEvents.foldl (twoWriterDestroyer.step twoWriterEnv) DestroyerState.init

theorem timeoutRun_whole_rounds :
    (∃ k, timeoutRun.spawned = (List.replicate k (twoWriterDestroyer.calls "node-1")).flatten) ∧
      List.Sublist timeoutRun.pending (twoWriterDestroyer.calls "node-1") ∧
      (timeoutRun.pending.map DestroyCall.segmentNum).Nodup :=
  destroyer_whole_rounds (Destroyer.Reachable.init.foldl timeoutEvents)

example : timeoutRun.spawned.length = 4 ∧ timeoutRun.pending = [] := by decide

end Rounds

end WebServer
end NimbusIo
