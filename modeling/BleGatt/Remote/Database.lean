import Mathlib.Data.List.Nodup
import BleGatt.Address
import BleGatt.Remote.Value

/-!
# The client's service database

`BLEClient::m_svcVec` holds the `BLERemoteService`s the client has discovered. Each is made by
`new` in `BLEClient::serviceDiscoveredCB` (`NimBLEClient.cpp:730`) and freed by
`deleteServices` or `deleteService`. `retrieveServices` starts a discovery, of every service or
of those with one UUID, and waits in `taskWait` until the callback releases it. `getService`
looks in `m_svcVec` first and discovers on a miss, returning `m_svcVec.back()` when the vector
grew; when it did not, it tries once more with the UUID converted to the other size.

The heap keeps an object's fields after `delete` and records the pointer, as the server's heap
does. `BLERemoteService`'s constructor and `BLEUUID`'s conversions are not part of the
repository: a new service copies the reported UUID and handle range and has no
characteristics, and `getService` is given the converted UUID when the code makes one.

Over every run the database owns its services: every remote service made so far is either in
`m_svcVec` or freed, exactly once (`ClientDb.owned_run`), so the destructor frees each of them
once (`ClientDb.destroy_frees_each_service_once`). A lookup returns a service with the UUID asked
for or the converted one (`ClientDb.getService_uuid`). On a miss against a peer with several
instances of the UUID it returns the last, and the next lookup the first
(`ClientDb.getService_first_call_returns_last_instance`). A discovery that fails after reporting
services returns null and leaves them for the next lookup
(`ClientDb.getService_error_after_discovery`). `getServices(true)` frees every service and then
mirrors the peer (`ClientDb.getServices_refresh_mirrors_peer`). The server hands its one client
to each new connection after deleting its services, so whatever the client did before, its
first lookup sees only the new peer's services (`ClientDb.serverGetClient_serves_new_peer_only`).
The range checks of
`getCharacteristic(handle)` and of the notification handler skip only services that cannot hold
the handle, when every characteristic lies in its service's range
(`ClientDb.getCharacteristic_eq_findCharacteristic`, `handleNotifyRx_eq_handleNotifyRxAll`).
-/

namespace BleGatt

/-! ## Remote services -/

/-- A `ble_gatt_svc` the host reports: the service's handle range and UUID. -/
structure GattSvc where
  startHandle : Nat
  endHandle : Nat
  uuid : UUID
deriving DecidableEq, Repr

/-- The fields of `BLERemoteService` the client reads: the UUID and handle of its
`BLEAttribute` base (`getStartHandle()` is `getHandle()`), `m_endHandle` and `m_vChars`. -/
structure BLERemoteService where
  uuid : UUID
  startHandle : Nat
  endHandle : Nat
  chars : List RemoteCharacteristic
deriving DecidableEq, Repr

/-- `new BLERemoteService(pClient, service)`: the reported UUID and range, and no
characteristics. -/
def BLERemoteService.ofSvc (service : GattSvc) : BLERemoteService :=
  ⟨service.uuid, service.startHandle, service.endHandle, []⟩

/-- A call of `serviceDiscoveredCB` by the host: the connection, `error->status`, and the
`ble_gatt_svc` that `service` points at, read only when the status is 0. -/
structure SvcCompletion where
  connHandle : Nat
  status : Nat
  service : GattSvc
deriving DecidableEq, Repr

/-- What the host answers a discovery, by its filter (`ble_gattc_disc_all_svcs` for `none`,
`ble_gattc_disc_svc_by_uuid` for a UUID): the code the call returns, and the completions the
host then delivers. -/
structure DiscHost where
  rc : Option UUID → Nat
  events : Option UUID → List SvcCompletion

/-- The services of `peer` that a discovery with the filter reports, in order. -/
def selected (peer : List GattSvc) (uuidFilter : Option UUID) : List GattSvc :=
  peer.filter fun s => uuidFilter.all (s.uuid == ·)

/-- A host for a peer with the services `peer`, in handle order, answering as NimBLE does: the
call succeeds, each service the filter selects is reported with status 0 on the connection,
then `BLE_HS_EDONE`. -/
def peerHost (conn : Nat) (peer : List GattSvc) : DiscHost where
  rc _ := 0
  events uuidFilter :=
    (selected peer uuidFilter).map (⟨conn, 0, ·⟩) ++ [⟨conn, BLE_HS_EDONE, ⟨0, 0, 0⟩⟩]

/-- The host reports, for a discovery by UUID, only services with that UUID, as
`ble_gattc_disc_svc_by_uuid` does. -/
def DiscHost.Filters (host : DiscHost) : Prop :=
  ∀ u, ∀ e ∈ host.events (some u), e.status = 0 → e.service.uuid = u

/-- The peer's host reports by UUID only services with the UUID. -/
theorem peerHost_filters (conn : Nat) (peer : List GattSvc) : (peerHost conn peer).Filters := by
  intro u e he h0
  simp only [peerHost, selected, List.mem_append, List.mem_map, List.mem_filter, Option.all_some,
    beq_iff_eq, List.mem_singleton] at he
  rcases he with ⟨s, ⟨-, hs⟩, rfl⟩ | rfl
  · exact hs
  · simp [BLE_HS_EDONE] at h0

/-- Two searches agree on a list where their tests agree on every element. -/
theorem findSome?_congr_of_mem {α β : Type} {f g : α → Option β} :
    ∀ {l : List α}, (∀ a ∈ l, f a = g a) → l.findSome? f = l.findSome? g
  | [], _ => rfl
  | a :: l, h => by
    rw [List.findSome?_cons, List.findSome?_cons, h a (List.mem_cons_self a l),
      findSome?_congr_of_mem fun b hb => h b (List.mem_cons_of_mem a hb)]

/-! ## The database -/

/-- The members of `BLEClient` its service database uses, `m_connHandle`, `m_lastErr` and
`m_svcVec`, and the heap of remote services: objects by pointer, the next fresh pointer and the
pointers freed so far. Pointers are numbers, as on the server's heap. -/
structure ClientDb where
  connHandle : Nat
  lastErr : Nat
  svcVec : List Nat
  svcs : Nat → Option BLERemoteService
  next : Nat
  freed : List Nat

namespace ClientDb

/-- A new client (`NimBLEClient.cpp:56`): not connected, no error, no services. -/
def init : ClientDb := ⟨BLE_HS_CONN_HANDLE_NONE, 0, [], fun _ => none, 0, []⟩

/-- `BLEClient::isConnected()` (`NimBLEClient.cpp:1173`). -/
def isConnected (db : ClientDb) : Bool := db.connHandle ≠ BLE_HS_CONN_HANDLE_NONE

/-- The UUID of the service at `p`. -/
def uuidAt (db : ClientDb) (p : Nat) : Option UUID := (db.svcs p).map (·.uuid)

/-- The services `m_svcVec` points at, in order. -/
def services (db : ClientDb) : List BLERemoteService := db.svcVec.filterMap db.svcs

/-- `m_svcVec.push_back(new BLERemoteService(pClient, service))`. -/
def pushSvc (db : ClientDb) (x : BLERemoteService) : ClientDb :=
  { db with
    svcVec := db.svcVec ++ [db.next]
    svcs := fun q => if q = db.next then some x else db.svcs q
    next := db.next + 1 }

/-- `delete`: the pointer is recorded as freed; the contents stay readable. -/
def free (db : ClientDb) (p : Nat) : ClientDb := { db with freed := db.freed ++ [p] }

/-- `BLEClient::deleteServices()` (`NimBLEClient.cpp:91`): every service is freed, then the
vector is emptied. -/
def deleteServices (db : ClientDb) : ClientDb := { db.svcVec.foldl free db with svcVec := [] }

/-- `BLEClient::deleteService(uuid)` (`NimBLEClient.cpp:105`): the first service with the UUID
is freed and erased. Returns the number of services left. -/
def deleteService (uuid : UUID) (db : ClientDb) : ClientDb × Nat :=
  match db.svcVec.find? (db.uuidAt · == some uuid) with
  | some p =>
    let db' := { db.free p with svcVec := db.svcVec.erase p }
    (db', db'.svcVec.length)
  | none => (db, db.svcVec.length)

/-- `BLEClient::~BLEClient()` (`NimBLEClient.cpp:78-86`), as far as the database goes: it frees
the services with `deleteServices()`. -/
def destroy (db : ClientDb) : ClientDb := db.deleteServices

@[simp] theorem pushSvc_svcVec (db : ClientDb) (x) :
    (db.pushSvc x).svcVec = db.svcVec ++ [db.next] :=
  rfl

@[simp] theorem pushSvc_next (db : ClientDb) (x) : (db.pushSvc x).next = db.next + 1 := rfl

@[simp] theorem pushSvc_freed (db : ClientDb) (x) : (db.pushSvc x).freed = db.freed := rfl

@[simp] theorem pushSvc_connHandle (db : ClientDb) (x) :
    (db.pushSvc x).connHandle = db.connHandle :=
  rfl

theorem pushSvc_svcs (db : ClientDb) (x) (q : Nat) :
    (db.pushSvc x).svcs q = if q = db.next then some x else db.svcs q := rfl

/-- Freeing a list of pointers one after another appends them to the freed ones. -/
theorem foldl_free : ∀ (ps : List Nat) (db : ClientDb),
    ps.foldl free db = { db with freed := db.freed ++ ps }
  | [], _ => by rw [List.append_nil]; rfl
  | p :: ps, db => by
    rw [List.foldl_cons, foldl_free ps]
    simp only [free, List.append_assoc, List.singleton_append]

/-- `deleteServices` frees the services of `m_svcVec`, in order, and empties it. -/
theorem deleteServices_eq (db : ClientDb) :
    db.deleteServices = { db with svcVec := [], freed := db.freed ++ db.svcVec } := by
  rw [deleteServices, foldl_free]

/-- The services `xs` pushed in order, as a discovery does. -/
def pushAll (db : ClientDb) (xs : List BLERemoteService) : ClientDb := xs.foldl pushSvc db

theorem pushAll_cons (db : ClientDb) (x xs) : db.pushAll (x :: xs) = (db.pushSvc x).pushAll xs :=
  rfl

/-- Pushing appends the fresh pointers `next`, `next + 1`, … to `m_svcVec`. -/
theorem pushAll_svcVec : ∀ (db : ClientDb) xs,
    (db.pushAll xs).svcVec = db.svcVec ++ List.range' db.next xs.length
  | _, [] => (List.append_nil _).symm
  | db, x :: xs => by
    rw [pushAll_cons, pushAll_svcVec, List.length_cons, List.range'_succ]
    simp

theorem pushAll_next : ∀ (db : ClientDb) xs, (db.pushAll xs).next = db.next + xs.length
  | _, [] => rfl
  | db, x :: xs => by rw [pushAll_cons, pushAll_next, pushSvc_next, List.length_cons]; omega

theorem pushAll_freed : ∀ (db : ClientDb) xs, (db.pushAll xs).freed = db.freed
  | _, [] => rfl
  | db, x :: xs => by rw [pushAll_cons, pushAll_freed]; rfl

theorem pushAll_connHandle : ∀ (db : ClientDb) xs, (db.pushAll xs).connHandle = db.connHandle
  | _, [] => rfl
  | db, x :: xs => by rw [pushAll_cons, pushAll_connHandle]; rfl

/-- Pushing leaves the objects below `next` alone. -/
theorem pushAll_svcs_of_lt : ∀ (db : ClientDb) xs {p : Nat}, p < db.next →
    (db.pushAll xs).svcs p = db.svcs p
  | _, [], _, _ => rfl
  | db, x :: xs, _, hp => by
    rw [pushAll_cons, pushAll_svcs_of_lt _ xs (by rw [pushSvc_next]; omega), pushSvc_svcs,
      if_neg (by omega)]

/-- The `i`-th service pushed is at `next + i`. -/
theorem pushAll_svcs_add : ∀ (db : ClientDb) (xs : List BLERemoteService) {i : Nat},
    i < xs.length → (db.pushAll xs).svcs (db.next + i) = xs[i]?
  | _, [], _, hi => absurd hi (Nat.not_lt_zero _)
  | db, x :: xs, 0, _ => by
    rw [Nat.add_zero, pushAll_cons, pushAll_svcs_of_lt _ xs (by simp), pushSvc_svcs, if_pos rfl,
      List.getElem?_cons_zero]
  | db, x :: xs, i + 1, hi => by
    have hp : db.next + (i + 1) = (db.pushSvc x).next + i := by rw [pushSvc_next]; omega
    rw [pushAll_cons, hp, pushAll_svcs_add _ xs (by simpa using hi), List.getElem?_cons_succ]

/-- After pushing at least one service, `m_svcVec.back()` is the last one pushed. -/
theorem pushAll_getLast? (db : ClientDb) {xs : List BLERemoteService} (hxs : xs ≠ []) :
    (db.pushAll xs).svcVec.getLast? = some (db.next + xs.length - 1) := by
  rw [pushAll_svcVec, List.getLast?_append, List.getLast?_range',
    if_neg (by simpa [List.length_eq_zero] using hxs)]
  rfl

/-- The last service pushed is at `next + length - 1`. -/
theorem pushAll_svcs_last (db : ClientDb) {xs : List BLERemoteService} (hxs : xs ≠ []) :
    (db.pushAll xs).svcs (db.next + xs.length - 1) = xs.getLast? := by
  have hlen := List.length_pos.2 hxs
  rw [List.getLast?_eq_getElem?, show db.next + xs.length - 1 = db.next + (xs.length - 1) by omega,
    pushAll_svcs_add _ _ (by omega)]

/-- The services `m_svcVec` points at, after a push, are those before and the pushed ones. -/
theorem services_pushAll : ∀ (db : ClientDb) xs, (∀ p ∈ db.svcVec, p < db.next) →
    (db.pushAll xs).services = db.services ++ xs
  | db, [], _ => (List.append_nil _).symm
  | db, x :: xs, hlt => by
    have hold : db.svcVec.filterMap (db.pushSvc x).svcs = db.services :=
      List.filterMap_congr fun p hp => by rw [pushSvc_svcs, if_neg (Nat.ne_of_lt (hlt p hp))]
    rw [pushAll_cons, services_pushAll _ xs, services, pushSvc_svcVec, List.filterMap_append, hold]
    · simp [pushSvc_svcs]
    · intro p hp
      rcases List.mem_append.1 hp with hp | hp
      · simpa using Nat.lt_succ_of_lt (hlt p hp)
      · simp [List.mem_singleton.1 hp]

/-! ## Discovery -/

/-- `BLEClient::serviceDiscoveredCB` (`NimBLEClient.cpp:730`): the client afterwards, the code
passed to `taskRelease` when it is called, and the callback's result. -/
def serviceDiscoveredCB (db : ClientDb) (e : SvcCompletion) : ClientDb × Option Nat × Nat :=
  if e.status = BLE_HS_ENOTCONN then (db, some e.status, e.status)
  else if db.connHandle ≠ e.connHandle then (db, none, 0)
  else if e.status = 0 then (db.pushSvc (.ofSvc e.service), none, 0)
  else (db, some e.status, e.status)

/-- One discovery as the host drives it: each completion goes to `serviceDiscoveredCB`, and the
first whose status is not 0 ends the procedure. Returns the client afterwards and the code the
waiting task was released with, if it was. -/
def discover (db : ClientDb) : List SvcCompletion → ClientDb × Option Nat
  | [] => (db, none)
  | e :: es =>
    let r := serviceDiscoveredCB db e
    if e.status = 0 then discover r.1 es else (r.1, r.2.1)

/-- `BLEClient::retrieveServices(uuidFilter)` (`NimBLEClient.cpp:693`): the client and the
result, or `none` while the caller waits in `taskWait` with no release to come. -/
def retrieveServices (host : DiscHost) (uuidFilter : Option UUID) (db : ClientDb) :
    Option (ClientDb × Bool) :=
  if !db.isConnected then some (db, false)
  else if host.rc uuidFilter ≠ 0 then some ({ db with lastErr := host.rc uuidFilter }, false)
  else
    let r := discover db (host.events uuidFilter)
    r.2.map fun rc =>
      if rc = 0 ∨ rc = BLE_HS_EDONE then (r.1, true) else ({ r.1 with lastErr := rc }, false)

/-- The callback changes the client only on a service reported with status 0 on its
connection, which it pushes. -/
theorem serviceDiscoveredCB_fst (db : ClientDb) (e : SvcCompletion) :
    (db.serviceDiscoveredCB e).1 =
      if e.status = 0 ∧ db.connHandle = e.connHandle then db.pushSvc (.ofSvc e.service)
      else db := by
  unfold serviceDiscoveredCB
  by_cases h0 : e.status = 0
  · by_cases hc : db.connHandle = e.connHandle <;> simp [h0, hc, BLE_HS_ENOTCONN]
  · simp only [h0, false_and, if_false]
    split_ifs <;> rfl

/-- A discovery only pushes services, each one reported with status 0. -/
theorem discover_pushes : ∀ (es : List SvcCompletion) (db : ClientDb),
    ∃ xs, (db.discover es).1 = db.pushAll xs ∧
      ∀ x ∈ xs, ∃ e ∈ es, e.status = 0 ∧ x = .ofSvc e.service
  | [], _ => ⟨[], rfl, by simp⟩
  | e :: es, db => by
    simp only [discover, serviceDiscoveredCB_fst]
    by_cases h0 : e.status = 0
    · by_cases hc : db.connHandle = e.connHandle
      · obtain ⟨xs, hxs, hmem⟩ := discover_pushes es (db.pushSvc (.ofSvc e.service))
        refine ⟨.ofSvc e.service :: xs, by simpa [h0, hc] using hxs, ?_⟩
        simp only [List.mem_cons, forall_eq_or_imp, exists_eq_or_imp]
        exact ⟨.inl ⟨h0, trivial⟩, fun x hx => .inr (hmem x hx)⟩
      · obtain ⟨xs, hxs, hmem⟩ := discover_pushes es db
        exact ⟨xs, by simpa [h0, hc] using hxs,
          fun x hx => (hmem x hx).imp fun e' he => ⟨List.mem_cons_of_mem _ he.1, he.2⟩⟩
    · exact ⟨[], by simp [h0]; rfl, by simp⟩

/-- The completions reported with status 0 on the client's connection, then one with another
status: the services are pushed and the task released with that status. -/
theorem discover_reported (db : ClientDb) (found : List GattSvc) {st : Nat} (hst : st ≠ 0)
    (last : GattSvc) (rest : List SvcCompletion) :
    db.discover (found.map (⟨db.connHandle, 0, ·⟩) ++ ⟨db.connHandle, st, last⟩ :: rest) =
      (db.pushAll (found.map .ofSvc), some st) := by
  induction found generalizing db with
  | nil =>
    simp only [List.map_nil, List.nil_append, discover, serviceDiscoveredCB, if_neg hst]
    split_ifs <;> simp_all [pushAll]
  | cons s found ih =>
    simp only [List.map_cons, List.cons_append, discover, serviceDiscoveredCB_fst, if_pos,
      and_self, if_true]
    exact ih (db.pushSvc (.ofSvc s))

/-- A call of `retrieveServices` that returns has pushed services reported with status 0 and
may have set `m_lastErr`; nothing else changes. -/
theorem retrieveServices_pushes {host : DiscHost} {uuidFilter : Option UUID} {db db' : ClientDb}
    {ok : Bool} (h : db.retrieveServices host uuidFilter = some (db', ok)) :
    ∃ xs, db' = { db.pushAll xs with lastErr := db'.lastErr } ∧
      ∀ x ∈ xs, ∃ e ∈ host.events uuidFilter, e.status = 0 ∧ x = .ofSvc e.service := by
  unfold retrieveServices at h
  split_ifs at h
  · cases h; exact ⟨[], rfl, by simp⟩
  · cases h; exact ⟨[], rfl, by simp⟩
  · obtain ⟨xs, hxs, hmem⟩ := discover_pushes (host.events uuidFilter) db
    obtain ⟨rc, -, hrc⟩ := Option.map_eq_some'.1 h
    refine ⟨xs, ?_, hmem⟩
    split_ifs at hrc <;> cases hrc <;> rw [hxs]

/-! ## Lookups -/

/-- `BLEClient::getService(uuid)` (`NimBLEClient.cpp:597`), with `alt` the UUID `to128` or
`to16` gives when the code retries with one: the client and the pointer returned (`none` for
`nullptr`), or `none` while a discovery waits forever. -/
def getService (host : DiscHost) (uuid : UUID) (alt : Option UUID) (db : ClientDb) :
    Option (ClientDb × Option Nat) :=
  match db.svcVec.find? (db.uuidAt · == some uuid) with
  | some p => some (db, some p)
  | none =>
    let prevSize := db.svcVec.length
    match retrieveServices host (some uuid) db with
    | none => none
    | some (db, false) => some (db, none)
    | some (db, true) =>
      if db.svcVec.length > prevSize then some (db, db.svcVec.getLast?)
      else match alt with
        | none => some (db, none)
        | some uuid' => (retrieveServices host (some uuid') db).map fun r =>
          (r.1, if r.2 ∧ r.1.svcVec.length > prevSize then r.1.svcVec.getLast? else none)

/-- What a `getService` that returns did: answered from `m_svcVec`; or made one discovery and
returned `back()` only when the vector grew; or, after a first discovery that succeeded without
growing it, made a second with the converted UUID and returned `back()` only when the vector
grew. -/
theorem getService_cases {host : DiscHost} {uuid : UUID} {alt : Option UUID} {db db' : ClientDb}
    {r : Option Nat} (hg : db.getService host uuid alt = some (db', r)) :
    (db' = db ∧ ∃ p, r = some p ∧ db.svcVec.find? (db.uuidAt · == some uuid) = some p) ∨
    (∃ ok, db.retrieveServices host (some uuid) = some (db', ok) ∧
      (r = none ∨ db.svcVec.length < db'.svcVec.length ∧ r = db'.svcVec.getLast?)) ∨
    (∃ db₁ u ok, db.retrieveServices host (some uuid) = some (db₁, true) ∧
      db₁.svcVec.length ≤ db.svcVec.length ∧ alt = some u ∧
      db₁.retrieveServices host (some u) = some (db', ok) ∧
      (r = none ∨ db.svcVec.length < db'.svcVec.length ∧ r = db'.svcVec.getLast?)) := by
  unfold getService at hg
  split at hg
  · rename_i q hq
    simp only [Option.some.injEq, Prod.mk.injEq] at hg
    obtain ⟨rfl, rfl⟩ := hg
    exact .inl ⟨rfl, q, rfl, hq⟩
  split at hg
  · cases hg
  · rename_i h1
    simp only [Option.some.injEq, Prod.mk.injEq] at hg
    obtain ⟨rfl, rfl⟩ := hg
    exact .inr (.inl ⟨false, h1, .inl rfl⟩)
  rename_i db₁ h1
  dsimp only at hg
  split_ifs at hg with hgrow
  · simp only [Option.some.injEq, Prod.mk.injEq] at hg
    obtain ⟨rfl, rfl⟩ := hg
    exact .inr (.inl ⟨true, h1, .inr ⟨hgrow, rfl⟩⟩)
  split at hg
  · simp only [Option.some.injEq, Prod.mk.injEq] at hg
    obtain ⟨rfl, rfl⟩ := hg
    exact .inr (.inl ⟨true, h1, .inl rfl⟩)
  rename_i u
  obtain ⟨⟨db₂, ok⟩, h2, hr⟩ := Option.map_eq_some'.1 hg
  simp only [Prod.mk.injEq] at hr
  obtain ⟨rfl, rfl⟩ := hr
  refine .inr (.inr ⟨db₁, u, ok, h1, by omega, rfl, h2, ?_⟩)
  split_ifs with hc
  exacts [.inr ⟨hc.2, rfl⟩, .inl rfl]

/-- `BLEClient::getServices(refresh)` (`NimBLEClient.cpp:650`): the client afterwards, whose
`m_svcVec` it returns, or `none` while a discovery waits forever. -/
def getServices (host : DiscHost) (refresh : Bool) (db : ClientDb) : Option ClientDb :=
  if refresh then (retrieveServices host none db.deleteServices).map (·.1) else some db

/-- The part of `BLEClient::connect` (`NimBLEClient.cpp:160-188`) that touches the database,
with `synced` for `BLEDevice::m_synced` and `connExists` for `ble_gap_conn_find_by_addr`: past
the checks, `deleteAttributes` deletes the services. -/
def connect (synced connExists : Bool) (address : BLEAddress) (deleteAttributes : Bool)
    (db : ClientDb) : ClientDb :=
  if !synced || db.isConnected || connExists || address.isNull then db
  else if deleteAttributes then db.deleteServices else db

/-- `BLEClient::getCharacteristic(handle)` (`NimBLEClient.cpp:809`): the first characteristic
with the handle, searched only in the services whose range holds it. -/
def getCharacteristic (handle : Nat) (db : ClientDb) : Option RemoteCharacteristic :=
  db.svcVec.findSome? fun p => (db.svcs p).bind fun svc =>
    if svc.startHandle ≤ handle ∧ handle ≤ svc.endHandle then svc.chars.find? (·.handle == handle)
    else none

/-- The same search without the range check, over every service. -/
def findCharacteristic (handle : Nat) (db : ClientDb) : Option RemoteCharacteristic :=
  db.svcVec.findSome? fun p => (db.svcs p).bind fun svc => svc.chars.find? (·.handle == handle)

/-! ## Runs -/

/-- What acts on the database: the client's calls, each with the host's answers, and the GAP
handler setting `m_connHandle` on a connect or a disconnect. -/
inductive DbOp
  | connect (synced connExists : Bool) (address : BLEAddress) (deleteAttributes : Bool)
  | setConnHandle (connHandle : Nat)
  | getService (host : DiscHost) (uuid : UUID) (alt : Option UUID)
  | getServices (host : DiscHost) (refresh : Bool)
  | deleteService (uuid : UUID)

/-- One operation; `none` when it waits forever. -/
def step (db : ClientDb) : DbOp → Option ClientDb
  | .connect synced connExists address deleteAttributes =>
    some (db.connect synced connExists address deleteAttributes)
  | .setConnHandle h => some { db with connHandle := h }
  | .getService host uuid alt => (db.getService host uuid alt).map (·.1)
  | .getServices host refresh => db.getServices host refresh
  | .deleteService uuid => some (db.deleteService uuid).1

/-- The operations one after another, while each returns. -/
def run (db : ClientDb) : List DbOp → Option ClientDb
  | [] => some db
  | op :: ops => (db.step op).bind fun db' => run db' ops

/-! ## Ownership -/

/-- The database owns its services: the pointers allocated so far are exactly those below
`next`, and each of them is either in `m_svcVec` or freed, exactly once. -/
structure Owned (db : ClientDb) : Prop where
  ledger : (db.svcVec ++ db.freed).Perm (List.range db.next)
  alloc : ∀ p, (db.svcs p).isSome ↔ p < db.next

theorem owned_init : init.Owned :=
  ⟨by simp [init], fun p => by simp [init]⟩

namespace Owned

variable {db : ClientDb}

theorem nodup (h : db.Owned) : (db.svcVec ++ db.freed).Nodup :=
  h.ledger.nodup_iff.2 (List.nodup_range _)

theorem svcVec_lt (h : db.Owned) : ∀ p ∈ db.svcVec, p < db.next :=
  fun _ hp => List.mem_range.1 (h.ledger.subset (List.mem_append_left _ hp))

/-- Every entry of `m_svcVec` is allocated and not freed. -/
theorem live (h : db.Owned) : ∀ p ∈ db.svcVec, (db.svcs p).isSome ∧ p ∉ db.freed :=
  fun p hp => ⟨(h.alloc p).2 (h.svcVec_lt p hp), List.disjoint_of_nodup_append h.nodup hp⟩

theorem setLastErr (h : db.Owned) (e : Nat) : { db with lastErr := e }.Owned := ⟨h.1, h.2⟩

theorem setConnHandle (h : db.Owned) (c : Nat) : { db with connHandle := c }.Owned := ⟨h.1, h.2⟩

theorem pushSvc (h : db.Owned) (x : BLERemoteService) : (db.pushSvc x).Owned := by
  refine ⟨?_, fun p => ?_⟩
  · have hnext := h.ledger.append_right [db.next]
    rw [List.append_assoc] at hnext
    rw [pushSvc_svcVec, pushSvc_freed, pushSvc_next, List.range_succ, List.append_assoc]
    exact (List.perm_append_comm.append_left _).trans hnext
  · rw [pushSvc_svcs, pushSvc_next]
    split_ifs with hp
    · simp [hp]
    · rw [h.alloc]; omega

theorem pushAll (h : db.Owned) (xs : List BLERemoteService) : (db.pushAll xs).Owned := by
  induction xs generalizing db with
  | nil => exact h
  | cons x xs ih => exact ih (h.pushSvc x)

theorem deleteServices (h : db.Owned) : db.deleteServices.Owned := by
  rw [deleteServices_eq]
  exact ⟨by simpa using List.perm_append_comm.trans h.ledger, h.alloc⟩

theorem deleteService (h : db.Owned) (uuid : UUID) : (db.deleteService uuid).1.Owned := by
  unfold ClientDb.deleteService
  split
  · rename_i p hp
    refine ⟨?_, h.alloc⟩
    have hcons := (List.perm_cons_erase (List.mem_of_find?_eq_some hp)).append_right db.freed
    exact (List.perm_append_comm.append_left _).trans
      (List.perm_middle.trans (hcons.symm.trans h.ledger))
  · exact h

theorem retrieveServices (h : db.Owned) {host : DiscHost} {uuidFilter : Option UUID}
    {db' : ClientDb} {ok : Bool} (hr : db.retrieveServices host uuidFilter = some (db', ok)) :
    db'.Owned := by
  obtain ⟨xs, hdb, -⟩ := retrieveServices_pushes hr
  rw [hdb]; exact (h.pushAll xs).setLastErr _

theorem getService (h : db.Owned) {host : DiscHost} {uuid : UUID} {alt : Option UUID}
    {db' : ClientDb} {r : Option Nat} (hg : db.getService host uuid alt = some (db', r)) :
    db'.Owned := by
  rcases getService_cases hg with ⟨rfl, -⟩ | ⟨_, h1, -⟩ | ⟨_, _, _, h1, -, -, h2, -⟩
  exacts [h, h.retrieveServices h1, (h.retrieveServices h1).retrieveServices h2]

theorem getServices (h : db.Owned) {host : DiscHost} {refresh : Bool} {db' : ClientDb}
    (hg : db.getServices host refresh = some db') : db'.Owned := by
  unfold ClientDb.getServices at hg
  split_ifs at hg
  · obtain ⟨⟨db1, ok⟩, hr, rfl⟩ := Option.map_eq_some'.1 hg
    exact h.deleteServices.retrieveServices hr
  · cases hg; exact h

theorem connect (h : db.Owned) (synced connExists : Bool) (address : BLEAddress)
    (deleteAttributes : Bool) : (db.connect synced connExists address deleteAttributes).Owned := by
  unfold ClientDb.connect
  split_ifs
  exacts [h, h.deleteServices, h]

/-- Every operation keeps the database owning its services. -/
theorem step (h : db.Owned) {op : DbOp} {db' : ClientDb} (hs : db.step op = some db') :
    db'.Owned := by
  cases op with
  | connect synced connExists address deleteAttributes =>
    cases hs; exact h.connect synced connExists address deleteAttributes
  | setConnHandle c => cases hs; exact h.setConnHandle c
  | getService host uuid alt =>
    obtain ⟨⟨db1, r⟩, hg, rfl⟩ := Option.map_eq_some'.1 hs
    exact h.getService hg
  | getServices host refresh => exact h.getServices hs
  | deleteService uuid => cases hs; exact h.deleteService uuid

/-- So does every run of operations. -/
theorem run : ∀ {db : ClientDb} {ops : List DbOp} {db' : ClientDb}, db.Owned →
    db.run ops = some db' → db'.Owned
  | _, [], _, h, hr => by cases hr; exact h
  | _, _ :: _, _, h, hr => by
    obtain ⟨db1, h1, h2⟩ := Option.bind_eq_some.1 hr
    exact run (h.step h1) h2

end Owned

/-- A client on connection 1 with no services. -/
def connectedClient : ClientDb := { init with connHandle := 1 }

/-- A peer with a generic access service and two heart-rate services. -/
def heartRatePeer : List GattSvc := [⟨1, 5, 0x1800⟩, ⟨6, 9, 0x180D⟩, ⟨10, 14, 0x180D⟩]

/-- A lookup, a delete and a refresh against the heart-rate peer. -/
def lookupRun : List DbOp :=
  [.setConnHandle 1, .getService (peerHost 1 heartRatePeer) 0x180D none, .deleteService 0x180D,
    .getServices (peerHost 1 heartRatePeer) true,
    .getService (peerHost 1 heartRatePeer) 0x1800 none]

/-- Over every run from a new client, the database owns its services: every remote service made
so far is either in `m_svcVec` or freed, exactly once, so none is freed twice or lost, and every
entry of `m_svcVec` is allocated and not freed. -/
theorem owned_run {ops : List DbOp} {db : ClientDb} (h : init.run ops = some db) : db.Owned :=
  owned_init.run h

theorem owned_run_lookupRun : ∃ db, init.run lookupRun = some db ∧ db.Owned :=
  ⟨_, rfl, @owned_run lookupRun _ rfl⟩

/-- Destroying the client at the end of any run frees every remote service the client made,
each exactly once, and nothing else. -/
theorem destroy_frees_each_service_once {ops : List DbOp} {db : ClientDb}
    (h : init.run ops = some db) : db.destroy.freed.Perm (List.range db.next) := by
  simpa [destroy, deleteServices_eq] using (owned_init.run h).deleteServices.ledger

theorem destroy_frees_each_service_once_lookupRun :
    ∃ db, init.run lookupRun = some db ∧ db.destroy.freed.Perm (List.range db.next) :=
  ⟨_, rfl, @destroy_frees_each_service_once lookupRun _ rfl⟩

/-! ## What a lookup returns -/

/-- A hit in `m_svcVec` is returned without a discovery. -/
theorem getService_cached {db : ClientDb} {uuid : UUID} {p : Nat}
    (h : db.svcVec.find? (db.uuidAt · == some uuid) = some p) (host : DiscHost)
    (alt : Option UUID) : db.getService host uuid alt = some (db, some p) := by
  unfold getService; rw [h]

/-- With no service of the UUID, the lookup in `m_svcVec` misses. -/
theorem find?_uuid_eq_none {db : ClientDb} {uuid : UUID}
    (hmiss : ∀ p ∈ db.svcVec, db.uuidAt p ≠ some uuid) :
    db.svcVec.find? (db.uuidAt · == some uuid) = none :=
  List.find?_eq_none.2 fun p hp => by simpa using hmiss p hp

/-- After services are pushed onto a database with none of the UUID, the lookup finds the first
one pushed when it has the UUID. -/
theorem find?_pushAll {db : ClientDb} (hlt : ∀ p ∈ db.svcVec, p < db.next) {uuid : UUID}
    (hmiss : ∀ p ∈ db.svcVec, db.uuidAt p ≠ some uuid) {x : BLERemoteService} (hx : x.uuid = uuid)
    (xs : List BLERemoteService) :
    (db.pushAll (x :: xs)).svcVec.find? ((db.pushAll (x :: xs)).uuidAt · == some uuid) =
      some db.next := by
  rw [pushAll_svcVec, List.find?_append, List.find?_eq_none.2, Option.none_or, List.length_cons,
    List.range'_succ, List.find?_cons_of_pos]
  · have h0 := pushAll_svcs_add db (x :: xs) (Nat.zero_lt_succ _)
    rw [Nat.add_zero] at h0
    simp [uuidAt, h0, hx]
  · intro p hp
    simpa [uuidAt, pushAll_svcs_of_lt _ _ (hlt p hp)] using hmiss p hp

/-- When `retrieveServices` returns with `m_svcVec` grown, `m_svcVec.back()` is a service the
host reported with status 0 for the filter. -/
theorem retrieveServices_back {host : DiscHost} {uuidFilter : Option UUID} {db db' : ClientDb}
    {ok : Bool} (h : db.retrieveServices host uuidFilter = some (db', ok))
    (hgrow : db.svcVec.length < db'.svcVec.length) :
    ∃ p, db'.svcVec.getLast? = some p ∧
      ∃ e ∈ host.events uuidFilter, e.status = 0 ∧ db'.svcs p = some (.ofSvc e.service) := by
  obtain ⟨xs, hdb, hmem⟩ := retrieveServices_pushes h
  rw [hdb] at hgrow ⊢
  have hxs : xs ≠ [] := by
    rintro rfl
    simp [pushAll_svcVec] at hgrow
  have hi : xs.length - 1 < xs.length := by
    have := List.length_pos.2 hxs
    omega
  obtain ⟨e, he, h0, hx⟩ := hmem _ (List.getElem_mem hi)
  refine ⟨_, pushAll_getLast? db hxs, e, he, h0, ?_⟩
  show (db.pushAll xs).svcs _ = _
  rw [show db.next + xs.length - 1 = db.next + (xs.length - 1) by omega, pushAll_svcs_add _ _ hi,
    List.getElem?_eq_getElem hi, hx]

/-- A lookup against a host that reports only services of the UUID asked for returns a service of
`m_svcVec` with that UUID or the converted one, and the database still owns its services. -/
theorem getService_uuid {host : DiscHost} (hf : host.Filters) {db : ClientDb} (hdb : db.Owned)
    {uuid : UUID} {alt : Option UUID} {db' : ClientDb} {p : Nat}
    (hg : db.getService host uuid alt = some (db', some p)) :
    db'.Owned ∧ p ∈ db'.svcVec ∧ (db'.uuidAt p = some uuid ∨ db'.uuidAt p = alt) := by
  refine ⟨hdb.getService hg, ?_⟩
  /- A pointer read off the end of a grown `m_svcVec` has the filter's UUID. -/
  have back : ∀ {f : UUID} {db₀ db₁ : ClientDb} {ok : Bool},
      db₀.retrieveServices host (some f) = some (db₁, ok) →
      db₀.svcVec.length < db₁.svcVec.length → db₁.svcVec.getLast? = some p →
      p ∈ db₁.svcVec ∧ db₁.uuidAt p = some f := fun h1 hgrow hp => by
    obtain ⟨q, hq, e, he, h0, hsvc⟩ := retrieveServices_back h1 hgrow
    obtain rfl : q = p := Option.some.inj (hq.symm.trans hp)
    exact ⟨List.mem_of_getLast?_eq_some hq, by simp [uuidAt, hsvc, BLERemoteService.ofSvc,
      hf _ e he h0]⟩
  rcases getService_cases hg with
    ⟨rfl, q, hq, hfind⟩ | ⟨_, h1, hr⟩ | ⟨_, _, _, h1, hle, rfl, h2, hr⟩
  · cases hq
    exact ⟨List.mem_of_find?_eq_some hfind, .inl (by simpa using List.find?_some hfind)⟩
  · obtain h | ⟨hgrow, hp⟩ := hr
    · cases h
    · exact (back h1 hgrow hp.symm).imp_right .inl
  · obtain h | ⟨hgrow, hp⟩ := hr
    · cases h
    · exact (back h2 (by omega) hp.symm).imp_right .inr

theorem getService_uuid_connectedClient :
    ∃ db' p,
      connectedClient.getService (peerHost 1 heartRatePeer) 0x180D none = some (db', some p) ∧
      db'.Owned ∧ p ∈ db'.svcVec ∧ (db'.uuidAt p = some 0x180D ∨ db'.uuidAt p = none) :=
  ⟨_, _, rfl, getService_uuid (peerHost_filters 1 heartRatePeer) (owned_init.setConnHandle 1) rfl⟩

/-- Against the peer's host on its connection, a connected client's discovery pushes the
services the filter selects and succeeds. -/
theorem retrieveServices_peerHost {db : ClientDb} {conn : Nat} (hc : db.connHandle = conn)
    (hup : db.isConnected) (peer : List GattSvc) (uuidFilter : Option UUID) :
    db.retrieveServices (peerHost conn peer) uuidFilter =
      some (db.pushAll ((selected peer uuidFilter).map .ofSvc), true) := by
  subst hc
  simp only [retrieveServices, hup, Bool.not_true, Bool.false_eq_true, if_false, peerHost,
    ne_eq, not_true_eq_false]
  rw [discover_reported _ _ (by decide)]
  simp

/-- A lookup that misses against a peer with instances of the UUID discovers them and returns
`back()`. -/
theorem getService_peerHost_of_miss (peer : List GattSvc) {db : ClientDb} (hup : db.isConnected)
    {uuid : UUID} (alt : Option UUID) (hmiss : ∀ p ∈ db.svcVec, db.uuidAt p ≠ some uuid)
    (hpeer : selected peer (some uuid) ≠ []) :
    db.getService (peerHost db.connHandle peer) uuid alt =
      some (db.pushAll ((selected peer (some uuid)).map .ofSvc),
        some (db.next + (selected peer (some uuid)).length - 1)) := by
  unfold getService
  rw [find?_uuid_eq_none hmiss, retrieveServices_peerHost rfl hup]
  dsimp only
  rw [if_pos (by simpa [pushAll_svcVec, List.length_pos] using hpeer),
    pushAll_getLast? _ (by simpa using hpeer), List.length_map]

/-- A lookup that misses against a peer with instances of the UUID returns the last instance the
peer reports; the next lookup, whatever the host answers, returns the first from `m_svcVec`. -/
theorem getService_first_call_returns_last_instance (peer : List GattSvc) {db : ClientDb}
    (hdb : db.Owned) (hup : db.isConnected) {uuid : UUID} (alt : Option UUID)
    (hmiss : ∀ p ∈ db.svcVec, db.uuidAt p ≠ some uuid) (hpeer : selected peer (some uuid) ≠ []) :
    ∃ db' p, db.getService (peerHost db.connHandle peer) uuid alt = some (db', some p) ∧
      db'.svcs p = ((selected peer (some uuid)).map .ofSvc).getLast? ∧
      db'.svcs db.next = ((selected peer (some uuid)).map .ofSvc).head? ∧
      ∀ (host : DiscHost) (alt' : Option UUID),
        db'.getService host uuid alt' = some (db', some db.next) := by
  obtain ⟨s, ss, hss⟩ := List.exists_cons_of_ne_nil hpeer
  have hx : (BLERemoteService.ofSvc s).uuid = uuid := by
    simpa [BLERemoteService.ofSvc] using
      List.of_mem_filter (hss ▸ List.mem_cons_self s ss : s ∈ selected peer (some uuid))
  rw [hss]
  refine ⟨db.pushAll ((s :: ss).map .ofSvc), db.next + (s :: ss).length - 1, ?_, ?_, ?_,
    fun host alt' => getService_cached (find?_pushAll hdb.svcVec_lt hmiss hx _) host alt'⟩
  · rw [← hss]; exact getService_peerHost_of_miss peer hup alt hmiss hpeer
  · have h := @pushAll_svcs_last db ((s :: ss).map .ofSvc) (by simp)
    rwa [List.length_map] at h
  · have h0 := pushAll_svcs_add db ((s :: ss).map .ofSvc) (i := 0) (by simp)
    rw [Nat.add_zero] at h0
    rw [h0, List.head?_eq_getElem?]

theorem getService_first_call_returns_last_instance_heartRatePeer :
    ∃ db' p, connectedClient.getService (peerHost connectedClient.connHandle heartRatePeer) 0x180D
        none = some (db', some p) ∧
      db'.svcs p = ((selected heartRatePeer (some 0x180D)).map .ofSvc).getLast? ∧
      db'.svcs connectedClient.next = ((selected heartRatePeer (some 0x180D)).map .ofSvc).head? ∧
      ∀ (host : DiscHost) (alt' : Option UUID),
        db'.getService host 0x180D alt' = some (db', some connectedClient.next) :=
  getService_first_call_returns_last_instance heartRatePeer (owned_init.setConnHandle 1) rfl none
    (by simp [connectedClient, init]) (by decide)

/-- A discovery by UUID that reports services and then fails makes the lookup return null with
`m_lastErr` set, yet leaves the services in `m_svcVec`: the next lookup returns the first of
them, whatever the host answers. -/
theorem getService_error_after_discovery (host : DiscHost) {db : ClientDb} (hdb : db.Owned)
    (hup : db.isConnected) {uuid : UUID} (alt : Option UUID)
    (hmiss : ∀ p ∈ db.svcVec, db.uuidAt p ≠ some uuid) (hrc : host.rc (some uuid) = 0)
    {s : GattSvc} (hs : s.uuid = uuid) (found : List GattSvc) {st : Nat} (hst : st ≠ 0)
    (hdone : st ≠ BLE_HS_EDONE) (last : GattSvc) (rest : List SvcCompletion)
    (hev : host.events (some uuid) =
      (s :: found).map (⟨db.connHandle, 0, ·⟩) ++ ⟨db.connHandle, st, last⟩ :: rest) :
    ∃ db', db.getService host uuid alt = some (db', none) ∧ db'.lastErr = st ∧
      db'.services = db.services ++ (s :: found).map .ofSvc ∧
      ∀ (host' : DiscHost) (alt' : Option UUID),
        db'.getService host' uuid alt' = some (db', some db.next) := by
  have hr : db.retrieveServices host (some uuid) =
      some ({ db.pushAll ((s :: found).map .ofSvc) with lastErr := st }, false) := by
    simp only [retrieveServices, hup, Bool.not_true, Bool.false_eq_true, if_false, hrc, ne_eq,
      not_true_eq_false, hev]
    rw [discover_reported _ _ hst]
    simp [hst, hdone]
  refine ⟨{ db.pushAll ((s :: found).map .ofSvc) with lastErr := st }, ?_, rfl,
    services_pushAll _ _ hdb.svcVec_lt, fun host' alt' =>
      @getService_cached { db.pushAll ((s :: found).map .ofSvc) with lastErr := st } _ _
        (find?_pushAll hdb.svcVec_lt hmiss hs _) host' alt'⟩
  unfold getService
  rw [find?_uuid_eq_none hmiss, hr]

/-- A host whose discovery of the heart-rate service reports one instance and then
`BLE_HS_ETIMEOUT` (13). -/
def timeoutHost : DiscHost where
  rc _ := 0
  events _ := [⟨1, 0, ⟨6, 9, 0x180D⟩⟩, ⟨1, 13, ⟨0, 0, 0⟩⟩]

theorem getService_error_after_discovery_timeoutHost :
    ∃ db', connectedClient.getService timeoutHost 0x180D none = some (db', none) ∧
      db'.lastErr = 13 ∧ db'.services = connectedClient.services ++ [.ofSvc ⟨6, 9, 0x180D⟩] ∧
      ∀ (host' : DiscHost) (alt' : Option UUID),
        db'.getService host' 0x180D alt' = some (db', some connectedClient.next) :=
  getService_error_after_discovery timeoutHost (owned_init.setConnHandle 1) rfl none
    (by simp [connectedClient, init]) rfl rfl [] (by decide) (by decide) ⟨0, 0, 0⟩ [] rfl

/-- `getServices(true)` against the peer's host frees every service the client held, none of
which stays in `m_svcVec`, and then holds the peer's services in the peer's order. -/
theorem getServices_refresh_mirrors_peer (peer : List GattSvc) {db : ClientDb} (hdb : db.Owned)
    (hup : db.isConnected) :
    ∃ db', db.getServices (peerHost db.connHandle peer) true = some db' ∧ db'.Owned ∧
      db'.services = peer.map .ofSvc ∧ ∀ p ∈ db.svcVec, p ∈ db'.freed ∧ p ∉ db'.svcVec := by
  have hsel : selected peer none = peer := by simp [selected]
  have hdel := hdb.deleteServices
  rw [deleteServices_eq] at hdel
  refine ⟨{ db with svcVec := [], freed := db.freed ++ db.svcVec }.pushAll (peer.map .ofSvc), ?_,
    hdel.pushAll _, ?_, fun p hp => ⟨?_, ?_⟩⟩
  · rw [getServices, if_pos rfl, deleteServices_eq,
      @retrieveServices_peerHost { db with svcVec := [], freed := db.freed ++ db.svcVec } _ rfl hup,
      hsel]
    rfl
  · rw [services_pushAll _ _ fun _ h => by simp at h]; rfl
  · rw [pushAll_freed]; exact List.mem_append_right _ hp
  · rw [pushAll_svcVec]
    simp only [List.nil_append, List.mem_range'_1]
    have := hdb.svcVec_lt p hp
    omega

theorem getServices_refresh_mirrors_peer_connectedClient :
    ∃ db', connectedClient.getServices (peerHost connectedClient.connHandle heartRatePeer) true =
        some db' ∧ db'.Owned ∧ db'.services = heartRatePeer.map .ofSvc ∧
      ∀ p ∈ connectedClient.svcVec, p ∈ db'.freed ∧ p ∉ db'.svcVec :=
  getServices_refresh_mirrors_peer heartRatePeer (owned_init.setConnHandle 1) rfl

/-! ## The server's client -/

/-- `BLEServer::getClient(const BLEConnInfo &)` (`BLEServer.cpp:956-965`): the server keeps one
client for the peers that connect to it, made on first use (`none` is `m_pClient == nullptr`),
and hands it to each new connection after deleting its services; the peer address it also sets
is not modelled. -/
def serverGetClient (connHandle : Nat) (m_pClient : Option ClientDb) : ClientDb :=
  { (m_pClient.getD init).deleteServices with connHandle := connHandle }

/-- Whatever run the server's client went through with the previous peer, handing it to a new
connection leaves none of that peer's services behind: each is freed and gone from `m_svcVec`,
and the first lookup of a UUID the new peer has returns the new peer's last instance, with the
database holding only the new peer's instances of that UUID. -/
theorem serverGetClient_serves_new_peer_only {ops : List DbOp} {db : ClientDb}
    (h : init.run ops = some db) {conn : Nat} (hconn : conn ≠ BLE_HS_CONN_HANDLE_NONE)
    (peer : List GattSvc) {uuid : UUID} (alt : Option UUID)
    (hpeer : selected peer (some uuid) ≠ []) :
    ∃ db' p, (serverGetClient conn (some db)).getService (peerHost conn peer) uuid alt =
        some (db', some p) ∧ db'.Owned ∧
      db'.svcs p = ((selected peer (some uuid)).map .ofSvc).getLast? ∧
      db'.services = (selected peer (some uuid)).map .ofSvc ∧
      ∀ q ∈ db.svcVec, q ∈ db'.freed ∧ q ∉ db'.svcVec := by
  have hdb := owned_init.run h
  obtain ⟨c, hc⟩ : ∃ c, serverGetClient conn (some db) = c := ⟨_, rfl⟩
  have hown : c.Owned := hc ▸ hdb.deleteServices.setConnHandle conn
  have hvec : c.svcVec = [] := by rw [← hc]; rfl
  have hconn' : c.connHandle = conn := by rw [← hc]; rfl
  have hfreed : c.freed = db.freed ++ db.svcVec := by
    rw [← hc, serverGetClient, Option.getD_some, deleteServices_eq]
  have hnext : c.next = db.next := by
    rw [← hc, serverGetClient, Option.getD_some, deleteServices_eq]
  rw [hc, ← hconn']
  refine ⟨_, _, getService_peerHost_of_miss peer (by simp [isConnected, hconn', hconn]) alt
    (by simp [hvec]) hpeer, hown.pushAll _, ?_, ?_, fun q hq => ⟨?_, ?_⟩⟩
  · have hlast :=
      @pushAll_svcs_last c ((selected peer (some uuid)).map .ofSvc) (by simpa using hpeer)
    rwa [List.length_map] at hlast
  · rw [services_pushAll _ _ (by simp [hvec]), services, hvec]; rfl
  · rw [pushAll_freed, hfreed]; exact List.mem_append_right _ hq
  · rw [pushAll_svcVec, hvec, hnext]
    simp only [List.nil_append, List.mem_range'_1]
    have := hdb.svcVec_lt q hq
    omega

theorem serverGetClient_serves_new_peer_only_lookupRun :
    ∃ db, init.run lookupRun = some db ∧
      ∃ db' p, (serverGetClient 2 (some db)).getService (peerHost 2 heartRatePeer) 0x180D none =
          some (db', some p) ∧ db'.Owned ∧
        db'.svcs p = ((selected heartRatePeer (some 0x180D)).map .ofSvc).getLast? ∧
        db'.services = (selected heartRatePeer (some 0x180D)).map .ofSvc ∧
        ∀ q ∈ db.svcVec, q ∈ db'.freed ∧ q ∉ db'.svcVec :=
  ⟨_, rfl, @serverGetClient_serves_new_peer_only lookupRun _ rfl 2 (by decide) heartRatePeer 0x180D
    none (by decide)⟩

/-! ## Range checks -/

/-- Every characteristic lies in its service's handle range. -/
def CharsInRange (db : ClientDb) : Prop :=
  ∀ p ∈ db.svcVec, ∀ svc ∈ db.svcs p, ∀ c ∈ svc.chars,
    svc.startHandle ≤ c.handle ∧ c.handle ≤ svc.endHandle

instance : DecidablePred CharsInRange := fun db =>
  inferInstanceAs (Decidable (∀ p ∈ db.svcVec, ∀ svc ∈ db.svcs p, ∀ c ∈ svc.chars,
    svc.startHandle ≤ c.handle ∧ c.handle ≤ svc.endHandle))

/-- When every characteristic lies in its service's range, the range check of
`getCharacteristic(handle)` skips only services without the handle. -/
theorem getCharacteristic_eq_findCharacteristic {db : ClientDb} (h : db.CharsInRange)
    (handle : Nat) : db.getCharacteristic handle = db.findCharacteristic handle := by
  refine findSome?_congr_of_mem fun p hp => ?_
  dsimp only
  cases hs : db.svcs p with
  | none => rfl
  | some svc =>
    simp only [Option.some_bind]
    split_ifs with hr
    · rfl
    · refine (List.find?_eq_none.2 fun c hc hch => hr ?_).symm
      have := h p hp svc hs c hc
      rw [beq_iff_eq] at hch
      omega

/-- The heart-rate peer's two services, with the heart-rate measurement at handle 8 discovered. -/
def heartRateDb : ClientDb :=
  { connectedClient with
    svcVec := [0, 1]
    svcs := fun p => if p = 0 then some ⟨0x1800, 1, 5, []⟩
      else if p = 1 then some ⟨0x180D, 6, 9, [⟨8, BLEAttValue.new true 512 4 512, true⟩]⟩
      else none
    next := 2 }

theorem getCharacteristic_eq_findCharacteristic_heartRateDb :
    heartRateDb.CharsInRange ∧
      heartRateDb.getCharacteristic 8 = heartRateDb.findCharacteristic 8 :=
  ⟨by decide, getCharacteristic_eq_findCharacteristic (by decide) 8⟩

end ClientDb

section

variable (ok : Bool) (now attrHandle : Nat) (om : MbufChain) (indication : Bool)

/-- The notification arm without its range check: every service is searched. -/
def handleNotifyRxAll (myConn connHandle : Nat) (svcs : List RemoteService) :
    List RemoteService × List NotifyCall :=
  if myConn ≠ connHandle then (svcs, [])
  else
    (svcs.map fun svc =>
      { svc with chars := (notifyRxChars ok now attrHandle om indication svc.chars).1 },
     svcs.flatMap fun svc => (notifyRxChars ok now attrHandle om indication svc.chars).2)

/-- Characteristics none of which has the handle are left alone, with no callback. -/
theorem notifyRxChars_of_forall_ne : ∀ {chrs : List RemoteCharacteristic},
    (∀ c ∈ chrs, c.handle ≠ attrHandle) →
      notifyRxChars ok now attrHandle om indication chrs = (chrs, [])
  | [], _ => rfl
  | c :: chrs, h => by
    rw [notifyRxChars, if_neg (h c (List.mem_cons_self c chrs)),
      notifyRxChars_of_forall_ne fun d hd => h d (List.mem_cons_of_mem c hd)]

/-- When no characteristic's handle is above its service's end handle, skipping the services
that end below the event's handle changes neither the services nor the callbacks. -/
theorem handleNotifyRx_eq_handleNotifyRxAll {svcs : List RemoteService}
    (h : ∀ svc ∈ svcs, ∀ c ∈ svc.chars, c.handle ≤ svc.endHandle) (myConn connHandle : Nat) :
    handleNotifyRx ok now attrHandle om indication myConn connHandle svcs =
      handleNotifyRxAll ok now attrHandle om indication myConn connHandle svcs := by
  have hskip : ∀ svc ∈ svcs, svc.endHandle < attrHandle →
      notifyRxChars ok now attrHandle om indication svc.chars = (svc.chars, []) :=
    fun svc hs hlt => notifyRxChars_of_forall_ne ok now attrHandle om indication
      fun c hc => by have := h svc hs c hc; omega
  unfold handleNotifyRx handleNotifyRxAll
  split_ifs
  · rfl
  · refine Prod.ext (List.map_congr_left fun svc hs => ?_) (List.flatMap_congr fun svc hs => ?_)
    all_goals
      split_ifs with hlt
      · rw [hskip svc hs hlt]
      · rfl

end

theorem handleNotifyRx_eq_handleNotifyRxAll_notifiedService :
    (∀ svc ∈ [⟨5, []⟩, notifiedService], ∀ c ∈ RemoteService.chars svc,
      c.handle ≤ svc.endHandle) ∧
      handleNotifyRx true 0 12 twoMbufPayload false 5 5 [⟨5, []⟩, notifiedService] =
        handleNotifyRxAll true 0 12 twoMbufPayload false 5 5 [⟨5, []⟩, notifiedService] :=
  ⟨by decide, handleNotifyRx_eq_handleNotifyRxAll true 0 12 twoMbufPayload false (by decide) 5 5⟩

end BleGatt
