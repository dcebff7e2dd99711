import BleGatt.Server.Closed

/-!
# Looking attributes up, and the handles `start` looks up

The server finds its objects by UUID and by handle. `getServiceByUUID(uuid, instanceId)`
(`BLEServer.cpp:109`) and `BLEService::getCharacteristic(uuid, idx)` (`NimBLEService.cpp:288`)
count the matches of `m_svcVec` or `m_vChars` with a `position` and return the one at the
asked index; both are the entry at that index of the matches in order, the vector that
`getCharacteristics(uuid)` builds (`nthWithUuid_eq_getElem?`, `lookups_index_matches`).

`BLEServer::start` gives each live service the handle `ble_gatts_find_svc` answers for its UUID,
which is the handle of the first registered service with that UUID: every live service whose
UUID is registered holds that handle afterwards, so live services sharing a UUID share a handle
(`start_service_handles`), and `getServiceByHandle` (`BLEServer.cpp:128`) can only return the
first of them.
-/

namespace BleGatt

/-! ## Lookups by UUID and by handle -/

section

variable (key : Ptr → Option UUID) (uuid : UUID) (instanceId : Nat)

/-- The loop of `getServiceByUUID` and `BLEService::getCharacteristic` from `position` on:
`key` reads an object's UUID, and the match with `position = instanceId` is returned. -/
def nthWithUuid : Nat → List Ptr → Option Ptr
  | _, [] => none
  | position, p :: ps =>
    if key p = some uuid then
      if position = instanceId then some p else nthWithUuid (position + 1) ps
    else nthWithUuid position ps

/-- The entries of `v` whose object has the UUID, in order. -/
def withUuid (v : List Ptr) : List Ptr := v.filter fun p => key p = some uuid

/-- From `position` on, the loop returns the match at index `instanceId - position` of the
rest. -/
theorem nthWithUuid_eq_getElem? : ∀ (v : List Ptr) (position : Nat), position ≤ instanceId →
    nthWithUuid key uuid instanceId position v = (withUuid key uuid v)[instanceId - position]?
  | [], _, _ => rfl
  | p :: ps, position, hle => by
    by_cases hk : key p = some uuid
    · have hcons : withUuid key uuid (p :: ps) = p :: withUuid key uuid ps := by
        simp [withUuid, hk]
      rw [nthWithUuid, if_pos hk, hcons]
      by_cases hpos : position = instanceId
      · subst hpos; simp
      · rw [if_neg hpos, nthWithUuid_eq_getElem? ps (position + 1) (by omega),
          show instanceId - position = (instanceId - (position + 1)) + 1 by omega,
          List.getElem?_cons_succ]
    · have hcons : withUuid key uuid (p :: ps) = withUuid key uuid ps := by
        simp [withUuid, hk]
      rw [nthWithUuid, if_neg hk, hcons, nthWithUuid_eq_getElem? ps position hle]

end

/-- The first entry of `v` whose object has the handle: `getServiceByHandle`,
`BLEService::getCharacteristicByHandle` and `BLECharacteristic::getDescriptorByHandle`. -/
def firstWithHandle (handleOf : Ptr → Option Nat) (handle : Nat) (v : List Ptr) : Option Ptr :=
  v.find? fun p => handleOf p = some handle

namespace State

/-- `BLEServer::getServiceByUUID(uuid, instanceId)` (`BLEServer.cpp:109`). -/
def getServiceByUUID (s : State) (uuid : UUID) (instanceId : Nat) : Option Ptr :=
  nthWithUuid (fun p => (s.heap.svcs p).map (·.uuid)) uuid instanceId 0 s.server.svcVec

/-- `BLEServer::getServiceByHandle(handle)` (`BLEServer.cpp:128`). -/
def getServiceByHandle (s : State) (handle : Nat) : Option Ptr :=
  firstWithHandle (fun p => (s.heap.svcs p).map (·.handle)) handle s.server.svcVec

end State

namespace Heap

/-- `BLEService::getCharacteristic(uuid, idx)` (`NimBLEService.cpp:288`) of the service at
`p`. -/
def getCharacteristic (h : Heap) (p : Ptr) (uuid : UUID) (idx : Nat) : Option Ptr :=
  nthWithUuid (fun c => (h.chrs c).map (·.uuid)) uuid idx 0 (h.chars p)

/-- `BLEService::getCharacteristics(uuid)` (`NimBLEService.cpp:334`). -/
def getCharacteristics (h : Heap) (p : Ptr) (uuid : UUID) : List Ptr :=
  withUuid (fun c => (h.chrs c).map (·.uuid)) uuid (h.chars p)

/-- `BLEService::getCharacteristicByHandle(handle)` (`NimBLEService.cpp:307`). -/
def getCharacteristicByHandle (h : Heap) (p : Ptr) (handle : Nat) : Option Ptr :=
  firstWithHandle (fun c => (h.chrs c).map (·.handle)) handle (h.chars p)

/-- `BLECharacteristic::getDescriptorByUUID(uuid)` (`part_012:173`). -/
def getDescriptorByUUID (h : Heap) (c : Ptr) (uuid : UUID) : Option Ptr :=
  nthWithUuid (fun d => (h.dscs d).map (·.uuid)) uuid 0 0 (h.descriptors c)

/-- `BLECharacteristic::getDescriptorByHandle(handle)` (`part_012:187`). -/
def getDescriptorByHandle (h : Heap) (c : Ptr) (handle : Nat) : Option Ptr :=
  firstWithHandle (fun d => (h.dscs d).map (·.handle)) handle (h.descriptors c)

end Heap

/-- For every server, service and UUID: `getServiceByUUID(uuid, instanceId)` is the entry at
index `instanceId` of the services of `m_svcVec` with the UUID, and
`getCharacteristic(uuid, idx)` the entry at index `idx` of `getCharacteristics(uuid)`; past
the last match both are null. -/
theorem lookups_index_matches (s : State) (p : Ptr) (uuid : UUID) (i : Nat) :
    s.getServiceByUUID uuid i =
      (withUuid (fun q => (s.heap.svcs q).map (·.uuid)) uuid s.server.svcVec)[i]? ∧
    s.heap.getCharacteristic p uuid i = (s.heap.getCharacteristics p uuid)[i]? := by
  constructor
  · rw [State.getServiceByUUID, nthWithUuid_eq_getElem? _ _ _ _ _ (Nat.zero_le i), Nat.sub_zero]
  · rw [Heap.getCharacteristic, nthWithUuid_eq_getElem? _ _ _ _ _ (Nat.zero_le i), Nat.sub_zero]
    rfl

/-! ## The handles `BLEServer::start` looks up -/

namespace Heap

section

variable (t : List SvcEntry)

/-- The loop of `start` leaves a service it does not reach as it was. -/
theorem svcs_findHandles_of_not_mem {q : Ptr} :
    ∀ (v : List Ptr) (h : Heap), q ∉ v → (findHandles t v h).svcs q = h.svcs q
  | [], _, _ => rfl
  | p :: ps, h, hq => by
    have hne : q ≠ p := fun e => hq (e ▸ List.mem_cons_self _ _)
    have hrest : q ∉ ps := fun hm => hq (List.mem_cons_of_mem _ hm)
    unfold findHandles
    split
    · split
      · split
        · rw [svcs_findHandles_of_not_mem ps _ hrest, findDscHandles_svcs, modSvc_svcs,
            if_neg hne]
        · exact svcs_findHandles_of_not_mem ps h hrest
      · rw [svcs_findHandles_of_not_mem ps _ hrest, findDscHandles_svcs]
    · exact svcs_findHandles_of_not_mem ps h hrest

/-- The loop of `start` gives a live service of the vector the handle `ble_gatts_find_svc`
answers for its UUID, and leaves it when the host does not know the UUID. -/
theorem svcs_findHandles_of_mem {q : Ptr} : ∀ (v : List Ptr) (h : Heap) (svc : BLEService),
    svc.removed = 0 → q ∈ v → h.svcs q = some svc →
      (findHandles t v h).svcs q =
        some { svc with handle := (Host.findSvc t svc.uuid).getD svc.handle }
  | p :: ps, h, svc, hlive, hq, hsvc => by
    unfold findHandles
    by_cases hpq : p = q
    · subst hpq
      rw [hsvc]
      dsimp only
      rw [if_pos hlive]
      cases hfind : Host.findSvc t svc.uuid with
      | none =>
        by_cases hm : p ∈ ps
        · have := svcs_findHandles_of_mem ps h svc hlive hm hsvc
          rwa [hfind] at this
        · rw [svcs_findHandles_of_not_mem t ps h hm, hsvc]; rfl
      | some n =>
        have hmod : (findDscHandles t (h.modSvc p fun x => { x with handle := n }) p).svcs p =
            some { svc with handle := n } := by
          rw [findDscHandles_svcs, modSvc_svcs, if_pos rfl, hsvc]; rfl
        by_cases hm : p ∈ ps
        · have := svcs_findHandles_of_mem ps _ { svc with handle := n } hlive hm hmod
          rwa [hfind] at this
        · rw [svcs_findHandles_of_not_mem t ps _ hm, hmod]; rfl
    · have hm : q ∈ ps := (List.mem_cons.1 hq).resolve_left (Ne.symm hpq)
      have hkeep (h' : Heap) (e : h'.svcs q = h.svcs q) :
          (findHandles t ps h').svcs q =
            some { svc with handle := (Host.findSvc t svc.uuid).getD svc.handle } :=
        svcs_findHandles_of_mem ps h' svc hlive hm (e.trans hsvc)
      split
      · split
        · split
          · exact hkeep _ (by rw [findDscHandles_svcs, modSvc_svcs, if_neg (Ne.symm hpq)])
          · exact hkeep _ rfl
        · exact hkeep _ (findDscHandles_svcs t h p ▸ rfl)
      · exact hkeep _ rfl

end

end Heap

namespace State

/-- When `ble_gatts_start` succeeds, `start` registers the added records, then looks the handles
up in the table it registered. -/
theorem start_heap {s : State} (hstart : s.server.gattsStarted = false)
    (hrc : s.host.results s.host.calls.length = 0) :
    s.start.heap = Heap.findHandles s.start.host.table s.server.svcVec s.registerAll.heap := by
  unfold start
  simp only [hstart, call, hrc, Bool.false_eq_true, if_false, ne_eq, not_true_eq_false]
  split <;> rfl

end State

/-- For every server whose `ble_gatts_start` succeeds: afterwards every live service of
`m_svcVec` holds the handle of the first registered service with its UUID (its own handle
stays when no registered service has it). So two live services with one registered UUID hold
one handle. -/
theorem start_service_handles (s : State) (hstart : s.server.gattsStarted = false)
    (hrc : s.host.results s.host.calls.length = 0) :
    (∀ (p : Ptr) (svc : BLEService), p ∈ s.server.svcVec → s.heap.svcs p = some svc →
      svc.removed = 0 →
      s.start.heap.svcs p =
        some { svc with handle := (Host.findSvc s.start.host.table svc.uuid).getD svc.handle }) ∧
    (∀ (p q : Ptr) (sp sq : BLEService), p ∈ s.server.svcVec → q ∈ s.server.svcVec →
      s.heap.svcs p = some sp → s.heap.svcs q = some sq → sp.removed = 0 → sq.removed = 0 →
      sp.uuid = sq.uuid → (Host.findSvc s.start.host.table sp.uuid).isSome →
      (s.start.heap.svcs p).map (·.handle) = (s.start.heap.svcs q).map (·.handle)) := by
  have hsvc (p : Ptr) (svc : BLEService) (hp : p ∈ s.server.svcVec) (h : s.heap.svcs p = some svc)
      (hlive : svc.removed = 0) :
      s.start.heap.svcs p =
        some { svc with handle := (Host.findSvc s.start.host.table svc.uuid).getD svc.handle } := by
    rw [State.start_heap hstart hrc]
    refine Heap.svcs_findHandles_of_mem _ _ _ svc hlive hp ?_
    simp only [State.registerAll, Heap.writeValHandles_svcs, h]
  refine ⟨hsvc, fun p q sp sq hp hq hsp hsq hlp hlq huuid hfound => ?_⟩
  obtain ⟨n, hn⟩ := Option.isSome_iff_exists.1 hfound
  rw [hsvc p sp hp hsp hlp, hsvc q sq hq hsq hlq, ← huuid, hn]
  rfl

/-- Two services with the heart-rate UUID, started and added before the server starts; the
host registers them with handles 10 and 11. -/
def twoHeartRate : State :=
  (State.init 3 10 fun _ => 0).run [.createService 0x180D, .createService 0x180D,
    .startService 0, .startService 1]

/-- Both services hold handle 10 once the server has started. -/
theorem start_service_handles_twoHeartRate :
    Reachable twoHeartRate ∧
      (twoHeartRate.server.gattsStarted = false ∧
        twoHeartRate.host.results twoHeartRate.host.calls.length = 0) ∧
      (twoHeartRate.start.heap.svcs 0).map (·.handle) =
        (twoHeartRate.start.heap.svcs 1).map (·.handle) ∧
      (twoHeartRate.start.heap.svcs 1).map (·.handle) = some 10 :=
  ⟨(Reachable.init 3 10 _).run (by decide), ⟨by decide, by decide⟩,
    (start_service_handles twoHeartRate (by decide) (by decide)).2 0 1 ⟨0x180D, 0, 0, [], none, 1⟩
      ⟨0x180D, 0, 0, [], none, 1⟩ (by decide) (by decide) rfl rfl rfl rfl rfl (by decide),
    by decide⟩

end BleGatt
