import BleGatt.Server.Tree

/-!
# Registration, start and rebuild

`BLEService::start` (`NimBLEService.cpp:90`) compiles the service's live characteristics and
descriptors into freshly allocated registration arrays and hands the record to the host;
`BLEServer::start` (`BLEServer.cpp:173`) starts the host's GATT server, then looks up the
handles of services and descriptors by UUID path; `BLEServer::resetGATT` (`BLEServer.cpp:761`)
resets the host, deletes the services pending deletion and starts the others again.

The compile is two loops over `m_vChars` with the same filter, one counting and one filling
the array `new ble_gatt_chr_def[numChrs + 1]{}` entry by entry (`fillChrs`), and the same for
descriptors (`fillDscs`). When a previously started service has no live characteristic left,
the old array is freed and `m_pSvcDef->characteristics` keeps pointing at it.
-/

namespace BleGatt

namespace Heap

/-- `chr->getRemoved() == 0` for the characteristic at `c`. -/
def chrLive (h : Heap) (c : Ptr) : Bool := (h.chrs c).any (·.removed = 0)

/-- `dsc->getRemoved() == 0` for the descriptor at `d`. -/
def dscLive (h : Heap) (d : Ptr) : Bool := (h.dscs d).any (·.removed = 0)

/-- The second descriptor loop of `BLEService::start` (`NimBLEService.cpp:141-152`): entry `j`
of the array at `a` for each live descriptor. -/
def fillDscs (a : Ptr) : List Ptr → Nat → Heap → Heap
  | [], _, h => h
  | d :: ds, j, h =>
    match h.dscs d with
    | some x =>
      if x.removed = 0 then fillDscs a ds (j + 1) (h.setDscDef a j ⟨some x.uuid, some d⟩)
      else fillDscs a ds j h
    | none => fillDscs a ds j h

/-- The second characteristic loop of `BLEService::start` (`NimBLEService.cpp:123-164`): entry
`i` of the array at `a` for each live characteristic, with a descriptor array allocated and
filled when it has live descriptors. -/
def fillChrs (a : Ptr) : List Ptr → Nat → Heap → Heap
  | [], _, h => h
  | c :: cs, i, h =>
    match h.chrs c with
    | some chr =>
      if chr.removed = 0 then
        let numDscs := (chr.descriptors.filter h.dscLive).length
        let d := h.next
        let r : Option Ptr × Heap := if numDscs ≠ 0 then
            (some d, fillDscs d chr.descriptors 0 (h.newDscDefs (numDscs + 1)))
          else (none, h)
        fillChrs a cs (i + 1) (r.2.setChrDef a i ⟨some chr.uuid, some c, chr.properties, r.1⟩)
      else fillChrs a cs i h
    | none => fillChrs a cs i h

/-- The compile step of `BLEService::start` (`NimBLEService.cpp:99-169`) for the service `svc`
at `p`: the old arrays are freed, new ones allocated and filled when there are live
characteristics (the pointer is left as it was otherwise), and the type set to primary. -/
def compile (h : Heap) (p : Ptr) (svc : BLEService) : Heap :=
  let h := match svc.characteristics with
    | some a => h.freeRecord a
    | none => h
  let numChrs := (svc.chars.filter h.chrLive).length
  let h := if numChrs ≠ 0 then
      let a := h.next
      (fillChrs a svc.chars 0 (h.newChrDefs (numChrs + 1))).modSvc p fun x =>
        { x with characteristics := some a }
    else h
  h.modSvc p fun x => { x with svcType := BLE_GATT_SVC_TYPE_PRIMARY }

/-- The objects a service's record references: the service (its `m_pSvcDef` is a member) and
the `arg` of every entry of its arrays up to their terminators. -/
def recordRefs (h : Heap) (p : Ptr) : List Ptr :=
  p :: (h.readChrDefs ((h.svcs p).bind (·.characteristics))).flatMap fun e =>
    e.arg.toList ++ (h.readDscDefs e.descriptors).filterMap (·.arg)

/-- The UUID of the service at `p`. -/
def svcUuid (h : Heap) (p : Ptr) : Option UUID := (h.svcs p).map (·.uuid)

/-- The UUID of the characteristic at `c`. -/
def chrUuid (h : Heap) (c : Ptr) : Option UUID := (h.chrs c).map (·.uuid)

/-- The UUID of the descriptor at `d`. -/
def dscUuid (h : Heap) (d : Ptr) : Option UUID := (h.dscs d).map (·.uuid)

/-- The call `ble_gatts_find_dsc(svc, chr, desc, &desc->m_handle)` of `BLEServer.cpp:204`: the
descriptor at `d` gets the handle the host answers for its UUID under the service and
characteristic UUIDs `su` and `cu`, and keeps its own when the host answers nothing. -/
def findDscHandle (t : List SvcEntry) (su cu : UUID) (h : Heap) (d : Ptr) : Heap :=
  match (h.dscs d).bind fun x => Host.findDsc t su cu x.uuid with
  | some n => h.modDsc d fun x => { x with handle := n }
  | none => h

/-- The inner loop of `BLEServer.cpp:203-205` for the characteristic at `c`: each of its
descriptors, removed or not, is looked up under the service UUID `su` and its UUID. -/
def findChrDscHandles (t : List SvcEntry) (su : UUID) (h : Heap) (c : Ptr) : Heap :=
  (h.descriptors c).foldl (findDscHandle t su ((h.chrUuid c).getD 0)) h

/-- The descriptor loop of `BLEServer::start` (`BLEServer.cpp:202-206`) for the service at `p`:
every descriptor of every characteristic, removed or not, gets the handle
`ble_gatts_find_dsc` answers for its UUID path, when it answers. -/
def findDscHandles (t : List SvcEntry) (h : Heap) (p : Ptr) : Heap :=
  (h.chars p).foldl (findChrDscHandles t ((h.svcUuid p).getD 0)) h

/-- A lookup edits the descriptor's handle only. -/
theorem findDscHandle_eq (t : List SvcEntry) (su cu : UUID) (h : Heap) (d : Ptr) :
    findDscHandle t su cu h d =
      h.modDsc d fun x => { x with handle := (Host.findDsc t su cu x.uuid).getD x.handle } := by
  obtain ⟨svcs, chrs, dscs, chrDefs, dscDefs, next, freed⟩ := h
  simp only [findDscHandle, modDsc]
  cases hx : dscs d with
  | none => simp only [Option.none_bind]; congr; funext q; split <;> simp_all
  | some x =>
    cases hf : Host.findDsc t su cu x.uuid <;> simp only [Option.some_bind, hf] <;> congr <;>
      funext q <;> split <;> simp_all

/-- The service loop of `BLEServer::start` (`BLEServer.cpp:190-207`): a service not removed
gets its handle from `ble_gatts_find_svc` and is skipped when the host does not know it; the
descriptors are then looked up. -/
def findHandles (t : List SvcEntry) : List Ptr → Heap → Heap
  | [], h => h
  | p :: ps, h =>
    match h.svcs p with
    | some svc =>
      if svc.removed = 0 then
        match Host.findSvc t svc.uuid with
        | some n => findHandles t ps (findDscHandles t (h.modSvc p fun x => { x with handle := n }) p)
        | none => findHandles t ps h
      else findHandles t ps (findDscHandles t h p)
    | none => findHandles t ps h

end Heap

/-- `BLEService::isStarted` (`NimBLEService.cpp:373`): `m_pSvcDef->type > 0`. -/
def BLEService.isStarted (x : BLEService) : Bool := x.svcType > 0

namespace State

/-- The characteristic entries of the service's current record, up to the terminator. -/
def record (s : State) (p : Ptr) : List ChrDef :=
  s.heap.readChrDefs ((s.heap.svcs p).bind (·.characteristics))

/-- `BLEService::start` (`NimBLEService.cpp:90`). The fast path returns `true` when a record
exists and `m_svcChanged` is clear. Otherwise the record is compiled, and counted and added
by the host; either host call failing makes `start` return `false`. -/
def startService (s : State) (p : Ptr) : Bool × State :=
  match s.heap.svcs p with
  | none => (false, s)
  | some svc =>
    if svc.characteristics.isSome ∧ s.server.svcChanged = false then (true, s)
    else
      let s := s.withHeap (s.heap.compile p svc)
      let (rc, s) := s.call (.countCfg p)
      if rc ≠ 0 then (false, s)
      else
        let (rc, s) := s.call (.addSvcs p (s.heap.recordRefs p))
        if rc ≠ 0 then (false, s)
        else (true, { s with host := { s.host with svcDefs := s.host.svcDefs ++ [p] } })

/-- `BLEServer::start` (`BLEServer.cpp:173`). Nothing happens once started. When
`ble_gatts_start` succeeds the handles are looked up, a set `m_svcChanged` is cleared with one
`ble_svc_gatt_changed(0x0001, 0xffff)`, and the server is started. -/
def start (s : State) : State :=
  if s.server.gattsStarted then s
  else
    let (rc, s) := s.call .gattsStart
    if rc ≠ 0 then s
    else
      let s := s.registerAll
      let s := s.withHeap (Heap.findHandles s.host.table s.server.svcVec s.heap)
      let s := if s.server.svcChanged then
          ({ s with server := { s.server with svcChanged := false } }).log (.svcGattChanged 0x0001 0xffff)
        else s
      { s with server := { s.server with gattsStarted := true } }

/-- `BLEServer::getConnectedCount` (`BLEServer.cpp:258`). -/
def getConnectedCount (s : State) : Nat :=
  (s.server.connectedPeers.filter (· ≠ BLE_HS_CONN_HANDLE_NONE)).length

/-- The loop of `BLEServer::resetGATT` (`BLEServer.cpp:771-784`) over `m_svcVec`: a service
pending deletion is deleted and erased, a hidden one kept, a present one started. Returns the
vector afterwards. -/
def resetLoop : List Ptr → State → List Ptr × State
  | [], s => ([], s)
  | p :: ps, s =>
    match s.heap.svcs p with
    | some svc =>
      if svc.removed > 0 then
        if svc.removed = NIMBLE_ATT_REMOVE_DELETE then resetLoop ps (s.withHeap (s.heap.deleteService p))
        else
          let r := resetLoop ps s
          (p :: r.1, r.2)
      else
        let r := resetLoop ps (s.startService p).2
        (p :: r.1, r.2)
    | none =>
      let r := resetLoop ps s
      (p :: r.1, r.2)

/-- `BLEServer::resetGATT` (`BLEServer.cpp:761`): refused while a peer is connected. Otherwise
the host is reset (its result is not checked), its own services re-created, the services
rebuilt, and the server marked not started. -/
def resetGATT (s : State) : State :=
  if s.getConnectedCount > 0 then s
  else
    let (rc, s) := s.call .gattsReset
    let s := if rc = 0 then s.unregisterAll else s
    let s := (s.log .svcGapInit).log .svcGattInit
    let r := resetLoop s.server.svcVec s
    { r.2 with server := { r.2.server with svcVec := r.1, gattsStarted := false } }

end State

end BleGatt
