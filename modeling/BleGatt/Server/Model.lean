import Mathlib.Data.List.Basic

/-!
# The local attribute tree, the host, and the server state

The objects of the GATT server (`BLEService`, `BLECharacteristic`, `BLEDescriptor`) live on a
heap and point at each other: a service holds the pointers of its characteristics
(`m_vChars`), a characteristic those of its descriptors (`m_vDescriptors`) and of its service
(`m_pService`), a descriptor that of its characteristic. `BLEService::start` also allocates the
registration arrays (`ble_gatt_chr_def[]`, `ble_gatt_dsc_def[]`) that it hands to the host.

The heap keeps an object's fields after `delete`: a freed pointer is recorded in `freed`, and a
later read of it sees what the object last held. This makes every function of the model total,
and a use after free or a second `delete` is visible in `freed` rather than hidden.

`Host` is the NimBLE host as far as the library observes it: the service records handed to
`ble_gatts_add_svcs` and not yet registered, the attribute table that `ble_gatts_start` built
(with the handles it assigned), the open connections, and the list of calls the library made,
each with the result the host returned. Results of fallible calls are read from `results`,
indexed by the number of calls made before; every sequence of results is a choice of it.
-/

namespace BleGatt

/-- A pointer to a heap object or array. -/
abbrev Ptr := Nat

/-- A `BLEUUID`, compared with `==`; a 16-bit UUID is its value. -/
abbrev UUID := Nat

/-- `NIMBLE_ATT_REMOVE_HIDE` (`BLEServer.h:36`). -/
def NIMBLE_ATT_REMOVE_HIDE : Nat := 1

/-- `NIMBLE_ATT_REMOVE_DELETE` (`BLEServer.h:37`). -/
def NIMBLE_ATT_REMOVE_DELETE : Nat := 2

/-- `BLE_HS_CONN_HANDLE_NONE`, the host's "no connection" handle. -/
def BLE_HS_CONN_HANDLE_NONE : Nat := 0xffff

/-- `BLE_GATT_SVC_TYPE_PRIMARY`. -/
def BLE_GATT_SVC_TYPE_PRIMARY : Nat := 1

/-- `BLE_GATT_CHR_F_NOTIFY | BLE_GATT_CHR_F_INDICATE`: the flags for which the host adds a
client configuration descriptor to a characteristic. -/
def BLE_GATT_CHR_F_NOTIFY_INDICATE : Nat := 0x0030

/-! ## Objects and registration arrays -/

/-- The fields of `BLEDescriptor` that the tree operations and the registration read. -/
structure BLEDescriptor where
  uuid : UUID
  handle : Nat
  /-- `m_removed`: 0, `NIMBLE_ATT_REMOVE_HIDE` or `NIMBLE_ATT_REMOVE_DELETE`. -/
  removed : Nat
  /-- `m_pCharacteristic`. -/
  characteristic : Option Ptr
deriving DecidableEq, Repr

/-- The fields of `BLECharacteristic` that the tree operations and the registration read. -/
structure BLECharacteristic where
  uuid : UUID
  handle : Nat
  removed : Nat
  /-- `m_properties`, copied into the record's `flags`. -/
  properties : Nat
  /-- `m_pService`. -/
  service : Option Ptr
  /-- `m_vDescriptors`. -/
  descriptors : List Ptr
deriving DecidableEq, Repr

/-- An entry of `ble_gatt_chr_def[]`. The value-initialised entry (null UUID) ends the array;
`arg` is both the access-callback argument and the target of `val_handle`. -/
structure ChrDef where
  uuid : Option UUID
  arg : Option Ptr
  flags : Nat
  descriptors : Option Ptr
deriving DecidableEq, Repr

/-- An entry of `ble_gatt_dsc_def[]`; the null UUID ends the array. -/
structure DscDef where
  uuid : Option UUID
  arg : Option Ptr
deriving DecidableEq, Repr

/-- The terminating entry `{}` of a characteristic array. -/
def ChrDef.zero : ChrDef := ⟨none, none, 0, none⟩

/-- The terminating entry `{}` of a descriptor array. -/
def DscDef.zero : DscDef := ⟨none, none⟩

/-- The fields of `BLEService` that the tree operations and the registration read. -/
structure BLEService where
  uuid : UUID
  handle : Nat
  removed : Nat
  /-- `m_vChars`. -/
  chars : List Ptr
  /-- `m_pSvcDef[0].characteristics`. -/
  characteristics : Option Ptr
  /-- `m_pSvcDef[0].type`; `isStarted()` is `type > 0`. -/
  svcType : Nat
deriving DecidableEq, Repr

/-! ## The heap -/

/-- Objects and arrays by pointer, the next fresh pointer, and the pointers freed so far. -/
structure Heap where
  svcs : Ptr → Option BLEService
  chrs : Ptr → Option BLECharacteristic
  dscs : Ptr → Option BLEDescriptor
  chrDefs : Ptr → Option (List ChrDef)
  dscDefs : Ptr → Option (List DscDef)
  next : Ptr
  freed : List Ptr

namespace Heap

/-- The empty heap. -/
def empty : Heap := ⟨fun _ => none, fun _ => none, fun _ => none, fun _ => none, fun _ => none, 0, []⟩

/-- Apply `f` to the service at `p`. -/
def modSvc (h : Heap) (p : Ptr) (f : BLEService → BLEService) : Heap :=
  { h with svcs := fun q => if q = p then (h.svcs q).map f else h.svcs q }

/-- Apply `f` to the characteristic at `p`. -/
def modChr (h : Heap) (p : Ptr) (f : BLECharacteristic → BLECharacteristic) : Heap :=
  { h with chrs := fun q => if q = p then (h.chrs q).map f else h.chrs q }

/-- Apply `f` to the descriptor at `p`. -/
def modDsc (h : Heap) (p : Ptr) (f : BLEDescriptor → BLEDescriptor) : Heap :=
  { h with dscs := fun q => if q = p then (h.dscs q).map f else h.dscs q }

/-- `new BLEService(...)`: the object at the next fresh pointer. -/
def newSvc (h : Heap) (x : BLEService) : Heap :=
  { h with svcs := fun q => if q = h.next then some x else h.svcs q, next := h.next + 1 }

/-- `new BLECharacteristic(...)`. -/
def newChr (h : Heap) (x : BLECharacteristic) : Heap :=
  { h with chrs := fun q => if q = h.next then some x else h.chrs q, next := h.next + 1 }

/-- `new BLEDescriptor(...)`. -/
def newDsc (h : Heap) (x : BLEDescriptor) : Heap :=
  { h with dscs := fun q => if q = h.next then some x else h.dscs q, next := h.next + 1 }

/-- `new ble_gatt_chr_def[n]{}`. -/
def newChrDefs (h : Heap) (n : Nat) : Heap :=
  { h with chrDefs := fun q => if q = h.next then some (List.replicate n ChrDef.zero)
      else h.chrDefs q, next := h.next + 1 }

/-- `new ble_gatt_dsc_def[n]{}`. -/
def newDscDefs (h : Heap) (n : Nat) : Heap :=
  { h with dscDefs := fun q => if q = h.next then some (List.replicate n DscDef.zero)
      else h.dscDefs q, next := h.next + 1 }

/-- Store entry `i` of the characteristic array at `a`. -/
def setChrDef (h : Heap) (a i : Nat) (e : ChrDef) : Heap :=
  { h with chrDefs := fun q => if q = a then (h.chrDefs q).map (·.set i e) else h.chrDefs q }

/-- Store entry `i` of the descriptor array at `a`. -/
def setDscDef (h : Heap) (a i : Nat) (e : DscDef) : Heap :=
  { h with dscDefs := fun q => if q = a then (h.dscDefs q).map (·.set i e) else h.dscDefs q }

/-- `delete` or `delete[]`: the pointer is recorded as freed; the contents stay readable. -/
def free (h : Heap) (p : Ptr) : Heap := { h with freed := h.freed ++ [p] }

@[simp] theorem modSvc_svcs (h : Heap) (p q : Ptr) (f : BLEService → BLEService) :
    (h.modSvc p f).svcs q = if q = p then (h.svcs q).map f else h.svcs q := rfl
@[simp] theorem modChr_chrs (h : Heap) (p q : Ptr) (f : BLECharacteristic → BLECharacteristic) :
    (h.modChr p f).chrs q = if q = p then (h.chrs q).map f else h.chrs q := rfl
@[simp] theorem modDsc_dscs (h : Heap) (p q : Ptr) (f : BLEDescriptor → BLEDescriptor) :
    (h.modDsc p f).dscs q = if q = p then (h.dscs q).map f else h.dscs q := rfl

@[simp] theorem modSvc_chrs (h : Heap) (p : Ptr) (f) : (h.modSvc p f).chrs = h.chrs := rfl
@[simp] theorem modSvc_dscs (h : Heap) (p : Ptr) (f) : (h.modSvc p f).dscs = h.dscs := rfl
@[simp] theorem modSvc_next (h : Heap) (p : Ptr) (f) : (h.modSvc p f).next = h.next := rfl
@[simp] theorem modSvc_freed (h : Heap) (p : Ptr) (f) : (h.modSvc p f).freed = h.freed := rfl
@[simp] theorem modChr_svcs (h : Heap) (p : Ptr) (f) : (h.modChr p f).svcs = h.svcs := rfl
@[simp] theorem modChr_dscs (h : Heap) (p : Ptr) (f) : (h.modChr p f).dscs = h.dscs := rfl
@[simp] theorem modChr_next (h : Heap) (p : Ptr) (f) : (h.modChr p f).next = h.next := rfl
@[simp] theorem modChr_freed (h : Heap) (p : Ptr) (f) : (h.modChr p f).freed = h.freed := rfl
@[simp] theorem modDsc_svcs (h : Heap) (p : Ptr) (f) : (h.modDsc p f).svcs = h.svcs := rfl
@[simp] theorem modDsc_chrs (h : Heap) (p : Ptr) (f) : (h.modDsc p f).chrs = h.chrs := rfl
@[simp] theorem modDsc_next (h : Heap) (p : Ptr) (f) : (h.modDsc p f).next = h.next := rfl
@[simp] theorem modDsc_freed (h : Heap) (p : Ptr) (f) : (h.modDsc p f).freed = h.freed := rfl

@[simp] theorem free_svcs (h : Heap) (p : Ptr) : (h.free p).svcs = h.svcs := rfl
@[simp] theorem free_chrs (h : Heap) (p : Ptr) : (h.free p).chrs = h.chrs := rfl
@[simp] theorem free_dscs (h : Heap) (p : Ptr) : (h.free p).dscs = h.dscs := rfl
@[simp] theorem free_next (h : Heap) (p : Ptr) : (h.free p).next = h.next := rfl
@[simp] theorem free_freed (h : Heap) (p : Ptr) : (h.free p).freed = h.freed ++ [p] := rfl
@[simp] theorem free_chrDefs (h : Heap) (p : Ptr) : (h.free p).chrDefs = h.chrDefs := rfl

@[simp] theorem newSvc_svcs (h : Heap) (x : BLEService) (q : Ptr) :
    (h.newSvc x).svcs q = if q = h.next then some x else h.svcs q := rfl
@[simp] theorem newSvc_chrs (h : Heap) (x) : (h.newSvc x).chrs = h.chrs := rfl
@[simp] theorem newSvc_dscs (h : Heap) (x) : (h.newSvc x).dscs = h.dscs := rfl
@[simp] theorem newSvc_next (h : Heap) (x) : (h.newSvc x).next = h.next + 1 := rfl
@[simp] theorem newChr_chrs (h : Heap) (x : BLECharacteristic) (q : Ptr) :
    (h.newChr x).chrs q = if q = h.next then some x else h.chrs q := rfl
@[simp] theorem newChr_svcs (h : Heap) (x) : (h.newChr x).svcs = h.svcs := rfl
@[simp] theorem newChr_dscs (h : Heap) (x) : (h.newChr x).dscs = h.dscs := rfl
@[simp] theorem newChr_next (h : Heap) (x) : (h.newChr x).next = h.next + 1 := rfl
@[simp] theorem newDsc_dscs (h : Heap) (x : BLEDescriptor) (q : Ptr) :
    (h.newDsc x).dscs q = if q = h.next then some x else h.dscs q := rfl
@[simp] theorem newDsc_svcs (h : Heap) (x) : (h.newDsc x).svcs = h.svcs := rfl
@[simp] theorem newDsc_chrs (h : Heap) (x) : (h.newDsc x).chrs = h.chrs := rfl
@[simp] theorem newDsc_next (h : Heap) (x) : (h.newDsc x).next = h.next + 1 := rfl

@[simp] theorem setChrDef_svcs (h : Heap) (a i e) : (h.setChrDef a i e).svcs = h.svcs := rfl
@[simp] theorem setChrDef_chrs (h : Heap) (a i e) : (h.setChrDef a i e).chrs = h.chrs := rfl
@[simp] theorem setChrDef_dscs (h : Heap) (a i e) : (h.setChrDef a i e).dscs = h.dscs := rfl
@[simp] theorem setChrDef_next (h : Heap) (a i e) : (h.setChrDef a i e).next = h.next := rfl
@[simp] theorem setChrDef_freed (h : Heap) (a i e) : (h.setChrDef a i e).freed = h.freed := rfl
@[simp] theorem setDscDef_svcs (h : Heap) (a i e) : (h.setDscDef a i e).svcs = h.svcs := rfl
@[simp] theorem setDscDef_chrs (h : Heap) (a i e) : (h.setDscDef a i e).chrs = h.chrs := rfl
@[simp] theorem setDscDef_dscs (h : Heap) (a i e) : (h.setDscDef a i e).dscs = h.dscs := rfl
@[simp] theorem setDscDef_next (h : Heap) (a i e) : (h.setDscDef a i e).next = h.next := rfl
@[simp] theorem setDscDef_freed (h : Heap) (a i e) : (h.setDscDef a i e).freed = h.freed := rfl
@[simp] theorem newChrDefs_svcs (h : Heap) (n) : (h.newChrDefs n).svcs = h.svcs := rfl
@[simp] theorem newChrDefs_chrs (h : Heap) (n) : (h.newChrDefs n).chrs = h.chrs := rfl
@[simp] theorem newChrDefs_dscs (h : Heap) (n) : (h.newChrDefs n).dscs = h.dscs := rfl
@[simp] theorem newChrDefs_next (h : Heap) (n) : (h.newChrDefs n).next = h.next + 1 := rfl
@[simp] theorem newChrDefs_freed (h : Heap) (n) : (h.newChrDefs n).freed = h.freed := rfl
@[simp] theorem newDscDefs_svcs (h : Heap) (n) : (h.newDscDefs n).svcs = h.svcs := rfl
@[simp] theorem newDscDefs_chrs (h : Heap) (n) : (h.newDscDefs n).chrs = h.chrs := rfl
@[simp] theorem newDscDefs_dscs (h : Heap) (n) : (h.newDscDefs n).dscs = h.dscs := rfl
@[simp] theorem newDscDefs_next (h : Heap) (n) : (h.newDscDefs n).next = h.next + 1 := rfl
@[simp] theorem newDscDefs_freed (h : Heap) (n) : (h.newDscDefs n).freed = h.freed := rfl

end Heap

/-! ## The host -/

/-- A registered descriptor: its access-callback argument, UUID and handle. -/
structure DscEntry where
  arg : Option Ptr
  uuid : UUID
  handle : Nat
deriving DecidableEq, Repr

/-- A registered characteristic: the argument its value handle was written to, its UUID, its
declaration and value handles, the client configuration descriptor's handle (when the flags
ask for one) and its descriptors. -/
structure ChrEntry where
  arg : Option Ptr
  uuid : UUID
  defHandle : Nat
  valHandle : Nat
  cccd : Option Nat
  dscs : List DscEntry
deriving DecidableEq, Repr

/-- A registered service: the service whose record was added, its UUID, handle and
characteristics. -/
structure SvcEntry where
  svc : Ptr
  uuid : UUID
  handle : Nat
  chrs : List ChrEntry
deriving DecidableEq, Repr

/-- A call of the library into the host, with the result the host returned where the call
has one. `addSvcs` lists the objects the record it hands over references. -/
inductive HostCall
  | gattsStart (rc : Nat)
  | gattsReset (rc : Nat)
  | countCfg (svc : Ptr) (rc : Nat)
  | addSvcs (svc : Ptr) (refs : List Ptr) (rc : Nat)
  | svcSetVisibility (handle : Nat) (rc : Nat)
  | svcGattChanged (startHandle endHandle : Nat)
  | svcGapInit
  | svcGattInit
deriving DecidableEq, Repr

/-- The host as the library observes it. `base` is the first handle the application's
services get after the host's own GAP and GATT services. -/
structure Host where
  /-- Services handed to `ble_gatts_add_svcs` and not yet registered. -/
  svcDefs : List Ptr
  /-- The attribute table of the registered services. -/
  table : List SvcEntry
  /-- The next handle `ble_gatts_start` assigns. -/
  nextHandle : Nat
  base : Nat
  /-- Open connections. -/
  conns : List Nat
  calls : List HostCall
  results : Nat → Nat

/-! ## The server and the whole state -/

/-- The fields of `BLEServer` the modelled functions read (`BLEServer.h:116-122`). -/
structure BLEServer where
  gattsStarted : Bool
  svcChanged : Bool
  /-- `m_svcVec`. -/
  svcVec : List Ptr
  /-- `m_connectedPeers`, an array of `CONFIG_BT_NIMBLE_MAX_CONNECTIONS` handles. -/
  connectedPeers : List Nat
deriving DecidableEq, Repr

/-- The server singleton, its heap and the host. -/
structure State where
  server : BLEServer
  heap : Heap
  host : Host

namespace State

/-- Make a fallible host call: the result is the oracle's answer at this point of the run, and
the call is recorded with it. -/
def call (s : State) (c : Nat → HostCall) : Nat × State :=
  let rc := s.host.results s.host.calls.length
  (rc, { s with host := { s.host with calls := s.host.calls ++ [c rc] } })

/-- Record a host call without a result. -/
def log (s : State) (c : HostCall) : State :=
  { s with host := { s.host with calls := s.host.calls ++ [c] } }

/-- Replace the heap. -/
def withHeap (s : State) (h : Heap) : State := { s with heap := h }

/-- Replace the server's service vector. -/
def withSvcVec (s : State) (v : List Ptr) : State := { s with server := { s.server with svcVec := v } }

@[simp] theorem call_server (s : State) (c) : (s.call c).2.server = s.server := rfl
@[simp] theorem call_heap (s : State) (c) : (s.call c).2.heap = s.heap := rfl
@[simp] theorem call_conns (s : State) (c) : (s.call c).2.host.conns = s.host.conns := rfl
@[simp] theorem log_server (s : State) (c) : (s.log c).server = s.server := rfl
@[simp] theorem log_heap (s : State) (c) : (s.log c).heap = s.heap := rfl
@[simp] theorem log_conns (s : State) (c) : (s.log c).host.conns = s.host.conns := rfl
@[simp] theorem withHeap_server (s : State) (h) : (s.withHeap h).server = s.server := rfl
@[simp] theorem withHeap_heap (s : State) (h) : (s.withHeap h).heap = h := rfl
@[simp] theorem withHeap_host (s : State) (h) : (s.withHeap h).host = s.host := rfl
@[simp] theorem withSvcVec_server (s : State) (v) :
    (s.withSvcVec v).server = { s.server with svcVec := v } := rfl
@[simp] theorem withSvcVec_heap (s : State) (v) : (s.withSvcVec v).heap = s.heap := rfl
@[simp] theorem withSvcVec_host (s : State) (v) : (s.withSvcVec v).host = s.host := rfl

end State

end BleGatt
