import BleGatt.Server.Model

/-!
# What the host does with the registration records

The NimBLE host is not part of the repository; this module models the part of it whose
effect the library observes. `ble_gatts_start` walks the records handed to
`ble_gatts_add_svcs`, in order, and numbers their attributes one after another: a service
declaration, then for each characteristic its declaration and value handles, a client
configuration descriptor when the characteristic notifies or indicates, and its descriptors.
It writes each value handle through the record's `val_handle` pointer (`Host.writeValHandles`).
`ble_gatts_find_svc` and `ble_gatts_find_dsc` look a handle up by a UUID path and answer with
the first match (`findSvc`, `findDsc`). `ble_gatts_reset` forgets the registered services and
restarts the numbering.
-/

namespace BleGatt

namespace Heap

/-- The characteristic entries of the array at `a` up to its terminator. -/
def readChrDefs (h : Heap) (a : Option Ptr) : List ChrDef :=
  match a with
  | none => []
  | some a => ((h.chrDefs a).getD []).takeWhile (·.uuid.isSome)

/-- The descriptor entries of the array at `a` up to its terminator. -/
def readDscDefs (h : Heap) (a : Option Ptr) : List DscDef :=
  match a with
  | none => []
  | some a => ((h.dscDefs a).getD []).takeWhile (·.uuid.isSome)

end Heap

/-- The attributes `ble_gatts_find_dsc` compares after a characteristic's value, up to the next
characteristic: the client configuration descriptor the host adds (UUID `0x2902`), then the
registered descriptors. -/
def ChrEntry.dscAttrs (c : ChrEntry) : List DscEntry :=
  (c.cccd.map fun h => (⟨none, 0x2902, h⟩ : DscEntry)).toList ++ c.dscs

namespace Host

/-- Number the descriptors of a characteristic from handle `n`; returns the next free handle. -/
def registerDscs : Nat → List DscDef → List DscEntry × Nat
  | n, [] => ([], n)
  | n, d :: ds =>
    let r := registerDscs (n + 1) ds
    (⟨d.arg, d.uuid.getD 0, n⟩ :: r.1, r.2)

/-- Number the characteristics of a service from handle `n`. -/
def registerChrs (h : Heap) : Nat → List ChrDef → List ChrEntry × Nat
  | n, [] => ([], n)
  | n, c :: cs =>
    let cccd := c.flags &&& BLE_GATT_CHR_F_NOTIFY_INDICATE ≠ 0
    let ds := registerDscs (if cccd then n + 3 else n + 2) (h.readDscDefs c.descriptors)
    let r := registerChrs h ds.2 cs
    (⟨c.arg, c.uuid.getD 0, n, n + 1, if cccd then some (n + 2) else none, ds.1⟩ :: r.1, r.2)

/-- Number the services whose records were added, from handle `n`. -/
def registerSvcs (h : Heap) : Nat → List Ptr → List SvcEntry × Nat
  | n, [] => ([], n)
  | n, p :: ps =>
    match h.svcs p with
    | none => registerSvcs h n ps
    | some svc =>
      let cs := registerChrs h (n + 1) (h.readChrDefs svc.characteristics)
      let r := registerSvcs h cs.2 ps
      (⟨p, svc.uuid, n, cs.1⟩ :: r.1, r.2)

/-- The registered characteristics of a table, in order. -/
def chrEntries (t : List SvcEntry) : List ChrEntry := t.flatMap (·.chrs)

/-- Write a characteristic's value handle through its `val_handle` pointer. -/
def writeValHandle (h : Heap) (c : ChrEntry) : Heap :=
  match c.arg with
  | some p => h.modChr p fun x => { x with handle := c.valHandle }
  | none => h

/-- Write each characteristic's value handle, in table order. -/
def writeValHandles (h : Heap) (t : List SvcEntry) : Heap := (chrEntries t).foldl writeValHandle h

/-- `ble_gatts_find_svc`: the handle of the first registered service with the UUID. -/
def findSvc (t : List SvcEntry) (uuid : UUID) : Option Nat :=
  (t.find? (·.uuid == uuid)).map (·.handle)

/-- `ble_gatts_find_dsc`: in the first registered service with the service UUID, the first
characteristic with the characteristic UUID; then the first attribute after its value with the
descriptor UUID, up to the next characteristic. The host's own client configuration
descriptor (UUID `0x2902`) is among them. -/
def findDsc (t : List SvcEntry) (svcUuid chrUuid dscUuid : UUID) : Option Nat := do
  let e ← t.find? (·.uuid == svcUuid)
  let c ← e.chrs.find? (·.uuid == chrUuid)
  (c.dscAttrs.find? (·.uuid == dscUuid)).map (·.handle)

end Host

namespace State

/-- The host's side of a successful `ble_gatts_start`: the added records are registered after
the ones already registered, and the value handles are written. -/
def registerAll (s : State) : State :=
  let r := Host.registerSvcs s.heap s.host.nextHandle s.host.svcDefs
  { s with
    heap := Host.writeValHandles s.heap r.1
    host := { s.host with table := s.host.table ++ r.1, nextHandle := r.2, svcDefs := [] } }

/-- The host's side of a successful `ble_gatts_reset`: nothing stays registered. -/
def unregisterAll (s : State) : State :=
  { s with host := { s.host with table := [], svcDefs := [], nextHandle := s.host.base } }

@[simp] theorem registerAll_server (s : State) : s.registerAll.server = s.server := rfl
@[simp] theorem registerAll_conns (s : State) : s.registerAll.host.conns = s.host.conns := rfl
@[simp] theorem unregisterAll_server (s : State) : s.unregisterAll.server = s.server := rfl
@[simp] theorem unregisterAll_heap (s : State) : s.unregisterAll.heap = s.heap := rfl
@[simp] theorem unregisterAll_conns (s : State) : s.unregisterAll.host.conns = s.host.conns := rfl

end State

end BleGatt
