import BleGatt.Server.Rebuild
import Mathlib.Data.List.Nodup

/-!
# Who holds an object, and when it is freed

The host holds the records handed to `ble_gatts_add_svcs` until a successful
`ble_gatts_reset` (`registeredRefs`). Removing an attribute with the delete flag defers the
`delete` to the rebuild only when the attribute is live; an attribute that an earlier call
already hid is deleted at once, with no host call, so the host keeps dispatching to it
(`State.removeCharacteristic_removed`). `deleted_while_registered` is such a run.

`addCharacteristic` and `addDescriptor` test whether the child is already in the list before
appending it, so the lists of a service and of a characteristic stay free of duplicates
(`State.nodup_chars_addCharacteristic`, `State.nodup_descriptors_addDescriptor`).
`addService` appends without that test: `BLEServer::~BLEServer` (`State.destroy`) then deletes
a service added twice twice (`service_added_twice`).
-/

namespace BleGatt

/-- The objects referenced by the records handed to `ble_gatts_add_svcs` since the last
successful `ble_gatts_reset`. -/
def registeredRefs (calls : List HostCall) : List Ptr :=
  calls.foldl (fun acc c => match c with
    | .gattsReset 0 => []
    | .addSvcs _ refs _ => acc ++ refs
    | _ => acc) []

namespace State

/-- `BLEServer::~BLEServer` (`BLEServer.cpp:55`): every service of `m_svcVec` is deleted. The
callbacks and the client it also deletes are not modelled. -/
def destroy (s : State) : Heap := s.server.svcVec.foldl Heap.deleteService s.heap

/-- Deleting a characteristic that an earlier call removed frees it (after its descriptors) at
once and makes no host call. -/
theorem removeCharacteristic_removed {s : State} {p c : Ptr} {chr : BLECharacteristic}
    (hchr : s.heap.chrs c = some chr) (hr : chr.removed > 0) (hc : c ∈ s.heap.chars p) :
    (s.removeCharacteristic p c true).heap.freed =
      (s.heap.deleteCharacteristic c).freed ∧
    (s.removeCharacteristic p c true).host = s.host := by
  simp [removeCharacteristic, hchr, hr, hc]

/-- Adding a characteristic keeps the service's `m_vChars` free of duplicates. -/
theorem nodup_chars_addCharacteristic {s : State} {p c : Ptr} (h : (s.heap.chars p).Nodup) :
    ((s.addCharacteristic p c).heap.chars p).Nodup := by
  rw [addCharacteristic_chars]
  split_ifs with hc
  · exact h.append (List.nodup_singleton c) (List.disjoint_singleton.2 hc.2.2.2)
  · exact h

/-- Adding a descriptor keeps the characteristic's `m_vDescriptors` free of duplicates. -/
theorem nodup_descriptors_addDescriptor {s : State} {c d : Ptr}
    (h : (s.heap.descriptors c).Nodup) : ((s.addDescriptor c d).heap.descriptors c).Nodup := by
  rw [addDescriptor_descriptors]
  split_ifs with hd
  · exact h.append (List.nodup_singleton d) (List.disjoint_singleton.2 hd.2.2.2)
  · exact h

end State

/-! ## Two runs -/

/-- A characteristic of a started service is hidden, then deleted. -/
def hideThenDelete : State :=
  (State.init 3 10 fun _ => 0).run [.createService 0x180D, .createCharacteristic 0 0x2A37 0,
    .startService 0, .start, .removeCharacteristic 0 1 false, .removeCharacteristic 0 1 true]

/-- The characteristic is freed while the record the host holds still references it, with no
`ble_gatts_reset` in between. -/
theorem deleted_while_registered :
    Reachable hideThenDelete ∧ 1 ∈ registeredRefs hideThenDelete.host.calls ∧
      1 ∈ hideThenDelete.heap.freed :=
  ⟨(Reachable.init 3 10 _).run (by decide), by decide, by decide⟩

/-- `createService` appends the service, and the application adds it. -/
def addCreatedService : State :=
  (State.init 3 10 fun _ => 0).run [.createService 0x180D, .addService 0]

/-- The service is twice in `m_svcVec`, and the server's destructor deletes it twice. -/
theorem service_added_twice :
    Reachable addCreatedService ∧ addCreatedService.server.svcVec = [0, 0] ∧
      addCreatedService.destroy.freed.count 0 = 2 :=
  ⟨(Reachable.init 3 10 _).run (by decide), by decide, by decide⟩

end BleGatt
