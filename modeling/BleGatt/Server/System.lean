import BleGatt.Server.Gap

/-!
# The server as a transition system

An `Op` is one call of the application into the server's public API (the tree operations,
`BLEService::start`, `BLEServer::start`, and `new` of a service, characteristic or descriptor
by the application), or one connection event the host delivers. `State.step` runs it.

`Op.enabled` is what the callers promise: the application passes pointers to objects that exist
and that it has not deleted, and the host reports a connection only with a handle that is not
the `BLE_HS_CONN_HANDLE_NONE` sentinel and not already open, while fewer than
`CONFIG_BT_NIMBLE_MAX_CONNECTIONS` (the size of `m_connectedPeers`) are open, and a
disconnection only of an open handle. `Reachable` is every state a run of enabled operations
reaches from a fresh server, for every size of the table, every first handle and every
sequence of host results.
-/

namespace BleGatt

/-- An application call or a host event. -/
inductive Op
  | createService (uuid : UUID)
  | newService (uuid : UUID)
  | addService (svc : Ptr)
  | removeService (svc : Ptr) (deleteSvc : Bool)
  | createCharacteristic (svc : Ptr) (uuid : UUID) (properties : Nat)
  | newCharacteristic (uuid : UUID) (properties : Nat)
  | addCharacteristic (svc chr : Ptr)
  | removeCharacteristic (svc chr : Ptr) (deleteChr : Bool)
  | createDescriptor (chr : Ptr) (uuid : UUID)
  | create2904 (chr : Ptr)
  | newDescriptor (uuid : UUID)
  | addDescriptor (chr dsc : Ptr)
  | removeDescriptor (chr dsc : Ptr) (deleteDsc : Bool)
  | startService (svc : Ptr)
  | start
  | connect (status connHandle : Nat)
  | disconnect (connHandle : Nat)
deriving DecidableEq, Repr

namespace State

/-- A fresh server (`BLEServer::BLEServer`, `BLEServer.cpp:43`): not started, no services, every
slot of the table `BLE_HS_CONN_HANDLE_NONE`; an empty heap; a host with nothing registered. -/
def init (maxConnections base : Nat) (results : Nat → Nat) : State :=
  { server := ⟨false, false, [], List.replicate maxConnections BLE_HS_CONN_HANDLE_NONE⟩
    heap := Heap.empty
    host := ⟨[], [], base, base, [], [], results⟩ }

/-- Run one operation. -/
def step (s : State) : Op → State
  | .createService u => (s.createService u).2
  | .newService u => (s.newService u).2
  | .addService p => s.addService p
  | .removeService p del => s.removeService p del
  | .createCharacteristic p u props => (s.createCharacteristic p u props).2
  | .newCharacteristic u props => (s.newCharacteristic u props none).2
  | .addCharacteristic p c => s.addCharacteristic p c
  | .removeCharacteristic p c del => s.removeCharacteristic p c del
  | .createDescriptor c u => (s.createDescriptor c u).2
  | .create2904 c => (s.create2904 c).2
  | .newDescriptor u => (s.newDescriptor u none).2
  | .addDescriptor c d => s.addDescriptor c d
  | .removeDescriptor c d del => s.removeDescriptor c d del
  | .startService p => (s.startService p).2
  | .start => s.start
  | .connect status h => s.connect status h
  | .disconnect h => s.disconnect h

/-- The service at `p` exists and was not deleted. -/
def svcOk (s : State) (p : Ptr) : Bool := (s.heap.svcs p).isSome && !s.heap.freed.contains p

/-- The characteristic at `c` exists and was not deleted. -/
def chrOk (s : State) (c : Ptr) : Bool := (s.heap.chrs c).isSome && !s.heap.freed.contains c

/-- The descriptor at `d` exists and was not deleted. -/
def dscOk (s : State) (d : Ptr) : Bool := (s.heap.dscs d).isSome && !s.heap.freed.contains d

/-- Run the operations in order. -/
def run (s : State) (ops : List Op) : State := ops.foldl step s

end State

open State in
/-- What the callers of an operation promise. -/
def Op.enabled (s : State) : Op → Bool
  | .addService p | .removeService p _ | .createCharacteristic p _ _ | .startService p => s.svcOk p
  | .addCharacteristic p c | .removeCharacteristic p c _ => s.svcOk p && s.chrOk c
  | .createDescriptor c _ | .create2904 c => s.chrOk c
  | .addDescriptor c d | .removeDescriptor c d _ => s.chrOk c && s.dscOk d
  | .connect status h => status ≠ 0 ||
      (h ≠ BLE_HS_CONN_HANDLE_NONE && !s.host.conns.contains h &&
        decide (s.host.conns.length < s.server.connectedPeers.length))
  | .disconnect h => s.host.conns.contains h
  | _ => true

/-- The states a run of enabled operations reaches from a fresh server. -/
inductive Reachable : State → Prop
  | init (maxConnections base : Nat) (results : Nat → Nat) :
      Reachable (State.init maxConnections base results)
  | step {s : State} {op : Op} : Reachable s → op.enabled s = true → Reachable (s.step op)

namespace State

/-- Every operation of the list is enabled where it runs. -/
def runEnabled : State → List Op → Bool
  | _, [] => true
  | s, op :: ops => op.enabled s && runEnabled (s.step op) ops

end State

/-- A run of enabled operations from a reachable state ends in a reachable state. -/
theorem Reachable.run {s : State} (hs : Reachable s) :
    ∀ {ops : List Op}, s.runEnabled ops = true → Reachable (s.run ops)
  | [], _ => hs
  | op :: ops, h => by
    simp only [State.runEnabled, Bool.and_eq_true] at h
    exact (hs.step h.1).run h.2

end BleGatt
