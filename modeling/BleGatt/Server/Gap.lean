import BleGatt.Server.Start

/-!
# Connection events

The `BLE_GAP_EVENT_CONNECT` and `BLE_GAP_EVENT_DISCONNECT` arms of `BLEServer::handleGapEvent`
(`BLEServer.cpp:347-414`) and the readers of the connection table, `getConnectedCount`,
`getPeerDevices` and `getPeerInfo(index)` (`BLEServer.cpp:258-306`). A connect takes the first
free slot of `m_connectedPeers`; a disconnect frees the slot holding the handle and, when the
services changed, attempts the rebuild. Both loops stop at their first match, which is
`List.replace`.
`getPeerInfo(index)` counts live entries but reads the table at the count, so it answers for
the slot at position `index` (`getPeerInfo_eq`), which is the `index`-th peer only when no free
slot comes before it.

The host opens a connection before it reports it and closes it before reporting the
disconnect, so `ble_gap_conn_find` succeeds exactly for the handles in `Host.conns`.
-/

namespace BleGatt

namespace State

/-- `BLEServer::getPeerDevices` (`BLEServer.cpp:273`). -/
def getPeerDevices (s : State) : List Nat :=
  s.server.connectedPeers.filter (· ≠ BLE_HS_CONN_HANDLE_NONE)

/-- `BLEServer::getPeerInfoByHandle` (`BLEServer.cpp:327`): the connection's information when
`ble_gap_conn_find` knows the handle (`some` of it here), an empty `BLEConnInfo` (`none`)
otherwise. -/
def getPeerInfoByHandle (s : State) (connHandle : Nat) : Option Nat :=
  if connHandle ∈ s.host.conns then some connHandle else none

/-- The loop of `getPeerInfo(index)` (`BLEServer.cpp:293-303`) over the rest `l` of the table,
with `count` live entries seen: at the live entry number `index` it answers for
`m_connectedPeers[count]`. The access is in range, as `count ≤ index` is below the table's
size; the default is never read. -/
def peerInfoLoop (s : State) (index : Nat) : List Nat → Nat → Option Nat
  | [], _ => none
  | peer :: rest, count =>
    if peer ≠ BLE_HS_CONN_HANDLE_NONE then
      if count = index then
        s.getPeerInfoByHandle (s.server.connectedPeers.getD count BLE_HS_CONN_HANDLE_NONE)
      else peerInfoLoop s index rest (count + 1)
    else peerInfoLoop s index rest count

/-- `BLEServer::getPeerInfo(uint8_t index)` (`BLEServer.cpp:289`). -/
def getPeerInfo (s : State) (index : Nat) : Option Nat :=
  if index ≥ s.server.connectedPeers.length then none
  else s.peerInfoLoop index s.server.connectedPeers 0

/-- From `count ≤ index` live entries seen, the loop answers for the table's entry at `index`
when the rest holds live entry number `index`, and is empty otherwise. -/
theorem peerInfoLoop_eq (s : State) (index : Nat) : ∀ (l : List Nat) (count : Nat),
    count ≤ index → s.peerInfoLoop index l count =
      if index < count + (l.filter (· ≠ BLE_HS_CONN_HANDLE_NONE)).length then
        s.getPeerInfoByHandle (s.server.connectedPeers.getD index BLE_HS_CONN_HANDLE_NONE)
      else none
  | [], count, hc => by rw [if_neg (by simpa using hc)]; rfl
  | peer :: rest, count, hc => by
    by_cases hp : peer = BLE_HS_CONN_HANDLE_NONE
    · simp [peerInfoLoop, hp, peerInfoLoop_eq s index rest count hc]
    · by_cases hi : count = index
      · subst hi; simp [peerInfoLoop, hp]
      · have ih := peerInfoLoop_eq s index rest (count + 1) (by omega)
        simp only [peerInfoLoop, ne_eq, hp, not_false_eq_true, if_true, hi, if_false, ih,
          List.filter_cons, decide_True, List.length_cons]
        congr 1
        simp only [eq_iff_iff]; omega

/-- `getPeerInfo(index)` answers for the table's entry at position `index` when `index` is below
the number of live entries, and is empty otherwise. It agrees with `getPeerDevices()[index]`
exactly when no free slot comes before that peer. -/
theorem getPeerInfo_eq (s : State) (index : Nat) :
    s.getPeerInfo index = if index < s.getConnectedCount then
      s.getPeerInfoByHandle (s.server.connectedPeers.getD index BLE_HS_CONN_HANDLE_NONE)
    else none := by
  have hle : s.getConnectedCount ≤ s.server.connectedPeers.length := List.length_filter_le _ _
  unfold getPeerInfo
  by_cases hlt : index < s.getConnectedCount
  · rw [if_neg (by omega), if_pos hlt, peerInfoLoop_eq s index _ 0 (Nat.zero_le _), Nat.zero_add]
    exact if_pos hlt
  · rw [if_neg hlt]
    split_ifs
    · rfl
    · rw [peerInfoLoop_eq s index _ 0 (Nat.zero_le _), Nat.zero_add]; exact if_neg hlt

/-- The `BLE_GAP_EVENT_CONNECT` arm (`BLEServer.cpp:347`): on success, and when the host knows
the connection, the handle takes the first free slot. -/
def handleConnect (s : State) (status connHandle : Nat) : State :=
  if status ≠ 0 then s
  else if connHandle ∉ s.host.conns then s
  else { s with server := { s.server with
    connectedPeers := s.server.connectedPeers.replace BLE_HS_CONN_HANDLE_NONE connHandle } }

@[simp] theorem handleConnect_host (s : State) (status connHandle : Nat) :
    (s.handleConnect status connHandle).host = s.host := by
  unfold handleConnect; split_ifs <;> rfl

/-- The slot loop of the `BLE_GAP_EVENT_DISCONNECT` arm (`BLEServer.cpp:388-393`): the slot
holding the handle becomes `BLE_HS_CONN_HANDLE_NONE`. -/
def releaseSlot (s : State) (connHandle : Nat) : State :=
  { s with server := { s.server with
    connectedPeers := s.server.connectedPeers.replace connHandle BLE_HS_CONN_HANDLE_NONE } }

/-- The `BLE_GAP_EVENT_DISCONNECT` arm (`BLEServer.cpp:373`): the slot is released, then the
rebuild is attempted when the services changed. `BLEDevice::onReset`, called for the
host-reset reasons, is not part of the repository's sources and touches none of the modelled
state. -/
def handleDisconnect (s : State) (connHandle : Nat) : State :=
  let s := s.releaseSlot connHandle
  if s.server.svcChanged then s.resetGATT else s

/-- The host opens a connection (on success) and reports it. -/
def openConn (s : State) (status connHandle : Nat) : State :=
  if status = 0 then { s with host := { s.host with conns := s.host.conns ++ [connHandle] } } else s

/-- The host closes a connection. -/
def closeConn (s : State) (connHandle : Nat) : State :=
  { s with host := { s.host with conns := s.host.conns.erase connHandle } }

/-- A connection event: the host's side, then the handler. -/
def connect (s : State) (status connHandle : Nat) : State :=
  (s.openConn status connHandle).handleConnect status connHandle

/-- A disconnection event: the host's side, then the handler. -/
def disconnect (s : State) (connHandle : Nat) : State :=
  (s.closeConn connHandle).handleDisconnect connHandle

end State

end BleGatt
