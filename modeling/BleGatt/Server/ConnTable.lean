import BleGatt.Server.System
import Mathlib.Data.List.Perm.Basic

/-!
# The connection table

`m_connectedPeers` is a fixed array; a connect writes the new handle into the first
`BLE_HS_CONN_HANDLE_NONE` slot and a disconnect writes the sentinel back into the slot of the
handle, in any order, so the table has holes wherever earlier peers left.
`ConnTable` says that its non-sentinel entries are the open connections, each once. It holds
of a fresh server, every connection event keeps it given what the host promises, and no other
operation touches the table or the open connections, so it holds in every reachable state
(`Reachable.connTable`). `connectedPeers_track_open_connections` reads the result off:
`getPeerDevices` and `getConnectedCount` report the open connections, and `resetGATT`, called
by the disconnect handler, reaches `ble_gatts_reset` only when no connection is open.
`getPeerInfo(index)` does not follow `getPeerDevices` once a free slot precedes a peer
(`getPeerInfo_misses_peer`).
-/

namespace BleGatt

/-! ## The first match -/

/-- Replacing the first `a` of a list that holds one is, up to order, erasing it and adding
`b`. -/
theorem replace_perm {l : List Nat} {a b : Nat} (h : a ∈ l) :
    (l.replace a b).Perm (b :: l.erase a) := by
  induction l with
  | nil => cases h
  | cons x xs ih =>
    by_cases hx : x = a
    · subst hx; simp
    · have ha : a ∈ xs := (List.mem_cons.1 h).resolve_left (Ne.symm hx)
      have hb : (a == x) = false := by simpa using Ne.symm hx
      rw [List.replace_cons, hb, List.erase_cons_tail (by simpa using hx)]
      exact ((ih ha).cons x).trans (List.Perm.swap b x _)

namespace State

/-! ## Operations that leave the table alone -/

/-- The connection table and the host's open connections. -/
def peers (s : State) : List Nat × List Nat := (s.server.connectedPeers, s.host.conns)

@[simp] theorem peers_withHeap (s : State) (h : Heap) : (s.withHeap h).peers = s.peers := rfl
@[simp] theorem peers_withSvcVec (s : State) (v) : (s.withSvcVec v).peers = s.peers := rfl
@[simp] theorem peers_call (s : State) (c) : (s.call c).2.peers = s.peers := rfl
@[simp] theorem peers_log (s : State) (c) : (s.log c).peers = s.peers := rfl
@[simp] theorem peers_registerAll (s : State) : s.registerAll.peers = s.peers := rfl
@[simp] theorem peers_unregisterAll (s : State) : s.unregisterAll.peers = s.peers := rfl
@[simp] theorem peers_serviceChanged (s : State) : s.serviceChanged.peers = s.peers := by
  simp [peers]

theorem peers_startService (s : State) (p : Ptr) : (s.startService p).2.peers = s.peers := by
  unfold startService; split
  · rfl
  · split
    · rfl
    · simp only; split
      · simp
      · split <;> simp [peers]

theorem peers_resetLoop : ∀ (v : List Ptr) (s : State), (resetLoop v s).2.peers = s.peers
  | [], _ => rfl
  | p :: ps, s => by
    unfold resetLoop; split
    · split
      · split
        · rw [peers_resetLoop]; simp
        · exact peers_resetLoop ps s
      · rw [peers_resetLoop, peers_startService]
    · exact peers_resetLoop ps s

theorem peers_resetGATT (s : State) : s.resetGATT.peers = s.peers := by
  unfold resetGATT; split
  · rfl
  · simp only
    have h := peers_resetLoop ((((s.call .gattsReset).2.log .svcGapInit).log .svcGattInit).server.svcVec)
    split <;> simp_all [peers]

theorem peers_start (s : State) : s.start.peers = s.peers := by
  unfold start; split
  · rfl
  · simp only; split
    · simp
    · split <;> simp [peers]

theorem peers_addService (s : State) (p : Ptr) : (s.addService p).peers = s.peers := by
  unfold addService; split
  · rfl
  · split_ifs <;> simp

theorem peers_removeService (s : State) (p : Ptr) (d : Bool) :
    (s.removeService p d).peers = s.peers := by
  unfold removeService; split
  · rfl
  · simp only; split_ifs <;> simp

theorem peers_addCharacteristic (s : State) (p c : Ptr) :
    (s.addCharacteristic p c).peers = s.peers := by
  unfold addCharacteristic; split
  · rfl
  · simp only; split_ifs <;> simp

theorem peers_removeCharacteristic (s : State) (p c : Ptr) (d : Bool) :
    (s.removeCharacteristic p c d).peers = s.peers := by
  unfold removeCharacteristic; split
  · rfl
  · split_ifs <;> simp

theorem peers_addDescriptor (s : State) (c d : Ptr) : (s.addDescriptor c d).peers = s.peers := by
  unfold addDescriptor; split
  · rfl
  · simp only; split_ifs <;> simp

theorem peers_removeDescriptor (s : State) (c d : Ptr) (del : Bool) :
    (s.removeDescriptor c d del).peers = s.peers := by
  unfold removeDescriptor; split
  · rfl
  · split_ifs <;> simp

theorem peers_create2904 (s : State) (c : Ptr) : (s.create2904 c).2.peers = s.peers := by
  simp [create2904, new2904, peers_addDescriptor]

/-- Every operation but a connection event leaves the table and the open connections alone. -/
theorem peers_step {s : State} {op : Op} (hop : ∀ st h, op ≠ .connect st h)
    (hop' : ∀ h, op ≠ .disconnect h) : (s.step op).peers = s.peers := by
  cases op with
  | connect st h => exact absurd rfl (hop st h)
  | disconnect h => exact absurd rfl (hop' h)
  | start => exact peers_start s
  | startService p => exact peers_startService s p
  | createService u => simp [step, createService, newService]
  | newService u => simp [step, newService]
  | addService p => exact peers_addService s p
  | removeService p d => exact peers_removeService s p d
  | createCharacteristic p u pr =>
    simp [step, createCharacteristic, newCharacteristic, peers_addCharacteristic]
  | newCharacteristic u pr => simp [step, newCharacteristic]
  | addCharacteristic p c => exact peers_addCharacteristic s p c
  | removeCharacteristic p c d => exact peers_removeCharacteristic s p c d
  | createDescriptor c u =>
    simp only [step, createDescriptor]
    split_ifs <;> simp [peers_create2904, newDescriptor, peers_addDescriptor]
  | create2904 c => exact peers_create2904 s c
  | newDescriptor u => simp [step, newDescriptor]
  | addDescriptor c d => exact peers_addDescriptor s c d
  | removeDescriptor c d del => exact peers_removeDescriptor s c d del

/-! ## The invariant -/

/-- The table's non-sentinel entries are the open connections, each once. -/
structure ConnTable (s : State) : Prop where
  perm : s.getPeerDevices.Perm s.host.conns
  nodup : s.host.conns.Nodup

theorem ConnTable.of_peers {s t : State} (h : s.peers = t.peers) (ht : t.ConnTable) :
    s.ConnTable := by
  simp only [peers, Prod.mk.injEq] at h
  exact ⟨by simpa [getPeerDevices, h.1, h.2] using ht.perm, h.2 ▸ ht.nodup⟩

/-- An open connection is never the sentinel. -/
theorem ConnTable.none_not_mem {s : State} (hs : s.ConnTable) :
    BLE_HS_CONN_HANDLE_NONE ∉ s.host.conns := fun h => by
  simpa [getPeerDevices] using hs.perm.mem_iff.2 h

theorem ConnTable.getConnectedCount {s : State} (hs : s.ConnTable) :
    s.getConnectedCount = s.host.conns.length := hs.perm.length_eq

theorem connTable_init (n base : Nat) (results : Nat → Nat) : (init n base results).ConnTable :=
  ⟨by simp [getPeerDevices, init, List.filter_replicate], List.nodup_nil⟩

/-- While the open connections fit in the table, a connect finds a free slot and records the new
handle in it. -/
theorem ConnTable.connect {s : State} {h : Nat} (hs : s.ConnTable)
    (hh : h ≠ BLE_HS_CONN_HANDLE_NONE) (hn : h ∉ s.host.conns)
    (hlen : s.host.conns.length < s.server.connectedPeers.length) : (s.connect 0 h).ConnTable := by
  have hfree : BLE_HS_CONN_HANDLE_NONE ∈ s.server.connectedPeers := by
    have := hs.perm.length_eq ▸ hlen
    simpa using List.length_filter_lt_length_iff_exists.1 this
  refine ⟨?_, ?_⟩
  · simp only [State.connect, openConn, handleConnect, getPeerDevices, if_true, ne_eq,
      List.mem_append, List.mem_singleton, or_true, not_true_eq_false, if_false]
    calc List.Perm _ ((h :: s.server.connectedPeers.erase BLE_HS_CONN_HANDLE_NONE).filter
            (· ≠ BLE_HS_CONN_HANDLE_NONE)) := (replace_perm hfree).filter _
      _ = h :: s.getPeerDevices := by
        simp [hh, getPeerDevices, ← List.erase_filter]
      List.Perm _ (h :: s.host.conns) := hs.perm.cons h
      List.Perm _ (s.host.conns ++ [h]) := (List.perm_append_singleton h _).symm
  · simp only [State.connect, handleConnect_host, openConn, if_true]
    exact (List.perm_append_singleton h _).nodup_iff.2 (List.nodup_cons.2 ⟨hn, hs.nodup⟩)

/-- A disconnect of an open handle frees its slot; the rebuild it may attempt leaves the table
and the open connections alone. -/
theorem ConnTable.release {s : State} {h : Nat} (hs : s.ConnTable) (hh : h ∈ s.host.conns) :
    ((s.closeConn h).releaseSlot h).ConnTable := by
  have hne : h ≠ BLE_HS_CONN_HANDLE_NONE := fun e => hs.none_not_mem (e ▸ hh)
  have hmem : h ∈ s.server.connectedPeers := (List.mem_filter.1 (hs.perm.mem_iff.2 hh)).1
  refine ⟨?_, hs.nodup.erase h⟩
  simp only [releaseSlot, closeConn, getPeerDevices]
  calc List.Perm _ ((BLE_HS_CONN_HANDLE_NONE :: s.server.connectedPeers.erase h).filter
          (· ≠ BLE_HS_CONN_HANDLE_NONE)) := (replace_perm hmem).filter _
    _ = s.getPeerDevices.erase h := by simp [getPeerDevices, List.erase_filter]
    List.Perm _ (s.host.conns.erase h) := hs.perm.erase h

theorem ConnTable.disconnect {s : State} {h : Nat} (hs : s.ConnTable) (hh : h ∈ s.host.conns) :
    (s.disconnect h).ConnTable := by
  have ht := hs.release hh
  simp only [State.disconnect, handleDisconnect]
  split
  · exact ht.of_peers (peers_resetGATT _)
  · exact ht

/-- Every enabled operation keeps the table. -/
theorem ConnTable.step {s : State} {op : Op} (hs : s.ConnTable) (hen : op.enabled s = true) :
    (s.step op).ConnTable := by
  cases op with
  | connect st h =>
    simp only [Op.enabled, Bool.or_eq_true, bne_iff_ne, ne_eq, Bool.and_eq_true, Bool.not_eq_true',
      decide_eq_true_eq] at hen
    by_cases hst : st = 0
    · subst hst
      obtain ⟨⟨hh, hn⟩, hlen⟩ := hen.resolve_left (by simp)
      exact hs.connect hh (by simpa using hn) hlen
    · simpa [State.step, State.connect, openConn, handleConnect, hst] using hs
  | disconnect h => exact hs.disconnect (by simpa [Op.enabled] using hen)
  | _ => exact hs.of_peers (peers_step (by simp) (by simp))

end State

/-- The table invariant holds in every reachable state. -/
theorem Reachable.connTable {s : State} (hs : Reachable s) : s.ConnTable := by
  induction hs with
  | init n base results => exact State.connTable_init n base results
  | step _ hen ih => exact ih.step hen

/-- A state whose table is consistent refuses the rebuild while a connection is open. -/
theorem State.ConnTable.resetGATT_eq {s : State} (hs : s.ConnTable) (h : s.host.conns ≠ []) :
    s.resetGATT = s := by
  unfold State.resetGATT
  rw [if_pos (by rw [hs.getConnectedCount]; exact List.length_pos.2 h)]

theorem connectedPeers_track_open_connections {s : State} (hs : Reachable s) :
    s.getPeerDevices.Perm s.host.conns ∧ s.host.conns.Nodup ∧
      s.getConnectedCount = s.host.conns.length ∧
      (s.host.conns ≠ [] → s.resetGATT = s) ∧
      ∀ h ∈ s.host.conns, ((s.closeConn h).releaseSlot h).host.conns ≠ [] →
        ((s.closeConn h).releaseSlot h).resetGATT = (s.closeConn h).releaseSlot h := by
  have hc := hs.connTable
  exact ⟨hc.perm, hc.nodup, hc.getConnectedCount, hc.resetGATT_eq,
    fun h hh => (hc.release hh).resetGATT_eq⟩

theorem connectedPeers_track_open_connections_after_connect :
    Reachable ((State.init 3 10 fun _ => 0).step (.connect 0 5)) ∧
      ((State.init 3 10 fun _ => 0).step (.connect 0 5)).getConnectedCount = 1 := by
  have hs : Reachable ((State.init 3 10 fun _ => 0).step (.connect 0 5)) :=
    .step (.init 3 10 _) (by decide)
  exact ⟨hs, (connectedPeers_track_open_connections hs).2.2.1.trans rfl⟩

/-! ## Indexed lookup -/

/-- Two peers connect and the first disconnects: the table is
`[BLE_HS_CONN_HANDLE_NONE, 7, BLE_HS_CONN_HANDLE_NONE]`. -/
def holeFirst : State :=
  (State.init 3 10 fun _ => 0).run [.connect 0 5, .connect 0 7, .disconnect 5]

/-- The one connected peer is `getPeerDevices()[0]`, but `getPeerInfo(0)` reads the free slot
at position 0 and answers with an empty `BLEConnInfo`. -/
theorem getPeerInfo_misses_peer :
    Reachable holeFirst ∧ holeFirst.getConnectedCount = 1 ∧ holeFirst.getPeerDevices = [7] ∧
      holeFirst.getPeerInfoByHandle 7 = some 7 ∧ holeFirst.getPeerInfo 0 = none :=
  ⟨(Reachable.init 3 10 _).run (by decide), by decide, by decide, by decide, by decide⟩

end BleGatt
