import BleGatt.Server.System

/-!
# What the rebuild keeps

`BLEService::start` and `BLEServer::resetGATT` allocate, fill and free registration arrays,
and `resetGATT` deletes the services pending deletion, but neither edits an object of the
tree: no characteristic or descriptor changes, and no service changes its UUID, its removal
flag or its `m_vChars` (`Heap.SameTree`, `State.resetGATT_sameTree`). The loop of `resetGATT`
keeps in `m_svcVec` every service not pending deletion (`State.mem_resetLoop`).

So a characteristic flagged `NIMBLE_ATT_REMOVE_DELETE` in a service that stays is still in that
service's `m_vChars` after the rebuild (`State.resetGATT_keeps_characteristic`), while services
flagged the same way are deleted; `deleteFlag_survives_rebuild` is such a run. `resetGATT` does
not look at what `ble_gatts_reset` answered, so the next `BLEServer::start` clears
`m_svcChanged` after a failed reset as after a successful one
(`svcChanged_cleared_after_failed_reset`).
-/

namespace BleGatt

namespace Heap

/-- What the tree operations read of a service: its UUID, removal flag and characteristics. -/
def svcShape (h : Heap) (p : Ptr) : Option (UUID × Nat × List Ptr) :=
  (h.svcs p).map fun x => (x.uuid, x.removed, x.chars)

/-- `h'` holds the tree of `h`: the same characteristics and descriptors, and services of the
same shape; it may have allocated more. -/
structure SameTree (h h' : Heap) : Prop where
  chrs : h'.chrs = h.chrs
  dscs : h'.dscs = h.dscs
  svcShape : ∀ p, h'.svcShape p = h.svcShape p
  next : h.next ≤ h'.next

theorem SameTree.refl (h : Heap) : SameTree h h := ⟨rfl, rfl, fun _ => rfl, le_rfl⟩

theorem SameTree.trans {h₁ h₂ h₃ : Heap} (a : SameTree h₁ h₂) (b : SameTree h₂ h₃) :
    SameTree h₁ h₃ :=
  ⟨b.chrs.trans a.chrs, b.dscs.trans a.dscs, fun p => (b.svcShape p).trans (a.svcShape p),
    a.next.trans b.next⟩

theorem SameTree.chars_eq {h h' : Heap} (ht : SameTree h h') (p : Ptr) :
    h'.chars p = h.chars p := by
  have := congrArg (Option.map fun x => x.2.2) (ht.svcShape p)
  simp only [Heap.svcShape, Option.map_map, Function.comp_def] at this
  simp only [chars, this]

/-- A loop whose every iteration keeps the tree keeps it. -/
theorem sameTree_foldl {α : Type} {f : Heap → α → Heap} (hf : ∀ h x, SameTree h (f h x)) :
    ∀ (l : List α) (h : Heap), SameTree h (l.foldl f h)
  | [], h => .refl h
  | x :: xs, h => (hf h x).trans (sameTree_foldl hf xs (f h x))

theorem sameTree_free (h : Heap) (p : Ptr) : SameTree h (h.free p) := ⟨rfl, rfl, fun _ => rfl, le_rfl⟩

theorem sameTree_setChrDef (h : Heap) (a i : Nat) (e : ChrDef) :
    SameTree h (h.setChrDef a i e) := ⟨rfl, rfl, fun _ => rfl, le_rfl⟩

theorem sameTree_setDscDef (h : Heap) (a i : Nat) (e : DscDef) :
    SameTree h (h.setDscDef a i e) := ⟨rfl, rfl, fun _ => rfl, le_rfl⟩

theorem sameTree_newChrDefs (h : Heap) (n : Nat) : SameTree h (h.newChrDefs n) :=
  ⟨rfl, rfl, fun _ => rfl, Nat.le_succ _⟩

theorem sameTree_newDscDefs (h : Heap) (n : Nat) : SameTree h (h.newDscDefs n) :=
  ⟨rfl, rfl, fun _ => rfl, Nat.le_succ _⟩

/-- Editing a service's record or handle keeps the tree. -/
theorem sameTree_modSvc (h : Heap) (p : Ptr) {f : BLEService → BLEService}
    (hf : ∀ x, (f x).uuid = x.uuid ∧ (f x).removed = x.removed ∧ (f x).chars = x.chars) :
    SameTree h (h.modSvc p f) := by
  refine ⟨rfl, rfl, fun q => ?_, le_rfl⟩
  simp only [svcShape, modSvc_svcs]
  split
  · cases h.svcs q <;> simp [hf]
  · rfl

theorem sameTree_fillDscs (a : Ptr) : ∀ (ds : List Ptr) (j : Nat) (h : Heap),
    SameTree h (fillDscs a ds j h)
  | [], _, h => .refl h
  | d :: ds, j, h => by
    unfold fillDscs
    split
    · split
      · exact (sameTree_setDscDef h a j _).trans (sameTree_fillDscs a ds _ _)
      · exact sameTree_fillDscs a ds j h
    · exact sameTree_fillDscs a ds j h

theorem sameTree_fillChrs (a : Ptr) : ∀ (cs : List Ptr) (i : Nat) (h : Heap),
    SameTree h (fillChrs a cs i h)
  | [], _, h => .refl h
  | c :: cs, i, h => by
    unfold fillChrs
    split
    · split
      · refine SameTree.trans ?_ (sameTree_fillChrs a cs _ _)
        split
        · exact ((sameTree_newDscDefs h _).trans (sameTree_fillDscs _ _ _ _)).trans
            (sameTree_setChrDef _ a i _)
        · exact sameTree_setChrDef h a i _
      · exact sameTree_fillChrs a cs i h
    · exact sameTree_fillChrs a cs i h

theorem sameTree_freeRecord (h : Heap) (a : Ptr) : SameTree h (h.freeRecord a) := by
  unfold freeRecord; split <;> exact ⟨rfl, rfl, fun _ => rfl, le_rfl⟩

theorem sameTree_deleteCharacteristic (h : Heap) (c : Ptr) :
    SameTree h (h.deleteCharacteristic c) :=
  (sameTree_foldl (fun h d => sameTree_free h d) _ h).trans (sameTree_free _ c)

theorem sameTree_deleteService (h : Heap) (p : Ptr) : SameTree h (h.deleteService p) := by
  unfold deleteService
  split
  · exact (sameTree_foldl sameTree_deleteCharacteristic _ h).trans (sameTree_free _ p)
  · exact ((sameTree_freeRecord h _).trans (sameTree_foldl sameTree_deleteCharacteristic _ _)).trans
      (sameTree_free _ p)

theorem sameTree_compile (h : Heap) (p : Ptr) (svc : BLEService) :
    SameTree h (h.compile p svc) := by
  have h₁ : SameTree h (match svc.characteristics with
      | some a => h.freeRecord a
      | none => h) := by
    split
    · exact sameTree_freeRecord h _
    · exact .refl h
  unfold compile
  refine h₁.trans (SameTree.trans ?_ (sameTree_modSvc _ p fun _ => ⟨rfl, rfl, rfl⟩))
  split_ifs
  · exact ((sameTree_newChrDefs _ _).trans (sameTree_fillChrs _ _ _ _)).trans
      (sameTree_modSvc _ p fun _ => ⟨rfl, rfl, rfl⟩)
  · exact .refl _

end Heap

namespace State

/-- `BLEService::start` keeps the tree, and changes neither the server nor the open
connections. -/
theorem startService_frame (s : State) (p : Ptr) :
    Heap.SameTree s.heap (s.startService p).2.heap ∧ (s.startService p).2.server = s.server := by
  unfold startService
  split
  · exact ⟨.refl _, rfl⟩
  · split
    · exact ⟨.refl _, rfl⟩
    · have hc := Heap.sameTree_compile s.heap p ‹_›
      simp only
      split
      · exact ⟨hc, rfl⟩
      · split <;> exact ⟨hc, rfl⟩

/-- The loop of `resetGATT` keeps the tree and the table of connections. -/
theorem resetLoop_frame : ∀ (v : List Ptr) (s : State),
    Heap.SameTree s.heap (resetLoop v s).2.heap ∧
      (resetLoop v s).2.server = s.server
  | [], s => ⟨.refl _, rfl⟩
  | p :: ps, s => by
    unfold resetLoop
    split
    · split
      · split
        · have ih := resetLoop_frame ps (s.withHeap (s.heap.deleteService p))
          exact ⟨(Heap.sameTree_deleteService _ _).trans ih.1, ih.2⟩
        · exact resetLoop_frame ps s
      · have h₁ := startService_frame s p
        have ih := resetLoop_frame ps (s.startService p).2
        exact ⟨h₁.1.trans ih.1, ih.2.trans h₁.2⟩
    · exact resetLoop_frame ps s

/-- The loop of `resetGATT` keeps every service of the vector that is not pending deletion. -/
theorem mem_resetLoop {p : Ptr} : ∀ {v : List Ptr} (s : State), p ∈ v →
    (∀ svc, s.heap.svcs p = some svc → svc.removed ≠ NIMBLE_ATT_REMOVE_DELETE) →
      p ∈ (resetLoop v s).1
  | q :: qs, s, hp, hdel => by
    have hshape : ∀ t : State, Heap.SameTree s.heap t.heap →
        ∀ svc, t.heap.svcs p = some svc → svc.removed ≠ NIMBLE_ATT_REMOVE_DELETE := by
      intro t ht svc hsvc
      have := ht.svcShape p
      simp only [Heap.svcShape, hsvc, Option.map_some'] at this
      obtain ⟨x, hx, hxs⟩ := Option.map_eq_some'.1 this.symm
      simp only [Prod.mk.injEq] at hxs
      exact hxs.2.1 ▸ hdel x hx
    by_cases hq : q = p
    · subst hq
      unfold resetLoop
      split
      · split
        · split
          · exact absurd ‹_› (hdel _ ‹_›)
          · exact List.mem_cons_self _ _
        · exact List.mem_cons_self _ _
      · exact List.mem_cons_self _ _
    · have hps : p ∈ qs := (List.mem_cons.1 hp).resolve_left (Ne.symm hq)
      unfold resetLoop
      split
      · split
        · split
          · exact mem_resetLoop _ hps (hshape _ (Heap.sameTree_deleteService _ _))
          · exact List.mem_cons_of_mem _ (mem_resetLoop s hps hdel)
        · exact List.mem_cons_of_mem _
            (mem_resetLoop _ hps (hshape _ (startService_frame s q).1))
      · exact List.mem_cons_of_mem _ (mem_resetLoop s hps hdel)

/-- Past its guard, `resetGATT` runs its loop over `m_svcVec` from a state with the same heap,
server and connections. -/
theorem resetGATT_of_guard {s : State} (h : ¬ s.getConnectedCount > 0) :
    ∃ t : State, t.heap = s.heap ∧ t.server = s.server ∧ t.host.conns = s.host.conns ∧
      s.resetGATT = { (resetLoop t.server.svcVec t).2 with server :=
        { (resetLoop t.server.svcVec t).2.server with
          svcVec := (resetLoop t.server.svcVec t).1, gattsStarted := false } } := by
  let r := s.call .gattsReset
  refine ⟨((if r.1 = 0 then r.2.unregisterAll else r.2).log .svcGapInit).log .svcGattInit,
    ?_, ?_, ?_, ?_⟩
  iterate 3 split <;> rfl
  rw [resetGATT, if_neg h]

/-- `resetGATT` keeps the tree. -/
theorem resetGATT_sameTree (s : State) : Heap.SameTree s.heap s.resetGATT.heap := by
  by_cases h : s.getConnectedCount > 0
  · rw [resetGATT, if_pos h]; exact .refl _
  · obtain ⟨t, ht, -, -, he⟩ := resetGATT_of_guard h
    rw [he]; exact ht ▸ (resetLoop_frame _ t).1

/-- The rebuild keeps every service not pending deletion in `m_svcVec`, and every
characteristic of such a service, unchanged, in its `m_vChars`, whatever that
characteristic's removal flag. -/
theorem resetGATT_keeps_characteristic {s : State} {p c : Ptr} (hp : p ∈ s.server.svcVec)
    (hdel : ∀ svc, s.heap.svcs p = some svc → svc.removed ≠ NIMBLE_ATT_REMOVE_DELETE)
    (hc : c ∈ s.heap.chars p) :
    p ∈ s.resetGATT.server.svcVec ∧ c ∈ s.resetGATT.heap.chars p ∧
      s.resetGATT.heap.chrs c = s.heap.chrs c := by
  have hs := resetGATT_sameTree s
  refine ⟨?_, hs.chars_eq p ▸ hc, congrFun hs.chrs c⟩
  by_cases h : s.getConnectedCount > 0
  · rw [resetGATT, if_pos h]; exact hp
  · obtain ⟨t, ht, hts, -, he⟩ := resetGATT_of_guard h
    rw [he]
    exact mem_resetLoop t (hts ▸ hp) (ht ▸ hdel)

end State

/-- A started service whose only characteristic is hidden, with no peer connected. -/
def hiddenChar : State :=
  (State.init 3 10 fun _ => 0).run [.createService 0x180D, .createCharacteristic 0 0x2A37 0,
    .startService 0, .start, .removeCharacteristic 0 1 false]

/-- The rebuild keeps the service and its hidden characteristic. -/
theorem resetGATT_keeps_characteristic_hiddenChar :
    0 ∈ hiddenChar.resetGATT.server.svcVec ∧ 1 ∈ hiddenChar.resetGATT.heap.chars 0 ∧
      hiddenChar.resetGATT.heap.chrs 1 = hiddenChar.heap.chrs 1 :=
  State.resetGATT_keeps_characteristic (by decide) (fun svc h => by
    have hr : (hiddenChar.heap.svcs 0).map (·.removed) = some 0 := by decide
    rw [h, Option.map_some', Option.some.injEq] at hr
    rw [hr]; decide) (by decide)

/-! ## Two runs -/

/-- A characteristic of a started service is deleted while a peer is connected; then the peer
disconnects. -/
def deleteWhileConnected : State :=
  (State.init 3 10 fun _ => 0).run [.createService 0x180D, .createCharacteristic 0 0x2A37 0,
    .startService 0, .start, .connect 0 5, .removeCharacteristic 0 1 true, .disconnect 5]

/-- The last disconnect runs the rebuild, and `ble_gatts_reset` succeeds; the characteristic
flagged `NIMBLE_ATT_REMOVE_DELETE` is still in its service, which is still in `m_svcVec`. -/
theorem deleteFlag_survives_rebuild :
    Reachable deleteWhileConnected ∧ HostCall.gattsReset 0 ∈ deleteWhileConnected.host.calls ∧
      0 ∈ deleteWhileConnected.server.svcVec ∧ 1 ∈ deleteWhileConnected.heap.chars 0 ∧
      (deleteWhileConnected.heap.chrs 1).map (·.removed) = some NIMBLE_ATT_REMOVE_DELETE :=
  ⟨(Reachable.init 3 10 _).run (by decide), by decide, by decide, by decide, by decide⟩

/-- A characteristic of a started service is hidden while a peer is connected; then the peer
disconnects. The host refuses its fourth call, the `ble_gatts_reset` of the rebuild. -/
def hideWhileConnected : State :=
  (State.init 3 10 fun n => if n = 3 then 1 else 0).run [.createService 0x180D,
    .createCharacteristic 0 0x2A37 0, .startService 0, .start, .connect 0 5,
    .removeCharacteristic 0 1 false, .disconnect 5]

/-- The next `BLEServer::start` clears `m_svcChanged`, although no `ble_gatts_reset` ever
succeeded. -/
theorem svcChanged_cleared_after_failed_reset :
    Reachable hideWhileConnected ∧ hideWhileConnected.server.svcChanged = true ∧
      (hideWhileConnected.step .start).server.svcChanged = false ∧
      HostCall.gattsReset 1 ∈ hideWhileConnected.host.calls ∧
      HostCall.gattsReset 0 ∉ hideWhileConnected.host.calls :=
  ⟨(Reachable.init 3 10 _).run (by decide), by decide, by decide, by decide, by decide⟩

end BleGatt
