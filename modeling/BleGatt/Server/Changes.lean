import BleGatt.Server.Closed

/-!
# Tracking changes of the live tree

The live tree is what a rebuild would register: the services of `m_svcVec` that are not
removed, in order, each with its characteristics that are not removed, each with its
descriptors that are not removed (`State.liveTree`). The registered tree is what the host's
table holds (`Host.registeredTree`). `serviceChanged()` has no effect before the server starts
(`BLEServer.cpp:162`), and `addService` of a service that is not removed appends it and returns
before calling it (`BLEServer.cpp:748-752`), so the two trees can differ while `m_svcChanged`
is clear (`changes_untracked`).

What the flag does track is every other change made while the server runs: from a reachable
state in which the server is started, a run of tracked operations (`Op.tracked`) that ends with
the flag clear ends with the server started and the live tree as it was
(`liveTree_kept_while_svcChanged_clear`). One step is `State.tracks_step`: an operation either
sets the flag or keeps the live tree; once set, the flag stays set until a start
(`State.svcChanged_step`). `addCharacteristic` and `addDescriptor` of a removed child that is
still in its list are not tracked operations: they return before `serviceChanged()`.

The record `BLEService::start` hands to the host need not follow the live tree either. The
compile is skipped whenever the service has a characteristic array and `m_svcChanged` is clear,
so before the server starts it is skipped whatever was added or removed since the record was
built. The slow path frees the old arrays without clearing `m_pSvcDef->characteristics`, and
allocates a new one only when some characteristic is live, so a service left with no live
characteristic keeps pointing at the array it just freed; a service that never had a live
characteristic has a null array, and the fast path is never taken for it. `m_pSvcDef->type` is
set before the host is asked to count and add the record, so `isStarted()` holds after a
refused start. Three runs show the record diverging from the live tree
(`start_record_diverges`), and one the same empty service handed to the host twice
(`start_twice_adds_twice`). A service removed before the server starts stays live, since the
host refuses to hide a service it has not registered, and the next start registers it
(`removeService_refused_stays_live`).
-/

namespace BleGatt

namespace Heap

/-- `getRemoved() == 0` for the service at `p`. -/
def svcLive (h : Heap) (p : Ptr) : Bool := (h.svcs p).any (·.removed = 0)

/-- The characteristics of the service at `p` that are not removed, in order. -/
def liveChars (h : Heap) (p : Ptr) : List Ptr := (h.chars p).filter h.chrLive

/-- The descriptors of the characteristic at `c` that are not removed, in order. -/
def liveDescriptors (h : Heap) (c : Ptr) : List Ptr := (h.descriptors c).filter h.dscLive

@[simp] theorem chrLive_modSvc (h : Heap) (p : Ptr) (f) : (h.modSvc p f).chrLive = h.chrLive := rfl
@[simp] theorem dscLive_modChr (h : Heap) (c : Ptr) (f) : (h.modChr c f).dscLive = h.dscLive := rfl

/-- The live tree over the services `v`. -/
def liveTreeOf (h : Heap) (v : List Ptr) : List (Ptr × List (Ptr × List Ptr)) :=
  (v.filter h.svcLive).map fun p => (p, (h.liveChars p).map fun c => (c, h.liveDescriptors c))

/-- The live tree over `v` reads only which services of `v` are live, their live
characteristics, and the live descriptors of those. -/
theorem liveTreeOf_congr {h h' : Heap} {v : List Ptr}
    (hs : ∀ p ∈ v, h'.svcLive p = h.svcLive p)
    (hc : ∀ p ∈ v, h.svcLive p → h'.liveChars p = h.liveChars p)
    (hd : ∀ p ∈ v, h.svcLive p → ∀ c ∈ h.liveChars p, h'.liveDescriptors c = h.liveDescriptors c) :
    h'.liveTreeOf v = h.liveTreeOf v := by
  unfold liveTreeOf
  rw [List.filter_congr hs]
  refine List.map_congr_left fun p hp => ?_
  obtain ⟨hp, hl⟩ := List.mem_filter.1 hp
  rw [hc p hp hl, List.map_congr_left fun c hc' => by rw [hd p hp hl c hc']]

theorem svcLive_eq_shape (h : Heap) (p : Ptr) : h.svcLive p = (h.svcShape p).any (·.2.1 = 0) := by
  simp only [svcLive, svcShape]; cases h.svcs p <;> rfl

theorem SameTree.liveTreeOf_eq {h h' : Heap} (ht : SameTree h h') (v : List Ptr) :
    h'.liveTreeOf v = h.liveTreeOf v := by
  have hl : h'.chrLive = h.chrLive := by funext c; simp only [chrLive, ht.chrs]
  have hd : h'.dscLive = h.dscLive := by funext d; simp only [dscLive, ht.dscs]
  refine liveTreeOf_congr (fun p _ => by rw [svcLive_eq_shape, svcLive_eq_shape, ht.svcShape])
    (fun p _ _ => by simp only [liveChars, ht.chars_eq, hl])
    (fun _ _ _ _ _ => by simp only [liveDescriptors, ht.descriptors_eq, hd])

/-! ## Allocation changes nothing the tree reads -/

theorem liveTreeOf_newSvc {h : Heap} (hc : h.Closed) {v : List Ptr}
    (hv : ∀ p ∈ v, (h.svcs p).isSome) (x : BLEService) : (h.newSvc x).liveTreeOf v = h.liveTreeOf v := by
  have hne : ∀ p ∈ v, p ≠ h.next := fun p hp => (hc.svcs p (hv p hp)).ne
  refine liveTreeOf_congr (fun p hp => ?_) (fun p hp _ => ?_) (fun _ _ _ _ _ => rfl)
  · simp [svcLive, hne p hp]
  · simp only [liveChars, chars_newSvc, if_neg (hne p hp)]; rfl

theorem liveTreeOf_newChr {h : Heap} (hc : h.Closed) (v : List Ptr) (x : BLECharacteristic) :
    (h.newChr x).liveTreeOf v = h.liveTreeOf v := by
  refine liveTreeOf_congr (fun _ _ => rfl) (fun p _ _ => ?_) (fun p _ _ c hc' => ?_)
  · refine List.filter_congr fun c hm => ?_
    simp [chrLive, (hc.chars p c hm).ne]
  · have hcn : c ≠ h.next := (hc.chars p c (List.mem_filter.1 hc').1).ne
    simp only [liveDescriptors, descriptors_newChr, if_neg hcn]; rfl

theorem liveTreeOf_newDsc {h : Heap} (hc : h.Closed) (v : List Ptr) (x : BLEDescriptor) :
    (h.newDsc x).liveTreeOf v = h.liveTreeOf v := by
  refine liveTreeOf_congr (fun _ _ => rfl) (fun _ _ _ => rfl) (fun _ _ _ c _ => ?_)
  refine List.filter_congr fun d hm => ?_
  simp [dscLive, (hc.descriptors c d hm).ne]

/-! ## Edits that keep the tree -/

theorem liveTreeOf_modChr (h : Heap) (c : Ptr) {f : BLECharacteristic → BLECharacteristic}
    (hf : ∀ x, (f x).removed = x.removed ∧ (f x).descriptors = x.descriptors) (v : List Ptr) :
    (h.modChr c f).liveTreeOf v = h.liveTreeOf v := by
  have hl : (h.modChr c f).chrLive = h.chrLive := by
    funext q; by_cases e : q = c <;> simp [chrLive, e]
    cases h.chrs c <;> simp [hf]
  have hd : (h.modChr c f).descriptors = h.descriptors := by
    funext q; rw [descriptors_modChr]; split <;> simp [descriptors, *]
  exact liveTreeOf_congr (fun _ _ => rfl) (fun _ _ _ => by simp only [liveChars, chars_modChr, hl])
    (fun _ _ _ _ _ => by simp only [liveDescriptors, hd]; rfl)

theorem liveTreeOf_modDsc (h : Heap) (d : Ptr) {f : BLEDescriptor → BLEDescriptor}
    (hf : ∀ x, (f x).removed = x.removed) (v : List Ptr) :
    (h.modDsc d f).liveTreeOf v = h.liveTreeOf v := by
  have hl : (h.modDsc d f).dscLive = h.dscLive := by
    funext q; by_cases e : q = d <;> simp [dscLive, e]
    cases h.dscs d <;> simp [hf]
  exact liveTreeOf_congr (fun _ _ => rfl) (fun _ _ _ => rfl)
    (fun _ _ _ _ _ => by simp only [liveDescriptors, descriptors_modDsc, hl])

/-- Erasing a service that is not live from the vector keeps the tree. -/
theorem liveTreeOf_erase (h : Heap) {p : Ptr} (hp : h.svcLive p = false) (v : List Ptr) :
    h.liveTreeOf (v.erase p) = h.liveTreeOf v := by
  have hv : p ∉ v.filter h.svcLive := by simp [hp]
  simp only [liveTreeOf, ← List.erase_filter, List.erase_of_not_mem hv]

/-- Erasing a characteristic that is not live from a service's list keeps the tree. -/
theorem liveTreeOf_eraseChar (h : Heap) (p : Ptr) {c : Ptr} (hc : h.chrLive c = false)
    (v : List Ptr) :
    (h.modSvc p fun x => { x with chars := x.chars.erase c }).liveTreeOf v = h.liveTreeOf v := by
  refine liveTreeOf_congr (fun q _ => ?_) (fun q _ _ => ?_) (fun _ _ _ _ _ => rfl)
  · by_cases e : q = p <;> simp [svcLive, e]
    cases h.svcs p <;> rfl
  · simp only [liveChars, chars_modSvc]
    split
    · subst q
      cases hp : h.svcs p <;> simp [chars, hp, ← List.erase_filter, List.erase_of_not_mem, hc]
    · rfl

/-- Erasing a descriptor that is not live from a characteristic's list keeps the tree. -/
theorem liveTreeOf_eraseDescriptor (h : Heap) (c : Ptr) {d : Ptr} (hd : h.dscLive d = false)
    (v : List Ptr) :
    (h.modChr c fun x => { x with descriptors := x.descriptors.erase d }).liveTreeOf v =
      h.liveTreeOf v := by
  have hl : (h.modChr c fun x => { x with descriptors := x.descriptors.erase d }).chrLive =
      h.chrLive := by
    funext q; by_cases e : q = c <;> simp [chrLive, e]
    cases h.chrs c <;> rfl
  refine liveTreeOf_congr (fun _ _ => rfl) (fun _ _ _ => by simp only [liveChars, chars_modChr, hl])
    (fun _ _ _ e _ => ?_)
  simp only [liveDescriptors, descriptors_modChr]
  split
  · subst e
    cases hc : h.chrs c <;> simp [descriptors, hc, ← List.erase_filter, List.erase_of_not_mem, hd]
  · rfl

end Heap

/-- The tree the host registered: each service of the table with the `arg` of each of its
characteristics, and the `arg` of each of their descriptors. -/
def Host.registeredTree (t : List SvcEntry) : List (Ptr × List (Ptr × List Ptr)) :=
  t.map fun e => (e.svc, e.chrs.filterMap fun c => c.arg.map fun a => (a, c.dscs.filterMap (·.arg)))

namespace State

/-- The live tree of the server. -/
def liveTree (s : State) : List (Ptr × List (Ptr × List Ptr)) := s.heap.liveTreeOf s.server.svcVec

end State

open State in
/-- The operations after which the live tree is as before unless `m_svcChanged` is set: all
but `addService` of a service not marked removed, `addCharacteristic`/`addDescriptor` of a
removed child already in the list, and a `BLEServer::start` that starts the server again. -/
def Op.tracked (s : State) : Op → Bool
  | .addService p => !s.heap.svcLive p
  | .addCharacteristic p c =>
    !((s.heap.chrs c).any (·.removed > 0) && (s.heap.chars p).contains c)
  | .addDescriptor c d =>
    !((s.heap.dscs d).any (·.removed > 0) && (s.heap.descriptors c).contains d)
  | .start => s.server.gattsStarted
  | _ => true

namespace State

/-- Every operation of the list is tracked where it runs. -/
def runTracked : State → List Op → Bool
  | _, [] => true
  | s, op :: ops => op.tracked s && runTracked (s.step op) ops

/-- `t` has `m_svcChanged` set, or the server is started and `t` has the live tree of `s`. -/
def Tracks (s t : State) : Prop :=
  t.server.svcChanged = true ∨ (t.server.gattsStarted = true ∧ t.liveTree = s.liveTree)

section
variable {s : State}

theorem Tracks.serviceChanged {t : State} (h : t.server.gattsStarted = true) :
    Tracks s t.serviceChanged :=
  .inl (by simp [h])

theorem Tracks.of_heap {t : State} (hst : t.server.gattsStarted = true)
    (hv : t.server.svcVec = s.server.svcVec) (hl : t.heap.liveTreeOf s.server.svcVec = s.liveTree) :
    Tracks s t :=
  .inr ⟨hst, by rw [liveTree, hv, hl]⟩

theorem tracks_addService (hst : s.server.gattsStarted = true) {p : Ptr}
    (ht : s.heap.svcLive p = false) : Tracks s (s.addService p) := by
  unfold addService
  split
  · exact .inr ⟨hst, rfl⟩
  · next svc hp =>
    split_ifs with hr
    · simp [Heap.svcLive, hp, hr] at ht
    · exact Tracks.serviceChanged (by simpa using hst)

theorem tracks_removeService (hst : s.server.gattsStarted = true) (p : Ptr) (del : Bool) :
    Tracks s (s.removeService p del) := by
  unfold removeService
  split
  · exact .inr ⟨hst, rfl⟩
  · next svc hp =>
    split
    · split
      · refine .inr ⟨hst, ?_⟩
        simp only [liveTree, withSvcVec_heap, withSvcVec_server, withHeap_heap, withHeap_server]
        rw [(Heap.sameTree_deleteService _ p).liveTreeOf_eq,
          Heap.liveTreeOf_erase _ (by simp [Heap.svcLive, hp]; omega)]
      · exact .inr ⟨hst, rfl⟩
    · split
      next rc t heq =>
      obtain rfl : (s.call _).2 = t := congrArg Prod.snd heq
      split
      · exact .inr ⟨hst, rfl⟩
      · exact Tracks.serviceChanged hst

theorem tracks_addCharacteristic (hst : s.server.gattsStarted = true) {p c : Ptr}
    (ht : (Op.addCharacteristic p c).tracked s = true) : Tracks s (s.addCharacteristic p c) := by
  cases hchr : s.heap.chrs c with
  | none => simpa [addCharacteristic, hchr] using Or.inr ⟨hst, rfl⟩
  | some chr =>
    rw [addCharacteristic_of_chrs hchr]
    split_ifs with hm hr
    · simp [Op.tracked, hchr, hm, hr] at ht
    · refine Tracks.of_heap hst rfl (Heap.liveTreeOf_modChr _ c (fun _ => ?_) _)
      exact ⟨rfl, rfl⟩
    · exact Tracks.serviceChanged hst

theorem tracks_removeCharacteristic (hst : s.server.gattsStarted = true) (p c : Ptr) (del : Bool) :
    Tracks s (s.removeCharacteristic p c del) := by
  unfold removeCharacteristic
  split
  · exact .inr ⟨hst, rfl⟩
  · next chr hchr =>
    split
    · split
      · refine Tracks.of_heap hst rfl ?_
        simp only [withHeap_heap]
        rw [Heap.liveTreeOf_eraseChar _ _ (by
            simp [Heap.chrLive, (Heap.sameTree_deleteCharacteristic s.heap c).chrs, hchr]; omega),
          (Heap.sameTree_deleteCharacteristic _ c).liveTreeOf_eq]
        rfl
      · exact .inr ⟨hst, rfl⟩
    · exact Tracks.serviceChanged hst

theorem tracks_addDescriptor (hst : s.server.gattsStarted = true) {c d : Ptr}
    (ht : (Op.addDescriptor c d).tracked s = true) : Tracks s (s.addDescriptor c d) := by
  cases hdsc : s.heap.dscs d with
  | none => simpa [addDescriptor, hdsc] using Or.inr ⟨hst, rfl⟩
  | some dsc =>
    rw [addDescriptor_of_dscs hdsc]
    split_ifs with hm hr
    · simp [Op.tracked, hdsc, hm, hr] at ht
    · refine Tracks.of_heap hst rfl (Heap.liveTreeOf_modDsc _ d (fun _ => ?_) _)
      rfl
    · exact Tracks.serviceChanged hst

theorem tracks_removeDescriptor (hst : s.server.gattsStarted = true) (c d : Ptr) (del : Bool) :
    Tracks s (s.removeDescriptor c d del) := by
  unfold removeDescriptor
  split
  · exact .inr ⟨hst, rfl⟩
  · next dsc hdsc =>
    split
    · split
      · refine Tracks.of_heap hst rfl ?_
        simp only [withHeap_heap]
        rw [Heap.liveTreeOf_eraseDescriptor _ _ (by
            simp [Heap.dscLive, Heap.deleteDescriptor, hdsc]; omega),
          Heap.deleteDescriptor, (Heap.sameTree_free _ d).liveTreeOf_eq]
        rfl
      · exact .inr ⟨hst, rfl⟩
    · exact Tracks.serviceChanged hst

/-- Adding a characteristic that its service does not hold records the change. -/
theorem svcChanged_addCharacteristic_of_not_mem (hst : s.server.gattsStarted = true) {p c : Ptr}
    (hc : (s.heap.chrs c).isSome) (hm : c ∉ s.heap.chars p) :
    (s.addCharacteristic p c).server.svcChanged = true := by
  obtain ⟨chr, hchr⟩ := Option.isSome_iff_exists.1 hc
  rw [addCharacteristic_of_chrs hchr, if_neg hm]
  simp [hst]

/-- Adding a descriptor that its characteristic does not hold records the change. -/
theorem svcChanged_addDescriptor_of_not_mem (hst : s.server.gattsStarted = true) {c d : Ptr}
    (hd : (s.heap.dscs d).isSome) (hm : d ∉ s.heap.descriptors c) :
    (s.addDescriptor c d).server.svcChanged = true := by
  obtain ⟨dsc, hdsc⟩ := Option.isSome_iff_exists.1 hd
  rw [addDescriptor_of_dscs hdsc, if_neg hm]
  simp [hst]

/-! ## The flag stays set -/

theorem svcChanged_addService (h : s.server.svcChanged = true) (p : Ptr) :
    (s.addService p).server.svcChanged = true := by
  unfold addService; split
  · exact h
  · split_ifs <;> simp [h]

theorem svcChanged_removeService (h : s.server.svcChanged = true) (p : Ptr) (del : Bool) :
    (s.removeService p del).server.svcChanged = true := by
  unfold removeService; split
  · exact h
  · simp only; split_ifs <;> simp [h]

theorem svcChanged_addCharacteristic (h : s.server.svcChanged = true) (p c : Ptr) :
    (s.addCharacteristic p c).server.svcChanged = true := by
  unfold addCharacteristic; split
  · exact h
  · simp only; split_ifs <;> simp [h]

theorem svcChanged_removeCharacteristic (h : s.server.svcChanged = true) (p c : Ptr) (del : Bool) :
    (s.removeCharacteristic p c del).server.svcChanged = true := by
  unfold removeCharacteristic; split
  · exact h
  · split_ifs <;> simp [h]

theorem svcChanged_addDescriptor (h : s.server.svcChanged = true) (c d : Ptr) :
    (s.addDescriptor c d).server.svcChanged = true := by
  unfold addDescriptor; split
  · exact h
  · simp only; split_ifs <;> simp [h]

theorem svcChanged_removeDescriptor (h : s.server.svcChanged = true) (c d : Ptr) (del : Bool) :
    (s.removeDescriptor c d del).server.svcChanged = true := by
  unfold removeDescriptor; split
  · exact h
  · split_ifs <;> simp [h]

theorem resetGATT_svcChanged (s : State) : s.resetGATT.server.svcChanged = s.server.svcChanged := by
  by_cases h : s.getConnectedCount > 0
  · rw [resetGATT, if_pos h]
  · obtain ⟨t, -, hts, -, he⟩ := resetGATT_of_guard h
    rw [he]; simp [(resetLoop_frame _ t).2, hts]

theorem svcChanged_create2904 (h : s.server.svcChanged = true) (c : Ptr) :
    (s.create2904 c).2.server.svcChanged = true :=
  svcChanged_addDescriptor (s := (s.new2904 c).2) h c _

/-- A set `m_svcChanged` stays set through every tracked operation. -/
theorem svcChanged_step (h : s.server.svcChanged = true) :
    ∀ op : Op, op.tracked s = true → (s.step op).server.svcChanged = true
  | .createService _, _ => by simp [step, createService, newService, h]
  | .newService _, _ => h
  | .addService p, _ => svcChanged_addService h p
  | .removeService p d, _ => svcChanged_removeService h p d
  | .createCharacteristic p _ _, _ =>
    svcChanged_addCharacteristic (s := (s.newCharacteristic _ _ _).2) h p _
  | .newCharacteristic _ _, _ => h
  | .addCharacteristic p c, _ => svcChanged_addCharacteristic h p c
  | .removeCharacteristic p c d, _ => svcChanged_removeCharacteristic h p c d
  | .createDescriptor c u, _ => by
    simp only [step, createDescriptor]
    split_ifs
    · exact svcChanged_addDescriptor (svcChanged_create2904 h c) c _
    · exact svcChanged_addDescriptor (s := (s.newDescriptor u (some c)).2) h c _
  | .create2904 c, _ => svcChanged_create2904 h c
  | .newDescriptor _, _ => h
  | .addDescriptor c d, _ => svcChanged_addDescriptor h c d
  | .removeDescriptor c d del, _ => svcChanged_removeDescriptor h c d del
  | .startService p, _ => (startService_frame s p).2 ▸ h
  | .start, ht => by simp only [Op.tracked] at ht; simp [step, start, ht, h]
  | .connect st hd, _ => by
    simp only [step, connect, handleConnect, openConn]; split_ifs <;> exact h
  | .disconnect hd, _ => by
    simp only [step, disconnect, handleDisconnect]
    split
    · rw [resetGATT_svcChanged]; exact h
    · exact h

/-- One tracked operation from a started server with the flag clear either sets the flag or
keeps the server started with the same live tree. -/
theorem tracks_step (hc : s.Closed) (hst : s.server.gattsStarted = true)
    (hf : s.server.svcChanged = false) : ∀ op : Op, op.tracked s = true → Tracks s (s.step op)
  | .createService _, _ => Tracks.serviceChanged hst
  | .newService _, _ => Tracks.of_heap hst rfl (Heap.liveTreeOf_newSvc hc.1 hc.2 _)
  | .addService p, ht => tracks_addService hst (by simpa [Op.tracked] using ht)
  | .removeService p d, _ => tracks_removeService hst p d
  | .createCharacteristic p _ _, _ => .inl <|
    svcChanged_addCharacteristic_of_not_mem (s := (s.newCharacteristic _ _ _).2) hst (by simp [newCharacteristic])
      fun hm => lt_irrefl _ (hc.1.chars p _ hm)
  | .newCharacteristic _ _, _ => Tracks.of_heap hst rfl (Heap.liveTreeOf_newChr hc.1 _ _)
  | .addCharacteristic p c, ht => tracks_addCharacteristic hst ht
  | .removeCharacteristic p c d, _ => tracks_removeCharacteristic hst p c d
  | .createDescriptor c u, _ => .inl <| by
    simp only [step, createDescriptor]
    split_ifs
    · exact svcChanged_addDescriptor (svcChanged_addDescriptor_of_not_mem (s := (s.new2904 c).2)
        hst (by simp [new2904]) fun hm => lt_irrefl _ (hc.1.descriptors c _ hm)) c _
    · exact svcChanged_addDescriptor_of_not_mem (s := (s.newDescriptor u (some c)).2) hst
        (by simp [newDescriptor]) fun hm => lt_irrefl _ (hc.1.descriptors c _ hm)
  | .create2904 c, _ => .inl <|
    svcChanged_addDescriptor_of_not_mem (s := (s.new2904 c).2) hst (by simp [new2904])
      fun hm => lt_irrefl _ (hc.1.descriptors c _ hm)
  | .newDescriptor _, _ => Tracks.of_heap hst rfl (Heap.liveTreeOf_newDsc hc.1 _ _)
  | .addDescriptor c d, ht => tracks_addDescriptor hst ht
  | .removeDescriptor c d del, _ => tracks_removeDescriptor hst c d del
  | .startService p, _ => by
    have h := startService_frame s p
    show Tracks s (s.startService p).2
    exact Tracks.of_heap (by rw [h.2]; exact hst) (by rw [h.2]) (h.1.liveTreeOf_eq _)
  | .start, _ => by simp only [step, start, hst, if_true]; exact .inr ⟨hst, rfl⟩
  | .connect st hd, _ => by
    simp only [step, connect, handleConnect, openConn]; split_ifs <;> exact .inr ⟨hst, rfl⟩
  | .disconnect hd, _ => by
    simp only [step, disconnect, handleDisconnect]
    rw [if_neg (by simpa [releaseSlot, closeConn] using hf)]
    exact .inr ⟨hst, rfl⟩

/-- Along a run of tracked operations, `Tracks s` is kept. -/
theorem Tracks.run {t : State} (hc : t.Closed) (hT : Tracks s t) :
    ∀ {ops : List Op}, t.runTracked ops = true → Tracks s (t.run ops)
  | [], _ => hT
  | op :: ops, h => by
    simp only [runTracked, Bool.and_eq_true] at h
    refine Tracks.run (hc.step op) ?_ h.2
    cases hf : t.server.svcChanged
    · rcases hT with hT | ⟨hst, hl⟩
      · simp [hf] at hT
      · rcases tracks_step hc hst hf op h.1 with h' | ⟨h1, h2⟩
        · exact .inl h'
        · exact .inr ⟨h1, h2.trans hl⟩
    · exact .inl (svcChanged_step hf op h.1)

end

end State

/-- From a reachable state in which the server is started, every run of tracked operations that
ends with `m_svcChanged` clear ends with the server started and the live tree it started from:
every change of the live tree made while the server runs, but `addService` of a service not
marked removed, sets the flag. -/
theorem liveTree_kept_while_svcChanged_clear {s : State} (hs : Reachable s)
    (hst : s.server.gattsStarted = true) {ops : List Op} (ht : s.runTracked ops = true)
    (hend : (s.run ops).server.svcChanged = false) :
    (s.run ops).server.gattsStarted = true ∧ (s.run ops).liveTree = s.liveTree :=
  (State.Tracks.run hs.closed (.inr ⟨hst, rfl⟩) ht).resolve_left (by simp [hend])

/-- A started server with one characteristic. -/
def startedServer : State :=
  (State.init 3 10 fun _ => 0).run [.createService 0x180D, .createCharacteristic 0 0x2A37 0x10,
    .startService 0, .start]

/-- A peer connects and disconnects, and the application creates a characteristic it does not
add and starts the service again. -/
theorem liveTree_kept_across_connection :
    Reachable startedServer ∧ startedServer.server.gattsStarted = true ∧
      startedServer.runTracked [.connect 0 5, .newCharacteristic 0x2A38 0, .startService 0,
        .disconnect 5] = true ∧
      (startedServer.run [.connect 0 5, .newCharacteristic 0x2A38 0, .startService 0,
        .disconnect 5]).server.svcChanged = false ∧
      ((startedServer.run [.connect 0 5, .newCharacteristic 0x2A38 0, .startService 0,
        .disconnect 5]).server.gattsStarted = true ∧
      (startedServer.run [.connect 0 5, .newCharacteristic 0x2A38 0, .startService 0,
        .disconnect 5]).liveTree = startedServer.liveTree) :=
  have hs : Reachable startedServer := (Reachable.init 3 10 _).run (by decide)
  ⟨hs, by decide, by decide, by decide,
    liveTree_kept_while_svcChanged_clear hs (by decide) (by decide) (by decide)⟩

/-- The server is started with one service; the application then creates a second one and
adds it. -/
def addAfterStart : State :=
  (State.init 3 10 fun _ => 0).run [.createService 0x180D, .startService 0, .start,
    .newService 0x180F, .addService 1]

/-- The server is started, its live tree holds a service the host never registered, and
`m_svcChanged` is clear. -/
theorem changes_untracked :
    Reachable addAfterStart ∧ addAfterStart.server.gattsStarted = true ∧
      addAfterStart.liveTree ≠ Host.registeredTree addAfterStart.host.table ∧
      addAfterStart.server.svcChanged = false :=
  ⟨(Reachable.init 3 10 _).run (by decide), by decide, by decide, by decide⟩

/-! ## A stale, a dangling and a refused record -/

/-- A service is started with one characteristic, and a second is added before the server
starts. -/
def staleRecord : State :=
  (State.init 3 10 fun _ => 0).run [.createService 0x180D, .createCharacteristic 0 0x2A37 0,
    .startService 0, .createCharacteristic 0 0x2A38 0]

/-- The only characteristic of a started service is hidden while a peer is connected; the
peer's disconnect runs the rebuild. -/
def hiddenLastChar : State :=
  (State.init 3 10 fun _ => 0).run [.createService 0x180D, .createCharacteristic 0 0x2A37 0,
    .startService 0, .start, .connect 0 5, .removeCharacteristic 0 1 false, .disconnect 5]

/-- A service with one characteristic, whose host refuses the first call,
`ble_gatts_count_cfg`. -/
def countRefused : State :=
  (State.init 3 10 fun n => if n = 0 then 1 else 0).run [.createService 0x180D,
    .createCharacteristic 0 0x2A37 0]

/-- `start()` returns `true` with the record of the first start although a second
characteristic is live; after the rebuild the service points at the array the rebuild freed,
the host was handed the hidden characteristic through it, and the next `start()` frees it
again and returns `true`; a `start()` the host refuses leaves `isStarted()` true. -/
theorem start_record_diverges :
    (Reachable staleRecord ∧ (staleRecord.startService 0).1 = true ∧
      ((staleRecord.startService 0).2.record 0).map (·.arg) = [some 1] ∧
      staleRecord.heap.liveChars 0 = [1, 3]) ∧
    (Reachable hiddenLastChar ∧ hiddenLastChar.heap.liveChars 0 = [] ∧
      (hiddenLastChar.heap.svcs 0).map (·.characteristics) = some (some 2) ∧
      2 ∈ hiddenLastChar.heap.freed ∧ HostCall.addSvcs 0 [0, 1] 0 ∈ hiddenLastChar.host.calls ∧
      (hiddenLastChar.startService 0).1 = true ∧
      (hiddenLastChar.startService 0).2.heap.freed.count 2 = 2) ∧
    (Reachable countRefused ∧ (countRefused.heap.svcs 0).map (·.isStarted) = some false ∧
      (countRefused.startService 0).1 = false ∧
      ((countRefused.startService 0).2.heap.svcs 0).map (·.isStarted) = some true) :=
  ⟨⟨(Reachable.init 3 10 _).run (by decide), by decide, by decide, by decide⟩,
    ⟨(Reachable.init 3 10 _).run (by decide), by decide, by decide, by decide, by decide,
      by decide, by decide⟩,
    ⟨(Reachable.init 3 10 _).run (by decide), by decide, by decide, by decide⟩⟩

/-! ## An empty service started twice -/

/-- A service with no characteristic. -/
def emptyService : State := (State.init 3 10 fun _ => 0).run [.createService 0x180D]

/-- Two successful starts with nothing changed in between, and `m_svcChanged` clear: the
service is counted and added twice, and the host holds it twice. -/
theorem start_twice_adds_twice :
    Reachable emptyService ∧ (emptyService.startService 0).1 = true ∧
      ((emptyService.startService 0).2.startService 0).1 = true ∧
      ((emptyService.startService 0).2.startService 0).2.server.svcChanged = false ∧
      ((emptyService.startService 0).2.startService 0).2.host.calls =
        [.countCfg 0 0, .addSvcs 0 [0] 0, .countCfg 0 0, .addSvcs 0 [0] 0] ∧
      ((emptyService.startService 0).2.startService 0).2.host.svcDefs = [0, 0] :=
  ⟨(Reachable.init 3 10 _).run (by decide), by decide, by decide, by decide, by decide,
    by decide⟩

/-! ## A removal the host refuses

`BLEServer::removeService` (`BLEServer.cpp:704`) first switches the service's visibility off in
the host, and returns, leaving the service as it was, when the host refuses. The host's
answers are a parameter of the model; NimBLE's `ble_gatts_svc_set_visibility` answers
`BLE_HS_ENOENT` for a handle it has not registered, as is the handle 0 of every service before
the server first starts.
-/

/-- A service is created and removed before the server starts; the host answers
`BLE_HS_ENOENT` (5) to `ble_gatts_svc_set_visibility` of its handle 0. -/
def removeRefused : State :=
  (State.init 3 10 fun n => if n = 0 then 5 else 0).run [.createService 0x180D,
    .removeService 0 false]

/-- After `removeService` the service is still live in `m_svcVec`, and the next starts register
it with the host. -/
theorem removeService_refused_stays_live :
    Reachable removeRefused ∧ HostCall.svcSetVisibility 0 5 ∈ removeRefused.host.calls ∧
      0 ∈ removeRefused.server.svcVec ∧ removeRefused.heap.svcLive 0 = true ∧
      Reachable (removeRefused.run [.startService 0, .start]) ∧
      Host.findSvc (removeRefused.run [.startService 0, .start]).host.table 0x180D = some 10 :=
  have hs : Reachable removeRefused := (Reachable.init 3 10 _).run (by decide)
  ⟨hs, by decide, by decide, by decide, hs.run (by decide), by decide⟩

end BleGatt
