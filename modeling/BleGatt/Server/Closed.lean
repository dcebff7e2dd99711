import BleGatt.Server.Rebuild

/-!
# Pointers stay below the allocator

`new` hands out `Heap.next` and moves it up; nothing moves it down. In every reachable state
every object, and every pointer that a service holds in `m_vChars` or a characteristic in
`m_vDescriptors`, lies below `next`, and every service of `m_svcVec` exists
(`Reachable.closed`). An object the application creates is therefore in no list of the tree,
and allocating it changes nothing the tree reads. Every operation keeps this, whatever its
arguments (`State.Closed.step`).
-/

namespace BleGatt

namespace Heap

/-- Every object, and every pointer a service or a characteristic holds, is below `next`. -/
structure Closed (h : Heap) : Prop where
  svcs : ∀ p, (h.svcs p).isSome → p < h.next
  chrs : ∀ c, (h.chrs c).isSome → c < h.next
  dscs : ∀ d, (h.dscs d).isSome → d < h.next
  chars : ∀ p, ∀ c ∈ h.chars p, c < h.next
  descriptors : ∀ c, ∀ d ∈ h.descriptors c, d < h.next

/-- The empty heap is closed. -/
theorem empty_closed : empty.Closed :=
  ⟨(fun _ h => nomatch h), (fun _ h => nomatch h), (fun _ h => nomatch h),
    (fun _ _ h => nomatch h), (fun _ _ h => nomatch h)⟩

/-- Editing a service creates and removes no service. -/
theorem modSvc_svcs_isSome (h : Heap) (p q : Ptr) (f : BLEService → BLEService) :
    ((h.modSvc p f).svcs q).isSome = (h.svcs q).isSome := by
  simp only [modSvc_svcs]; split <;> simp [*]

/-- Editing a characteristic creates and removes no characteristic. -/
theorem modChr_chrs_isSome (h : Heap) (c q : Ptr) (f : BLECharacteristic → BLECharacteristic) :
    ((h.modChr c f).chrs q).isSome = (h.chrs q).isSome := by
  simp only [modChr_chrs]; split <;> simp [*]

/-- Editing a descriptor creates and removes no descriptor. -/
theorem modDsc_dscs_isSome (h : Heap) (d q : Ptr) (f : BLEDescriptor → BLEDescriptor) :
    ((h.modDsc d f).dscs q).isSome = (h.dscs q).isSome := by
  simp only [modDsc_dscs]; split <;> simp [*]

/-- A heap with the tree of `h` has its services. -/
theorem SameTree.svcs_isSome {h h' : Heap} (ht : SameTree h h') (p : Ptr) :
    (h'.svcs p).isSome = (h.svcs p).isSome := by
  simpa [Heap.svcShape] using congrArg Option.isSome (ht.svcShape p)

/-- A heap with the tree of `h` has its descriptor lists. -/
theorem SameTree.descriptors_eq {h h' : Heap} (ht : SameTree h h') :
    h'.descriptors = h.descriptors := by
  funext c; simp only [descriptors, ht.chrs]

/-- A heap with the tree of a closed heap, which may have allocated more, is closed. -/
theorem Closed.sameTree {h h' : Heap} (hc : h.Closed) (ht : SameTree h h') : h'.Closed where
  svcs p hp := (hc.svcs p (ht.svcs_isSome p ▸ hp)).trans_le ht.next
  chrs c hp := (hc.chrs c (ht.chrs ▸ hp)).trans_le ht.next
  dscs d hp := (hc.dscs d (ht.dscs ▸ hp)).trans_le ht.next
  chars p c hp := (hc.chars p c (ht.chars_eq p ▸ hp)).trans_le ht.next
  descriptors c d hp := (hc.descriptors c d (ht.descriptors_eq ▸ hp)).trans_le ht.next

/-- Editing a service keeps the heap closed when every characteristic it then holds it held
before or is below `next`. -/
theorem Closed.modSvc {h : Heap} (hc : h.Closed) (p : Ptr) {f : BLEService → BLEService}
    (hf : ∀ x, ∀ c ∈ (f x).chars, c ∈ x.chars ∨ c < h.next) : (h.modSvc p f).Closed where
  svcs q hq := hc.svcs q (modSvc_svcs_isSome h p q f ▸ hq)
  chrs := hc.chrs
  dscs := hc.dscs
  chars q c hq := by
    rw [chars_modSvc] at hq
    split_ifs at hq with e
    · cases hx : h.svcs p with
      | none => simp [hx] at hq
      | some x =>
        simp only [hx, Option.map_some', Option.getD_some] at hq
        exact (hf x c hq).elim (fun m => hc.chars p c (by simp [Heap.chars, hx, m])) id
    · exact hc.chars q c hq
  descriptors := hc.descriptors

/-- Editing a characteristic keeps the heap closed when every descriptor it then holds it held
before or is below `next`. -/
theorem Closed.modChr {h : Heap} (hc : h.Closed) (c : Ptr)
    {f : BLECharacteristic → BLECharacteristic}
    (hf : ∀ x, ∀ d ∈ (f x).descriptors, d ∈ x.descriptors ∨ d < h.next) :
    (h.modChr c f).Closed where
  svcs := hc.svcs
  chrs q hq := hc.chrs q (modChr_chrs_isSome h c q f ▸ hq)
  dscs := hc.dscs
  chars := hc.chars
  descriptors q d hq := by
    rw [descriptors_modChr] at hq
    split_ifs at hq with e
    · cases hx : h.chrs c with
      | none => simp [hx] at hq
      | some x =>
        simp only [hx, Option.map_some', Option.getD_some] at hq
        exact (hf x d hq).elim (fun m => hc.descriptors c d (by simp [Heap.descriptors, hx, m])) id
    · exact hc.descriptors q d hq

/-- Editing a descriptor keeps the heap closed. -/
theorem Closed.modDsc {h : Heap} (hc : h.Closed) (d : Ptr) (f : BLEDescriptor → BLEDescriptor) :
    (h.modDsc d f).Closed where
  svcs := hc.svcs
  chrs := hc.chrs
  dscs q hq := hc.dscs q (modDsc_dscs_isSome h d q f ▸ hq)
  chars := hc.chars
  descriptors := hc.descriptors

/-- Allocating a service with no characteristic keeps the heap closed. -/
theorem Closed.newSvc {h : Heap} (hc : h.Closed) {x : BLEService} (hx : x.chars = []) :
    (h.newSvc x).Closed where
  svcs q hq := by
    by_cases e : q = h.next
    · simp [e]
    · simp only [newSvc_svcs, e, if_false] at hq; simp [hc.svcs q hq, Nat.lt_succ_of_lt]
  chrs c hq := Nat.lt_succ_of_lt (hc.chrs c hq)
  dscs d hq := Nat.lt_succ_of_lt (hc.dscs d hq)
  chars q c hq := by
    rw [chars_newSvc] at hq
    split_ifs at hq
    · simp [hx] at hq
    · exact Nat.lt_succ_of_lt (hc.chars q c hq)
  descriptors c d hq := Nat.lt_succ_of_lt (hc.descriptors c d hq)

/-- Allocating a characteristic with no descriptor keeps the heap closed. -/
theorem Closed.newChr {h : Heap} (hc : h.Closed) {x : BLECharacteristic} (hx : x.descriptors = []) :
    (h.newChr x).Closed where
  svcs p hq := Nat.lt_succ_of_lt (hc.svcs p hq)
  chrs q hq := by
    by_cases e : q = h.next
    · simp [e]
    · simp only [newChr_chrs, e, if_false] at hq; simp [hc.chrs q hq, Nat.lt_succ_of_lt]
  dscs d hq := Nat.lt_succ_of_lt (hc.dscs d hq)
  chars p c hq := Nat.lt_succ_of_lt (hc.chars p c hq)
  descriptors q d hq := by
    rw [descriptors_newChr] at hq
    split_ifs at hq
    · simp [hx] at hq
    · exact Nat.lt_succ_of_lt (hc.descriptors q d hq)

/-- Allocating a descriptor keeps the heap closed. -/
theorem Closed.newDsc {h : Heap} (hc : h.Closed) (x : BLEDescriptor) : (h.newDsc x).Closed where
  svcs p hq := Nat.lt_succ_of_lt (hc.svcs p hq)
  chrs c hq := Nat.lt_succ_of_lt (hc.chrs c hq)
  dscs q hq := by
    by_cases e : q = h.next
    · simp [e]
    · simp only [newDsc_dscs, e, if_false] at hq; simp [hc.dscs q hq, Nat.lt_succ_of_lt]
  chars p c hq := Nat.lt_succ_of_lt (hc.chars p c hq)
  descriptors c d hq := Nat.lt_succ_of_lt (hc.descriptors c d hq)

/-- Writing the value handles keeps the heap closed. -/
theorem Closed.writeValHandles {h : Heap} (hc : h.Closed) (t : List SvcEntry) :
    (Host.writeValHandles h t).Closed :=
  List.foldlRecOn _ _ h hc fun _ hc c _ => by
    unfold Host.writeValHandle
    split
    · exact hc.modChr _ fun x d hd => .inl hd
    · exact hc

/-- The descriptor lookups of a service keep the heap closed. -/
theorem Closed.findDscHandles {h : Heap} (hc : h.Closed) (t : List SvcEntry) (p : Ptr) :
    (findDscHandles t h p).Closed :=
  List.foldlRecOn _ _ h hc fun _ hc _ _ => List.foldlRecOn _ _ _ hc fun _ hc _ _ => by
    rw [findDscHandle_eq]; exact hc.modDsc _ _

/-- Writing the value handles leaves the services as they were. -/
theorem writeValHandles_svcs (h : Heap) (t : List SvcEntry) :
    (Host.writeValHandles h t).svcs = h.svcs :=
  List.foldlRecOn (motive := fun h' : Heap => h'.svcs = h.svcs) _ _ h rfl fun _ e c _ => by
    unfold Host.writeValHandle
    split
    · exact e
    · exact e

/-- The descriptor lookups leave the services as they were. -/
theorem findDscHandles_svcs (t : List SvcEntry) (h : Heap) (p : Ptr) :
    (findDscHandles t h p).svcs = h.svcs :=
  List.foldlRecOn (motive := fun h' : Heap => h'.svcs = h.svcs) _ _ h rfl fun _ e _ _ =>
    List.foldlRecOn (motive := fun h' : Heap => h'.svcs = h.svcs) _ _ _ e fun _ e _ _ => by
      rw [findDscHandle_eq]; exact e

/-- The lookups of `start` create and remove no service. -/
theorem svcs_isSome_findHandles (t : List SvcEntry) (q : Ptr) :
    ∀ (v : List Ptr) (h : Heap), ((findHandles t v h).svcs q).isSome = (h.svcs q).isSome
  | [], _ => rfl
  | p :: ps, h => by
    unfold Heap.findHandles
    split
    · split
      · split
        · rw [svcs_isSome_findHandles, findDscHandles_svcs, modSvc_svcs_isSome]
        · exact svcs_isSome_findHandles t q ps h
      · rw [svcs_isSome_findHandles, findDscHandles_svcs]
    · exact svcs_isSome_findHandles t q ps h

/-- The lookups of `start` keep the heap closed. -/
theorem Closed.findHandles (t : List SvcEntry) :
    ∀ (v : List Ptr) {h : Heap}, h.Closed → (findHandles t v h).Closed
  | [], _, hc => hc
  | p :: ps, h, hc => by
    unfold Heap.findHandles
    split
    · split
      · split
        · refine Closed.findHandles t ps ((hc.modSvc p fun x c hm => ?_).findDscHandles t p)
          exact .inl hm
        · exact Closed.findHandles t ps hc
      · exact Closed.findHandles t ps (hc.findDscHandles t p)
    · exact Closed.findHandles t ps hc

end Heap

namespace State

/-- The heap is closed, and every service of `m_svcVec` exists. -/
def Closed (s : State) : Prop :=
  s.heap.Closed ∧ ∀ p ∈ s.server.svcVec, (s.heap.svcs p).isSome

section
variable {s : State}

/-- A new heap that keeps every service, and a vector of existing services. -/
theorem Closed.withHeap (hc : s.Closed) {h : Heap} (hh : h.Closed)
    (hsv : ∀ p, (s.heap.svcs p).isSome → (h.svcs p).isSome) : (s.withHeap h).Closed :=
  ⟨hh, fun p hp => hsv p (hc.2 p hp)⟩

/-- A vector of existing services. -/
theorem Closed.withSvcVec (hc : s.Closed) {v : List Ptr}
    (hv : ∀ p ∈ v, (s.heap.svcs p).isSome) : (s.withSvcVec v).Closed :=
  ⟨hc.1, hv⟩

/-- A new heap with the tree of the old one. -/
theorem Closed.sameTree (hc : s.Closed) {h : Heap} (ht : Heap.SameTree s.heap h) :
    (s.withHeap h).Closed :=
  hc.withHeap (hc.1.sameTree ht) fun p hp => ht.svcs_isSome p ▸ hp

/-- `serviceChanged()` touches no object. -/
@[simp] theorem closed_serviceChanged : s.serviceChanged.Closed ↔ s.Closed := by
  unfold serviceChanged; split <;> exact Iff.rfl

/-- A host call touches no object. -/
@[simp] theorem closed_call (c : Nat → HostCall) : (s.call c).2.Closed ↔ s.Closed := Iff.rfl

/-- Logging a host call touches no object. -/
@[simp] theorem closed_log (c : HostCall) : (s.log c).Closed ↔ s.Closed := Iff.rfl

/-- Editing a service whose new characteristics it held or are below `next`. -/
theorem Closed.modSvc (hc : s.Closed) (p : Ptr) {f : BLEService → BLEService}
    (hf : ∀ x, ∀ c ∈ (f x).chars, c ∈ x.chars ∨ c < s.heap.next) :
    (s.withHeap (s.heap.modSvc p f)).Closed :=
  hc.withHeap (hc.1.modSvc p hf) fun q hq => (Heap.modSvc_svcs_isSome _ p q f).symm ▸ hq

/-- Editing a characteristic whose new descriptors it held or are below `next`. -/
theorem Closed.modChr (hc : s.Closed) (c : Ptr) {f : BLECharacteristic → BLECharacteristic}
    (hf : ∀ x, ∀ d ∈ (f x).descriptors, d ∈ x.descriptors ∨ d < s.heap.next) :
    (s.withHeap (s.heap.modChr c f)).Closed :=
  hc.withHeap (hc.1.modChr c hf) fun _ => id

/-- Editing a descriptor. -/
theorem Closed.modDsc (hc : s.Closed) (d : Ptr) (f : BLEDescriptor → BLEDescriptor) :
    (s.withHeap (s.heap.modDsc d f)).Closed :=
  hc.withHeap (hc.1.modDsc d f) fun _ => id

/-- Allocating a service with no characteristic. -/
theorem Closed.newSvc (hc : s.Closed) {x : BLEService} (hx : x.chars = []) :
    (s.withHeap (s.heap.newSvc x)).Closed :=
  hc.withHeap (hc.1.newSvc hx) fun q hq => by
    simp only [Heap.newSvc_svcs]; split <;> simp [hq]

/-- Allocating a characteristic with no descriptor. -/
theorem Closed.newChr (hc : s.Closed) {x : BLECharacteristic} (hx : x.descriptors = []) :
    (s.withHeap (s.heap.newChr x)).Closed :=
  hc.withHeap (hc.1.newChr hx) fun _ => id

/-- Allocating a descriptor. -/
theorem Closed.newDsc (hc : s.Closed) (x : BLEDescriptor) : (s.withHeap (s.heap.newDsc x)).Closed :=
  hc.withHeap (hc.1.newDsc x) fun _ => id

/-! ## Every operation keeps the invariant -/

/-- `createService` appends the service it allocates to `m_svcVec`. -/
theorem Closed.createService (hc : s.Closed) (u : UUID) : (s.createService u).2.Closed := by
  refine closed_serviceChanged.2 ((hc.newSvc rfl).withSvcVec fun p hp => ?_)
  rcases List.mem_append.1 hp with hp | hp
  · exact (hc.newSvc rfl).2 p hp
  · simp [List.mem_singleton.1 hp]

/-- `addService` appends an existing service or edits its removal flag. -/
theorem Closed.addService (hc : s.Closed) (p : Ptr) : (s.addService p).Closed := by
  unfold State.addService
  split
  · exact hc
  · split_ifs
    · refine hc.withSvcVec fun q hq => ?_
      rcases List.mem_append.1 hq with hq | hq
      · exact hc.2 q hq
      · simp [List.mem_singleton.1 hq, *]
    · refine closed_serviceChanged.2 (hc.modSvc p fun x c hm => ?_)
      exact .inl hm

/-- `removeService` hides the service, or deletes it and erases it from `m_svcVec`. -/
theorem Closed.removeService (hc : s.Closed) (p : Ptr) (del : Bool) :
    (s.removeService p del).Closed := by
  unfold State.removeService
  split
  · exact hc
  · split
    · split
      · exact (hc.sameTree (Heap.sameTree_deleteService _ p)).withSvcVec fun q hq =>
          (hc.sameTree (Heap.sameTree_deleteService _ p)).2 q (List.mem_of_mem_erase hq)
      · exact hc
    · split
      next rc t heq =>
      obtain rfl : (s.call _).2 = t := congrArg Prod.snd heq
      split
      · exact hc
      · refine closed_serviceChanged.2 (Closed.modSvc (s := (s.call _).2) hc p fun x c hm => ?_)
        exact .inl hm

/-- `addCharacteristic` appends an existing characteristic or edits its flags. -/
theorem Closed.addCharacteristic (hc : s.Closed) (p c : Ptr) :
    (s.addCharacteristic p c).Closed := by
  cases hchr : s.heap.chrs c with
  | none => simpa [State.addCharacteristic, hchr] using hc
  | some chr =>
    have hcn : c < s.heap.next := hc.1.chrs c (by simp [hchr])
    rw [addCharacteristic_of_chrs hchr]
    split_ifs
    · refine (hc.modChr c ?_).modChr c ?_ <;> exact fun x d hd => .inl hd
    · refine hc.modChr c fun x d hd => ?_
      exact .inl hd
    · refine closed_serviceChanged.2 ((hc.modSvc p fun x q hq => ?_).modChr c fun x d hd => ?_)
      on_goal 2 => exact .inl hd
      rcases List.mem_append.1 hq with hq | hq
      · exact .inl hq
      · exact .inr (List.mem_singleton.1 hq ▸ hcn)

/-- `removeCharacteristic` hides the characteristic, or deletes it and erases it. -/
theorem Closed.removeCharacteristic (hc : s.Closed) (p c : Ptr) (del : Bool) :
    (s.removeCharacteristic p c del).Closed := by
  unfold State.removeCharacteristic
  split
  · exact hc
  · split
    · split
      · refine (hc.sameTree (Heap.sameTree_deleteCharacteristic _ c)).modSvc p fun x q hq => ?_
        exact .inl (List.mem_of_mem_erase hq)
      · exact hc
    · refine closed_serviceChanged.2 (hc.modChr c fun x d hd => ?_)
      exact .inl hd

/-- `addDescriptor` appends an existing descriptor or edits its flags. -/
theorem Closed.addDescriptor (hc : s.Closed) (c d : Ptr) : (s.addDescriptor c d).Closed := by
  cases hdsc : s.heap.dscs d with
  | none => simpa [State.addDescriptor, hdsc] using hc
  | some dsc =>
    have hdn : d < s.heap.next := hc.1.dscs d (by simp [hdsc])
    rw [addDescriptor_of_dscs hdsc]
    split_ifs
    · exact (hc.modDsc d _).modDsc d _
    · exact hc.modDsc d _
    · refine closed_serviceChanged.2 ((hc.modChr c fun x e he => ?_).modDsc d _)
      rcases List.mem_append.1 he with he | he
      · exact .inl he
      · exact .inr (List.mem_singleton.1 he ▸ hdn)

/-- `removeDescriptor` hides the descriptor, or deletes it and erases it. -/
theorem Closed.removeDescriptor (hc : s.Closed) (c d : Ptr) (del : Bool) :
    (s.removeDescriptor c d del).Closed := by
  unfold State.removeDescriptor
  split
  · exact hc
  · split
    · split
      · refine (hc.sameTree (Heap.sameTree_free _ d)).modChr c fun x e he => ?_
        exact .inl (List.mem_of_mem_erase he)
      · exact hc
    · exact closed_serviceChanged.2 (hc.modDsc d _)

/-- `create2904` allocates the descriptor and adds it. -/
theorem Closed.create2904 (hc : s.Closed) (c : Ptr) : (s.create2904 c).2.Closed :=
  (hc.newDsc _).addDescriptor c _

/-- `createDescriptor` allocates the descriptor and adds it. -/
theorem Closed.createDescriptor (hc : s.Closed) (c : Ptr) (u : UUID) :
    (s.createDescriptor c u).2.Closed := by
  unfold State.createDescriptor
  split_ifs
  · exact (hc.create2904 c).addDescriptor c _
  · exact (hc.newDsc _).addDescriptor c _

/-- `t` keeps the tree of `s` and a part of its vector. -/
theorem Closed.of_sameTree (hc : s.Closed) {t : State} (ht : Heap.SameTree s.heap t.heap)
    (hv : ∀ p ∈ t.server.svcVec, p ∈ s.server.svcVec) : t.Closed :=
  ⟨hc.1.sameTree ht, fun p hp => ht.svcs_isSome p ▸ hc.2 p (hv p hp)⟩

/-- `BLEService::start` keeps the tree. -/
theorem Closed.startService (hc : s.Closed) (p : Ptr) : (s.startService p).2.Closed :=
  hc.of_sameTree (startService_frame s p).1 fun _ hq => (startService_frame s p).2 ▸ hq

/-- `BLEServer::start` writes handles only. -/
theorem Closed.start (hc : s.Closed) : s.start.Closed := by
  unfold State.start
  split
  · exact hc
  · simp only
    split
    · exact hc
    · have hh : (Heap.findHandles (s.call .gattsStart).2.registerAll.host.table s.server.svcVec
          (s.call .gattsStart).2.registerAll.heap).Closed :=
        Heap.Closed.findHandles _ _ (hc.1.writeValHandles _)
      have hv : ∀ p ∈ s.server.svcVec, (((Heap.findHandles
          (s.call .gattsStart).2.registerAll.host.table s.server.svcVec
          (s.call .gattsStart).2.registerAll.heap)).svcs p).isSome := fun p hp => by
        rw [Heap.svcs_isSome_findHandles]
        simpa [registerAll, Heap.writeValHandles_svcs] using hc.2 p hp
      split <;> exact ⟨hh, hv⟩

/-- Every slot loop of `resetGATT` keeps only services of its vector. -/
theorem mem_of_mem_resetLoop {p : Ptr} : ∀ {v : List Ptr} (t : State), p ∈ (resetLoop v t).1 → p ∈ v
  | [], _, h => h
  | q :: qs, t, h => by
    unfold resetLoop at h
    split at h
    · split at h
      · split at h
        · exact List.mem_cons_of_mem _ (mem_of_mem_resetLoop _ h)
        · rcases List.mem_cons.1 h with h | h
          · exact h ▸ List.mem_cons_self _ _
          · exact List.mem_cons_of_mem _ (mem_of_mem_resetLoop _ h)
      · rcases List.mem_cons.1 h with h | h
        · exact h ▸ List.mem_cons_self _ _
        · exact List.mem_cons_of_mem _ (mem_of_mem_resetLoop _ h)
    · rcases List.mem_cons.1 h with h | h
      · exact h ▸ List.mem_cons_self _ _
      · exact List.mem_cons_of_mem _ (mem_of_mem_resetLoop _ h)

/-- `resetGATT` keeps the tree and only services of its vector. -/
theorem Closed.resetGATT (hc : s.Closed) : s.resetGATT.Closed := by
  by_cases h : s.getConnectedCount > 0
  · rwa [State.resetGATT, if_pos h]
  · obtain ⟨t, ht, hts, -, he⟩ := resetGATT_of_guard h
    rw [he]
    exact hc.of_sameTree (ht ▸ (resetLoop_frame _ t).1) fun p hp =>
      hts ▸ mem_of_mem_resetLoop t hp

/-- A connection changes no object. -/
theorem Closed.connect (hc : s.Closed) (st h : Nat) : (s.connect st h).Closed := by
  unfold State.connect handleConnect openConn
  split_ifs <;> exact hc

/-- A disconnection changes no object, or runs the rebuild. -/
theorem Closed.disconnect (hc : s.Closed) (h : Nat) : (s.disconnect h).Closed := by
  unfold State.disconnect handleDisconnect
  dsimp only
  split
  · exact Closed.resetGATT (s := (s.closeConn h).releaseSlot h) hc
  · exact hc

/-- Every operation keeps the invariant, whatever its arguments. -/
theorem Closed.step (hc : s.Closed) : ∀ op : Op, (s.step op).Closed
  | .createService u => hc.createService u
  | .newService _ => hc.newSvc rfl
  | .addService p => hc.addService p
  | .removeService p d => hc.removeService p d
  | .createCharacteristic p _ _ => (hc.newChr rfl).addCharacteristic p _
  | .newCharacteristic _ _ => hc.newChr rfl
  | .addCharacteristic p c => hc.addCharacteristic p c
  | .removeCharacteristic p c d => hc.removeCharacteristic p c d
  | .createDescriptor c u => hc.createDescriptor c u
  | .create2904 c => hc.create2904 c
  | .newDescriptor _ => hc.newDsc _
  | .addDescriptor c d => hc.addDescriptor c d
  | .removeDescriptor c d del => hc.removeDescriptor c d del
  | .startService p => hc.startService p
  | .start => hc.start
  | .connect st h => hc.connect st h
  | .disconnect h => hc.disconnect h

/-- Every run keeps the invariant. -/
theorem Closed.run (hc : s.Closed) (ops : List Op) : (s.run ops).Closed :=
  ops.foldlRecOn _ s hc fun _ hc op _ => Closed.step hc op

end

/-- A fresh server is closed. -/
theorem closed_init (n base : Nat) (results : Nat → Nat) : (init n base results).Closed :=
  ⟨Heap.empty_closed, fun _ h => nomatch h⟩

end State

/-- The invariant holds in every reachable state. -/
theorem Reachable.closed {s : State} (hs : Reachable s) : s.Closed := by
  induction hs with
  | init n base results => exact State.closed_init n base results
  | step _ _ ih => exact ih.step _

end BleGatt
