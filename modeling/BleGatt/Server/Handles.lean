import BleGatt.Server.Lookup
import Mathlib.Data.List.Intervals
import Mathlib.Data.List.Nodup
import Mathlib.Data.List.Pairwise

/-!
# Handles

`ble_gatts_start` numbers the attributes of the records added since the last reset one after
another, from the handle after the last one it gave (`Host.registerSvcs`), and writes each
characteristic's value handle through the record's `val_handle` pointer
(`Host.writeValHandles`). `BLEServer::start` then gives every service and descriptor of
`m_svcVec` the handle the host answers for its UUID path (`Heap.findHandles`).

In every reachable state the table holds the handles `base`, `base + 1`, …, `nextHandle - 1`,
each once; each of its entries carries the object it registers, with the entry's UUID
(`Heap.Carries`); and every characteristic the table registers holds the value handle of its
latest registration (`Reachable.handles`). So no two registered characteristics hold one value
handle. When the UUID paths of the table are distinct (`Host.UuidPathsDistinct`), the start
that registers it also gives every live service it registers, and every descriptor it registers
that sits in the tree only under the characteristic and service it was registered with
(`Heap.OnlyUnder`), its registered handle (`start_registered_handles`). The three are
`registered_handles_distinct`.

The library clears no handle: a characteristic that is hidden, or that a rebuild left out of
the table, keeps the handle it had, which the next registration may give to another one. The
`BLE_GAP_EVENT_SUBSCRIBE` arm of `handleGapEvent` (`BLEServer.cpp:416`) dispatches a
subscription to every characteristic of `m_svcVec` holding the handle
(`State.subscribeTargets`); `stale_handle_shared` is a run where it reaches a hidden one.
-/

namespace BleGatt

/-- The handles a registered characteristic takes: its declaration, its value, the client
configuration descriptor the host adds, and its descriptors. -/
def ChrEntry.handles (e : ChrEntry) : List Nat :=
  e.defHandle :: e.valHandle :: (e.cccd.toList ++ e.dscs.map (·.handle))

/-- The handles a registered service takes. -/
def SvcEntry.handles (e : SvcEntry) : List Nat := e.handle :: e.chrs.flatMap ChrEntry.handles

namespace Host

/-- Every handle of the table, in order. -/
def handles (t : List SvcEntry) : List Nat := t.flatMap SvcEntry.handles

/-- The registered descriptors of a table, in order. -/
def dscEntries (t : List SvcEntry) : List DscEntry := (chrEntries t).flatMap (·.dscs)

/-- The empty table registers no characteristic. -/
@[simp] theorem chrEntries_nil : chrEntries [] = [] := rfl

/-- A service entry's characteristics come before the rest of the table's. -/
@[simp] theorem chrEntries_cons (e : SvcEntry) (t : List SvcEntry) :
    chrEntries (e :: t) = e.chrs ++ chrEntries t := rfl

/-- The characteristics of two tables, one after the other. -/
@[simp] theorem chrEntries_append (t t' : List SvcEntry) :
    chrEntries (t ++ t') = chrEntries t ++ chrEntries t' := List.flatMap_append _ _ _

/-- The descriptors of two tables, one after the other. -/
@[simp] theorem dscEntries_append (t t' : List SvcEntry) :
    dscEntries (t ++ t') = dscEntries t ++ dscEntries t' := by
  simp only [dscEntries, chrEntries_append, List.flatMap_append]

/-- The value handle of the latest registration whose `arg` is `c`: the one `val_handle` was
last written with. -/
def valHandleOf : List ChrEntry → Ptr → Option Nat
  | [], _ => none
  | e :: es, c => (valHandleOf es c).or (if e.arg = some c then some e.valHandle else none)

/-- Over two tables, the later table's registration is the latest. -/
theorem valHandleOf_append (l₁ l₂ : List ChrEntry) (c : Ptr) :
    valHandleOf (l₁ ++ l₂) c = (valHandleOf l₂ c).or (valHandleOf l₁ c) := by
  induction l₁ with
  | nil => simp [valHandleOf, Option.or_none]
  | cons e es ih => rw [List.cons_append, valHandleOf, valHandleOf, ih, Option.or_assoc]

/-- A value handle is that of a registration of the characteristic. -/
theorem exists_of_valHandleOf {c : Ptr} {n : Nat} :
    ∀ {l : List ChrEntry}, valHandleOf l c = some n → ∃ e ∈ l, e.arg = some c ∧ e.valHandle = n
  | e :: es, h => by
    rcases Option.or_eq_some.1 h with h | ⟨-, h⟩
    · obtain ⟨e', he', h'⟩ := exists_of_valHandleOf h
      exact ⟨e', List.mem_cons_of_mem e he', h'⟩
    · split at h
      · exact ⟨e, List.mem_cons_self e es, ‹_›, Option.some.inj h⟩
      · cases h

/-! ## Lookups by UUID path -/

/-- The table's UUID paths are distinct: no two services share a UUID, no two characteristics
of one service, and no two of the attributes `ble_gatts_find_dsc` compares under one
characteristic. -/
def UuidPathsDistinct (t : List SvcEntry) : Prop :=
  (t.map (·.uuid)).Nodup ∧
    ∀ e ∈ t, (e.chrs.map (·.uuid)).Nodup ∧ ∀ c ∈ e.chrs, (c.dscAttrs.map (·.uuid)).Nodup

/-- Distinct UUID paths can be checked. -/
instance (t : List SvcEntry) : Decidable (UuidPathsDistinct t) := by
  unfold UuidPathsDistinct; infer_instance

/-- In a list whose keys are distinct, the first entry with an entry's key is that entry. -/
theorem find?_key {α : Type} (key : α → UUID) {l : List α} (hl : (l.map key).Nodup) {a : α}
    (ha : a ∈ l) : l.find? (fun x => key x == key a) = some a := by
  obtain ⟨b, hb⟩ := Option.isSome_iff_exists.1
    ((List.find?_isSome (p := fun x => key x == key a)).2 ⟨a, ha, beq_self_eq_true _⟩)
  rw [hb, List.inj_on_of_nodup_map hl (List.mem_of_find?_eq_some hb) ha
    (by simpa using List.find?_some hb)]

/-- With distinct UUID paths, `ble_gatts_find_svc` answers a registered service's UUID with its
handle. -/
theorem findSvc_of_mem {t : List SvcEntry} (hd : UuidPathsDistinct t) {e : SvcEntry}
    (he : e ∈ t) : findSvc t e.uuid = some e.handle := by
  rw [findSvc, find?_key SvcEntry.uuid hd.1 he]; rfl

/-- With distinct UUID paths, `ble_gatts_find_dsc` answers a registered descriptor's UUID path
with its handle. -/
theorem findDsc_of_mem {t : List SvcEntry} (hd : UuidPathsDistinct t) {e : SvcEntry}
    (he : e ∈ t) {c : ChrEntry} (hc : c ∈ e.chrs) {d : DscEntry} (hdc : d ∈ c.dscs) :
    findDsc t e.uuid c.uuid d.uuid = some d.handle := by
  simp only [findDsc, find?_key SvcEntry.uuid hd.1 he, find?_key ChrEntry.uuid (hd.2 e he).1 hc,
    find?_key DscEntry.uuid ((hd.2 e he).2 c hc) (List.mem_append_right _ hdc),
    Option.bind_eq_bind, Option.some_bind, Option.map_some']

/-! ## Numbering -/

/-- `registerDscs` numbers the descriptors from `n` on, one handle each. -/
theorem registerDscs_handles : ∀ (n : Nat) (ds : List DscDef),
    (registerDscs n ds).1.map (·.handle) = List.Ico n (registerDscs n ds).2 ∧
      (registerDscs n ds).2 = n + ds.length
  | n, [] => by simp [registerDscs, List.Ico.self_empty]
  | n, d :: ds => by
    obtain ⟨h1, h2⟩ := registerDscs_handles (n + 1) ds
    simp only [registerDscs, List.map_cons, h1, h2, List.length_cons]
    exact ⟨(List.Ico.eq_cons (by omega)).symm, by omega⟩

/-- `registerChrs` numbers the characteristics from `n` on: each its declaration and value, its
client configuration descriptor when it notifies or indicates, then its descriptors. -/
theorem registerChrs_handles (h : Heap) : ∀ (n : Nat) (cs : List ChrDef),
    (registerChrs h n cs).1.flatMap ChrEntry.handles = List.Ico n (registerChrs h n cs).2 ∧
      n ≤ (registerChrs h n cs).2
  | n, [] => by simp [registerChrs, List.Ico.self_empty]
  | n, c :: cs => by
    simp only [registerChrs, List.flatMap_cons, ChrEntry.handles]
    generalize h.readDscDefs c.descriptors = ds
    /- the entry's own handles run from `n` up to `m`, where its descriptors start -/
    have entry : ∀ m (cc : Option Nat), n :: (n + 1) :: cc.toList = List.Ico n m → n ≤ m →
        (n :: (n + 1) :: (cc.toList ++ (registerDscs m ds).1.map (·.handle))) ++
          (registerChrs h (registerDscs m ds).2 cs).1.flatMap ChrEntry.handles =
        List.Ico n (registerChrs h (registerDscs m ds).2 cs).2 ∧
        n ≤ (registerChrs h (registerDscs m ds).2 cs).2 := by
      intro m cc hcc hm
      obtain ⟨d1, d2⟩ := registerDscs_handles m ds
      obtain ⟨r1, r2⟩ := registerChrs_handles h (registerDscs m ds).2 cs
      have hd : m ≤ (registerDscs m ds).2 := by omega
      refine ⟨?_, by omega⟩
      rw [← List.cons_append, ← List.cons_append, hcc, d1, List.Ico.append_consecutive hm hd, r1,
        List.Ico.append_consecutive (hm.trans hd) r2]
    split_ifs <;> exact entry _ _ (by simp [List.Ico, List.range'_succ]) (by omega)

/-- `registerSvcs` numbers the services whose records were added from `n` on, each its
declaration then its characteristics. -/
theorem registerSvcs_handles (h : Heap) : ∀ (n : Nat) (ps : List Ptr),
    handles (registerSvcs h n ps).1 = List.Ico n (registerSvcs h n ps).2 ∧
      n ≤ (registerSvcs h n ps).2
  | n, [] => by simp [registerSvcs, handles, List.Ico.self_empty]
  | n, p :: ps => by
    unfold registerSvcs
    split
    · exact registerSvcs_handles h n ps
    · next svc _ =>
      obtain ⟨c1, c2⟩ := registerChrs_handles h (n + 1) (h.readChrDefs svc.characteristics)
      obtain ⟨r1, r2⟩ := registerSvcs_handles h
        (registerChrs h (n + 1) (h.readChrDefs svc.characteristics)).2 ps
      simp only [handles, List.flatMap_cons, SvcEntry.handles] at r1 ⊢
      refine ⟨?_, by omega⟩
      rw [c1, r1, List.cons_append, List.Ico.append_consecutive (by omega) r2,
        ← List.Ico.eq_cons (by omega)]

/-- The handles of the registered characteristics are among the table's, in order. -/
theorem chrHandles_sublist : ∀ t : List SvcEntry,
    ((chrEntries t).flatMap ChrEntry.handles).Sublist (handles t)
  | [] => by simp [chrEntries, handles]
  | e :: t => by
    simp only [chrEntries, handles, List.flatMap_cons, List.flatMap_append, SvcEntry.handles] at *
    exact (List.sublist_cons_self _ _).append (chrHandles_sublist t)

/-- In a table whose handles are distinct, a value handle is the latest one of at most one
characteristic. -/
theorem valHandleOf_inj {t : List SvcEntry} (hnd : (handles t).Nodup) {c c' : Ptr} {n : Nat}
    (h₁ : valHandleOf (chrEntries t) c = some n) (h₂ : valHandleOf (chrEntries t) c' = some n) :
    c' = c := by
  obtain ⟨e, he, hea, hev⟩ := exists_of_valHandleOf h₁
  obtain ⟨e', he', hea', hev'⟩ := exists_of_valHandleOf h₂
  by_contra hne
  have hee : e' ≠ e := fun h => hne (Option.some.inj (hea'.symm.trans (h ▸ hea)))
  have hdisj : List.Disjoint e'.handles e.handles :=
    (List.nodup_flatMap.1 (hnd.sublist (chrHandles_sublist t))).2.forall
      (fun _ _ => List.disjoint_symm) he' he hee
  exact hdisj (show n ∈ e'.handles by simp [ChrEntry.handles, hev'])
    (show n ∈ e.handles by simp [ChrEntry.handles, hev])

end Host

/-! ## Objects, arrays and table entries -/

namespace Heap

/-- `getHandle()` of the characteristic at `c`. -/
def chrHandle (h : Heap) (c : Ptr) : Option Nat := (h.chrs c).map (·.handle)

/-- An edit that keeps a service's UUID keeps every service UUID. -/
theorem svcUuid_modSvc (h : Heap) (p : Ptr) {f : BLEService → BLEService}
    (hf : ∀ x, (f x).uuid = x.uuid) : (h.modSvc p f).svcUuid = h.svcUuid := by
  funext q; simp only [svcUuid, modSvc_svcs]; split <;> simp [Option.map_map, Function.comp_def, hf]

/-- An edit that keeps a characteristic's UUID keeps every characteristic UUID. -/
theorem chrUuid_modChr (h : Heap) (c : Ptr) {f : BLECharacteristic → BLECharacteristic}
    (hf : ∀ x, (f x).uuid = x.uuid) : (h.modChr c f).chrUuid = h.chrUuid := by
  funext q; simp only [chrUuid, modChr_chrs]; split <;> simp [Option.map_map, Function.comp_def, hf]

/-- An edit that keeps a descriptor's UUID keeps every descriptor UUID. -/
theorem dscUuid_modDsc (h : Heap) (d : Ptr) {f : BLEDescriptor → BLEDescriptor}
    (hf : ∀ x, (f x).uuid = x.uuid) : (h.modDsc d f).dscUuid = h.dscUuid := by
  funext q; simp only [dscUuid, modDsc_dscs]; split <;> simp [Option.map_map, Function.comp_def, hf]

/-- Every entry of a characteristic or descriptor array that has a UUID points at an object
with that UUID. -/
structure ArgsExist (h : Heap) : Prop where
  chrs : ∀ a l, h.chrDefs a = some l → ∀ e ∈ l, ∀ u ∈ e.uuid,
    ∃ c, e.arg = some c ∧ h.chrUuid c = some u
  dscs : ∀ a l, h.dscDefs a = some l → ∀ e ∈ l, ∀ u ∈ e.uuid,
    ∃ d, e.arg = some d ∧ h.dscUuid d = some u

/-- Every entry of the table carries the object it registers, with the entry's UUID: a service
entry its service, a characteristic or descriptor entry its `arg`. -/
structure Carries (h : Heap) (t : List SvcEntry) : Prop where
  svcs : ∀ e ∈ t, h.svcUuid e.svc = some e.uuid
  chrs : ∀ e ∈ Host.chrEntries t, ∃ c, e.arg = some c ∧ h.chrUuid c = some e.uuid
  dscs : ∀ e ∈ Host.dscEntries t, ∃ d, e.arg = some d ∧ h.dscUuid d = some e.uuid

/-- `h'` keeps the UUID of every object of `h`. -/
structure KeepsUuids (h h' : Heap) : Prop where
  svc : ∀ p u, h.svcUuid p = some u → h'.svcUuid p = some u
  chr : ∀ c u, h.chrUuid c = some u → h'.chrUuid c = some u
  dsc : ∀ d u, h.dscUuid d = some u → h'.dscUuid d = some u

/-- A heap with the UUIDs of `h` keeps them. -/
theorem KeepsUuids.of_eq {h h' : Heap} (hs : h'.svcUuid = h.svcUuid)
    (hc : h'.chrUuid = h.chrUuid) (hd : h'.dscUuid = h.dscUuid) : KeepsUuids h h' :=
  ⟨fun _ _ e => by rwa [hs], fun _ _ e => by rwa [hc], fun _ _ e => by rwa [hd]⟩

/-- The entries of a table stay carried by a heap that keeps the UUIDs. -/
theorem Carries.keeps {h h' : Heap} {t : List SvcEntry} (hc : h.Carries t)
    (hk : KeepsUuids h h') : h'.Carries t where
  svcs e he := hk.svc _ _ (hc.svcs e he)
  chrs e he := let ⟨c, h1, h2⟩ := hc.chrs e he; ⟨c, h1, hk.chr _ _ h2⟩
  dscs e he := let ⟨d, h1, h2⟩ := hc.dscs e he; ⟨d, h1, hk.dsc _ _ h2⟩

/-- The arrays' entries stay carried by a heap that keeps the arrays and the UUIDs. -/
theorem ArgsExist.keeps {h h' : Heap} (ha : h.ArgsExist) (hk : KeepsUuids h h')
    (hc : h'.chrDefs = h.chrDefs) (hd : h'.dscDefs = h.dscDefs) : h'.ArgsExist where
  chrs a l hl e he u hu :=
    let ⟨c, h1, h2⟩ := ha.chrs a l (hc ▸ hl) e he u hu; ⟨c, h1, hk.chr _ _ h2⟩
  dscs a l hl e he u hu :=
    let ⟨d, h1, h2⟩ := ha.dscs a l (hd ▸ hl) e he u hu; ⟨d, h1, hk.dsc _ _ h2⟩

/-- The empty table carries nothing. -/
theorem Carries.nil (h : Heap) : h.Carries [] :=
  ⟨by simp, by simp, by simp [Host.dscEntries]⟩

/-- A service entry carried with its characteristics and descriptors, before a carried table. -/
theorem Carries.cons {h : Heap} {e : SvcEntry} {t : List SvcEntry}
    (hs : h.svcUuid e.svc = some e.uuid)
    (hc : ∀ c ∈ e.chrs, (∃ q, c.arg = some q ∧ h.chrUuid q = some c.uuid) ∧
      ∀ d ∈ c.dscs, ∃ q, d.arg = some q ∧ h.dscUuid q = some d.uuid)
    (ht : h.Carries t) : h.Carries (e :: t) where
  svcs x hx := (List.mem_cons.1 hx).elim (fun hx => hx ▸ hs) (ht.svcs x)
  chrs x hx := by
    rw [Host.chrEntries_cons, List.mem_append] at hx
    exact hx.elim (fun hx => (hc x hx).1) (ht.chrs x)
  dscs x hx := by
    obtain ⟨c, hc', hx⟩ := List.mem_flatMap.1 hx
    rw [Host.chrEntries_cons, List.mem_append] at hc'
    exact hc'.elim (fun hc' => (hc c hc').2 x hx)
      fun hc' => ht.dscs x (List.mem_flatMap.2 ⟨c, hc', hx⟩)

/-- Two carried tables, one after the other. -/
theorem Carries.append {h : Heap} {t t' : List SvcEntry} (hc : h.Carries t)
    (hc' : h.Carries t') : h.Carries (t ++ t') where
  svcs e he := (List.mem_append.1 he).elim (hc.svcs e) (hc'.svcs e)
  chrs e he := by
    rw [Host.chrEntries_append, List.mem_append] at he
    exact he.elim (hc.chrs e) (hc'.chrs e)
  dscs e he := by
    rw [Host.dscEntries_append, List.mem_append] at he
    exact he.elim (hc.dscs e) (hc'.dscs e)

/-! ## What the registration reads -/

/-- An entry read up to the terminator is an entry of the array, and has a UUID. -/
theorem mem_takeWhile_uuid {α : Type} {uuid : α → Option UUID} {l : Option (List α)} {e : α}
    (he : e ∈ (l.getD []).takeWhile fun x => (uuid x).isSome) :
    ∃ l' u, l = some l' ∧ e ∈ l' ∧ uuid e = some u := by
  cases l with
  | none => cases he
  | some l =>
    have hsome := List.mem_takeWhile_imp he
    obtain ⟨u, hu⟩ := Option.isSome_iff_exists.1 hsome
    exact ⟨l, u, rfl, List.takeWhile_subset _ he, hu⟩

/-- The entries `readChrDefs` reads up to the terminator carry their characteristics. -/
theorem ArgsExist.readChrDefs {h : Heap} (ha : h.ArgsExist) :
    ∀ (a : Option Ptr), ∀ e ∈ h.readChrDefs a,
      ∃ c u, e.arg = some c ∧ e.uuid = some u ∧ h.chrUuid c = some u
  | none, _, he => nomatch he
  | some a, e, he =>
    let ⟨l, u, hl, hel, hu⟩ := mem_takeWhile_uuid he
    let ⟨c, hc, hcu⟩ := ha.chrs a l hl e hel u hu
    ⟨c, u, hc, hu, hcu⟩

/-- The entries `readDscDefs` reads up to the terminator carry their descriptors. -/
theorem ArgsExist.readDscDefs {h : Heap} (ha : h.ArgsExist) :
    ∀ (a : Option Ptr), ∀ e ∈ h.readDscDefs a,
      ∃ d u, e.arg = some d ∧ e.uuid = some u ∧ h.dscUuid d = some u
  | none, _, he => nomatch he
  | some a, e, he =>
    let ⟨l, u, hl, hel, hu⟩ := mem_takeWhile_uuid he
    let ⟨d, hd, hdu⟩ := ha.dscs a l hl e hel u hu
    ⟨d, u, hd, hu, hdu⟩

/-- The entries `registerDscs` numbers carry the descriptors their array entries point at. -/
theorem registerDscs_carry {h : Heap} : ∀ (n : Nat) (ds : List DscDef),
    (∀ e ∈ ds, ∃ d u, e.arg = some d ∧ e.uuid = some u ∧ h.dscUuid d = some u) →
      ∀ e ∈ (Host.registerDscs n ds).1, ∃ d, e.arg = some d ∧ h.dscUuid d = some e.uuid
  | _, [], _ => by simp [Host.registerDscs]
  | n, d :: ds, hds => by
    obtain ⟨q, u, hq, hu, hqu⟩ := hds d (List.mem_cons_self _ _)
    simp only [Host.registerDscs, List.mem_cons, forall_eq_or_imp]
    exact ⟨⟨q, hq, by rw [hu, Option.getD_some]; exact hqu⟩,
      registerDscs_carry (n + 1) ds fun e he => hds e (List.mem_cons_of_mem _ he)⟩

/-- The entries `registerChrs` numbers carry the characteristics their array entries point at,
and their descriptors the descriptors. -/
theorem registerChrs_carry {h : Heap} (ha : h.ArgsExist) : ∀ (n : Nat) (cs : List ChrDef),
    (∀ e ∈ cs, ∃ c u, e.arg = some c ∧ e.uuid = some u ∧ h.chrUuid c = some u) →
      ∀ e ∈ (Host.registerChrs h n cs).1, (∃ c, e.arg = some c ∧ h.chrUuid c = some e.uuid) ∧
        ∀ d ∈ e.dscs, ∃ q, d.arg = some q ∧ h.dscUuid q = some d.uuid
  | _, [], _ => by simp [Host.registerChrs]
  | n, c :: cs, hcs => by
    obtain ⟨q, u, hq, hu, hqu⟩ := hcs c (List.mem_cons_self _ _)
    simp only [Host.registerChrs, List.mem_cons, forall_eq_or_imp]
    exact ⟨⟨⟨q, hq, by rw [hu, Option.getD_some]; exact hqu⟩,
        registerDscs_carry _ _ (ha.readDscDefs _)⟩,
      registerChrs_carry ha _ cs fun e he => hcs e (List.mem_cons_of_mem _ he)⟩

/-- The entries the registration of the records of `ps` adds carry what the records point at. -/
theorem ArgsExist.carries_registerSvcs {h : Heap} (ha : h.ArgsExist) :
    ∀ (n : Nat) (ps : List Ptr), h.Carries (Host.registerSvcs h n ps).1
  | _, [] => .nil h
  | n, p :: ps => by
    unfold Host.registerSvcs
    split
    · exact ArgsExist.carries_registerSvcs ha n ps
    · next svc hsvc =>
      exact .cons (by simp [svcUuid, hsvc]) (registerChrs_carry ha _ _ (ha.readChrDefs _))
        (ArgsExist.carries_registerSvcs ha _ ps)

/-! ## What the lookups read -/

/-- `h'` has the tree of `h` and the UUIDs of its objects: what the lookups of `start` read,
and what the table's entries are carried with. -/
structure SameLookup (h h' : Heap) : Prop where
  chars : h'.chars = h.chars
  descriptors : h'.descriptors = h.descriptors
  svcUuid : h'.svcUuid = h.svcUuid
  chrUuid : h'.chrUuid = h.chrUuid
  dscUuid : h'.dscUuid = h.dscUuid

/-- Every heap reads as itself. -/
theorem SameLookup.refl (h : Heap) : SameLookup h h := ⟨rfl, rfl, rfl, rfl, rfl⟩

/-- Reading alike is transitive. -/
theorem SameLookup.trans {h₁ h₂ h₃ : Heap} (a : SameLookup h₁ h₂) (b : SameLookup h₂ h₃) :
    SameLookup h₁ h₃ :=
  ⟨b.chars.trans a.chars, b.descriptors.trans a.descriptors, b.svcUuid.trans a.svcUuid,
    b.chrUuid.trans a.chrUuid, b.dscUuid.trans a.dscUuid⟩

/-- A heap that reads like `h` keeps its UUIDs. -/
theorem SameLookup.keepsUuids {h h' : Heap} (hs : SameLookup h h') : KeepsUuids h h' :=
  .of_eq hs.svcUuid hs.chrUuid hs.dscUuid

/-- A heap with the tree of `h` has its UUIDs. -/
theorem SameTree.sameLookup {h h' : Heap} (ht : SameTree h h') : SameLookup h h' where
  chars := funext ht.chars_eq
  descriptors := ht.descriptors_eq
  svcUuid := funext fun p => by
    simpa [Heap.svcShape, svcUuid, Option.map_map, Function.comp_def] using
      congrArg (Option.map (·.1)) (ht.svcShape p)
  chrUuid := by funext c; simp only [chrUuid, ht.chrs]
  dscUuid := by funext d; simp only [dscUuid, ht.dscs]

/-- A loop whose every iteration keeps what the lookups read keeps it. -/
theorem sameLookup_foldl {α : Type} {f : Heap → α → Heap} (hf : ∀ h x, SameLookup h (f h x)) :
    ∀ (l : List α) (h : Heap), SameLookup h (l.foldl f h)
  | [], h => .refl h
  | x :: xs, h => (hf h x).trans (sameLookup_foldl hf xs (f h x))

/-- Editing a characteristic's handle keeps what the lookups read. -/
theorem sameLookup_modChr (h : Heap) (c : Ptr) {f : BLECharacteristic → BLECharacteristic}
    (hf : ∀ x, (f x).uuid = x.uuid ∧ (f x).descriptors = x.descriptors) :
    SameLookup h (h.modChr c f) where
  chars := rfl
  descriptors := by
    funext q; simp only [descriptors, modChr_chrs]
    split <;> simp [Option.map_map, Function.comp_def, hf]
  svcUuid := rfl
  chrUuid := chrUuid_modChr h c fun x => (hf x).1
  dscUuid := rfl

/-- Editing a descriptor's handle keeps what the lookups read. -/
theorem sameLookup_modDsc (h : Heap) (d : Ptr) {f : BLEDescriptor → BLEDescriptor}
    (hf : ∀ x, (f x).uuid = x.uuid) : SameLookup h (h.modDsc d f) :=
  ⟨rfl, rfl, rfl, rfl, dscUuid_modDsc h d hf⟩

/-! ## What the registration writes -/

/-- Writing an entry's value handle sets the handle of the characteristic it carries. -/
theorem chrHandle_writeValHandle (h : Heap) (e : ChrEntry) (c : Ptr) :
    (Host.writeValHandle h e).chrHandle c =
      (h.chrs c).map fun x =>
        (if e.arg = some c then some e.valHandle else none).getD x.handle := by
  unfold Host.writeValHandle chrHandle
  split
  · next p hp =>
    by_cases e' : c = p
    · simp [e', hp, Option.map_map, Function.comp_def]
    · simp [e', hp, Ne.symm e']
  · next hp => simp [hp]

/-- Writing a value handle creates and removes no characteristic. -/
theorem chrs_isSome_writeValHandle (h : Heap) (e : ChrEntry) (c : Ptr) :
    ((Host.writeValHandle h e).chrs c).isSome = (h.chrs c).isSome := by
  unfold Host.writeValHandle; split
  · exact modChr_chrs_isSome _ _ _ _
  · rfl

/-- After the writes of the entries `l`, a characteristic holds the value handle of its last
entry, or its handle when it has none. -/
theorem chrHandle_foldl_writeValHandle (c : Ptr) : ∀ (l : List ChrEntry) (h : Heap),
    (l.foldl Host.writeValHandle h).chrHandle c =
      (h.chrs c).map fun x => (Host.valHandleOf l c).getD x.handle
  | [], h => rfl
  | e :: es, h => by
    rw [List.foldl_cons, chrHandle_foldl_writeValHandle c es, Host.valHandleOf]
    cases hv : Host.valHandleOf es c with
    | some n =>
      have := chrs_isSome_writeValHandle h e c
      cases h1 : (Host.writeValHandle h e).chrs c <;> cases h2 : h.chrs c <;> simp_all
    | none => simpa [chrHandle] using chrHandle_writeValHandle h e c

/-- Writing the value handles keeps the arrays and the descriptors. -/
theorem writeValHandles_frame (h : Heap) (t : List SvcEntry) :
    (Host.writeValHandles h t).chrDefs = h.chrDefs ∧
      (Host.writeValHandles h t).dscDefs = h.dscDefs ∧ (Host.writeValHandles h t).dscs = h.dscs :=
  List.foldlRecOn (motive := fun h' : Heap =>
      h'.chrDefs = h.chrDefs ∧ h'.dscDefs = h.dscDefs ∧ h'.dscs = h.dscs) _ _ h ⟨rfl, rfl, rfl⟩
    fun _ e _ _ => by unfold Host.writeValHandle; split <;> exact e

/-- Writing the value handles keeps what the lookups read. -/
theorem sameLookup_writeValHandles (h : Heap) (t : List SvcEntry) :
    SameLookup h (Host.writeValHandles h t) :=
  sameLookup_foldl (fun h e => by
    unfold Host.writeValHandle; split
    · exact sameLookup_modChr h _ fun _ => by exact ⟨rfl, rfl⟩
    · exact .refl h) _ h

/-- Writing the value handles creates and removes no characteristic. -/
theorem chrs_isSome_writeValHandles (h : Heap) (t : List SvcEntry) (c : Ptr) :
    ((Host.writeValHandles h t).chrs c).isSome = (h.chrs c).isSome :=
  List.foldlRecOn (motive := fun h' : Heap => (h'.chrs c).isSome = (h.chrs c).isSome) _ _ h rfl
    fun _ e d _ => (chrs_isSome_writeValHandle _ d c).trans e

/-! ## What the compile writes -/

/-- Editing a service keeps the arrays' entries carried. -/
theorem ArgsExist.modSvc {h : Heap} (ha : h.ArgsExist) (p : Ptr) (f : BLEService → BLEService) :
    (h.modSvc p f).ArgsExist := ⟨ha.chrs, ha.dscs⟩

/-- A characteristic entry that carries its characteristic keeps the arrays' entries carried. -/
theorem ArgsExist.setChrDef {h : Heap} (ha : h.ArgsExist) (a i : Nat) {e : ChrDef}
    (he : ∀ u ∈ e.uuid, ∃ c, e.arg = some c ∧ h.chrUuid c = some u) :
    (h.setChrDef a i e).ArgsExist where
  chrs q l hl e' he' := by
    simp only [Heap.setChrDef] at hl
    split at hl
    · obtain ⟨l₀, hl₀, rfl⟩ := Option.map_eq_some'.1 hl
      rcases List.mem_or_eq_of_mem_set he' with he' | rfl
      · exact ha.chrs q l₀ hl₀ e' he'
      · exact he
    · exact ha.chrs q l hl e' he'
  dscs := ha.dscs

/-- A descriptor entry that carries its descriptor keeps the arrays' entries carried. -/
theorem ArgsExist.setDscDef {h : Heap} (ha : h.ArgsExist) (a i : Nat) {e : DscDef}
    (he : ∀ u ∈ e.uuid, ∃ d, e.arg = some d ∧ h.dscUuid d = some u) :
    (h.setDscDef a i e).ArgsExist where
  chrs := ha.chrs
  dscs q l hl e' he' := by
    simp only [Heap.setDscDef] at hl
    split at hl
    · obtain ⟨l₀, hl₀, rfl⟩ := Option.map_eq_some'.1 hl
      rcases List.mem_or_eq_of_mem_set he' with he' | rfl
      · exact ha.dscs q l₀ hl₀ e' he'
      · exact he
    · exact ha.dscs q l hl e' he'

/-- A fresh characteristic array holds only terminators. -/
theorem ArgsExist.newChrDefs {h : Heap} (ha : h.ArgsExist) (n : Nat) :
    (h.newChrDefs n).ArgsExist where
  chrs q l hl e he u hu := by
    simp only [Heap.newChrDefs] at hl
    split at hl
    · cases hl; rw [List.eq_of_mem_replicate he] at hu; cases hu
    · exact ha.chrs q l hl e he u hu
  dscs := ha.dscs

/-- A fresh descriptor array holds only terminators. -/
theorem ArgsExist.newDscDefs {h : Heap} (ha : h.ArgsExist) (n : Nat) :
    (h.newDscDefs n).ArgsExist where
  chrs := ha.chrs
  dscs q l hl e he u hu := by
    simp only [Heap.newDscDefs] at hl
    split at hl
    · cases hl; rw [List.eq_of_mem_replicate he] at hu; cases hu
    · exact ha.dscs q l hl e he u hu

/-- The descriptor loop of the compile stores entries that carry their descriptors. -/
theorem ArgsExist.fillDscs (a : Ptr) : ∀ (ds : List Ptr) (j : Nat) {h : Heap}, h.ArgsExist →
    (fillDscs a ds j h).ArgsExist
  | [], _, _, ha => ha
  | d :: ds, j, h, ha => by
    unfold Heap.fillDscs
    split
    · next x hx =>
      split
      · refine ArgsExist.fillDscs a ds _ (ha.setDscDef a j fun u hu => ⟨d, rfl, ?_⟩)
        obtain rfl : x.uuid = u := Option.some.inj hu
        simp [dscUuid, hx]
      · exact ArgsExist.fillDscs a ds j ha
    · exact ArgsExist.fillDscs a ds j ha

/-- The characteristic loop of the compile stores entries that carry their characteristics. -/
theorem ArgsExist.fillChrs (a : Ptr) : ∀ (cs : List Ptr) (i : Nat) {h : Heap}, h.ArgsExist →
    (fillChrs a cs i h).ArgsExist
  | [], _, _, ha => ha
  | c :: cs, i, h, ha => by
    unfold Heap.fillChrs
    split
    · next chr hchr =>
      split
      · refine ArgsExist.fillChrs a cs _ (ArgsExist.setChrDef ?_ a i fun u hu => ⟨c, rfl, ?_⟩)
        · split
          · exact ArgsExist.fillDscs _ _ _ (ha.newDscDefs _)
          · exact ha
        · obtain rfl : chr.uuid = u := Option.some.inj hu
          split
          · simp [chrUuid, (sameTree_fillDscs _ _ _ _).chrs, hchr]
          · simp [chrUuid, hchr]
      · exact ArgsExist.fillChrs a cs i ha
    · exact ArgsExist.fillChrs a cs i ha

/-- Freeing a record's arrays keeps their entries carried. -/
theorem ArgsExist.freeRecord {h : Heap} (ha : h.ArgsExist) (a : Ptr) :
    (h.freeRecord a).ArgsExist := by
  unfold Heap.freeRecord; split <;> exact ⟨ha.chrs, ha.dscs⟩

/-- The compile keeps the arrays' entries carried. -/
theorem ArgsExist.compile {h : Heap} (ha : h.ArgsExist) (p : Ptr) (svc : BLEService) :
    (h.compile p svc).ArgsExist := by
  have h₁ : (match svc.characteristics with
      | some a => h.freeRecord a
      | none => h).ArgsExist := by
    split
    · exact ha.freeRecord _
    · exact ha
  unfold Heap.compile
  refine ArgsExist.modSvc ?_ p _
  split_ifs
  · exact (ArgsExist.fillChrs _ _ _ (h₁.newChrDefs _)).modSvc p _
  · exact h₁

/-! ## What the lookups of `start` write -/

section
variable (t : List SvcEntry)

/-- A lookup keeps what the lookups read. -/
theorem sameLookup_findDscHandle (su cu : UUID) (h : Heap) (d : Ptr) :
    SameLookup h (findDscHandle t su cu h d) := by
  rw [findDscHandle_eq]; exact sameLookup_modDsc h d fun _ => by rfl

/-- The lookups of a characteristic's descriptors keep what the lookups read. -/
theorem sameLookup_findChrDscHandles (su : UUID) (h : Heap) (c : Ptr) :
    SameLookup h (findChrDscHandles t su h c) :=
  sameLookup_foldl (sameLookup_findDscHandle t _ _) _ h

/-- The lookups of a service's descriptors keep what the lookups read. -/
theorem sameLookup_findDscHandles (h : Heap) (p : Ptr) : SameLookup h (findDscHandles t h p) :=
  sameLookup_foldl (sameLookup_findChrDscHandles t _) _ h

/-- The lookups of one service edit descriptor handles only. -/
theorem arrays_findDscHandles (h : Heap) (p : Ptr) :
    (findDscHandles t h p).chrs = h.chrs ∧ (findDscHandles t h p).chrDefs = h.chrDefs ∧
      (findDscHandles t h p).dscDefs = h.dscDefs :=
  List.foldlRecOn (motive := fun h' : Heap =>
      h'.chrs = h.chrs ∧ h'.chrDefs = h.chrDefs ∧ h'.dscDefs = h.dscDefs) _ _ h ⟨rfl, rfl, rfl⟩
    fun _ e _ _ => List.foldlRecOn (motive := fun h' : Heap =>
        h'.chrs = h.chrs ∧ h'.chrDefs = h.chrDefs ∧ h'.dscDefs = h.dscDefs) _ _ _ e
      fun _ e _ _ => by rw [findDscHandle_eq]; exact e

/-- The inner loop leaves a descriptor it does not reach as it was. -/
theorem dscs_foldl_not_mem (su cu : UUID) {d : Ptr} : ∀ (ds : List Ptr) (h : Heap), d ∉ ds →
    (ds.foldl (findDscHandle t su cu) h).dscs d = h.dscs d
  | [], _, _ => rfl
  | d' :: ds, h, hd => by
    rw [List.foldl_cons, dscs_foldl_not_mem su cu ds _ (List.not_mem_of_not_mem_cons hd),
      findDscHandle_eq, modDsc_dscs, if_neg (List.ne_of_not_mem_cons hd)]

/-- The inner loop gives a descriptor it reaches the handle the host answers for it. -/
theorem dscs_foldl_mem (su cu : UUID) {d : Ptr} {n : Nat} : ∀ (ds : List Ptr) (h : Heap)
    (x : BLEDescriptor), d ∈ ds → h.dscs d = some x → Host.findDsc t su cu x.uuid = some n →
      (ds.foldl (findDscHandle t su cu) h).dscs d = some { x with handle := n }
  | d' :: ds, h, x, hd, hx, hn => by
    have h1 : (findDscHandle t su cu h d).dscs d = some { x with handle := n } := by
      rw [findDscHandle_eq, modDsc_dscs, if_pos rfl, hx]; simp [hn]
    rw [List.foldl_cons]
    by_cases e : d' = d
    · obtain rfl := e
      by_cases hm : d' ∈ ds
      · exact dscs_foldl_mem su cu ds _ { x with handle := n } hm h1 hn
      · rw [dscs_foldl_not_mem t su cu ds _ hm, h1]
    · have hm : d ∈ ds := (List.mem_cons.1 hd).resolve_left (Ne.symm e)
      refine dscs_foldl_mem su cu ds _ x hm ?_ hn
      rw [findDscHandle_eq, modDsc_dscs, if_neg (Ne.symm e), hx]

/-- The descriptors of a characteristic are looked up under its UUID. -/
theorem dscs_findChrDscHandles_of_mem (su : UUID) {h : Heap} {c d : Ptr} {cu : UUID}
    {x : BLEDescriptor} {n : Nat} (hd : d ∈ h.descriptors c) (hcu : h.chrUuid c = some cu)
    (hx : h.dscs d = some x) (hn : Host.findDsc t su cu x.uuid = some n) :
    (findChrDscHandles t su h c).dscs d = some { x with handle := n } :=
  dscs_foldl_mem t su _ _ h x hd hx (by rwa [hcu])

/-- The characteristic loop leaves a descriptor under none of its characteristics as it was. -/
theorem dscs_foldl_findChrDscHandles_not_under (su : UUID) {d : Ptr} :
    ∀ (cs : List Ptr) (h : Heap), (∀ c ∈ cs, d ∉ h.descriptors c) →
      (cs.foldl (findChrDscHandles t su) h).dscs d = h.dscs d
  | [], _, _ => rfl
  | c :: cs, h, hd => by
    have hs := sameLookup_findChrDscHandles t su h c
    rw [List.foldl_cons, dscs_foldl_findChrDscHandles_not_under su cs _ fun c' hc' => by
      rw [hs.descriptors]; exact hd c' (List.mem_cons_of_mem _ hc')]
    exact dscs_foldl_not_mem t su _ _ h (hd c (List.mem_cons_self _ _))

/-- The characteristic loop gives a descriptor that sits under exactly the characteristic `c` of
the list the handle the host answers for it under `c`'s UUID. -/
theorem dscs_foldl_findChrDscHandles_under (su : UUID) {c d : Ptr} {cu : UUID} {n : Nat} :
    ∀ (cs : List Ptr) (h : Heap) (x : BLEDescriptor), c ∈ cs → d ∈ h.descriptors c →
      (∀ c' ∈ cs, d ∈ h.descriptors c' → c' = c) → h.chrUuid c = some cu →
      h.dscs d = some x → Host.findDsc t su cu x.uuid = some n →
      (cs.foldl (findChrDscHandles t su) h).dscs d = some { x with handle := n }
  | c' :: cs, h, x, hc, hd, huniq, hcu, hx, hn => by
    have hs := sameLookup_findChrDscHandles t su h c'
    have huniq' : ∀ c'' ∈ cs, d ∈ (findChrDscHandles t su h c').descriptors c'' → c'' = c :=
      fun c'' hm hd' => huniq c'' (List.mem_cons_of_mem _ hm) (by rwa [hs.descriptors] at hd')
    have hd' : d ∈ (findChrDscHandles t su h c').descriptors c := by rwa [hs.descriptors]
    have hcu' : (findChrDscHandles t su h c').chrUuid c = some cu := by rwa [hs.chrUuid]
    rw [List.foldl_cons]
    by_cases e : c' = c
    · obtain rfl : c = c' := e.symm
      have h1 := dscs_findChrDscHandles_of_mem t su hd hcu hx hn
      by_cases hm : c ∈ cs
      · exact dscs_foldl_findChrDscHandles_under su cs _ { x with handle := n } hm hd' huniq'
          hcu' h1 hn
      · rw [dscs_foldl_findChrDscHandles_not_under t su cs _ fun c'' hm' hd'' =>
          hm (huniq' c'' hm' hd'' ▸ hm'), h1]
    · have hm : c ∈ cs := (List.mem_cons.1 hc).resolve_left (Ne.symm e)
      have h1 : (findChrDscHandles t su h c').dscs d = some x :=
        (dscs_foldl_not_mem t su _ _ h fun hd'' =>
          e (huniq c' (List.mem_cons_self _ _) hd'')).trans hx
      exact dscs_foldl_findChrDscHandles_under su cs _ x hm hd' huniq' hcu' h1 hn

/-- The lookups of a service leave a descriptor under none of its characteristics as it was. -/
theorem dscs_findDscHandles_not_under (h : Heap) (p : Ptr) {d : Ptr}
    (hd : ∀ c ∈ h.chars p, d ∉ h.descriptors c) : (findDscHandles t h p).dscs d = h.dscs d :=
  dscs_foldl_findChrDscHandles_not_under t _ _ h hd

/-- The lookups of a service give a descriptor that sits under exactly its characteristic `c`
the handle the host answers for the UUID path. -/
theorem dscs_findDscHandles_under {h : Heap} {p c d : Ptr} {su cu : UUID} {x : BLEDescriptor}
    {n : Nat} (hc : c ∈ h.chars p) (hd : d ∈ h.descriptors c)
    (huniq : ∀ c' ∈ h.chars p, d ∈ h.descriptors c' → c' = c) (hsu : h.svcUuid p = some su)
    (hcu : h.chrUuid c = some cu) (hx : h.dscs d = some x)
    (hn : Host.findDsc t su cu x.uuid = some n) :
    (findDscHandles t h p).dscs d = some { x with handle := n } := by
  rw [findDscHandles, hsu, Option.getD_some]
  exact dscs_foldl_findChrDscHandles_under t su _ h x hc hd huniq hcu hx hn

/-- One iteration of the loop of `start` edits handles only, and no descriptor outside the
characteristics of its service. -/
theorem findHandles_cons (p : Ptr) (ps : List Ptr) (h : Heap) :
    ∃ h₁, SameLookup h h₁ ∧ (∀ d, (∀ c ∈ h.chars p, d ∉ h.descriptors c) → h₁.dscs d = h.dscs d) ∧
      (h₁.chrs = h.chrs ∧ h₁.chrDefs = h.chrDefs ∧ h₁.dscDefs = h.dscDefs) ∧
      findHandles t (p :: ps) h = findHandles t ps h₁ := by
  have visit (h' : Heap) (hs : SameLookup h h') (hd : h'.dscs = h.dscs)
      (ha : h'.chrs = h.chrs ∧ h'.chrDefs = h.chrDefs ∧ h'.dscDefs = h.dscDefs) :
      ∃ h₁, SameLookup h h₁ ∧ (∀ d, (∀ c ∈ h.chars p, d ∉ h.descriptors c) → h₁.dscs d = h.dscs d) ∧
        (h₁.chrs = h.chrs ∧ h₁.chrDefs = h.chrDefs ∧ h₁.dscDefs = h.dscDefs) ∧
        findHandles t ps (findDscHandles t h' p) = findHandles t ps h₁ :=
    have ⟨a1, a2, a3⟩ := arrays_findDscHandles t h' p
    ⟨_, hs.trans (sameLookup_findDscHandles t h' p), fun d hn =>
      (dscs_findDscHandles_not_under t h' p (by rwa [hs.chars, hs.descriptors])).trans
        (congrFun hd d), ⟨a1.trans ha.1, a2.trans ha.2.1, a3.trans ha.2.2⟩, rfl⟩
  rw [findHandles]
  split
  · split
    · split
      · exact visit _ (sameTree_modSvc h p fun _ => by exact ⟨rfl, rfl, rfl⟩).sameLookup rfl
          ⟨rfl, rfl, rfl⟩
      · exact ⟨h, .refl h, fun _ _ => rfl, ⟨rfl, rfl, rfl⟩, rfl⟩
    · exact visit h (.refl h) rfl ⟨rfl, rfl, rfl⟩
  · exact ⟨h, .refl h, fun _ _ => rfl, ⟨rfl, rfl, rfl⟩, rfl⟩

/-- An iteration whose service the host knows, or which is removed, looks the service's
descriptors up. -/
theorem findHandles_cons_visit {h : Heap} {p : Ptr} {svc : BLEService}
    (hsvc : h.svcs p = some svc) (hfs : (Host.findSvc t svc.uuid).isSome) (ps : List Ptr) :
    ∃ h', SameLookup h h' ∧ h'.dscs = h.dscs ∧
      findHandles t (p :: ps) h = findHandles t ps (findDscHandles t h' p) := by
  by_cases hr : svc.removed = 0
  · obtain ⟨m, hm⟩ := Option.isSome_iff_exists.1 hfs
    exact ⟨h.modSvc p fun x => { x with handle := m },
      (sameTree_modSvc h p fun _ => by exact ⟨rfl, rfl, rfl⟩).sameLookup, rfl,
      by rw [findHandles, hsvc]; simp only [if_pos hr, hm]⟩
  · exact ⟨h, .refl h, rfl, by rw [findHandles, hsvc]; simp only [if_neg hr]⟩

/-- The loop of `start` keeps what the lookups read. -/
theorem sameLookup_findHandles : ∀ (v : List Ptr) (h : Heap), SameLookup h (findHandles t v h)
  | [], h => .refl h
  | p :: ps, h => by
    obtain ⟨h₁, hs, -, -, e⟩ := findHandles_cons t p ps h
    rw [e]; exact hs.trans (sameLookup_findHandles ps h₁)

/-- The handle lookups of `BLEServer::start` touch services and descriptors only. -/
theorem arrays_findHandles : ∀ (v : List Ptr) (h : Heap),
    (findHandles t v h).chrs = h.chrs ∧ (findHandles t v h).chrDefs = h.chrDefs ∧
      (findHandles t v h).dscDefs = h.dscDefs
  | [], _ => ⟨rfl, rfl, rfl⟩
  | p :: ps, h => by
    obtain ⟨h₁, -, -, ⟨a1, a2, a3⟩, e⟩ := findHandles_cons t p ps h
    obtain ⟨r1, r2, r3⟩ := arrays_findHandles ps h₁
    rw [e]; exact ⟨r1.trans a1, r2.trans a2, r3.trans a3⟩

/-- The loop of `start` leaves a descriptor under no characteristic of the vector's services as
it was. -/
theorem dscs_findHandles_not_under {d : Ptr} : ∀ (v : List Ptr) (h : Heap),
    (∀ p ∈ v, ∀ c ∈ h.chars p, d ∉ h.descriptors c) → (findHandles t v h).dscs d = h.dscs d
  | [], _, _ => rfl
  | p :: ps, h, hd => by
    obtain ⟨h₁, hs, hdd, -, heq⟩ := findHandles_cons t p ps h
    rw [heq, dscs_findHandles_not_under ps h₁ fun q hq c hc => by
        rw [hs.descriptors]; exact hd q (List.mem_cons_of_mem _ hq) c (by rwa [hs.chars] at hc),
      hdd d (hd p (List.mem_cons_self _ _))]

end

/-- The descriptor `d` sits in the tree of `v` under the characteristic `c` of the service `p`,
and under no other characteristic or service of `v`. -/
def OnlyUnder (h : Heap) (v : List Ptr) (p c d : Ptr) : Prop :=
  p ∈ v ∧ c ∈ h.chars p ∧ d ∈ h.descriptors c ∧
    ∀ p' ∈ v, ∀ c' ∈ h.chars p', d ∈ h.descriptors c' → p' = p ∧ c' = c

/-- Where a descriptor sits can be checked. -/
instance (h : Heap) (v : List Ptr) (p c d : Ptr) : Decidable (h.OnlyUnder v p c d) := by
  unfold OnlyUnder; infer_instance

/-- Where a descriptor sits is read from the tree only. -/
theorem OnlyUnder.of_sameLookup {h h' : Heap} {v : List Ptr} {p c d : Ptr}
    (hu : h.OnlyUnder v p c d) (hs : SameLookup h h') : h'.OnlyUnder v p c d := by
  rwa [OnlyUnder, hs.chars, hs.descriptors]

/-- The loop of `start` gives a descriptor that sits only under the characteristic `c` of the
service `p` the handle the host answers for its UUID path, when the host knows `p`'s UUID. -/
theorem dscs_findHandles_under (t : List SvcEntry) {p c d : Ptr} {su cu : UUID} {n : Nat}
    (hfs : (Host.findSvc t su).isSome) : ∀ (v : List Ptr) (h : Heap) (x : BLEDescriptor),
      h.OnlyUnder v p c d → h.svcUuid p = some su → h.chrUuid c = some cu →
      h.dscs d = some x → Host.findDsc t su cu x.uuid = some n →
      (findHandles t v h).dscs d = some { x with handle := n }
  | p' :: ps, h, x, ⟨hp, hc, hd, huniq⟩, hsu, hcu, hx, hn => by
    by_cases e : p' = p
    · obtain rfl : p = p' := e.symm
      obtain ⟨svc, hsvc, hsu'⟩ := Option.map_eq_some'.1 hsu
      obtain ⟨h', hs, hdd, heq⟩ := findHandles_cons_visit t hsvc (hsu' ▸ hfs) ps
      have hu : h'.OnlyUnder (p :: ps) p c d := OnlyUnder.of_sameLookup ⟨hp, hc, hd, huniq⟩ hs
      have h1 : (findDscHandles t h' p).dscs d = some { x with handle := n } :=
        dscs_findDscHandles_under t hu.2.1 hu.2.2.1
          (fun c' hc' hd' => (hu.2.2.2 p (List.mem_cons_self _ _) c' hc' hd').2)
          (by rwa [hs.svcUuid]) (by rwa [hs.chrUuid]) ((congrFun hdd d).trans hx) hn
      have hs₁ := hs.trans (sameLookup_findDscHandles t h' p)
      rw [heq]
      by_cases hm : p ∈ ps
      · exact dscs_findHandles_under t hfs ps _ { x with handle := n }
          (OnlyUnder.of_sameLookup
            ⟨hm, hc, hd, fun q hq => huniq q (List.mem_cons_of_mem _ hq)⟩ hs₁)
          (by rwa [hs₁.svcUuid]) (by rwa [hs₁.chrUuid]) h1 hn
      · rw [dscs_findHandles_not_under t ps _ fun q hq c' hc' hd' => hm ?_, h1]
        rw [hs₁.chars] at hc'
        rw [hs₁.descriptors] at hd'
        exact (huniq q (List.mem_cons_of_mem _ hq) c' hc' hd').1 ▸ hq
    · obtain ⟨h₁, hs, hdd, -, heq⟩ := findHandles_cons t p' ps h
      have hp' : p ∈ ps := (List.mem_cons.1 hp).resolve_left (Ne.symm e)
      rw [heq]
      exact dscs_findHandles_under t hfs ps h₁ x
        (OnlyUnder.of_sameLookup ⟨hp', hc, hd, fun q hq => huniq q (List.mem_cons_of_mem _ hq)⟩ hs)
        (by rwa [hs.svcUuid]) (by rwa [hs.chrUuid])
        ((hdd d fun c' hc' hd' => e (huniq p' (List.mem_cons_self _ _) c' hc' hd').1).trans hx) hn

/-! ## Edits that keep the registration's view -/

/-- `h'` keeps what the registration reads of `h`: the arrays, and the handle of every
characteristic and the UUID of every object below `h.next`. -/
structure KeepsHandles (h h' : Heap) : Prop where
  chrDefs : h'.chrDefs = h.chrDefs
  dscDefs : h'.dscDefs = h.dscDefs
  chrHandle : ∀ c < h.next, h'.chrHandle c = h.chrHandle c
  svcUuid : ∀ p < h.next, h'.svcUuid p = h.svcUuid p
  chrUuid : ∀ c < h.next, h'.chrUuid c = h.chrUuid c
  dscUuid : ∀ d < h.next, h'.dscUuid d = h.dscUuid d
  next : h.next ≤ h'.next

/-- Every heap keeps its own view. -/
theorem KeepsHandles.refl (h : Heap) : KeepsHandles h h :=
  ⟨rfl, rfl, fun _ _ => rfl, fun _ _ => rfl, fun _ _ => rfl, fun _ _ => rfl, le_rfl⟩

/-- Keeping the view is transitive. -/
theorem KeepsHandles.trans {h₁ h₂ h₃ : Heap} (a : KeepsHandles h₁ h₂) (b : KeepsHandles h₂ h₃) :
    KeepsHandles h₁ h₃ :=
  ⟨b.chrDefs.trans a.chrDefs, b.dscDefs.trans a.dscDefs,
    fun c hc => (b.chrHandle c (hc.trans_le a.next)).trans (a.chrHandle c hc),
    fun p hp => (b.svcUuid p (hp.trans_le a.next)).trans (a.svcUuid p hp),
    fun c hc => (b.chrUuid c (hc.trans_le a.next)).trans (a.chrUuid c hc),
    fun d hd => (b.dscUuid d (hd.trans_le a.next)).trans (a.dscUuid d hd), a.next.trans b.next⟩

/-- A heap with the characteristics, descriptors, arrays and service UUIDs of `h` keeps what the
registration reads. -/
theorem KeepsHandles.of_eq {h h' : Heap} (hc : h'.chrs = h.chrs) (hd : h'.dscs = h.dscs)
    (hs : h'.svcUuid = h.svcUuid) (hcd : h'.chrDefs = h.chrDefs) (hdd : h'.dscDefs = h.dscDefs)
    (hn : h.next ≤ h'.next) : KeepsHandles h h' :=
  ⟨hcd, hdd, fun _ _ => by simp only [Heap.chrHandle, hc], fun p _ => congrFun hs p,
    fun _ _ => by simp only [Heap.chrUuid, hc], fun _ _ => by simp only [Heap.dscUuid, hd], hn⟩

/-- In a closed heap, keeping what lies below `next` keeps every UUID. -/
theorem KeepsHandles.keepsUuids {h h' : Heap} (hk : KeepsHandles h h') (hc : h.Closed) :
    KeepsUuids h h' where
  svc p u e :=
    (hk.svcUuid p (hc.svcs p (by simpa [Heap.svcUuid] using congrArg Option.isSome e))).trans e
  chr c u e :=
    (hk.chrUuid c (hc.chrs c (by simpa [Heap.chrUuid] using congrArg Option.isSome e))).trans e
  dsc d u e :=
    (hk.dscUuid d (hc.dscs d (by simpa [Heap.dscUuid] using congrArg Option.isSome e))).trans e

/-- Editing a service without changing its UUID. -/
theorem keepsHandles_modSvc (h : Heap) (p : Ptr) {f : BLEService → BLEService}
    (hf : ∀ x, (f x).uuid = x.uuid) : KeepsHandles h (h.modSvc p f) :=
  .of_eq rfl rfl (svcUuid_modSvc h p hf) rfl rfl le_rfl

/-- Editing a descriptor without changing its UUID. -/
theorem keepsHandles_modDsc (h : Heap) (d : Ptr) {f : BLEDescriptor → BLEDescriptor}
    (hf : ∀ x, (f x).uuid = x.uuid) : KeepsHandles h (h.modDsc d f) :=
  ⟨rfl, rfl, fun _ _ => rfl, fun _ _ => rfl, fun _ _ => rfl,
    fun q _ => congrFun (dscUuid_modDsc h d hf) q, le_rfl⟩

/-- Editing a characteristic without changing its handle or UUID. -/
theorem keepsHandles_modChr (h : Heap) (c : Ptr) {f : BLECharacteristic → BLECharacteristic}
    (hf : ∀ x, (f x).handle = x.handle ∧ (f x).uuid = x.uuid) : KeepsHandles h (h.modChr c f) :=
  ⟨rfl, rfl, fun q _ => by
    by_cases e : q = c <;> simp [Heap.chrHandle, e, Option.map_map, Function.comp_def, hf],
    fun _ _ => rfl, fun q _ => congrFun (chrUuid_modChr h c fun x => (hf x).2) q,
    fun _ _ => rfl, le_rfl⟩

/-- `new BLECharacteristic` changes nothing below `next`. -/
theorem keepsHandles_newChr (h : Heap) (x : BLECharacteristic) : KeepsHandles h (h.newChr x) :=
  ⟨rfl, rfl, fun q hq => by simp [Heap.chrHandle, hq.ne], fun _ _ => rfl,
    fun q hq => by simp [Heap.chrUuid, hq.ne], fun _ _ => rfl, Nat.le_succ _⟩

/-- `new BLEService` changes nothing below `next`. -/
theorem keepsHandles_newSvc (h : Heap) (x : BLEService) : KeepsHandles h (h.newSvc x) :=
  ⟨rfl, rfl, fun _ _ => rfl, fun q hq => by simp [Heap.svcUuid, hq.ne], fun _ _ => rfl,
    fun _ _ => rfl, Nat.le_succ _⟩

/-- `new BLEDescriptor` changes nothing below `next`. -/
theorem keepsHandles_newDsc (h : Heap) (x : BLEDescriptor) : KeepsHandles h (h.newDsc x) :=
  ⟨rfl, rfl, fun _ _ => rfl, fun _ _ => rfl, fun _ _ => rfl,
    fun q hq => by simp [Heap.dscUuid, hq.ne], Nat.le_succ _⟩

/-- Freeing a pointer keeps everything the registration reads. -/
theorem keepsHandles_free (h : Heap) (p : Ptr) : KeepsHandles h (h.free p) :=
  ⟨rfl, rfl, fun _ _ => rfl, fun _ _ => rfl, fun _ _ => rfl, fun _ _ => rfl, le_rfl⟩

/-- Freeing a record's arrays keeps everything the registration reads. -/
theorem keepsHandles_freeRecord (h : Heap) (a : Ptr) : KeepsHandles h (h.freeRecord a) := by
  unfold freeRecord; split
  · exact (keepsHandles_free h _).trans (keepsHandles_free _ a)
  · exact keepsHandles_free h a

/-- Deleting a characteristic frees pointers only. -/
theorem keepsHandles_deleteCharacteristic (h : Heap) (c : Ptr) :
    KeepsHandles h (h.deleteCharacteristic c) :=
  (List.foldlRecOn (motive := fun h' : Heap => KeepsHandles h h') _ _ h (.refl h)
    fun _ e d _ => e.trans (keepsHandles_free _ d)).trans (keepsHandles_free _ c)

/-- Deleting a service frees pointers only. -/
theorem keepsHandles_deleteService (h : Heap) (p : Ptr) : KeepsHandles h (h.deleteService p) := by
  have hf : ∀ h : Heap, KeepsHandles h ((h.chars p).foldl deleteCharacteristic h) := fun h =>
    List.foldlRecOn (motive := fun h' : Heap => KeepsHandles h h') _ _ h (.refl h)
      fun _ e c _ => e.trans (keepsHandles_deleteCharacteristic _ c)
  unfold deleteService
  split
  · exact (hf h).trans (keepsHandles_free _ p)
  · exact ((keepsHandles_freeRecord h _).trans (hf _)).trans (keepsHandles_free _ p)

end Heap

namespace State

/-- What the host's table and numbering are. -/
def registry (s : State) : List SvcEntry × Nat × Nat :=
  (s.host.table, s.host.nextHandle, s.host.base)

/-- `t` keeps the host's table and numbering of `s`, and what the registration reads of its
heap. -/
structure KeepsHandles (s t : State) : Prop where
  registry : t.registry = s.registry
  heap : Heap.KeepsHandles s.heap t.heap

section
variable {s : State}

/-- A state with the heap and registry of `s`. -/
theorem KeepsHandles.of_eq {t : State} (hh : t.heap = s.heap) (hr : t.registry = s.registry) :
    KeepsHandles s t :=
  ⟨hr, hh ▸ .refl _⟩

/-- Keeping the registration's view is transitive. -/
theorem KeepsHandles.trans {t u : State} (a : KeepsHandles s t) (b : KeepsHandles t u) :
    KeepsHandles s u :=
  ⟨b.registry.trans a.registry, a.heap.trans b.heap⟩

/-- A new heap that keeps the view, with the same host. -/
theorem KeepsHandles.withHeap {h : Heap} (hk : Heap.KeepsHandles s.heap h) :
    KeepsHandles s (s.withHeap h) :=
  ⟨rfl, hk⟩

/-- `serviceChanged()` touches neither the heap nor the host's table. -/
theorem KeepsHandles.serviceChanged {t : State} (hk : KeepsHandles s t) :
    KeepsHandles s t.serviceChanged :=
  ⟨by simpa [State.registry] using hk.registry, by simpa using hk.heap⟩

/-- `addService` edits the service's removal flag at most. -/
theorem keepsHandles_addService (p : Ptr) : KeepsHandles s (s.addService p) := by
  unfold addService
  split
  · exact .of_eq rfl rfl
  · split_ifs
    · exact .of_eq rfl rfl
    · exact (KeepsHandles.withHeap (Heap.keepsHandles_modSvc _ p fun _ => by rfl)).serviceChanged

/-- `removeService` hides the service or deletes it; the host call leaves the registry. -/
theorem keepsHandles_removeService (p : Ptr) (del : Bool) :
    KeepsHandles s (s.removeService p del) := by
  unfold removeService
  split
  · exact .of_eq rfl rfl
  · split
    · split
      · exact ⟨rfl, Heap.keepsHandles_deleteService _ p⟩
      · exact .of_eq rfl rfl
    · split
      next rc t heq =>
      obtain rfl : (s.call _).2 = t := congrArg Prod.snd heq
      split
      · exact .of_eq rfl rfl
      · exact ((KeepsHandles.of_eq rfl rfl : KeepsHandles s (s.call _).2).trans
          (KeepsHandles.withHeap (Heap.keepsHandles_modSvc _ p fun _ => by rfl))).serviceChanged

/-- `addCharacteristic` edits the characteristic's removal flag and service at most. -/
theorem keepsHandles_addCharacteristic (p c : Ptr) : KeepsHandles s (s.addCharacteristic p c) := by
  cases hchr : s.heap.chrs c with
  | none => exact .of_eq (by simp [addCharacteristic, hchr]) (by simp [addCharacteristic, hchr])
  | some chr =>
    rw [addCharacteristic_of_chrs hchr]
    split_ifs
    · exact KeepsHandles.withHeap ((Heap.keepsHandles_modChr _ c fun _ => by exact ⟨rfl, rfl⟩).trans
        (Heap.keepsHandles_modChr _ c fun _ => by exact ⟨rfl, rfl⟩))
    · exact KeepsHandles.withHeap (Heap.keepsHandles_modChr _ c fun _ => by exact ⟨rfl, rfl⟩)
    · exact (KeepsHandles.withHeap ((Heap.keepsHandles_modSvc _ p fun _ => by rfl).trans
        (Heap.keepsHandles_modChr _ c fun _ => by exact ⟨rfl, rfl⟩))).serviceChanged

/-- `removeCharacteristic` hides the characteristic or deletes it. -/
theorem keepsHandles_removeCharacteristic (p c : Ptr) (del : Bool) :
    KeepsHandles s (s.removeCharacteristic p c del) := by
  unfold removeCharacteristic
  split
  · exact .of_eq rfl rfl
  · split
    · split
      · exact .withHeap ((Heap.keepsHandles_deleteCharacteristic _ c).trans
          (Heap.keepsHandles_modSvc _ p fun _ => by rfl))
      · exact .of_eq rfl rfl
    · exact (KeepsHandles.withHeap
        (Heap.keepsHandles_modChr _ c fun _ => by exact ⟨rfl, rfl⟩)).serviceChanged

/-- `addDescriptor` edits the descriptor's removal flag and characteristic at most. -/
theorem keepsHandles_addDescriptor (c d : Ptr) : KeepsHandles s (s.addDescriptor c d) := by
  cases hdsc : s.heap.dscs d with
  | none => exact .of_eq (by simp [addDescriptor, hdsc]) (by simp [addDescriptor, hdsc])
  | some dsc =>
    rw [addDescriptor_of_dscs hdsc]
    split_ifs
    · exact .withHeap ((Heap.keepsHandles_modDsc _ d fun _ => by rfl).trans
        (Heap.keepsHandles_modDsc _ d fun _ => by rfl))
    · exact .withHeap (Heap.keepsHandles_modDsc _ d fun _ => by rfl)
    · exact (KeepsHandles.withHeap
        ((Heap.keepsHandles_modChr _ c fun _ => by exact ⟨rfl, rfl⟩).trans
          (Heap.keepsHandles_modDsc _ d fun _ => by rfl))).serviceChanged

/-- `removeDescriptor` hides the descriptor or deletes it. -/
theorem keepsHandles_removeDescriptor (c d : Ptr) (del : Bool) :
    KeepsHandles s (s.removeDescriptor c d del) := by
  unfold removeDescriptor
  split
  · exact .of_eq rfl rfl
  · split
    · split
      · exact .withHeap ((Heap.keepsHandles_free _ d).trans
          (Heap.keepsHandles_modChr _ c fun _ => by exact ⟨rfl, rfl⟩))
      · exact .of_eq rfl rfl
    · exact (KeepsHandles.withHeap (Heap.keepsHandles_modDsc _ d fun _ => by rfl)).serviceChanged

/-- `createService` allocates the service. -/
theorem keepsHandles_createService (u : UUID) : KeepsHandles s (s.createService u).2 :=
  KeepsHandles.serviceChanged ⟨rfl, Heap.keepsHandles_newSvc _ _⟩

/-- `create2904` allocates the descriptor and adds it. -/
theorem keepsHandles_create2904 (c : Ptr) : KeepsHandles s (s.create2904 c).2 :=
  (KeepsHandles.withHeap (Heap.keepsHandles_newDsc _ _)).trans (keepsHandles_addDescriptor c _)

end

/-! ## The invariant -/

/-- The table holds the handles `base` to `nextHandle - 1`, each once; the entries of the arrays
and of the table carry their objects; and every characteristic the table registers holds the
value handle of its latest registration. -/
structure Handles (s : State) : Prop where
  numbered : Host.handles s.host.table = List.Ico s.host.base s.host.nextHandle
  base_le : s.host.base ≤ s.host.nextHandle
  args : s.heap.ArgsExist
  carries : s.heap.Carries s.host.table
  valHandle : ∀ c n, Host.valHandleOf (Host.chrEntries s.host.table) c = some n →
    s.heap.chrHandle c = some n

section
variable {s : State}

/-- Equal registries have the same table and numbering. -/
theorem registry_eq {t : State} (hr : t.registry = s.registry) :
    t.host.table = s.host.table ∧ t.host.nextHandle = s.host.nextHandle ∧
      t.host.base = s.host.base := by
  simpa [registry] using hr

/-- A state with the same registry and characteristics, which keeps the UUIDs and whose arrays'
entries carry their objects, keeps the invariant. -/
theorem Handles.of_chrs (hh : s.Handles) {t : State} (hc : t.heap.chrs = s.heap.chrs)
    (hk : Heap.KeepsUuids s.heap t.heap) (ha : t.heap.ArgsExist) (hr : t.registry = s.registry) :
    t.Handles := by
  obtain ⟨h1, h2, h3⟩ := registry_eq hr
  refine ⟨by rw [h1, h2, h3]; exact hh.numbered, by rw [h2, h3]; exact hh.base_le, ha,
    by rw [h1]; exact hh.carries.keeps hk, fun c n hv => ?_⟩
  rw [Heap.chrHandle, hc]
  exact hh.valHandle c n (h1 ▸ hv)

/-- A state with the heap and registry of `s` keeps the invariant. -/
theorem Handles.of_eq (hh : s.Handles) {t : State} (he : t.heap = s.heap)
    (hr : t.registry = s.registry) : t.Handles :=
  hh.of_chrs (by rw [he]) (by rw [he]; exact .of_eq rfl rfl rfl) (he ▸ hh.args) hr

/-- A step that keeps what the registration reads keeps the invariant. -/
theorem Handles.of_keeps (hc : s.Closed) (hh : s.Handles) {t : State} (hk : KeepsHandles s t) :
    t.Handles := by
  obtain ⟨h1, h2, h3⟩ := registry_eq hk.registry
  have hu := hk.heap.keepsUuids hc.1
  refine ⟨by rw [h1, h2, h3]; exact hh.numbered, by rw [h2, h3]; exact hh.base_le,
    hh.args.keeps hu hk.heap.chrDefs hk.heap.dscDefs, by rw [h1]; exact hh.carries.keeps hu,
    fun c n hv => ?_⟩
  have hs := hh.valHandle c n (h1 ▸ hv)
  rw [hk.heap.chrHandle c (hc.1.chrs c (by simpa [Heap.chrHandle] using congrArg Option.isSome hs)),
    hs]

/-- `BLEService::start` keeps the registry, and the entries of its new arrays carry their
objects. -/
theorem startService_registry (s : State) (p : Ptr) :
    (s.startService p).2.registry = s.registry ∧
      (s.heap.ArgsExist → (s.startService p).2.heap.ArgsExist) := by
  unfold startService
  split
  · exact ⟨rfl, id⟩
  · split
    · exact ⟨rfl, id⟩
    · simp only
      split
      · exact ⟨rfl, fun ha => ha.compile _ _⟩
      · split <;> exact ⟨rfl, fun ha => ha.compile _ _⟩

/-- `BLEService::start` keeps the invariant. -/
theorem Handles.startService (hh : s.Handles) (p : Ptr) : (s.startService p).2.Handles :=
  hh.of_chrs (startService_frame s p).1.chrs (startService_frame s p).1.sameLookup.keepsUuids
    ((startService_registry s p).2 hh.args) (startService_registry s p).1

/-- The loop of `resetGATT` deletes services pending deletion and starts the others. -/
theorem Handles.resetLoop : ∀ (v : List Ptr) {s : State}, s.Handles → (resetLoop v s).2.Handles
  | [], _, hh => hh
  | p :: ps, s, hh => by
    unfold State.resetLoop
    split
    · split
      · split
        · have ht := Heap.sameTree_deleteService s.heap p
          have hk := Heap.keepsHandles_deleteService s.heap p
          exact Handles.resetLoop ps (hh.of_chrs ht.chrs ht.sameLookup.keepsUuids
            (hh.args.keeps ht.sameLookup.keepsUuids hk.chrDefs hk.dscDefs) rfl)
        · exact Handles.resetLoop ps hh
      · exact Handles.resetLoop ps (hh.startService p)
    · exact Handles.resetLoop ps hh

/-- `resetGATT` empties the table, then starts the services again. -/
theorem Handles.resetGATT (hh : s.Handles) : s.resetGATT.Handles := by
  unfold State.resetGATT
  split
  · exact hh
  · dsimp only
    refine (Handles.resetLoop _ ?_).of_eq rfl rfl
    split
    · exact ⟨by simp [unregisterAll, log, Host.handles, List.Ico.self_empty],
        by simp [unregisterAll, log], hh.args, .nil _,
        by simp [unregisterAll, log, Host.valHandleOf]⟩
    · exact hh.of_eq rfl rfl

/-- A successful `ble_gatts_start` appends the numbered records to the table, whose entries carry
what the records point at, and every characteristic they register then holds its value
handle. -/
theorem Handles.registerAll (hh : s.Handles) : s.registerAll.Handles := by
  obtain ⟨r1, r2⟩ := Host.registerSvcs_handles s.heap s.host.nextHandle s.host.svcDefs
  have hw := Heap.writeValHandles_frame s.heap
    (Host.registerSvcs s.heap s.host.nextHandle s.host.svcDefs).1
  have hu := (Heap.sameLookup_writeValHandles s.heap
    (Host.registerSvcs s.heap s.host.nextHandle s.host.svcDefs).1).keepsUuids
  have hn := hh.args.carries_registerSvcs s.host.nextHandle s.host.svcDefs
  refine ⟨?_, hh.base_le.trans r2, hh.args.keeps hu hw.1 hw.2.1, (hh.carries.append hn).keeps hu,
    fun c n hv => ?_⟩
  · simp only [State.registerAll, Host.handles, List.flatMap_append] at r1 ⊢
    rw [← Host.handles, hh.numbered, r1, List.Ico.append_consecutive hh.base_le r2]
  · simp only [State.registerAll, Host.chrEntries_append, Host.valHandleOf_append,
      Option.or_eq_some] at hv
    simp only [State.registerAll, Host.writeValHandles, Heap.chrHandle_foldl_writeValHandle]
    rcases hv with hv | ⟨hnone, hv⟩
    · obtain ⟨e, he, hea, -⟩ := Host.exists_of_valHandleOf hv
      obtain ⟨c', hc', hcu⟩ := hn.chrs e he
      obtain rfl : c' = c := Option.some.inj (hc'.symm.trans hea)
      obtain ⟨x, hx, -⟩ := Option.map_eq_some'.1 hcu
      simp [Host.chrEntries_append, hv, hx]
    · have hs := hh.valHandle c n hv
      simp only [Heap.chrHandle] at hs
      simpa [Host.chrEntries_append, hnone] using hs

/-- `BLEServer::start` registers, then looks up handles, which keeps the characteristics. -/
theorem Handles.start (hh : s.Handles) : s.start.Handles := by
  unfold State.start
  split
  · exact hh
  · dsimp only
    split
    · exact hh.of_eq rfl rfl
    · have hr := (hh.of_eq (t := (s.call .gattsStart).2) rfl rfl).registerAll
      have hf := Heap.arrays_findHandles (s.call .gattsStart).2.registerAll.host.table
        s.server.svcVec (s.call .gattsStart).2.registerAll.heap
      have hl := Heap.sameLookup_findHandles (s.call .gattsStart).2.registerAll.host.table
        s.server.svcVec (s.call .gattsStart).2.registerAll.heap
      have h2 : ((s.call .gattsStart).2.registerAll.withHeap (Heap.findHandles
          (s.call .gattsStart).2.registerAll.host.table s.server.svcVec
          (s.call .gattsStart).2.registerAll.heap)).Handles :=
        hr.of_chrs hf.1 hl.keepsUuids (hr.args.keeps hl.keepsUuids hf.2.1 hf.2.2) rfl
      split <;> exact h2.of_eq rfl rfl

/-- Every operation keeps the invariant. -/
theorem Handles.step (hc : s.Closed) (hh : s.Handles) : ∀ op : Op, (s.step op).Handles
  | .createService u => hh.of_keeps hc (keepsHandles_createService u)
  | .newService _ => hh.of_keeps hc (.withHeap (Heap.keepsHandles_newSvc _ _))
  | .addService p => hh.of_keeps hc (keepsHandles_addService p)
  | .removeService p d => hh.of_keeps hc (keepsHandles_removeService p d)
  | .createCharacteristic p _ _ => hh.of_keeps hc
    ((KeepsHandles.withHeap (Heap.keepsHandles_newChr _ _)).trans
      (keepsHandles_addCharacteristic p _))
  | .newCharacteristic _ _ => hh.of_keeps hc (.withHeap (Heap.keepsHandles_newChr _ _))
  | .addCharacteristic p c => hh.of_keeps hc (keepsHandles_addCharacteristic p c)
  | .removeCharacteristic p c d => hh.of_keeps hc (keepsHandles_removeCharacteristic p c d)
  | .createDescriptor c u => by
    simp only [State.step, createDescriptor]
    split_ifs
    · exact hh.of_keeps hc ((keepsHandles_create2904 c).trans (keepsHandles_addDescriptor c _))
    · exact hh.of_keeps hc
        ((KeepsHandles.withHeap (Heap.keepsHandles_newDsc _ _)).trans
          (keepsHandles_addDescriptor c _))
  | .create2904 c => hh.of_keeps hc (keepsHandles_create2904 c)
  | .newDescriptor _ => hh.of_keeps hc (.withHeap (Heap.keepsHandles_newDsc _ _))
  | .addDescriptor c d => hh.of_keeps hc (keepsHandles_addDescriptor c d)
  | .removeDescriptor c d del => hh.of_keeps hc (keepsHandles_removeDescriptor c d del)
  | .startService p => hh.startService p
  | .start => hh.start
  | .connect st h => by
    simp only [State.step, connect, handleConnect, openConn]; split_ifs <;> exact hh.of_eq rfl rfl
  | .disconnect h => by
    simp only [State.step, disconnect, handleDisconnect]
    split
    · exact Handles.resetGATT (s := (s.closeConn h).releaseSlot h) (hh.of_eq rfl rfl)
    · exact hh.of_eq rfl rfl

end

/-- A fresh server has an empty table. -/
theorem handles_init (n base : Nat) (results : Nat → Nat) : (init n base results).Handles :=
  ⟨by simp [init, Host.handles, List.Ico.self_empty], le_rfl,
    ⟨(fun _ _ h => nomatch h), (fun _ _ h => nomatch h)⟩, .nil _,
    by simp [init, Host.valHandleOf]⟩

end State

/-- The invariant holds in every reachable state. -/
theorem Reachable.handles {s : State} (hs : Reachable s) : s.Handles := by
  induction hs with
  | init n base results => exact State.handles_init n base results
  | step hs' _ ih => exact ih.step hs'.closed _

/-- When `ble_gatts_start` succeeds on a server that has not started, and the table it leaves has
distinct UUID paths, every live service of `m_svcVec` that the table registers holds its
registered handle, and so does every registered descriptor that sits in the tree only under the
characteristic and service its entries carry. -/
theorem start_registered_handles {s : State} (hs : Reachable s)
    (hstart : s.server.gattsStarted = false) (hrc : s.host.results s.host.calls.length = 0)
    (hd : Host.UuidPathsDistinct s.start.host.table) :
    (∀ e ∈ s.start.host.table, ∀ x, s.heap.svcs e.svc = some x → x.removed = 0 →
      e.svc ∈ s.server.svcVec → (s.start.heap.svcs e.svc).map (·.handle) = some e.handle) ∧
    (∀ e ∈ s.start.host.table, ∀ ce ∈ e.chrs, ∀ de ∈ ce.dscs, ∀ c d, ce.arg = some c →
      de.arg = some d → s.heap.OnlyUnder s.server.svcVec e.svc c d →
      (s.start.heap.dscs d).map (·.handle) = some de.handle) := by
  have hc : s.start.heap.Carries s.start.host.table :=
    (@Reachable.step s .start hs rfl).handles.carries
  have hheap := State.start_heap hstart hrc
  /- the lookups of `start` read what `s` holds, and keep it -/
  have hw : Heap.SameLookup s.heap s.registerAll.heap := Heap.sameLookup_writeValHandles _ _
  have hl := Heap.sameLookup_findHandles s.start.host.table s.server.svcVec s.registerAll.heap
  constructor
  · intro e he x hx hlive hv
    have h1 := Heap.svcs_findHandles_of_mem s.start.host.table s.server.svcVec s.registerAll.heap x
      hlive hv (by simp only [State.registerAll, Heap.writeValHandles_svcs, hx])
    have hu := hc.svcs e he
    rw [Heap.svcUuid, hheap, h1] at hu
    have hxu : x.uuid = e.uuid := Option.some.inj hu
    rw [hheap, h1, hxu, Host.findSvc_of_mem hd he]
    rfl
  · intro e he ce hce de hde c d hca hda hu
    have hce' : ce ∈ Host.chrEntries s.start.host.table := List.mem_flatMap.2 ⟨e, he, hce⟩
    obtain ⟨c', hc', hcu⟩ := hc.chrs ce hce'
    obtain ⟨d', hd', hdu⟩ := hc.dscs de (List.mem_flatMap.2 ⟨ce, hce', hde⟩)
    obtain rfl : c' = c := Option.some.inj (hc'.symm.trans hca)
    obtain rfl : d' = d := Option.some.inj (hd'.symm.trans hda)
    have hsu : s.registerAll.heap.svcUuid e.svc = some e.uuid := by
      rw [← hl.svcUuid, ← hheap]; exact hc.svcs e he
    have hcu' : s.registerAll.heap.chrUuid c' = some ce.uuid := by
      rw [← hl.chrUuid, ← hheap]; exact hcu
    have hdu' : s.registerAll.heap.dscUuid d' = some de.uuid := by
      rw [← hl.dscUuid, ← hheap]; exact hdu
    obtain ⟨x, hx, hxu⟩ := Option.map_eq_some'.1 hdu'
    rw [hheap, Heap.dscs_findHandles_under s.start.host.table
      (by rw [Host.findSvc_of_mem hd he]; rfl) s.server.svcVec s.registerAll.heap x
      (hu.of_sameLookup hw) hsu hcu' hx (by rw [hxu]; exact Host.findDsc_of_mem hd he hce hde)]
    rfl

/-- In every reachable state the host's table numbers its attributes `base`, `base + 1`, …,
`nextHandle - 1`, each once, and each of its entries carries the object it registers, with the
entry's UUID. A characteristic the table registers holds the value handle of its latest
registration, and no other registered characteristic has that value handle. When
`ble_gatts_start` then succeeds and the table it leaves has distinct UUID paths, every live
service of `m_svcVec` that it registers, and every descriptor it registers that sits in the tree
only under the characteristic and service its entries carry, holds its registered handle. -/
theorem registered_handles_distinct {s : State} (hs : Reachable s) :
    Host.handles s.host.table = List.Ico s.host.base s.host.nextHandle ∧
    s.heap.Carries s.host.table ∧
    (∀ c n, Host.valHandleOf (Host.chrEntries s.host.table) c = some n →
      s.heap.chrHandle c = some n ∧
      ∀ c', Host.valHandleOf (Host.chrEntries s.host.table) c' = some n → c' = c) ∧
    (s.server.gattsStarted = false → s.host.results s.host.calls.length = 0 →
      Host.UuidPathsDistinct s.start.host.table →
      (∀ e ∈ s.start.host.table, ∀ x, s.heap.svcs e.svc = some x → x.removed = 0 →
        e.svc ∈ s.server.svcVec → (s.start.heap.svcs e.svc).map (·.handle) = some e.handle) ∧
      (∀ e ∈ s.start.host.table, ∀ ce ∈ e.chrs, ∀ de ∈ ce.dscs, ∀ c d, ce.arg = some c →
        de.arg = some d → s.heap.OnlyUnder s.server.svcVec e.svc c d →
        (s.start.heap.dscs d).map (·.handle) = some de.handle)) :=
  have hh := hs.handles
  ⟨hh.numbered, hh.carries, fun _ _ hv => ⟨hh.valHandle _ _ hv, fun _ hv' =>
    Host.valHandleOf_inj (hh.numbered ▸ List.Ico.nodup _ _) hv hv'⟩,
    start_registered_handles hs⟩

/-- A service with a characteristic that notifies and has a user description descriptor; the
service is started, and the server not yet. -/
def describedService : State :=
  (State.init 3 10 fun _ => 0).run [.createService 0x180D, .createCharacteristic 0 0x2A37 0x10,
    .createDescriptor 1 0x2901, .startService 0]

/-- The start registers the service at 10, the characteristic's value at 12, its client
configuration descriptor at 13 and the descriptor at 14; the service and the descriptor get
those handles, and the characteristic holds its value handle. -/
theorem registered_handles_describedService :
    Reachable describedService ∧ describedService.server.gattsStarted = false ∧
      describedService.host.results describedService.host.calls.length = 0 ∧
      Host.UuidPathsDistinct describedService.start.host.table ∧
      describedService.heap.OnlyUnder describedService.server.svcVec 0 1 2 ∧
      describedService.start.host.table =
        [⟨0, 0x180D, 10, [⟨some 1, 0x2A37, 11, 12, some 13, [⟨some 2, 0x2901, 14⟩]⟩]⟩] ∧
      (describedService.start.heap.svcs 0).map (·.handle) = some 10 ∧
      (describedService.start.heap.dscs 2).map (·.handle) = some 14 ∧
      describedService.start.heap.chrHandle 1 = some 12 :=
  have hs : Reachable describedService := (Reachable.init 3 10 _).run (by decide)
  have hst : Reachable describedService.start := @Reachable.step _ .start hs rfl
  have ht : describedService.start.host.table =
      [⟨0, 0x180D, 10, [⟨some 1, 0x2A37, 11, 12, some 13, [⟨some 2, 0x2901, 14⟩]⟩]⟩] := by decide
  have hmem : (⟨0, 0x180D, 10, [⟨some 1, 0x2A37, 11, 12, some 13, [⟨some 2, 0x2901, 14⟩]⟩]⟩ :
      SvcEntry) ∈ describedService.start.host.table := by rw [ht]; exact List.mem_singleton_self _
  have hstart := (registered_handles_distinct hs).2.2.2 (by decide) (by decide) (by decide)
  ⟨hs, by decide, by decide, by decide, by decide, ht,
    hstart.1 _ hmem ⟨0x180D, 0, 0, [1], some 3, 1⟩ (by decide) rfl (by decide),
    hstart.2 _ hmem _ (List.mem_singleton_self _) _ (List.mem_singleton_self _) 1 2 rfl rfl
      (by decide),
    ((registered_handles_distinct hst).2.2.1 1 12 (by decide)).1⟩

namespace State

/-- The characteristics the `BLE_GAP_EVENT_SUBSCRIBE` arm of `handleGapEvent`
(`BLEServer.cpp:423-441`) calls `onSubscribe` on for `attr_handle`, when the host knows the
connection: every characteristic of every service of `m_svcVec`, removed or not, whose handle is
`attr_handle`, in order. -/
def subscribeTargets (s : State) (attrHandle : Nat) : List Ptr :=
  s.server.svcVec.flatMap fun p =>
    (s.heap.chars p).filter fun c => s.heap.chrHandle c = some attrHandle

end State

/-- Two characteristics of one started service; the first is hidden, the last peer disconnects,
and the server is started again. -/
def staleHandle : State :=
  (State.init 3 10 fun _ => 0).run [.createService 0x180D, .createCharacteristic 0 0x2A37 0,
    .createCharacteristic 0 0x2A38 0, .startService 0, .start, .removeCharacteristic 0 1 false,
    .connect 0 5, .disconnect 5, .start]

/-- The rebuild registers handle 12 as the value of the second characteristic, which the hidden
first one held before and still holds: a subscription to handle 12 reaches both. -/
theorem stale_handle_shared :
    Reachable staleHandle ∧ 12 ∈ Host.handles staleHandle.host.table ∧
      staleHandle.subscribeTargets 12 = [1, 2] ∧
      (staleHandle.heap.chrs 1).map (·.removed) = some NIMBLE_ATT_REMOVE_HIDE :=
  ⟨(Reachable.init 3 10 _).run (by decide), by decide, by decide, by decide⟩

end BleGatt
