import BleGatt.Server.Host

/-!
# The tree operations

`createService`, `addService` and `removeService` of `BLEServer`
(`NimBLE/src/BLEServer.cpp:85,741,704`), `createCharacteristic`, `addCharacteristic` and
`removeCharacteristic` of `BLEService` (`BLE/src/NimBLEService.cpp:204,218,250`), and
`createDescriptor`, `create2904`, `addDescriptor` and `removeDescriptor` of
`BLECharacteristic` (`part_012:78,95,105,137`), each as a function of the whole state, with the
constructors and destructors they call. Every structural change that reaches
`serviceChanged()` sets `m_svcChanged` once the server has started; `addService` of a service
that is not marked removed, and the second loop of `addCharacteristic`/`addDescriptor`, return
before it.
-/

namespace BleGatt

namespace Heap

/-- The characteristics of the service at `p` (`m_vChars`). -/
def chars (h : Heap) (p : Ptr) : List Ptr := ((h.svcs p).map (·.chars)).getD []

/-- The descriptors of the characteristic at `c` (`m_vDescriptors`). -/
def descriptors (h : Heap) (c : Ptr) : List Ptr := ((h.chrs c).map (·.descriptors)).getD []

@[simp] theorem chars_modChr (h : Heap) (c : Ptr) (f) : (h.modChr c f).chars = h.chars := rfl
@[simp] theorem chars_modDsc (h : Heap) (d : Ptr) (f) : (h.modDsc d f).chars = h.chars := rfl
@[simp] theorem descriptors_modSvc (h : Heap) (p : Ptr) (f) :
    (h.modSvc p f).descriptors = h.descriptors := rfl
@[simp] theorem descriptors_modDsc (h : Heap) (d : Ptr) (f) :
    (h.modDsc d f).descriptors = h.descriptors := rfl

@[simp] theorem chars_newChr (h : Heap) (x) : (h.newChr x).chars = h.chars := rfl
@[simp] theorem chars_newDsc (h : Heap) (x) : (h.newDsc x).chars = h.chars := rfl
@[simp] theorem descriptors_newSvc (h : Heap) (x) : (h.newSvc x).descriptors = h.descriptors := rfl
@[simp] theorem descriptors_newDsc (h : Heap) (x) : (h.newDsc x).descriptors = h.descriptors := rfl

theorem chars_newSvc (h : Heap) (x : BLEService) (q : Ptr) :
    (h.newSvc x).chars q = if q = h.next then x.chars else h.chars q := by
  by_cases e : q = h.next <;> simp [chars, e]

theorem descriptors_newChr (h : Heap) (x : BLECharacteristic) (c : Ptr) :
    (h.newChr x).descriptors c = if c = h.next then x.descriptors else h.descriptors c := by
  by_cases e : c = h.next <;> simp [descriptors, e]

theorem chars_modSvc (h : Heap) (p q : Ptr) (f : BLEService → BLEService) :
    (h.modSvc p f).chars q = if q = p then ((h.svcs p).map fun x => (f x).chars).getD []
      else h.chars q := by
  by_cases hq : q = p <;> simp [chars, hq, Option.map_map, Function.comp_def]

theorem descriptors_modChr (h : Heap) (c d : Ptr) (f : BLECharacteristic → BLECharacteristic) :
    (h.modChr c f).descriptors d = if d = c then ((h.chrs c).map fun x => (f x).descriptors).getD []
      else h.descriptors d := by
  by_cases hd : d = c <;> simp [descriptors, hd, Option.map_map, Function.comp_def]

/-! ## Destructors -/

/-- `delete` of a descriptor (`~BLEDescriptor() = default`). -/
def deleteDescriptor (h : Heap) (d : Ptr) : Heap := h.free d

/-- `delete` of a characteristic: `~BLECharacteristic` (`part_012:54`) deletes every descriptor
of `m_vDescriptors`, then the object is freed. -/
def deleteCharacteristic (h : Heap) (c : Ptr) : Heap :=
  ((h.descriptors c).foldl deleteDescriptor h).free c

/-- Free the arrays of a service's record (`NimBLEService.cpp:50-55` and `:100-105`): the
descriptor array of the first entry, then the characteristic array. -/
def freeRecord (h : Heap) (a : Ptr) : Heap :=
  let h := match (((h.chrDefs a).getD []).head?).bind (·.descriptors) with
    | some d => h.free d
    | none => h
  h.free a

/-- `delete` of a service: `~BLEService` (`NimBLEService.cpp:49`) frees the record's arrays,
deletes every characteristic of `m_vChars`, then the object is freed. -/
def deleteService (h : Heap) (p : Ptr) : Heap :=
  let h := match (h.svcs p).bind (·.characteristics) with
    | none => h
    | some a => h.freeRecord a
  ((h.chars p).foldl deleteCharacteristic h).free p

end Heap

namespace State

/-- `BLEServer::serviceChanged` (`BLEServer.cpp:162`). -/
def serviceChanged (s : State) : State :=
  if s.server.gattsStarted then { s with server := { s.server with svcChanged := true } } else s

@[simp] theorem serviceChanged_heap (s : State) : s.serviceChanged.heap = s.heap := by
  unfold serviceChanged; split <;> rfl
@[simp] theorem serviceChanged_host (s : State) : s.serviceChanged.host = s.host := by
  unfold serviceChanged; split <;> rfl
@[simp] theorem serviceChanged_svcVec (s : State) :
    s.serviceChanged.server.svcVec = s.server.svcVec := by
  unfold serviceChanged; split <;> rfl
@[simp] theorem serviceChanged_connectedPeers (s : State) :
    s.serviceChanged.server.connectedPeers = s.server.connectedPeers := by
  unfold serviceChanged; split <;> rfl
@[simp] theorem serviceChanged_gattsStarted (s : State) :
    s.serviceChanged.server.gattsStarted = s.server.gattsStarted := by
  unfold serviceChanged; split <;> rfl
@[simp] theorem serviceChanged_svcChanged (s : State) :
    s.serviceChanged.server.svcChanged = (s.server.gattsStarted || s.server.svcChanged) := by
  unfold serviceChanged; split <;> simp [*]

/-! ## Constructors -/

/-- `new BLEService(uuid)` (`NimBLEService.cpp:44`): handle 0, not removed, no characteristics,
an empty record. -/
def newService (s : State) (uuid : UUID) : Ptr × State :=
  (s.heap.next, s.withHeap (s.heap.newSvc ⟨uuid, 0, 0, [], none, 0⟩))

/-- `new BLECharacteristic(uuid, properties, maxLen, pService)` (`part_012:46`). -/
def newCharacteristic (s : State) (uuid : UUID) (properties : Nat) (service : Option Ptr) :
    Ptr × State :=
  (s.heap.next, s.withHeap (s.heap.newChr ⟨uuid, 0, 0, properties, service, []⟩))

/-- `new BLEDescriptor(uuid, properties, maxLen, pCharacteristic)` (`part_004:338`): a
descriptor of UUID `0x2902` is created hidden. -/
def newDescriptor (s : State) (uuid : UUID) (chr : Option Ptr) : Ptr × State :=
  (s.heap.next, s.withHeap (s.heap.newDsc
    ⟨uuid, 0, if uuid = 0x2902 then NIMBLE_ATT_REMOVE_HIDE else 0, chr⟩))

/-- Modelled from the spec: `BLE2904`'s constructor is not in the repository's sources; it builds
a descriptor of UUID `0x2904` (the presentation format) owned by the characteristic. -/
def new2904 (s : State) (chr : Ptr) : Ptr × State :=
  (s.heap.next, s.withHeap (s.heap.newDsc ⟨0x2904, 0, 0, some chr⟩))

/-! ## Services -/

/-- `BLEServer::createService` (`BLEServer.cpp:85`). -/
def createService (s : State) (uuid : UUID) : Ptr × State :=
  let (p, s) := s.newService uuid
  (p, (s.withSvcVec (s.server.svcVec ++ [p])).serviceChanged)

/-- `BLEServer::addService` (`BLEServer.cpp:741`): a service not marked removed is appended and
the function returns; a removed one is marked present again and the change recorded. -/
def addService (s : State) (p : Ptr) : State :=
  match s.heap.svcs p with
  | none => s
  | some svc =>
    if svc.removed = 0 then s.withSvcVec (s.server.svcVec ++ [p])
    else (s.withHeap (s.heap.modSvc p fun x => { x with removed := 0 })).serviceChanged

/-- `BLEServer::removeService` (`BLEServer.cpp:704`). A service already removed is deleted,
and erased from `m_svcVec`, when `deleteSvc` is set and it is found there. Otherwise its
visibility is switched off in the host; if that succeeds it is marked removed (hidden, or
pending deletion) and the change recorded. -/
def removeService (s : State) (p : Ptr) (deleteSvc : Bool) : State :=
  match s.heap.svcs p with
  | none => s
  | some svc =>
    if svc.removed > 0 then
      if deleteSvc ∧ p ∈ s.server.svcVec then
        (s.withHeap (s.heap.deleteService p)).withSvcVec (s.server.svcVec.erase p)
      else s
    else
      let (rc, s) := s.call (.svcSetVisibility svc.handle)
      if rc ≠ 0 then s
      else (s.withHeap (s.heap.modSvc p fun x => { x with
        removed := if deleteSvc then NIMBLE_ATT_REMOVE_DELETE else NIMBLE_ATT_REMOVE_HIDE })).serviceChanged

/-! ## Characteristics -/

/-- `BLEService::addCharacteristic` (`NimBLEService.cpp:218`). The first loop marks a removed
characteristic found in `m_vChars` present again; the second returns as soon as the
characteristic is found, after updating its service pointer, so the `!foundRemoved` test and
`serviceChanged()` are reached only for a characteristic not in the service. -/
def addCharacteristic (s : State) (p c : Ptr) : State :=
  match s.heap.chrs c with
  | none => s
  | some chr =>
    let foundRemoved := decide (chr.removed > 0) && decide (c ∈ s.heap.chars p)
    let s := if foundRemoved then s.withHeap (s.heap.modChr c fun x => { x with removed := 0 })
      else s
    let setService (s : State) := s.withHeap (s.heap.modChr c fun x => { x with service := some p })
    if c ∈ s.heap.chars p then setService s
    else
      let s := if foundRemoved then s
        else s.withHeap (s.heap.modSvc p fun x => { x with chars := x.chars ++ [c] })
      (setService s).serviceChanged

/-- `addCharacteristic` of an existing characteristic in its three outcomes: one already in the
list is marked present again when it was removed, with no `serviceChanged()`; any other is
appended, and the change recorded. -/
theorem addCharacteristic_of_chrs {s : State} {p c : Ptr} {chr : BLECharacteristic}
    (hc : s.heap.chrs c = some chr) :
    s.addCharacteristic p c =
      if c ∈ s.heap.chars p then
        s.withHeap ((if chr.removed > 0 then s.heap.modChr c fun x => { x with removed := 0 }
          else s.heap).modChr c fun x => { x with service := some p })
      else (s.withHeap ((s.heap.modSvc p fun x => { x with chars := x.chars ++ [c] }).modChr c
          fun x => { x with service := some p })).serviceChanged := by
  by_cases hm : c ∈ s.heap.chars p <;> by_cases hr : chr.removed > 0 <;>
    simp [addCharacteristic, hc, hm, hr, withHeap]

/-- What `addCharacteristic` does to the lists of the services: `c` is appended to `p`'s list when
both exist and the list does not hold it. -/
theorem addCharacteristic_chars (s : State) (p c q : Ptr) :
    (s.addCharacteristic p c).heap.chars q =
      if q = p ∧ (s.heap.chrs c).isSome ∧ (s.heap.svcs p).isSome ∧ c ∉ s.heap.chars p then
        s.heap.chars p ++ [c]
      else s.heap.chars q := by
  unfold addCharacteristic
  split
  case h_1 hc => simp [hc]
  case h_2 chr hc =>
    by_cases hm : c ∈ s.heap.chars p
    · by_cases hr : chr.removed > 0 <;> simp [hc, hm, hr]
    · cases hp : s.heap.svcs p <;> by_cases hq : q = p <;> simp_all [Heap.chars_modSvc] <;>
        simp [Heap.chars, hp]

/-- `BLEService::createCharacteristic` (`NimBLEService.cpp:204`). -/
def createCharacteristic (s : State) (p : Ptr) (uuid : UUID) (properties : Nat) : Ptr × State :=
  let (c, s) := s.newCharacteristic uuid properties (some p)
  (c, s.addCharacteristic p c)

/-- `BLEService::removeCharacteristic` (`NimBLEService.cpp:250`): a characteristic already
removed is deleted at once, and erased from `m_vChars`, when `deleteChr` is set and it is
found there; otherwise it is marked removed and the change recorded. -/
def removeCharacteristic (s : State) (p c : Ptr) (deleteChr : Bool) : State :=
  match s.heap.chrs c with
  | none => s
  | some chr =>
    if chr.removed > 0 then
      if deleteChr ∧ c ∈ s.heap.chars p then
        s.withHeap ((s.heap.deleteCharacteristic c).modSvc p fun x => { x with chars := x.chars.erase c })
      else s
    else (s.withHeap (s.heap.modChr c fun x => { x with
      removed := if deleteChr then NIMBLE_ATT_REMOVE_DELETE else NIMBLE_ATT_REMOVE_HIDE })).serviceChanged

/-! ## Descriptors -/

/-- `BLECharacteristic::addDescriptor` (`part_012:105`), the descriptor counterpart of
`addCharacteristic`, with the same early return. -/
def addDescriptor (s : State) (c d : Ptr) : State :=
  match s.heap.dscs d with
  | none => s
  | some dsc =>
    let foundRemoved := decide (dsc.removed > 0) && decide (d ∈ s.heap.descriptors c)
    let s := if foundRemoved then s.withHeap (s.heap.modDsc d fun x => { x with removed := 0 })
      else s
    let setCharacteristic (s : State) :=
      s.withHeap (s.heap.modDsc d fun x => { x with characteristic := some c })
    if d ∈ s.heap.descriptors c then setCharacteristic s
    else
      let s := if foundRemoved then s
        else s.withHeap (s.heap.modChr c fun x => { x with descriptors := x.descriptors ++ [d] })
      (setCharacteristic s).serviceChanged

/-- `addDescriptor` of an existing descriptor in its three outcomes, as for
`addCharacteristic`. -/
theorem addDescriptor_of_dscs {s : State} {c d : Ptr} {dsc : BLEDescriptor}
    (hd : s.heap.dscs d = some dsc) :
    s.addDescriptor c d =
      if d ∈ s.heap.descriptors c then
        s.withHeap ((if dsc.removed > 0 then s.heap.modDsc d fun x => { x with removed := 0 }
          else s.heap).modDsc d fun x => { x with characteristic := some c })
      else (s.withHeap ((s.heap.modChr c fun x => { x with descriptors := x.descriptors ++ [d] }).modDsc d
          fun x => { x with characteristic := some c })).serviceChanged := by
  by_cases hm : d ∈ s.heap.descriptors c <;> by_cases hr : dsc.removed > 0 <;>
    simp [addDescriptor, hd, hm, hr, withHeap]

/-- What `addDescriptor` does to the lists of the characteristics: `d` is appended to `c`'s list
when both exist and the list does not hold it. -/
theorem addDescriptor_descriptors (s : State) (c d e : Ptr) :
    (s.addDescriptor c d).heap.descriptors e =
      if e = c ∧ (s.heap.dscs d).isSome ∧ (s.heap.chrs c).isSome ∧ d ∉ s.heap.descriptors c then
        s.heap.descriptors c ++ [d]
      else s.heap.descriptors e := by
  unfold addDescriptor
  split
  case h_1 hd => simp [hd]
  case h_2 dsc hd =>
    by_cases hm : d ∈ s.heap.descriptors c
    · by_cases hr : dsc.removed > 0 <;> simp [hd, hm, hr]
    · cases hc : s.heap.chrs c <;> by_cases he : e = c <;>
        simp_all [Heap.descriptors_modChr] <;> simp [Heap.descriptors, hc]

/-- `BLECharacteristic::create2904` (`part_012:95`). -/
def create2904 (s : State) (c : Ptr) : Ptr × State :=
  let (d, s) := s.new2904 c
  (d, s.addDescriptor c d)

/-- `BLECharacteristic::createDescriptor` (`part_012:78`): UUID `0x2904` goes through
`create2904`; the descriptor is then added (a second time for `0x2904`). -/
def createDescriptor (s : State) (c : Ptr) (uuid : UUID) : Ptr × State :=
  let (d, s) := if uuid = 0x2904 then s.create2904 c else s.newDescriptor uuid (some c)
  (d, s.addDescriptor c d)

/-- `BLECharacteristic::removeDescriptor` (`part_012:137`), the descriptor counterpart of
`removeCharacteristic`. -/
def removeDescriptor (s : State) (c d : Ptr) (deleteDsc : Bool) : State :=
  match s.heap.dscs d with
  | none => s
  | some dsc =>
    if dsc.removed > 0 then
      if deleteDsc ∧ d ∈ s.heap.descriptors c then
        s.withHeap ((s.heap.deleteDescriptor d).modChr c fun x => { x with descriptors := x.descriptors.erase d })
      else s
    else (s.withHeap (s.heap.modDsc d fun x => { x with
      removed := if deleteDsc then NIMBLE_ATT_REMOVE_DELETE else NIMBLE_ATT_REMOVE_HIDE })).serviceChanged

end State

end BleGatt
