import BleGatt.AttValue
import BleGatt.Server.Model

/-!
# Reads and writes from a peer

`BLEServer::handleGattEvent` (`BLEServer.cpp:604`) is the access callback of every local
characteristic and descriptor. A read appends the value to the response (after `onRead`,
except on an internal read or the follow-up of a long read). A write copies the fragments of
the request's mbuf chain into a buffer bounded by the value's maximum, refusing the request as
soon as a fragment would overflow it, and hands the buffer to `writeEvent`, which stores it
with `setValue` and then calls `onWrite`.

The attribute is a `LocalValueAttribute`: its value and the callbacks it has made, each with
what it observed. The host's error codes are parameters. `setValue` runs with its memory
accesses checked (`BLEAttValue.setValueChecked`), and the access callback gives `none` when it
leaves the value's memory. `handleGattEvent_write` is the write path for every value and every
chain of fragments: a chain over the maximum is refused and changes nothing; one within it is
stored and `onWrite` observes it once, unless the value's block cannot take it without a
`realloc` (a null block, or one shorter than `m_capacity` claims), where `setValue` reads through
the null pointer or writes past the block (`handleGattEvent_write_faults`).
-/

namespace BleGatt

/-- A callback of `BLECharacteristicCallbacks`/`BLEDescriptorCallbacks` the server made, with
the value the attribute held when it ran. -/
inductive CallbackEvent
  | onRead (value : List UInt8)
  | onWrite (value : List UInt8)
deriving DecidableEq, Repr

/-- A `BLELocalValueAttribute` as the access callback sees it: `m_val` and the callbacks made
so far. -/
structure LocalValueAttribute where
  attVal : BLEAttValue
  events : List CallbackEvent
deriving DecidableEq, Repr

namespace LocalValueAttribute

/-- Modelled from the spec: `BLELocalValueAttribute::setValue` is declared in the missing
`BLELocalValueAttribute.h`; it stores the bytes in `m_val` with `BLEAttValue::setValue`.
`ok` is the allocator's answer, `now` the timestamp; `none` when `setValue` leaves the value's
memory. -/
def setValue (a : LocalValueAttribute) (ok : Bool) (now : Nat) (value : List UInt8) :
    Option LocalValueAttribute :=
  (a.attVal.setValueChecked ok now value).map fun r => { a with attVal := r.1 }

/-- `writeEvent` (`part_012:313`, `part_004:419`): `setValue`, then `onWrite`, which sees the
stored value. -/
def writeEvent (a : LocalValueAttribute) (ok : Bool) (now : Nat) (value : List UInt8) :
    Option LocalValueAttribute :=
  (a.setValue ok now value).map fun a => { a with events := a.events ++ [.onWrite a.attVal.value] }

/-- `readEvent` (`part_012:309`, `part_004:415`): `onRead`. -/
def readEvent (a : LocalValueAttribute) : LocalValueAttribute :=
  { a with events := a.events ++ [.onRead a.attVal.value] }

end LocalValueAttribute

/-- The loop over the rest of the mbuf chain (`BLEServer.cpp:645-652`): each fragment is
appended to the buffer unless the sum would exceed `maxLen`, which refuses the write. -/
def appendFragments (maxLen : Nat) (buf : List UInt8) : List (List UInt8) → Option (List UInt8)
  | [] => some buf
  | b :: bs => if buf.length + b.length > maxLen then none else appendFragments maxLen (buf ++ b) bs

/-- The access operations of `ble_gatt_access_ctxt`: a read, or a write whose request is the
mbuf chain `om` followed by `next`. -/
inductive AccessOp
  | readChr
  | readDsc
  | writeChr (om : List UInt8) (next : List (List UInt8))
  | writeDsc (om : List UInt8) (next : List (List UInt8))
deriving DecidableEq, Repr

section

variable (BLE_ATT_ERR_INVALID_ATTR_VALUE_LEN BLE_ATT_ERR_INSUFFICIENT_RES : Nat)

/-- The write arm of `BLEServer::handleGattEvent` (`BLEServer.cpp:633-657`): a first fragment
longer than `val.max_size()` is refused, the others are appended by `appendFragments`, and
`writeEvent` gets the buffer. -/
def handleWrite (ok : Bool) (now : Nat) (a : LocalValueAttribute) (om : List UInt8)
    (next : List (List UInt8)) : Option (Nat × LocalValueAttribute) :=
  let maxLen := a.attVal.maxSize
  if om.length > maxLen then some (BLE_ATT_ERR_INVALID_ATTR_VALUE_LEN, a)
  else match appendFragments maxLen om next with
    | none => some (BLE_ATT_ERR_INVALID_ATTR_VALUE_LEN, a)
    | some buf => (a.writeEvent ok now buf).map fun a => (0, a)

/-- The read arm of `BLEServer::handleGattEvent` (`BLEServer.cpp:613-628`). `readEvent` runs
unless the read is internal (`connHandle` is `BLE_HS_CONN_HANDLE_NONE`) or the follow-up of a
long read (an 8-byte packet header and a value longer than `mtu - 3`); the value is then
appended to the response, which `appendOk` says the mbuf pool allowed. Returns the code, the
bytes appended and the attribute. -/
def handleRead (connHandle pkthdrLen mtu : Nat) (appendOk : Bool) (a : LocalValueAttribute) :
    Nat × List UInt8 × LocalValueAttribute :=
  let a := if connHandle ≠ BLE_HS_CONN_HANDLE_NONE ∧
      (pkthdrLen > 8 ∨ a.attVal.value.length ≤ mtu - 3) then a.readEvent else a
  if appendOk then (0, a.attVal.value, a) else (BLE_ATT_ERR_INSUFFICIENT_RES, [], a)

/-- `BLEServer::handleGattEvent` (`BLEServer.cpp:604`) for the attribute its `arg` names; `none`
when the write leaves the value's memory. -/
def handleGattEvent (connHandle pkthdrLen mtu : Nat) (appendOk ok : Bool) (now : Nat)
    (a : LocalValueAttribute) : AccessOp → Option (Nat × List UInt8 × LocalValueAttribute)
  | .readChr | .readDsc =>
    some (handleRead BLE_ATT_ERR_INSUFFICIENT_RES connHandle pkthdrLen mtu appendOk a)
  | .writeChr om next | .writeDsc om next =>
    (handleWrite BLE_ATT_ERR_INVALID_ATTR_VALUE_LEN ok now a om next).map fun r => (r.1, [], r.2)

end

/-! ## The write path -/

/-- The fragment loop accepts exactly when the whole chain fits, and then returns the
concatenation. -/
theorem appendFragments_eq {maxLen : Nat} :
    ∀ {buf : List UInt8} (bs : List (List UInt8)), buf.length ≤ maxLen →
      appendFragments maxLen buf bs =
        if buf.length + bs.flatten.length ≤ maxLen then some (buf ++ bs.flatten) else none
  | buf, [], h => by simp [appendFragments, h]
  | buf, b :: bs, h => by
    unfold appendFragments
    by_cases hb : buf.length + b.length > maxLen
    · rw [if_pos hb, if_neg (by simp; omega)]
    · rw [if_neg hb, appendFragments_eq bs (by simp; omega)]
      simp [Nat.add_assoc]

/-- The write arm for every value, with every allocation of `append` succeeding: a chain over
the maximum is refused; one within it is stored and `onWrite` runs once, after the store, unless
`setValue` of it leaves the value's memory. -/
theorem handleWrite_spec (ERR now : Nat) (a : LocalValueAttribute) (om : List UInt8)
    (next : List (List UInt8)) :
    let r := handleWrite ERR true now a om next
    if om.length + next.flatten.length ≤ a.attVal.maxSize then
      if a.attVal.setValueSafe (om.length + next.flatten.length) then
        ∃ a', r = some (0, a') ∧ a'.attVal.value = om ++ next.flatten ∧
          a'.events = a.events ++ [.onWrite (om ++ next.flatten)]
      else r = none
    else r = some (ERR, a) := by
  simp only [handleWrite]
  by_cases hom : om.length > a.attVal.maxSize
  · rw [if_pos hom, if_neg (by omega)]
  rw [if_neg hom, appendFragments_eq next (by omega), ← List.length_append]
  split_ifs with hfit hsafe
  · obtain ⟨v', hv', hval⟩ := @BLEAttValue.setValueChecked_of_safe now _ _ hfit hsafe
    refine ⟨{ a with attVal := v', events := a.events ++ [.onWrite v'.value] }, ?_, hval,
      by rw [hval]⟩
    simp [LocalValueAttribute.writeEvent, LocalValueAttribute.setValue, hv']
  · simp [LocalValueAttribute.writeEvent, LocalValueAttribute.setValue,
      BLEAttValue.setValueChecked_of_unsafe true now hfit (by simpa using hsafe)]
  · rfl

/-- A write to a characteristic or a descriptor, for every value and every chain of fragments,
with every allocation of `append` succeeding: over the value's maximum it returns
`BLE_ATT_ERR_INVALID_ATTR_VALUE_LEN` and changes nothing; within it, it returns 0, stores the
concatenation and runs `onWrite` once, after the store, except when the block cannot take the
bytes without a `realloc`, where `setValue` leaves the value's memory (`none`). -/
theorem handleGattEvent_write (ERR RES connHandle pkthdrLen mtu : Nat) (appendOk : Bool)
    (now : Nat) (a : LocalValueAttribute) (om : List UInt8) (next : List (List UInt8)) :
    ∀ op ∈ [AccessOp.writeChr om next, .writeDsc om next],
      let r := handleGattEvent ERR RES connHandle pkthdrLen mtu appendOk true now a op
      if om.length + next.flatten.length ≤ a.attVal.maxSize then
        if a.attVal.setValueSafe (om.length + next.flatten.length) then
          ∃ a', r = some (0, [], a') ∧ a'.attVal.value = om ++ next.flatten ∧
            a'.events = a.events ++ [.onWrite (om ++ next.flatten)]
        else r = none
      else r = some (ERR, [], a) := by
  simp only [List.mem_cons, List.mem_singleton, List.not_mem_nil, or_false]
  have h := handleWrite_spec ERR now a om next
  rintro op (rfl | rfl) <;>
  · simp only [handleGattEvent]
    split_ifs at h ⊢
    · obtain ⟨a', ha', hval, hev⟩ := h
      exact ⟨a', by rw [ha']; rfl, hval, hev⟩
    · rw [h]; rfl
    · rw [h]; rfl

/-- Two fragments of two and one bytes to a value of maximum 20 and capacity 4. -/
example : (handleGattEvent 13 17 1 9 23 true true 0 ⟨BLEAttValue.new true 512 4 20, []⟩
    (.writeChr [1, 2] [[3]])).map (fun r => (r.1, r.2.2.attVal.value, r.2.2.events)) =
      some (0, [1, 2, 3], [.onWrite [1, 2, 3]]) := by decide

/-- A value whose constructor `calloc` failed, and one whose `m_capacity` a failed `realloc`
raised to five past its five-byte block: writing two bytes to the first reads through the null
pointer, and writing five to the second writes past the block. -/
theorem handleGattEvent_write_faults :
    BLEAttValue.Built 512 (BLEAttValue.new false 512 4 20) ∧
      handleGattEvent 13 17 1 9 23 true true 0 ⟨BLEAttValue.new false 512 4 20, []⟩
        (.writeChr [1, 2] []) = none ∧
    BLEAttValue.Built 512
        (BLEAttValue.append false 0 (BLEAttValue.new true 512 4 20) [1, 2, 3, 4, 5]) ∧
      handleGattEvent 13 17 1 9 23 true true 0
        ⟨BLEAttValue.append false 0 (BLEAttValue.new true 512 4 20) [1, 2, 3, 4, 5], []⟩
        (.writeChr [1, 2, 3, 4, 5] []) = none := by
  have h1 := handleGattEvent_write 13 17 1 9 23 true 0 ⟨BLEAttValue.new false 512 4 20, []⟩
    [1, 2] [] _ (List.mem_cons_self _ _)
  have h2 := handleGattEvent_write 13 17 1 9 23 true 0
    ⟨BLEAttValue.append false 0 (BLEAttValue.new true 512 4 20) [1, 2, 3, 4, 5], []⟩
    [1, 2, 3, 4, 5] [] _ (List.mem_cons_self _ _)
  dsimp only at h1 h2
  rw [if_pos (by decide), if_neg (by decide)] at h1 h2
  exact ⟨.new false 4 20, h1, .append false 0 _ (.new true 4 20), h2⟩

end BleGatt
