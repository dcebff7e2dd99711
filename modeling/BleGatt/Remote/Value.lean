import BleGatt.Server.Access

/-!
# Received payloads on the client

A payload the stack receives arrives as a chain of `os_mbuf`s: the packet-header mbuf, then
the others linked by `SLIST_NEXT`, each holding `om_len` bytes at `om_data`, with
`OS_MBUF_PKTLEN` the sum of the `om_len`s. The server's write path walks the chain
(`BLEServer.cpp:643-652`). The client's two readers of a received value,
`BLEClient::handleGapEvent` on `BLE_GAP_EVENT_NOTIFY_RX` (`NimBLEClient.cpp:980-1011`) and
`BLERemoteValueAttribute::onReadCB` (`part_014:267-300`), copy `OS_MBUF_PKTLEN` bytes from
the first mbuf's `om_data` instead.

An mbuf is its bytes and what follows them in memory, so that a copy longer than `om_len`
reads what the code reads. `omData_pktLen_of_single` says the three paths agree on a payload
in one mbuf; `remote_readers_read_past_first_mbuf` is a payload in two mbufs where both
client paths store bytes that are not the payload, and the server stores the payload.

The host's status codes are NimBLE's values (`ble_hs.h`, `ble_att.h`), which are not part of
the repository. The retry loops of `readValue` and `writeValue` share the pieces at the end:
the answers the stack gives them, the caller's phase and the loop condition.
-/

namespace BleGatt

/-! ## Host status codes -/

/-- `BLE_HS_ENOTCONN`. -/
def BLE_HS_ENOTCONN : Nat := 7

/-- `BLE_HS_EDONE`. -/
def BLE_HS_EDONE : Nat := 14

/-- `BLE_HS_ATT_ERR(x)`: an ATT error code as a host status, `BLE_HS_ERR_ATT_BASE + x`, and 0
for 0. -/
def BLE_HS_ATT_ERR (x : Nat) : Nat := if x = 0 then 0 else 0x100 + x

/-- `BLE_ATT_ERR_INSUFFICIENT_AUTHEN`. -/
def BLE_ATT_ERR_INSUFFICIENT_AUTHEN : Nat := 0x05

/-- `BLE_ATT_ERR_INSUFFICIENT_AUTHOR`. -/
def BLE_ATT_ERR_INSUFFICIENT_AUTHOR : Nat := 0x08

/-- `BLE_ATT_ERR_ATTR_NOT_LONG`. -/
def BLE_ATT_ERR_ATTR_NOT_LONG : Nat := 0x0b

/-- `BLE_ATT_ERR_INVALID_ATTR_VALUE_LEN`. -/
def BLE_ATT_ERR_INVALID_ATTR_VALUE_LEN : Nat := 0x0d

/-- `BLE_ATT_ERR_INSUFFICIENT_ENC`. -/
def BLE_ATT_ERR_INSUFFICIENT_ENC : Nat := 0x0f

/-- `BLE_ATT_ATTR_MAX_LEN`. -/
def BLE_ATT_ATTR_MAX_LEN : Nat := 512

/-! ## Mbuf chains -/

/-- One `os_mbuf` of a received packet: the `om_len` bytes at `om_data`, and the bytes that
follow them in memory. -/
structure OsMbuf where
  data : List UInt8
  following : List UInt8
deriving DecidableEq, Repr

/-- A received packet: its packet-header mbuf `om` and the mbufs `SLIST_NEXT` links after it. -/
structure MbufChain where
  om : OsMbuf
  next : List OsMbuf
deriving DecidableEq, Repr

namespace MbufChain

/-- The payload: the fragments of the chain, in order. -/
def flatten (c : MbufChain) : List UInt8 := c.om.data ++ c.next.flatMap (·.data)

/-- `OS_MBUF_PKTLEN`: the packet header's length, the sum of the `om_len`s. -/
def pktLen (c : MbufChain) : Nat := c.flatten.length

/-- `len` bytes from `om->om_data`, as `memcpy` and `BLEAttValue::append` read them. -/
def omData (c : MbufChain) (len : Nat) : List UInt8 := (c.om.data ++ c.om.following).take len

/-- A payload in one mbuf, or whose later mbufs are empty, is read whole from `om_data`. -/
theorem omData_pktLen_of_single (c : MbufChain) (h : ∀ m ∈ c.next, m.data = []) :
    c.omData c.pktLen = c.flatten := by
  have hnext : c.next.flatMap (·.data) = [] := List.flatMap_eq_nil_iff.2 h
  simp [omData, pktLen, flatten, hnext]

end MbufChain

/-- The server's write path on a received chain: the first mbuf, then the fragments of the
others (`BLEServer.cpp:643-652`). -/
def handleWriteChain (ERR : Nat) (ok : Bool) (now : Nat) (a : LocalValueAttribute)
    (c : MbufChain) : Option (Nat × LocalValueAttribute) :=
  handleWrite ERR ok now a c.om.data (c.next.map (·.data))

/-! ## The client's readers -/

/-- A completion the stack delivers to `onReadCB` or `onWriteCB`: the connection,
`error->status` and, for a read, the attribute's mbuf chain when `attr` is not null. -/
structure GattCompletion where
  connHandle : Nat
  status : Nat
  attr : Option MbufChain
deriving DecidableEq, Repr

/-- `BLERemoteValueAttribute::onReadCB` (`part_014:267`) for a client on connection `myConn`,
appending to `valBuf` with the allocator's answer `ok`. Returns the buffer afterwards, the code
passed to `taskRelease` when it is called, and the callback's result. -/
def onReadCB (ok : Bool) (now myConn : Nat) (valBuf : BLEAttValue) (e : GattCompletion) :
    BLEAttValue × Option Nat × Nat :=
  if e.status = BLE_HS_ENOTCONN then (valBuf, some e.status, e.status)
  else if myConn ≠ e.connHandle then (valBuf, none, 0)
  else if e.status = 0 then
    match e.attr with
    | some om =>
      let data_len := om.pktLen
      if valBuf.attrLen + data_len > BLE_ATT_ATTR_MAX_LEN then
        (valBuf, some BLE_ATT_ERR_INVALID_ATTR_VALUE_LEN, BLE_ATT_ERR_INVALID_ATTR_VALUE_LEN)
      else (valBuf.append ok now (om.omData data_len), none, 0)
    | none => (valBuf, some 0, 0)
  else (valBuf, some e.status, e.status)

/-- A release ends the procedure: its status is an error, or it has no attribute, or the
callback returns an error. -/
theorem onReadCB_release_ends {ok : Bool} {now myConn flags : Nat} {valBuf : BLEAttValue}
    {e : GattCompletion} (h : (onReadCB ok now myConn valBuf e).2.1 = some flags) :
    e.status ≠ 0 ∨ e.attr = none ∨ (onReadCB ok now myConn valBuf e).2.2 ≠ 0 := by
  rcases e with ⟨conn, status, attr⟩
  by_cases hs : status = 0
  · subst hs
    cases attr with
    | none => exact .inr (.inl rfl)
    | some om =>
      refine .inr (.inr ?_)
      unfold onReadCB at h ⊢
      by_cases hc : myConn = conn
      · by_cases hfit : valBuf.attrLen + om.pktLen > BLE_ATT_ATTR_MAX_LEN
        · simp [hc, hfit, BLE_HS_ENOTCONN, BLE_ATT_ERR_INVALID_ATTR_VALUE_LEN]
        · simp [hc, hfit, BLE_HS_ENOTCONN] at h
      · simp [hc, BLE_HS_ENOTCONN] at h
  · exact .inl hs

/-- A fragment on the client's connection that fits is appended as the bytes `om_data` holds,
`OS_MBUF_PKTLEN` of them, without waking the caller. -/
theorem onReadCB_fragment (ok : Bool) (now myConn : Nat) (valBuf : BLEAttValue) (om : MbufChain)
    (hfit : valBuf.attrLen + om.pktLen ≤ BLE_ATT_ATTR_MAX_LEN) :
    onReadCB ok now myConn valBuf ⟨myConn, 0, some om⟩ =
      (valBuf.append ok now (om.omData om.pktLen), none, 0) := by
  simp [onReadCB, BLE_HS_ENOTCONN, Nat.not_lt.2 hfit]

/-- The bytes of a fragment appended, with every allocation succeeding, to a valid buffer with
room for them and `rest` bytes more: the buffer stays valid, holds them after the old bytes,
and keeps room for the `rest`. -/
theorem append_fragment (now rest : Nat) {v : BLEAttValue} (hv : v.Valid BLE_ATT_ATTR_MAX_LEN)
    (f : MbufChain) (hfit : v.attrLen + f.pktLen + rest ≤ v.attrMaxLen) :
    (v.append true now (f.omData f.pktLen)).Valid BLE_ATT_ATTR_MAX_LEN ∧
      (v.append true now (f.omData f.pktLen)).value = v.value ++ f.omData f.pktLen ∧
      (v.append true now (f.omData f.pktLen)).attrLen + rest ≤
        (v.append true now (f.omData f.pktLen)).attrMaxLen := by
  have hread : (f.omData f.pktLen).length ≤ f.pktLen := by
    simp only [MbufChain.omData, List.length_take]; omega
  obtain ⟨hl, hval⟩ := @BLEAttValue.append_of_fits true now v (f.omData f.pktLen)
    hv.allocated' hv.len_le_capacity (by omega) (.inl rfl)
  exact ⟨hv.append (by omega), hval, by rw [hl, BLEAttValue.attrMaxLen_append]; omega⟩

/-- The fields of `BLERemoteCharacteristic` the handler uses: its handle, `m_value`, and
whether `m_notifyCallback` is set. -/
structure RemoteCharacteristic where
  handle : Nat
  value : BLEAttValue
  hasNotifyCallback : Bool
deriving DecidableEq, Repr

/-- The fields of `BLERemoteService` the handler uses. -/
structure RemoteService where
  endHandle : Nat
  chars : List RemoteCharacteristic
deriving DecidableEq, Repr

/-- A call of `m_notifyCallback`: the characteristic's handle, the bytes and `isNotify`. -/
structure NotifyCall where
  chr : Nat
  data : List UInt8
  isNotify : Bool
deriving DecidableEq, Repr

section

variable (ok : Bool) (now attrHandle : Nat) (om : MbufChain) (indication : Bool)

/-- The inner loop of the `BLE_GAP_EVENT_NOTIFY_RX` arm (`NimBLEClient.cpp:995-1006`): the
first characteristic with the handle gets `OS_MBUF_PKTLEN` bytes of `om_data` through
`m_value.setValue`, and its callback the same bytes. -/
def notifyRxChars : List RemoteCharacteristic → List RemoteCharacteristic × List NotifyCall
  | [] => ([], [])
  | chr :: chrs =>
    if chr.handle = attrHandle then
      let data_len := om.pktLen
      ({ chr with value := (chr.value.setValue ok now (om.omData data_len)).1 } :: chrs,
        if chr.hasNotifyCallback then [⟨chr.handle, om.omData data_len, !indication⟩] else [])
    else
      let r := notifyRxChars chrs
      (chr :: r.1, r.2)

/-- The `BLE_GAP_EVENT_NOTIFY_RX` arm of `BLEClient::handleGapEvent` (`NimBLEClient.cpp:980`)
for a client on connection `myConn`: every service whose end handle is not below the event's
handle is searched. Returns the services afterwards and the callbacks made. -/
def handleNotifyRx (myConn connHandle : Nat) (svcs : List RemoteService) :
    List RemoteService × List NotifyCall :=
  if myConn ≠ connHandle then (svcs, [])
  else
    (svcs.map fun svc => if svc.endHandle < attrHandle then svc
      else { svc with chars := (notifyRxChars ok now attrHandle om indication svc.chars).1 },
     svcs.flatMap fun svc => if svc.endHandle < attrHandle then []
      else (notifyRxChars ok now attrHandle om indication svc.chars).2)

end

/-! ## What the retry loops share -/

/-- The stack's answers to the retry loops: the code of the `n`-th procedure started, and the
result of the `n`-th call of `BLEClient::secureConnection`. -/
structure ClientAnswers where
  startRc : Nat → Nat
  secure : Nat → Bool

/-- Where a blocking operation is: in `taskWait` for a pending procedure, in `taskWait` with
no procedure left to release it, or returned with `rc`. -/
inductive CallPhase
  | waiting
  | stuck
  | returned (rc : Nat)
deriving DecidableEq, Repr

/-- The three security arms of both loops' `switch` (`part_014:152-154`, `:234-236`). -/
def insufficientSecurity (rc : Nat) : Bool :=
  rc = BLE_HS_ATT_ERR BLE_ATT_ERR_INSUFFICIENT_AUTHEN ∨
    rc = BLE_HS_ATT_ERR BLE_ATT_ERR_INSUFFICIENT_AUTHOR ∨
    rc = BLE_HS_ATT_ERR BLE_ATT_ERR_INSUFFICIENT_ENC

/-- The loop condition `rc != 0 && retryCount--` of both loops: another round with the
decremented count, or none. -/
def retryAgain (rc retryCount : Nat) : Option Nat :=
  if rc ≠ 0 ∧ retryCount ≠ 0 then some (retryCount - 1) else none

/-! ## A payload in two mbufs -/

/-- A three-byte payload received as two bytes in the packet-header mbuf, followed in memory by
`0xAA 0xBB`, and one byte in the next mbuf. -/
def twoMbufPayload : MbufChain := ⟨⟨[1, 2], [0xAA, 0xBB]⟩, [⟨[3], []⟩]⟩

/-- A remote service whose characteristic with handle 12 has a notify callback. -/
def notifiedService : RemoteService := ⟨20, [⟨12, BLEAttValue.new true 512 4 512, true⟩]⟩

/-- On the payload `[1, 2, 3]` in two mbufs, the notification handler stores `[1, 2, 0xAA]` in
`m_value` and hands it to the callback, `onReadCB` appends `[1, 2, 0xAA]`, and the server's
write path stores `[1, 2, 3]`. -/
theorem remote_readers_read_past_first_mbuf :
    twoMbufPayload.flatten = [1, 2, 3] ∧
      ((handleNotifyRx true 0 12 twoMbufPayload false 5 5 [notifiedService]).1.map
        fun svc => svc.chars.map (·.value.value)) = [[[1, 2, 0xAA]]] ∧
      (handleNotifyRx true 0 12 twoMbufPayload false 5 5 [notifiedService]).2 =
        [⟨12, [1, 2, 0xAA], true⟩] ∧
      (onReadCB true 0 5 (BLEAttValue.new true 512 4 512) ⟨5, 0, some twoMbufPayload⟩).1.value =
        [1, 2, 0xAA] ∧
      (handleWriteChain 13 true 0 ⟨BLEAttValue.new true 512 4 512, []⟩
        twoMbufPayload).map (·.2.attVal.value) = some [1, 2, 3] := by
  decide

end BleGatt
