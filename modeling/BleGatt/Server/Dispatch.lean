import BleGatt.Server.Handles

/-!
# Subscriptions and notification status

The `BLE_GAP_EVENT_SUBSCRIBE` and `BLE_GAP_EVENT_NOTIFY_TX` arms of `BLEServer::handleGapEvent`
(`BLEServer.cpp:416-479`) find their characteristic by handle: both walk every characteristic
of every service of `m_svcVec`, removed or not, and compare `getHandle()` with the event's
`attr_handle`. A subscription calls `onSubscribe` on every match, each time with
`cur_notify + cur_indicate`; a transmit status calls `onStatus` on the last match only, except
for an indication sent but not yet acknowledged.

Each arm is a function of the state returning the effects it has, in order
(`State.handleSubscribe`, `State.handleNotifyTx`). `handleSubscribe_eq` and
`handleNotifyTx_eq` say which characteristics they reach: the matches `State.subscribeTargets`
lists. `subscribe_value_not_bitmask` is a run where the value handed to `onSubscribe` is not the
subscription bitmask `BLECharacteristicCallbacks::onSubscribe` documents (`part_012:398-410`).
-/

namespace BleGatt

/-- `BLE_GATT_CHR_F_READ_ENC | BLE_GATT_CHR_F_READ_AUTHEN | BLE_GATT_CHR_F_READ_AUTHOR`
(`0x0200 | 0x0400 | 0x0800` in the host's headers): the properties for which a subscription
from an unencrypted link starts security. -/
def BLE_GATT_CHR_F_READ_SECURE : Nat := 0x0E00

/-- What a GAP event handler does to the application: a call of `BLEDevice::startSecurity`, or a
callback of `BLECharacteristicCallbacks` on a characteristic. -/
inductive GapEffect
  | startSecurity (connHandle : Nat)
  | onSubscribe (chr : Ptr) (connHandle subValue : Nat)
  | onStatus (chr : Ptr) (status : Nat)
deriving DecidableEq, Repr

/-- The characteristic an effect is a callback on. -/
def GapEffect.callbackChr : GapEffect → Option Ptr
  | .onSubscribe c _ _ | .onStatus c _ => some c
  | .startSecurity _ => none

namespace State

section

variable (s : State) (encrypted : Bool) (connHandle attrHandle curNotify curIndicate : Nat)

/-- The inner loop of the `BLE_GAP_EVENT_SUBSCRIBE` arm (`BLEServer.cpp:427-439`) over the
characteristics of one service. For a characteristic with the event's handle, a connection the
host does not know (`ble_gap_conn_find` failing) leaves the loop; otherwise security is started
for a read-protected characteristic on an unencrypted link, and `onSubscribe` called with
`cur_notify + cur_indicate`. `encrypted` is `peerInfo.isEncrypted()`. -/
def subscribeChars : List Ptr → List GapEffect
  | [] => []
  | c :: cs =>
    if s.heap.chrHandle c = some attrHandle then
      if connHandle ∉ s.host.conns then []
      else
        let props := ((s.heap.chrs c).map (·.properties)).getD 0
        (if !encrypted && props &&& BLE_GATT_CHR_F_READ_SECURE ≠ 0 then [.startSecurity connHandle]
          else []) ++ .onSubscribe c connHandle (curNotify + curIndicate) :: subscribeChars cs
    else subscribeChars cs

/-- The `BLE_GAP_EVENT_SUBSCRIBE` arm (`BLEServer.cpp:416`): the inner loop for every service
of `m_svcVec`. -/
def handleSubscribe : List GapEffect :=
  s.server.svcVec.flatMap fun p => subscribeChars s encrypted connHandle attrHandle curNotify
    curIndicate (s.heap.chars p)

/-- Over one service, the callbacks are `onSubscribe` on the characteristics with the handle,
in order, when the host knows the connection, and none otherwise. -/
theorem callbacks_subscribeChars (l : List Ptr) :
    (subscribeChars s encrypted connHandle attrHandle curNotify curIndicate l).filterMap
        GapEffect.callbackChr =
      if connHandle ∈ s.host.conns then l.filter fun c => s.heap.chrHandle c = some attrHandle
      else [] := by
  induction l with
  | nil => split <;> rfl
  | cons c cs ih =>
    by_cases hc : s.heap.chrHandle c = some attrHandle
    · by_cases hk : connHandle ∈ s.host.conns
      · rw [if_pos hk] at ih ⊢
        simp only [subscribeChars, hc, hk, if_true, not_true_eq_false, if_false,
          List.filter_cons, decide_True]
        split <;> simp [GapEffect.callbackChr, ih]
      · simp [subscribeChars, hc, hk]
    · simp [subscribeChars, hc, ih]

/-- Every `onSubscribe` the arm makes carries `cur_notify + cur_indicate`. -/
theorem subValue_of_mem_subscribeChars {l : List Ptr} {c : Ptr} {k v : Nat}
    (h : GapEffect.onSubscribe c k v ∈ subscribeChars s encrypted connHandle attrHandle curNotify
      curIndicate l) : v = curNotify + curIndicate := by
  induction l with
  | nil => cases h
  | cons d ds ih =>
    by_cases hd : s.heap.chrHandle d = some attrHandle
    · by_cases hk : connHandle ∈ s.host.conns
      · simp only [subscribeChars, hd, hk, if_true, not_true_eq_false, if_false,
          List.mem_append, List.mem_cons] at h
        rcases h with h | h | h
        · split at h <;> simp at h
        · cases h; rfl
        · exact ih h
      · simp [subscribeChars, hd, hk] at h
    · simp only [subscribeChars, hd, if_false] at h
      exact ih h

end

/-- A subscription on a connection the host knows calls `onSubscribe` on exactly the
characteristics of `subscribeTargets`, in order, each with `cur_notify + cur_indicate`; on one
it does not know, on none. -/
theorem handleSubscribe_eq (s : State) (encrypted : Bool) (connHandle attrHandle curNotify
    curIndicate : Nat) :
    (s.handleSubscribe encrypted connHandle attrHandle curNotify curIndicate).filterMap
        GapEffect.callbackChr =
      (if connHandle ∈ s.host.conns then s.subscribeTargets attrHandle else []) ∧
    ∀ c k v, GapEffect.onSubscribe c k v ∈
      s.handleSubscribe encrypted connHandle attrHandle curNotify curIndicate →
      v = curNotify + curIndicate := by
  refine ⟨?_, fun c k v h => ?_⟩
  · simp only [handleSubscribe, List.filterMap_flatMap, callbacks_subscribeChars]
    split
    · rfl
    · simp
  · obtain ⟨p, -, hp⟩ := List.mem_flatMap.1 h
    exact subValue_of_mem_subscribeChars s encrypted connHandle attrHandle curNotify curIndicate hp

/-- The search of the `BLE_GAP_EVENT_NOTIFY_TX` arm (`BLEServer.cpp:457-464`): `pChar` is
reassigned at every characteristic with the handle, so the last one wins. -/
def notifyTxChar (s : State) (attrHandle : Nat) : Option Ptr :=
  s.server.svcVec.foldl (fun pChar p => (s.heap.chars p).foldl
    (fun pChar c => if s.heap.chrHandle c = some attrHandle then some c else pChar) pChar) none

/-- The `BLE_GAP_EVENT_NOTIFY_TX` arm (`BLEServer.cpp:455`): nothing when no characteristic
has the handle, or for an indication with status 0 (sent, not yet acknowledged); otherwise
`onStatus` on the one found. -/
def handleNotifyTx (s : State) (attrHandle status : Nat) (indication : Bool) : List GapEffect :=
  match s.notifyTxChar attrHandle with
  | none => []
  | some c => if indication ∧ status = 0 then [] else [.onStatus c status]

/-- A reassigning search from `acc` ends at the last match, or at `acc` when there is none. -/
theorem foldl_last_match (P : Ptr → Prop) [DecidablePred P] :
    ∀ (l : List Ptr) (acc : Option Ptr),
      l.foldl (fun a c => if P c then some c else a) acc = (l.filter P).getLast?.or acc
  | [], acc => rfl
  | c :: cs, acc => by
    rw [List.foldl_cons, foldl_last_match P cs, List.filter_cons]
    by_cases hc : P c
    · simp only [hc, if_true, decide_True, List.getLast?_cons]
      cases (cs.filter P).getLast? <;> rfl
    · simp [hc]

/-- The transmit status goes to the last characteristic of `subscribeTargets`. -/
theorem notifyTxChar_eq (s : State) (attrHandle : Nat) :
    s.notifyTxChar attrHandle = (s.subscribeTargets attrHandle).getLast? := by
  -- the nested search is one search over the characteristics of all services, in order
  have hflat : s.notifyTxChar attrHandle = (s.server.svcVec.flatMap s.heap.chars).foldl
      (fun a c => if s.heap.chrHandle c = some attrHandle then some c else a) none := by
    rw [List.flatMap_def, List.foldl_flatten, List.foldl_map]; rfl
  rw [hflat, foldl_last_match, Option.or_none, subscribeTargets, List.filter_flatMap]

/-- A transmit status calls `onStatus` once, on the last characteristic with the handle, with
the event's status, unless no characteristic has the handle or the event is an indication
with status 0. -/
theorem handleNotifyTx_eq (s : State) (attrHandle status : Nat) (indication : Bool) :
    s.handleNotifyTx attrHandle status indication =
      match (s.subscribeTargets attrHandle).getLast? with
      | none => []
      | some c => if indication ∧ status = 0 then [] else [.onStatus c status] := by
  rw [handleNotifyTx, notifyTxChar_eq]

end State

/-! ## The subscription value -/

/-- A started server with one characteristic that notifies and indicates (properties
`0x10 | 0x20`), and a peer connected with handle 5. -/
def notifyIndicateSubscribed : State :=
  (State.init 3 10 fun _ => 0).run [.createService 0x180D, .createCharacteristic 0 0x2A37 0x30,
    .startService 0, .start, .connect 0 5]

/-- The characteristic is registered at value handle 12. A subscription to indications only
reaches it with 1, the value documented for notifications, and one to both with 2, the value
documented for indications. -/
theorem subscribe_value_not_bitmask :
    Reachable notifyIndicateSubscribed ∧
      Host.valHandleOf (Host.chrEntries notifyIndicateSubscribed.host.table) 1 = some 12 ∧
      notifyIndicateSubscribed.handleSubscribe false 5 12 0 1 = [.onSubscribe 1 5 1] ∧
      notifyIndicateSubscribed.handleSubscribe false 5 12 1 1 = [.onSubscribe 1 5 2] :=
  ⟨(Reachable.init 3 10 _).run (by decide), by decide, by decide, by decide⟩

end BleGatt
