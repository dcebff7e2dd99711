import BleGatt.Address

/-!
# `BLEClient::connect`: the retry loop and the timeout

`BLEClient::connect` (`NimBLEClient.cpp:160-262`) checks the host and the peer, then calls
`ble_gap_connect` (or `ble_gap_ext_connect`) in a `do … while (rc == BLE_HS_EBUSY)` loop. On
`BLE_HS_EBUSY` it stops the scan through `BLEScan::stop` and calls again when that succeeds; a
failed stop turns `rc` into `BLE_HS_EUNKNOWN`, which ends the loop. Nothing else bounds it: the
loop makes one call more for every `EBUSY` after which the scan stops, and ends at the first
call that is not one (`connect_loop_calls`). The host's answers are a parameter
(`ConnectAnswers`), indexed by the number of calls made before, and the loop runs on fuel.

Every call is given `m_connectTimeout` as its duration, and a synchronous connect then waits
`m_connectTimeout + 1000` milliseconds. `m_connectTimeout` is an `int32_t` that
`setConnectTimeout(uint32_t)` assigns: values from `2^31` on become negative, and the addition
overflows from `INT32_MAX - 999` on, `INT32_MAX` (the host's `BLE_HS_FOREVER`) included
(`connect_timeouts`).
-/

namespace BleGatt

/-- `BLE_HS_EBUSY`. -/
def BLE_HS_EBUSY : Nat := 15

/-- `BLE_HS_EUNKNOWN`. -/
def BLE_HS_EUNKNOWN : Nat := 17

/-! ## `int32_t` -/

/-- An `int32_t`. -/
structure Int32 where
  val : Int
  min_le : -2 ^ 31 ≤ val
  lt_max : val < 2 ^ 31
deriving DecidableEq

namespace Int32

/-- The conversion of a `uint32_t` to `int32_t`: modulo `2^32`, as GCC does and C++20
requires. -/
def ofUInt32 (t : UInt32) : Int32 :=
  if h : t.toNat < 2 ^ 31 then ⟨t.toNat, by omega, by omega⟩
  else ⟨t.toNat - 2 ^ 32, by have := t.toNat_lt_size; simp [UInt32.size] at this; omega,
    by have := t.toNat_lt_size; simp [UInt32.size] at this; omega⟩

/-- `a + b` in `int`, or `none` when it overflows, which is undefined. -/
def addChecked (a : Int32) (b : Int) : Option Int32 :=
  if h : -2 ^ 31 ≤ a.val + b ∧ a.val + b < 2 ^ 31 then some ⟨a.val + b, h.1, h.2⟩ else none

/-- The conversion of an `int` argument to a `uint32_t` parameter, modulo `2^32`. -/
def toUInt32 (a : Int32) : UInt32 := UInt32.ofNat (a.val % 2 ^ 32).toNat

theorem val_ofUInt32 (t : UInt32) :
    (ofUInt32 t).val = if t.toNat < 2 ^ 31 then (t.toNat : Int) else t.toNat - 2 ^ 32 := by
  unfold ofUInt32; split <;> rfl

theorem addChecked_eq_none {a : Int32} {b : Int} :
    a.addChecked b = none ↔ ¬(-2 ^ 31 ≤ a.val + b ∧ a.val + b < 2 ^ 31) := by
  unfold addChecked
  split
  case isTrue h => exact iff_of_false (by simp) (not_not.2 h)
  case isFalse h => exact iff_of_true rfl h

theorem addChecked_map_toUInt32 {a : Int32} {b : Int} (h : -2 ^ 31 ≤ a.val + b)
    (h' : a.val + b < 2 ^ 31) :
    ((a.addChecked b).map toUInt32).map UInt32.toNat = some ((a.val + b) % 2 ^ 32).toNat := by
  simp only [addChecked, dif_pos (And.intro h h'), Option.map_some', toUInt32]
  simp only [UInt32.toNat, UInt32.ofNat, BitVec.toNat_ofNat, Option.some.injEq]
  omega

end Int32

/-! ## The retry loop -/

/-- What the host answers `connect`: the result of the `n`-th call of `ble_gap_connect`, and
of `BLEScan::stop` after it. -/
structure ConnectAnswers where
  connectRc : Nat → Nat
  scanStop : Nat → Bool

namespace ConnectAnswers

/-- The `switch` after the `n`-th call (`NimBLEClient.cpp:203-220`): `EBUSY` stays when the
scan stops and becomes `EUNKNOWN` when it does not; the other arms only log. -/
def rcAfter (k : ConnectAnswers) (n : Nat) : Nat :=
  if k.connectRc n = BLE_HS_EBUSY then (if k.scanStop n then BLE_HS_EBUSY else BLE_HS_EUNKNOWN)
  else k.connectRc n

/-- The `n`-th call is answered `EBUSY` and the scan stops after it: the loop goes round. -/
def Busy (k : ConnectAnswers) (n : Nat) : Prop := k.connectRc n = BLE_HS_EBUSY ∧ k.scanStop n = true

instance (k : ConnectAnswers) (n : Nat) : Decidable (k.Busy n) :=
  inferInstanceAs (Decidable (_ ∧ _))

theorem rcAfter_eq_busy_iff (k : ConnectAnswers) (n : Nat) :
    k.rcAfter n = BLE_HS_EBUSY ↔ k.Busy n := by
  unfold rcAfter Busy
  split_ifs <;> simp_all [BLE_HS_EBUSY, BLE_HS_EUNKNOWN]

end ConnectAnswers

/-- The loop (`NimBLEClient.cpp:193-223`) from the `n`-th call on, with `fuel` calls left: the
number of calls made and the final `rc`, or `none` when the calls run out before it ends. -/
def connectLoop (k : ConnectAnswers) : Nat → Nat → Option (Nat × Nat)
  | 0, _ => none
  | fuel + 1, n =>
    if k.rcAfter n = BLE_HS_EBUSY then connectLoop k fuel (n + 1) else some (n + 1, k.rcAfter n)

/-- Calls answered `EBUSY` after which the scan stops are each one round more. -/
theorem connectLoop_busy (k : ConnectAnswers) :
    ∀ (m fuel n : Nat), (∀ i < m, k.Busy (n + i)) →
      connectLoop k (m + fuel) n = connectLoop k fuel (n + m)
  | 0, fuel, n, _ => by rw [Nat.zero_add, Nat.add_zero]
  | m + 1, fuel, n, hbusy => by
    have h0 : k.rcAfter n = BLE_HS_EBUSY := (k.rcAfter_eq_busy_iff n).2 (hbusy 0 (by omega))
    rw [show m + 1 + fuel = (m + fuel) + 1 by omega, connectLoop, if_pos h0,
      connectLoop_busy k m fuel (n + 1) fun i hi => by
        rw [show n + 1 + i = n + (i + 1) by omega]; exact hbusy (i + 1) (by omega)]
    rw [show n + 1 + m = n + (m + 1) by omega]

/-- For every answer of the host: the loop ends after the first call that is not a stopped
`EBUSY`, the `m`-th, with `m + 1` calls and that call's `rc`; while the calls are stopped
`EBUSY`s, no number of calls ends it. -/
theorem connect_loop_calls (k : ConnectAnswers) :
    (∀ m fuel : Nat, (∀ i < m, k.Busy i) → ¬k.Busy m → m < fuel →
      connectLoop k fuel 0 = some (m + 1, k.rcAfter m) ∧ k.rcAfter m ≠ BLE_HS_EBUSY) ∧
    (∀ fuel : Nat, (∀ i < fuel, k.Busy i) → connectLoop k fuel 0 = none) := by
  refine ⟨fun m fuel hbusy hend hfuel => ?_, fun fuel hbusy => ?_⟩
  · have hrc : k.rcAfter m ≠ BLE_HS_EBUSY := fun h => hend ((k.rcAfter_eq_busy_iff m).1 h)
    obtain ⟨f, rfl⟩ : ∃ f, fuel = m + (f + 1) := ⟨fuel - m - 1, by omega⟩
    rw [connectLoop_busy k m (f + 1) 0 (by simpa using hbusy), Nat.zero_add, connectLoop,
      if_neg hrc]
    exact ⟨rfl, hrc⟩
  · have := connectLoop_busy k fuel 0 0 (by simpa using hbusy)
    rwa [Nat.add_zero] at this

/-- The host answers `EBUSY` twice, stopping the scan each time, then connects. -/
def busyTwice : ConnectAnswers := ⟨fun n => if n < 2 then BLE_HS_EBUSY else 0, fun _ => true⟩

/-- The loop ends after its third call. -/
theorem connect_loop_calls_busyTwice :
    ((∀ i < 2, busyTwice.Busy i) ∧ ¬busyTwice.Busy 2 ∧ 2 < 5) ∧
      connectLoop busyTwice 5 0 = some (2 + 1, busyTwice.rcAfter 2) ∧
      busyTwice.rcAfter 2 ≠ BLE_HS_EBUSY :=
  ⟨by decide, (connect_loop_calls busyTwice).1 2 5 (by decide) (by decide) (by decide)⟩

/-- Three calls are made before the loop proceeds: more than two. -/
theorem connect_makes_three_calls : connectLoop busyTwice 5 0 = some (3, 0) := by decide

/-! ## The whole call -/

/-- `setConnectTimeout(time)` (`NimBLEClient.cpp:511`): `m_connectTimeout = time`. -/
def setConnectTimeout (time : UInt32) : Int32 := Int32.ofUInt32 time

/-- The duration `connect` hands to every call of `ble_gap_connect`, `m_connectTimeout`, and
the timeout of its wait, `m_connectTimeout + 1000` as a `uint32_t`, `none` when the addition
overflows. -/
def connectTimeouts (m_connectTimeout : Int32) : Int × Option UInt32 :=
  (m_connectTimeout.val, (m_connectTimeout.addChecked 1000).map Int32.toUInt32)

/-- The checks at the top of `connect` (`NimBLEClient.cpp:163-182`) that ask the host: whether
it is synced, the client connected, and a connection to the peer open. -/
structure ConnectChecks where
  synced : Bool
  connected : Bool
  connExists : Bool

/-- How `connect` goes on after its loop: `false` at a check, before any call; `false` with
`m_lastErr = rc` after the loop; `true` at once when asynchronous; or a wait in `taskWait`
with its timeout. -/
inductive ConnectOutcome
  | refused
  | failed (lastErr : Nat)
  | async
  | wait (timeout : Option UInt32)
deriving DecidableEq

/-- `BLEClient::connect(address, deleteAttributes, asyncConnect, exchangeMTU)`
(`NimBLEClient.cpp:160`) up to its wait, with `fuel` calls for the loop: the duration handed to
each call, and how it goes on; `none` when the calls run out. -/
def connect (chk : ConnectChecks) (k : ConnectAnswers) (fuel : Nat) (m_connectTimeout : Int32)
    (address : BLEAddress) (asyncConnect : Bool) : Option (List Int × ConnectOutcome) :=
  if !chk.synced || chk.connected || chk.connExists || address.isNull then some ([], .refused)
  else (connectLoop k fuel 0).map fun r =>
    (List.replicate r.1 (connectTimeouts m_connectTimeout).1,
      if r.2 ≠ 0 then .failed r.2
      else if asyncConnect then .async
      else .wait (connectTimeouts m_connectTimeout).2)

/-- For every `uint32_t` timeout `t`: below `INT32_MAX - 999`, `connect` hands `t` to the host
and waits `t + 1000`; up to `INT32_MAX`, `m_connectTimeout + 1000` overflows; from `2^31` on,
the host is handed the negative `t - 2^32`, and the wait is `t + 1000` modulo `2^32`. -/
theorem connect_timeouts (t : UInt32) :
    (t.toNat < 2 ^ 31 - 1000 →
      (connectTimeouts (setConnectTimeout t)).1 = t.toNat ∧
      (connectTimeouts (setConnectTimeout t)).2.map UInt32.toNat = some (t.toNat + 1000)) ∧
    (2 ^ 31 - 1000 ≤ t.toNat → t.toNat < 2 ^ 31 →
      (connectTimeouts (setConnectTimeout t)).1 = t.toNat ∧
      (connectTimeouts (setConnectTimeout t)).2 = none) ∧
    (2 ^ 31 ≤ t.toNat →
      (connectTimeouts (setConnectTimeout t)).1 = t.toNat - 2 ^ 32 ∧
      (connectTimeouts (setConnectTimeout t)).2.map UInt32.toNat =
        some ((t.toNat + 1000) % 2 ^ 32)) := by
  have ht : t.toNat < 2 ^ 32 := t.toNat_lt_size
  have hval := Int32.val_ofUInt32 t
  simp only [connectTimeouts, setConnectTimeout]
  refine ⟨fun h => ?_, fun h h' => ?_, fun h => ?_⟩
  · have hv : (Int32.ofUInt32 t).val = t.toNat := by rw [hval, if_pos (by omega)]
    rw [hv, Int32.addChecked_map_toUInt32 (by omega) (by omega), hv]
    exact ⟨rfl, congrArg some (by omega)⟩
  · have hv : (Int32.ofUInt32 t).val = t.toNat := by rw [hval, if_pos h']
    rw [hv, Option.map_eq_none', Int32.addChecked_eq_none, hv]
    exact ⟨rfl, by omega⟩
  · have hv : (Int32.ofUInt32 t).val = t.toNat - 2 ^ 32 := by rw [hval, if_neg (by omega)]
    rw [hv, Int32.addChecked_map_toUInt32 (by omega) (by omega), hv]
    exact ⟨rfl, congrArg some (by omega)⟩

/-- `setConnectTimeout(BLE_HS_FOREVER)`, `INT32_MAX`: `m_connectTimeout + 1000` overflows. -/
theorem connect_timeouts_forever :
    (2 ^ 31 - 1000 ≤ (0x7fffffff : UInt32).toNat ∧ (0x7fffffff : UInt32).toNat < 2 ^ 31) ∧
      (connectTimeouts (setConnectTimeout 0x7fffffff)).1 = (0x7fffffff : UInt32).toNat ∧
      (connectTimeouts (setConnectTimeout 0x7fffffff)).2 = none :=
  ⟨by decide, (connect_timeouts 0x7fffffff).2.1 (by decide) (by decide)⟩

end BleGatt
