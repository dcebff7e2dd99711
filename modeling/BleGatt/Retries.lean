import Mathlib.Algebra.Group.Int
import Mathlib.Algebra.Group.Nat.Basic
import Mathlib.Data.List.Basic

/-!
# The client's retry counters

Two `uint8_t` counters of `BLEClient` (`BLEClient.h:120-121`) decide when its GAP handler tries
again on its own.

When the host fails to terminate the connection, the handler's `BLE_GAP_EVENT_TERM_FAILURE` arm
(`NimBLEClient.cpp:965-978`) terminates again while `++m_terminateFailCount > 2` does not hold,
and asks for a host reset otherwise; only a disconnect sets the count back to 0. The count
wraps at 256, so the arm terminates again exactly when the incremented count is at most 2
modulo 256 (`handleTermFailure_self`): of consecutive failures from a count of 0, the `k`-th
terminates again when `k mod 256` is 0, 1 or 2.

`secureConnection(true)` (`NimBLEClient.cpp:275-288`) counts its calls in
`m_asyncSecureAttempt`. When the encryption fails for a missing key, the
`BLE_GAP_EVENT_ENC_CHANGE` arm (`NimBLEClient.cpp:1051-1080`) calls `secureConnection(true)`
again if the count is 1; a successful encryption and a disconnect (`NimBLEClient.cpp:904`) set
it back to 0. The retry itself raises the count past 1, so the handler never retries twice for
one call: over every run of a client, its retries never outnumber the application's calls
(`secureRun_retries_le_calls`). The argument is a potential: a count of 1 is a retry paid for
in advance (`pendingRetry`), and no event spends more than it holds
(`handleEncChangeAttempt_pending`, `secureRun_potential`).
-/

namespace BleGatt

/-! ## Termination failures -/

/-- What the `BLE_GAP_EVENT_TERM_FAILURE` arm does: nothing, `ble_gap_terminate` on the
connection again, or `ble_hs_sched_reset(BLE_HS_ECONTROLLER)`. -/
inductive TermAction
  | none
  | terminate (connHandle : Nat)
  | reset
deriving DecidableEq, Repr

/-- The `BLE_GAP_EVENT_TERM_FAILURE` arm of `BLEClient::handleGapEvent`
(`NimBLEClient.cpp:965`) for a client on `m_connHandle`, with `m_terminateFailCount` a
`uint8_t`: the count afterwards and what the arm does. -/
def handleTermFailure (m_connHandle : Nat) (m_terminateFailCount : UInt8) (connHandle : Nat) :
    UInt8 × TermAction :=
  if m_connHandle ≠ connHandle then (m_terminateFailCount, .none)
  else
    let count := m_terminateFailCount + 1
    (count, if count > 2 then .reset else .terminate connHandle)

/-- A failure on the client's connection: the count goes up modulo 256, and the arm terminates
again while the new count is at most 2. -/
theorem handleTermFailure_self (conn : Nat) (count : UInt8) :
    handleTermFailure conn count conn =
      (count + 1, if (count.toNat + 1) % 256 ≤ 2 then .terminate conn else .reset) := by
  have hc : (count + 1).toNat = (count.toNat + 1) % 256 := by simp [UInt8.toNat, UInt8.add_def]
  have hgt : count + 1 > 2 ↔ 2 < (count + 1).toNat := Iff.rfl
  simp only [handleTermFailure, ne_eq, not_true_eq_false, if_false]
  by_cases h : (count.toNat + 1) % 256 ≤ 2
  · rw [if_neg (by rw [hgt, hc]; omega), if_pos h]
  · rw [if_pos (by rw [hgt, hc]; omega), if_neg h]

/-! ## Asynchronous security -/

/-- `BLEClient::secureConnection(true)` (`NimBLEClient.cpp:275-288`), as it touches
`m_asyncSecureAttempt`: `startOk` is what `BLEDevice::startSecurity` answers. -/
def secureConnectionAsync (startOk : Bool) (m_asyncSecureAttempt : UInt8) : UInt8 :=
  if !startOk then 0 else m_asyncSecureAttempt + 1

section

variable (HCI_PINKEY_MISSING : Nat)

/-- The `BLE_GAP_EVENT_ENC_CHANGE` arm (`NimBLEClient.cpp:1051-1080`) on the client's own
connection (on another one it returns at once), as it touches `m_asyncSecureAttempt`: `found`
is whether `ble_gap_conn_find` finds the connection, and `startOk` what `startSecurity` answers
if the arm retries. The count afterwards and whether the arm retried. -/
def handleEncChangeAttempt (status : Nat) (found startOk : Bool) (m_asyncSecureAttempt : UInt8) :
    UInt8 × Bool :=
  if status = 0 ∨ status = HCI_PINKEY_MISSING then
    if !found then (m_asyncSecureAttempt, false)
    else if status = HCI_PINKEY_MISSING then
      if m_asyncSecureAttempt = 1 then (secureConnectionAsync startOk m_asyncSecureAttempt, true)
      else (m_asyncSecureAttempt, false)
    else (0, false)
  else (m_asyncSecureAttempt, false)

/-- What happens to `m_asyncSecureAttempt`: the application calls `secureConnection(true)`, the
host reports an encryption change on the connection, or the connection drops. -/
inductive SecureEvent
  | secureConnection (startOk : Bool)
  | encChange (status : Nat) (found startOk : Bool)
  | disconnect
deriving DecidableEq, Repr

/-- An application call of `secureConnection(true)`. -/
def SecureEvent.isCall : SecureEvent → Bool
  | .secureConnection _ => true
  | _ => false

/-- Run the events from a count: the count afterwards and how often the handler retried. -/
def secureRun : UInt8 → List SecureEvent → UInt8 × Nat
  | a, [] => (a, 0)
  | a, .secureConnection startOk :: es => secureRun (secureConnectionAsync startOk a) es
  | a, .encChange status found startOk :: es =>
    let r := handleEncChangeAttempt HCI_PINKEY_MISSING status found startOk a
    let rest := secureRun r.1 es
    (rest.1, rest.2 + if r.2 then 1 else 0)
  | _, .disconnect :: es => secureRun 0 es

/-- A count of 1 holds one retry the handler may still make. -/
def pendingRetry (a : UInt8) : Nat := if a = 1 then 1 else 0

@[simp] theorem pendingRetry_zero : pendingRetry 0 = 0 := rfl

theorem pendingRetry_le_one (a : UInt8) : pendingRetry a ≤ 1 := by
  unfold pendingRetry; split <;> omega

/-- A retry leaves the count at 0 or 2, never at 1. -/
theorem pendingRetry_secureConnectionAsync_one (startOk : Bool) :
    pendingRetry (secureConnectionAsync startOk 1) = 0 := by
  cases startOk <;> decide

/-- The arm spends the pending retry when it retries, and never makes a new one. -/
theorem handleEncChangeAttempt_pending (status : Nat) (found startOk : Bool) (a : UInt8) :
    let r := handleEncChangeAttempt HCI_PINKEY_MISSING status found startOk a
    (if r.2 then 1 else 0) + pendingRetry r.1 ≤ pendingRetry a := by
  unfold handleEncChangeAttempt
  split_ifs with _ _ _ ha <;>
    simp only [Bool.false_eq_true, if_false, if_true, Nat.zero_add, le_refl]
  · subst ha; rw [pendingRetry_secureConnectionAsync_one]; decide
  · rw [pendingRetry_zero]; exact Nat.zero_le _

/-- Over a run, the retries and the retry still pending are paid for by the application's calls
and the retry pending at the start. -/
theorem secureRun_potential (es : List SecureEvent) (a : UInt8) :
    (secureRun HCI_PINKEY_MISSING a es).2 + pendingRetry (secureRun HCI_PINKEY_MISSING a es).1 ≤
      es.countP SecureEvent.isCall + pendingRetry a := by
  induction es generalizing a with
  | nil => simp [secureRun]
  | cons e es ih =>
    cases e with
    | secureConnection startOk =>
      have := ih (secureConnectionAsync startOk a)
      have := pendingRetry_le_one (secureConnectionAsync startOk a)
      simp only [secureRun, List.countP_cons, SecureEvent.isCall, if_true]
      omega
    | encChange status found startOk =>
      have := ih (handleEncChangeAttempt HCI_PINKEY_MISSING status found startOk a).1
      have := handleEncChangeAttempt_pending HCI_PINKEY_MISSING status found startOk a
      simp only [secureRun, List.countP_cons, SecureEvent.isCall] at *
      omega
    | disconnect =>
      have := ih 0
      simp only [secureRun, List.countP_cons, SecureEvent.isCall, pendingRetry_zero,
        Bool.false_eq_true, if_false] at *
      omega

/-- From a new client or a disconnect (a count of 0), for every run of application calls,
encryption changes and disconnects, the handler retries at most as often as the application
called `secureConnection(true)`: a missing key does not make it retry in a loop. -/
theorem secureRun_retries_le_calls (es : List SecureEvent) :
    (secureRun HCI_PINKEY_MISSING 0 es).2 ≤ es.countP SecureEvent.isCall := by
  have := secureRun_potential HCI_PINKEY_MISSING es 0
  rw [pendingRetry_zero] at this
  omega

/-- A missing key after one call: the handler retries once, and a second missing key finds the
count at 2. -/
example : secureRun 5 0 [.secureConnection true, .encChange 5 true true, .encChange 5 true true] =
    (2, 1) := by decide

end

end BleGatt
