import BleGatt.Remote.Value

/-!
# Writing a remote value

`BLERemoteValueAttribute::writeValue` (`part_014:118-177`) writes without response when the
data fits `mtu = getMTU() - 3` and no response is asked for. Otherwise it loops: a long write
(`ble_gattc_write_long`) or a flat one (`ble_gattc_write_flat`), then `taskWait` until
`onWriteCB` releases it with the status. On `ATTR_NOT_LONG` it truncates the length to `mtu`
and increments `retryCount`; on a security error it calls `secureConnection` once while
`retryCount` is not 0; the loop condition `rc != 0 && retryCount--` decrements the count.

The `ATTR_NOT_LONG` arm's increment and the condition's decrement cancel
(`WriteCall.deliver_notLong`), so the count does not bound the loop: a peer that answers
every write with `ATTR_NOT_LONG` keeps `writeValue` writing, one flat write of `mtu` bytes per
answer (`writeValue_retries_unbounded`). `secureConnection` is still called at most once
(`WriteCall.secureCalls_writeValue_le_one`).
-/

namespace BleGatt

/-- A write procedure `writeValue` started, with the number of bytes it writes. -/
inductive WriteProc
  | noRsp (len : Nat)
  | flat (len : Nat)
  | long (len : Nat)
deriving DecidableEq, Repr

/-- A call of `writeValue`: `length`, `retryCount`, the writes started, the number of
`secureConnection` calls, and where the caller is. -/
structure WriteCall where
  length : Nat
  retryCount : Nat
  writes : List WriteProc
  secureCalls : Nat
  phase : CallPhase
deriving DecidableEq, Repr

/-- `uint16_t mtu = pClient->getMTU() - 3` (`part_014:123`). -/
def writeMtu (getMTU : Nat) : Nat := (getMTU + 65536 - 3) % 65536

/-- `BLERemoteValueAttribute::onWriteCB` (`part_014:183`) for a client on connection
`myConn`: the code passed to `taskRelease`, when it is called. -/
def onWriteCB (myConn : Nat) (e : GattCompletion) : Option Nat :=
  if e.status = BLE_HS_ENOTCONN then some e.status
  else if myConn ≠ e.connHandle then none
  else some e.status

namespace WriteCall

section

variable (k : ClientAnswers) (mtu myConn : Nat)

/-- The top of the loop body (`part_014:134-145`): a long write when the data exceeds `mtu`,
a flat one otherwise; a refusal goes to `Done`. -/
def issue (c : WriteCall) : WriteCall :=
  let w := if c.length > mtu then WriteProc.long c.length else .flat c.length
  if k.startRc c.writes.length ≠ 0 then
    { c with writes := c.writes ++ [w], phase := .returned (k.startRc c.writes.length) }
  else { c with writes := c.writes ++ [w], phase := .waiting }

/-- The loop condition (`part_014:167`): another round, or `Done`. -/
def loop (rc : Nat) (c : WriteCall) : WriteCall :=
  match retryAgain rc c.retryCount with
  | some r => issue k mtu { c with retryCount := r }
  | none => { c with phase := .returned rc }

/-- The `switch` on `taskData.m_flags` after the caller wakes (`part_014:148-166`). -/
def resume (c : WriteCall) (flags : Nat) : WriteCall :=
  if flags = 0 ∨ flags = BLE_HS_EDONE then loop k mtu 0 c
  else if flags = BLE_HS_ATT_ERR BLE_ATT_ERR_ATTR_NOT_LONG then
    loop k mtu flags { c with retryCount := c.retryCount + 1, length := mtu }
  else if insufficientSecurity flags then
    if c.retryCount = 0 then { c with phase := .returned flags }
    else if k.secure c.secureCalls then loop k mtu flags { c with secureCalls := c.secureCalls + 1 }
    else { c with secureCalls := c.secureCalls + 1, phase := .returned flags }
  else { c with phase := .returned flags }

/-- The completion of the write the caller waits for, through `onWriteCB`: a release wakes
the caller, and a completion it ignores leaves it blocked. -/
def deliver (c : WriteCall) (e : GattCompletion) : WriteCall :=
  if c.phase = .waiting then
    match onWriteCB myConn e with
    | some flags => resume k mtu c flags
    | none => { c with phase := .stuck }
  else c

/-- `writeValue` up to its first wait: a write without response when the data fits and no
response is asked for (`part_014:129-132`), the loop otherwise, with `retryCount = 1`. -/
def start (length : Nat) (response : Bool) : WriteCall :=
  if length ≤ mtu ∧ !response then ⟨length, 1, [.noRsp length], 0, .returned (k.startRc 0)⟩
  else issue k mtu ⟨length, 1, [], 0, .waiting⟩

end

/-- `writeValue(data, length, response)` (`part_014:118`) on a client whose `getMTU()` is
`getMTU`, with the completions the stack delivers, in order. -/
def writeValue (k : ClientAnswers) (getMTU myConn length : Nat) (response : Bool)
    (events : List GattCompletion) : WriteCall :=
  events.foldl (deliver k (writeMtu getMTU) myConn) (start k (writeMtu getMTU) length response)

/-! ## The `ATTR_NOT_LONG` arm -/

section

variable {k : ClientAnswers} {mtu myConn : Nat}

/-- The peer's answer `ATTR_NOT_LONG` to a write on the client's connection. -/
def notLong (myConn : Nat) : GattCompletion :=
  ⟨myConn, BLE_HS_ATT_ERR BLE_ATT_ERR_ATTR_NOT_LONG, none⟩

/-- An `ATTR_NOT_LONG` answer to a waiting call, when the stack starts the next write: the
call waits again, with the same `retryCount` and one more write, a flat one of `mtu` bytes. -/
theorem deliver_notLong {c : WriteCall} (hw : c.phase = .waiting)
    (hk : k.startRc c.writes.length = 0) :
    deliver k mtu myConn c (notLong myConn) =
      { c with length := mtu, writes := c.writes ++ [.flat mtu], phase := .waiting } := by
  have hnl : BLE_HS_ATT_ERR BLE_ATT_ERR_ATTR_NOT_LONG ≠ 0 := by decide
  simp [deliver, hw, onWriteCB, notLong, BLE_HS_ENOTCONN, BLE_HS_ATT_ERR,
    BLE_ATT_ERR_ATTR_NOT_LONG, resume, BLE_HS_EDONE, loop, retryAgain, issue, hk]

/-- A peer that answers `ATTR_NOT_LONG` `n` times keeps a waiting call waiting, with `n` more
flat writes of `mtu` bytes, when the stack starts every write. -/
theorem foldl_notLong (mtu myConn : Nat) (hk : ∀ i, k.startRc i = 0) :
    ∀ (n : Nat) (c : WriteCall), c.phase = .waiting →
      ((List.replicate n (notLong myConn)).foldl (deliver k mtu myConn) c).phase = .waiting ∧
      ((List.replicate n (notLong myConn)).foldl (deliver k mtu myConn) c).writes =
        c.writes ++ List.replicate n (.flat mtu)
  | 0, c, hw => ⟨hw, by simp⟩
  | n + 1, c, hw => by
    rw [List.replicate_succ, List.foldl_cons, deliver_notLong hw (hk _)]
    obtain ⟨hphase, hwrites⟩ := foldl_notLong mtu myConn hk n
      { c with length := mtu, writes := c.writes ++ [.flat mtu], phase := .waiting } rfl
    exact ⟨hphase, by rw [hwrites, List.append_assoc]; rfl⟩

end

/-! ## `secureConnection` is called at most once -/

/-- What holds of a call at every point: `secureConnection` was called at most once, and at
most once more while the caller waits, when the count allows. -/
structure Inv (c : WriteCall) : Prop where
  secure_le : c.secureCalls ≤ 1
  waiting_budget : c.phase = .waiting → c.secureCalls + c.retryCount ≤ 1

section

variable {k : ClientAnswers} {mtu myConn : Nat}

theorem inv_issue {c : WriteCall} (h1 : c.secureCalls ≤ 1)
    (hb : c.secureCalls + c.retryCount ≤ 1) : (issue k mtu c).Inv := by
  unfold issue
  split_ifs <;> exact ⟨h1, fun _ => hb⟩

theorem inv_loop {rc : Nat} {c : WriteCall} (h1 : c.secureCalls ≤ 1)
    (hb : c.secureCalls + c.retryCount ≤ 2) : (loop k mtu rc c).Inv := by
  unfold loop retryAgain
  split_ifs
  · exact inv_issue h1 (by dsimp only; omega)
  · exact ⟨h1, fun h => by simp at h⟩

/-- Waking the caller keeps the invariant. -/
theorem inv_resume {c : WriteCall} {flags : Nat} (h1 : c.secureCalls ≤ 1)
    (hb : c.secureCalls + c.retryCount ≤ 1) : (resume k mtu c flags).Inv := by
  unfold resume
  split_ifs
  · exact inv_loop h1 (by omega)
  · exact inv_loop h1 (by dsimp only; omega)
  · exact ⟨h1, fun h => by simp at h⟩
  · exact inv_loop (by dsimp only; omega) (by dsimp only; omega)
  · exact ⟨by dsimp only; omega, fun h => by simp at h⟩
  · exact ⟨h1, fun h => by simp at h⟩

/-- One completion keeps the invariant. -/
theorem Inv.deliver {c : WriteCall} (hc : c.Inv) (e : GattCompletion) :
    (WriteCall.deliver k mtu myConn c e).Inv := by
  unfold WriteCall.deliver
  split
  case isFalse => exact hc
  case isTrue hw =>
    split
    · exact inv_resume hc.secure_le (hc.waiting_budget hw)
    · exact ⟨hc.secure_le, fun h => by simp at h⟩

theorem inv_start (length : Nat) (response : Bool) : (start k mtu length response).Inv := by
  unfold start
  split
  · exact ⟨by simp, fun h => by simp at h⟩
  · exact inv_issue (by simp) (by simp)

end

/-- Every call of `writeValue` satisfies the invariant, after every list of completions. -/
theorem inv_writeValue (k : ClientAnswers) (getMTU myConn length : Nat) (response : Bool)
    (events : List GattCompletion) : (writeValue k getMTU myConn length response events).Inv := by
  unfold writeValue
  induction events using List.reverseRecOn with
  | nil => exact inv_start length response
  | append_singleton es e ih => rw [List.foldl_append]; exact ih.deliver e

/-- Whatever the stack delivers and answers, `writeValue` calls `secureConnection` at most
once. -/
theorem secureCalls_writeValue_le_one (k : ClientAnswers) (getMTU myConn length : Nat)
    (response : Bool) (events : List GattCompletion) :
    (writeValue k getMTU myConn length response events).secureCalls ≤ 1 :=
  (inv_writeValue k getMTU myConn length response events).secure_le

end WriteCall

/-- Whenever the loop runs (the data exceeds `mtu` or a response is asked for) and the stack
starts every write, a peer that answers `ATTR_NOT_LONG` `n` times leaves `writeValue` waiting
after `n + 1` writes, for every `n`: the first as asked, then `n` flat writes of `mtu` bytes. -/
theorem writeValue_retries_unbounded (secure : Nat → Bool) (getMTU myConn length : Nat)
    (response : Bool) (hloop : ¬(length ≤ writeMtu getMTU ∧ response = false)) (n : Nat) :
    (WriteCall.writeValue ⟨fun _ => 0, secure⟩ getMTU myConn length response
        (List.replicate n (WriteCall.notLong myConn))).phase = .waiting ∧
      (WriteCall.writeValue ⟨fun _ => 0, secure⟩ getMTU myConn length response
        (List.replicate n (WriteCall.notLong myConn))).writes.length = n + 1 := by
  have hstart : WriteCall.start ⟨fun _ => 0, secure⟩ (writeMtu getMTU) length response =
      ⟨length, 1, [if length > writeMtu getMTU then .long length else .flat length], 0,
        .waiting⟩ := by
    simp [WriteCall.start, WriteCall.issue, hloop]
  have h := WriteCall.foldl_notLong (k := ⟨fun _ => 0, secure⟩) (writeMtu getMTU) myConn
    (fun _ => rfl) n
    ⟨length, 1, [if length > writeMtu getMTU then .long length else .flat length], 0, .waiting⟩ rfl
  unfold WriteCall.writeValue
  rw [hstart]
  exact ⟨h.1, by simp [h.2]⟩

/-- Thirty bytes with a response on a link of MTU 23, and a peer answering `ATTR_NOT_LONG` three
times: four writes, and the call still waits. -/
theorem writeValue_retries_unbounded_mtu23 :
    ¬(30 ≤ writeMtu 23 ∧ true = false) ∧
      (WriteCall.writeValue ⟨fun _ => 0, fun _ => true⟩ 23 5 30 true
        (List.replicate 3 (WriteCall.notLong 5))).phase = .waiting ∧
      (WriteCall.writeValue ⟨fun _ => 0, fun _ => true⟩ 23 5 30 true
        (List.replicate 3 (WriteCall.notLong 5))).writes.length = 3 + 1 :=
  ⟨by decide, writeValue_retries_unbounded (fun _ => true) 23 5 30 true (by decide) 3⟩

end BleGatt
