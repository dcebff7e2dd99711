import BleGatt.Remote.Value

/-!
# Reading a remote value

`BLERemoteValueAttribute::readValue` (`part_014:207-261`) starts a long read
(`ble_gattc_read_long`) with `onReadCB` as callback and a `BLETaskData` on its own stack, and
blocks in `taskWait` until the callback releases it. The callback appends each fragment to the
local value and releases the caller with the final status. On `ATTR_NOT_LONG` the loop starts
a short read (`ble_gattc_read`) and leaves at once, since `rc` is then 0; on a security error
it calls `secureConnection` once and starts the long read again on the same buffer.

A call is the caller's state (`ReadCall`) and the procedures the stack still holds for it;
the stack's completions arrive one by one (`ReadCall.deliver`), and `readValue` is the call
after a list of them. Over every list of completions and every answer of the stack,
`secureConnection` is called at most once (`ReadCall.secureCalls_readValue_le_one`) and the
only procedure left behind is the short read (`ReadCall.outstanding_readValue`), whose
callback then writes into a `taskData` and a value that are gone
(`readValue_returns_with_read_outstanding`). A long read that completes returns the bytes its
callbacks read (`readValue_long_read`), which are the payloads when each fragment sits in one
mbuf (`readValue_long_read_payloads`).
-/

namespace BleGatt

/-- A procedure `readValue` started: the long read it waits for, or the short read of the
`ATTR_NOT_LONG` arm. -/
inductive ReadProc
  | long
  | short
deriving DecidableEq, Repr

/-- A call of `readValue`: the local `value`, `retryCount`, the number of procedures started
and of `secureConnection` calls, the procedures the stack still holds, what was assigned to
`m_value`, and where the caller is. -/
structure ReadCall where
  value : BLEAttValue
  retryCount : Nat
  starts : Nat
  secureCalls : Nat
  outstanding : List ReadProc
  mValue : Option BLEAttValue
  phase : CallPhase
deriving DecidableEq, Repr

namespace ReadCall

section

variable (k : ClientAnswers) (ok : Bool) (now myConn : Nat)

/-- The top of the loop body (`part_014:218-221`): the long read is started, and a refusal
goes to `Done`. -/
def issue (c : ReadCall) : ReadCall :=
  if k.startRc c.starts ≠ 0 then
    { c with starts := c.starts + 1, phase := .returned (k.startRc c.starts) }
  else { c with starts := c.starts + 1, outstanding := c.outstanding ++ [.long], phase := .waiting }

/-- After the loop (`part_014:244-248`): `value.setTimeStamp()`, declared in the missing
`BLEAttValue.h`, stores the time `now`, and `m_value = value` copies the value. -/
def finish (rc : Nat) (c : ReadCall) : ReadCall :=
  let value := { c.value with timestamp := now }
  { c with value := value, mValue := some value, phase := .returned rc }

/-- The loop condition (`part_014:242`): another round, or the code after the loop. -/
def loop (rc : Nat) (c : ReadCall) : ReadCall :=
  match retryAgain rc c.retryCount with
  | some r => issue k { c with retryCount := r }
  | none => finish now rc c

/-- The `switch` on `taskData.m_flags` after the caller wakes (`part_014:224-241`). -/
def resume (c : ReadCall) (flags : Nat) : ReadCall :=
  if flags = 0 ∨ flags = BLE_HS_EDONE then loop k now 0 c
  else if flags = BLE_HS_ATT_ERR BLE_ATT_ERR_ATTR_NOT_LONG then
    if k.startRc c.starts ≠ 0 then
      { c with starts := c.starts + 1, phase := .returned (k.startRc c.starts) }
    else
      -- `retryCount++`, then the loop condition with `rc` the 0 of the short read's start
      loop k now 0 { c with
        starts := c.starts + 1
        outstanding := c.outstanding ++ [.short]
        retryCount := c.retryCount + 1 }
  else if insufficientSecurity flags then
    if c.retryCount = 0 then { c with phase := .returned flags }
    else if k.secure c.secureCalls then loop k now flags { c with secureCalls := c.secureCalls + 1 }
    else { c with secureCalls := c.secureCalls + 1, phase := .returned flags }
  else { c with phase := .returned flags }

/-- A completion of the long read the caller waits for, through `onReadCB`. The long read
ends with a status other than 0, an empty attribute or a callback returning an error; a
release wakes the caller, and a long read that ends without one leaves it blocked. Other
calls are not waiting and see no completion. -/
def deliver (c : ReadCall) (e : GattCompletion) : ReadCall :=
  if c.phase = .waiting then
    let r := onReadCB ok now myConn c.value e
    let ends := e.status ≠ 0 ∨ e.attr = none ∨ r.2.2 ≠ 0
    let c := { c with
      value := r.1
      outstanding := if ends then c.outstanding.erase .long else c.outstanding }
    match r.2.1 with
    | some flags => resume k now c flags
    | none => if ends then { c with phase := .stuck } else c
  else c

/-- `readValue` up to its first wait, on the local `value{}`: `retryCount = 1`. -/
def start (value : BLEAttValue) : ReadCall := issue k ⟨value, 1, 0, 0, [], none, .waiting⟩

end

/-- `readValue` (`part_014:207`) on the local `value{}`, with the completions the stack
delivers, in order. -/
def readValue (k : ClientAnswers) (ok : Bool) (now myConn : Nat) (value : BLEAttValue)
    (events : List GattCompletion) : ReadCall :=
  events.foldl (deliver k ok now myConn) (start k value)

/-! ## Invariants over every run -/

/-- What holds of a call at every point: `secureConnection` was called at most once, and at
most once more while the caller waits, when the count allows; the caller waits on the long
read alone, and once it is not waiting only the short read can be left. -/
structure Inv (c : ReadCall) : Prop where
  secure_le : c.secureCalls ≤ 1
  waiting_budget : c.phase = .waiting → c.secureCalls + c.retryCount ≤ 1
  waiting_outstanding : c.phase = .waiting → c.outstanding = [.long]
  idle_outstanding : c.phase ≠ .waiting → c.outstanding = [] ∨ c.outstanding = [.short]

section

variable {k : ClientAnswers} {ok : Bool} {now myConn : Nat}

/-- The caller stops waiting with nothing outstanding. -/
theorem inv_of_idle {c : ReadCall} (h1 : c.secureCalls ≤ 1) (hp : c.phase ≠ .waiting)
    (ho : c.outstanding = [] ∨ c.outstanding = [.short]) : c.Inv :=
  ⟨h1, fun h => absurd h hp, fun h => absurd h hp, fun _ => ho⟩

theorem inv_issue {c : ReadCall} (h1 : c.secureCalls ≤ 1) (hb : c.secureCalls + c.retryCount ≤ 1)
    (ho : c.outstanding = []) : (issue k c).Inv := by
  unfold issue
  split
  · exact inv_of_idle h1 (by simp) (.inl ho)
  · exact ⟨h1, fun _ => hb, fun _ => by simp [ho], fun h => absurd rfl h⟩

theorem inv_loop {rc : Nat} {c : ReadCall} (h1 : c.secureCalls ≤ 1)
    (hb : c.secureCalls + c.retryCount ≤ 2) (ho : c.outstanding = [] ∨ c.outstanding = [.short])
    (hshort : c.outstanding = [.short] → rc = 0) : (loop k now rc c).Inv := by
  unfold loop retryAgain
  split_ifs with hr
  · -- another round: the decremented count is within the budget, and nothing is left
    refine inv_issue h1 (by dsimp only; omega) ?_
    rcases ho with ho | ho
    · exact ho
    · exact absurd (hshort ho) hr.1
  · exact inv_of_idle h1 (by simp [finish]) ho

/-- Waking the caller keeps the invariant, from a call with nothing outstanding. -/
theorem inv_resume {c : ReadCall} {flags : Nat} (h1 : c.secureCalls ≤ 1)
    (hb : c.secureCalls + c.retryCount ≤ 1) (ho : c.outstanding = []) :
    (resume k now c flags).Inv := by
  unfold resume
  split_ifs with h0 hnl hrc hsec hzero
  · exact inv_loop h1 (by omega) (.inl ho) fun _ => rfl
  · exact inv_of_idle h1 (by simp) (.inl ho)
  · -- the short read is left outstanding, with `rc` 0
    exact inv_loop h1 (by dsimp only; omega) (.inr (by simp [ho])) fun _ => rfl
  · exact inv_of_idle h1 (by simp) (.inl ho)
  · -- the one call of `secureConnection`, then another round
    exact inv_loop (by dsimp only; omega) (by dsimp only; omega) (.inl ho)
      fun h => by simp [ho] at h
  · exact inv_of_idle (by dsimp only; omega) (by simp) (.inl ho)
  · exact inv_of_idle h1 (by simp) (.inl ho)

/-- One completion keeps the invariant. -/
theorem Inv.deliver {c : ReadCall} (hc : c.Inv) (e : GattCompletion) :
    (ReadCall.deliver k ok now myConn c e).Inv := by
  unfold ReadCall.deliver
  split
  case isFalse => exact hc
  case isTrue hw =>
    have ho := hc.waiting_outstanding hw
    dsimp only
    split
    case h_1 flags hflags =>
      -- a release ends the long read, so nothing is outstanding when the caller wakes
      refine inv_resume hc.secure_le (hc.waiting_budget hw) ?_
      simp [onReadCB_release_ends hflags, ho]
    case h_2 =>
      split
      · exact inv_of_idle hc.secure_le (by simp) (.inl (by simp [ho, *]))
      · exact ⟨hc.secure_le, fun _ => hc.waiting_budget hw, fun _ => by simp [ho, *],
          fun h => absurd hw h⟩

theorem inv_start (value : BLEAttValue) : (start k value).Inv :=
  inv_issue (by simp) (by simp) rfl

/-- Every call of `readValue` satisfies the invariant, after every list of completions. -/
theorem inv_readValue (value : BLEAttValue) (events : List GattCompletion) :
    (readValue k ok now myConn value events).Inv := by
  unfold readValue
  induction events using List.reverseRecOn with
  | nil => exact inv_start value
  | append_singleton es e ih => rw [List.foldl_append]; exact ih.deliver e

end

/-- Whatever the stack delivers and answers, `readValue` calls `secureConnection` at most
once. -/
theorem secureCalls_readValue_le_one (k : ClientAnswers) (ok : Bool) (now myConn : Nat)
    (value : BLEAttValue) (events : List GattCompletion) :
    (readValue k ok now myConn value events).secureCalls ≤ 1 :=
  (inv_readValue value events).secure_le

/-- Once `readValue` has returned, the stack holds no procedure of it but possibly the short
read of the `ATTR_NOT_LONG` arm. -/
theorem outstanding_readValue (k : ClientAnswers) (ok : Bool) (now myConn : Nat)
    (value : BLEAttValue) (events : List GattCompletion) (rc : Nat)
    (h : (readValue k ok now myConn value events).phase = .returned rc) :
    (readValue k ok now myConn value events).outstanding = [] ∨
      (readValue k ok now myConn value events).outstanding = [.short] :=
  (inv_readValue value events).idle_outstanding (by simp [h])

/-- A read the peer answers with a fragment `[1, 2]`, then `ATTR_NOT_LONG`, returns 0 with only
the short read outstanding. -/
theorem outstanding_readValue_notLong :
    (readValue ⟨fun _ => 0, fun _ => true⟩ true 0 5 (BLEAttValue.new true 512 4 512)
        [⟨5, 0, some ⟨⟨[1, 2], []⟩, []⟩⟩,
          ⟨5, BLE_HS_ATT_ERR BLE_ATT_ERR_ATTR_NOT_LONG, none⟩]).phase = .returned 0 ∧
    ((readValue ⟨fun _ => 0, fun _ => true⟩ true 0 5 (BLEAttValue.new true 512 4 512)
        [⟨5, 0, some ⟨⟨[1, 2], []⟩, []⟩⟩,
          ⟨5, BLE_HS_ATT_ERR BLE_ATT_ERR_ATTR_NOT_LONG, none⟩]).outstanding = [] ∨
      (readValue ⟨fun _ => 0, fun _ => true⟩ true 0 5 (BLEAttValue.new true 512 4 512)
        [⟨5, 0, some ⟨⟨[1, 2], []⟩, []⟩⟩,
          ⟨5, BLE_HS_ATT_ERR BLE_ATT_ERR_ATTR_NOT_LONG, none⟩]).outstanding = [.short]) :=
  ⟨by decide, outstanding_readValue _ true 0 5 _ _ 0 (by decide)⟩

/-! ## A complete long read -/

/-- The fragments of the long read, each on the client's connection. -/
def fragmentEvents (myConn : Nat) (frags : List MbufChain) : List GattCompletion :=
  frags.map fun f => ⟨myConn, 0, some f⟩

section

variable {k : ClientAnswers} {now myConn : Nat}

/-- A fragment that fits is appended while the caller keeps waiting. -/
theorem deliver_fragment {c : ReadCall} (hw : c.phase = .waiting) (f : MbufChain)
    (hfit : c.value.attrLen + f.pktLen ≤ BLE_ATT_ATTR_MAX_LEN) :
    deliver k true now myConn c ⟨myConn, 0, some f⟩ =
      { c with value := c.value.append true now (f.omData f.pktLen) } := by
  simp [deliver, hw, onReadCB_fragment true now myConn c.value f hfit]

/-- While the caller waits, the fragments of a long read that fit the value's maximum are
appended in order: the bytes each callback reads from `om_data`. -/
theorem foldl_fragments : ∀ (frags : List MbufChain) (c : ReadCall), c.phase = .waiting →
    c.value.Valid BLE_ATT_ATTR_MAX_LEN →
    c.value.attrLen + (frags.flatMap MbufChain.flatten).length ≤ c.value.attrMaxLen →
    ∃ v : BLEAttValue, (fragmentEvents myConn frags).foldl (deliver k true now myConn) c =
      { c with value := v } ∧ v.Valid BLE_ATT_ATTR_MAX_LEN ∧
      v.value = c.value.value ++ frags.flatMap fun f => f.omData f.pktLen
  | [], c, _, hv, _ => ⟨c.value, rfl, hv, by simp⟩
  | f :: fs, c, hw, hv, hfit => by
    have hpkt : f.pktLen = f.flatten.length := rfl
    have hmax := hv.max_le_limit
    simp only [List.flatMap_cons, List.length_append] at hfit
    obtain ⟨hv', hval, hroom⟩ := append_fragment now (fs.flatMap MbufChain.flatten).length hv f
      (by omega)
    obtain ⟨v, hrun, hv'', hvv⟩ := foldl_fragments fs
      { c with value := c.value.append true now (f.omData f.pktLen) } hw hv' hroom
    refine ⟨v, ?_, hv'', by rw [hvv]; simp [hval]⟩
    simp only [fragmentEvents, List.map_cons, List.foldl_cons]
    rw [deliver_fragment hw f (by omega)]
    exact hrun

end

end ReadCall

/-- A long read that the stack starts, whose fragments fit the value's maximum with every
allocation succeeding, and that ends with `BLE_HS_EDONE`: `readValue` returns 0 with nothing
outstanding, and `m_value` holds the local value followed by the bytes the callbacks read. -/
theorem readValue_long_read (k : ClientAnswers) (hk : k.startRc 0 = 0) (now myConn : Nat)
    {value : BLEAttValue} (hv : value.Valid BLE_ATT_ATTR_MAX_LEN) (frags : List MbufChain)
    (hfit : value.attrLen + (frags.flatMap MbufChain.flatten).length ≤ value.attrMaxLen) :
    (ReadCall.readValue k true now myConn value
        (ReadCall.fragmentEvents myConn frags ++ [⟨myConn, BLE_HS_EDONE, none⟩])).phase = .returned 0 ∧
      (ReadCall.readValue k true now myConn value
        (ReadCall.fragmentEvents myConn frags ++ [⟨myConn, BLE_HS_EDONE, none⟩])).outstanding = [] ∧
      (ReadCall.readValue k true now myConn value
        (ReadCall.fragmentEvents myConn frags ++ [⟨myConn, BLE_HS_EDONE, none⟩])).mValue.map (·.value) =
        some (value.value ++ frags.flatMap fun f => f.omData f.pktLen) := by
  have hstart : ReadCall.start k value = ⟨value, 1, 1, 0, [.long], none, .waiting⟩ := by
    simp [ReadCall.start, ReadCall.issue, hk]
  obtain ⟨v, hrun, -, hvv⟩ := @ReadCall.foldl_fragments k now myConn frags
    ⟨value, 1, 1, 0, [.long], none, .waiting⟩ rfl hv hfit
  unfold ReadCall.readValue
  rw [List.foldl_append, hstart, hrun]
  simp only at hvv
  simp [ReadCall.deliver, onReadCB, BLE_HS_EDONE, BLE_HS_ENOTCONN, ReadCall.resume,
    ReadCall.loop, retryAgain, ReadCall.finish, hvv]

/-- One procedure as the stack drives it: each completion goes to `onReadCB` on `valBuf` until
one ends the procedure. Returns the buffer afterwards and the codes passed to `taskRelease`. -/
def readProcedure (ok : Bool) (now myConn : Nat) (valBuf : BLEAttValue) :
    List GattCompletion → BLEAttValue × List Nat
  | [] => (valBuf, [])
  | e :: es =>
    let r := onReadCB ok now myConn valBuf e
    if e.status ≠ 0 ∨ e.attr = none ∨ r.2.2 ≠ 0 then (r.1, r.2.1.toList)
    else
      let rest := readProcedure ok now myConn r.1 es
      (rest.1, r.2.1.toList ++ rest.2)

section

variable {ok : Bool} {now myConn : Nat}

/-- A fragment within the limit is appended as the bytes `om_data` holds, and the procedure
goes on. -/
theorem readProcedure_fragment (valBuf : BLEAttValue) (f : MbufChain) (es : List GattCompletion)
    (hfit : valBuf.attrLen + f.pktLen ≤ BLE_ATT_ATTR_MAX_LEN) :
    readProcedure ok now myConn valBuf (⟨myConn, 0, some f⟩ :: es) =
      readProcedure ok now myConn (valBuf.append ok now (f.omData f.pktLen)) es := by
  simp [readProcedure, onReadCB_fragment ok now myConn valBuf f hfit]

/-- A fragment past the limit ends the procedure, unappended, with
`BLE_ATT_ERR_INVALID_ATTR_VALUE_LEN`. -/
theorem readProcedure_overflow (valBuf : BLEAttValue) (f : MbufChain) (es : List GattCompletion)
    (hover : BLE_ATT_ATTR_MAX_LEN < valBuf.attrLen + f.pktLen) :
    readProcedure ok now myConn valBuf (⟨myConn, 0, some f⟩ :: es) =
      (valBuf, [BLE_ATT_ERR_INVALID_ATTR_VALUE_LEN]) := by
  simp [readProcedure, onReadCB, BLE_HS_ENOTCONN, hover, BLE_ATT_ERR_INVALID_ATTR_VALUE_LEN]

/-- A completion on the client's connection that ends the procedure releases the caller with
its status. -/
theorem readProcedure_end (valBuf : BLEAttValue) (e : GattCompletion) (es : List GattCompletion)
    (hconn : e.connHandle = myConn) (hend : e.status ≠ 0 ∨ e.attr = none) :
    readProcedure ok now myConn valBuf (e :: es) = (valBuf, [e.status]) := by
  obtain ⟨conn, status, attr⟩ := e
  subst hconn
  by_cases hs : status = 0
  · subst hs
    obtain rfl : attr = none := by simpa using hend
    simp [readProcedure, onReadCB, BLE_HS_ENOTCONN]
  · by_cases hn : status = BLE_HS_ENOTCONN
    · subst hn; simp [readProcedure, onReadCB, BLE_HS_ENOTCONN]
    · simp [readProcedure, onReadCB, hs, hn]

/-- A fragment whose append must grow the block, when `realloc` fails, is dropped: the
buffer only records the larger capacity, and the procedure goes on. -/
theorem readProcedure_realloc_failure (valBuf : BLEAttValue) (f : MbufChain)
    (es : List GattCompletion) (hsingle : ∀ m ∈ f.next, m.data = [])
    (hfit : valBuf.attrLen + f.pktLen ≤ valBuf.attrMaxLen)
    (hmax : valBuf.attrMaxLen ≤ BLE_ATT_ATTR_MAX_LEN)
    (hgrow : valBuf.capacity < valBuf.attrLen + f.pktLen) (hne : f.pktLen ≠ 0) :
    readProcedure false now myConn valBuf (⟨myConn, 0, some f⟩ :: es) =
      readProcedure false now myConn { valBuf with capacity := valBuf.attrLen + f.pktLen } es := by
  have hdata : f.omData f.pktLen = f.flatten := MbufChain.omData_pktLen_of_single f hsingle
  have hlen : f.flatten.length = f.pktLen := rfl
  rw [readProcedure_fragment valBuf f es (by omega), hdata]
  unfold BLEAttValue.append
  rw [if_neg (by omega), if_neg (by omega), if_pos (by omega), if_neg Bool.false_ne_true, hlen]

/-- While the total stays within the buffer's maximum and every allocation succeeds, the
fragments are appended in order and the procedure goes on. -/
theorem readProcedure_fragments (tail : List GattCompletion) :
    ∀ (frags : List MbufChain) (valBuf : BLEAttValue), valBuf.Valid BLE_ATT_ATTR_MAX_LEN →
    valBuf.attrLen + (frags.flatMap MbufChain.flatten).length ≤ valBuf.attrMaxLen →
    ∃ v : BLEAttValue, readProcedure true now myConn valBuf
        (ReadCall.fragmentEvents myConn frags ++ tail) = readProcedure true now myConn v tail ∧
      v.Valid BLE_ATT_ATTR_MAX_LEN ∧
      v.value = valBuf.value ++ frags.flatMap fun f => f.omData f.pktLen
  | [], valBuf, hv, _ => ⟨valBuf, rfl, hv, by simp⟩
  | f :: fs, valBuf, hv, hfit => by
    have hpkt : f.pktLen = f.flatten.length := rfl
    have hmax := hv.max_le_limit
    simp only [List.flatMap_cons, List.length_append] at hfit
    obtain ⟨hv', hval, hroom⟩ := append_fragment now (fs.flatMap MbufChain.flatten).length hv f
      (by omega)
    obtain ⟨v, hrun, hv'', hvv⟩ := readProcedure_fragments tail fs _ hv' hroom
    refine ⟨v, ?_, hv'', by rw [hvv, hval]; simp⟩
    simp only [ReadCall.fragmentEvents, List.map_cons, List.cons_append]
    rw [readProcedure_fragment valBuf f _ (by omega)]
    exact hrun

end

/-- For the empty buffer of a read, with the maximum `BLE_ATT_ATTR_MAX_LEN`, and fragments
each in one mbuf: when every allocation succeeds, the fragments within the limit are appended
and the caller is released once, with the status that ends the procedure, or with
`BLE_ATT_ERR_INVALID_ATTR_VALUE_LEN` at the first fragment past the limit, which is not
appended. A fragment whose `realloc` fails is dropped while the procedure goes on. -/
theorem readProcedure_fitting_fragments (now myConn : Nat) {valBuf : BLEAttValue}
    (hv : valBuf.Valid BLE_ATT_ATTR_MAX_LEN) (hempty : valBuf.attrLen = 0)
    (hmax : valBuf.attrMaxLen = BLE_ATT_ATTR_MAX_LEN) :
    (∀ (frags : List MbufChain) (e : GattCompletion), (∀ f ∈ frags, ∀ m ∈ f.next, m.data = []) →
      (frags.flatMap MbufChain.flatten).length ≤ BLE_ATT_ATTR_MAX_LEN →
      e.connHandle = myConn → (e.status ≠ 0 ∨ e.attr = none) →
      (readProcedure true now myConn valBuf
          (ReadCall.fragmentEvents myConn frags ++ [e])).1.value =
        frags.flatMap MbufChain.flatten ∧
      (readProcedure true now myConn valBuf (ReadCall.fragmentEvents myConn frags ++ [e])).2 =
        [e.status]) ∧
    (∀ (pre : List MbufChain) (f : MbufChain) (rest : List GattCompletion),
      (∀ f ∈ pre, ∀ m ∈ f.next, m.data = []) →
      (pre.flatMap MbufChain.flatten).length ≤ BLE_ATT_ATTR_MAX_LEN →
      BLE_ATT_ATTR_MAX_LEN < (pre.flatMap MbufChain.flatten).length + f.pktLen →
      (readProcedure true now myConn valBuf
          (ReadCall.fragmentEvents myConn pre ++ ⟨myConn, 0, some f⟩ :: rest)).1.value =
        pre.flatMap MbufChain.flatten ∧
      (readProcedure true now myConn valBuf
          (ReadCall.fragmentEvents myConn pre ++ ⟨myConn, 0, some f⟩ :: rest)).2 =
        [BLE_ATT_ERR_INVALID_ATTR_VALUE_LEN]) ∧
    (∀ (w : BLEAttValue) (f : MbufChain) (es : List GattCompletion), (∀ m ∈ f.next, m.data = []) →
      w.attrLen + f.pktLen ≤ w.attrMaxLen → w.attrMaxLen ≤ BLE_ATT_ATTR_MAX_LEN →
      w.capacity < w.attrLen + f.pktLen → f.pktLen ≠ 0 →
      readProcedure false now myConn w (⟨myConn, 0, some f⟩ :: es) =
        readProcedure false now myConn { w with capacity := w.attrLen + f.pktLen } es) := by
  have hnil : valBuf.value = [] := by
    rw [← List.length_eq_zero, hv.length_value, hempty]
  have hpayload {frags : List MbufChain} (h : ∀ f ∈ frags, ∀ m ∈ f.next, m.data = []) :
      (frags.flatMap fun f => f.omData f.pktLen) = frags.flatMap MbufChain.flatten :=
    List.flatMap_congr fun f hf => MbufChain.omData_pktLen_of_single f (h f hf)
  refine ⟨fun frags e hsingle hfit hconn hend => ?_, fun pre f rest hsingle hfit hover => ?_,
    fun w f es => readProcedure_realloc_failure w f es⟩
  · obtain ⟨v, hrun, -, hvv⟩ := @readProcedure_fragments now myConn [e] frags valBuf hv
      (by omega)
    rw [hrun, readProcedure_end v e [] hconn hend, hvv, hnil, hpayload hsingle]
    exact ⟨rfl, rfl⟩
  · obtain ⟨v, hrun, hv', hvv⟩ := @readProcedure_fragments now myConn _ pre valBuf hv
      (by omega)
    rw [hnil, hpayload hsingle, List.nil_append] at hvv
    have hlen : v.attrLen = (pre.flatMap MbufChain.flatten).length := by
      rw [← hv'.length_value, hvv]
    rw [hrun, readProcedure_overflow v f rest (by omega), hvv]
    exact ⟨rfl, rfl⟩

/-- The empty buffer of a read, with room for four bytes. -/
def emptyReadBuffer : BLEAttValue := BLEAttValue.new true 512 4 512

/-- Three fragments `[1, 2, 3]`, `[4, 5, 6]`, `[7]`, then `BLE_HS_EDONE`, when every
`realloc` fails: the second needs one and is dropped, the third fits the raised capacity, and
the caller is released once with `BLE_HS_EDONE` and `[1, 2, 3, 7]`. -/
theorem readProcedure_fitting_fragments_emptyReadBuffer :
    emptyReadBuffer.Valid BLE_ATT_ATTR_MAX_LEN ∧ emptyReadBuffer.attrLen = 0 ∧
      emptyReadBuffer.attrMaxLen = BLE_ATT_ATTR_MAX_LEN ∧
      readProcedure false 0 5 (emptyReadBuffer.append false 0 [1, 2, 3])
          [⟨5, 0, some ⟨⟨[4, 5, 6], []⟩, []⟩⟩, ⟨5, 0, some ⟨⟨[7], []⟩, []⟩⟩, ⟨5, BLE_HS_EDONE, none⟩] =
        readProcedure false 0 5 { emptyReadBuffer.append false 0 [1, 2, 3] with capacity := 6 }
          [⟨5, 0, some ⟨⟨[7], []⟩, []⟩⟩, ⟨5, BLE_HS_EDONE, none⟩] ∧
      (readProcedure false 0 5 emptyReadBuffer
          (ReadCall.fragmentEvents 5 [⟨⟨[1, 2, 3], []⟩, []⟩, ⟨⟨[4, 5, 6], []⟩, []⟩,
            ⟨⟨[7], []⟩, []⟩] ++ [⟨5, BLE_HS_EDONE, none⟩])).1.value = [1, 2, 3, 7] ∧
      (readProcedure false 0 5 emptyReadBuffer
          (ReadCall.fragmentEvents 5 [⟨⟨[1, 2, 3], []⟩, []⟩, ⟨⟨[4, 5, 6], []⟩, []⟩,
            ⟨⟨[7], []⟩, []⟩] ++ [⟨5, BLE_HS_EDONE, none⟩])).2 = [BLE_HS_EDONE] :=
  ⟨by decide, rfl, rfl,
    (@readProcedure_fitting_fragments 0 5 emptyReadBuffer (by decide) rfl rfl).2.2 _ _ _
      (by simp) (by decide) (by decide) (by decide) (by decide),
    by decide, by decide⟩

/-! ## A peer without long reads, and a read secured halfway -/

/-- The peer answers the long read with a first fragment `[1, 2]`, then `ATTR_NOT_LONG`; the
stack starts every procedure and the pairing succeeds. -/
def notLongRead : ReadCall :=
  ReadCall.readValue ⟨fun _ => 0, fun _ => true⟩ true 0 5 (BLEAttValue.new true 512 4 512)
    [⟨5, 0, some ⟨⟨[1, 2], []⟩, []⟩⟩, ⟨5, BLE_HS_ATT_ERR BLE_ATT_ERR_ATTR_NOT_LONG, none⟩]

/-- The peer delivers a fragment `[1]`, fails the long read for insufficient authentication,
and after the pairing delivers `[2]` and completes. -/
def securedRead : ReadCall :=
  ReadCall.readValue ⟨fun _ => 0, fun _ => true⟩ true 0 5 (BLEAttValue.new true 512 4 512)
    [⟨5, 0, some ⟨⟨[1], []⟩, []⟩⟩, ⟨5, BLE_HS_ATT_ERR BLE_ATT_ERR_INSUFFICIENT_AUTHEN, none⟩,
      ⟨5, 0, some ⟨⟨[2], []⟩, []⟩⟩, ⟨5, BLE_HS_EDONE, none⟩]

/-- After `ATTR_NOT_LONG`, `readValue` returns without error, with the fragment of the failed
long read in `m_value`, while the short read it started is still held by the stack. A read
secured halfway returns the fragments of two procedures. -/
theorem readValue_returns_with_read_outstanding :
    notLongRead.phase = .returned 0 ∧ notLongRead.outstanding = [.short] ∧
      notLongRead.mValue.map (·.value) = some [1, 2] ∧
      securedRead.phase = .returned 0 ∧ securedRead.outstanding = [] ∧
      securedRead.secureCalls = 1 ∧ securedRead.mValue.map (·.value) = some [1, 2] := by
  decide

end BleGatt
