import BleGatt.Server.Model

/-!
# A client, its GAP handler and its blocking operations

`BLEClient::connect` without `asyncConnect` and `BLEClient::secureConnection(false)` block their
task in `BLEUtils::taskWait` on a `BLETaskData` on their own stack, published in
`m_pTaskData`; `BLEClient::handleGapEvent` (`NimBLEClient.cpp:871`) wakes them with
`taskRelease`. The handler may also delete the client: on a disconnect when
`deleteOnDisconnect` is set, and on a failed asynchronous connect when `deleteOnConnectFail` is
set. For a blocked operation it defers the delete only when the disconnect reason is
`BLE_HS_ERR_HCI_BASE + BLE_ERR_CONN_ESTABLISHMENT`.

`ClientWorld` is the client object (its fields stay readable after `delete`), how often it was
deleted, whether a member was read or written after the first delete, the host's link for it
and the blocked operation. Host constants are parameters. Without a blocking operation no run
uses the client after deleting it, nor deletes it twice (`ClientWorld.safe_of_async`); a
blocked `connect` that a disconnect with another reason wakes writes `m_pTaskData` of the
freed client (`connect_resumes_on_deleted_client`).
-/

namespace BleGatt

/-- The fields of `BLEClient` that its GAP handler and its blocking operations use. -/
structure BLEClient where
  connHandle : Nat
  /-- `m_pTaskData ≠ nullptr`. -/
  taskData : Bool
  asyncConnect : Bool
  exchangeMTU : Bool
  deleteOnDisconnect : Bool
  deleteOnConnectFail : Bool
  lastErr : Nat
  asyncSecureAttempt : Nat
deriving DecidableEq, Repr

/-- The host's link for the client. -/
inductive Link
  | idle
  | pending
  | up (connHandle : Nat)
deriving DecidableEq, Repr

/-- The operation blocked in `taskWait`: `connect`, or `secureConnection` with the retries it
has left. -/
inductive Blocked
  | connect
  | secure (retries : Nat)
deriving DecidableEq, Repr

/-- A blocked task: its operation, `BLETaskData::m_flags`, and whether `taskRelease` woke it. -/
structure Task where
  op : Blocked
  flags : Nat
  released : Bool
deriving DecidableEq, Repr

/-- One client and what acts on it. -/
structure ClientWorld where
  client : BLEClient
  /-- How often `BLEDevice::deleteClient` freed the client. -/
  frees : Nat
  /-- A member was read or written after the first free. -/
  usedAfterFree : Bool
  link : Link
  task : Option Task
deriving DecidableEq, Repr

namespace ClientWorld

/-- A read or write of a member of the client. -/
def use (w : ClientWorld) : ClientWorld :=
  if w.frees > 0 then { w with usedAfterFree := true } else w

/-- A write of members of the client. -/
def modify (w : ClientWorld) (f : BLEClient → BLEClient) : ClientWorld :=
  { w.use with client := f w.client }

/-- `BLEUtils::taskRelease(*pTaskData, rc)` when the handler saw a task. -/
def taskRelease (pTaskData : Bool) (rc : Nat) (w : ClientWorld) : ClientWorld :=
  if pTaskData then { w with task := w.task.map fun t => { t with flags := rc, released := true } }
  else w

/-- Modelled from the spec: `BLEDevice::deleteClient` (declared in `part_001:185`) frees a
client that is not connected; a connected one is left alone. -/
def deleteClient (w : ClientWorld) : ClientWorld :=
  let w := w.use
  if w.client.connHandle = BLE_HS_CONN_HANDLE_NONE then { w with frees := w.frees + 1 } else w

@[simp] theorem use_client (w : ClientWorld) : w.use.client = w.client := by
  unfold use; split <;> rfl
@[simp] theorem use_frees (w : ClientWorld) : w.use.frees = w.frees := by
  unfold use; split <;> rfl
@[simp] theorem use_link (w : ClientWorld) : w.use.link = w.link := by
  unfold use; split <;> rfl
@[simp] theorem use_task (w : ClientWorld) : w.use.task = w.task := by
  unfold use; split <;> rfl
theorem use_of_frees_eq_zero {w : ClientWorld} (h : w.frees = 0) : w.use = w := by
  simp [use, h]
@[simp] theorem use_usedAfterFree (w : ClientWorld) :
    w.use.usedAfterFree = (w.usedAfterFree || decide (w.frees > 0)) := by
  unfold use; split <;> simp_all
@[simp] theorem modify_client (w : ClientWorld) (f) : (w.modify f).client = f w.client := rfl
@[simp] theorem modify_frees (w : ClientWorld) (f) : (w.modify f).frees = w.frees := by
  simp [modify]
@[simp] theorem modify_link (w : ClientWorld) (f) : (w.modify f).link = w.link := by simp [modify]
@[simp] theorem modify_task (w : ClientWorld) (f) : (w.modify f).task = w.task := by simp [modify]
@[simp] theorem modify_usedAfterFree (w : ClientWorld) (f) :
    (w.modify f).usedAfterFree = (w.usedAfterFree || decide (w.frees > 0)) := by simp [modify]
@[simp] theorem taskRelease_false (rc : Nat) (w : ClientWorld) : taskRelease false rc w = w := rfl
@[simp] theorem taskRelease_frees (p : Bool) (rc : Nat) (w : ClientWorld) :
    (taskRelease p rc w).frees = w.frees := by
  unfold taskRelease; split <;> rfl
@[simp] theorem taskRelease_usedAfterFree (p : Bool) (rc : Nat) (w : ClientWorld) :
    (taskRelease p rc w).usedAfterFree = w.usedAfterFree := by
  unfold taskRelease; split <;> rfl
@[simp] theorem taskRelease_client (p : Bool) (rc : Nat) (w : ClientWorld) :
    (taskRelease p rc w).client = w.client := by
  unfold taskRelease; split <;> rfl
@[simp] theorem taskRelease_link (p : Bool) (rc : Nat) (w : ClientWorld) :
    (taskRelease p rc w).link = w.link := by
  unfold taskRelease; split <;> rfl

section

variable (HCI_CONN_ESTABLISHMENT HCI_PINKEY_MISSING : Nat)

/-- The `BLE_GAP_EVENT_DISCONNECT` arm (`NimBLEClient.cpp:877-927`) for a link with handle `h`.
`getClientByHandle` finds the client while it is not deleted and has the handle. -/
def handleDisconnect (h reason : Nat) (w : ClientWorld) : ClientWorld :=
  let w := w.use
  let pTaskData := w.client.taskData
  if ¬(w.frees = 0 ∧ w.client.connHandle = h) then w
  else
    let w := w.modify fun c => { c with asyncSecureAttempt := 0 }
    let w := w.modify fun c => { c with connHandle := BLE_HS_CONN_HANDLE_NONE }
    let w := if w.client.deleteOnDisconnect then
        if pTaskData ∧ reason = HCI_CONN_ESTABLISHMENT then
          w.modify fun c => { c with deleteOnConnectFail := true }
        else deleteClient w
      else w
    taskRelease pTaskData reason w

/-- The `BLE_GAP_EVENT_CONNECT` arm (`NimBLEClient.cpp:929-963`). An unexpected connection is
dropped. `mtuRc` is what `exchangeMTU` answers. -/
def handleConnect (status h mtuRc : Nat) (w : ClientWorld) : ClientWorld :=
  let w := w.use
  let pTaskData := w.client.taskData
  if w.client.connHandle ≠ BLE_HS_CONN_HANDLE_NONE ∨ (¬w.client.asyncConnect ∧ ¬pTaskData) then w
  else if status = 0 then
    let w := w.modify fun c => { c with connHandle := h }
    if w.client.exchangeMTU then
      if mtuRc = 0 then w
      else taskRelease pTaskData mtuRc (w.modify fun c => { c with lastErr := mtuRc })
    else taskRelease pTaskData 0 w
  else
    let w := w.modify fun c => { c with connHandle := BLE_HS_CONN_HANDLE_NONE }
    let w := if w.client.asyncConnect ∧ w.client.deleteOnConnectFail then deleteClient w else w
    taskRelease pTaskData status w

/-- The `BLE_GAP_EVENT_MTU` arm (`NimBLEClient.cpp:1106-1116`). -/
def handleMtu (h : Nat) (w : ClientWorld) : ClientWorld :=
  let w := w.use
  let pTaskData := w.client.taskData
  if w.client.connHandle ≠ h then w else taskRelease pTaskData 0 w.use

/-- The `BLE_GAP_EVENT_ENC_CHANGE` arm (`NimBLEClient.cpp:1050-1077`); the key deletion and the
asynchronous retry on a missing key are not modelled. -/
def handleEncChange (h status : Nat) (w : ClientWorld) : ClientWorld :=
  let w := w.use
  let pTaskData := w.client.taskData
  if w.client.connHandle ≠ h then w
  else
    let w := if status = 0 then w.modify fun c => { c with asyncSecureAttempt := 0 } else w
    taskRelease pTaskData status w

/-- The rest of `BLEClient::connect` after `taskWait` (`NimBLEClient.cpp:238-262`): on a timeout
the flags become 0 when connected and `BLE_HS_ETIMEOUT` otherwise (the attempt is cancelled);
then `m_pTaskData` is cleared and a failure recorded, and the client deleted when
`deleteOnConnectFail` is set. -/
def resumeConnect (BLE_HS_ETIMEOUT : Nat) (t : Task) (w : ClientWorld) : ClientWorld :=
  let r : Nat × ClientWorld :=
    if t.released then (t.flags, w)
    else
      let w := w.use
      if w.client.connHandle ≠ BLE_HS_CONN_HANDLE_NONE then (0, w)
      else (BLE_HS_ETIMEOUT, { w with link := .idle })
  let w := { r.2.modify fun c => { c with taskData := false } with task := none }
  if r.1 ≠ 0 then
    let w := w.modify fun c => { c with lastErr := r.1 }
    if w.use.client.deleteOnConnectFail then deleteClient w.use else w.use
  else w.use

/-- The rest of `BLEClient::secureConnection(false)` after `taskWait` (`NimBLEClient.cpp:293-308`):
a missing key is retried while retries are left; otherwise `m_pTaskData` is cleared and a
failure recorded. -/
def resumeSecure (retries : Nat) (t : Task) (w : ClientWorld) : ClientWorld :=
  if t.flags = HCI_PINKEY_MISSING ∧ retries > 0 then
    { w.use with task := some ⟨.secure (retries - 1), t.flags, false⟩ }
  else
    let w := { w.modify fun c => { c with taskData := false } with task := none }
    if t.flags = 0 then w else w.modify fun c => { c with lastErr := t.flags }

end

end ClientWorld

/-- What happens to a client: an application call, a GAP event the host delivers for its
link, or the blocked task waking up (released, or a connect timing out). -/
inductive ClientOp
  | connect (asyncConnect exchangeMTU : Bool)
  | secureConnection (startOk : Bool)
  | gapConnect (status connHandle mtuRc : Nat)
  | gapDisconnect (reason : Nat)
  | gapMtu
  | gapEncChange (status : Nat)
  | wake
deriving DecidableEq, Repr

/-- The host constants the client reads. -/
structure HostCodes where
  connEstablishment : Nat
  pinkeyMissing : Nat
  timeout : Nat
  notConn : Nat

namespace ClientWorld

/-- A client `BLEDevice::createClient` made, with the given deletion settings. -/
def init (deleteOnDisconnect deleteOnConnectFail : Bool) : ClientWorld :=
  { client := ⟨BLE_HS_CONN_HANDLE_NONE, false, false, true, deleteOnDisconnect,
      deleteOnConnectFail, 0, 0⟩
    frees := 0, usedAfterFree := false, link := .idle, task := none }

/-- Run one operation. A connect starts the host's attempt (`ble_gap_connect` succeeding); a
blocking one parks the task with flags 0. A secure connection parks it with
`BLE_HS_ENOTCONN` and one retry when `startSecurity` succeeds (`startOk`), and fails at once
otherwise. A GAP event moves the link first. -/
def step (k : HostCodes) (w : ClientWorld) : ClientOp → ClientWorld
  | .connect async mtu =>
    let w := { w.modify fun c => { c with asyncConnect := async, exchangeMTU := mtu } with
      link := .pending }
    if async then w
    else { w.modify fun c => { c with taskData := true } with task := some ⟨.connect, 0, false⟩ }
  | .secureConnection startOk =>
    let w := w.modify fun c => { c with taskData := true }
    if startOk then { w with task := some ⟨.secure 1, k.notConn, false⟩ }
    else (w.modify fun c => { c with taskData := false }).modify fun c => { c with lastErr := k.notConn }
  | .gapConnect status h mtuRc =>
    handleConnect status h mtuRc { w with link := if status = 0 then .up h else .idle }
  | .gapDisconnect reason =>
    match w.link with
    | .up h => handleDisconnect k.connEstablishment h reason { w with link := .idle }
    | _ => w
  | .gapMtu =>
    match w.link with
    | .up h => handleMtu h w
    | _ => w
  | .gapEncChange status =>
    match w.link with
    | .up h => handleEncChange h status w
    | _ => w
  | .wake =>
    match w.task with
    | some t => match t.op with
      | .connect => resumeConnect k.timeout t w
      | .secure retries => resumeSecure k.pinkeyMissing retries t w
    | none => w

end ClientWorld

/-- What the callers promise: the application calls a client it has not deleted, connects
only an idle unconnected client with no blocked operation, and secures only a connected one;
the host reports a connection only for its attempt and other events only on an open link; the
blocked task wakes when released, and a connect also on its timeout. -/
def ClientOp.enabled (w : ClientWorld) : ClientOp → Bool
  | .connect _ _ => w.frees = 0 && w.task.isNone && w.link = .idle &&
      w.client.connHandle = BLE_HS_CONN_HANDLE_NONE
  | .secureConnection _ => w.frees = 0 && w.task.isNone &&
      w.link = .up w.client.connHandle && w.client.connHandle ≠ BLE_HS_CONN_HANDLE_NONE
  | .gapConnect _ _ _ => w.link = .pending
  | .gapDisconnect _ | .gapMtu | .gapEncChange _ => (w.link matches .up _)
  | .wake => match w.task with
    | some t => t.released || t.op = .connect
    | none => false

namespace ClientWorld

/-- Run the operations in order. -/
def run (k : HostCodes) (w : ClientWorld) (ops : List ClientOp) : ClientWorld :=
  ops.foldl (step k) w

/-- Every operation of the list is enabled where it runs. -/
def runEnabled (k : HostCodes) : ClientWorld → List ClientOp → Bool
  | _, [] => true
  | w, op :: ops => op.enabled w && runEnabled k (w.step k op) ops

end ClientWorld

/-! ## Runs without a blocking operation -/

/-- No member was used after a free, the client was freed at most once and then its link is
idle, and no task is blocked. -/
structure ClientWorld.Safe (w : ClientWorld) : Prop where
  noUse : w.usedAfterFree = false
  frees_le : w.frees ≤ 1
  idle_of_freed : w.frees = 1 → w.link = .idle
  noTask : w.task = none
  noTaskData : w.client.taskData = false

namespace ClientWorld

/-- A handler run on a live client with no blocked task uses no freed member, blocks no task,
keeps the link, and frees the client at most once. -/
structure Quiet (w w' : ClientWorld) : Prop where
  noUse : w'.usedAfterFree = false
  noTaskData : w'.client.taskData = false
  task : w'.task = w.task
  link : w'.link = w.link
  frees_le : w'.frees ≤ 1

section

variable {w : ClientWorld} (h0 : w.frees = 0) (hu : w.usedAfterFree = false)
  (ht : w.client.taskData = false)
include h0 hu ht

theorem quiet_handleDisconnect (c h reason : Nat) : Quiet w (handleDisconnect c h reason w) := by
  simp only [handleDisconnect, deleteClient, use_of_frees_eq_zero h0]
  split_ifs <;> constructor <;> simp_all [use_of_frees_eq_zero]

theorem quiet_handleConnect (status h mtuRc : Nat) : Quiet w (handleConnect status h mtuRc w) := by
  simp only [handleConnect, deleteClient, use_of_frees_eq_zero h0]
  split_ifs <;> constructor <;> simp_all [use_of_frees_eq_zero]

theorem quiet_handleMtu (h : Nat) : Quiet w (handleMtu h w) := by
  simp only [handleMtu, use_of_frees_eq_zero h0]
  split_ifs <;> constructor <;> simp_all

theorem quiet_handleEncChange (h status : Nat) : Quiet w (handleEncChange h status w) := by
  simp only [handleEncChange, use_of_frees_eq_zero h0]
  split_ifs <;> constructor <;> simp_all [use_of_frees_eq_zero]

end

theorem frees_handleConnect {status : Nat} (h mtuRc : Nat) (w : ClientWorld) (hs : status = 0) :
    (handleConnect status h mtuRc w).frees = w.frees := by
  simp only [handleConnect, hs]
  split_ifs <;> simp

theorem frees_handleMtu (h : Nat) (w : ClientWorld) : (handleMtu h w).frees = w.frees := by
  simp only [handleMtu]
  split_ifs <;> simp

theorem frees_handleEncChange (h status : Nat) (w : ClientWorld) :
    (handleEncChange h status w).frees = w.frees := by
  simp only [handleEncChange]
  split_ifs <;> simp

end ClientWorld

/-- `connect` without `asyncConnect` and `secureConnection(false)` block their task. -/
def ClientOp.blocks : ClientOp → Bool
  | .connect async _ => !async
  | .secureConnection _ => true
  | _ => false

namespace ClientWorld

/-- A quiet handler run with no blocked task leaves a safe world when a client it frees is
left with an idle link. -/
theorem Quiet.safe {w w' : ClientWorld} (hq : Quiet w w') (ht : w.task = none)
    (hidle : w'.frees = 1 → w'.link = .idle) : w'.Safe :=
  ⟨hq.noUse, hq.frees_le, hidle, hq.task.trans ht, hq.noTaskData⟩

theorem exists_up_of_matches {l : Link} (h : (l matches .up _) = true) : ∃ c, l = .up c := by
  cases l <;> simp_all

/-- An enabled operation that does not block keeps a world safe. -/
theorem Safe.step {k : HostCodes} {w : ClientWorld} {op : ClientOp} (hs : w.Safe)
    (hb : op.blocks = false) (he : op.enabled w = true) : (w.step k op).Safe := by
  have hfree : w.link ≠ .idle → w.frees = 0 := fun hl => by
    have := hs.frees_le; have := mt hs.idle_of_freed hl; omega
  cases op with
  | connect async mtu =>
    cases async
    · simp [ClientOp.blocks] at hb
    simp only [ClientOp.enabled, Bool.and_eq_true, decide_eq_true_eq] at he
    have hf : (w.step k (.connect true mtu)).frees = 0 := by simp [ClientWorld.step, he.1.1.1]
    exact ⟨by simp [ClientWorld.step, hs.noUse, he.1.1.1], by omega, fun h1 => by omega,
      by simp [ClientWorld.step, hs.noTask], by simp [ClientWorld.step, hs.noTaskData]⟩
  | secureConnection => simp [ClientOp.blocks] at hb
  | gapConnect status h mtuRc =>
    have h0 := hfree (by simp_all [ClientOp.enabled])
    have hq := quiet_handleConnect (w := { w with link := if status = 0 then .up h else .idle })
      h0 hs.noUse hs.noTaskData status h mtuRc
    refine hq.safe hs.noTask fun h1 => ?_
    by_cases hst : status = 0
    · rw [frees_handleConnect _ _ _ hst] at h1; simp_all
    · rw [hq.link]; simp [hst]
  | gapDisconnect reason =>
    obtain ⟨h, hl⟩ := exists_up_of_matches he
    have hq := quiet_handleDisconnect (w := { w with link := .idle }) (hfree (by simp [hl]))
      hs.noUse hs.noTaskData k.connEstablishment h reason
    simp only [ClientWorld.step, hl]
    exact hq.safe hs.noTask fun _ => hq.link
  | gapMtu =>
    obtain ⟨h, hl⟩ := exists_up_of_matches he
    have hq := quiet_handleMtu (hfree (by simp [hl])) hs.noUse hs.noTaskData h
    simp only [ClientWorld.step, hl]
    exact hq.safe hs.noTask fun h1 => by simp_all [frees_handleMtu]
  | gapEncChange status =>
    obtain ⟨h, hl⟩ := exists_up_of_matches he
    have hq := quiet_handleEncChange (hfree (by simp [hl])) hs.noUse hs.noTaskData h status
    simp only [ClientWorld.step, hl]
    exact hq.safe hs.noTask fun h1 => by simp_all [frees_handleEncChange]
  | wake => simp [ClientOp.enabled, hs.noTask] at he

theorem Safe.run {k : HostCodes} : ∀ {w : ClientWorld} {ops : List ClientOp}, w.Safe →
    (∀ op ∈ ops, op.blocks = false) → w.runEnabled k ops = true → (w.run k ops).Safe
  | _, [], hs, _, _ => hs
  | w, op :: ops, hs, hb, he => by
    simp only [runEnabled, Bool.and_eq_true] at he
    exact Safe.run (w := w.step k op) (hs.step (hb op (List.mem_cons_self _ _)) he.1)
      (fun o ho => hb o (List.mem_cons_of_mem _ ho)) he.2

/-- Without a blocking operation, no run uses the client after deleting it or deletes it twice:
the handler releases no task after a delete, and the host sends no event on the idle link. -/
theorem safe_of_async (k : HostCodes) (deleteOnDisconnect deleteOnConnectFail : Bool)
    {ops : List ClientOp} (hb : ∀ op ∈ ops, op.blocks = false)
    (he : (init deleteOnDisconnect deleteOnConnectFail).runEnabled k ops = true) :
    ((init deleteOnDisconnect deleteOnConnectFail).run k ops).usedAfterFree = false ∧
      ((init deleteOnDisconnect deleteOnConnectFail).run k ops).frees ≤ 1 :=
  have hs := Safe.run ⟨rfl, Nat.zero_le _, by simp [init], rfl, rfl⟩ hb he
  ⟨hs.noUse, hs.frees_le⟩

/-- An asynchronous connect of a client that deletes itself on disconnect; the link opens and
closes. -/
theorem safe_of_async_connectDisconnect :
    ((init true false).run ⟨0x23E, 0x206, 13, 7⟩
        [.connect true true, .gapConnect 0 5 0, .gapDisconnect 0x213]).usedAfterFree = false ∧
      ((init true false).run ⟨0x23E, 0x206, 13, 7⟩
        [.connect true true, .gapConnect 0 5 0, .gapDisconnect 0x213]).frees ≤ 1 :=
  safe_of_async ⟨0x23E, 0x206, 13, 7⟩ true false (by decide) (by decide)

end ClientWorld

/-! ## A blocked connect -/

/-- A blocking `connect` with `deleteOnDisconnect` set: the connection opens, and is closed for a
reason other than `BLE_HS_ERR_HCI_BASE + BLE_ERR_CONN_ESTABLISHMENT` before the task resumes.
The handler deletes the client and releases the task, which then writes `m_pTaskData` of the
freed client; with `deleteOnConnectFail` also set and a nonzero reason, it deletes the client a
second time. -/
theorem connect_resumes_on_deleted_client (k : HostCodes) (deleteOnConnectFail : Bool)
    {h reason : Nat} (hr : reason ≠ k.connEstablishment) :
    let ops := [ClientOp.connect false true, .gapConnect 0 h 0, .gapDisconnect reason, .wake]
    let w := (ClientWorld.init true deleteOnConnectFail).run k ops
    (ClientWorld.init true deleteOnConnectFail).runEnabled k ops = true ∧
      w.usedAfterFree = true ∧ w.frees = if deleteOnConnectFail ∧ reason ≠ 0 then 2 else 1 := by
  -- the world once the connection is up, with the task still blocked
  have hup : ((ClientWorld.init true deleteOnConnectFail).step k (.connect false true)).step k
      (.gapConnect 0 h 0) = ⟨⟨h, true, false, true, true, deleteOnConnectFail, 0, 0⟩, 0, false,
        .up h, some ⟨.connect, 0, false⟩⟩ := by
    simp [ClientWorld.step, ClientWorld.init, ClientWorld.handleConnect, ClientWorld.modify,
      ClientWorld.use]
  dsimp only
  rw [ClientWorld.run, List.foldl, List.foldl, ClientWorld.runEnabled, ClientWorld.runEnabled, hup]
  simp [ClientWorld.runEnabled, ClientOp.enabled, ClientWorld.step, ClientWorld.init,
    ClientWorld.handleDisconnect, ClientWorld.deleteClient, ClientWorld.resumeConnect, hr,
    ClientWorld.use, ClientWorld.modify, ClientWorld.taskRelease]
  split_ifs <;> simp_all

/-- The peer closes the connection (reason `0x213`) with NimBLE's codes. -/
theorem connect_resumes_on_deleted_client_remote_close :
    (0x213 : Nat) ≠ (⟨0x23E, 0x206, 13, 7⟩ : HostCodes).connEstablishment ∧
    let ops := [ClientOp.connect false true, .gapConnect 0 1 0, .gapDisconnect 0x213, .wake]
    let w := (ClientWorld.init true true).run ⟨0x23E, 0x206, 13, 7⟩ ops
    (ClientWorld.init true true).runEnabled ⟨0x23E, 0x206, 13, 7⟩ ops = true ∧
      w.usedAfterFree = true ∧ w.frees = if true ∧ (0x213 : Nat) ≠ 0 then 2 else 1 :=
  ⟨by decide, connect_resumes_on_deleted_client ⟨0x23E, 0x206, 13, 7⟩ true (by decide)⟩

end BleGatt
