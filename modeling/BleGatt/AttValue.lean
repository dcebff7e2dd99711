import Mathlib.Data.List.Basic

/-!
# `BLEAttValue`, the attribute value container

The value of every local characteristic and descriptor is a `BLEAttValue`
(`src/unnamed/part_004:159-292`): a heap block `m_attr_value`, the stored length
`m_attr_len`, the configured maximum `m_attr_max_len`, the allocated capacity `m_capacity`
(the block holds `m_capacity + 1` bytes, one for a terminating zero) and a timestamp.

A heap block is `Option (List UInt8)`: `none` is a null pointer, and `some b` an allocation
of `b.length` bytes. Every allocation the code makes (`calloc`, `realloc`) takes a Boolean
`ok`, the allocator's answer, so that each operation is modelled for both outcomes. The
protocol limit `BLE_ATT_ATTR_MAX_LEN` comes from the host's headers, which are not part of
the repository; it is a parameter of the constructors.

`Valid` is the representation invariant the spec states (`current length ≤ maximum length ≤
protocol hard limit`, a non-null block while the length is positive) together with the
capacity and terminator facts the code relies on when it copies bytes. A failed `calloc`
leaves a null block, which the code tolerates (`append` and the destructor test for it) and
`Valid` excludes (`new_calloc_failure_not_valid`). `Consistent` admits that block, with length
zero, and `consistent_of_builtSafely` proves it of every object built without the code's
slips (`BuiltSafely`).

A failed `append` changes neither the length, the bytes nor the timestamp, while `setValue`,
which clears the length before it appends, leaves an empty value when it fails
(`append_atomic_and_setValue_exact`, `setValue_failure_clears`).

`setValueChecked` is `setValue` with the accesses of its copy and its compare checked. When no
`realloc` happens, a null block or a block shorter than `m_capacity` claims makes it leave its
memory (`setValueChecked_of_unsafe`); otherwise, within the maximum, it stores the bytes and
returns `true` (`setValueChecked_of_safe`).
-/

namespace BleGatt

/-! ## Heap blocks -/

/-- The block `calloc(n, 1)` returns: `n` zero bytes, or null when the allocation fails. -/
def calloc (ok : Bool) (n : Nat) : Option (List UInt8) :=
  if ok then some (List.replicate n 0) else none

/-- The bytes of a successful `realloc(p, n)`: the first `n` bytes of the old block, then
fresh bytes (zero here). A null `p` is the empty block, as for `malloc`. -/
def resize (p : Option (List UInt8)) (n : Nat) : List UInt8 :=
  (p.getD []).take n ++ List.replicate (n - (p.getD []).length) 0

/-- `memcpy(b + off, src, src.length)`: the bytes of `b` outside the written range are kept. -/
def writeAt (b : List UInt8) (off : Nat) (src : List UInt8) : List UInt8 :=
  b.take off ++ src ++ b.drop (off + src.length)

@[simp] theorem calloc_true (n : Nat) : calloc true n = some (List.replicate n 0) := rfl
@[simp] theorem calloc_false (n : Nat) : calloc false n = none := rfl

@[simp] theorem length_resize (p : Option (List UInt8)) (n : Nat) : (resize p n).length = n := by
  simp only [resize, List.length_append, List.length_take, List.length_replicate]
  omega

/-- Writing inside a block keeps its size. -/
theorem length_writeAt (b : List UInt8) (off : Nat) (src : List UInt8)
    (h : off + src.length ≤ b.length) : (writeAt b off src).length = b.length := by
  simp only [writeAt, List.length_append, List.length_take, List.length_drop]
  omega

/-- The bytes below the written range are kept. -/
theorem take_writeAt {b : List UInt8} {off : Nat} {src : List UInt8} (h : off ≤ b.length) :
    (writeAt b off src).take off = b.take off := by
  simp [writeAt, List.take_append_eq_append_take, List.length_take, Nat.min_eq_left h]

/-- The written range holds the source. -/
theorem take_writeAt_src {b : List UInt8} {off : Nat} {src : List UInt8} (h : off ≤ b.length) :
    (writeAt b off src).take (off + src.length) = b.take off ++ src := by
  simp [writeAt, List.take_append_eq_append_take, List.length_take, Nat.min_eq_left h]

/-- The bytes after the written range are kept. -/
theorem getElem?_writeAt_of_le {b src : List UInt8} {off i : Nat} (h : off ≤ b.length)
    (hi : off + src.length ≤ i) : (writeAt b off src)[i]? = b[i]? := by
  have ht : (b.take off ++ src).length = off + src.length := by simp [Nat.min_eq_left h]
  rw [writeAt, List.getElem?_append_right (by omega), List.getElem?_drop, ht]
  congr 1; omega

/-- The written range holds the source. -/
theorem getElem?_writeAt_src (b : List UInt8) (off : Nat) (src : List UInt8) {i : Nat}
    (h : off ≤ b.length)
    (hi : i < src.length) : (writeAt b off src)[off + i]? = src[i]? := by
  have ht : (b.take off).length = off := by simp [Nat.min_eq_left h]
  rw [writeAt, List.append_assoc, List.getElem?_append_right (by omega), ht, Nat.add_sub_cancel_left,
    List.getElem?_append_left hi]

/-! ## The container -/

/-- `BLEAttValue` (`BLEAttValue.h`, fields used by `part_004`). -/
structure BLEAttValue where
  /-- `m_attr_value`. -/
  attrValue : Option (List UInt8)
  /-- `m_attr_max_len`. -/
  attrMaxLen : Nat
  /-- `m_attr_len`. -/
  attrLen : Nat
  /-- `m_capacity`. -/
  capacity : Nat
  /-- `m_timestamp` (always 0 without `CONFIG_NIMBLE_CPP_ATT_VALUE_TIMESTAMP_ENABLED`). -/
  timestamp : Nat
deriving DecidableEq, Repr

namespace BLEAttValue

/-- The stored bytes, `data()[0 .. size())`. -/
def value (v : BLEAttValue) : List UInt8 := (v.attrValue.getD []).take v.attrLen

/-- Modelled from the spec: `max_size()` is declared in the missing `BLEAttValue.h`; it is the
"configured maximum" of the value, `m_attr_max_len`. -/
def maxSize (v : BLEAttValue) : Nat := v.attrMaxLen

/-- Default constructor `BLEAttValue(init_len, max_len)` (`part_004:169`). -/
def new (ok : Bool) (BLE_ATT_ATTR_MAX_LEN initLen maxLen : Nat) : BLEAttValue :=
  { attrValue := calloc ok (initLen + 1)
    attrMaxLen := min BLE_ATT_ATTR_MAX_LEN maxLen
    attrLen := 0
    capacity := initLen
    timestamp := 0 }

/-- Value constructor `BLEAttValue(value, len, max_len)` (`part_004:183`): delegates to the
default constructor with `init_len = len`, then copies the bytes and sets the length. -/
def ofValue (ok : Bool) (BLE_ATT_ATTR_MAX_LEN : Nat) (value : List UInt8) (maxLen : Nat) :
    BLEAttValue :=
  let v := new ok BLE_ATT_ATTR_MAX_LEN value.length maxLen
  match v.attrValue with
  | some b => { v with attrValue := some (writeAt b 0 value), attrLen := value.length }
  | none => v

/-- Move assignment `operator=(BLEAttValue &&)` (`part_004:198`) between two distinct
objects: the target frees its block and takes every field of the source, and the source's
pointer is nulled while its other fields stay. Returns the target and the source afterwards. -/
def moveAssign (src : BLEAttValue) : BLEAttValue × BLEAttValue :=
  (src, { src with attrValue := none })

/-- `deepCopy` (`part_004:221`), which copy assignment calls for distinct objects: the block
is reallocated to the source's capacity plus one; on failure nothing changes. The
`m_attr_len + 1` bytes are copied through the source's pointer, so a null source block gives
no object (`none`). -/
def deepCopy (ok : Bool) (dst src : BLEAttValue) : Option BLEAttValue :=
  if ok then
    src.attrValue.map fun sb =>
      { attrValue := some (writeAt (resize dst.attrValue (src.capacity + 1)) 0
          (sb.take (src.attrLen + 1)))
        attrMaxLen := src.attrMaxLen
        attrLen := src.attrLen
        capacity := src.capacity
        timestamp := src.timestamp }
  else some dst

/-- The tail of a successful `append` (`part_004:273-279`): the bytes are copied after the
stored ones into the block `b`, the length raised, the terminator written and the timestamp
set. -/
def store (now : Nat) (v : BLEAttValue) (b value : List UInt8) : BLEAttValue :=
  { v with
    attrValue := some (writeAt (writeAt b v.attrLen value) (v.attrLen + value.length) [0])
    attrLen := v.attrLen + value.length
    timestamp := now }

/-- `append(value, len)` (`part_004:246`). `now` is what `time(nullptr)` returns (0 without
timestamps). When the block must grow, `m_capacity` is raised before the result of `realloc`
is checked, as in the source. -/
def append (ok : Bool) (now : Nat) (v : BLEAttValue) (value : List UInt8) : BLEAttValue :=
  if value.length = 0 then v
  else if v.attrLen + value.length > v.attrMaxLen then v
  else if v.attrLen + value.length > v.capacity then
    let v' := { v with capacity := v.attrLen + value.length }
    if ok then store now v' (resize v.attrValue (v.attrLen + value.length + 1)) value else v'
  else
    match v.attrValue with
    | none => v
    | some b => store now v b value

/-- `setValue(value, len)` (`part_004:239`): the length is set to zero and the bytes appended;
the result compares the first `len` bytes of the block with `value` and the new length with
`len`. Returns the object afterwards and the result. The accesses of the copy and the compare
are not checked here; `setValueChecked` checks them. -/
def setValue (ok : Bool) (now : Nat) (v : BLEAttValue) (value : List UInt8) :
    BLEAttValue × Bool :=
  let v' := append ok now { v with attrLen := 0 } value
  (v', (v'.attrValue.getD []).take value.length == value && v'.attrLen == value.length)

/-- `operator[](pos)` (`part_004:284`): the byte at `pos`, or 0 when `pos >= m_attr_len`. The
comparison is between `int`s, so a negative `pos` passes it and indexes before the block
(`none` here). -/
def get (v : BLEAttValue) (pos : Int) : Option UInt8 :=
  if pos ≥ v.attrLen then some 0
  else if pos < 0 then none
  else (v.attrValue.getD [])[pos.toNat]?

/-! ## The representation invariant -/

/-- The representation invariant of `BLEAttValue`: `m_attr_len ≤ m_attr_max_len ≤
BLE_ATT_ATTR_MAX_LEN`, `m_attr_len ≤ m_capacity`, a block of at least `m_capacity + 1` bytes
(so never null), and a zero byte at `m_attr_len`. -/
structure Valid (BLE_ATT_ATTR_MAX_LEN : Nat) (v : BLEAttValue) : Prop where
  len_le_max : v.attrLen ≤ v.attrMaxLen
  max_le_limit : v.attrMaxLen ≤ BLE_ATT_ATTR_MAX_LEN
  len_le_capacity : v.attrLen ≤ v.capacity
  allocated : ∃ b, v.attrValue = some b ∧ v.capacity + 1 ≤ b.length ∧ b[v.attrLen]? = some 0

instance (m : Nat) (v : BLEAttValue) : Decidable (Valid m v) :=
  match h : v.attrValue with
  | none => isFalse fun hv => by obtain ⟨b, hb, -⟩ := hv.allocated; simp [h] at hb
  | some b =>
    decidable_of_iff (v.attrLen ≤ v.attrMaxLen ∧ v.attrMaxLen ≤ m ∧ v.attrLen ≤ v.capacity ∧
        v.capacity + 1 ≤ b.length ∧ b[v.attrLen]? = some 0)
      ⟨fun ⟨h1, h2, h3, h4, h5⟩ => ⟨h1, h2, h3, b, h, h4, h5⟩,
       fun ⟨h1, h2, h3, b', hb', h4, h5⟩ => by
        obtain rfl : b = b' := Option.some.inj (h.symm.trans hb')
        exact ⟨h1, h2, h3, h4, h5⟩⟩

/-- The block is allocated with room for the capacity and its terminator. Every successful
allocation of the code establishes it; `Valid` includes it. -/
def Allocated (v : BLEAttValue) : Prop :=
  ∃ b, v.attrValue = some b ∧ v.capacity + 1 ≤ b.length

theorem Valid.allocated' {m : Nat} {v : BLEAttValue} (h : v.Valid m) : v.Allocated :=
  let ⟨b, hb, hc, _⟩ := h.allocated
  ⟨b, hb, hc⟩

/-! ## `append` and `setValue` -/

/-- Writing a terminator right after a written range leaves that range. -/
theorem take_writeAt_term {B : List UInt8} {off : Nat} {src : List UInt8}
    (h : off + src.length ≤ B.length) :
    (writeAt (writeAt B off src) (off + src.length) [0]).take (off + src.length) =
      B.take off ++ src := by
  rw [take_writeAt (by rw [length_writeAt _ _ _ h]; exact h), take_writeAt_src (by omega)]

/-- A successful `realloc` keeps the bytes below the old size. -/
theorem take_resize {p : Option (List UInt8)} {k n : Nat} (hk : k ≤ (p.getD []).length)
    (hn : k ≤ n) : (resize p n).take k = (p.getD []).take k := by
  simp [resize, List.take_append_eq_append_take, List.take_take, Nat.min_eq_left hn,
    List.length_take, Nat.min_eq_left (Nat.le_trans hk (Nat.le_refl _))]
  omega

/-- `store` keeps the bytes below the stored length and puts the new ones after them. -/
theorem value_store {now : Nat} {v : BLEAttValue} {b value : List UInt8}
    (h : v.attrLen + value.length ≤ b.length) :
    (store now v b value).value = b.take v.attrLen ++ value := by
  simp only [store, BLEAttValue.value, Option.getD_some]
  exact take_writeAt_term h

/-- An append that fits stores the old bytes followed by the new ones, when the block is
reallocated (`ok`) or already has room. -/
theorem value_append {ok : Bool} {now : Nat} {v : BLEAttValue} {src : List UInt8}
    (hmax : v.attrLen + src.length ≤ v.attrMaxLen)
    (hold : v.attrLen ≤ (v.attrValue.getD []).length)
    (hroom : v.attrLen + src.length ≤ v.capacity → v.Allocated)
    (hok : v.capacity < v.attrLen + src.length → ok = true) :
    (append ok now v src).value = v.value ++ src := by
  unfold append
  by_cases h0 : src.length = 0
  · simp [List.length_eq_zero.1 h0]
  rw [if_neg h0, if_neg (by omega)]
  by_cases hg : v.attrLen + src.length > v.capacity
  · rw [if_pos hg, hok hg, if_pos rfl, value_store (by simp), take_resize hold (by omega)]
    rfl
  · obtain ⟨b, hb, hc⟩ := hroom (by omega)
    rw [if_neg hg]
    simp only [hb, value_store (show v.attrLen + src.length ≤ b.length by omega)]
    simp [BLEAttValue.value, hb]

/-- `setValue` with a value within the maximum stores exactly that value, when the block is
allocated and any reallocation succeeds. -/
theorem value_setValue {now : Nat} {v : BLEAttValue} {src : List UInt8} (hv : v.Allocated)
    (hmax : src.length ≤ v.attrMaxLen) : (setValue true now v src).1.value = src := by
  have := @value_append true now { v with attrLen := 0 } src
    (by simpa using hmax) (by simp) (fun _ => hv) (fun _ => rfl)
  simpa [setValue, value] using this

/-- Setting the timestamp keeps the stored bytes. -/
@[simp] theorem value_with_timestamp (v : BLEAttValue) (t : Nat) :
    ({ v with timestamp := t } : BLEAttValue).value = v.value := rfl

@[simp] theorem attrMaxLen_append (ok : Bool) (now : Nat) (v : BLEAttValue) (src : List UInt8) :
    (append ok now v src).attrMaxLen = v.attrMaxLen := by
  unfold append store; split_ifs <;> (try split) <;> rfl

/-! ## Failed updates

`append` is all or nothing: an append that fits and whose `realloc`, if any, succeeds stores
the old bytes followed by the new ones, and any other leaves the length, the bytes and the
timestamp. `setValue` sets the length to zero before it appends, so its result says exactly
whether the new value is stored, and a failed `setValue` leaves an empty value.
-/

section

variable {ok : Bool} {now : Nat} {v : BLEAttValue} {src : List UInt8}

/-- An append that fits, and whose `realloc` succeeds when the block must grow, raises the
length by the bytes appended and stores them after the old ones. -/
theorem append_of_fits (hv : v.Allocated) (hl : v.attrLen ≤ v.capacity)
    (hmax : v.attrLen + src.length ≤ v.attrMaxLen)
    (hok : ok = true ∨ v.attrLen + src.length ≤ v.capacity) :
    (append ok now v src).attrLen = v.attrLen + src.length ∧
      (append ok now v src).value = v.value ++ src := by
  obtain ⟨b, hb, hc⟩ := hv
  refine ⟨?_, value_append hmax (by simp [hb]; omega) (fun _ => ⟨b, hb, hc⟩)
    fun hg => hok.resolve_right (by omega)⟩
  unfold append
  by_cases h0 : src.length = 0
  · simp [h0]
  rw [if_neg h0, if_neg (by omega)]
  split
  · rw [hok.resolve_right (by omega), if_pos rfl]; rfl
  · simp only [hb]; rfl

/-- An append that does not fit, or whose `realloc` fails, keeps the length, the stored bytes
and the timestamp. -/
theorem append_of_not_fits (h : v.attrMaxLen < v.attrLen + src.length ∨
      (ok = false ∧ v.capacity < v.attrLen + src.length)) :
    (append ok now v src).attrLen = v.attrLen ∧ (append ok now v src).value = v.value ∧
      (append ok now v src).timestamp = v.timestamp := by
  unfold append
  split
  · simp
  split
  · simp
  rcases h with h | ⟨rfl, h⟩
  · omega
  · rw [if_pos h]; simp [BLEAttValue.value]

/-- `setValue` of a value that fits, and whose `realloc` succeeds when the block must grow,
stores the value and returns `true`. -/
theorem setValue_of_fits (hv : v.Allocated) (hmax : src.length ≤ v.attrMaxLen)
    (hok : ok = true ∨ src.length ≤ v.capacity) :
    (setValue ok now v src).1.value = src ∧ (setValue ok now v src).2 = true := by
  obtain ⟨hl, hval⟩ := @append_of_fits ok now { v with attrLen := 0 } src hv (Nat.zero_le _)
    (by simpa using hmax) (by simpa using hok)
  simp only [Nat.zero_add] at hl
  have hv' : ({ v with attrLen := 0 } : BLEAttValue).value = [] := by simp [BLEAttValue.value]
  rw [hv', List.nil_append] at hval
  refine ⟨hval, ?_⟩
  simp only [setValue, hl, beq_self_eq_true, Bool.and_true, beq_iff_eq]
  rw [← hl]; exact hval

/-- `setValue` of a value that does not fit, or whose `realloc` fails, has already set the
length to zero: it leaves an empty value and returns `false`. -/
theorem setValue_of_not_fits
    (h : v.attrMaxLen < src.length ∨ (ok = false ∧ v.capacity < src.length)) :
    (setValue ok now v src).1.attrLen = 0 ∧ (setValue ok now v src).2 = false := by
  obtain ⟨hl, -, -⟩ := @append_of_not_fits ok now { v with attrLen := 0 } src
    (by simpa using h)
  refine ⟨hl, ?_⟩
  have : src.length ≠ 0 := by omega
  simp [setValue, hl, Ne.symm this]

end

/-- From a valid object: an `append` that fits, and whose `realloc` succeeds when the block
must grow, stores the old bytes followed by the new ones; one that does not fit, or whose
`realloc` fails, keeps the length, the bytes and the timestamp. `setValue` returns `true`
exactly when the stored value is the new one, which is when it fits and any `realloc`
succeeds; when it returns `false` the value is empty. -/
theorem append_atomic_and_setValue_exact {M now : Nat} {ok : Bool} {v : BLEAttValue}
    (hv : v.Valid M) (src : List UInt8) :
    (v.attrLen + src.length ≤ v.attrMaxLen → (ok = true ∨ v.attrLen + src.length ≤ v.capacity) →
      (append ok now v src).value = v.value ++ src) ∧
    (v.attrMaxLen < v.attrLen + src.length ∨ (ok = false ∧ v.capacity < v.attrLen + src.length) →
      (append ok now v src).attrLen = v.attrLen ∧ (append ok now v src).value = v.value ∧
        (append ok now v src).timestamp = v.timestamp) ∧
    ((setValue ok now v src).2 = true ↔ (setValue ok now v src).1.value = src) ∧
    ((setValue ok now v src).2 = true ↔
      src.length ≤ v.attrMaxLen ∧ (ok = true ∨ src.length ≤ v.capacity)) ∧
    ((setValue ok now v src).2 = false → (setValue ok now v src).1.value = []) := by
  refine ⟨fun hmax hok => (append_of_fits hv.allocated' hv.len_le_capacity hmax hok).2,
    append_of_not_fits, ?_⟩
  by_cases hfit : src.length ≤ v.attrMaxLen ∧ (ok = true ∨ src.length ≤ v.capacity)
  · obtain ⟨hval, hr⟩ := @setValue_of_fits ok now v src hv.allocated' hfit.1 hfit.2
    simp [hval, hr, hfit]
  · have h : v.attrMaxLen < src.length ∨ (ok = false ∧ v.capacity < src.length) := by
      cases ok <;> simp only [true_or, and_true, false_or, Bool.false_eq_true, true_and] at hfit ⊢
        <;> omega
    obtain ⟨hl, hr⟩ := @setValue_of_not_fits ok now v src h
    have hval : (setValue ok now v src).1.value = [] := by simp [BLEAttValue.value, hl]
    have hne : src ≠ [] := fun h0 => by simp [h0] at h
    simp [hr, hfit, hval, hne.symm]

/-- A value holding three bytes, with maximum and capacity four. -/
def threeOfFour : BLEAttValue := ⟨some [1, 2, 3, 0, 0], 4, 3, 4, 0⟩

/-- Setting five bytes fails, and the three stored bytes are gone. -/
theorem setValue_failure_clears :
    threeOfFour.Valid 512 ∧ (setValue true 0 threeOfFour [1, 2, 3, 4, 5]).2 = false ∧
      (setValue true 0 threeOfFour [1, 2, 3, 4, 5]).1.attrLen = 0 ∧ threeOfFour.attrLen = 3 := by
  decide

/-- Appending one byte to `threeOfFour`, and setting it to that byte. -/
theorem append_atomic_and_setValue_exact_threeOfFour :
    threeOfFour.Valid 512 ∧
    (threeOfFour.attrLen + [4].length ≤ threeOfFour.attrMaxLen →
      (true = true ∨ threeOfFour.attrLen + [4].length ≤ threeOfFour.capacity) →
      (append true 7 threeOfFour [4]).value = threeOfFour.value ++ [4]) ∧
    (threeOfFour.attrMaxLen < threeOfFour.attrLen + [4].length ∨
        (true = false ∧ threeOfFour.capacity < threeOfFour.attrLen + [4].length) →
      (append true 7 threeOfFour [4]).attrLen = threeOfFour.attrLen ∧
        (append true 7 threeOfFour [4]).value = threeOfFour.value ∧
        (append true 7 threeOfFour [4]).timestamp = threeOfFour.timestamp) ∧
    ((setValue true 7 threeOfFour [4]).2 = true ↔ (setValue true 7 threeOfFour [4]).1.value = [4]) ∧
    ((setValue true 7 threeOfFour [4]).2 = true ↔
      [4].length ≤ threeOfFour.attrMaxLen ∧ (true = true ∨ [4].length ≤ threeOfFour.capacity)) ∧
    ((setValue true 7 threeOfFour [4]).2 = false → (setValue true 7 threeOfFour [4]).1.value = []) :=
  ⟨by decide, append_atomic_and_setValue_exact (M := 512) (by decide) [4]⟩

/-! ## Reads of the block

`operator[]` compares an `int` position with the `uint16_t` length, which is promoted to
`int`: a position at or past the length gives the fallback 0, any other is used as an index,
so a negative one reads before the block. `setValue` evaluates its `memcmp` of `len` bytes
whether or not the append stored them; when it did not, the block is the old one, and `len`
can exceed it.
-/

/-- `memcmp(p, value, len) == 0`: whether the first `len` bytes of the block are those of
`value`, or `none` when they reach past the block (a read outside it). -/
def memcmpEq (p : Option (List UInt8)) (value : List UInt8) : Option Bool :=
  if value.length ≤ (p.getD []).length then some ((p.getD []).take value.length == value)
  else none

/-- The result of `setValue(value, len)` (`part_004:242`) with the reads of its `memcmp`
checked: `none` when the compare reads past the block. -/
def setValueCompare (ok : Bool) (now : Nat) (v : BLEAttValue) (value : List UInt8) :
    Option Bool :=
  let v' := append ok now { v with attrLen := 0 } value
  (memcmpEq v'.attrValue value).map fun same => same && v'.attrLen == value.length

/-- Whenever its compare stays inside the block, it gives the result `setValue` returns. -/
theorem setValueCompare_eq (ok : Bool) (now : Nat) (v : BLEAttValue) (value : List UInt8) :
    setValueCompare ok now v value =
      if value.length ≤ ((setValue ok now v value).1.attrValue.getD []).length then
        some (setValue ok now v value).2
      else none := by
  unfold setValueCompare memcmpEq setValue
  dsimp only
  split <;> rfl

/-- The stored bytes of a valid object are `m_attr_len` long. -/
theorem Valid.length_value {M : Nat} {v : BLEAttValue} (hv : v.Valid M) :
    v.value.length = v.attrLen := by
  obtain ⟨b, hb, hc, -⟩ := hv.allocated
  simp only [value, hb, Option.getD_some, List.length_take]
  have := hv.len_le_capacity
  omega

/-- Inside `[0, m_attr_len)`, `operator[]` reads the stored byte. -/
theorem get_of_lt {v : BLEAttValue} {pos : Int} (h0 : 0 ≤ pos) (hl : pos < v.attrLen) :
    v.get pos = v.value[pos.toNat]? := by
  have hlt : pos.toNat < v.attrLen := (Int.toNat_lt h0).2 hl
  rw [get, if_neg (show ¬pos ≥ v.attrLen by omega), if_neg (show ¬pos < 0 by omega), value,
    List.getElem?_take_of_lt hlt]

theorem get_of_le {v : BLEAttValue} {pos : Int} (h : v.attrLen ≤ pos) : v.get pos = some 0 :=
  if_pos h

/-- A negative position passes the check and is used as an index before the block. -/
theorem get_of_neg (v : BLEAttValue) {pos : Int} (h : pos < 0) : v.get pos = none := by
  rw [get, if_neg (show ¬pos ≥ v.attrLen by omega), if_pos h]

/-- `store` writes inside the block and keeps its size. -/
theorem length_store {now : Nat} {v : BLEAttValue} {b value : List UInt8}
    (h : v.attrLen + value.length + 1 ≤ b.length) :
    ((store now v b value).attrValue.getD []).length = b.length := by
  simp only [store, Option.getD_some]
  rw [length_writeAt _ _ _ (by rw [length_writeAt _ _ _ (by omega)]; simp; omega),
    length_writeAt _ _ _ (by omega)]

/-- After an append that fits, the block holds the new length and its terminator. -/
theorem lt_length_append_of_fits {ok : Bool} {now : Nat} {v : BLEAttValue} {src : List UInt8}
    (hv : v.Allocated) (hl : v.attrLen ≤ v.capacity)
    (hmax : v.attrLen + src.length ≤ v.attrMaxLen)
    (hok : ok = true ∨ v.attrLen + src.length ≤ v.capacity) :
    v.attrLen + src.length < ((append ok now v src).attrValue.getD []).length := by
  obtain ⟨b, hb, hc⟩ := hv
  unfold append
  by_cases h0 : src.length = 0
  · simp [h0, hb]; omega
  rw [if_neg h0, if_neg (by omega)]
  split
  · rw [hok.resolve_right (by omega), if_pos rfl, length_store (by simp), length_resize]
    omega
  · simp only [hb, length_store (show v.attrLen + src.length + 1 ≤ b.length by omega)]
    omega

/-- An append that does not fit, or whose `realloc` fails, keeps the block. -/
theorem attrValue_append_of_not_fits {ok : Bool} {now : Nat} {v : BLEAttValue}
    {src : List UInt8} (h : v.attrMaxLen < v.attrLen + src.length ∨
      (ok = false ∧ v.capacity < v.attrLen + src.length)) :
    (append ok now v src).attrValue = v.attrValue := by
  unfold append
  split
  · rfl
  split
  · rfl
  rcases h with h | ⟨rfl, h⟩
  · omega
  · rw [if_pos h]; rfl

/-- A `setValue` that stores its value compares inside the block and returns `true`. -/
theorem setValueCompare_of_fits {ok : Bool} {now : Nat} {v : BLEAttValue} {src : List UInt8}
    (hv : v.Allocated) (hmax : src.length ≤ v.attrMaxLen)
    (hok : ok = true ∨ src.length ≤ v.capacity) : setValueCompare ok now v src = some true := by
  have hlen := @lt_length_append_of_fits ok now { v with attrLen := 0 } src hv (Nat.zero_le _)
    (by simpa using hmax) (by simpa using hok)
  rw [setValueCompare_eq, if_pos (by simp only [setValue]; omega),
    (setValue_of_fits hv hmax hok).2]

/-- A `setValue` that does not store its value compares `len` bytes of the old block, and
reads past it exactly when `len` exceeds it. -/
theorem setValueCompare_of_not_fits {ok : Bool} {now : Nat} {v : BLEAttValue}
    {src : List UInt8} (h : v.attrMaxLen < src.length ∨ (ok = false ∧ v.capacity < src.length)) :
    setValueCompare ok now v src =
      if src.length ≤ (v.attrValue.getD []).length then some false else none := by
  have hblk := @attrValue_append_of_not_fits ok now { v with attrLen := 0 } src
    (by simpa using h)
  rw [setValueCompare_eq, (setValue_of_not_fits h).2]
  simp only [setValue, hblk]

/-- For every valid object: `operator[]` reads the stored byte at a position in
`[0, m_attr_len)` and gives 0 at or past the length, but a negative position is used as an
index before the block. `setValue` compares inside the block when it stores its value; when it
does not, its `memcmp` reads `len` bytes of the old block, past its end whenever `len` exceeds
it. -/
theorem attValue_read_bounds {M : Nat} {v : BLEAttValue} (hv : v.Valid M) :
    (∀ pos : Int, 0 ≤ pos → pos < v.attrLen →
      pos.toNat < v.value.length ∧ v.get pos = v.value[pos.toNat]?) ∧
    (∀ pos : Int, v.attrLen ≤ pos → v.get pos = some 0) ∧
    (∀ pos : Int, pos < 0 → v.get pos = none) ∧
    (∀ (ok : Bool) (now : Nat) (src : List UInt8), src.length ≤ v.attrMaxLen →
      (ok = true ∨ src.length ≤ v.capacity) → setValueCompare ok now v src = some true) ∧
    (∀ (ok : Bool) (now : Nat) (src : List UInt8),
      v.attrMaxLen < src.length ∨ (ok = false ∧ v.capacity < src.length) →
      (setValueCompare ok now v src = none ↔ (v.attrValue.getD []).length < src.length)) := by
  refine ⟨fun pos h0 hl => ⟨?_, get_of_lt h0 hl⟩, fun _ => get_of_le, fun _ => get_of_neg v,
    fun _ _ _ => setValueCompare_of_fits hv.allocated', fun ok now src h => ?_⟩
  · rw [hv.length_value]; exact (Int.toNat_lt h0).2 hl
  · rw [setValueCompare_of_not_fits h]
    split <;> simp_all

/-- `threeOfFour[-1]` reads before the block, and setting six bytes, which the maximum of four
refuses, compares six bytes of its five-byte block. -/
theorem attValue_read_bounds_threeOfFour :
    threeOfFour.Valid 512 ∧ threeOfFour.get (-1) = none ∧
      setValueCompare true 0 threeOfFour [1, 2, 3, 4, 5, 6] = none :=
  have h := attValue_read_bounds (M := 512) (v := threeOfFour) (by decide)
  ⟨by decide, h.2.2.1 (-1) (by decide), (h.2.2.2.2 true 0 _ (.inl (by decide))).2 (by decide)⟩

/-! ## `setValue` with its memory accesses checked

`setValue` clears the length and appends. The `append` writes into the block without a
`realloc` whenever the new length is within `m_capacity`, and `m_capacity` can overstate the
block: a failed constructor `calloc` leaves a null block of capacity `init_len`, and a failed
`realloc` in `append` raises `m_capacity` before the failure is seen. When no `realloc` happens,
a null block makes `append` return without storing, and the `memcmp` of `setValue` then reads
through the null pointer; a block shorter than the claimed capacity makes `memcpy` write past
it.
-/

/-- Whether the bytes `append(value, len)` copies, and the terminator after them, stay inside
the block: nothing is copied, or the block is reallocated to the new length plus one, or the
block it has reaches past them. A null block that is not reallocated is not written. -/
def appendInBounds (v : BLEAttValue) (value : List UInt8) : Bool :=
  value.length = 0 || v.attrLen + value.length > v.attrMaxLen ||
    v.attrLen + value.length > v.capacity ||
    match v.attrValue with
    | none => true
    | some b => v.attrLen + value.length + 1 ≤ b.length

/-- `setValue(value, len)` (`part_004:239`) with the accesses of its `memcpy` and its `memcmp`
checked: the object afterwards and the result, or `none` when the copy writes past the block or
the compare reads past it or through a null block. -/
def setValueChecked (ok : Bool) (now : Nat) (v : BLEAttValue) (value : List UInt8) :
    Option (BLEAttValue × Bool) :=
  if appendInBounds { v with attrLen := 0 } value then
    (setValueCompare ok now v value).map fun r => ((setValue ok now v value).1, r)
  else none

/-- Whether `setValue` of `n` bytes within the maximum, with every `realloc` succeeding, stays
in memory it owns: it copies nothing, or reallocates (`n > m_capacity`), or finds a block with
room for the bytes and their terminator. -/
def setValueSafe (v : BLEAttValue) (n : Nat) : Bool :=
  n = 0 || v.capacity < n ||
    match v.attrValue with
    | none => false
    | some b => n + 1 ≤ b.length

/-- An append onto an empty value that has room stores exactly the bytes, in a block longer
than them. -/
theorem append_zero_of_room {now : Nat} {v : BLEAttValue} {value : List UInt8}
    (hmax : value.length ≤ v.attrMaxLen) (h0 : value.length ≠ 0)
    (hroom : v.capacity < value.length ∨ ∃ b, v.attrValue = some b ∧ value.length + 1 ≤ b.length) :
    (append true now { v with attrLen := 0 } value).attrLen = value.length ∧
      (append true now { v with attrLen := 0 } value).value = value ∧
      value.length <
        ((append true now { v with attrLen := 0 } value).attrValue.getD []).length := by
  unfold append
  rw [if_neg h0, if_neg (by dsimp only; omega)]
  split
  case isTrue hg =>
    rw [if_pos rfl]
    refine ⟨Nat.zero_add _, ?_, ?_⟩
    · rw [value_store (by simp)]; simp
    · rw [length_store (by simp), length_resize]; simp
  case isFalse hg =>
    obtain ⟨b, hb, hlen⟩ := hroom.resolve_left (by dsimp only at hg; omega)
    simp only [hb]
    refine ⟨Nat.zero_add _, ?_, ?_⟩
    · rw [value_store (by dsimp only; omega)]; simp
    · rw [length_store (by dsimp only; omega)]; omega

/-- A `setValue` within the maximum that stays in its memory stores the bytes and returns
`true`. -/
theorem setValueChecked_of_safe {now : Nat} {v : BLEAttValue} {value : List UInt8}
    (hmax : value.length ≤ v.attrMaxLen) (hs : v.setValueSafe value.length = true) :
    ∃ v', setValueChecked true now v value = some (v', true) ∧ v'.value = value := by
  by_cases h0 : value.length = 0
  · obtain rfl := List.length_eq_zero.1 h0
    exact ⟨(setValue true now v []).1,
      by simp [setValueChecked, appendInBounds, setValueCompare, memcmpEq, setValue, append],
      by simp [setValue, append, BLEAttValue.value]⟩
  have hroom : v.capacity < value.length ∨ ∃ b, v.attrValue = some b ∧
      value.length + 1 ≤ b.length := by
    unfold setValueSafe at hs; cases hb : v.attrValue <;> simp_all
  obtain ⟨hl, hval, hlt⟩ := @append_zero_of_room now v value hmax h0 hroom
  have hin : appendInBounds { v with attrLen := 0 } value = true := by
    rcases hroom with h | ⟨b, hb, hlen⟩
    · simp [appendInBounds, h]
    · simp [appendInBounds, hb, hlen]
  refine ⟨_, ?_, hval⟩
  rw [setValueChecked, if_pos hin, setValueCompare, memcmpEq, if_pos hlt.le]
  simp only [Option.map_some', hl, beq_self_eq_true, Bool.and_true]
  congr
  simpa [BLEAttValue.value, hl] using hval

/-- A `setValue` of bytes within the maximum and the capacity, into a null block or one too short
for them, leaves its memory: `none`. -/
theorem setValueChecked_of_unsafe (ok : Bool) (now : Nat) {v : BLEAttValue} {value : List UInt8}
    (hmax : value.length ≤ v.attrMaxLen) (hs : v.setValueSafe value.length = false) :
    setValueChecked ok now v value = none := by
  simp only [setValueSafe, Bool.or_eq_false_iff, decide_eq_false_iff_not, not_lt] at hs
  obtain ⟨⟨h0, hcap⟩, hb⟩ := hs
  unfold setValueChecked
  cases hv : v.attrValue with
  | none =>
    -- no `realloc`: `append` finds the null block and returns; `memcmp` reads through it
    have happ : append ok now { v with attrLen := 0 } value = { v with attrLen := 0 } := by
      unfold append
      rw [if_neg h0, if_neg (by dsimp only; omega), if_neg (by dsimp only; omega)]
      simp only [hv]
    split
    · rw [setValueCompare, happ, memcmpEq,
        if_neg (by simp only [hv, Option.getD_none, List.length_nil, Nat.le_zero]; exact h0)]
      rfl
    · rfl
  | some b =>
    -- no `realloc`: `memcpy` writes past the block
    rw [hv] at hb
    simp only [decide_eq_false_iff_not, not_le] at hb
    rw [if_neg]
    simp only [appendInBounds, hv, Nat.zero_add, h0, Bool.or_eq_true, decide_eq_true_eq,
      false_or]
    omega

/-! ## Runs -/

/-- The objects a program builds with the operations of `part_004`, each allocation free to
fail: the two constructors, both sides of a move assignment, `deepCopy` (copy assignment),
`setValue` and `append`. -/
inductive Built (M : Nat) : BLEAttValue → Prop
  | new (ok : Bool) (initLen maxLen : Nat) : Built M (new ok M initLen maxLen)
  | ofValue (ok : Bool) (value : List UInt8) (maxLen : Nat) : Built M (ofValue ok M value maxLen)
  | moveTarget {src : BLEAttValue} : Built M src → Built M (moveAssign src).1
  | moveSource {src : BLEAttValue} : Built M src → Built M (moveAssign src).2
  | deepCopy {ok : Bool} {dst src v : BLEAttValue} :
      Built M dst → Built M src → deepCopy ok dst src = some v → Built M v
  | setValue {v : BLEAttValue} (ok : Bool) (now : Nat) (value : List UInt8) :
      Built M v → Built M (setValue ok now v value).1
  | append {v : BLEAttValue} (ok : Bool) (now : Nat) (value : List UInt8) :
      Built M v → Built M (append ok now v value)

/-- A failed `calloc` in the default constructor leaves a null block, which no object of
`Valid` has. -/
theorem new_calloc_failure_not_valid :
    Built 512 (new false 512 0 20) ∧ ¬ (new false 512 0 20).Valid 512 :=
  ⟨.new false 0 20, by decide⟩

/-- The runs that avoid the code's slips: the value constructor given at most the maximum,
only the target of a move, `setValue` and `append` whose `realloc` succeeds, and `setValue`
with a value it stores. -/
inductive BuiltSafely (M : Nat) : BLEAttValue → Prop
  | new (ok : Bool) (initLen maxLen : Nat) : BuiltSafely M (new ok M initLen maxLen)
  | ofValue (ok : Bool) (value : List UInt8) (maxLen : Nat) :
      value.length ≤ min M maxLen → BuiltSafely M (ofValue ok M value maxLen)
  | moveTarget {src : BLEAttValue} : BuiltSafely M src → BuiltSafely M (moveAssign src).1
  | deepCopy {ok : Bool} {dst src v : BLEAttValue} :
      BuiltSafely M dst → BuiltSafely M src → deepCopy ok dst src = some v → BuiltSafely M v
  | setValue {v : BLEAttValue} (now : Nat) (value : List UInt8) : BuiltSafely M v →
      value.length ≠ 0 → value.length ≤ v.attrMaxLen → BuiltSafely M (setValue true now v value).1
  | append {v : BLEAttValue} (now : Nat) (value : List UInt8) :
      BuiltSafely M v → BuiltSafely M (append true now v value)

/-- The invariant the code keeps by design: `Valid`, or the null block of length zero that a
failed `calloc` leaves. -/
def Consistent (M : Nat) (v : BLEAttValue) : Prop :=
  v.Valid M ∨ (v.attrValue = none ∧ v.attrLen = 0 ∧ v.attrMaxLen ≤ M)

instance (M : Nat) (v : BLEAttValue) : Decidable (v.Consistent M) :=
  inferInstanceAs (Decidable (_ ∨ _))

theorem consistent_new (ok : Bool) (M initLen maxLen : Nat) :
    (new ok M initLen maxLen).Consistent M := by
  cases ok
  · exact .inr ⟨rfl, rfl, Nat.min_le_left _ _⟩
  · exact .inl ⟨Nat.zero_le _, Nat.min_le_left _ _, Nat.zero_le _, _, rfl, by simp [new],
      by simp [new]⟩

theorem consistent_ofValue (ok : Bool) {M maxLen : Nat} {value : List UInt8}
    (h : value.length ≤ min M maxLen) : (ofValue ok M value maxLen).Consistent M := by
  cases ok
  · exact .inr ⟨rfl, rfl, Nat.min_le_left _ _⟩
  · refine .inl ⟨by simpa [ofValue, new] using h, Nat.min_le_left _ _, le_rfl, _, rfl, ?_, ?_⟩
    · simp [ofValue, new, length_writeAt]
    · simp [ofValue, new, getElem?_writeAt_of_le]

/-- A `store` into a block with room for the new length and its terminator is valid. -/
theorem valid_store {M now : Nat} {v : BLEAttValue} {b value : List UInt8}
    (hM : v.attrMaxLen ≤ M) (hmax : v.attrLen + value.length ≤ v.attrMaxLen)
    (hcap : v.attrLen + value.length ≤ v.capacity) (hb : v.capacity + 1 ≤ b.length) :
    (store now v b value).Valid M := by
  have hw : (writeAt b v.attrLen value).length = b.length := length_writeAt _ _ _ (by omega)
  refine ⟨hmax, hM, hcap, _, rfl, ?_, ?_⟩
  · exact hb.trans_eq ((length_writeAt _ (v.attrLen + value.length) [0]
      (by simp only [List.length_singleton]; omega)).trans hw).symm
  · simpa using getElem?_writeAt_src (writeAt b v.attrLen value)
      (v.attrLen + value.length) [0] (i := 0) (by omega) (by simp)

/-- An `append` that fits the maximum and whose `realloc`, if any, succeeds leaves a valid
object, from any object whose block is null with length zero or has room for its capacity. -/
theorem consistent_append_of_fits {M now : Nat} {v : BLEAttValue} {value : List UInt8}
    (hM : v.attrMaxLen ≤ M) (hblk : v.attrValue = none ∧ v.attrLen = 0 ∨ v.Allocated) (h0 : value.length ≠ 0)
    (hmax : v.attrLen + value.length ≤ v.attrMaxLen) : (append true now v value).Consistent M := by
  unfold append
  rw [if_neg h0, if_neg (by omega)]
  split
  case isTrue hg => exact .inl (valid_store hM hmax le_rfl (by simp))
  case isFalse hg =>
    rcases hblk with ⟨hn, hl⟩ | ⟨b, hb, hc⟩
    · simp only [hn]; exact .inr ⟨hn, hl, hM⟩
    · simp only [hb]; exact .inl (valid_store hM hmax (by omega) hc)

/-- An `append` that fits the maximum, with every allocation succeeding, keeps a valid object
valid. -/
theorem Valid.append {M now : Nat} {v : BLEAttValue} (hv : v.Valid M) {value : List UInt8}
    (hmax : v.attrLen + value.length ≤ v.attrMaxLen) : (append true now v value).Valid M := by
  by_cases h0 : value.length = 0
  · simpa [BLEAttValue.append, h0] using hv
  unfold BLEAttValue.append
  rw [if_neg h0, if_neg (by omega)]
  obtain ⟨b, hb, hc, -⟩ := hv.allocated
  split
  · exact valid_store hv.max_le_limit hmax le_rfl (by simp)
  · simp only [hb]; exact valid_store hv.max_le_limit hmax (by omega) hc

theorem Consistent.append {M now : Nat} {v : BLEAttValue} (hv : v.Consistent M)
    (value : List UInt8) : (append true now v value).Consistent M := by
  by_cases h0 : value.length = 0
  · simpa [BLEAttValue.append, h0] using hv
  by_cases hmax : v.attrLen + value.length ≤ v.attrMaxLen
  · rcases hv with hv | ⟨hn, hl, hM⟩
    · exact consistent_append_of_fits hv.max_le_limit (.inr hv.allocated') h0 hmax
    · exact consistent_append_of_fits hM (.inl ⟨hn, hl⟩) h0 hmax
  · simpa [BLEAttValue.append, h0, Nat.lt_of_not_le hmax] using hv

theorem Consistent.setValue {M now : Nat} {v : BLEAttValue} {value : List UInt8}
    (hv : v.Consistent M) (h0 : value.length ≠ 0) (hmax : value.length ≤ v.attrMaxLen) :
    (setValue true now v value).1.Consistent M := by
  rcases hv with hv | ⟨hn, -, hM⟩
  · exact consistent_append_of_fits hv.max_le_limit (.inr hv.allocated') h0
      (by simpa using hmax)
  · exact consistent_append_of_fits hM (.inl ⟨hn, rfl⟩) h0 (by simpa using hmax)

theorem Consistent.deepCopy {M : Nat} {ok : Bool} {dst src v : BLEAttValue}
    (hd : dst.Consistent M) (hs : src.Consistent M) (h : deepCopy ok dst src = some v) :
    v.Consistent M := by
  cases ok
  · cases h; exact hd
  · simp only [BLEAttValue.deepCopy, if_true, Option.map_eq_some'] at h
    obtain ⟨sb, hsb, rfl⟩ := h
    rcases hs with hs | ⟨hn, -⟩
    · obtain ⟨b, hb, hc, ht⟩ := hs.allocated
      obtain rfl : b = sb := Option.some.inj (hb.symm.trans hsb)
      have hcap := hs.len_le_capacity
      have hlen : (b.take (src.attrLen + 1)).length = src.attrLen + 1 := by simp; omega
      refine .inl ⟨hs.len_le_max, hs.max_le_limit, hcap, _, rfl, ?_, ?_⟩
      · exact ((length_writeAt (resize dst.attrValue (src.capacity + 1)) 0
          (b.take (src.attrLen + 1)) (by rw [hlen, length_resize]; omega)).trans
          (length_resize _ _)).ge
      · simpa [List.getElem?_take, ht] using
          getElem?_writeAt_src (resize dst.attrValue (src.capacity + 1)) 0
            (b.take (src.attrLen + 1)) (i := src.attrLen) (Nat.zero_le _) (by omega)
    · simp [hn] at hsb

theorem consistent_of_builtSafely {M : Nat} {v : BLEAttValue} (h : BuiltSafely M v) :
    v.Consistent M := by
  induction h with
  | new ok initLen maxLen => exact consistent_new ok M initLen maxLen
  | ofValue ok value maxLen hle => exact consistent_ofValue ok hle
  | moveTarget _ ih => exact ih
  | deepCopy _ _ h ihd ihs => exact ihd.deepCopy ihs h
  | setValue now value _ h0 hmax ih => exact ih.setValue h0 hmax
  | append now value _ ih => exact ih.append value

/-- A value of capacity four set to two bytes, then appended three more, which makes it grow. -/
theorem builtSafely_append_consistent :
    BuiltSafely 512 (append true 0 (setValue true 0 (new true 512 4 20) [1, 2]).1 [3, 4, 5]) ∧
      (append true 0 (setValue true 0 (new true 512 4 20) [1, 2]).1 [3, 4, 5]).Consistent 512 :=
  have h : BuiltSafely 512 (append true 0 (setValue true 0 (new true 512 4 20) [1, 2]).1
      [3, 4, 5]) :=
    .append 0 [3, 4, 5] (.setValue 0 [1, 2] (.new true 4 20) (by decide) (by decide))
  ⟨h, consistent_of_builtSafely h⟩

end BLEAttValue

end BleGatt
