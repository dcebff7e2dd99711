import Mathlib.Algebra.Group.Int
import Mathlib.Algebra.Group.Nat.Basic
import Mathlib.Data.List.Basic

/-!
# `BLEAddress`, its string and integer forms

A `BLEAddress` (`BLEAddress.cpp`) is a `ble_addr_t`: a type and the six bytes of `val`, least
significant first. `operator std::string` prints them most significant first, each with
`%02x` (`%02X` with `CONFIG_NIMBLE_CPP_ADDR_FMT_UPPERCASE`), separated by `:` unless
`CONFIG_NIMBLE_CPP_ADDR_FMT_EXCLUDE_DELIMITER` is set. The string constructor takes six
characters as raw bytes, or the seventeen-character form with colons, which it reads with
`std::stoull(mac, nullptr, 16)` and copies into `val`; any other length gives the null address.
`operator uint64_t` and the `uint64_t` constructor copy the six bytes to and from the low bytes
of a `uint64_t` (the target is little-endian).

The integer forms round-trip for every address and every value below `2^48`, and the string
form does with the delimiter, in either case (`address_round_trips`). Without the delimiter the
formatter prints twelve characters, which the constructor turns into the null address
(`ofString_toString_undelimited`).
-/

namespace BleGatt

/-- `BLE_DEV_ADDR_LEN`. -/
def BLE_DEV_ADDR_LEN : Nat := 6

/-- A `BLEAddress`: the `type` of its `ble_addr_t` and the six bytes of `val`, least
significant first. -/
structure BLEAddress where
  type : UInt8
  val : List UInt8
  val_length : val.length = BLE_DEV_ADDR_LEN
deriving DecidableEq

namespace BLEAddress

theorem ext {a b : BLEAddress} (ht : a.type = b.type) (hv : a.val = b.val) : a = b := by
  cases a; cases b; simp_all

/-- `BLEAddress{}`: type 0 and six zero bytes. -/
def null : BLEAddress := ⟨0, List.replicate 6 0, rfl⟩

/-- `operator==` (`BLEAddress.cpp:202`), which `equals` calls: the types, then the six bytes
with `memcmp`. -/
def equals (a rhs : BLEAddress) : Bool := a.type == rhs.type && rhs.val == a.val

theorem equals_iff {a b : BLEAddress} : a.equals b = true ↔ a = b := by
  simp only [equals, Bool.and_eq_true, beq_iff_eq]
  exact ⟨fun h => ext h.1 h.2.symm, fun h => h ▸ ⟨rfl, rfl⟩⟩

/-- `isNull` (`BLEAddress.cpp:177`): the address equals `BLEAddress{}`. -/
def isNull (a : BLEAddress) : Bool := a.equals null

/-! ## The `uint64_t` form -/

/-- The `n` low bytes of `x`, least significant first: what `memcpy` copies out of a `uint64_t`
on a little-endian target. -/
def leBytes : Nat → Nat → List UInt8
  | 0, _ => []
  | n + 1, x => UInt8.ofNat x :: leBytes n (x / 256)

/-- The value of bytes stored least significant first, as `memcpy` into a zeroed `uint64_t`
gives it. -/
def leValue (bs : List UInt8) : Nat := bs.foldr (fun b acc => b.toNat + 256 * acc) 0

@[simp] theorem length_leBytes : ∀ (n x : Nat), (leBytes n x).length = n
  | 0, _ => rfl
  | n + 1, x => by simp [leBytes, length_leBytes n]

/-- `BLEAddress(const uint64_t &address, uint8_t type)` (`BLEAddress.cpp:100`). -/
def ofUInt64 (address : UInt64) (type : UInt8) : BLEAddress :=
  ⟨type, leBytes 6 address.toNat, length_leBytes _ _⟩

/-- `operator uint64_t` (`BLEAddress.cpp:233`). -/
def toUInt64 (a : BLEAddress) : UInt64 := UInt64.ofNat (leValue a.val)

theorem toNat_uInt8_ofNat (n : Nat) : (UInt8.ofNat n).toNat = n % 256 := by
  simp [UInt8.toNat, UInt8.ofNat]

theorem leValue_leBytes : ∀ (n x : Nat), leValue (leBytes n x) = x % 256 ^ n
  | 0, x => by simp [leBytes, leValue, Nat.mod_one]
  | n + 1, x => by
    have ih := leValue_leBytes n (x / 256)
    simp only [leValue, leBytes, List.foldr_cons] at ih ⊢
    rw [ih, toNat_uInt8_ofNat, Nat.pow_succ', Nat.mod_mul]

theorem leBytes_leValue : ∀ bs : List UInt8, leBytes bs.length (leValue bs) = bs
  | [] => rfl
  | b :: bs => by
    have hb : b.toNat < 256 := UInt8.toNat_lt_size b
    have ih := leBytes_leValue bs
    simp only [leValue, List.foldr_cons] at ih ⊢
    simp only [List.length_cons, leBytes, List.cons.injEq]
    refine ⟨UInt8.toNat.inj ?_, ?_⟩
    · rw [toNat_uInt8_ofNat]; omega
    · rw [show (b.toNat + 256 * bs.foldr (fun b acc => b.toNat + 256 * acc) 0) / 256 =
        bs.foldr (fun b acc => b.toNat + 256 * acc) 0 by omega]
      exact ih

theorem leValue_lt : ∀ bs : List UInt8, leValue bs < 256 ^ bs.length
  | [] => by simp [leValue]
  | b :: bs => by
    have hb : b.toNat < 256 := UInt8.toNat_lt_size b
    have ih := leValue_lt bs
    simp only [leValue, List.foldr_cons, List.length_cons, Nat.pow_succ'] at ih ⊢
    omega

theorem leValue_val_lt (a : BLEAddress) : leValue a.val < 2 ^ 48 := by
  have h := leValue_lt a.val
  rwa [a.val_length] at h

/-- The `uint64_t` of an address, read back into an address of its type, is the address. -/
theorem ofUInt64_toUInt64 (a : BLEAddress) : ofUInt64 a.toUInt64 a.type = a := by
  have h := leValue_val_lt a
  refine ext rfl ?_
  simp only [ofUInt64, toUInt64, UInt64.toNat_ofNat_of_lt (show leValue a.val < UInt64.size by
    simp [UInt64.size]; omega)]
  have := leBytes_leValue a.val
  rwa [a.val_length] at this

/-- A value below `2^48` is read back from the address made of it. -/
theorem toUInt64_ofUInt64 (x : UInt64) (type : UInt8) (hx : x.toNat < 2 ^ 48) :
    (ofUInt64 x type).toUInt64 = x := by
  refine UInt64.toNat.inj ?_
  simp only [toUInt64, ofUInt64, leValue_leBytes]
  rw [UInt64.toNat_ofNat_of_lt (by simp [UInt64.size]; omega)]
  exact Nat.mod_eq_of_lt (by simpa using hx)

/-! ## The string form -/

/-- The build options of the formatter. -/
structure AddrFmt where
  /-- `CONFIG_NIMBLE_CPP_ADDR_FMT_EXCLUDE_DELIMITER`. -/
  excludeDelimiter : Bool
  /-- `CONFIG_NIMBLE_CPP_ADDR_FMT_UPPERCASE`. -/
  uppercase : Bool

/-- The digit `%x` prints for `d < 16`, or `%X` when `upper`. -/
def hexDigit (upper : Bool) (d : Nat) : Char :=
  Char.ofNat (if d < 10 then 0x30 + d else (if upper then 0x41 else 0x61) + (d - 10))

/-- `%02x` of a byte, or `%02X` when `upper`. -/
def hex02 (upper : Bool) (b : UInt8) : List Char :=
  [hexDigit upper (b.toNat / 16), hexDigit upper (b.toNat % 16)]

/-- `operator std::string` (`BLEAddress.cpp:222`): `snprintf` of `NIMBLE_CPP_ADDR_FMT` with
`val[5]` down to `val[0]` and `NIMBLE_CPP_ADDR_DELIMITER` between them. -/
def toString (cfg : AddrFmt) (a : BLEAddress) : List Char :=
  let d := if cfg.excludeDelimiter then [] else [':']
  let x (i : Nat) := hex02 cfg.uppercase (a.val.getD i 0)
  x 5 ++ d ++ x 4 ++ d ++ x 3 ++ d ++ x 2 ++ d ++ x 1 ++ d ++ x 0

/-- The value of a hexadecimal digit of either case. -/
def hexValue (c : Char) : Option Nat :=
  if '0' ≤ c ∧ c ≤ '9' then some (c.toNat - '0'.toNat)
  else if 'a' ≤ c ∧ c ≤ 'f' then some (c.toNat - 'a'.toNat + 10)
  else if 'A' ≤ c ∧ c ≤ 'F' then some (c.toNat - 'A'.toNat + 10)
  else none

/-- The value of the leading hexadecimal digits of a string, after the value `acc` of those
already read; `none` when there is no digit at all (`seen` records one). -/
def readHex (acc : Nat) (seen : Bool) : List Char → Option Nat
  | [] => if seen then some acc else none
  | c :: cs =>
    match hexValue c with
    | some d => readHex (16 * acc + d) true cs
    | none => if seen then some acc else none

/-- `std::stoull(s, nullptr, 16)`: the value of the leading digits, and `none` for the
exceptions it throws, `std::invalid_argument` without a digit and `std::out_of_range` past
`2^64 - 1`. The leading blanks, sign and `0x` it also accepts are not modelled. -/
def stoull (s : List Char) : Option Nat :=
  (readHex 0 false s).bind fun v => if v < 2 ^ 64 then some v else none

/-- `BLEAddress(const std::string &addr, uint8_t type)` (`BLEAddress.cpp:63`): six characters
are copied as bytes in reverse order; seventeen are read as hexadecimal once the colons are
removed, and copied from the `uint64_t`; any other length gives `BLEAddress{}`. `none` when
`std::stoull` throws. -/
def ofString (addr : List Char) (type : UInt8) : Option BLEAddress :=
  if h : addr.length = BLE_DEV_ADDR_LEN then
    some ⟨type, addr.reverse.map fun c => UInt8.ofNat c.toNat, by simp [h]⟩
  else if addr.length = 17 then
    (stoull (addr.filter (· != ':'))).map fun address => ofUInt64 (UInt64.ofNat address) type
  else some null

theorem hexValue_hexDigit (upper : Bool) : ∀ d, d < 16 → hexValue (hexDigit upper d) = some d := by
  cases upper <;> decide

theorem hexDigit_ne_colon (upper : Bool) : ∀ d, d < 16 → (hexDigit upper d != ':') = true := by
  cases upper <;> decide

/-- The two digits of a byte add the byte to the value read. -/
theorem readHex_hex02 (upper : Bool) (acc : Nat) (seen : Bool) (b : UInt8) (rest : List Char) :
    readHex acc seen (hex02 upper b ++ rest) = readHex (b.toNat + 256 * acc) true rest := by
  have hb : b.toNat < 256 := UInt8.toNat_lt_size b
  simp only [hex02, List.cons_append, List.nil_append, readHex,
    hexValue_hexDigit upper _ (show b.toNat / 16 < 16 by omega),
    hexValue_hexDigit upper _ (show b.toNat % 16 < 16 by omega)]
  congr 1
  omega

@[simp] theorem length_hex02 (upper : Bool) (b : UInt8) : (hex02 upper b).length = 2 := rfl

theorem filter_hex02 (upper : Bool) (b : UInt8) :
    (hex02 upper b).filter (· != ':') = hex02 upper b := by
  have hb : b.toNat < 256 := UInt8.toNat_lt_size b
  simp [hex02, hexDigit_ne_colon upper _ (show b.toNat / 16 < 16 by omega),
    hexDigit_ne_colon upper _ (show b.toNat % 16 < 16 by omega)]

/-- With the delimiter the string has seventeen characters, and without its colons it is the
digits of `val[5]` down to `val[0]`. -/
theorem toString_delimited (upper : Bool) (a : BLEAddress) :
    (a.toString ⟨false, upper⟩).length = 17 ∧
      (a.toString ⟨false, upper⟩).filter (· != ':') = a.val.reverse.flatMap (hex02 upper) := by
  obtain ⟨type, val, hval⟩ := a
  match val, hval with
  | [v0, v1, v2, v3, v4, v5], _ =>
    simp [toString, List.filter_append, filter_hex02]

/-- The digits of bytes, most significant first, are read as their value. -/
theorem readHex_flatMap (upper : Bool) :
    ∀ (bs : List UInt8) (acc : Nat), readHex acc true (bs.flatMap (hex02 upper)) =
      some (bs.foldl (fun acc b => b.toNat + 256 * acc) acc)
  | [], _ => rfl
  | b :: bs, acc => by
    rw [List.flatMap_cons, readHex_hex02, readHex_flatMap upper bs, List.foldl_cons]

/-- The same from the first digit on, before any digit was seen. -/
theorem readHex_flatMap_of_ne_nil (upper : Bool) (acc : Nat) (seen : Bool) :
    ∀ bs : List UInt8, bs ≠ [] → readHex acc seen (bs.flatMap (hex02 upper)) =
      some (bs.foldl (fun acc b => b.toNat + 256 * acc) acc)
  | b :: bs, _ => by
    rw [List.flatMap_cons, readHex_hex02, readHex_flatMap, List.foldl_cons]

/-- With the delimiter, the string of an address is read back as the address. -/
theorem ofString_toString (upper : Bool) (a : BLEAddress) :
    ofString (a.toString ⟨false, upper⟩) a.type = some a := by
  obtain ⟨hlen, hfilter⟩ := toString_delimited upper a
  have hne : a.val.reverse ≠ [] := by
    simp [← List.length_pos, a.val_length, BLE_DEV_ADDR_LEN]
  have hval : leValue a.val < 2 ^ 64 := by have := leValue_val_lt a; omega
  unfold leValue at hval
  rw [ofString, dif_neg (by rw [hlen]; decide), if_pos hlen, hfilter, stoull,
    readHex_flatMap_of_ne_nil upper 0 false _ hne, List.foldl_reverse, Option.some_bind,
    if_pos hval, Option.map_some']
  exact congrArg some (ofUInt64_toUInt64 a)

/-- Without the delimiter the string has twelve characters, which the constructor does not
read: it gives the null address. -/
theorem ofString_toString_undelimited (upper : Bool) (a : BLEAddress) (type : UInt8) :
    ofString (a.toString ⟨true, upper⟩) type = some null := by
  have hlen : (a.toString ⟨true, upper⟩).length = 12 := by
    obtain ⟨_, val, hval⟩ := a
    match val, hval with
    | [_, _, _, _, _, _], _ => simp [toString, hex02]
  rw [ofString, dif_neg (by rw [hlen]; decide), if_neg (by rw [hlen]; decide)]

/-- With the delimiter, in either case, an address is read back from its string; it is read
back from its `uint64_t`; and a value below `2^48` is read back from the address made of it. -/
theorem address_round_trips :
    (∀ (upper : Bool) (a : BLEAddress),
      ((ofString (a.toString ⟨false, upper⟩) a.type).map fun b => b.equals a) = some true) ∧
    (∀ a : BLEAddress, (ofUInt64 a.toUInt64 a.type).equals a = true) ∧
    (∀ (x : UInt64) (t : UInt8), x.toNat < 2 ^ 48 → (ofUInt64 x t).toUInt64 = x) :=
  ⟨fun upper a => by rw [ofString_toString, Option.map_some', equals_iff.2 rfl],
    fun a => equals_iff.2 (ofUInt64_toUInt64 a), toUInt64_ofUInt64⟩

/-- `a4:c1:38:5d:ef:16` (`BLEAddress.cpp:94`). -/
def sampleAddress : BLEAddress := ⟨0, [0x16, 0xef, 0x5d, 0x38, 0xc1, 0xa4], rfl⟩

/-- `0xa4c1385def16` is read back from the address made of it. -/
theorem address_round_trips_sample :
    (UInt64.toNat 0xa4c1385def16 < 2 ^ 48) ∧
      (ofUInt64 0xa4c1385def16 0).toUInt64 = 0xa4c1385def16 :=
  ⟨by decide, address_round_trips.2.2 0xa4c1385def16 0 (by decide)⟩

/-- With `CONFIG_NIMBLE_CPP_ADDR_FMT_EXCLUDE_DELIMITER` the sample address prints as
`a4c1385def16`, which the constructor reads as the null address, not as the address. -/
theorem sampleAddress_undelimited_not_read_back :
    sampleAddress.toString ⟨true, false⟩ = "a4c1385def16".toList ∧
      ((ofString (sampleAddress.toString ⟨true, false⟩) sampleAddress.type).map
        fun b => b.equals sampleAddress) = some false := by
  refine ⟨by decide, ?_⟩
  rw [ofString_toString_undelimited]
  decide

end BLEAddress

end BleGatt
