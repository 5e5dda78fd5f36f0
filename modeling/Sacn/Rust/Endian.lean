import Mathlib.Data.List.Induction
import Mathlib.Tactic.Ring
import Sacn.Rust.Slice

/-!
# Network byte order

The big-endian numerals of the `byteorder` crate (`NetworkEndian`): `read_u16`, `read_uint`,
`write_u16`, `write_u32` and `write_u16_into`. Each reads or writes the first bytes of its slice
and panics when the slice is too short (`write_u16_into`: when it is not exactly twice as long).

* `beNat_beBytes`: writing a number in `k` bytes and reading it back is the number modulo `256 ^ k`.
-/

namespace Rust

open Outcome

variable {ε : Type}

/-- The number a big-endian byte string denotes. -/
def beNat (bs : List UInt8) : Nat :=
  bs.foldl (fun n b => n * 256 + b.toNat) 0

/-- The low `k` bytes of `n`, most significant first. -/
def beBytes : Nat → Nat → List UInt8
  | 0, _ => []
  | k + 1, n => beBytes k (n / 256) ++ [UInt8.ofNat n]

@[simp] theorem beNat_nil : beNat [] = 0 := rfl

theorem beNat_snoc (bs : List UInt8) (b : UInt8) :
    beNat (bs ++ [b]) = beNat bs * 256 + b.toNat := by
  unfold beNat
  rw [List.foldl_append]
  rfl

@[simp] theorem length_beBytes : ∀ k n : Nat, (beBytes k n).length = k
  | 0, _ => rfl
  | k + 1, n => by simp [beBytes, length_beBytes k]

/-- **Reading after a write**, modulo what `k` bytes can hold. -/
theorem beNat_beBytes : ∀ k n : Nat, beNat (beBytes k n) = n % 256 ^ k
  | 0, n => by simp [beBytes, Nat.mod_one]
  | k + 1, n => by
    have h256 : (UInt8.ofNat n).toNat = n % 256 := UInt8.toNat_ofNat'
    rw [beBytes, beNat_snoc, beNat_beBytes k, h256, pow_succ, mul_comm (256 ^ k) 256,
      Nat.mod_mul]
    ring

/-! ## The reads and writes of `NetworkEndian` -/

/-- `NetworkEndian::read_u16`. -/
def readU16 (buf : List UInt8) : Outcome ε UInt16 :=
  if 2 ≤ buf.length then .ok (UInt16.ofNat (beNat (buf.take 2))) else .panic

/-- `NetworkEndian::read_u16(&buf[i..j])`. -/
def readU16In (buf : List UInt8) (i j : Nat) : Outcome ε UInt16 :=
  slice buf i j >>= readU16

/-- `NetworkEndian::read_uint`. -/
def readUint (buf : List UInt8) (nbytes : Nat) : Outcome ε UInt64 :=
  if (1 ≤ nbytes ∧ nbytes ≤ 8) ∧ nbytes ≤ buf.length then
    .ok (UInt64.ofNat (beNat (buf.take nbytes)))
  else .panic

/-- `NetworkEndian::write_u16`. -/
def writeU16 (n : UInt16) (buf : List UInt8) : Outcome ε (List UInt8) :=
  if 2 ≤ buf.length then .ok (beBytes 2 n.toNat ++ buf.drop 2) else .panic

/-- `NetworkEndian::write_u32`. -/
def writeU32 (n : UInt32) (buf : List UInt8) : Outcome ε (List UInt8) :=
  if 4 ≤ buf.length then .ok (beBytes 4 n.toNat ++ buf.drop 4) else .panic

/-- `NetworkEndian::write_u16_into`. -/
def writeU16Into (src : List UInt16) (dst : List UInt8) : Outcome ε (List UInt8) :=
  if dst.length = 2 * src.length then .ok (src.flatMap fun n => beBytes 2 n.toNat) else .panic

/-! ## Fields: the total reads -/

/-- The byte of `buf` at `i`. -/
def byteAt (buf : List UInt8) (i : Nat) : UInt8 := buf.getD i 0

/-- The big-endian 16-bit field of `buf` at `i`. -/
def u16At (buf : List UInt8) (i : Nat) : UInt16 :=
  UInt16.ofNat (beNat (buf.extract i (i + 2)))

/-- The `n` 16-bit fields of `buf` from `i` on. -/
def wordsAt (buf : List UInt8) (i n : Nat) : List UInt16 :=
  (List.range n).map fun k => u16At buf (i + 2 * k)

theorem index_eq_ok_iff {buf : List UInt8} {i : Nat} {b : UInt8} :
    (index buf i : Outcome ε _) = .ok b ↔ i < buf.length ∧ byteAt buf i = b := by
  rw [index_eq_ok, List.getElem?_eq_some_iff, byteAt]
  constructor
  · rintro ⟨h, rfl⟩
    exact ⟨h, by simp [h]⟩
  · rintro ⟨h, rfl⟩
    exact ⟨h, by simp [h]⟩

/-- Reading a two-byte field through a slice of its two bytes. -/
theorem readU16In_ok {buf : List UInt8} {i j : Nat} (hj : j = i + 2) (h : j ≤ buf.length) :
    (readU16In buf i j : Outcome ε _) = .ok (u16At buf i) := by
  subst hj
  have hlen : (buf.extract i (i + 2)).length = 2 := by
    rw [length_extract_of_le h]
    omega
  unfold readU16In
  rw [slice_ok (by omega) h, ok_bind]
  unfold readU16 u16At
  rw [if_pos (by omega), List.take_of_length_le (by omega)]

theorem readU16In_panic {buf : List UInt8} {i j : Nat} (h : buf.length < j) :
    (readU16In buf i j : Outcome ε _) = .panic := by
  have hp : (slice buf i j : Outcome ε _) = .panic := slice_eq_panic.mpr (by omega)
  unfold readU16In
  rw [hp]
  rfl

theorem readU16In_eq_ok {buf : List UInt8} {i j : Nat} {v : UInt16} (hj : j = i + 2) :
    (readU16In buf i j : Outcome ε _) = .ok v ↔ j ≤ buf.length ∧ u16At buf i = v := by
  by_cases h : j ≤ buf.length
  · rw [readU16In_ok hj h]
    simp [h]
  · rw [readU16In_panic (by omega)]
    simp [h]

theorem readU16In_eq_panic {buf : List UInt8} {i j : Nat} (hj : j = i + 2) :
    (readU16In buf i j : Outcome ε _) = .panic ↔ buf.length < j := by
  by_cases h : j ≤ buf.length
  · rw [readU16In_ok hj h]
    simp [h]
  · rw [readU16In_panic (by omega)]
    simpa using h

theorem byteAt_append_left {w r : List UInt8} {i : Nat} (h : i < w.length) :
    byteAt (w ++ r) i = byteAt w i := by
  simp [byteAt, List.getElem?_append_left h]

theorem byteAt_append_right {w r : List UInt8} {i : Nat} (h : w.length ≤ i) :
    byteAt (w ++ r) i = byteAt r (i - w.length) := by
  simp [byteAt, List.getElem?_append_right h]

theorem u16At_append_left {w r : List UInt8} {i : Nat} (h : i + 2 ≤ w.length) :
    u16At (w ++ r) i = u16At w i := by
  unfold u16At
  rw [extract_append_left h]

theorem u16At_append_right {w r : List UInt8} {i : Nat} (h : w.length ≤ i) :
    u16At (w ++ r) i = u16At r (i - w.length) := by
  unfold u16At
  rw [extract_append_right h]
  congr 3
  omega

/-- A 16-bit field reads back what was written there. -/
theorem u16At_beBytes (n : UInt16) (r : List UInt8) : u16At (beBytes 2 n.toNat ++ r) 0 = n := by
  rw [u16At_append_left (by simp)]
  unfold u16At
  have h := extract_zero_length (beBytes 2 n.toNat)
  rw [length_beBytes] at h
  rw [Nat.zero_add, h, beNat_beBytes, Nat.mod_eq_of_lt (by simpa using n.toNat_lt), UInt16.ofNat_toNat]

@[simp] theorem length_wordsAt (buf : List UInt8) (i n : Nat) : (wordsAt buf i n).length = n := by
  unfold wordsAt
  rw [List.length_map, List.length_range]

theorem wordsAt_cons (buf : List UInt8) (i n : Nat) :
    wordsAt buf i (n + 1) = u16At buf i :: wordsAt buf (i + 2) n := by
  simp only [wordsAt, List.range_succ_eq_map, List.map_cons, List.map_map]
  congr 1
  refine List.map_congr_left fun k _ => ?_
  simp only [Function.comp]
  congr 1
  omega

theorem wordsAt_append_right {w r : List UInt8} {i n : Nat} (h : w.length ≤ i) :
    wordsAt (w ++ r) i n = wordsAt r (i - w.length) n := by
  refine List.map_congr_left fun k _ => ?_
  rw [u16At_append_right (by omega)]
  congr 1
  omega

/-! ## Writes of a whole field -/

theorem writeU16_ok {n : UInt16} {buf : List UInt8} (h : buf.length = 2) :
    (writeU16 n buf : Outcome ε _) = .ok (beBytes 2 n.toNat) := by
  unfold writeU16
  rw [if_pos (by omega), List.drop_eq_nil_of_le (by omega), List.append_nil]

theorem writeU32_ok {n : UInt32} {buf : List UInt8} (h : buf.length = 4) :
    (writeU32 n buf : Outcome ε _) = .ok (beBytes 4 n.toNat) := by
  unfold writeU32
  rw [if_pos (by omega), List.drop_eq_nil_of_le (by omega), List.append_nil]

theorem writeU16Into_ok {src : List UInt16} {dst : List UInt8}
    (h : dst.length = 2 * src.length) :
    (writeU16Into src dst : Outcome ε _) = .ok (src.flatMap fun n => beBytes 2 n.toNat) :=
  if_pos h

end Rust
