import Mathlib.Tactic.Common

/-!
# Strings and their UTF-8 bytes

A Rust `str` is a byte string that is valid UTF-8, which is how Lean's `String` is built too:
`strBytes` is `str::as_bytes`, and `fromUtf8` is `str::from_utf8`, `none` on invalid UTF-8. The two
are inverse to each other (`fromUtf8_eq_some`).
-/

namespace Rust

/-- `str::as_bytes`. -/
def strBytes (s : String) : List UInt8 := s.toByteArray.data.toList

/-- `str::from_utf8`. -/
def fromUtf8 (bs : List UInt8) : Option String := String.fromUTF8? ⟨bs.toArray⟩

/-- **Decoding inverts encoding**, and nothing else decodes. -/
theorem fromUtf8_eq_some {bs : List UInt8} {s : String} :
    fromUtf8 bs = some s ↔ strBytes s = bs := by
  unfold fromUtf8 strBytes String.fromUTF8?
  constructor
  · intro h
    split at h
    · rw [← Option.some.inj h]
      rfl
    · exact absurd h (by simp)
  · rintro rfl
    rw [dif_pos s.isValidUTF8]
    rfl

@[simp] theorem fromUtf8_strBytes (s : String) : fromUtf8 (strBytes s) = some s :=
  fromUtf8_eq_some.mpr rfl

end Rust
