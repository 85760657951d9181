import Mathlib.Algebra.Group.Nat.Defs
import Mathlib.Data.List.Basic

/-!
# The Avro binary encoding: numbers and strings

Variable-length numbers, zigzag longs and length-prefixed UTF-8. A reader takes what it
needs from the front of the bytes and leaves the rest; each is shown to undo its writer in
front of any rest.
-/

namespace Tikblog.Avro

abbrev Bytes := List UInt8

/-- Variable-length bytes of a number below `2 ^ (7 * groups)`, low group first. -/
def varint : Nat → Nat → Bytes
  | 0, _ => []
  | groups + 1, n => if n < 128 then [n.toUInt8] else (n % 128 + 128).toUInt8 :: varint groups (n / 128)

def readVarint : Bytes → Option (Nat × Bytes)
  | [] => none
  | byte :: bytes =>
    if byte.toNat < 128 then some (byte.toNat, bytes)
    else (readVarint bytes).map fun (high, rest) => (byte.toNat - 128 + 128 * high, rest)

theorem readVarint_varint {groups n : Nat} (rest : Bytes) (fits : n < 2 ^ (7 * (groups + 1))) :
    readVarint (varint (groups + 1) n ++ rest) = some (n, rest) := by
  induction groups generalizing n with
  | zero =>
    have small : n < 128 := by simpa using fits
    have byte : n.toUInt8.toNat = n := by
      rw [Nat.toUInt8_eq, UInt8.toNat_ofNat']
      omega
    rw [varint, if_pos small, List.singleton_append, readVarint, byte, if_pos small]
  | succ groups ih =>
    by_cases small : n < 128
    · have byte : n.toUInt8.toNat = n := by
        rw [Nat.toUInt8_eq, UInt8.toNat_ofNat']
        omega
      rw [varint, if_pos small, List.singleton_append, readVarint, byte, if_pos small]
    · have byte : (n % 128 + 128).toUInt8.toNat = n % 128 + 128 := by
        rw [Nat.toUInt8_eq, UInt8.toNat_ofNat']
        omega
      have high : n / 128 < 2 ^ (7 * (groups + 1)) := by
        rw [Nat.div_lt_iff_lt_mul (by decide)]
        rwa [show 7 * (groups + 1 + 1) = 7 * (groups + 1) + 7 by omega, Nat.pow_add] at fits
      rw [varint, if_neg small, List.cons_append, readVarint, byte, if_neg (by omega), ih high]
      simp only [Option.map_some, Option.some.injEq, Prod.mk.injEq, and_true]
      omega

/-- Small magnitudes of either sign become small numbers. -/
def zigzag (n : Int) : Nat := (if 0 ≤ n then 2 * n else -2 * n - 1).toNat

def unzigzag (n : Nat) : Int := if n % 2 = 0 then n / 2 else -((n + 1) / 2)

@[simp] theorem unzigzag_zigzag (n : Int) : unzigzag (zigzag n) = n := by
  unfold zigzag unzigzag
  split <;> split <;> omega

/-- A `long`, in as many groups as it takes. -/
def long (n : Int) : Bytes := varint ((zigzag n).log2 / 7 + 1) (zigzag n)

def readLong (bytes : Bytes) : Option (Int × Bytes) :=
  (readVarint bytes).map fun (n, rest) => (unzigzag n, rest)

@[simp] theorem readLong_long (n : Int) (rest : Bytes) : readLong (long n ++ rest) = some (n, rest) := by
  have fits : zigzag n < 2 ^ (7 * ((zigzag n).log2 / 7 + 1)) := by
    calc zigzag n < 2 ^ ((zigzag n).log2 + 1) := Nat.lt_log2_self
      _ ≤ 2 ^ (7 * ((zigzag n).log2 / 7 + 1)) := Nat.pow_le_pow_right (by decide) (by omega)
  simp only [readLong, long, readVarint_varint rest fits, Option.map_some, unzigzag_zigzag]

def utf8 (s : String) : Bytes := s.toUTF8.data.toList

def ofUtf8 (bytes : Bytes) : Option String := String.fromUTF8? ⟨bytes.toArray⟩

@[simp] theorem ofUtf8_utf8 (s : String) : ofUtf8 (utf8 s) = some s := by
  have bytes : (⟨(utf8 s).toArray⟩ : ByteArray) = s.toUTF8 := by
    rw [utf8, Array.toArray_toList]
  rw [ofUtf8, bytes]
  exact dif_pos s.isValidUTF8

/-- A `string`: its length in bytes, then UTF-8. -/
def string (s : String) : Bytes := long (utf8 s).length ++ utf8 s

def readString (bytes : Bytes) : Option (String × Bytes) :=
  match readLong bytes with
  | some (.ofNat length, rest) =>
    if length ≤ rest.length then (ofUtf8 (rest.take length)).map fun s => (s, rest.drop length) else none
  | _ => none

@[simp] theorem readString_string (s : String) (rest : Bytes) :
    readString (string s ++ rest) = some (s, rest) := by
  unfold readString string
  rw [List.append_assoc, readLong_long]
  simp only
  rw [if_pos (by simp), List.take_left, List.drop_left, ofUtf8_utf8, Option.map_some]

example : long (-1) = [1] ∧ long 300 = [216, 4] ∧ readLong [216, 4, 7] = some (300, [7]) := by decide

end Tikblog.Avro
