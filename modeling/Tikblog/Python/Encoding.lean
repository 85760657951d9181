import Tikblog.Python.Runtime

/-!
# Encoding and decoding

`str.encode` of any `str`, which fails on what the codec has no bytes for, and the UTF-8
codecs that undo it: `utf-8`, and `utf-8-sig` as a stream is decoded with it.
-/

namespace Tikblog.Python

/-! ## Encoding -/

def CodePoint.toNat : CodePoint → Nat
  | .char c => c.toNat
  | .surrogate n => 0xD800 + n

def CodePoint.toChar? : CodePoint → Option Char
  | .char c => some c
  | .surrogate _ => none

/-- `f"{n:0{width}x}"`. -/
def hexPad (width n : Nat) : String :=
  let digits := Nat.toDigits 16 n
  String.ofList (List.replicate (width - digits.length) '0' ++ digits)

/-- A code point as the text of a `UnicodeEncodeError` shows it. -/
def CodePoint.escaped (c : CodePoint) : String :=
  if c.toNat ≤ 0xFF then "\\x" ++ hexPad 2 c.toNat
  else if c.toNat ≤ 0xFFFF then "\\u" ++ hexPad 4 c.toNat
  else "\\U" ++ hexPad 8 c.toNat

/-- The text of the `UnicodeEncodeError` for the first run of what the codec cannot encode. -/
def encodeErrorText (codec reason : String) (encodable : CodePoint → Bool) (s : PyStr) : String :=
  let start := (s.takeWhile encodable).length
  let run := (s.drop start).takeWhile fun c => !encodable c
  "'" ++ codec ++ "' codec can't encode character" ++
    (match run with
    | [c] => " '" ++ c.escaped ++ "' in position " ++ toString start
    | _ => "s in position " ++ toString start ++ "-" ++ toString (start + run.length - 1)) ++
    ": " ++ reason

/-- There is no surrogate in the string. -/
def PyStr.HasUtf8 (s : PyStr) : Prop := ∀ c ∈ s, c.toChar?.isSome = true

instance (s : PyStr) : Decidable s.HasUtf8 := inferInstanceAs (Decidable (∀ c ∈ s, _))

/-- `s.encode()`. -/
def PyStr.encode (s : PyStr) : Except PyException Bytes :=
  if s.HasUtf8 then .ok (Python.encode (String.ofList (s.filterMap CodePoint.toChar?)))
  else .error (.unicodeEncodeError
    (encodeErrorText "utf-8" "surrogates not allowed" (fun c => c.toChar?.isSome) s))

theorem PyStr.encode_ok_iff {s : PyStr} : (∃ bytes, PyStr.encode s = .ok bytes) ↔ s.HasUtf8 := by
  rw [PyStr.encode]
  split <;> simp [*]

/-! ## Decoding -/

/-- `bytes.decode("utf-8")`; none for its `UnicodeDecodeError`. -/
def decode (bytes : Bytes) : Option String := String.fromUTF8? ⟨bytes.toArray⟩

def byteOrderMark : Bytes := [0xEF, 0xBB, 0xBF]

/-- A whole stream as `utf-8-sig`: a byte order mark in front is left out, and so is the
beginning of one, if there is no more to the stream. -/
def decodeSig (bytes : Bytes) : Option String :=
  if bytes.isPrefixOf byteOrderMark then some ""
  else if byteOrderMark.isPrefixOf bytes then decode (bytes.drop 3)
  else decode bytes

theorem toList_loop (bytes : ByteArray) (i : Nat) (read : Bytes) :
    ByteArray.toList.loop bytes i read = read.reverse ++ bytes.data.toList.drop i := by
  induction left : bytes.size - i generalizing i read with
  | zero =>
    have atEnd : bytes.size ≤ i := Nat.le_of_sub_eq_zero left
    unfold ByteArray.toList.loop
    rw [if_neg (Nat.not_lt.2 atEnd), List.drop_eq_nil_of_le atEnd, List.append_nil]
  | succ left' ih =>
    have more : i < bytes.size := Nat.lt_of_sub_eq_succ left
    have next : bytes.get! i = bytes.data.toList[i] := getElem!_pos bytes.data i more
    unfold ByteArray.toList.loop
    rw [if_pos more, ih (i + 1) _ (by omega), List.drop_eq_getElem_cons more, next, List.reverse_cons,
      List.append_assoc, List.singleton_append]

@[simp] theorem decode_encode (text : String) : decode (encode text) = some text := by
  have bytes : (⟨(encode text).toArray⟩ : ByteArray) = text.toUTF8 := by
    have whole : encode text = text.toUTF8.data.toList := toList_loop text.toUTF8 0 []
    rw [whole, Array.toArray_toList]
  rw [decode, bytes]
  exact dif_pos text.isValidUTF8

end Tikblog.Python
