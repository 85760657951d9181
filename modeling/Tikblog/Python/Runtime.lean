import Mathlib.Data.Int.Order.Basic
import Mathlib.Data.List.TakeWhile

/-!
# The Python values the services compute with

Byte strings, exceptions, JSON values as `json.loads` builds them, and `datetime` with an
optional fixed UTC offset. Times are integer microseconds, the resolution of both
`datetime` and `timestamptz`.
-/

namespace Tikblog.Python

abbrev Bytes := List UInt8

/-- `str.encode()`: UTF-8. -/
def encode (s : String) : Bytes := s.toUTF8.toList

/-- `s[:n]`. -/
def takeChars (n : Nat) (s : String) : String := String.ofList (s.toList.take n)

/-- `str.strip` with the characters to remove. -/
def stripWhere (remove : Char → Bool) (s : String) : String :=
  String.ofList ((s.toList.dropWhile remove).reverse.dropWhile remove).reverse

/-- `str.isspace` of one character. -/
def isSpace (c : Char) : Bool :=
  let n := c.toNat
  (9 ≤ n && n ≤ 13) || (28 ≤ n && n ≤ 32) || n == 0x85 || n == 0xA0 || n == 0x1680 ||
    (0x2000 ≤ n && n ≤ 0x200A) || n == 0x2028 || n == 0x2029 || n == 0x202F || n == 0x205F || n == 0x3000

/-- `str.strip()`. -/
def strip (s : String) : String := stripWhere isSpace s

/-- Nothing is left exactly when everything is removed. -/
theorem stripWhere_eq_empty_iff {remove : Char → Bool} {s : String} :
    stripWhere remove s = "" ↔ ∀ c ∈ s.toList, remove c = true := by
  have dropped : ∀ l : List Char, (∀ c ∈ l.dropWhile remove, remove c = true) → l.dropWhile remove = [] := by
    intro l all
    cases left : l.dropWhile remove with
    | nil => rfl
    | cons c rest =>
      have kept := List.head_dropWhile_not remove (by rw [left]; exact List.cons_ne_nil c rest)
      have removed := all _ (List.head_mem (by rw [left]; exact List.cons_ne_nil c rest))
      exact absurd removed (by simp [kept])
  unfold stripWhere
  constructor
  · intro empty
    have none : ((s.toList.dropWhile remove).reverse.dropWhile remove).reverse = [] := by
      simpa using congrArg String.toList empty
    rw [List.reverse_eq_nil_iff, List.dropWhile_eq_nil_iff] at none
    have front := dropped s.toList fun c member => none c (List.mem_reverse.2 member)
    exact List.dropWhile_eq_nil_iff.1 front
  · intro all
    rw [List.dropWhile_eq_nil_iff.2 all]
    rfl

/-- What is left does not consist of removed characters alone. -/
theorem exists_kept_of_stripWhere {remove : Char → Bool} {s : String} (left : stripWhere remove s ≠ "") :
    ∃ c ∈ (stripWhere remove s).toList, remove c = false := by
  have chars : (stripWhere remove s).toList =
      ((s.toList.dropWhile remove).reverse.dropWhile remove).reverse := String.toList_ofList
  have some_left : (s.toList.dropWhile remove).reverse.dropWhile remove ≠ [] := by
    intro none
    apply left
    rw [stripWhere, none]
    rfl
  refine ⟨_, ?_, List.head_dropWhile_not remove some_left⟩
  rw [chars, List.mem_reverse]
  exact List.head_mem some_left

/-- A code point of a `str`: a character, or one of the surrogates U+D800 to U+DFFF alone. -/
inductive CodePoint where
  | char (c : Char)
  | surrogate (n : Fin 0x800)
  deriving DecidableEq, Repr

/-- A `str` that may hold surrogates, such as one decoded from the body of a response; a
`String` is one without. -/
abbrev PyStr := List CodePoint

def PyStr.ofString (s : String) : PyStr := s.toList.map CodePoint.char

/-- The exceptions the services raise or catch, each with the text `str(error)` gives, a
`KeyError` with its key. -/
inductive PyException where
  | valueError (message : String)
  | typeError (message : String)
  | keyError (key : String)
  | attributeError (message : String)
  | assertionError (message : String)
  | runtimeError (message : String)
  | overflowError (message : String)
  | osError (message : String)
  | bufferError
  | unicodeError (message : String)
  | unicodeEncodeError (message : String)
  | unicodeDecodeError (message : String)
  | csvError (message : String)
  | serializationError (message : String)
  | kafkaException (message : String)
  | httpError (message : String)
  | storageError (message : String)
  | transientError (message : PyStr)
  | permanentRejection (message : PyStr)
  | rowError (message : String)
  | analysisException (message : String)
  deriving DecidableEq, Repr

/-- `str(exc)`. -/
def PyException.text : PyException → PyStr
  | .keyError key => PyStr.ofString ("'" ++ key ++ "'")
  | .bufferError => PyStr.ofString "Local: Queue full"
  | .transientError message | .permanentRejection message => message
  | .valueError message | .typeError message | .attributeError message | .assertionError message
  | .runtimeError message | .overflowError message | .osError message | .unicodeError message
  | .unicodeEncodeError message | .unicodeDecodeError message | .csvError message
  | .serializationError message | .kafkaException message | .httpError message | .storageError message
  | .rowError message | .analysisException message => PyStr.ofString message

/-- A parsed JSON document; an object is the `dict` of its items. -/
inductive Json where
  | null
  | bool (b : Bool)
  | num (literal : String)
  | str (s : String)
  | arr (items : List Json)
  | obj (items : List (String × Json))

/-- The name of the type `json.loads` gives a number: a literal with a fraction or an
exponent is a `float`, and so are the names of the infinities and of NaN. -/
def numberType (literal : String) : String :=
  if literal.toList.any fun c => c ∈ ['.', 'e', 'E', 'N', 'I'] then "float" else "int"

/-- `body[key]`, the body being whatever JSON value the server sent. -/
def Json.getItem (body : Json) (key : String) : Except PyException Json :=
  match body with
  | .obj items =>
    match items.lookup key with
    | some value => .ok value
    | none => .error (.keyError key)
  | .arr _ => .error (.typeError "list indices must be integers or slices, not str")
  | .str _ => .error (.typeError "string indices must be integers, not 'str'")
  | .null => .error (.typeError "'NoneType' object is not subscriptable")
  | .bool _ => .error (.typeError "'bool' object is not subscriptable")
  | .num literal => .error (.typeError ("'" ++ numberType literal ++ "' object is not subscriptable"))

theorem Json.getItem_ok_iff {body value : Json} {key : String} :
    body.getItem key = .ok value ↔ ∃ items, body = .obj items ∧ items.lookup key = some value := by
  cases body with
  | obj items => cases h : items.lookup key <;> simp [getItem, h]
  | _ => simp [getItem]

/-! ## datetime -/

/-- Microseconds since 1970-01-01T00:00:00 UTC. -/
abbrev Instant := Int

-- the order of the numbers, whatever else is known of them
instance : Preorder Instant := Int.instLinearOrder.toPartialOrder.toPreorder

/-- `datetime`: the wall clock in microseconds since 1970-01-01T00:00:00 and the offset
of the time zone, none for a naive value. -/
structure Datetime where
  wall : Int
  utcoffset : Option Int
  deriving DecidableEq, Repr

/-- The instant an aware value denotes; comparison of aware values is by instant. -/
def Datetime.instant (d : Datetime) : Instant := d.wall - d.utcoffset.getD 0

def microsPerSecond : Int := 1000000

def microsPerDay : Int := 86400 * microsPerSecond

/-- Year, month and day of a day number, in the proleptic Gregorian calendar. Years run
from March in the computation, so that the leap day comes last. -/
def civil (days : Int) : Int × Int × Int :=
  let z := days + 719468
  let era := z / 146097
  let doe := z - era * 146097
  let yoe := (doe - doe / 1460 + doe / 36524 - doe / 146096) / 365
  let doy := doe - (365 * yoe + yoe / 4 - yoe / 100)
  let mp := (5 * doy + 2) / 153
  let day := doy - (153 * mp + 2) / 5 + 1
  let month := if mp < 10 then mp + 3 else mp - 9
  (yoe + era * 400 + (if month ≤ 2 then 1 else 0), month, day)

/-- `f"{n:0{width}d}"`. -/
def zeroPad (width : Nat) (n : Int) : String :=
  let digits := toString n.toNat
  String.ofList (List.replicate (width - digits.length) '0') ++ digits

/-- `HH:MM:SS`, with `.ffffff` when there are microseconds. -/
def clockText (micros : Int) : String :=
  let seconds := micros / microsPerSecond
  let fraction := micros % microsPerSecond
  zeroPad 2 (seconds / 3600) ++ ":" ++ zeroPad 2 (seconds / 60 % 60) ++ ":" ++
    zeroPad 2 (seconds % 60) ++ (if fraction = 0 then "" else "." ++ zeroPad 6 fraction)

/-- The offset suffix of `isoformat`: seconds are written only when there are any. -/
def offsetText (offset : Int) : String :=
  let size : Int := offset.natAbs
  (if offset < 0 then "-" else "+") ++
    (if size % (60 * microsPerSecond) = 0 then
      zeroPad 2 (size / microsPerSecond / 3600) ++ ":" ++ zeroPad 2 (size / microsPerSecond / 60 % 60)
    else clockText size)

/-- `datetime.isoformat()`. -/
def Datetime.isoformat (d : Datetime) : String :=
  let (year, month, day) := civil (d.wall / microsPerDay)
  zeroPad 4 year ++ "-" ++ zeroPad 2 month ++ "-" ++ zeroPad 2 day ++ "T" ++
    clockText (d.wall % microsPerDay) ++
    (match d.utcoffset with
    | none => ""
    | some offset => offsetText offset)

example : (Datetime.mk 1757030400123456 (some (-12600000000))).isoformat =
    "2025-09-05T00:00:00.123456-03:30" := by decide

end Tikblog.Python
