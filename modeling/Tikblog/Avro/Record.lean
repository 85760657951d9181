import Tikblog.Avro.Binary

/-!
# Avro records

Flat records under a schema: what is written for a field is decided by its type, fields go
out in schema order and come back under their names. The times of the logical type
`timestamp-millis` are a parameter, with the conversions of the library at hand: reading
need not take every number of milliseconds.

Reading back what was written gives each value as `Value.readBack` says
(`readRecord_writeRecord`): the value itself, a time as its milliseconds give it again.
-/

namespace Tikblog.Avro

section

variable {τ : Type}

/-- The values of a field, dynamically typed. -/
inductive Value (τ : Type) where
  | null
  | str (s : String)
  | time (t : τ)
  deriving DecidableEq, Repr

inductive FieldType where
  | string
  | enum (symbols : List String)
  | timestampMillis
  /-- The union of `null` and another type, in this order. -/
  | nullable (inner : FieldType)
  deriving DecidableEq, Repr

structure Field (τ : Type) where
  name : String
  type : FieldType
  default : Option (Value τ)
  deriving DecidableEq, Repr

/-- A record as the library takes and gives it. -/
abbrev Dict (τ : Type) := List (String × Value τ)

/-- How `timestamp-millis` is converted: `read` fails beyond the times there are. -/
structure Clock (τ : Type) where
  millis : τ → Int
  read : Int → Option τ

variable (clock : Clock τ)

/-- One field; none where the value does not fit the type. -/
def FieldType.write : FieldType → Value τ → Option Bytes
  | .string, .str s => some (Avro.string s)
  | .enum symbols, .str s => if s ∈ symbols then some (long (symbols.idxOf s)) else none
  | .timestampMillis, .time t => some (long (clock.millis t))
  | .nullable _, .null => some (long 0)
  | .nullable inner, value => (inner.write value).map fun bytes => long 1 ++ bytes
  | _, _ => none

/-- `xs[i]`: a negative index counts from the end. -/
def item {α : Type} (xs : List α) (i : Int) : Option α :=
  if 0 ≤ i then xs[i.toNat]? else if 0 ≤ xs.length + i then xs[(xs.length + i).toNat]? else none

theorem item_natCast {α : Type} (xs : List α) (i : Nat) : item xs i = xs[i]? := by
  rw [item, if_pos (Int.natCast_nonneg i), Int.toNat_natCast]

def FieldType.read : FieldType → Bytes → Option (Value τ × Bytes)
  | .string, bytes => do
    let (s, rest) ← readString bytes
    return (.str s, rest)
  | .enum symbols, bytes => do
    let (index, rest) ← readLong bytes
    let symbol ← item symbols index
    return (.str symbol, rest)
  | .timestampMillis, bytes => do
    let (millis, rest) ← readLong bytes
    let t ← clock.read millis
    return (.time t, rest)
  | .nullable inner, bytes => do
    let (index, rest) ← readLong bytes
    if ← item [true, false] index then return (.null, rest)
    else inner.read rest

/-- A value written and read again. -/
def Value.readBack : Value τ → Option (Value τ)
  | .time t => (clock.read (clock.millis t)).map .time
  | value => some value

theorem FieldType.read_write {type : FieldType} {value : Value τ} {bytes : Bytes} (rest : Bytes)
    (written : type.write clock value = some bytes) :
    type.read clock (bytes ++ rest) = (value.readBack clock).map fun v => (v, rest) := by
  induction type generalizing bytes with
  | string =>
    cases value with
    | str s =>
      obtain rfl := Option.some.inj written
      simp [read, Value.readBack]
    | _ => cases written
  | enum symbols =>
    cases value with
    | str s =>
      simp only [write, Option.ite_none_right_eq_some, Option.some.injEq] at written
      obtain ⟨symbol, rfl⟩ := written
      have found : symbols[symbols.idxOf s]? = some s := List.getElem?_idxOf symbol
      simp [read, Value.readBack, item_natCast, found]
    | _ => cases written
  | timestampMillis =>
    cases value with
    | time t =>
      obtain rfl := Option.some.inj written
      cases back : clock.read (clock.millis t) <;> simp [read, Value.readBack, back]
    | _ => cases written
  | nullable inner ih =>
    have branch : ∀ inside, inner.write clock value = some inside → bytes = long 1 ++ inside →
        (FieldType.nullable inner).read clock (bytes ++ rest) =
          (value.readBack clock).map fun v => (v, rest) := by
      rintro inside fits rfl
      rw [← ih fits, read, List.append_assoc, readLong_long]
      rfl
    cases value with
    | null =>
      obtain rfl := Option.some.inj written
      rw [read, readLong_long]
      rfl
    | str s =>
      obtain ⟨inside, fits, rfl⟩ := Option.map_eq_some_iff.1 written
      exact branch inside fits rfl
    | time t =>
      obtain ⟨inside, fits, rfl⟩ := Option.map_eq_some_iff.1 written
      exact branch inside fits rfl

/-- What the record holds for a field. -/
def Field.value (field : Field τ) (record : Dict τ) : Option (Value τ) :=
  (record.lookup field.name).orElse fun _ => field.default

/-- A record in the order of the schema; none where a field has no value that fits. -/
def writeRecord (record : Dict τ) : List (Field τ) → Option Bytes
  | [] => some []
  | field :: fields => do
    let value ← field.value record
    let bytes ← field.type.write clock value
    let later ← writeRecord record fields
    return bytes ++ later

def readRecord : List (Field τ) → Bytes → Option (Dict τ × Bytes)
  | [], bytes => some ([], bytes)
  | field :: fields, bytes => do
    let (value, rest) ← field.type.read clock bytes
    let (later, rest) ← readRecord fields rest
    return ((field.name, value) :: later, rest)

/-- The fields of a record written and read again. -/
def readBack (record : Dict τ) : List (Field τ) → Option (Dict τ)
  | [] => some []
  | field :: fields => do
    let value ← field.value record
    let value ← value.readBack clock
    let later ← readBack record fields
    return (field.name, value) :: later

/-- What is written does not depend on how times are read. -/
theorem FieldType.write_congr {clock clock' : Clock τ} (same : clock'.millis = clock.millis) (type : FieldType)
    (value : Value τ) : type.write clock' value = type.write clock value := by
  induction type with
  | nullable inner ih => cases value <;> simp [write, ih]
  | _ => cases value <;> simp [write, same]

theorem writeRecord_congr {clock clock' : Clock τ} (same : clock'.millis = clock.millis) (record : Dict τ)
    (fields : List (Field τ)) : writeRecord clock' record fields = writeRecord clock record fields := by
  induction fields with
  | nil => rfl
  | cons field fields ih => simp only [writeRecord, FieldType.write_congr same, ih]

theorem readRecord_writeRecord {record : Dict τ} {fields : List (Field τ)} {bytes : Bytes} (rest : Bytes)
    (written : writeRecord clock record fields = some bytes) :
    readRecord clock fields (bytes ++ rest) = (readBack clock record fields).map fun d => (d, rest) := by
  induction fields generalizing bytes with
  | nil =>
    obtain rfl := Option.some.inj written
    rfl
  | cons field fields ih =>
    simp only [writeRecord, Option.bind_eq_bind, Option.bind_eq_some_iff, Option.pure_def] at written
    obtain ⟨value, found, front, fits, later, writes, joined⟩ := written
    obtain rfl := Option.some.inj joined
    rw [readRecord, readBack, List.append_assoc, FieldType.read_write clock _ fits, found]
    cases back : value.readBack clock with
    | none => simp [back]
    | some v =>
      simp only [Option.map_some, Option.bind_eq_bind, Option.bind_some, ih writes, back]
      cases readBack clock record fields <;> rfl

end

end Tikblog.Avro
