import Tikblog.Python.Csv

/-!
# csv.reader

The reader of the csv module with the default dialect: a machine that takes the characters of
a line and then its end, line after line, until a record is complete. The lines are those of a
text opened with `newline=""`: they end in `\n`, `\r` or `\r\n`, and keep it.
-/

namespace Tikblog.Python.Csv

/-! ## Lines -/

def isNewline (c : Char) : Bool := c == '\n' || c == '\r'

/-- A `\r` with a `\n` after it leaves the end of the line to that. -/
def endsLine (c : Char) (rest : List Char) : Bool := c == '\n' || c == '\r' && rest.head? != some '\n'

def lines : List Char → List (List Char)
  | [] => []
  | c :: rest =>
    if endsLine c rest then [c] :: lines rest
    else
      match lines rest with
      | [] => [[c]]
      | line :: others => (c :: line) :: others

example : lines "a\r\nb\rc\n\nd".toList = ["a\r\n", "b\r", "c\n", "\n", "d"].map String.toList := by decide

/-! ## The parser -/

inductive State
  | startRecord | startField | inField | inQuotedField | quoteInQuotedField | eatCrnl
  deriving DecidableEq

inductive Symbol
  | char (c : Char)
  | endOfLine

structure Parser where
  state : State
  fields : List String
  field : List Char

/-- `parse_reset`. -/
def Parser.fresh : Parser := ⟨.startRecord, [], []⟩

/-- `parse_save_field`, and the state to go on in. -/
def Parser.save (p : Parser) (next : State) : Parser := ⟨next, p.fields ++ [String.ofList p.field], []⟩

section

variable (limit : Option Nat)

/-- `parse_add_char`, and the state to go on in; `limit` is the `field_size_limit`. -/
def Parser.add (p : Parser) (c : Char) (next : State) : Except PyException Parser :=
  match limit with
  | none => .ok ⟨next, p.fields, p.field ++ [c]⟩
  | some n =>
    if p.field.length < n then .ok ⟨next, p.fields, p.field ++ [c]⟩
    else .error (.csvError ("field larger than field limit (" ++ toString n ++ ")"))

def Parser.startField (p : Parser) : Symbol → Except PyException Parser
  | .endOfLine => .ok (p.save .startRecord)
  | .char c =>
    if isNewline c then .ok (p.save .eatCrnl)
    else if c = '"' then .ok { p with state := .inQuotedField }
    else if c = ',' then .ok (p.save .startField)
    else p.add limit c .inField

/-- `parse_process_char`. -/
def Parser.step (p : Parser) (symbol : Symbol) : Except PyException Parser :=
  match p.state, symbol with
  | .startRecord, .endOfLine => .ok p
  | .startRecord, .char c =>
    if isNewline c then .ok { p with state := .eatCrnl } else p.startField limit (.char c)
  | .startField, symbol => p.startField limit symbol
  | .inField, .endOfLine => .ok (p.save .startRecord)
  | .inField, .char c =>
    if isNewline c then .ok (p.save .eatCrnl)
    else if c = ',' then .ok (p.save .startField)
    else p.add limit c .inField
  | .inQuotedField, .endOfLine => .ok p
  | .inQuotedField, .char c =>
    if c = '"' then .ok { p with state := .quoteInQuotedField } else p.add limit c .inQuotedField
  | .quoteInQuotedField, .endOfLine => .ok (p.save .startRecord)
  | .quoteInQuotedField, .char c =>
    if c = '"' then p.add limit c .inQuotedField
    else if c = ',' then .ok (p.save .startField)
    else if isNewline c then .ok (p.save .eatCrnl)
    else p.add limit c .inField
  | .eatCrnl, .endOfLine => .ok { p with state := .startRecord }
  | .eatCrnl, .char c =>
    if isNewline c then .ok p
    else .error (.csvError ("new-line character seen in unquoted field - " ++
      "do you need to open the file with newline=''?"))

/-- The characters of a line, and then its end. -/
def Parser.line (p : Parser) : List Char → Except PyException Parser
  | [] => p.step limit .endOfLine
  | c :: rest =>
    match p.step limit (.char c) with
    | .error e => .error e
    | .ok q => q.line rest

/-- A record, and the lines it begins and ends on; the first line of a text is line 1. -/
structure Located where
  first : Nat
  last : Nat
  cells : List String
  deriving DecidableEq

/-- What a reader yields until it stops, and the error it stops with. -/
structure Reading where
  records : List Located
  ending : Option PyException

def Reading.cons (record : Located) (rest : Reading) : Reading := ⟨record :: rest.records, rest.ending⟩

def Reading.rows (reading : Reading) : List (List String) := reading.records.map Located.cells

/-- `Reader_iternext` until the lines end, with `start` lines read before the record under way
and `done` lines in all. -/
def readFrom : List (List Char) → Nat → Nat → Parser → Reading
  | [], start, done, p =>
    if p.field ≠ [] ∨ p.state = .inQuotedField then
      ⟨[⟨start + 1, done, (p.save .startRecord).fields⟩], none⟩
    else ⟨[], none⟩
  | line :: rest, start, done, p =>
    match p.line limit line with
    | .error e => ⟨[], some e⟩
    | .ok q =>
      if q.state = .startRecord then
        (readFrom rest (done + 1) (done + 1) .fresh).cons ⟨start + 1, done + 1, q.fields⟩
      else readFrom rest start (done + 1) q

def read (text : String) : Reading := readFrom limit (lines text.toList) 0 0 .fresh

end

example : (read none "a,\"b\"\"\r\n,c\"\r\n\r\nd\"e\n\"f\"g").records =
    [⟨1, 2, ["a", "b\"\r\n,c"]⟩, ⟨3, 3, []⟩, ⟨4, 4, ["d\"e"]⟩, ⟨5, 5, ["fg"]⟩] := by decide

/-! ## Where the records lie -/

/-- Each record begins on the line after the one its predecessor ends on. -/
def Consecutive : Nat → List Located → Prop
  | _, [] => True
  | start, record :: rest =>
    record.first = start + 1 ∧ record.first ≤ record.last ∧ Consecutive record.last rest

variable {limit : Option Nat}

theorem readFrom_consecutive (rest : List (List Char)) {start done : Nat} {p : Parser}
    (begun : start = done ∧ p = .fresh ∨ start < done) :
    Consecutive start (readFrom limit rest start done p).records := by
  induction rest generalizing start done p with
  | nil =>
    unfold readFrom
    split
    · next pending =>
      obtain ⟨-, rfl⟩ | later := begun
      · exact absurd pending (by decide)
      · exact ⟨rfl, later, trivial⟩
    · trivial
  | cons line rest ih =>
    have some_line : start < done + 1 := by omega
    unfold readFrom
    split
    · trivial
    · split
      · exact ⟨rfl, some_line, ih (.inl ⟨rfl, rfl⟩)⟩
      · exact ih (.inr some_line)

theorem read_consecutive (text : String) : Consecutive 0 (read limit text).records :=
  readFrom_consecutive _ (.inl ⟨rfl, rfl⟩)

/-- Numbers that count the records, and do not run ahead of the lines, are the lines of certain
records exactly if the first one is and no record before one of them takes several lines. -/
theorem Consecutive.numbered_iff {records : List Located} {start n : Nat} {p : Located → Prop}
    (places : Consecutive start records) (behind : n ≤ start + 1) :
    (∀ numbered ∈ records.zipIdx n, p numbered.1 → numbered.2 = numbered.1.first) ↔
      (∀ record ∈ records, p record → n = start + 1) ∧
        records.Pairwise fun earlier record => p record → earlier.first = earlier.last := by
  induction records generalizing start n with
  | nil =>
    constructor
    · exact fun _ => ⟨fun _ member => absurd member List.not_mem_nil, .nil⟩
    · exact fun _ _ member => nomatch member
  | cons head rest ih =>
    obtain ⟨first, spans, places⟩ := places
    have ih := ih (n := n + 1) places (by omega)
    rw [List.zipIdx_cons, List.forall_mem_cons, List.forall_mem_cons, List.pairwise_cons, ih]
    constructor
    · rintro ⟨now, later, order⟩
      refine ⟨⟨fun h => (now h).trans first, ?_⟩, ?_, order⟩
      · intro record member h
        have := later record member h
        omega
      · intro record member h
        have := later record member h
        omega
    · rintro ⟨⟨now, later⟩, single, order⟩
      refine ⟨fun h => (now h).trans first.symm, ?_, order⟩
      intro record member h
      have := later record member h
      have := single record member h
      omega

/-! ## Looking a record up -/

theorem rows_cons {record : Located} {rest : Reading} :
    (rest.cons record).rows = record.cells :: rest.rows := rfl

/-- The count of the lines changes no cell. -/
theorem readFrom_rows (rest : List (List Char)) (start done start' done' : Nat) (p : Parser) :
    (readFrom limit rest start done p).rows = (readFrom limit rest start' done' p).rows := by
  induction rest generalizing start done start' done' p with
  | nil =>
    unfold readFrom
    split <;> rfl
  | cons line rest ih =>
    unfold readFrom
    split
    · rfl
    · split
      · rw [rows_cons, rows_cons, ih]
      · exact ih ..

/-- The first record from a line on. -/
def recordAt (limit : Option Nat) (text : String) (line : Nat) : Option (List String) :=
  (readFrom limit ((lines text.toList).drop (line - 1)) 0 0 .fresh).rows.head?

/-- A record that is found on the line it begins on, of the lines after the first `done`. -/
def Found (limit : Option Nat) (rest : List (List Char)) (done : Nat) (record : Located) : Prop :=
  done < record.first ∧
    (readFrom limit (rest.drop (record.first - 1 - done)) 0 0 .fresh).rows.head? = some record.cells

theorem Found.later {line : List Char} {rest : List (List Char)} {done : Nat} {record : Located}
    (found : Found limit rest (done + 1) record) : Found limit (line :: rest) done record := by
  obtain ⟨below, found⟩ := found
  have further : record.first - 1 - done = (record.first - 1 - (done + 1)) + 1 := by omega
  refine ⟨Nat.lt_of_succ_lt below, ?_⟩
  rw [further, List.drop_succ_cons]
  exact found

/-- The first record is what the reader finds first. -/
theorem found_of_tail {rest : List (List Char)} {done : Nat}
    (tail : ∀ record ∈ (readFrom limit rest done done .fresh).records.tail, Found limit rest done record) :
    ∀ record ∈ (readFrom limit rest done done .fresh).records, Found limit rest done record := by
  have places := @readFrom_consecutive limit rest done done .fresh (.inl ⟨rfl, rfl⟩)
  have same := @readFrom_rows limit rest done done 0 0 .fresh
  cases records : (readFrom limit rest done done .fresh).records with
  | nil => exact fun _ member => nomatch member
  | cons head others =>
    rw [records] at tail places
    rw [Reading.rows, records] at same
    apply List.forall_mem_cons.2 ⟨?_, tail⟩
    rw [Found, places.1, show done + 1 - 1 - done = 0 by omega, List.drop_zero, ← same]
    exact ⟨Nat.lt_succ_self done, rfl⟩

/-- So are the ones after the record under way. -/
theorem readFrom_tail_found (rest : List (List Char)) (start done : Nat) (p : Parser) :
    ∀ record ∈ (readFrom limit rest start done p).records.tail, Found limit rest done record := by
  induction rest generalizing start done p with
  | nil =>
    unfold readFrom
    split <;> exact fun _ member => nomatch member
  | cons line rest ih =>
    rw [readFrom]
    split
    · exact fun _ member => nomatch member
    · split
      · exact fun record member => (found_of_tail (ih _ _ _) record member).later
      · exact fun record member => (ih _ _ _ record member).later

theorem recordAt_first {text : String} {record : Located} (member : record ∈ (read limit text).records) :
    recordAt limit text record.first = some record.cells :=
  (found_of_tail (readFrom_tail_found _ _ _ _) record member).2

end Tikblog.Python.Csv
