import Tikblog.Python.CsvReader

/-!
# What csv.writer wrote

A reader gets back the rows of a writer: the cells are read one after the other (`readOn_cell`),
whatever follows them in the text. The reader is one without a limit to the length of a field.
-/

namespace Tikblog.Python.Csv

section

variable {limit : Option Nat} {rest : List Char} {start done : Nat} {p q : Parser} {c : Char}

/-! ## Reading on -/

/-- What comes of a line: the record is complete, or goes on in the next line. -/
def afterLine (limit : Option Nat) (rest : List (List Char)) (start done : Nat) :
    Except PyException Parser → Reading
  | .error e => ⟨[], some e⟩
  | .ok q =>
    if q.state = .startRecord then
      (readFrom limit rest (done + 1) (done + 1) .fresh).cons ⟨start + 1, done + 1, q.fields⟩
    else readFrom limit rest start (done + 1) q

/-- Reading from the middle of a line. -/
def readOn (limit : Option Nat) (text : List Char) (start done : Nat) (p : Parser) : Reading :=
  match lines text with
  | [] => afterLine limit [] start done (p.line limit [])
  | line :: others => afterLine limit others start done (p.line limit line)

theorem readFrom_cons {line : List Char} {others : List (List Char)} :
    readFrom limit (line :: others) start done p = afterLine limit others start done (p.line limit line) := by
  rw [readFrom]
  cases p.line limit line <;> rfl

theorem lines_cons : ∃ line others, lines (c :: rest) = (c :: line) :: others := by
  rw [lines]
  split
  · exact ⟨[], lines rest, rfl⟩
  · cases lines rest with
    | nil => exact ⟨[], [], rfl⟩
    | cons line others => exact ⟨line, others, rfl⟩

theorem readFrom_lines {text : List Char} (h : text ≠ []) :
    readFrom limit (lines text) start done p = readOn limit text start done p := by
  obtain ⟨c, rest, rfl⟩ := List.exists_cons_of_ne_nil h
  obtain ⟨line, others, split⟩ := @lines_cons rest c
  rw [readOn, split, readFrom_cons]

/-- A character within a line. -/
theorem readOn_cons (goes : endsLine c rest = false) (step : p.step limit (.char c) = .ok q) :
    readOn limit (c :: rest) start done p = readOn limit rest start done q := by
  rw [readOn, readOn, lines, goes]
  cases lines rest with
  | nil => simp [Parser.line, step]
  | cons line others => simp [Parser.line, step]

/-- The character that ends a line. -/
theorem readOn_newline (ends : endsLine c rest = true) (step : p.step limit (.char c) = .ok q) :
    readOn limit (c :: rest) start done p =
      afterLine limit (lines rest) start done (q.step limit .endOfLine) := by
  rw [readOn, lines, ends]
  simp [Parser.line, step]

theorem endsLine_eq_false (h : isNewline c = false) : endsLine c rest = false := by
  unfold isNewline at h
  unfold endsLine
  simp_all

/-- At its first character a record is a field. -/
theorem readOn_fresh (h : isNewline c = false) :
    readOn limit (c :: rest) start done .fresh = readOn limit (c :: rest) start done ⟨.startField, [], []⟩ := by
  obtain ⟨line, others, split⟩ := @lines_cons rest c
  have step : Parser.fresh.step limit (.char c) = Parser.step limit ⟨.startField, [], []⟩ (.char c) := by
    simp [Parser.step, Parser.fresh, Parser.startField, h, Parser.add, Parser.save]
  rw [readOn, readOn, split]
  simp only [Parser.line, step]

end

/-! ## A cell -/

section

variable {rest : List Char} {start done : Nat} {p q : Parser} {fields row : List String}

/-- A character that a cell is quoted for. -/
def isSpecial (c : Char) : Bool := c == ',' || c == '"' || c == '\r' || c == '\n'

def doubled (cell : List Char) : List Char := cell.flatMap fun c => if c == '"' then ['"', '"'] else [c]

theorem toList_csvCell (cell : String) :
    (csvCell cell).toList = '"' :: (doubled cell.toList ++ ['"']) ∨
      (csvCell cell).toList = cell.toList ∧ ∀ c ∈ cell.toList, isSpecial c = false := by
  have special : needsQuotes cell = cell.toList.any isSpecial := rfl
  unfold csvCell
  rw [special]
  split
  · simp only [String.toList_append, String.toList_ofList]
    exact .inl rfl
  · next plain => exact .inr ⟨rfl, by simpa using plain⟩

theorem isNewline_of_plain {c : Char} (plain : isSpecial c = false) : isNewline c = false := by
  unfold isSpecial at plain
  unfold isNewline
  simp_all

theorem step_plain {c : Char} {state : State} {field : List Char} (plain : isSpecial c = false)
    (h : state = .startField ∨ state = .inField) :
    Parser.step none ⟨state, fields, field⟩ (.char c) = .ok ⟨.inField, fields, field ++ [c]⟩ := by
  have newline := isNewline_of_plain plain
  have comma : c ≠ ',' := by
    rintro rfl
    cases plain
  have quote : c ≠ '"' := by
    rintro rfl
    cases plain
  obtain rfl | rfl := h
  · simp [Parser.step, Parser.startField, Parser.add, newline, comma, quote]
  · simp [Parser.step, Parser.add, newline, comma]

/-- A cell without quotes, from its second character. -/
theorem readOn_plain (cell field : List Char) (plain : ∀ c ∈ cell, isSpecial c = false) :
    readOn none (cell ++ rest) start done ⟨.inField, fields, field⟩ =
      readOn none rest start done ⟨.inField, fields, field ++ cell⟩ := by
  induction cell generalizing field with
  | nil => rw [List.append_nil, List.nil_append]
  | cons c cell ih =>
    have head := plain c List.mem_cons_self
    have step := @step_plain fields c .inField field head (.inr rfl)
    rw [List.cons_append, readOn_cons (endsLine_eq_false (isNewline_of_plain head)) step,
      ih _ fun d member => plain d (List.mem_cons_of_mem c member), List.append_assoc, List.singleton_append]

/-- A quoted cell from its opening quote on: a line that ends within it does not end it. -/
theorem readOn_quoted (cell field : List Char) (done : Nat) :
    ∃ done', readOn none (doubled cell ++ '"' :: rest) start done ⟨.inQuotedField, fields, field⟩ =
      readOn none rest start done' ⟨.quoteInQuotedField, fields, field ++ cell⟩ := by
  induction cell generalizing field done with
  | nil =>
    refine ⟨done, ?_⟩
    rw [List.append_nil]
    exact readOn_cons rfl rfl
  | cons c cell ih =>
    by_cases quote : c = '"'
    · subst quote
      obtain ⟨done', read⟩ := ih (field ++ ['"']) done
      refine ⟨done', ?_⟩
      rw [List.append_assoc] at read
      refine Eq.trans ?_ read
      exact (readOn_cons rfl rfl).trans (readOn_cons rfl rfl)
    · have split : doubled (c :: cell) ++ '"' :: rest = c :: (doubled cell ++ '"' :: rest) := by
        simp [doubled, quote]
      have step : Parser.step none ⟨.inQuotedField, fields, field⟩ (.char c) =
          .ok ⟨.inQuotedField, fields, field ++ [c]⟩ := by
        simp [Parser.step, Parser.add, quote]
      rw [split]
      cases ends : endsLine c (doubled cell ++ '"' :: rest) with
      | false =>
        obtain ⟨done', read⟩ := ih (field ++ [c]) done
        refine ⟨done', ?_⟩
        rw [List.append_assoc] at read
        exact (readOn_cons ends step).trans read
      | true =>
        obtain ⟨done', read⟩ := ih (field ++ [c]) (done + 1)
        refine ⟨done', ?_⟩
        rw [List.append_assoc] at read
        rw [readOn_newline ends step]
        refine Eq.trans ?_ read
        -- the closing quote is still to come, so there is a next line
        exact readFrom_lines (by simp)

/-- A record whose last cell is read but for what ends it. -/
def Pending (q : Parser) (row : List String) : Prop :=
  q.fields ++ [String.ofList q.field] = row ∧
    (q.state = .startField ∨ q.state = .inField ∨ q.state = .quoteInQuotedField)

theorem readOn_cell (cell : String) (fields : List String) :
    ∃ done' q, Pending q (fields ++ [cell]) ∧
      readOn none ((csvCell cell).toList ++ rest) start done ⟨.startField, fields, []⟩ =
        readOn none rest start done' q := by
  obtain quoted | ⟨same, plain⟩ := toList_csvCell cell
  · obtain ⟨done', read⟩ := @readOn_quoted rest start fields cell.toList [] done
    rw [List.nil_append] at read
    refine ⟨done', ⟨.quoteInQuotedField, fields, cell.toList⟩, ?_, ?_⟩
    · exact ⟨by rw [String.ofList_toList], .inr (.inr rfl)⟩
    · rw [quoted, ← read, List.cons_append, List.append_assoc, List.singleton_append]
      exact readOn_cons rfl rfl
  · rw [same]
    cases text : cell.toList with
    | nil =>
      have empty : String.ofList [] = cell := by rw [← text, String.ofList_toList]
      exact ⟨done, ⟨.startField, fields, []⟩, ⟨by rw [empty], .inl rfl⟩, rfl⟩
    | cons c others =>
      rw [text, List.forall_mem_cons] at plain
      have whole : String.ofList ([] ++ [c] ++ others) = cell := by
        rw [List.nil_append, List.singleton_append, ← text, String.ofList_toList]
      refine ⟨done, ⟨.inField, fields, [] ++ [c] ++ others⟩, ⟨by rw [whole], .inr (.inl rfl)⟩, ?_⟩
      rw [List.cons_append, readOn_cons (endsLine_eq_false (isNewline_of_plain plain.1))
        (step_plain plain.1 (.inl rfl)), readOn_plain others _ plain.2]

/-! ## A row -/

theorem Pending.comma (pending : Pending q row) :
    readOn none (',' :: rest) start done q = readOn none rest start done ⟨.startField, row, []⟩ := by
  obtain ⟨rfl, state⟩ := pending
  apply readOn_cons rfl
  obtain h | h | h := state <;> simp [Parser.step, h, Parser.startField, isNewline, Parser.save]

theorem Pending.endOfText (pending : Pending q row) :
    readOn none [] start done q = ⟨[⟨start + 1, done + 1, row⟩], none⟩ := by
  obtain ⟨rfl, state⟩ := pending
  have step : q.line none [] = .ok (q.save .startRecord) := by
    obtain h | h | h := state <;> simp [Parser.line, Parser.step, h, Parser.startField]
  rw [readOn, lines, step]
  rfl

theorem Pending.endOfRow (pending : Pending q row) :
    readOn none ('\r' :: '\n' :: rest) start done q =
      (readFrom none (lines rest) (done + 1) (done + 1) .fresh).cons ⟨start + 1, done + 1, row⟩ := by
  obtain ⟨rfl, state⟩ := pending
  have step : q.step none (.char '\r') = .ok (q.save .eatCrnl) := by
    obtain h | h | h := state <;> simp [Parser.step, h, Parser.startField, isNewline]
  rw [readOn_cons rfl step, readOn_newline rfl rfl]
  rfl

theorem readOn_cells (cell : String) (cells fields : List String) (done : Nat) :
    ∃ done' q, Pending q (fields ++ cell :: cells) ∧
      readOn none ((",".intercalate ((cell :: cells).map csvCell)).toList ++ rest) start done
        ⟨.startField, fields, []⟩ = readOn none rest start done' q := by
  induction cells generalizing cell fields done with
  | nil =>
    rw [List.map_singleton, String.intercalate_singleton]
    exact readOn_cell cell fields
  | cons next cells ih =>
    obtain ⟨done', q, pending, read⟩ := @readOn_cell
      ((',' :: (",".intercalate ((next :: cells).map csvCell)).toList) ++ rest) start done cell fields
    obtain ⟨done'', q', pending', read'⟩ := ih next (fields ++ [cell]) done'
    refine ⟨done'', q', ?_, ?_⟩
    · rwa [List.append_assoc] at pending'
    · rw [← read', ← pending.comma, ← List.cons_append, ← read, List.map_cons, List.map_cons,
        String.intercalate_cons_cons]
      simp

theorem csvRow_eq (lineterminator : String) (row : List String) :
    csvRow lineterminator row = csvRow "" row ++ lineterminator := by
  unfold csvRow
  rw [String.append_empty]

theorem csvCell_head {cell : String} (h : cell ≠ "") :
    ∃ c others, (csvCell cell).toList = c :: others ∧ isNewline c = false := by
  obtain quoted | ⟨same, plain⟩ := toList_csvCell cell
  · exact ⟨'"', _, quoted, rfl⟩
  · rw [same]
    cases text : cell.toList with
    | nil => exact absurd (String.toList_eq_nil_iff.1 text) h
    | cons c others =>
      rw [text] at plain
      exact ⟨c, others, rfl, isNewline_of_plain (plain c List.mem_cons_self)⟩

/-- The text of a row begins with a character of its first record, not with a line end. -/
theorem row_head (h : row ≠ []) (lone : row ≠ [""]) :
    ∃ c others, (",".intercalate (row.map csvCell)).toList = c :: others ∧ isNewline c = false := by
  obtain ⟨cell, cells, rfl⟩ := List.exists_cons_of_ne_nil h
  cases cells with
  | nil =>
    rw [List.map_singleton, String.intercalate_singleton]
    exact csvCell_head fun empty => lone (by rw [empty])
  | cons next cells =>
    rw [List.map_cons, List.map_cons, String.intercalate_cons_cons, String.toList_append,
      String.toList_append, List.append_assoc]
    by_cases empty : cell = ""
    · subst empty
      exact ⟨',', _, rfl, rfl⟩
    · obtain ⟨c, others, text, plain⟩ := csvCell_head empty
      exact ⟨c, _, by rw [text, List.cons_append], plain⟩

/-- A row is read as one record, up to what ends it. -/
theorem readFrom_row (h : row ≠ []) (done : Nat) :
    ∃ done' q, Pending q row ∧ readFrom none (lines ((csvRow "" row).toList ++ rest)) done done .fresh =
      readOn none rest done done' q := by
  unfold csvRow
  rw [String.append_empty]
  split
  · next lone =>
    subst lone
    refine ⟨done, ⟨.quoteInQuotedField, [], []⟩, ⟨rfl, .inr (.inr rfl)⟩, ?_⟩
    have text : "\"\"".toList ++ rest = '"' :: '"' :: rest := rfl
    rw [text, readFrom_lines (List.cons_ne_nil _ _)]
    exact (readOn_cons rfl rfl).trans (readOn_cons rfl rfl)
  · next lone =>
    obtain ⟨c, others, text, plain⟩ := row_head h lone
    obtain ⟨cell, cells, rfl⟩ := List.exists_cons_of_ne_nil h
    obtain ⟨done', q, pending, read⟩ := @readOn_cells rest done cell cells [] done
    refine ⟨done', q, pending, ?_⟩
    rw [← read, text, List.cons_append, readFrom_lines (List.cons_ne_nil _ _), readOn_fresh plain]

/-! ## A text -/

/-- What a writer has written, with its default line ending. -/
def written (rows : List (List String)) : String := String.join (rows.map (csvRow "\r\n"))

/-- The text is read to its end, and these are its rows. -/
def Holds (text : String) (rows : List (List String)) : Prop :=
  (read none text).rows = rows ∧ (read none text).ending = none

/-- **A row that no line ending follows.** The empty row leaves no record. -/
theorem holds_row (row : List String) : Holds (csvRow "" row) (if row = [] then [] else [row]) := by
  split
  · next empty =>
    subst empty
    exact ⟨rfl, rfl⟩
  · next h =>
    obtain ⟨done', q, pending, read⟩ := @readFrom_row [] row h 0
    rw [List.append_nil, pending.endOfText] at read
    rw [Holds, Csv.read, read]
    exact ⟨rfl, rfl⟩

theorem readFrom_csvRow (row : List String) (rest : List Char) (done : Nat) :
    ∃ done', readFrom none (lines ((csvRow "\r\n" row).toList ++ rest)) done done .fresh =
      (readFrom none (lines rest) done' done' .fresh).cons ⟨done + 1, done', row⟩ := by
  by_cases empty : row = []
  · subst empty
    refine ⟨done + 1, ?_⟩
    have text : (csvRow "\r\n" []).toList ++ rest = '\r' :: '\n' :: rest := rfl
    rw [text, readFrom_lines (List.cons_ne_nil _ _), readOn_cons rfl rfl, readOn_newline rfl rfl]
    rfl
  · obtain ⟨done', q, pending, read⟩ :=
      @readFrom_row ('\r' :: '\n' :: rest) row empty done
    refine ⟨done' + 1, ?_⟩
    rw [csvRow_eq, String.toList_append, List.append_assoc]
    exact read.trans pending.endOfRow

theorem readFrom_written (rows : List (List String)) (done : Nat) :
    (readFrom none (lines (written rows).toList) done done .fresh).rows = rows ∧
      (readFrom none (lines (written rows).toList) done done .fresh).ending = none := by
  induction rows generalizing done with
  | nil => exact ⟨rfl, rfl⟩
  | cons row rows ih =>
    obtain ⟨done', read⟩ := readFrom_csvRow row (written rows).toList done
    obtain ⟨same, whole⟩ := ih done'
    have text : written (row :: rows) = csvRow "\r\n" row ++ written rows := by
      rw [written, List.map_cons, String.join_cons, written]
    rw [text, String.toList_append, read, rows_cons, same]
    exact ⟨rfl, whole⟩

/-- **Rows that each end in `\r\n`.** -/
theorem holds_written (rows : List (List String)) : Holds (written rows) rows := readFrom_written rows 0

end

end Tikblog.Python.Csv
