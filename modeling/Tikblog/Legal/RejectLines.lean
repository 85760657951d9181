import Tikblog.Legal.Split
import Tikblog.Python.CsvReader
import Tikblog.Python.Encoding

/-!
# The line numbers of the rejects

`process_batch` numbers the records, from 2 for the one after the header, and a record of several
lines leaves the numbers of all later ones behind. How a file is cut into records is the part of
the csv reader, which is not a parameter here.
-/

namespace Tikblog.Legal

open Python Contracts Kafka Program Storage

section

variable (lib : Library) (limit : Option Nat) (broken : Bytes → List (List String) × PyException)

/-- `read_rows`: `csv.reader` over the file as `utf-8-sig` text. The rows before a byte that
cannot be decoded, and the error there, are left open. -/
def readRows (content : Bytes) : RowStream :=
  match decodeSig content with
  | some text => ⟨(Csv.read limit text).rows, (Csv.read limit text).ending⟩
  | none => ⟨(broken content).1, some (broken content).2⟩

/-- The library with the reader of the csv module. -/
def Library.reading : Library := { lib with csvReader := readRows limit broken }

/-- A reject names the line on which its record begins, and there the row is found. -/
structure PointsTo (text : String) (reject : Reject) (record : Csv.Located) : Prop where
  row : reject.rawRow = record.cells
  line : reject.lineNumber = record.first
  found : Csv.recordAt limit text reject.lineNumber = some reject.rawRow

/-- The records that are no valid rows, after the header. -/
def rejectedRecords (records : List Csv.Located) : List Csv.Located :=
  (records.drop 1).filter fun record => ¬ IsValid lib record.cells

/-- Each record before a rejected one, and the header, lies on one line. -/
def SingleLines (records : List Csv.Located) : Prop :=
  records.Pairwise fun earlier record => ¬ IsValid lib record.cells → earlier.first = earlier.last

end

section

variable {lib : Library} {limit : Option Nat} {text : String} {records : List Csv.Located}
  {rejects : List Reject}

theorem isValid_reading {broken : Bytes → List (List String) × PyException} (row : List String) :
    IsValid (lib.reading limit broken) row ↔ IsValid lib row := by
  rw [isValid_iff, isValid_iff]
  rfl

/-- What is read to its end is text. -/
theorem readRows_of_ending {broken : Bytes → List (List String) × PyException} {content : Bytes}
    (ending : ((lib.reading limit broken).csvReader content).ending = none) :
    ∃ text, decodeSig content = some text ∧
      ((lib.reading limit broken).csvReader content).rows = (Csv.read limit text).rows := by
  change (readRows limit broken content).ending = none at ending
  change ∃ text, _ ∧ (readRows limit broken content).rows = _
  unfold readRows at *
  cases decoded : decodeSig content with
  | none =>
    rw [decoded] at ending
    cases ending
  | some text => exact ⟨text, rfl, rfl⟩

/-- Rejects taken from numbered records point to them exactly if the numbers do. -/
theorem pointsTo_iff {numbered : List (Csv.Located × Nat)}
    (found : ∀ record ∈ numbered, Csv.recordAt limit text record.1.first = some record.1.cells)
    (taken : rejects.map (fun reject => (reject.rawRow, reject.lineNumber)) =
      numbered.map fun record => (record.1.cells, record.2)) :
    List.Forall₂ (PointsTo limit text) rejects (numbered.map Prod.fst) ↔
      ∀ record ∈ numbered, record.2 = record.1.first := by
  induction numbered generalizing rejects with
  | nil =>
    rw [List.map_nil, List.map_eq_nil_iff] at taken
    subst taken
    exact ⟨fun _ _ member => absurd member List.not_mem_nil, fun _ => .nil⟩
  | cons record numbered ih =>
    obtain ⟨reject, rejects, rfl⟩ := List.exists_cons_of_ne_nil (l := rejects) (by
      rintro rfl
      cases taken)
    rw [List.map_cons, List.map_cons, List.cons.injEq, Prod.mk.injEq] at taken
    obtain ⟨⟨row, line⟩, taken⟩ := taken
    rw [List.forall_mem_cons] at found
    rw [List.map_cons, List.forall₂_cons, ih found.2 taken, List.forall_mem_cons]
    apply and_congr_left'
    constructor
    · exact fun points => line.symm.trans points.line
    · intro first
      refine ⟨row, line.trans first, ?_⟩
      rw [line, row, first]
      exact found.1

/-- The numbers of the rejected records are their lines exactly if none is left behind. -/
theorem numbers_iff (places : Csv.Consecutive 0 records) :
    (∀ record ∈ (records.drop 1).zipIdx 2, ¬ IsValid lib record.1.cells → record.2 = record.1.first) ↔
      SingleLines lib records := by
  cases records with
  | nil =>
    constructor
    · exact fun _ => .nil
    · exact fun _ _ member => nomatch member
  | cons header data =>
    obtain ⟨first, spans, places⟩ := places
    have behind : 2 ≤ header.last + 1 := by omega
    have numbers := places.numbered_iff (p := fun record => ¬ IsValid lib record.cells) behind
    rw [SingleLines, List.pairwise_cons]
    refine numbers.trans (and_congr_left' ?_)
    constructor
    · intro one record member invalid
      have := one record member invalid
      omega
    · intro one record member invalid
      have := one record member invalid
      omega

/-- The rejects of a file whose records begin on the lines of `records`. -/
theorem rejects_pointTo_iff (places : Csv.Consecutive 0 records)
    (found : ∀ record ∈ records, Csv.recordAt limit text record.first = some record.cells)
    (taken : rejects.map (fun reject => (reject.rawRow, reject.lineNumber)) =
      (((records.map Csv.Located.cells).drop 1).zipIdx 2).filter fun row => ¬ IsValid lib row.1) :
    List.Forall₂ (PointsTo limit text) rejects (rejectedRecords lib records) ↔ SingleLines lib records := by
  let refused := ((records.drop 1).zipIdx 2).filter fun record => ¬ IsValid lib record.1.cells
  have rows : (((records.map Csv.Located.cells).drop 1).zipIdx 2).filter (fun row => ¬ IsValid lib row.1) =
      refused.map fun record => (record.1.cells, record.2) := by
    rw [← List.map_drop, List.zipIdx_map, List.filter_map]
    rfl
  have kept : rejectedRecords lib records = refused.map Prod.fst := by
    conv_lhs => rw [rejectedRecords, ← List.zipIdx_map_fst 2 (records.drop 1), List.filter_map]
    rfl
  have known : ∀ record ∈ refused, Csv.recordAt limit text record.1.first = some record.1.cells := by
    intro record member
    have within := List.fst_mem_of_mem_zipIdx (List.mem_of_mem_filter member)
    exact found _ (List.mem_of_mem_drop within)
  rw [rows] at taken
  rw [kept, pointsTo_iff known taken, ← numbers_iff places]
  simp [refused, List.mem_filter]

end

/-- **The line numbers of the rejects.** Whatever the file holds, the rejects that
`process_batch` returns point to the rejected records exactly if each record before one of these
lies on one line. -/
theorem processBatch_lineNumbers_iff (lib : Library) (limit : Option Nat)
    (broken : Bytes → List (List String) × PyException) (avro : UnsubscribeEvent → Bytes) (zone : LandingZone)
    (settings : ProducerSettings) (rounds : Nat) (name : String) (s : World) :
    Prog.Always (exec (lib.reading limit broken) avro zone) (fun _ _ => True)
      (fun r _ => ∀ rowsRead rejects, r = .ok (rowsRead, rejects) → ∃ content text,
        s.objects (zone.inboxKey name) = some content ∧ decodeSig content = some text ∧
        (List.Forall₂ (PointsTo limit text) rejects (rejectedRecords lib (Csv.read limit text).records) ↔
          SingleLines lib (Csv.read limit text).records))
      (processBatch (lib.reading limit broken) zone settings rounds name) s := by
  apply (processBatch_ingests rounds name s).mono (fun _ _ guard => guard)
  intro r t ingests rowsRead rejects returned
  obtain ⟨content, messages, found, ending, -, -, split⟩ := ingests rowsRead rejects returned
  obtain ⟨text, decoded, rows⟩ := readRows_of_ending ending
  have taken := split.rejected
  refine ⟨content, text, found, decoded, rejects_pointTo_iff (Csv.read_consecutive text)
    (fun _ member => Csv.recordAt_first member) (taken.trans ?_)⟩
  rw [dataRows, rows]
  exact List.filter_congr fun row _ => decide_eq_decide.2 (not_congr (isValid_reading row.1))

/-- A header, a row of one cell with a line break in it, and a row of one cell. -/
def spanningText : String := "user_id,writer_id,requested_at\r\n\"two\r\nlines\"\r\nshort\r\n"

def spanningRecords : List Csv.Located := [⟨1, 1, expectedHeader⟩, ⟨2, 3, ["two\r\nlines"]⟩, ⟨4, 4, ["short"]⟩]

/-- The limit is the one the module starts with. -/
theorem read_spanningText : Csv.read (some 131072) spanningText = ⟨spanningRecords, none⟩ := by rfl

/-- `fromisoformat` is not called, and nothing is left that cannot be decoded. -/
def spanningLibrary : Library := ⟨fun _ => none, fun text => text, fun _ => ⟨[], none⟩⟩

def undecoded (_ : Bytes) : List (List String) × PyException :=
  ([], .unicodeDecodeError "'utf-8' codec can't decode byte")

def spanningFile : World where
  objects key := if key = "legal_inbox/a.csv" then some (encode spanningText) else none
  ingesting := none
  opened _ := 0
  kafka := .fresh

theorem decodeSig_spanningText : decodeSig (encode spanningText) = some spanningText := by
  have whole : ¬ (encode spanningText).isPrefixOf byteOrderMark = true := by decide +kernel
  have mark : ¬ byteOrderMark.isPrefixOf (encode spanningText) = true := by decide +kernel
  rw [decodeSig, if_neg whole, if_neg mark, decode_encode]

theorem readRows_spanningText :
    readRows (some 131072) undecoded (encode spanningText) = ⟨spanningRecords.map Csv.Located.cells, none⟩ := by
  simp only [readRows, decodeSig_spanningText, read_spanningText]
  rfl

/-- The reject of line 4 is numbered 3. -/
theorem processBatch_misses_line :
    ¬ Prog.Always (exec (spanningLibrary.reading (some 131072) undecoded) (fun _ => []) .defaults)
      (fun _ _ => True)
      (fun r _ => ∀ rowsRead rejects, r = .ok (rowsRead, rejects) → ∃ content text,
        spanningFile.objects (LandingZone.defaults.inboxKey "a.csv") = some content ∧
        decodeSig content = some text ∧ List.Forall₂ (PointsTo (some 131072) text) rejects
          (rejectedRecords spanningLibrary (Csv.read (some 131072) text).records))
      (processBatch (spanningLibrary.reading (some 131072) undecoded) .defaults ⟨5, 10⟩ 1 "a.csv")
      spanningFile := by
  intro all
  have after := all.2 (.ok ⟨spanningRecords.map Csv.Located.cells, none⟩) _
    ⟨_, .opened rfl (.inl readRows_spanningText.symm), fun _ => .inr rfl, rfl, rfl, rfl⟩
  obtain ⟨content, text, found, decoded, points⟩ := after _ _ rfl
  obtain rfl : encode spanningText = content := Option.some.inj found
  obtain rfl : spanningText = text := Option.some.inj (decodeSig_spanningText.symm.trans decoded)
  have rejected : rejectedRecords spanningLibrary spanningRecords = spanningRecords.drop 1 := by
    refine List.filter_eq_self.2 fun record member => ?_
    obtain rfl | rfl : record = ⟨2, 3, ["two\r\nlines"]⟩ ∨ record = ⟨4, 4, ["short"]⟩ := by
      simpa [spanningRecords] using member
    · exact decide_eq_true (not_isValid_of_error rfl)
    · exact decide_eq_true (not_isValid_of_error rfl)
  rw [read_spanningText, rejected] at points
  obtain ⟨-, points⟩ := List.forall₂_cons.1 points
  obtain ⟨second, -⟩ := List.forall₂_cons.1 points
  exact absurd second.line (by decide)

end Tikblog.Legal
