import Mathlib.Data.List.Forall2
import Tikblog.Legal.LandingZone
import Tikblog.Python.CsvRoundTrip
import Tikblog.Python.Encoding

/-!
# The reject file

A reject file is CSV, and so is each `raw_row` in it, without a line ending. It can be read
back: the file first, then the raw rows.
-/

namespace Tikblog.Legal

open Python

/-- The record of a reject. Its raw row is CSV itself: one record with the cells of the row that
was rejected, or no text at all for a row without cells. -/
def IsRecordOf (name : String) (reject : Reject) (record : List String) : Prop :=
  ∃ rawRow, record = [name, toString reject.lineNumber, rawRow, reject.reason] ∧
    Csv.Holds rawRow (if reject.rawRow = [] then [] else [reject.rawRow]) ∧
    (rawRow = "" ↔ reject.rawRow = [])

theorem csvRow_eq_empty_iff {row : List String} : csvRow "" row = "" ↔ row = [] := by
  constructor
  · intro empty
    obtain ⟨rows, -⟩ := Csv.holds_row row
    rw [empty] at rows
    by_contra h
    rw [if_neg h] at rows
    exact absurd rows (List.cons_ne_nil _ _).symm
  · rintro rfl
    rfl

theorem isRecordOf (name : String) (reject : Reject) :
    IsRecordOf name reject [name, toString reject.lineNumber, reject.rawRowAsCsv, reject.reason] :=
  ⟨reject.rawRowAsCsv, rfl, Csv.holds_row reject.rawRow, csvRow_eq_empty_iff⟩

/-- The reject file is what a writer has written for the header and the rejects. -/
theorem renderRejects_eq (name : String) (rejects : List Reject) :
    LandingZone.renderRejects name rejects = encode (Csv.written (rejectHeader :: rejects.map fun reject =>
      [name, toString reject.lineNumber, reject.rawRowAsCsv, reject.reason])) := by
  rw [Csv.written, List.map_cons, List.map_map, String.join_cons]
  rfl

/-- Read as UTF-8 text and CSV, the bytes are the header and one record for each reject, in
order. -/
def IsRejectFile (name : String) (rejects : List Reject) (bytes : Bytes) : Prop :=
  ∃ text records, decode bytes = some text ∧ Csv.Holds text (rejectHeader :: records) ∧
    List.Forall₂ (IsRecordOf name) rejects records

theorem isRejectFile (name : String) (rejects : List Reject) :
    IsRejectFile name rejects (LandingZone.renderRejects name rejects) := by
  refine ⟨_, _, ?_, Csv.holds_written (rejectHeader :: rejects.map fun reject =>
    [name, toString reject.lineNumber, reject.rawRowAsCsv, reject.reason]), ?_⟩
  · rw [renderRejects_eq, decode_encode]
  · rw [List.forall₂_map_right_iff]
    exact List.forall₂_same.2 fun reject _ => isRecordOf name reject

/-- **The reject file can be read back.** Its text is the header and one record for each reject,
in order; the raw row in it is read as one record again, the empty text being the empty row. -/
theorem renderRejects_reads_back (name : String) (rejects : List Reject) :
    ∃ text records, decode (LandingZone.renderRejects name rejects) = some text ∧
      Csv.Holds text (rejectHeader :: records) ∧ List.Forall₂ (IsRecordOf name) rejects records :=
  isRejectFile name rejects

/-- Read as UTF-8 text and CSV, the bytes are a reject file with a record of the reject. -/
def ListsReject (name : String) (reject : Reject) (bytes : Bytes) : Prop :=
  ∃ text records, decode bytes = some text ∧ Csv.Holds text (rejectHeader :: records) ∧
    ∃ record ∈ records, IsRecordOf name reject record

theorem IsRejectFile.lists {name : String} {rejects : List Reject} {bytes : Bytes} {reject : Reject}
    (file : IsRejectFile name rejects bytes) (member : reject ∈ rejects) : ListsReject name reject bytes := by
  obtain ⟨text, records, decoded, holds, each⟩ := file
  obtain ⟨i, bound, rfl⟩ := List.mem_iff_getElem.1 member
  have bound' : i < records.length := each.length_eq ▸ bound
  exact ⟨text, records, decoded, holds, records[i], List.getElem_mem bound', each.get bound bound'⟩

end Tikblog.Legal
