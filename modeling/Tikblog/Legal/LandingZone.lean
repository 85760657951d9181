import Mathlib.Data.List.Sort
import Tikblog.Python.Csv
import Tikblog.Storage.ObjectStore

/-!
# The landing zone

Where a Legal batch lies: the inbox, the processed files and the reject files, three
different prefixes of one bucket. The settings check that they differ; the structure keeps
it, so that no key plays two roles.
-/

namespace Tikblog.Legal

open Python Storage

structure Reject where
  lineNumber : Nat
  rawRow : List String
  reason : String
  deriving DecidableEq, Repr

def Reject.rawRowAsCsv (reject : Reject) : String := csvRow "" reject.rawRow

def rejectHeader : List String := ["source_file", "line_number", "raw_row", "reject_reason"]

structure LandingZone where
  inbox : String
  processed : String
  rejects : String
  inbox_isPrefix : IsPrefix inbox
  processed_isPrefix : IsPrefix processed
  rejects_isPrefix : IsPrefix rejects
  inbox_ne_processed : inbox ≠ processed
  inbox_ne_rejects : inbox ≠ rejects
  processed_ne_rejects : processed ≠ rejects

/-- `prefixes_must_be_three_different_places`, and the zone made of the prefixes. The names of
the roles are in order already. -/
def landingZone (repr : String → String) (inboxPrefix processedPrefix rejectsPrefix : String) :
    Except PyException LandingZone :=
  let inbox := asPrefix inboxPrefix
  let processed := asPrefix processedPrefix
  let rejects := asPrefix rejectsPrefix
  let roles := [("inbox", inbox), ("processed", processed), ("rejects", rejects)]
  if empty : inbox = "" ∨ processed = "" ∨ rejects = "" then
    .error (.valueError ("landing zone prefixes must not be empty: [" ++
      ", ".intercalate ((roles.filter fun r => r.2 = "").map fun r => "'" ++ r.1 ++ "'") ++ "]"))
  else if same : inbox = processed ∨ inbox = rejects ∨ processed = rejects then
    .error (.valueError ("landing zone prefixes must differ from each other: \x7b" ++
      ", ".intercalate (roles.map fun r => "'" ++ r.1 ++ "': " ++ repr r.2) ++ "\x7d"))
  else
    .ok
      { inbox, processed, rejects
        inbox_isPrefix := isPrefix_asPrefix fun h => empty (.inl h)
        processed_isPrefix := isPrefix_asPrefix fun h => empty (.inr (.inl h))
        rejects_isPrefix := isPrefix_asPrefix fun h => empty (.inr (.inr h))
        inbox_ne_processed := fun h => same (.inl h)
        inbox_ne_rejects := fun h => same (.inr (.inl h))
        processed_ne_rejects := fun h => same (.inr (.inr h)) }

namespace LandingZone

/-- The zone of the default settings. -/
def defaults : LandingZone where
  inbox := "legal_inbox/"
  processed := "legal_processed/"
  rejects := "legal_rejects/"
  inbox_isPrefix := ⟨"legal_inbox".toList, by decide⟩
  processed_isPrefix := ⟨"legal_processed".toList, by decide⟩
  rejects_isPrefix := ⟨"legal_rejects".toList, by decide⟩
  inbox_ne_processed := by decide
  inbox_ne_rejects := by decide
  processed_ne_rejects := by decide

example : landingZone id "legal_inbox/" "legal_processed/" "/legal_rejects" = .ok defaults := by rfl

variable (zone : LandingZone)

def inboxKey (name : String) : String := zone.inbox ++ name

def processedKey (name : String) : String := zone.processed ++ name

def rejectsName (name : String) : String := name ++ ".rejects.csv"

def rejectsKey (name : String) : String := zone.rejects ++ rejectsName name

/-- `name.lower().endswith(".csv")`; no other character lowers to one of these four. -/
def endsInCsv (name : String) : Bool := ".csv".toList.isSuffixOf (name.toList.map Char.toLower)

/-- `list_batches`, of the keys listed under the inbox. -/
def batchNames (keys : List String) : List String :=
  let names := keys.map fun key => String.ofList (key.toList.drop zone.inbox.length)
  (names.filter fun name => !name.toList.contains '/' && endsInCsv name).insertionSort (· ≤ ·)

/-- The bytes `write_rejects` writes. -/
def renderRejects (name : String) (rejects : List Reject) : Bytes :=
  encode (csvRow "\r\n" rejectHeader ++ String.join (rejects.map fun reject =>
    csvRow "\r\n" [name, toString reject.lineNumber, reject.rawRowAsCsv, reject.reason]))

variable {zone} {m n : String}

theorem slashFree_of_mem_batchNames {keys : List String} {name : String}
    (h : name ∈ zone.batchNames keys) : SlashFree name := by
  unfold batchNames at h
  rw [List.mem_insertionSort, List.mem_filter] at h
  simpa using And.left (by simpa using h.2 : '/' ∉ name.toList ∧ endsInCsv name)

theorem slashFree_rejectsName (h : SlashFree n) : SlashFree (rejectsName n) := by
  have suffix : '/' ∉ ".rejects.csv".toList := by decide
  intro slash
  rw [rejectsName, String.toList_append, List.mem_append] at slash
  exact slash.elim h suffix

theorem inboxKey_ne_processedKey (hm : SlashFree m) (hn : SlashFree n) :
    zone.inboxKey m ≠ zone.processedKey n := fun same =>
  zone.inbox_ne_processed (key_inj zone.inbox_isPrefix zone.processed_isPrefix hm hn same).1

theorem inboxKey_ne_rejectsKey (hm : SlashFree m) (hn : SlashFree n) :
    zone.inboxKey m ≠ zone.rejectsKey n := fun same =>
  zone.inbox_ne_rejects
    (key_inj zone.inbox_isPrefix zone.rejects_isPrefix hm (slashFree_rejectsName hn) same).1

theorem processedKey_ne_rejectsKey (hm : SlashFree m) (hn : SlashFree n) :
    zone.processedKey m ≠ zone.rejectsKey n := fun same =>
  zone.processed_ne_rejects
    (key_inj zone.processed_isPrefix zone.rejects_isPrefix hm (slashFree_rejectsName hn) same).1

theorem processedKey_inj (hm : SlashFree m) (hn : SlashFree n)
    (same : zone.processedKey m = zone.processedKey n) : m = n :=
  (key_inj zone.processed_isPrefix zone.processed_isPrefix hm hn same).2

theorem rejectsKey_inj (hm : SlashFree m) (hn : SlashFree n)
    (same : zone.rejectsKey m = zone.rejectsKey n) : m = n := by
  have names := (key_inj zone.rejects_isPrefix zone.rejects_isPrefix (slashFree_rejectsName hm)
    (slashFree_rejectsName hn) same).2
  have lists := congrArg String.toList names
  simp only [rejectsName, String.toList_append] at lists
  exact String.toList_injective (List.append_cancel_right lists)

end LandingZone

end Tikblog.Legal
