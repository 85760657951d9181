import Tikblog.Legal.World

/-!
# The three roles

Inbox, processed and rejects may lie inside one another, and a listing takes every key that
starts with its prefix. Whatever the bucket holds, a batch is a name directly below the inbox
prefix, and what is written for one role is never in the place of another (`RolesApart`).
-/

namespace Tikblog.Legal

open Python Contracts Kafka Program Storage

/-- The name ends in `.csv`, in any case. -/
def EndsInCsv (name : String) : Prop :=
  ∃ stem c s v, name.toList = stem ++ ['.', c, s, v] ∧
    (c = 'c' ∨ c = 'C') ∧ (s = 's' ∨ s = 'S') ∧ (v = 'v' ∨ v = 'V')

/-- What the bucket of `s` holds of each role stays apart from the others. -/
structure RolesApart (lib : Library) (avro : UnsubscribeEvent → Bytes) (zone : LandingZone) (s : World) :
    Prop where
  listed : Prog.Always (Answer lib avro) (fun _ t => t = s)
    (fun r t => t = s ∧ ∀ names, r = .ok names → names.Pairwise (· < ·) ∧ ∀ name, name ∈ names ↔
      SlashFree name ∧ EndsInCsv name ∧ (s.objects (zone.inboxKey name)).isSome) (listBatches zone) s
  inbox_processed : ∀ m n, SlashFree m → SlashFree n → zone.inboxKey m ≠ zone.processedKey n
  inbox_rejects : ∀ m n, SlashFree m → SlashFree n → zone.inboxKey m ≠ zone.rejectsKey n
  processed_rejects : ∀ m n, SlashFree m → SlashFree n → zone.processedKey m ≠ zone.rejectsKey n
  /-- The reject file of a batch takes no other place. -/
  rejectsWritten : ∀ name rejects, SlashFree name → Prog.Always (Answer lib avro) (fun _ _ => True)
    (fun _ t => ∀ key ≠ zone.rejectsKey name, t.objects key = s.objects key)
    (writeRejects zone name rejects) s
  /-- A batch that moves leaves one inbox key for one processed key. -/
  moved : ∀ name, SlashFree name → Prog.Always (Answer lib avro) (fun _ _ => True)
    (fun _ t => ∀ key ≠ zone.inboxKey name, key ≠ zone.processedKey name → t.objects key = s.objects key)
    (markProcessed zone name) s
  alreadyProcessed : ∀ name, Prog.Always (Answer lib avro) (fun _ t => t = s)
    (fun r t => t = s ∧ ∀ processed, r = .ok processed →
      processed = (s.objects (zone.processedKey name)).isSome) (alreadyProcessed zone name) s

section

variable {lib : Library} {avro : UnsubscribeEvent → Bytes} {zone : LandingZone} {s : World}

/-! ## Names -/

theorem toNat_toLower (c : Char) :
    c.toLower.toNat = if 65 ≤ c.toNat ∧ c.toNat ≤ 90 then c.toNat + 32 else c.toNat := by
  have bounds : c.val ≥ 'A'.val ∧ c.val ≤ 'Z'.val ↔ 65 ≤ c.toNat ∧ c.toNat ≤ 90 :=
    and_congr UInt32.le_iff_toNat_le UInt32.le_iff_toNat_le
  by_cases capital : c.val ≥ 'A'.val ∧ c.val ≤ 'Z'.val
  · have lowers : c.toLower.val = c.val + ('a'.val - 'A'.val) := congrArg Char.val (dif_pos capital)
    have shift : ('a'.val - 'A'.val).toNat = 32 := rfl
    have upper : c.val.toNat ≤ 90 := (bounds.1 capital).2
    rw [if_pos (bounds.1 capital), Char.toNat, lowers, UInt32.toNat_add, shift]
    exact Nat.mod_eq_of_lt (by omega)
  · have same : c.toLower = c := dif_neg capital
    rw [if_neg (mt bounds.2 capital), same]

/-- A character that lowers to a letter is that letter or its capital. -/
theorem toLower_eq_iff {c lower upper : Char} (small : 97 ≤ lower.toNat ∧ lower.toNat ≤ 122)
    (capital : lower.toNat = upper.toNat + 32) : c.toLower = lower ↔ c = lower ∨ c = upper := by
  rw [← Char.toNat_inj, ← Char.toNat_inj, ← Char.toNat_inj, toNat_toLower]
  split <;> omega

theorem toLower_eq_dot {c : Char} : c.toLower = '.' ↔ c = '.' := by
  have dot : '.'.toNat = 46 := rfl
  rw [← Char.toNat_inj, ← Char.toNat_inj, toNat_toLower, dot]
  split <;> omega

theorem endsInCsv_iff {name : String} : LandingZone.endsInCsv name = true ↔ EndsInCsv name := by
  have suffix : ".csv".toList = ['.', 'c', 's', 'v'] := rfl
  rw [LandingZone.endsInCsv, List.isSuffixOf_iff_suffix, suffix]
  constructor
  · rintro ⟨lowered, split⟩
    obtain ⟨stem, rest, whole, -, lowers⟩ := List.map_eq_append_iff.1 split.symm
    obtain ⟨dot, _, rfl, isDot, lowers⟩ := List.map_eq_cons_iff.1 lowers
    obtain ⟨c, _, rfl, isC, lowers⟩ := List.map_eq_cons_iff.1 lowers
    obtain ⟨s, _, rfl, isS, lowers⟩ := List.map_eq_cons_iff.1 lowers
    obtain ⟨v, _, rfl, isV, lowers⟩ := List.map_eq_cons_iff.1 lowers
    obtain rfl := List.map_eq_nil_iff.1 lowers
    obtain rfl := toLower_eq_dot.1 isDot
    refine ⟨stem, c, s, v, whole, ?_, ?_, ?_⟩
    · exact (toLower_eq_iff (by decide) (by decide)).1 isC
    · exact (toLower_eq_iff (by decide) (by decide)).1 isS
    · exact (toLower_eq_iff (by decide) (by decide)).1 isV
  · rintro ⟨stem, c, s, v, split, hc, hs, hv⟩
    have lowers : [c, s, v].map Char.toLower = ['c', 's', 'v'] := by
      rcases hc with rfl | rfl <;> rcases hs with rfl | rfl <;> rcases hv with rfl | rfl <;> rfl
    refine ⟨stem.map Char.toLower, ?_⟩
    rw [split, List.map_append, List.map_cons, lowers]
    rfl

/-- A key below a prefix is the prefix and what is left without it. -/
theorem eq_append_drop {keyPrefix key : String} (below : keyPrefix.toList <+: key.toList) :
    key = keyPrefix ++ String.ofList (key.toList.drop keyPrefix.length) := by
  obtain ⟨rest, split⟩ := below
  apply String.toList_injective
  rw [String.toList_append, String.toList_ofList, ← split, ← String.length_toList, List.drop_left]

theorem drop_append (keyPrefix name : String) :
    String.ofList ((keyPrefix ++ name).toList.drop keyPrefix.length) = name := by
  rw [String.toList_append, ← String.length_toList, List.drop_left, String.ofList_toList]

/-! ## What is listed -/

/-- The batches are the names directly below the inbox that are listed. -/
theorem mem_batchNames {keys : List String} (lists : Lists s.objects zone.inbox keys) {name : String} :
    name ∈ zone.batchNames keys ↔
      SlashFree name ∧ EndsInCsv name ∧ (s.objects (zone.inboxKey name)).isSome := by
  have direct : (!name.toList.contains '/') = true ↔ SlashFree name := by simp
  rw [LandingZone.batchNames, List.mem_insertionSort, List.mem_filter, Bool.and_eq_true, direct,
    endsInCsv_iff, List.mem_map]
  constructor
  · rintro ⟨⟨key, member, rfl⟩, free, csv⟩
    obtain ⟨stored, below⟩ := (lists.2 key).1 member
    refine ⟨free, csv, ?_⟩
    rw [LandingZone.inboxKey, ← eq_append_drop below]
    exact stored
  · rintro ⟨free, csv, stored⟩
    refine ⟨⟨zone.inboxKey name, (lists.2 _).2 ⟨stored, ?_⟩, drop_append ..⟩, free, csv⟩
    rw [LandingZone.inboxKey, String.toList_append]
    exact List.prefix_append ..

/-- Each batch is listed once, in order. -/
theorem batchNames_sorted {keys : List String} (lists : Lists s.objects zone.inbox keys) :
    (zone.batchNames keys).Pairwise (· < ·) := by
  have names : (keys.map fun key => String.ofList (key.toList.drop zone.inbox.length)).Nodup := by
    refine List.Nodup.map_on ?_ (lists.1.imp String.ne_of_lt)
    intro key member other member' same
    rw [eq_append_drop ((lists.2 key).1 member).2, eq_append_drop ((lists.2 other).1 member').2, same]
  have distinct : (zone.batchNames keys).Nodup :=
    (List.perm_insertionSort _ _).nodup_iff.2 (names.filter _)
  have sorted : (zone.batchNames keys).Pairwise (· ≤ ·) := List.pairwise_insertionSort _ _
  refine (sorted.and distinct).imp ?_
  rintro m n ⟨le, ne⟩
  rw [← String.not_le]
  exact fun ge => ne (String.le_antisymm le ge)

theorem listBatches_lists : Prog.Always (Answer lib avro) (fun _ t => t = s)
    (fun r t => t = s ∧ ∀ names, r = .ok names → names.Pairwise (· < ·) ∧ ∀ name, name ∈ names ↔
      SlashFree name ∧ EndsInCsv name ∧ (s.objects (zone.inboxKey name)).isSome) (listBatches zone) s := by
  refine ⟨rfl, fun answer t listed => ?_⟩
  cases listed with
  | notListed => exact ⟨rfl, fun names returned => nomatch returned⟩
  | @listed _ _ keys lists =>
    refine ⟨rfl, ?_⟩
    rintro _ ⟨⟩
    exact ⟨batchNames_sorted lists, fun name => mem_batchNames lists⟩

/-- A longer key is listed with it, and is not it. -/
theorem alreadyProcessed_exists (name : String) : Prog.Always (Answer lib avro) (fun _ t => t = s)
    (fun r t => t = s ∧ ∀ processed, r = .ok processed →
      processed = (s.objects (zone.processedKey name)).isSome) (alreadyProcessed zone name) s := by
  refine ⟨rfl, fun answer t listed => ?_⟩
  cases listed with
  | notListed => exact ⟨rfl, fun names returned => nomatch returned⟩
  | @listed _ _ keys lists =>
    refine ⟨rfl, ?_⟩
    rintro _ ⟨⟩
    have here : zone.processedKey name ∈ keys ↔ (s.objects (zone.processedKey name)).isSome := by
      rw [lists.2, and_iff_left (List.prefix_refl _)]
    exact Bool.eq_iff_iff.2 (by simpa using here)

/-! ## What is written -/

theorem writeRejects_other (name : String) (rejects : List Reject) :
    Prog.Always (Answer lib avro) (fun _ _ => True)
      (fun _ t => ∀ key ≠ zone.rejectsKey name, t.objects key = s.objects key)
      (writeRejects zone name rejects) s := by
  refine ⟨trivial, fun answer t wrote key other => ?_⟩
  cases wrote with
  | notWritten => rfl
  | written => exact Function.update_of_ne other ..

theorem markProcessed_other (name : String) : Prog.Always (Answer lib avro) (fun _ _ => True)
    (fun _ t => ∀ key ≠ zone.inboxKey name, key ≠ zone.processedKey name → t.objects key = s.objects key)
    (markProcessed zone name) s := by
  refine ⟨trivial, fun answer t copied => ?_⟩
  have kept : ∀ key ≠ zone.processedKey name, t.objects key = s.objects key := by
    intro key other
    cases copied with
    | notCopied => rfl
    | copied => exact Function.update_of_ne other ..
  cases answer with
  | error e => exact fun key _ other => kept key other
  | ok _ =>
    refine ⟨trivial, fun answer u deleted key apart other => ?_⟩
    cases deleted with
    | notDeleted => exact kept key other
    | deleted => exact (Function.update_of_ne apart ..).trans (kept key other)

end

/-- The zone is made of the prefixes it was given. -/
theorem landingZone_prefixes {repr : String → String} {inboxPrefix processedPrefix rejectsPrefix : String}
    {zone : LandingZone} (accepted : landingZone repr inboxPrefix processedPrefix rejectsPrefix = .ok zone) :
    zone.inbox = asPrefix inboxPrefix ∧ zone.processed = asPrefix processedPrefix ∧
      zone.rejects = asPrefix rejectsPrefix := by
  simp only [landingZone] at accepted
  split at accepted
  · cases accepted
  · split at accepted
    · cases accepted
    · rw [← Except.ok.inj accepted]
      simp only [and_self]

/-- **The roles never mix.** Every zone that the settings accept keeps its three roles apart,
whatever the bucket holds and whichever prefix lies inside another. -/
theorem landingZone_rolesApart (lib : Library) (avro : UnsubscribeEvent → Bytes)
    (inboxPrefix processedPrefix rejectsPrefix : String) (zone : LandingZone)
    (accepted : landingZone lib.repr inboxPrefix processedPrefix rejectsPrefix = .ok zone) (s : World) :
    zone.inbox = asPrefix inboxPrefix ∧ zone.processed = asPrefix processedPrefix ∧
      zone.rejects = asPrefix rejectsPrefix ∧ RolesApart lib avro zone s := by
  have apart : RolesApart lib avro zone s :=
    { listed := listBatches_lists
      inbox_processed := fun _ _ => LandingZone.inboxKey_ne_processedKey
      inbox_rejects := fun _ _ => LandingZone.inboxKey_ne_rejectsKey
      processed_rejects := fun _ _ => LandingZone.processedKey_ne_rejectsKey
      rejectsWritten := fun name rejects _ => writeRejects_other name rejects
      moved := fun name _ => markProcessed_other name
      alreadyProcessed := alreadyProcessed_exists }
  obtain ⟨inbox, processed, rejects⟩ := landingZone_prefixes accepted
  exact ⟨inbox, processed, rejects, apart⟩

/-- The zone of three prefixes that lie inside one another. -/
def LandingZone.nested : LandingZone where
  inbox := "legal/"
  processed := "legal/done/"
  rejects := "legal/done/rejects/"
  inbox_isPrefix := ⟨"legal".toList, by decide⟩
  processed_isPrefix := ⟨"legal/done".toList, by decide⟩
  rejects_isPrefix := ⟨"legal/done/rejects".toList, by decide⟩
  inbox_ne_processed := by decide
  inbox_ne_rejects := by decide
  processed_ne_rejects := by decide

/-- One batch in the inbox, one processed with its rejects, and a key that extends the
processed one. -/
def World.nested : World where
  objects key :=
    if key ∈ ["legal/b.CSV", "legal/done/a.csv", "legal/done/a.csv.bak",
        "legal/done/rejects/a.csv.rejects.csv"] then some [] else none
  ingesting := none
  opened _ := 0
  kafka := .fresh

theorem landingZone_nested : landingZone id "/legal" "legal/done/" "legal/done/rejects" = .ok .nested := rfl

theorem landingZone_nested_rolesApart :
    landingZone id "/legal" "legal/done/" "legal/done/rejects" = .ok .nested ∧
      RolesApart ⟨fun _ => none, id, fun _ => ⟨[], none⟩⟩ (fun _ => []) .nested .nested :=
  ⟨landingZone_nested, (landingZone_rolesApart ⟨_, id, _⟩ _ _ _ _ _ landingZone_nested _).2.2.2⟩

end Tikblog.Legal
