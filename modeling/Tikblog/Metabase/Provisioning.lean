import Tikblog.Metabase.Bootstrap
import Tikblog.Program.Footprint

/-!
# What a run leaves

The records are looked up by name among those that are not archived. A pass over a dashboard
touches what is found under its title and under the names of its cards, and nothing that a
later pass looks up, so that the listings of the start still hold for it. What a pass has
settled (`Settled`) is there at the end of the run (`provision_spec`).
-/

namespace Tikblog.Metabase

open Python Program Table

/-- The dashboard that is found under a title. -/
def Server.dashboard (s : Server) (title : String) : Option Dashboard :=
  s.dashboards.first (Dashboard.titled title)

/-- The card that is found under a name. -/
def Server.card (s : Server) (name : String) : Option Card := s.cards.first (Card.named name)

inductive Resource where
  | databases
  | dashboard (title : String)
  | card (name : String)

abbrev Resource.Value : Resource → Type
  | .databases => Registry Database.id
  | .dashboard _ => Option Dashboard
  | .card _ => Option Card

def view : (i : Resource) → Server → i.Value
  | .databases, s => s.databases
  | .dashboard title, s => s.dashboard title
  | .card name, s => s.card name

/-- What the pass over a dashboard touches. -/
def footprint (entry : String × List Item) : Set Resource :=
  {i | i = .dashboard entry.1 ∨ ∃ item ∈ entry.2, i = .card (cardName entry.1 item)}

variable {s t : Server} {title name : String} {d : Dashboard} {c : Card}

theorem Dashboard.titled_iff : d.titled title = true ↔ d.name = title ∧ d.archived = false := by
  simp [Dashboard.titled]

theorem Card.named_iff : c.named name = true ↔ c.name = name ∧ c.archived = false := by
  simp [Card.named]

theorem name_of_card (found : s.card name = some c) : c.name = name :=
  (Card.named_iff.1 (Registry.holds_of_first found)).1

theorem name_of_dashboard (found : s.dashboard title = some d) : d.name = title :=
  (Dashboard.titled_iff.1 (Registry.holds_of_first found)).1

/-! ## Requests -/

/-- A dashboard changed under its title is found there, and nothing else has changed. -/
theorem change_dashboard {f : Dashboard → Dashboard} (keeps : ∀ d, (f d).id = d.id)
    (found : s.dashboard title = some d) (named : ∀ d, d.name = title → (f d).name = title)
    (archived : ∀ d, (f d).archived = d.archived) :
    Within view {.dashboard title} s (s.changeDashboard d.id f keeps) ∧
      (s.changeDashboard d.id f keeps).dashboard title = some (f d) := by
  have old := Dashboard.titled_iff.1 (Registry.holds_of_first found)
  constructor
  · intro i outside
    cases i with
    | databases => rfl
    | card name => rfl
    | dashboard other =>
      have differs : title ≠ other := fun same => outside (congrArg Resource.dashboard same.symm)
      apply Registry.first_put_of_not keeps
      · intro b member ids
        rw [Registry.eq_of_id member (Registry.mem_of_first found) ids]
        exact Bool.eq_false_iff.2 fun here => differs (old.1.symm.trans (Dashboard.titled_iff.1 here).1)
      · intro b member ids
        rw [Registry.eq_of_id member (Registry.mem_of_first found) ids]
        exact Bool.eq_false_iff.2 fun here =>
          differs ((named d old.1).symm.trans (Dashboard.titled_iff.1 here).1)
  · exact Registry.first_put keeps found (Dashboard.titled_iff.2 ⟨named d old.1, (archived d).trans old.2⟩)

/-- A card replaced under its name is found there, and nothing else has changed. -/
theorem put_card {body : CardBody} (found : s.card body.name = some c) :
    Within view {.card body.name} s (s.putCard c.id body) ∧
      (s.putCard c.id body).card body.name = some (c.set body) := by
  have old := Card.named_iff.1 (Registry.holds_of_first found)
  constructor
  · intro i outside
    cases i with
    | databases => rfl
    | dashboard title => rfl
    | card other =>
      have differs : body.name ≠ other := fun same => outside (congrArg Resource.card same.symm)
      apply Registry.first_put_of_not (Card.set_id body)
      · intro b member ids
        rw [Registry.eq_of_id member (Registry.mem_of_first found) ids]
        exact Bool.eq_false_iff.2 fun here => differs (old.1.symm.trans (Card.named_iff.1 here).1)
      · intro b member ids
        exact Bool.eq_false_iff.2 fun here => differs (Card.named_iff.1 here).1
  · exact Registry.first_put (Card.set_id body) found (Card.named_iff.2 ⟨rfl, old.2⟩)

theorem insert_card {cards : Registry Card.id} (none : s.card name = none) (named : c.name = name)
    (live : c.archived = false) (inserts : s.cards.Inserts c cards) :
    Within view {.card name} s { s with cards := cards } ∧
      Server.card { s with cards := cards } name = some c := by
  constructor
  · intro i outside
    cases i with
    | databases => rfl
    | dashboard title => rfl
    | card other =>
      apply Registry.first_insert_of_not inserts
      exact Bool.eq_false_iff.2 fun here =>
        outside (congrArg Resource.card ((Card.named_iff.1 here).1.symm.trans named))
  · exact Registry.first_insert inserts none (Card.named_iff.2 ⟨named, live⟩)

theorem insert_dashboard {dashboards : Registry Dashboard.id} (none : s.dashboard title = none)
    (named : d.name = title) (live : d.archived = false) (inserts : s.dashboards.Inserts d dashboards) :
    Within view {.dashboard title} s { s with dashboards := dashboards } ∧
      Server.dashboard { s with dashboards := dashboards } title = some d := by
  constructor
  · intro i outside
    cases i with
    | databases => rfl
    | card name => rfl
    | dashboard other =>
      apply Registry.first_insert_of_not inserts
      exact Bool.eq_false_iff.2 fun here =>
        outside (congrArg Resource.dashboard ((Dashboard.titled_iff.1 here).1.symm.trans named))
  · exact Registry.first_insert inserts none (Dashboard.titled_iff.2 ⟨named, live⟩)

theorem confined_api {o : Op} {footprint : Set Resource} {Q : Value o → Server → Prop}
    (effects : ∀ value t, Effect o s value t → Within view footprint s t ∧ Q value t) :
    Prog.Confined ApiExec view footprint Q (api o) s := by
  apply always_api
  · exact trivial
  · intro value t effect
    refine ⟨(effects value t effect).1, fun _ returned => ?_⟩
    cases returned
    exact (effects value t effect).2
  · exact fun e => ⟨.refl, fun _ returned => nomatch returned⟩
  · exact fun e value t effect => ⟨(effects value t effect).1, fun _ returned => nomatch returned⟩

/-- A request that changes nothing where it is made. -/
theorem still_api {o : Op} {Q : Value o → Prop} (quiet : ¬ o.Creates)
    (effects : ∀ value t, Effect o s value t → t = s ∧ Q value) :
    Prog.Still ApiExec (fun o => ¬ o.Creates) Q (api o) s := by
  apply always_api
  · exact ⟨rfl, quiet⟩
  · intro value t effect
    refine ⟨(effects value t effect).1, fun _ returned => ?_⟩
    cases returned
    exact (effects value t effect).2
  · exact fun e => ⟨rfl, fun _ returned => nomatch returned⟩
  · exact fun e value t effect => ⟨(effects value t effect).1, fun _ returned => nomatch returned⟩

theorem putOrPostCard_spec {cards : List Card} {body : CardBody}
    (listed : cards.find? (Card.named body.name) = s.card body.name) :
    Prog.Confined ApiExec view {.card body.name}
      (fun c t => t.card body.name = some c ∧ c.toCardBody = body) (putOrPostCard cards body) s := by
  rw [putOrPostCard, listed]
  cases found : s.card body.name with
  | some existing =>
    apply confined_api
    intro c t effect
    cases effect with
    | @updated _ _ _ c₀ here ids =>
      obtain rfl : c₀ = existing := Registry.eq_of_id here (Registry.mem_of_first found) ids
      obtain ⟨within, there⟩ := put_card found
      exact ⟨within, there, rfl⟩
  | none =>
    apply confined_api
    intro c t effect
    cases effect with
    | created same live inserts =>
      obtain ⟨within, there⟩ := insert_card found (congrArg CardBody.name same) live inserts
      exact ⟨within, there, same⟩

theorem findOrPostDashboard_spec {dashboards : List Dashboard}
    (listed : dashboards.find? (Dashboard.titled title) = s.dashboard title) :
    Prog.Confined ApiExec view {.dashboard title} (fun d t => t.dashboard title = some d)
      (findOrPostDashboard dashboards title) s := by
  rw [findOrPostDashboard, listed]
  cases found : s.dashboard title with
  | some existing => exact .pure found
  | none =>
    apply confined_api
    intro d t effect
    cases effect with
    | opened same live _ inserts => exact insert_dashboard found same live inserts

theorem getDashboard_spec (found : s.dashboard title = some d) :
    Prog.Still ApiExec (fun o => ¬ o.Creates) (fun current => current = d) (api (.getDashboard d.id)) s := by
  apply still_api (o := .getDashboard d.id)
  · exact id
  · intro current t effect
    cases effect with
    | dashboard here ids => exact ⟨rfl, Registry.eq_of_id here (Registry.mem_of_first found) ids⟩

theorem getDashboards_spec :
    Prog.Still ApiExec (fun o => ¬ o.Creates) (fun listed => listed = s.dashboards.records)
      (api .getDashboards) s := by
  apply still_api (o := .getDashboards)
  · exact id
  · intro listed t effect
    cases effect with
    | dashboards => exact ⟨rfl, rfl⟩

theorem getCards_spec :
    Prog.Still ApiExec (fun o => ¬ o.Creates) (fun listed => listed = s.cards.records) (api .getCards) s := by
  apply still_api (o := .getCards)
  · exact id
  · intro listed t effect
    cases effect with
    | cards => exact ⟨rfl, rfl⟩

/-- What is stored is laid out as it was requested. -/
theorem layouts_of_stored {old : List (Placement ℕ)} {requested : List (Placement ℤ)}
    {stored : List (Placement ℕ)} (each : List.Forall₂ (Stored old) requested stored) :
    requested.map Placement.toLayout = stored.map Placement.toLayout := by
  rw [← List.forall₂_eq_eq_eq, List.forall₂_map_left_iff, List.forall₂_map_right_iff]
  exact each.imp fun _ _ pair => pair.layout.symm

theorem putDashboard_spec {placements : List (Placement ℤ)} (found : s.dashboard title = some d) :
    Prog.Confined ApiExec view {.dashboard title}
      (fun _ t => ∃ dashcards, placements.map Placement.toLayout = dashcards.map Placement.toLayout ∧
        t.dashboard title = some (d.set (dashboardBody title placements) dashcards))
      (api (.putDashboard d.id (dashboardBody title placements))) s := by
  apply confined_api
  intro _ t effect
  cases effect with
  | @arranged _ _ _ d₀ dashcards here ids stored _ =>
    obtain rfl : d₀ = d := Registry.eq_of_id here (Registry.mem_of_first found) ids
    obtain ⟨within, there⟩ := change_dashboard (Dashboard.set_id (dashboardBody title placements) dashcards)
      found (fun _ _ => rfl) (fun _ => rfl)
    exact ⟨within, dashcards, layouts_of_stored stored, there⟩

theorem publicLink_spec (found : s.dashboard title = some d) :
    Prog.Confined ApiExec view {.dashboard title}
      (fun uuid t => uuid ≠ "" ∧ t.dashboard title = some (d.publish uuid))
      (publicLink d.id d.publicUuid) s := by
  have posted : Prog.Confined ApiExec view {.dashboard title}
      (fun uuid t => uuid ≠ "" ∧ t.dashboard title = some (d.publish uuid))
      (api (.postPublicLink d.id)) s := by
    apply confined_api
    intro uuid t effect
    cases effect with
    | @published _ _ d₀ _ here ids some_uuid given =>
      obtain rfl : d₀ = d := Registry.eq_of_id here (Registry.mem_of_first found) ids
      obtain ⟨within, there⟩ := change_dashboard (Dashboard.publish_id uuid) found
        (fun _ same => same) (fun _ => rfl)
      exact ⟨within, some_uuid, there⟩
  unfold publicLink
  split
  · exact posted
  · exact posted
  · next uuid some_uuid given =>
    refine .pure ⟨some_uuid, found.trans (congrArg some ?_)⟩
    rw [Dashboard.publish, ← given]

/-! ## One pass -/

section

variable (queries : String → Except PyException String) (databaseId : ℕ)

/-- The card of an item is as its body says, and it is what the placement of the item shows. -/
def Shown (title : String) (entry : Item × ℕ) (l : Layout) (t : Server) : Prop :=
  ∃ sql card, queries entry.1.file = .ok sql ∧ t.card (cardName title entry.1) = some card ∧
    card.toCardBody = cardBody databaseId title entry.1 sql ∧ l = layout title entry.2 card.id

/-- A dashboard as the pass over it leaves it. -/
structure Arranged (title : String) (items : List Item) (publicUuid : String) (d : Dashboard) (t : Server) :
    Prop where
  description : d.description = some (Metabase.description (title = "Management"))
  parameters : d.parameters = Metabase.parameters (title = "Management")
  shown : List.Forall₂ (fun entry l => Shown queries databaseId title entry l t) items.zipIdx
    (d.dashcards.map Placement.toLayout)
  uuid_ne : publicUuid ≠ ""
  linked : d.publicUuid = some publicUuid

/-- What the pass over a dashboard has settled when it returns its public link. -/
def Settled (entry : String × List Item) (link : String × String) (t : Server) : Prop :=
  link.1 = entry.1 ∧
    ∃ d, t.dashboard entry.1 = some d ∧ Arranged queries databaseId entry.1 entry.2 link.2 d t

/-- The listings of the start hold for the dashboard and its cards. -/
def Listed (dashboards : List Dashboard) (cards : List Card) (entry : String × List Item) (s : Server) :
    Prop :=
  dashboards.find? (Dashboard.titled entry.1) = s.dashboard entry.1 ∧
    ∀ item ∈ entry.2, cards.find? (Card.named (cardName entry.1 item)) = s.card (cardName entry.1 item)

end

section

variable {queries : String → Except PyException String} {databaseId : ℕ}

theorem Shown.local {entry : Item × ℕ} {l : Layout} :
    LocalTo view {.card (cardName title entry.1)} (Shown queries databaseId title entry l) := by
  rintro s t same ⟨sql, card, read, found, body, laid⟩
  exact ⟨sql, card, read, (same _ rfl).trans found, body, laid⟩

theorem provisionItem_spec {cards : List Card} {dashcards : List (Placement ℕ)} {entry : Item × ℕ}
    (listed : cards.find? (Card.named (cardName title entry.1)) = s.card (cardName title entry.1)) :
    Prog.Confined ApiExec view {.card (cardName title entry.1)}
      (fun p t => Shown queries databaseId title entry p.toLayout t)
      (provisionItem queries databaseId cards title dashcards entry) s := by
  obtain ⟨item, position⟩ := entry
  simp only [provisionItem]
  cases read : queries item.file with
  | error e => exact .raise
  | ok sql =>
    have saving := @putOrPostCard_spec s cards (cardBody databaseId title item sql) listed
    apply saving.seq subset_rfl
    rintro card t _ ⟨found, body⟩
    exact .pure ⟨sql, card, read, found, body, rfl⟩

theorem cards_apart {items : List Item} (distinct : (items.map (cardName title)).Nodup) :
    items.zipIdx.Pairwise fun entry entry' => Disjoint ({.card (cardName title entry.1)} : Set Resource)
      {.card (cardName title entry'.1)} := by
  have names : (items.zipIdx.map fun entry => cardName title entry.1).Nodup := by
    have each := List.map_map (f := Prod.fst) (g := cardName title) (l := items.zipIdx)
    rw [List.zipIdx_map_fst] at each
    exact each ▸ distinct
  apply (List.pairwise_map.1 names).imp
  intro entry entry' differ
  exact Set.disjoint_singleton.2 fun same => differ (Resource.card.inj same)

theorem provisionItems_spec {cards : List Card} {dashcards : List (Placement ℕ)} {items : List Item}
    (distinct : (items.map (cardName title)).Nodup)
    (listed : ∀ item ∈ items, cards.find? (Card.named (cardName title item)) = s.card (cardName title item)) :
    Prog.Confined ApiExec view {i | ∃ item ∈ items, i = .card (cardName title item)}
      (fun placements t => List.Forall₂ (fun entry l => Shown queries databaseId title entry l t)
        items.zipIdx (placements.map Placement.toLayout))
      (Prog.mapEach items.zipIdx (provisionItem queries databaseId cards title dashcards)) s := by
  have run := Prog.Confined.mapEach (g := provisionItem queries databaseId cards title dashcards)
    (fun entry => {Resource.card (cardName title entry.1)})
    (fun entry s => cards.find? (Card.named (cardName title entry.1)) = s.card (cardName title entry.1))
    (fun entry p t => Shown queries databaseId title entry p.toLayout t)
    (fun entry s t same listed => listed.trans (same (.card (cardName title entry.1)) rfl).symm)
    (fun entry p => Shown.local) (fun entry _ s listed => provisionItem_spec listed) (cards_apart distinct)
    fun entry member => listed entry.1 (List.fst_mem_of_mem_zipIdx member)
  refine run.mono ?_ fun placements t shown => List.forall₂_map_right_iff.2 shown
  intro i inside
  obtain ⟨entry, member, here⟩ := Set.mem_iUnion₂.1 inside
  exact ⟨entry.1, List.fst_mem_of_mem_zipIdx member, here⟩

/-- **One pass.** -/
theorem provisionDashboard_spec {dashboards : List Dashboard} {cards : List Card}
    {entry : String × List Item} (distinct : (entry.2.map (cardName entry.1)).Nodup)
    (listed : Listed dashboards cards entry s) :
    Prog.Confined ApiExec view (footprint entry) (Settled queries databaseId entry)
      (provisionDashboard queries databaseId dashboards cards entry) s := by
  obtain ⟨title, items⟩ := entry
  simp only [provisionDashboard]
  have inside : ({.dashboard title} : Set Resource) ⊆ footprint (title, items) := fun _ here => .inl here
  apply (findOrPostDashboard_spec listed.1).seq inside
  intro d t₁ opened there
  apply Prog.Confined.seq_still (getDashboard_spec there)
  rintro current rfl
  have listed₁ : ∀ item ∈ items,
      cards.find? (Card.named (cardName title item)) = t₁.card (cardName title item) := fun item member =>
    (listed.2 item member).trans (opened (.card (cardName title item)) (fun same => nomatch same)).symm
  apply (provisionItems_spec distinct listed₁).seq fun _ here => .inr here
  intro placements t₂ saved shown
  have there₂ : t₂.dashboard title = some current :=
    (saved (.dashboard title) (by rintro ⟨_, _, same⟩; cases same)).trans there
  apply (putDashboard_spec there₂).seq inside
  rintro _ t₃ put ⟨dashcards, laid, there₃⟩
  apply (publicLink_spec there₃).seq inside
  rintro uuid t₄ published ⟨some_uuid, there₄⟩
  refine .pure ⟨rfl, _, there₄, rfl, rfl, ?_, some_uuid, rfl⟩
  have cards_kept : ∀ name, t₄.card name = t₂.card name := fun name =>
    (published (.card name) (fun same => nomatch same)).trans (put (.card name) (fun same => nomatch same))
  rw [laid] at shown
  apply shown.imp
  intro entry l here
  exact Shown.local _ _ (fun i member => by cases member; exact cards_kept _) here

/-! ## The run -/

theorem Arranged.local {items : List Item} {publicUuid : String} :
    LocalTo view {i | ∃ item ∈ items, i = .card (cardName title item)}
      (Arranged queries databaseId title items publicUuid d) := by
  intro s t same arranged
  refine { arranged with shown := ?_ }
  have entries := List.forall₂_iff_zip.1 arranged.shown
  refine List.forall₂_iff_zip.2 ⟨entries.1, fun {entry l} member => ?_⟩
  apply Shown.local _ _ _ (entries.2 member)
  intro i here
  cases here
  exact same _ ⟨entry.1, List.fst_mem_of_mem_zipIdx (List.of_mem_zip member).1, rfl⟩

theorem Settled.local {entry : String × List Item} {link : String × String} :
    LocalTo view (footprint entry) (Settled queries databaseId entry link) := by
  rintro s t same ⟨titled, d, found, arranged⟩
  exact ⟨titled, d, (same (.dashboard entry.1) (.inl rfl)).trans found,
    Arranged.local s t (fun i here => same i (.inr here)) arranged⟩

theorem Listed.local {dashboards : List Dashboard} {cards : List Card} {entry : String × List Item} :
    LocalTo view (footprint entry) (Listed dashboards cards entry) := by
  rintro s t same ⟨dashboard, each⟩
  exact ⟨dashboard.trans (same (.dashboard entry.1) (.inl rfl)).symm, fun item member =>
    (each item member).trans (same (.card (cardName entry.1 item)) (.inr ⟨item, member, rfl⟩)).symm⟩

/-- `title: item` for each item of the file. -/
def Spec.cardNames (spec : Spec) : List String :=
  spec.dashboards.flatMap fun entry => entry.2.map (cardName entry.1)

theorem footprints_apart {spec : Spec} (distinct : spec.cardNames.Nodup) :
    spec.dashboards.Pairwise fun entry entry' => Disjoint (footprint entry) (footprint entry') := by
  have titles := List.pairwise_map.1 spec.titles_nodup
  have cards := (List.nodup_flatMap.1 distinct).2
  apply (titles.and cards).imp
  rintro entry entry' ⟨title_ne, names_apart⟩
  rw [Set.disjoint_left]
  rintro i (rfl | ⟨item, member, rfl⟩) (same | ⟨item', member', same⟩)
  · exact title_ne (Resource.dashboard.inj same)
  · cases same
  · cases same
  · have name := Resource.card.inj same
    exact names_apart (List.mem_map_of_mem member) (name ▸ List.mem_map_of_mem member')

theorem provision_spec {spec : Spec} (distinct : spec.cardNames.Nodup) :
    Prog.Confined ApiExec view (⋃ entry ∈ spec.dashboards, footprint entry)
      (fun links t => List.Forall₂ (fun entry link => Settled queries databaseId entry link t)
        spec.dashboards links)
      (provision queries databaseId spec) s := by
  apply Prog.Confined.seq_still getDashboards_spec
  rintro _ rfl
  apply Prog.Confined.seq_still getCards_spec
  rintro _ rfl
  apply Prog.Confined.mapEach footprint (Listed s.dashboards.records s.cards.records)
    (Settled queries databaseId) (fun _ => Listed.local) (fun _ _ => Settled.local)
    (fun entry member s listed =>
      provisionDashboard_spec ((List.nodup_flatMap.1 distinct).1 entry member) listed)
    (footprints_apart distinct)
  exact fun entry _ => ⟨rfl, fun _ _ => rfl⟩

end

end Tikblog.Metabase
