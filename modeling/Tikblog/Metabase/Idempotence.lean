import Tikblog.Metabase.Provisioning

/-!
# Running it again

Where a run has been, every `PUT` gives a record the fields it has, every placement is asked
for with its own id, and nothing is missing: a second run makes its requests and changes
nothing (`bootstrap_again`). What the first run leaves is what the second one needs.
-/

namespace Tikblog.Metabase

open Python Program Table

variable {s t : Server} {title name : String} {d : Dashboard} {c : Card}
  {sparkSqlHost : String} {sparkSqlPort : Except PyException ℤ}
  {queries : String → Except PyException String} {databaseId : ℕ}

/-! ## The connection -/

/-- The database of the connection has the given id and is configured as the environment says. -/
def Connected (sparkSqlHost : String) (sparkSqlPort : Except PyException ℤ) (databaseId : ℕ) (s : Server) :
    Prop :=
  ∃ d, s.databases.first (Database.named "TikBlog Analytics") = some d ∧ d.id = databaseId ∧
    connectionConfig sparkSqlHost sparkSqlPort = .ok d.toDatabaseConfig

theorem getDatabases_spec :
    Prog.Still ApiExec (fun o => ¬ o.Creates) (fun listed => listed = s.databases.records)
      (api .getDatabases) s := by
  apply still_api (o := .getDatabases)
  · exact id
  · intro listed t effect
    cases effect with
    | databases => exact ⟨rfl, rfl⟩

theorem named_of_config {d : Database} {config : DatabaseConfig}
    (read : connectionConfig sparkSqlHost sparkSqlPort = .ok config) (same : d.toDatabaseConfig = config) :
    d.named "TikBlog Analytics" = true := by
  subst same
  cases port : sparkSqlPort with
  | error e =>
    rw [port] at read
    cases read
  | ok number =>
    rw [port] at read
    have configured := Except.ok.inj read
    rw [Database.named, ← configured]
    rfl

theorem within_databases {databases : Registry Database.id} :
    Within view {.databases} s { s with databases := databases } := by
  intro i outside
  cases i with
  | databases => exact absurd rfl outside
  | dashboard => rfl
  | card => rfl

theorem ensureConnection_spec :
    Prog.Confined ApiExec view {.databases} (Connected sparkSqlHost sparkSqlPort)
      (ensureConnection sparkSqlHost sparkSqlPort) s := by
  apply Prog.Confined.seq_still getDatabases_spec
  rintro _ rfl
  cases read : connectionConfig sparkSqlHost sparkSqlPort with
  | error e => exact .raise
  | ok config =>
    simp only [Prog.ofExcept, Prog.bind_eq, Prog.bind_ok]
    split
    · next existing found =>
      have put : Prog.Confined ApiExec view {.databases}
          (fun _ t => t.databases.first (Database.named "TikBlog Analytics") = some (existing.set config))
          (api (.putDatabase existing.id config)) s := by
        apply confined_api
        intro _ t effect
        cases effect with
        | configured here ids =>
          refine ⟨within_databases, Registry.first_put (Database.set_id config) found ?_⟩
          exact named_of_config read rfl
      apply put.seq subset_rfl
      exact fun _ t _ there => .pure ⟨_, there, rfl, read⟩
    · next none =>
      have posted : Prog.Confined ApiExec view {.databases}
          (fun d t => t.databases.first (Database.named "TikBlog Analytics") = some d ∧
            d.toDatabaseConfig = config) (api (.postDatabase config)) s := by
        apply confined_api
        intro d t effect
        cases effect with
        | connected same inserts =>
          exact ⟨within_databases, Registry.first_insert inserts none (named_of_config read same), same⟩
      apply posted.seq subset_rfl
      rintro created t _ ⟨there, same⟩
      exact .pure ⟨created, there, rfl, read.trans (congrArg Except.ok same.symm)⟩

theorem ensureConnection_again (connected : Connected sparkSqlHost sparkSqlPort databaseId s) :
    Prog.Still ApiExec (fun o => ¬ o.Creates) (fun id => id = databaseId)
      (ensureConnection sparkSqlHost sparkSqlPort) s := by
  obtain ⟨d, found, rfl, read⟩ := connected
  apply getDatabases_spec.seq
  rintro _ rfl
  have listed : s.databases.records.find? (Database.named "TikBlog Analytics") = some d := found
  simp only [read, listed, Prog.ofExcept, Prog.bind_eq, Prog.bind_ok]
  have put : Prog.Still ApiExec (fun o => ¬ o.Creates) (fun _ => True)
      (api (.putDatabase d.id d.toDatabaseConfig)) s := by
    apply still_api (o := .putDatabase d.id d.toDatabaseConfig)
    · exact id
    · intro _ t effect
      cases effect with
      | configured =>
        have same :=
          Registry.put_eq_self (Database.set_id d.toDatabaseConfig) (Registry.mem_of_first found) rfl
        exact ⟨congrArg (fun databases => { s with databases := databases }) same, trivial⟩
  exact put.seq fun _ _ => .pure rfl

/-! ## A dashboard -/

/-- A stored placement, asked for with its own id. -/
def Placement.asked (p : Placement ℕ) : Placement ℤ := { p with id := p.id }

/-- Of the placements of a dashboard that is as its pass left it, no two show the same card. -/
theorem Arranged.cards_differ {items : List Item} {uuid : String}
    (arranged : Arranged queries databaseId title items uuid d s)
    (distinct : (items.map (cardName title)).Nodup) :
    d.dashcards.Pairwise fun p q => p.cardId ≠ q.cardId := by
  have shown := List.forall₂_iff_get.1 (List.forall₂_map_right_iff.1 arranged.shown)
  obtain ⟨same_length, each⟩ := shown
  rw [List.length_zipIdx] at same_length
  rw [List.pairwise_iff_getElem]
  intro i j hi hj before same
  have inside : i < items.zipIdx.length := by rw [List.length_zipIdx]; omega
  have inside' : j < items.zipIdx.length := by rw [List.length_zipIdx]; omega
  obtain ⟨_, card, -, found, -, laid⟩ := each i inside hi
  obtain ⟨_, card', -, found', -, laid'⟩ := each j inside' hj
  have ids : card.id = card'.id := by
    have shows := (congrArg Layout.cardId laid).symm.trans (same.trans (congrArg Layout.cardId laid'))
    exact Option.some.inj shows
  have one := Registry.eq_of_id (Registry.mem_of_first found) (Registry.mem_of_first found') ids
  subst one
  have names := (name_of_card found).symm.trans (name_of_card found')
  have apart := List.pairwise_iff_getElem.1 distinct i j (by rw [List.length_map]; omega)
    (by rw [List.length_map]; omega) before
  apply apart
  simpa using names

/-- A card that one placement shows is looked up to the id of the placement. -/
theorem existingPlacements_eq {dashcards : List (Placement ℕ)} {p : Placement ℕ} {cardId : ℕ}
    (distinct : dashcards.Pairwise fun p q => p.cardId ≠ q.cardId) (member : p ∈ dashcards)
    (shows : p.cardId = some cardId) : existingPlacements dashcards cardId = some p.id := by
  have nodup : (dashcards.map fun p => p.cardId).Nodup := List.pairwise_map.2 distinct
  rw [existingPlacements]
  cases found : dashcards.reverse.find? fun d => d.cardId = some cardId with
  | none =>
    have missing := List.find?_eq_none.1 found p (List.mem_reverse.2 member)
    exact absurd (decide_eq_true shows) missing
  | some q =>
    have there : q.cardId = some cardId := by simpa using List.find?_some found
    have listed : q ∈ dashcards := List.mem_reverse.1 (List.mem_of_find?_eq_some found)
    rw [List.inj_on_of_nodup_map nodup listed member (there.trans shows.symm)]
    rfl

theorem putOrPostCard_again (found : s.card c.name = some c) :
    Prog.Still ApiExec (fun o => ¬ o.Creates) (fun saved => saved = c)
      (putOrPostCard s.cards.records c.toCardBody) s := by
  have listed : s.cards.records.find? (Card.named c.name) = some c := found
  rw [putOrPostCard, listed]
  apply still_api (o := .putCard c.id c.toCardBody)
  · exact id
  · intro saved t effect
    cases effect with
    | @updated _ _ _ c₀ here ids =>
      obtain rfl : c₀ = c := Registry.eq_of_id here (Registry.mem_of_first found) ids
      have same := Registry.put_eq_self (Card.set_id c₀.toCardBody) (Registry.mem_of_first found) rfl
      exact ⟨congrArg (fun cards => { s with cards := cards }) same, rfl⟩

/-- The placement of an item is asked for with its own id. -/
theorem provisionItem_again {dashcards : List (Placement ℕ)} {entry : Item × ℕ} {p : Placement ℕ}
    (distinct : dashcards.Pairwise fun p q => p.cardId ≠ q.cardId) (member : p ∈ dashcards)
    (shown : Shown queries databaseId title entry p.toLayout s) :
    Prog.Still ApiExec (fun o => ¬ o.Creates) (fun q => q = p.asked)
      (provisionItem queries databaseId s.cards.records title dashcards entry) s := by
  obtain ⟨item, position⟩ := entry
  obtain ⟨sql, card, read, found, body, laid⟩ := shown
  have named : card.name = cardName title item := congrArg CardBody.name body
  have existing : existingPlacements dashcards card.id = some p.id :=
    existingPlacements_eq distinct member (congrArg Layout.cardId laid)
  simp only [provisionItem, read, ← body, Prog.ofExcept, Prog.bind_eq, Prog.bind_ok]
  apply (putOrPostCard_again (named ▸ found)).seq
  rintro _ rfl
  simp only [existing]
  refine .pure ?_
  rw [Placement.asked, laid]

theorem Placement.eq_of_layout {p q : Placement ℕ} (layout : p.toLayout = q.toLayout) (id : p.id = q.id) :
    p = q := by
  cases p
  cases q
  subst layout id
  rfl

/-- Placements that are asked for with their own ids stay as they are. -/
theorem forall₂_stored_asked {old stored : List (Placement ℕ)}
    (each : List.Forall₂ (Stored old) (old.map Placement.asked) stored) : stored = old := by
  obtain ⟨same_length, each⟩ := List.forall₂_iff_get.1 each
  rw [List.length_map] at same_length
  apply List.ext_getElem same_length.symm
  intro i hi inside
  have pair := each i (by rw [List.length_map]; exact inside) hi
  simp only [List.get_eq_getElem, List.getElem_map] at pair
  exact Placement.eq_of_layout pair.layout (pair.kept _ (List.getElem_mem inside) rfl)

theorem provisionItems_again {items : List Item} {uuid : String}
    (arranged : Arranged queries databaseId title items uuid d s)
    (distinct : (items.map (cardName title)).Nodup) :
    Prog.Still ApiExec (fun o => ¬ o.Creates) (fun placements => placements = d.dashcards.map Placement.asked)
      (Prog.mapEach items.zipIdx (provisionItem queries databaseId s.cards.records title d.dashcards)) s := by
  apply Prog.Still.mapEach
  rw [List.forall₂_map_right_iff]
  obtain ⟨same_length, shown⟩ := List.forall₂_iff_zip.1 (List.forall₂_map_right_iff.1 arranged.shown)
  refine List.forall₂_iff_zip.2 ⟨same_length, fun {entry p} member => ?_⟩
  exact provisionItem_again (arranged.cards_differ distinct) (List.of_mem_zip member).2 (shown member)

theorem putDashboard_again {items : List Item} {uuid : String} (found : s.dashboard title = some d)
    (arranged : Arranged queries databaseId title items uuid d s) :
    Prog.Still ApiExec (fun o => ¬ o.Creates) (fun _ => True)
      (api (.putDashboard d.id (dashboardBody title (d.dashcards.map Placement.asked)))) s := by
  apply still_api (o := .putDashboard d.id (dashboardBody title (d.dashcards.map Placement.asked)))
  · exact id
  · intro _ t effect
    cases effect with
    | @arranged _ _ _ d₀ dashcards here ids stored _ =>
      obtain rfl : d₀ = d := Registry.eq_of_id here (Registry.mem_of_first found) ids
      obtain rfl : dashcards = d₀.dashcards := forall₂_stored_asked stored
      have unchanged : d₀.set (dashboardBody title (d₀.dashcards.map Placement.asked)) d₀.dashcards = d₀ := by
        rw [Dashboard.set, dashboardBody, ← arranged.description, ← arranged.parameters,
          ← name_of_dashboard found]
      have same :=
        Registry.put_eq_self (Dashboard.set_id _ d₀.dashcards) (Registry.mem_of_first found) unchanged
      exact ⟨congrArg (fun dashboards => { s with dashboards := dashboards }) same, trivial⟩

/-- A dashboard that has a link keeps it. -/
theorem publicLink_of_ne {id : ℕ} {uuid : String} (nonempty : uuid ≠ "") :
    publicLink id (some uuid) = return uuid := by
  rw [publicLink]
  exact nonempty

/-- **A second pass.** Where a dashboard and its cards are as the first pass left them, nothing
changes. -/
theorem provisionDashboard_again {entry : String × List Item} {link : String × String}
    (distinct : (entry.2.map (cardName entry.1)).Nodup) (settled : Settled queries databaseId entry link s) :
    Prog.Still ApiExec (fun o => ¬ o.Creates) (fun again => again = link)
      (provisionDashboard queries databaseId s.dashboards.records s.cards.records entry) s := by
  obtain ⟨title, items⟩ := entry
  obtain ⟨titled, uuid⟩ := link
  obtain ⟨rfl : titled = title, d, found, arranged⟩ := settled
  have listed : s.dashboards.records.find? (Dashboard.titled titled) = some d := found
  simp only [provisionDashboard, findOrPostDashboard, listed]
  apply (getDashboard_spec found).seq
  rintro current rfl
  apply (provisionItems_again arranged distinct).seq
  rintro _ rfl
  apply (putDashboard_again found arranged).seq
  rintro _ _
  rw [arranged.linked, publicLink_of_ne arranged.uuid_ne]
  exact .pure rfl

/-! ## The run -/

theorem provision_again {spec : Spec} {links : List (String × String)} (distinct : spec.cardNames.Nodup)
    (settled : List.Forall₂ (fun entry link => Settled queries databaseId entry link s) spec.dashboards
      links) :
    Prog.Still ApiExec (fun o => ¬ o.Creates) (fun again => again = links) (provision queries databaseId spec)
      s := by
  apply getDashboards_spec.seq
  rintro _ rfl
  apply getCards_spec.seq
  rintro _ rfl
  apply Prog.Still.mapEach
  obtain ⟨same_length, each⟩ := List.forall₂_iff_zip.1 settled
  refine List.forall₂_iff_zip.2 ⟨same_length, fun {entry link} member => ?_⟩
  have names := (List.nodup_flatMap.1 distinct).1 entry (List.of_mem_zip member).1
  exact provisionDashboard_again names (each member)

/-- The dashboard of a title shows one placement for each of its items, bound to the card of the
item, and the query of the card uses the database. -/
def Shows (databaseId : ℕ) (s : Server) (entry : String × List Item) : Prop :=
  ∃ d, s.dashboard entry.1 = some d ∧ d.dashcards.Pairwise (fun p q => p.cardId ≠ q.cardId) ∧
    List.Forall₂ (fun item p => ∃ card, s.card (cardName entry.1 item) = some card ∧
      p.cardId = some card.id ∧ card.datasetQuery.getItem "database" = .ok (.num (toString databaseId)))
      entry.2 d.dashcards

theorem Settled.shows {entry : String × List Item} {link : String × String}
    (distinct : (entry.2.map (cardName entry.1)).Nodup) (settled : Settled queries databaseId entry link s) :
    Shows databaseId s entry := by
  obtain ⟨-, d, found, arranged⟩ := settled
  refine ⟨d, found, arranged.cards_differ distinct, ?_⟩
  have shown := List.forall₂_map_right_iff.1 arranged.shown
  rw [← List.zipIdx_map_fst 0 entry.2, List.forall₂_map_left_iff]
  apply shown.imp
  rintro ⟨item, position⟩ p ⟨sql, card, -, there, body, laid⟩
  refine ⟨card, there, congrArg Layout.cardId laid, ?_⟩
  rw [congrArg CardBody.datasetQuery body]
  rfl

theorem Connected.local :
    LocalTo view {.databases} (Connected sparkSqlHost sparkSqlPort databaseId) := by
  intro s t same connected
  have databases : t.databases = s.databases := same .databases rfl
  rw [Connected, databases]
  exact connected

/-- The dashboards and cards do not touch the connection. -/
theorem databases_apart {dashboards : List (String × List Item)} :
    Disjoint ({.databases} : Set Resource) (⋃ entry ∈ dashboards, footprint entry) := by
  rw [Set.disjoint_singleton_left, Set.mem_iUnion₂]
  rintro ⟨entry, _, same | ⟨_, _, same⟩⟩
  · cases same
  · cases same

/-- A run leaves the database connected and every dashboard settled. -/
theorem bootstrap_spec {spec : Spec} (distinct : spec.cardNames.Nodup) :
    Prog.Confined ApiExec view Set.univ
      (fun result t => Connected sparkSqlHost sparkSqlPort result.1 t ∧
        List.Forall₂ (fun entry link => Settled queries result.1 entry link t) spec.dashboards result.2)
      (bootstrap sparkSqlHost sparkSqlPort queries spec) s := by
  apply ensureConnection_spec.seq (Set.subset_univ _)
  intro databaseId t _ connected
  apply (provision_spec distinct).seq (Set.subset_univ _)
  intro links u within settled
  exact .pure ⟨Connected.local.kept within databases_apart connected, settled⟩

/-- **A second run.** -/
theorem bootstrap_again {spec : Spec} {links : List (String × String)} (distinct : spec.cardNames.Nodup)
    (connected : Connected sparkSqlHost sparkSqlPort databaseId s)
    (settled : List.Forall₂ (fun entry link => Settled queries databaseId entry link s) spec.dashboards
      links) :
    Prog.Still ApiExec (fun o => ¬ o.Creates) (fun again => again = (databaseId, links))
      (bootstrap sparkSqlHost sparkSqlPort queries spec) s := by
  apply (ensureConnection_again connected).seq
  rintro _ rfl
  apply (provision_again distinct settled).seq
  rintro _ rfl
  exact .pure rfl

theorem shows_of_settled {spec : Spec} {links : List (String × String)} (distinct : spec.cardNames.Nodup)
    (settled : List.Forall₂ (fun entry link => Settled queries databaseId entry link s) spec.dashboards
      links) : ∀ entry ∈ spec.dashboards, Shows databaseId s entry := by
  intro entry member
  obtain ⟨i, inside, rfl⟩ := List.getElem_of_mem member
  obtain ⟨same_length, each⟩ := List.forall₂_iff_get.1 settled
  exact (each i inside (same_length ▸ inside)).shows ((List.nodup_flatMap.1 distinct).1 _ member)

/-- **Provisioning is idempotent.** For every file whose card names are distinct, on every server
and whichever requests fail: a run that completes leaves every dashboard of the file with one
placement for each item, bound to a card whose query uses the database of the connection, and
throughout another run the server is what it was, nothing is created, and the same database
and public links are returned. -/
theorem bootstrap_idempotent (sparkSqlHost : String) (sparkSqlPort : Except PyException ℤ)
    (queries : String → Except PyException String) (spec : Spec) (s : Server)
    (distinct : spec.cardNames.Nodup) :
    Prog.Always ApiExec (fun _ _ => True)
      (fun r t => ∀ databaseId links, r = .ok (databaseId, links) →
        (∀ entry ∈ spec.dashboards, Shows databaseId t entry) ∧
          Prog.Always ApiExec (fun o u => u = t ∧ ¬ o.Creates)
            (fun r' u => u = t ∧ ∀ again, r' = .ok again → again = (databaseId, links))
            (bootstrap sparkSqlHost sparkSqlPort queries spec) t)
      (bootstrap sparkSqlHost sparkSqlPort queries spec) s := by
  apply Prog.Always.mono (fun _ _ guard => guard) _ (bootstrap_spec distinct)
  rintro r t ⟨-, completed⟩ databaseId links returned
  obtain ⟨connected, settled⟩ := completed _ returned
  exact ⟨shows_of_settled distinct settled, bootstrap_again distinct connected settled⟩

/-- A table without settings. -/
def tableItem (name file : String) : Item where
  name := name
  file := file
  display := none
  description := none
  settings := none
  statusColumn := none

/-- A file with a card of one name on each of two dashboards. -/
def twoDashboards : Spec where
  dashboards := [("Management", [tableItem "Total" "total.sql", tableItem "Sources" "sources.sql"]),
    ("Pipeline Health", [tableItem "Total" "health.sql"])]
  titles_nodup := by decide

def emptyPlacement (id : ℕ) (cardId : Option ℕ) : Placement ℕ where
  id := id
  cardId := cardId
  row := 0
  col := 0
  sizeX := 4
  sizeY := 4
  series := []
  visualizationSettings := .null
  parameterMappings := []

def management (id : ℕ) (archived : Bool) (dashcards : List (Placement ℕ)) : Dashboard where
  id := id
  name := "Management"
  archived := archived
  description := none
  parameters := []
  dashcards := dashcards
  publicUuid := some ""

/-- A server with an archived dashboard, two live ones of the same name, of which the first shows
one card twice and a text, and two cards of one name. -/
def leftovers : Server where
  databases := ⟨[], by simp⟩
  dashboards := ⟨[management 1 true [], management 2 false [emptyPlacement 5 (some 7),
    emptyPlacement 6 (some 7), emptyPlacement 8 none], management 3 false []], by decide⟩
  cards := ⟨[⟨⟨"Management: Total", .null, "table", none, .null⟩, 7, false⟩,
    ⟨⟨"Management: Total", .null, "table", none, .null⟩, 9, false⟩], by decide⟩

theorem bootstrap_idempotent_leftovers :
    Prog.Always ApiExec (fun _ _ => True)
      (fun r t => ∀ databaseId links, r = .ok (databaseId, links) →
        (∀ entry ∈ twoDashboards.dashboards, Shows databaseId t entry) ∧
          Prog.Always ApiExec (fun o u => u = t ∧ ¬ o.Creates)
            (fun r' u => u = t ∧ ∀ again, r' = .ok again → again = (databaseId, links))
            (bootstrap "spark-sql" (.ok 10000) (fun _ => .ok "select 1") twoDashboards) t)
      (bootstrap "spark-sql" (.ok 10000) (fun _ => .ok "select 1") twoDashboards) leftovers :=
  bootstrap_idempotent "spark-sql" (.ok 10000) (fun _ => .ok "select 1") twoDashboards leftovers (by decide)

end Tikblog.Metabase
