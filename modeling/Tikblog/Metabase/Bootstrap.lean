import Tikblog.Metabase.Server

/-!
# Provisioning the dashboards

`ensure_connection` and `provision` over the calls of `api`. The dashboards and the cards are
listed once, before anything is created; a dashboard is fetched again by its id. What the
scripts print is left out, and so is the session that `main` opens before.
-/

namespace Tikblog.Metabase

open Python Program

/-- One query of a dashboard in `dashboards.json`. -/
structure Item where
  name : String
  file : String
  display : Option String
  description : Option String
  settings : Option (List (String × Json))
  statusColumn : Option String

/-- `dashboards.json`; the keys of a dict are distinct. -/
structure Spec where
  dashboards : List (String × List Item)
  titles_nodup : (dashboards.map Prod.fst).Nodup

def filters : List String := ["from_date", "to_date", "source"]

/-- `name.replace('_', ' ')`. -/
def spaced (name : String) : String := String.ofList (name.toList.map fun c => if c = '_' then ' ' else c)

/-- `tags`: the template tags of the dashboard with filters, by name. -/
def templateTags (management : Bool) : List (String × Json) :=
  if management then
    filters.map fun name => (name, .obj [("id", .str name), ("name", .str name),
      ("display-name", .str (spaced name)), ("type", .str (if name = "source" then "text" else "date"))])
  else []

/-- `settings[key] = value`. -/
def setItem (settings : List (String × Json)) (key : String) (value : Json) : List (String × Json) :=
  if settings.any (fun pair => pair.1 = key) then
    settings.map fun pair => if pair.1 = key then (key, value) else pair
  else settings ++ [(key, value)]

def columnFormatting (statusColumn : String) : Json :=
  .arr ([("GREEN", "#84BB4C"), ("YELLOW", "#F9CF48"), ("RED", "#ED6E6E"), ("UNKNOWN", "#949AAB")].map
    fun (status, color) => .obj [("columns", .arr [.str statusColumn]), ("type", .str "single"),
      ("operator", .str "="), ("value", .str status), ("color", .str color), ("highlight_row", .bool true)])

/-- The settings of an item, with the formatting of its status column if it has one. -/
def Item.visualization (item : Item) : List (String × Json) :=
  match item.statusColumn with
  | none | some "" => item.settings.getD []
  | some column => setItem (item.settings.getD []) "table.column_formatting" (columnFormatting column)

/-- The name of a card. -/
def cardName (title : String) (item : Item) : String := title ++ ": " ++ item.name

/-- The body of a card, from the text of its query. -/
def cardBody (databaseId : ℕ) (title : String) (item : Item) (sql : String) : CardBody where
  name := cardName title item
  datasetQuery := .obj [("type", .str "native"), ("database", .num (toString databaseId)),
    ("native", .obj [("query", .str sql), ("template-tags", .obj (templateTags (title = "Management")))])]
  display := item.display.getD "table"
  description := item.description
  visualizationSettings := .obj item.visualization

/-- Where the card of an item is placed, and the filters that are wired to it. -/
def layout (title : String) (position cardId : ℕ) : Layout where
  cardId := some cardId
  row := position / 2 * 5
  col := position % 2 * 12
  sizeX := 12
  sizeY := 5
  series := []
  visualizationSettings := .obj []
  parameterMappings := (templateTags (title = "Management")).map fun (key, _) =>
    .obj [("parameter_id", .str key), ("card_id", .num (toString cardId)),
      ("target", .arr [.str "variable", .arr [.str "template-tag", .str key]])]

/-- `params`. -/
def parameters (management : Bool) : List Json :=
  if management then
    filters.map fun name => .obj [("id", .str name), ("name", .str (spaced name)), ("slug", .str name),
      ("type", .str (if name = "source" then "string/=" else "date/single"))]
  else []

def description (management : Bool) : String :=
  if management then
    "Unsubscribe requests received, not applied unsubscribes. Unique counts are exact " ++
      "per day and source; they must not be summed across days or sources."
  else
    "Latest recorded statuses use configured pipeline thresholds. Check timestamps: " ++
      "a recorded GREEN does not prove that a stopped pipeline is still healthy."

/-- `existing_placements`: of two placements of a card the later one counts. -/
def existingPlacements (dashcards : List (Placement ℕ)) (cardId : ℕ) : Option ℕ :=
  (dashcards.reverse.find? fun d => d.cardId = some cardId).map Placement.id

def Database.named (name : String) (d : Database) : Bool := d.name = name

/-- `d['name'] == title and not d.get('archived')`. -/
def Dashboard.titled (title : String) (d : Dashboard) : Bool := d.name = title && !d.archived

/-- `c['name'] == name and not c.get('archived')`. -/
def Card.named (name : String) (c : Card) : Bool := c.name = name && !c.archived

section

variable (sparkSqlHost : String) (sparkSqlPort : Except PyException ℤ)

/-- `config`, from what the environment says; the port is the text of it as a number. -/
def connectionConfig : Except PyException DatabaseConfig := do
  let port ← sparkSqlPort
  return {
    name := "TikBlog Analytics"
    engine := "sparksql"
    details := .obj [("host", .str sparkSqlHost), ("port", .num (toString port)), ("dbname", .str "default"),
      ("user", .str "analytics"), ("password", .str ""), ("jdbc-flags", .str "")] }

/-- `ensure_connection`. -/
def ensureConnection : ApiM ℕ := do
  let databases ← api .getDatabases
  let config ← Prog.ofExcept (connectionConfig sparkSqlHost sparkSqlPort)
  match databases.find? (Database.named "TikBlog Analytics") with
  | some existing => do
    api (.putDatabase existing.id config)
    return existing.id
  | none => do
    let created ← api (.postDatabase config)
    return created.id

end

section

variable (queries : String → Except PyException String) (databaseId : ℕ)

def putOrPostCard (cards : List Card) (body : CardBody) : ApiM Card :=
  match cards.find? (Card.named body.name) with
  | some existing => api (.putCard existing.id body)
  | none => api (.postCard body)

/-- One pass of the loop over the queries of a dashboard. -/
def provisionItem (cards : List Card) (title : String) (dashcards : List (Placement ℕ)) (entry : Item × ℕ) :
    ApiM (Placement ℤ) := do
  let (item, position) := entry
  let sql ← Prog.ofExcept (queries item.file)
  let card ← putOrPostCard cards (cardBody databaseId title item sql)
  return {
    toLayout := layout title position card.id
    id := match existingPlacements dashcards card.id with
      | some id => id
      | none => -(position + 1) }

def findOrPostDashboard (dashboards : List Dashboard) (title : String) : ApiM Dashboard :=
  match dashboards.find? (Dashboard.titled title) with
  | some dashboard => return dashboard
  | none => api (.postDashboard title)

def dashboardBody (title : String) (placements : List (Placement ℤ)) : DashboardBody where
  name := title
  description := description (title = "Management")
  parameters := parameters (title = "Management")
  dashcards := placements

/-- The public link of a dashboard, created where there is none. -/
def publicLink (id : ℕ) (publicUuid : Option String) : ApiM String :=
  match publicUuid with
  | none | some "" => api (.postPublicLink id)
  | some uuid => return uuid

/-- One pass of the loop of `provision`. -/
def provisionDashboard (dashboards : List Dashboard) (cards : List Card) (entry : String × List Item) :
    ApiM (String × String) := do
  let (title, items) := entry
  let dashboard ← findOrPostDashboard dashboards title
  let current ← api (.getDashboard dashboard.id)
  let placements ← Prog.mapEach items.zipIdx (provisionItem queries databaseId cards title current.dashcards)
  api (.putDashboard dashboard.id (dashboardBody title placements))
  let publicUuid ← publicLink dashboard.id current.publicUuid
  return (title, publicUuid)

/-- `provision`, up to the printing of the public links. -/
def provision (spec : Spec) : ApiM (List (String × String)) := do
  let dashboards ← api .getDashboards
  let cards ← api .getCards
  Prog.mapEach spec.dashboards (provisionDashboard queries databaseId dashboards cards)

end

/-- The last line of `main`, with the id it passes on. -/
def bootstrap (sparkSqlHost : String) (sparkSqlPort : Except PyException ℤ)
    (queries : String → Except PyException String) (spec : Spec) : ApiM (ℕ × List (String × String)) := do
  let databaseId ← ensureConnection sparkSqlHost sparkSqlPort
  let publicLinks ← provision queries databaseId spec
  return (databaseId, publicLinks)

end Tikblog.Metabase
