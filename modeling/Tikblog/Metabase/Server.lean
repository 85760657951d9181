import Tikblog.Program.Prog
import Tikblog.Python.Runtime
import Tikblog.Table.Registry

/-!
# The Metabase server

The records behind the calls `bootstrap.py` makes on the HTTP API, and what a call does to
them. Listings come in a stable order, a `PUT` replaces the fields it gives, and a `POST` adds
a record, wherever it may come to stand.
-/

namespace Tikblog.Metabase

open Python Program Table

/-- What is configured of a database. -/
structure DatabaseConfig where
  name : String
  engine : String
  details : Json

structure Database extends DatabaseConfig where
  id : ℕ

/-- The fields `bootstrap.py` gives of a card. -/
structure CardBody where
  name : String
  datasetQuery : Json
  display : String
  description : Option String
  visualizationSettings : Json

structure Card extends CardBody where
  id : ℕ
  archived : Bool

/-- A placement without its id; one that shows no card has no `card_id`. -/
structure Layout where
  cardId : Option ℕ
  row : ℕ
  col : ℕ
  sizeX : ℕ
  sizeY : ℕ
  series : List Json
  visualizationSettings : Json
  parameterMappings : List Json

/-- A placement of a card on a dashboard. A stored one has a number for an id, a requested one
may have a negative one. -/
structure Placement (ι : Type) extends Layout where
  id : ι

structure Dashboard where
  id : ℕ
  name : String
  archived : Bool
  description : Option String
  parameters : List Json
  dashcards : List (Placement ℕ)
  publicUuid : Option String

/-- The fields `bootstrap.py` gives of a dashboard. -/
structure DashboardBody where
  name : String
  description : String
  parameters : List Json
  dashcards : List (Placement ℤ)

structure Server where
  databases : Registry Database.id
  dashboards : Registry Dashboard.id
  cards : Registry Card.id

inductive Op where
  | getDatabases
  | putDatabase (id : ℕ) (config : DatabaseConfig)
  | postDatabase (config : DatabaseConfig)
  | getDashboards
  | getCards
  | postDashboard (name : String)
  | getDashboard (id : ℕ)
  | putCard (id : ℕ) (body : CardBody)
  | postCard (body : CardBody)
  | putDashboard (id : ℕ) (body : DashboardBody)
  | postPublicLink (id : ℕ)

/-- What `bootstrap.py` reads of the response. -/
abbrev Value : Op → Type
  | .getDatabases => List Database
  | .putDatabase _ _ => Unit
  | .postDatabase _ => Database
  | .getDashboards => List Dashboard
  | .getCards => List Card
  | .postDashboard _ => Dashboard
  | .getDashboard _ => Dashboard
  | .putCard _ _ => Card
  | .postCard _ => Card
  | .putDashboard _ _ => Unit
  | .postPublicLink _ => String

abbrev Ans (o : Op) : Type := Except PyException (Value o)

abbrev ApiM := Prog Op Ans PyException

/-- `api`: a request whose failure raises. -/
def api (o : Op) : ApiM (Value o) := Prog.perform o >>= Prog.ofExcept

/-- The requests that may add a record. -/
def Op.Creates : Op → Prop
  | .postDatabase _ | .postDashboard _ | .postCard _ | .postPublicLink _ => True
  | _ => False

def Database.set (config : DatabaseConfig) (d : Database) : Database := { d with toDatabaseConfig := config }

def Card.set (body : CardBody) (c : Card) : Card := { c with toCardBody := body }

/-- The placements are those that were requested, as stored. -/
def Dashboard.set (body : DashboardBody) (dashcards : List (Placement ℕ)) (d : Dashboard) : Dashboard :=
  { d with
    name := body.name
    description := some body.description
    parameters := body.parameters
    dashcards := dashcards }

def Dashboard.publish (uuid : String) (d : Dashboard) : Dashboard := { d with publicUuid := some uuid }

theorem Database.set_id (config : DatabaseConfig) (d : Database) : (d.set config).id = d.id := rfl

theorem Card.set_id (body : CardBody) (c : Card) : (c.set body).id = c.id := rfl

theorem Dashboard.set_id (body : DashboardBody) (dashcards : List (Placement ℕ)) (d : Dashboard) :
    (d.set body dashcards).id = d.id := rfl

theorem Dashboard.publish_id (uuid : String) (d : Dashboard) : (d.publish uuid).id = d.id := rfl

/-- A placement as it is stored, on a dashboard with some placements: an id that one of them
has is kept, and for a negative one there is a fresh id. -/
structure Stored (old : List (Placement ℕ)) (requested : Placement ℤ) (stored : Placement ℕ) : Prop where
  layout : stored.toLayout = requested.toLayout
  kept : ∀ p ∈ old, requested.id = p.id → stored.id = p.id
  fresh : requested.id < 0 → stored.id ∉ old.map Placement.id

def Server.putDatabase (id : ℕ) (config : DatabaseConfig) (s : Server) : Server :=
  { s with databases := s.databases.put id (Database.set config) (Database.set_id config) }

def Server.putCard (id : ℕ) (body : CardBody) (s : Server) : Server :=
  { s with cards := s.cards.put id (Card.set body) (Card.set_id body) }

def Server.changeDashboard (id : ℕ) (f : Dashboard → Dashboard) (keeps : ∀ d, (f d).id = d.id)
    (s : Server) : Server :=
  { s with dashboards := s.dashboards.put id f keeps }

/-- What a request does when it succeeds. -/
inductive Effect : (o : Op) → Server → Value o → Server → Prop where
  | databases {s} : Effect .getDatabases s s.databases.records s
  | configured {s id config d} : d ∈ s.databases.records → d.id = id →
      Effect (.putDatabase id config) s () (s.putDatabase id config)
  | connected {s config d databases} : d.toDatabaseConfig = config → s.databases.Inserts d databases →
      Effect (.postDatabase config) s d { s with databases := databases }
  | dashboards {s} : Effect .getDashboards s s.dashboards.records s
  | cards {s} : Effect .getCards s s.cards.records s
  | opened {s name d dashboards} : d.name = name → d.archived = false → d.dashcards = [] →
      s.dashboards.Inserts d dashboards →
      Effect (.postDashboard name) s d { s with dashboards := dashboards }
  | dashboard {s id d} : d ∈ s.dashboards.records → d.id = id → Effect (.getDashboard id) s d s
  | updated {s id body c} : c ∈ s.cards.records → c.id = id →
      Effect (.putCard id body) s (c.set body) (s.putCard id body)
  | created {s body c cards} : c.toCardBody = body → c.archived = false → s.cards.Inserts c cards →
      Effect (.postCard body) s c { s with cards := cards }
  | arranged {s id body d dashcards} : d ∈ s.dashboards.records → d.id = id →
      List.Forall₂ (Stored d.dashcards) body.dashcards dashcards → (dashcards.map Placement.id).Nodup →
      Effect (.putDashboard id body) s ()
        (s.changeDashboard id (Dashboard.set body dashcards) (Dashboard.set_id body dashcards))
  | published {s id d uuid} : d ∈ s.dashboards.records → d.id = id → uuid ≠ "" →
      (∀ given, d.publicUuid = some given → given ≠ "" → uuid = given) →
      Effect (.postPublicLink id) s uuid
        (s.changeDashboard id (Dashboard.publish uuid) (Dashboard.publish_id uuid))

/-- A request that fails may have taken effect. -/
inductive ApiExec : Exec Op Ans Server where
  | succeeded {o s value t} : Effect o s value t → ApiExec o s (.ok value) t
  | failed {o s e} : ApiExec o s (.error e) s
  | unanswered {o s value t e} : Effect o s value t → ApiExec o s (.error e) t

theorem always_api {o : Op} {s : Server} {G : Op → Server → Prop}
    {Q : Except PyException (Value o) → Server → Prop} (guard : G o s)
    (succeeded : ∀ value t, Effect o s value t → Q (.ok value) t) (failed : ∀ e, Q (.error e) s)
    (unanswered : ∀ e value t, Effect o s value t → Q (.error e) t) :
    Prog.Always ApiExec G Q (api o) s := by
  refine ⟨guard, fun answer t answered => ?_⟩
  cases answered with
  | succeeded effect => exact succeeded _ _ effect
  | failed => exact failed _
  | unanswered effect => exact unanswered _ _ _ effect

end Tikblog.Metabase
