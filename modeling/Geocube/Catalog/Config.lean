import Geocube.Text.Case
import Geocube.Catalog.DatabaseUrl
import Geocube.Catalog.Index

/-!
Where the catalog index lives.

Without a database URL the index is held in memory. A URL must name a
PostgreSQL database; it is checked before any connection is tried, and a
connection that cannot be made is a database error.

Settings are read from environment variables. An environment is the list of
variables that are set, with their values. A setting takes a variable's value
when it reads as one, and keeps its default when the variable is unset or does
not read.
-/

namespace Geocube

/-- The set environment variables and their values. -/
structure Environment where
  vars : List (String × String)
  deriving Inhabited

namespace Environment

/-- The value of a variable, if it is set. -/
def get? (e : Environment) (name : String) : Option String := e.vars.lookup name

/-- A yes/no variable: `1`, `true` or `yes` is on and `0`, `false` or `no` is
off, in any case and with blanks around; anything else says nothing. -/
def flag? (e : Environment) (name : String) : Option Bool := do
  let v := String.ofList ((Text.trim (← e.get? name)).toList.map Char.toLower)
  if v == "1" || v == "true" || v == "yes" then some true
  else if v == "0" || v == "false" || v == "no" then some false
  else none

end Environment

/-- How to reach the store behind an index. -/
structure CatalogConfig where
  /-- A PostgreSQL connection URL; none selects the in-memory index. -/
  databaseUrl : Option String := none
  /-- The size of the connection pool. -/
  maxConnections : Nat := 10
  /-- Create the schema on connecting. -/
  autoMigrate : Bool := true
  deriving Inhabited

namespace CatalogConfig

/-- The settings from `DATACUBE_DB_URL` (ignored when blank),
`DATACUBE_DB_MAX_CONNECTIONS` (a 32-bit count) and `DATACUBE_DB_AUTO_MIGRATE`
(on only for `true` in any case, or `1`). -/
def fromEnv (e : Environment) : CatalogConfig :=
  let url := (e.get? "DATACUBE_DB_URL").filter fun v => !Text.isBlankText v
  let pool := ((e.get? "DATACUBE_DB_MAX_CONNECTIONS").bind fun v => Decimal.readNat? v Decimal.u32Max).getD 10
  let migrate := match e.get? "DATACUBE_DB_AUTO_MIGRATE" with
    | some v => String.ofList (v.toList.map Char.toLower) == "true" || v == "1"
    | none => true
  ⟨url, pool, migrate⟩

/-- A pool needs a connection, and a URL must be a PostgreSQL one. -/
def validate (c : CatalogConfig) : Except String Unit :=
  if c.maxConnections == 0 then .error "max_connections must be > 0"
  else match c.databaseUrl with
    | some url =>
      if url.startsWith "postgres://" || url.startsWith "postgresql://" then .ok ()
      else .error ("unsupported database url: " ++ url)
    | none => .ok ()

/-- Open the index the settings describe. A well-formed URL still needs a
server to answer, and this library reaches none: the pool waits for a
connection in vain. -/
def connect (c : CatalogConfig) : Except CatalogError Index := do
  if let .error m := c.validate then throw (.validation m)
  match c.databaseUrl with
  | none => return Index.empty
  | some url =>
    match DatabaseUrl.check url with
    | .error m => throw (.database ("Connection failed: " ++ m))
    | .ok () => throw (.database "Connection failed: pool timed out while waiting for an open connection")

end CatalogConfig
end Geocube
