/-
Connection settings from environment variables. Each setting is one variable after a common
beginning; what is not set has a default, and the TCP port must be a whole number.
-/
import PgGrants.Payload

set_option autoImplicit false

namespace PgGrants

/-- How to reach a server, and what is known of it beforehand. -/
structure Settings where
  driver : String
  user : String
  password : Option String
  host : String
  tcpPort : Int
  database : String
  /-- How far the connection is secured, when that is said. -/
  sslMode : Option String
  /-- The version that the server is expected to have, when that is said. -/
  expectedVersion : Option String
deriving DecidableEq, Repr

namespace Settings

/-- The beginning of the variables' names, when no other is given. -/
def defaultStart : String := "PGSP_"

/-- The drivers with which connections can be made. -/
def drivers : List String := ["psycopg", "psycopg_async"]

/-- The scheme of the connection's address. -/
def scheme (settings : Settings) : String := "postgresql+" ++ settings.driver

/-- The settings that variables make. -/
def ofVariables (start : String) (given : Fields) : Except Error Settings := do
  let get (name : String) : Option String := (given.lookup (start ++ name)).bind Value.name?
  let driver := (get "DRIVER").getD "psycopg"
  let tcpPort ← (given.get (start ++ "PORT") (.text "5432")).toInteger
  unless drivers.contains driver do throw (.absentDriver driver)
  return {
    driver := driver
    user := (get "USER").getD "postgres"
    password := get "PASSWORD"
    host := (get "HOST").getD "localhost"
    tcpPort := tcpPort
    database := (get "DATABASE").getD "postgres"
    sslMode := (get "SSLMODE").filter (· ≠ "")
    expectedVersion := get "EXPECTED_VERSION" }

end Settings

end PgGrants
