import ChainIndexer.Json.Record
import ChainIndexer.Yaml.Form

/-!
# Settings of the log

A level for everything, and levels for components.
-/

namespace ChainIndexer

open Json (Codec record)

/-- What is logged and how. -/
structure LogConfig where
  level : String := "info"
  components : List (String × String) := []
  json : Bool := false
  deriving DecidableEq, Repr

namespace LogConfig

/-- The JSON form of the settings. -/
def codec : Codec LogConfig :=
  record "LogConfig"
    (.cons (.default "level" level .string "info") <|
     .cons (.default "components" components (.map .string) []) <|
     .cons (.default "json" json .bool false) .nil)
    fun (level, components, json, _) => { level, components, json }

/-- How the settings are written in a file. -/
def form : Yaml.Form := .record [("level", .text), ("components", .table .text), ("json", .flag)]

/-- The name of a component as the log knows it. -/
def target (component : String) : String :=
  String.ofList (component.toList.map fun c => if c = '-' then '_' else c)

/-- The directives that the log is set up with, components in the order of their names. -/
def directives (c : LogConfig) : String :=
  c.components.foldl (fun s p => s ++ "," ++ target p.1 ++ "=" ++ p.2) c.level

end LogConfig

end ChainIndexer
