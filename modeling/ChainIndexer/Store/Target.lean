import ChainIndexer.Store.Basic
import ChainIndexer.Text.Basic
import ChainIndexer.Text.Quoted
import ChainIndexer.Url.Percent

/-!
# Where events go

A storage target names a handler's home: memory, a database file, or a database server. It is given
as a text: `memory` or nothing; `sqlite:` and a path or a connection; the URL of a server. There is
no backend for a server.

A connection is a path, and after a question mark its options. A path may hold percent codes.
-/

namespace ChainIndexer.Store

/-! ## Targets -/

/-- Where a handler lives. -/
inductive Target
  | memory
  | sqlite (path : String)
  | postgres (url : String)
  deriving DecidableEq, Repr

/-- The rest of a text after these characters, if it starts with them. -/
def after? (start : List Char) (cs : List Char) : Option (List Char) :=
  if start.isPrefixOf cs then some (cs.drop start.length) else none

namespace Target

def ofText (text : String) : Except SyncError Target :=
  let cs := Text.trim text.toList
  let s := String.ofList cs
  if cs.isEmpty || s == "memory" then .ok .memory
  else match after? "sqlite:".toList cs with
    | some path => .ok (.sqlite (String.ofList path))
    | none =>
      if "postgres://".toList.isPrefixOf cs || "postgresql://".toList.isPrefixOf cs then
        .ok (.postgres s)
      else .error (.config ("unsupported storage target '" ++ s ++ "'"))

end Target

/-! ## Connections -/

/-- A database file and how it is to be opened. -/
structure Connection where
  path : String
  inMemory : Bool := false
  create : Bool := false
  deriving DecidableEq, Repr

namespace Connection

/-- Takes these characters from the start as often as they stand there. -/
def stripAll (start : List Char) : Nat → List Char → List Char
  | 0, cs => cs
  | fuel + 1, cs => match after? start cs with
    | some rest => stripAll start fuel rest
    | none => cs

/-- The text behind percent codes. -/
def decoded (cs : List Char) : Except Utf8.Fault String :=
  Utf8.decode (Percent.decode (Utf8.encode (String.ofList cs)))

/-- The text of a name or a value of an option. -/
def formText (cs : List Char) : String :=
  let cs := cs.map fun c => if c = '+' then ' ' else c
  match decoded cs with
  | .ok s => s
  | .error _ => String.ofList cs

/-- The refusal of an option's value. -/
def unknownValue (name value : String) : SyncError :=
  .storage ("error with configuration: unknown value " ++ Text.quoted value ++ " for "
    ++ Json.ticked name)

def withOption (c : Connection) (name value : String) : Except SyncError Connection :=
  match name with
  | "mode" =>
    if value = "ro" ∨ value = "rw" then .ok c
    else if value = "rwc" then .ok { c with create := true }
    else if value = "memory" then .ok { c with inMemory := true }
    else .error (unknownValue name value)
  | "cache" =>
    if value = "private" ∨ value = "shared" then .ok c else .error (unknownValue name value)
  | "immutable" =>
    if ["true", "1", "false", "0"].contains value then .ok c
    else .error (unknownValue name value)
  | "vfs" => .ok c
  | name => .error (.storage ("error with configuration: unknown query parameter "
      ++ Json.ticked name ++ " while parsing connection URL"))

/-- The parts between separators. -/
def splitOn (sep : Char) : List Char → List (List Char)
  | [] => [[]]
  | c :: cs =>
    if c = sep then [] :: splitOn sep cs
    else match splitOn sep cs with
      | part :: parts => (c :: part) :: parts
      | [] => [[c]]

/-- Applies the options after the question mark. -/
def withOptions (c : Connection) (options : List Char) : Except SyncError Connection :=
  ((splitOn '&' options).filter fun part => !part.isEmpty).foldlM (fun c part =>
    let name := part.takeWhile (· ≠ '=')
    let value := (part.dropWhile (· ≠ '=')).drop 1
    c.withOption (formText name) (formText value)) c

def ofText (text : String) : Except SyncError Connection := do
  let cs := text.toList
  let cs := stripAll "sqlite://".toList cs.length cs
  let cs := stripAll "sqlite:".toList cs.length cs
  let path := cs.takeWhile (· ≠ '?')
  let start : Connection ←
    if path = ":memory:".toList then pure { path := ":memory:", inMemory := true }
    else match decoded path with
      | .ok path => pure { path }
      | .error fault => throw (.storage ("error with configuration: " ++ fault.message))
  match cs.dropWhile (· ≠ '?') with
  | [] => return start
  | _ :: options => start.withOptions options

/-- The connection for the path of a target; a plain path is created where it is missing. -/
def ofPath (path : String) : Except SyncError Connection :=
  if path = ":memory:" then .ok { path, inMemory := true }
  else if "sqlite:".toList.isPrefixOf path.toList then ofText path
  else ofText ("sqlite:" ++ path ++ "?mode=rwc")

end Connection

/-! ## Opening -/

/-- What stands at a path: nothing, with or without a folder to put a file into, a database, or
another file. -/
inductive Place
  | unreachable
  | vacant
  | database (db : Database)
  | foreign

/-- The files that can be opened. -/
abbrev Disk := String → Place

/-- The refusal of a file that cannot be opened. -/
def unableToOpen : SyncError :=
  .storage "error returned from database: (code: 14) unable to open database file"

/-- The refusal of a file that is something else. -/
def notADatabase : SyncError :=
  .storage "error returned from database: (code: 26) file is not a database"

def Connection.database (disk : Disk) (c : Connection) : Except SyncError Database :=
  if c.inMemory then .ok {}
  else match disk c.path with
    | .database db => .ok db
    | .vacant => if c.create then .ok {} else .error unableToOpen
    | .unreachable => .error unableToOpen
    | .foreign => .error notADatabase

def openAt (disk : Disk) (target : Target) (id : String) : Except SyncError Store :=
  match target with
  | .memory => .ok (.inMemory id)
  | .sqlite path => do
    let connection ← Connection.ofPath path
    return .database id (← connection.database disk)
  | .postgres url =>
    .error (.config ("storage backend Postgres(" ++ Text.quoted url ++ ") not compiled in"))

end ChainIndexer.Store
