import ChainIndexer.Chain.Block

/-!
# Failed attempts

Why an attempt to index a range of heights failed, and the height that is to blame.
-/

namespace ChainIndexer

/-- Why an attempt failed. -/
inductive SyncError
  | rpc (text : String)
  | fetch (height : Height) (reason : String)
  | parse (height : Height) (reason : String)
  | command (height : Height) (name : String) (version : UInt32) (reason : String)
  | handler (id reason : String)
  | storage (text : String)
  | config (text : String)
  | other (text : String)
  deriving DecidableEq, Repr

namespace SyncError

/-- The name of the cause. -/
def kind : SyncError → String
  | rpc _ => "Rpc"
  | fetch _ _ => "Fetch"
  | parse _ _ => "Parse"
  | command _ _ _ _ => "Command"
  | handler _ _ => "Handler"
  | storage _ => "Storage"
  | config _ => "Config"
  | other _ => "Other"

def heightText (h : Height) : String := Numeral.natural h.toNat

def message : SyncError → String
  | rpc text => "RPC error: " ++ text
  | fetch height reason => "Failed to fetch height " ++ heightText height ++ ": " ++ reason
  | parse height reason => "Failed to parse height " ++ heightText height ++ ": " ++ reason
  | command height name version reason =>
    "Command " ++ name ++ " v" ++ Numeral.natural version.toNat ++ " failed at height "
      ++ heightText height ++ ": " ++ reason
  | handler id reason => "Handler error in '" ++ id ++ "': " ++ reason
  | storage text => "Storage error: " ++ text
  | config text => "Invalid configuration: " ++ text
  | other text => text

def height? : SyncError → Option Height
  | fetch height _ => some height
  | parse height _ => some height
  | command height _ _ _ => some height
  | _ => none

/-- No further attempt can succeed. -/
def isFatal : SyncError → Bool
  | config _ => true
  | _ => false

end SyncError

end ChainIndexer
