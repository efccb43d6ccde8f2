import ChainIndexer.Rpc.Envelope

/-!
# Failed requests

Why a request to the node or to the application failed, which failures are worth another try, and
which say that the thing asked for does not exist.
-/

namespace ChainIndexer

/-- Why a request failed. -/
inductive RpcError
  | http (text : String)
  | timeout (ms : UInt64)
  | status (code : Nat) (body : String)
  | notFound (path : String)
  | redirect (text : String)
  | tls (text : String)
  | unsupportedScheme (scheme : String)
  | invalidUrl (text : String)
  | rpc (e : JsonRpcError)
  | api (code : Int64) (message : String)
  | accountNotFound (address : String)
  | accountNoDelegation (address : String)
  | deserialization (text : String)
  | decode (text : String)

namespace RpcError

/-- The name of the cause. -/
def kind : RpcError → String
  | http _ => "Http"
  | timeout _ => "Timeout"
  | status _ _ => "Status"
  | notFound _ => "NotFound"
  | redirect _ => "Redirect"
  | tls _ => "Tls"
  | unsupportedScheme _ => "UnsupportedScheme"
  | invalidUrl _ => "InvalidUrl"
  | rpc _ => "Rpc"
  | api _ _ => "Api"
  | accountNotFound _ => "AccountNotFound"
  | accountNoDelegation _ => "AccountNoDelegation"
  | deserialization _ => "Deserialization"
  | decode _ => "Decode"

def message : RpcError → String
  | http text => "HTTP error: " ++ text
  | timeout ms => "Request timed out after " ++ Numeral.natural ms.toNat ++ "ms"
  | status code body => "HTTP " ++ Numeral.natural code ++ ": " ++ body
  | notFound path => "Not found: " ++ path
  | redirect text => "Redirect error: " ++ text
  | tls text => "TLS error: " ++ text
  | unsupportedScheme scheme => "Unsupported URL scheme: " ++ scheme
  | invalidUrl text => "Invalid URL: " ++ text
  | rpc e => "RPC error " ++ Numeral.integer e.code.toInt ++ ": " ++ e.message
  | api code message => "API error " ++ Numeral.integer code.toInt ++ ": " ++ message
  | accountNotFound address => "Account not found: " ++ address
  | accountNoDelegation address => "Account has no delegation: " ++ address
  | deserialization text => "Deserialization error: " ++ text
  | decode text => "Decode error: " ++ text

/-- The code with which the application says that a thing does not exist. -/
def codeNotFound : Int64 := 5

/-- Another try may succeed. -/
def isRetryable : RpcError → Bool
  | http _ => true
  | timeout _ => true
  | status code _ => code == 429 || 500 ≤ code
  | _ => false

/-- The thing asked for does not exist. -/
def isNotFound : RpcError → Bool
  | notFound _ => true
  | accountNotFound _ => true
  | api code _ => code == codeNotFound
  | _ => false

/-- A value that has not the wanted form. -/
def ofDecode (e : Json.DecodeError) : RpcError := deserialization e.message

end RpcError

end ChainIndexer
