import ChainIndexer.Json.Record

/-!
# JSON-RPC answers

The envelope of a JSON-RPC 2.0 answer: a result or an error object. An error object wins over a
result, and an answer with neither has no result.
-/

namespace ChainIndexer

open Json (Codec Field Fields record Value)

/-- An error object. -/
structure JsonRpcError where
  code : Int64
  message : String
  data : Option Value

namespace JsonRpcError

/-- The JSON form of an error object; absent data is left out. -/
def codec : Codec JsonRpcError :=
  record "JsonRpcError"
    (.cons (.required "code" code .int64) <|
     .cons (.required "message" message .string) <|
     .cons { key := "data", get := data, codec := Codec.option .value, absent := .default none,
             written := fun e => e.data.isSome } .nil)
    fun (code, message, data, _) => { code, message, data }

/-- The message, and the data behind it. -/
def detail (e : JsonRpcError) : String :=
  match e.data with
  | none => e.message
  | some (.string s) => e.message ++ ": " ++ s
  | some v => e.message ++ ": " ++ v.compact

/-- An error object in words. -/
def shown (e : JsonRpcError) : String :=
  "JSON-RPC error " ++ Numeral.integer e.code.toInt ++ ": " ++ e.detail

end JsonRpcError

/-- An answer whose result has the type `α`. -/
structure Envelope (α : Type) where
  jsonrpc : String
  id : Value
  result : Option α
  error : Option JsonRpcError

namespace Envelope

variable {α : Type}

/-- The JSON form of an answer; absent results and errors are left out. -/
def codec (c : Codec α) : Codec (Envelope α) :=
  record "JsonRpcResponse"
    (.cons (.default "jsonrpc" jsonrpc .string "") <|
     .cons (.default "id" id .value .null) <|
     .cons { key := "result", get := result, codec := c.option, absent := .default none,
             written := fun e => e.result.isSome } <|
     .cons { key := "error", get := error, codec := JsonRpcError.codec.option,
             absent := .default none, written := fun e => e.error.isSome } .nil)
    fun (jsonrpc, id, result, error, _) => { jsonrpc, id, result, error }

/-- Why an answer has no result. -/
inductive Fault
  | error (e : JsonRpcError)
  | missingResult

/-- The result of an answer. -/
def outcome (e : Envelope α) : Except Fault α :=
  match e.error, e.result with
  | some err, _ => .error (.error err)
  | none, some a => .ok a
  | none, none => .error .missingResult

end Envelope

end ChainIndexer
