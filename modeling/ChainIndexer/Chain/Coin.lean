import ChainIndexer.Json.Record
import ChainIndexer.Text.Alphabetic

/-!
# Coins

An amount and the denomination it counts. Amounts are kept as text, so that no digit is lost. In
events a list of coins is written amount before denomination, with commas between coins:
`10uatom,0.5ibc/ABCD`.

* `Coin.text` is the written form of one coin, `Coin.parse` reads it, `Coin.parseList` a list.
-/

namespace ChainIndexer

open Json (Codec Field Fields record)

/-- An amount of one denomination. -/
structure Coin where
  denom : String
  amount : String
  deriving DecidableEq, Repr

namespace Coin

/-- The JSON form of a coin. -/
def codec : Codec Coin :=
  record "Coin"
    (.cons (.required "denom" denom .string) <|
     .cons (.required "amount" amount .string) .nil)
    fun (denom, amount, _) => { denom, amount }

/-- The written form: the amount, then the denomination. -/
def text (c : Coin) : String := c.amount ++ c.denom

/-! ## Reading -/

/-- Why a text is no list of coins. -/
inductive Fault
  | malformed (part : String)
  | badAmount (amount : String)
  deriving DecidableEq, Repr

def Fault.message : Fault → String
  | malformed part => "invalid coin " ++ Text.quoted part
  | badAmount amount => "invalid coin amount " ++ Text.quoted amount

/-- A denomination starts with such a character. -/
def startsDenom (c : Char) : Bool := Text.isAlphabetic c || c == '/'

/-- An amount consists of such characters. -/
def inAmount (c : Char) : Bool := ('0' ≤ c && c ≤ '9') || c == '.'

/-- Cuts a coin before the first character that starts a denomination. -/
def split (cs : List Char) : List Char × List Char := cs.span fun c => !startsDenom c

def parseChars (cs : List Char) : Except Fault Coin :=
  let (amount, denom) := split cs
  if denom.isEmpty || amount.isEmpty then .error (.malformed (String.ofList cs))
  else if amount.all inAmount then .ok ⟨String.ofList denom, String.ofList amount⟩
  else .error (.badAmount (String.ofList amount))

def commaParts (cs : List Char) : List (List Char) := cs.splitOn ','

/-- Reads the coins between commas; white space around a coin and empty parts do not count. -/
def parseListChars (cs : List Char) : Except Fault (List Coin) :=
  (((commaParts cs).map Text.trim).filter fun part => !part.isEmpty).mapM parseChars

def parseList (s : String) : Except Fault (List Coin) := parseListChars s.toList

end Coin

/-! ## Fees -/

/-- What a transaction pays, and who pays it. -/
structure Fee where
  amount : List Coin
  gasLimit : UInt64
  payer : String
  granter : String
  deriving DecidableEq, Repr

/-- The JSON form of a fee. -/
def Fee.codec : Codec Fee :=
  record "Fee"
    (.cons (.required "amount" amount Coin.codec.list) <|
     .cons (.required "gas_limit" gasLimit .uint64) <|
     .cons (.required "payer" payer .string) <|
     .cons (.required "granter" granter .string) .nil)
    fun (amount, gasLimit, payer, granter, _) => { amount, gasLimit, payer, granter }

end ChainIndexer
