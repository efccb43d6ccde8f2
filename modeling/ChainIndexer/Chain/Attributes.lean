import ChainIndexer.Chain.Coin
import ChainIndexer.Chain.Results
import ChainIndexer.Text.Base64
import ChainIndexer.Text.Utf8

/-!
# Reading execution events

Looking up attributes across events, collecting the coins that they name, and undoing the base64
that older nodes put around keys and values.
-/

namespace ChainIndexer

namespace AbciEvent

/-! ## Look-up -/

/-- The first value of a key among the events of a kind. -/
def findAttribute? (events : List AbciEvent) (kind key : String) : Option String :=
  (events.filter fun e => e.kind == kind).findSome? fun e => e.attribute? key

/-- The coins named under a key by all events of a kind, in order. -/
def collectCoins (events : List AbciEvent) (kind key : String) : Except Coin.Fault (List Coin) :=
  (((events.filter fun e => e.kind == kind).filterMap fun e => e.attribute? key).mapM
    Coin.parseList).map List.flatten

/-! ## Base64 -/

/-- Why an attribute cannot be decoded. -/
inductive AttributeFault
  | base64 (kind text : String) (fault : Base64.Fault)
  | utf8 (kind : String) (fault : Utf8.Fault)
  deriving DecidableEq, Repr

def AttributeFault.message : AttributeFault → String
  | base64 kind text fault => kind ++ ": " ++ Text.quoted text ++ ": " ++ fault.message
  | utf8 kind fault => kind ++ ": " ++ fault.message

/-- The text inside a base64 text, of an event of a kind. -/
def decodeText (kind text : String) : Except AttributeFault String := do
  let bytes ← (Base64.decode (Utf8.encode text)).mapError (.base64 kind text)
  (Utf8.decode bytes).mapError (.utf8 kind)

/-- Undoes the base64 of one attribute, the key first. -/
def decodeAttribute (kind : String) (a : Attribute) : Except AttributeFault Attribute := do
  let key ← decodeText kind a.key
  let value ← decodeText kind a.value
  return { key, value }

def decodeBase64 (e : AbciEvent) : Except AttributeFault AbciEvent := do
  let attributes ← e.attributes.mapM (decodeAttribute e.kind)
  return { e with attributes }

end AbciEvent

end ChainIndexer
