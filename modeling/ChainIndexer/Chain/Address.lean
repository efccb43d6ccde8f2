import ChainIndexer.Text.Quoted

/-!
# Addresses

An address is the name of its kind, a `1`, and at least one lower-case letter or digit. Each chain
has its own names for accounts, validators and consensus keys.
-/

namespace ChainIndexer

namespace Address

/-- The kinds of addresses. -/
inductive Kind
  | account
  | validator
  | consensus
  deriving DecidableEq, Repr

def Kind.name : Kind → String
  | account => "account"
  | validator => "validator"
  | consensus => "consensus"

/-- Why a text is no address of a kind. -/
inductive Fault
  | start (kind : Kind) (address human : String)
  | characters (kind : Kind) (address : String)
  deriving DecidableEq, Repr

def Fault.message : Fault → String
  | start kind address human =>
    kind.name ++ " address " ++ Text.quoted address ++ " does not start with " ++ human ++ "1"
  | characters kind address =>
    kind.name ++ " address " ++ Text.quoted address ++ " has invalid characters"

/-- What follows a given start. -/
def dropStart? : List Char → List Char → Option (List Char)
  | [], cs => some cs
  | _ :: _, [] => none
  | p :: ps, c :: cs => if p = c then dropStart? ps cs else none

/-- The data of an address after its human-readable part and the `1`. -/
def data? (human address : String) : Option (List Char) :=
  match dropStart? (human.toList ++ ['1']) address.toList with
  | some [] => none
  | r => r

/-- Such characters make up the data of an address. -/
def inData (c : Char) : Bool := ('a' ≤ c && c ≤ 'z') || ('0' ≤ c && c ≤ '9')

/-- Checks an address of a kind against its human-readable part. -/
def check (kind : Kind) (human address : String) : Except Fault Unit :=
  match data? human address with
  | none => .error (.start kind address human)
  | some data => if data.all inData then .ok () else .error (.characters kind address)

end Address

/-- The human-readable parts of a chain's addresses. -/
structure AddressPrefixes where
  account : String
  validator : String
  consensus : String
  deriving DecidableEq, Repr

namespace AddressPrefixes

/-- The usual parts of a chain whose accounts go by `account`. -/
def ofAccount (account : String) : AddressPrefixes :=
  ⟨account, account ++ "valoper", account ++ "valcons"⟩

def checkAccount (p : AddressPrefixes) (address : String) : Except Address.Fault Unit :=
  Address.check .account p.account address

def checkValidator (p : AddressPrefixes) (address : String) : Except Address.Fault Unit :=
  Address.check .validator p.validator address

def checkConsensus (p : AddressPrefixes) (address : String) : Except Address.Fault Unit :=
  Address.check .consensus p.consensus address

end AddressPrefixes

end ChainIndexer
