import ChainIndexer.Json.Codec

/-!
# Looking up members by hand

Documents without a fixed record, such as the script of a simulated chain, are read member by
member. An absent member and one that is `null` are the same thing here, except where the difference
is asked for.
-/

namespace ChainIndexer.Json

/-- Why a document cannot be read: something it needs is not there or of another kind, or a typed
part of it is malformed. -/
inductive LookupFault
  | lacks (what : String)
  | malformed (e : DecodeError)

abbrev Lookup (α : Type) := Except LookupFault α

/-- A lookup that finds nothing. -/
def Lookup.fail {α : Type} (what : String) : Lookup α := .error (.lacks what)

/-- What is there, or a lookup that finds nothing. -/
def Lookup.ofOption {α : Type} (what : String) : Option α → Lookup α
  | some a => .ok a
  | none => .fail what

namespace Value

/-! ## The value itself -/

def text (v : Value) : Lookup String := .ofOption "string" v.string?

def items (v : Value) : Lookup (List Value) := .ofOption "list" v.array?

def nat (v : Value) : Lookup Nat := .ofOption "number" (v.uint64?.map UInt64.toNat)

/-- The natural number of 64 bits. -/
def word (v : Value) : Lookup UInt64 := .ofOption "number" v.uint64?

/-- The natural number of 32 bits. -/
def word32 (v : Value) : Lookup UInt32 := v.nat.map UInt32.ofNat

/-- The natural number of 64 bits, unless the value is `null`. -/
def word? (v : Value) : Lookup (Option UInt64) := if v.isNull then .ok none else v.word.map some

def typed {α : Type} (v : Value) (c : Codec α) : Lookup α := (c.decode v).mapError .malformed

/-! ## Members -/

def member (v : Value) (key : String) : Lookup Value := .ofOption key (v.get? key)

def present? (v : Value) (key : String) : Option Value := (v.get? key).filter fun m => !m.isNull

/-- A member, read when it is present. -/
def memberOr {α : Type} (v : Value) (key : String) (read : Value → Lookup α) (fallback : α) :
    Lookup α :=
  match v.present? key with
  | some m => read m
  | none => .ok fallback

/-- A member of a type, read when it is present. -/
def typedOr {α : Type} (v : Value) (key : String) (c : Codec α) (fallback : α) : Lookup α :=
  v.memberOr key (fun m => m.typed c) fallback

def textAt (v : Value) (key : String) : Lookup String := v.member key >>= text

/-- The text of a member, when it is present. -/
def textOr (v : Value) (key fallback : String) : Lookup String := v.memberOr key text fallback

def natAt (v : Value) (key : String) : Lookup Nat := v.member key >>= nat

/-- The number of a member, when it is present. -/
def natOr (v : Value) (key : String) (fallback : Nat) : Lookup Nat := v.memberOr key nat fallback

def wordAt (v : Value) (key : String) : Lookup UInt64 := v.member key >>= word

/-- The word of a member, when it is present. -/
def wordOr (v : Value) (key : String) (fallback : UInt64) : Lookup UInt64 :=
  v.memberOr key word fallback

/-- The word of 32 bits of a member, when it is present. -/
def word32Or (v : Value) (key : String) (fallback : UInt32) : Lookup UInt32 :=
  v.memberOr key word32 fallback

def wordAt? (v : Value) (key : String) : Lookup (Option UInt64) := (v.present? key).mapM word

/-- The items of a member; none when it is absent. -/
def itemsAt (v : Value) (key : String) : Lookup (List Value) := v.memberOr key items []

/-- The truth value of a member; false when it is absent. -/
def flagAt (v : Value) (key : String) : Bool := ((v.present? key).bind bool?).getD false

end Value

end ChainIndexer.Json
