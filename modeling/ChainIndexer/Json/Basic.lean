import ChainIndexer.Decimal.Binary64

/-!
# JSON values

Numbers are integers of 64 bits, kept exactly, or doubles, kept by their bits. The members of an
object stand in ascending order of their keys, each key once; `Members.insert` keeps that order and
lets the last value of a key win.
-/

namespace ChainIndexer.Json

/-! ## Values -/

/-- A number of a document. -/
inductive Number
  | whole (n : Int) (fits : -0x8000000000000000 ≤ n ∧ n < 0x10000000000000000)
  | double (bits : UInt64)
  deriving DecidableEq, Repr

/-- A JSON value. -/
inductive Value
  | null
  | bool (b : Bool)
  | number (n : Number)
  | string (s : String)
  | array (items : List Value)
  | object (members : List (String × Value))
  deriving BEq, Repr, Inhabited

/-- The members of an object, by ascending key. -/
abbrev Members := List (String × Value)

namespace Members

def insert (key : String) (value : Value) : Members → Members
  | [] => [(key, value)]
  | (k, v) :: rest =>
    if key < k then (key, value) :: (k, v) :: rest
    else if key = k then (key, value) :: rest
    else (k, v) :: insert key value rest

/-- Members from pairs in any order; the last value of a key wins. -/
def ofList (pairs : List (String × Value)) : Members :=
  pairs.foldl (fun ms p => insert p.1 p.2 ms) []

end Members

namespace Number

/-- The integer as a number of a document: a double where 64 bits do not hold it. -/
def ofInt (n : Int) : Number :=
  if fits : -0x8000000000000000 ≤ n ∧ n < 0x10000000000000000 then .whole n fits
  else .double (Binary64.ofInt n).toBits

/-- A natural number of 64 bits. -/
def ofUInt64 (n : UInt64) : Number :=
  .whole n.toNat ⟨by have := n.toNat_lt; omega, by have := n.toNat_lt; omega⟩

/-- An integer of 64 bits. -/
def ofInt64 (n : Int64) : Number :=
  .whole n.toInt ⟨by have := n.le_toInt; omega, by have := n.toInt_lt; omega⟩

end Number

namespace Value

/-! ## Building -/

/-- A natural number of 64 bits as a value. -/
def ofUInt64 (n : UInt64) : Value := .number (.ofUInt64 n)

/-- An integer of 64 bits as a value. -/
def ofInt64 (n : Int64) : Value := .number (.ofInt64 n)

def ofNat (n : Nat) : Value := .number (.ofInt n)

def ofList (pairs : List (String × Value)) : Value := .object (Members.ofList pairs)

/-- An optional value, absent as `null`. -/
def ofOption {α : Type} (f : α → Value) : Option α → Value
  | none => .null
  | some a => f a

/-! ## Looking inside -/

def get? (key : String) : Value → Option Value
  | .object members => members.lookup key
  | _ => none

/-- The value reached by a path of keys. -/
def path? (v : Value) : List String → Option Value
  | [] => some v
  | key :: keys => (v.get? key).bind (path? · keys)

def string? : Value → Option String
  | .string s => some s
  | _ => none

def array? : Value → Option (List Value)
  | .array items => some items
  | _ => none

def object? : Value → Option Members
  | .object members => some members
  | _ => none

def bool? : Value → Option Bool
  | .bool b => some b
  | _ => none

/-- The number, when it is an integer. -/
def int? : Value → Option Int
  | .number (.whole n _) => some n
  | _ => none

/-- The number, when it is a natural number of 64 bits. -/
def uint64? (v : Value) : Option UInt64 :=
  v.int?.bind fun n => if 0 ≤ n then some (UInt64.ofNat n.toNat) else none

/-- The number, when it is an integer of 64 bits with a sign. -/
def int64? (v : Value) : Option Int64 :=
  v.int?.bind fun n => if n < 0x8000000000000000 then some (Int64.ofInt n) else none

def isNull : Value → Bool
  | .null => true
  | _ => false

end Value

end ChainIndexer.Json
