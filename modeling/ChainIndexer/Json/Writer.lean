import ChainIndexer.Decimal.Shortest
import ChainIndexer.Json.Basic

/-!
# Writing JSON

The compact text of a value: no blanks, members in their order, strings with the short escapes and
`\u00xx` for the other controls, all else raw. The indented text puts each item on a line of its
own, two blanks deeper than what holds it.
-/

namespace ChainIndexer.Json

/-! ## Strings and numbers -/

/-- A hexadecimal digit in lower case. -/
def hexDigit (n : Nat) : Char := Nat.digitChar n

/-- One character inside a string. -/
def escapedChar (c : Char) : List Char :=
  if c = '"' then ['\\', '"']
  else if c = '\\' then ['\\', '\\']
  else if c = '\n' then ['\\', 'n']
  else if c = '\r' then ['\\', 'r']
  else if c = '\t' then ['\\', 't']
  else if c = '\x08' then ['\\', 'b']
  else if c = '\x0c' then ['\\', 'f']
  else if c.toNat < 0x20 then
    ['\\', 'u', '0', '0', hexDigit (c.toNat / 16), hexDigit (c.toNat % 16)]
  else [c]

def stringChars (s : String) : List Char := '"' :: s.toList.flatMap escapedChar ++ ['"']

/-- A number: an integer in decimal digits, a double by its shortest decimal. -/
def numberChars : Number → List Char
  | .whole n _ => (Numeral.integer n).toList
  | .double bits => (Decimal.text bits).toList

/-! ## Compact text -/

mutual
/-- The compact text of a value. -/
def valueChars : Value → List Char
  | .null => ['n', 'u', 'l', 'l']
  | .bool true => ['t', 'r', 'u', 'e']
  | .bool false => ['f', 'a', 'l', 's', 'e']
  | .number n => numberChars n
  | .string s => stringChars s
  | .array [] => ['[', ']']
  | .array (v :: vs) => '[' :: (valueChars v ++ moreItems vs)
  | .object [] => ['\x7b', '\x7d']
  | .object ((k, v) :: ms) => '\x7b' :: (stringChars k ++ ':' :: (valueChars v ++ moreMembers ms))

/-- The items after the first, and the closing bracket. -/
def moreItems : List Value → List Char
  | [] => [']']
  | v :: vs => ',' :: (valueChars v ++ moreItems vs)

/-- The members after the first, and the closing brace. -/
def moreMembers : List (String × Value) → List Char
  | [] => ['\x7d']
  | (k, v) :: ms => ',' :: (stringChars k ++ ':' :: (valueChars v ++ moreMembers ms))
end

def Value.compact (v : Value) : String := String.ofList (valueChars v)

/-! ## Indented text -/

/-- A line break and the blanks of a level. -/
def newline (level : Nat) : List Char := '\n' :: List.replicate (2 * level) ' '

mutual
/-- The indented text of a value that stands at a level. -/
def indentedChars (level : Nat) : Value → List Char
  | .array [] => ['[', ']']
  | .array (v :: vs) =>
    '[' :: (newline (level + 1) ++ indentedChars (level + 1) v ++ indentedItems level vs)
  | .object [] => ['\x7b', '\x7d']
  | .object ((k, v) :: ms) =>
    '\x7b' :: (newline (level + 1) ++ stringChars k ++ [':', ' '] ++ indentedChars (level + 1) v
      ++ indentedMembers level ms)
  | .null => valueChars .null
  | .bool b => valueChars (.bool b)
  | .number n => numberChars n
  | .string s => stringChars s

/-- The items after the first, and the closing bracket. -/
def indentedItems (level : Nat) : List Value → List Char
  | [] => newline level ++ [']']
  | v :: vs => ',' :: (newline (level + 1) ++ indentedChars (level + 1) v ++ indentedItems level vs)

/-- The members after the first, and the closing brace. -/
def indentedMembers (level : Nat) : List (String × Value) → List Char
  | [] => newline level ++ ['\x7d']
  | (k, v) :: ms =>
    ',' :: (newline (level + 1) ++ stringChars k ++ [':', ' '] ++ indentedChars (level + 1) v
      ++ indentedMembers level ms)
end

def Value.indented (v : Value) : String := String.ofList (indentedChars 0 v)

end ChainIndexer.Json
