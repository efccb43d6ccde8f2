import ChainIndexer.Numeral

/-!
# Instants

An instant is a date of the proleptic Gregorian calendar and a time of day, both in UTC, to the
nanosecond. A minute may have a second 60. Years run from `-262143` to `262142`.

* `Time.beforeOffset` moves a local time to UTC; an offset is less than a day, so that at most one
  day is crossed.
* `Time.text` is the one written form of an instant.
-/

namespace ChainIndexer

/-! ## Dates -/

/-- A date of the calendar. -/
structure Date where
  year : Int
  month : Nat
  day : Nat
  deriving DecidableEq, Repr

namespace Date

/-- The year has a 29th of February. -/
def isLeap (year : Int) : Bool := year % 4 == 0 && (year % 100 != 0 || year % 400 == 0)

def daysIn (year : Int) (month : Nat) : Nat :=
  if month = 2 then if isLeap year then 29 else 28
  else if month = 4 ∨ month = 6 ∨ month = 9 ∨ month = 11 then 30
  else 31

def minYear : Int := -262143

def maxYear : Int := 262142

def Valid (d : Date) : Prop :=
  minYear ≤ d.year ∧ d.year ≤ maxYear ∧ 1 ≤ d.month ∧ d.month ≤ 12
    ∧ 1 ≤ d.day ∧ d.day ≤ daysIn d.year d.month

instance (d : Date) : Decidable d.Valid := by unfold Valid; infer_instance

/-- The day after. -/
def next (d : Date) : Date :=
  if d.day < daysIn d.year d.month then { d with day := d.day + 1 }
  else if d.month < 12 then ⟨d.year, d.month + 1, 1⟩
  else ⟨d.year + 1, 1, 1⟩

/-- The day before. -/
def previous (d : Date) : Date :=
  if 1 < d.day then { d with day := d.day - 1 }
  else if 1 < d.month then ⟨d.year, d.month - 1, daysIn d.year (d.month - 1)⟩
  else ⟨d.year - 1, 12, 31⟩

end Date

/-! ## Instants -/

/-- A date and a time of day. -/
structure Time where
  date : Date
  hour : Nat
  minute : Nat
  second : Nat
  nano : Nat
  deriving DecidableEq, Repr

namespace Time

/-- The time of day is one of the clock, and the date one of the calendar. -/
def Valid (t : Time) : Prop :=
  t.date.Valid ∧ t.hour < 24 ∧ t.minute < 60 ∧ t.second ≤ 60 ∧ t.nano < 1000000000

instance (t : Time) : Decidable t.Valid := by unfold Valid; infer_instance

/-- The first instant of 1970. -/
def epoch : Time := ⟨⟨1970, 1, 1⟩, 0, 0, 0, 0⟩

/-- The same time of day on another date, `minutes` after midnight. -/
def atMinute (t : Time) (date : Date) (minutes : Nat) : Time :=
  { t with date := date, hour := minutes / 60, minute := minutes % 60 }

/-- The instant of a local time that is `offset` minutes ahead of UTC. -/
def beforeOffset (t : Time) (offset : Int) : Time :=
  let minutes : Int := t.hour * 60 + t.minute - offset
  if minutes < 0 then t.atMinute t.date.previous (minutes + 1440).toNat
  else if 1440 ≤ minutes then t.atMinute t.date.next (minutes - 1440).toNat
  else t.atMinute t.date minutes.toNat

/-! ## The written form -/

/-- A number with zeros before it, at least `width` digits. -/
def padded (width n : Nat) : List Char :=
  let digits := Nat.toDigits 10 n
  List.replicate (width - digits.length) '0' ++ digits

/-- A year: four digits, with a sign where four digits do not hold it. -/
def yearChars (year : Int) : List Char :=
  if 0 ≤ year ∧ year ≤ 9999 then padded 4 year.toNat
  else (if year < 0 then '-' else '+') :: padded 4 year.natAbs

/-- The fraction of a second: nothing, or a point and 3, 6 or 9 digits, the fewest that lose
nothing. -/
def fractionChars (nano : Nat) : List Char :=
  if nano = 0 then []
  else if nano % 1000000 = 0 then '.' :: padded 3 (nano / 1000000)
  else if nano % 1000 = 0 then '.' :: padded 6 (nano / 1000)
  else '.' :: padded 9 nano

/-- The date: year, month and day. -/
def dateChars (d : Date) : List Char :=
  yearChars d.year ++ '-' :: padded 2 d.month ++ '-' :: padded 2 d.day

def clockChars (t : Time) : List Char :=
  padded 2 t.hour ++ ':' :: padded 2 t.minute ++ ':' :: padded 2 t.second ++ fractionChars t.nano

/-- The written form of an instant. -/
def chars (t : Time) : List Char := dateChars t.date ++ 'T' :: clockChars t ++ ['Z']

/-- The written form of an instant. -/
def text (t : Time) : String := String.ofList t.chars

/-- The form in which an instant is shown to a person. -/
def shown (t : Time) : String :=
  String.ofList (dateChars t.date ++ ' ' :: clockChars t ++ [' ', 'U', 'T', 'C'])

end Time

end ChainIndexer
