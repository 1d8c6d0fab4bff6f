import NocAgent.Python.Value

/-!
# Aware timestamps

* `IsoStamp` — a `datetime` whose UTC offset is a whole number of minutes.
* `IsoStamp.text` — what `isoformat()` writes.
* `IsoStamp.instant` — the time it names, in microseconds since 1970 UTC.
-/

set_option autoImplicit false

namespace NocAgent

def isLeap (year : Nat) : Bool := year % 4 = 0 ∧ (year % 100 ≠ 0 ∨ year % 400 = 0)

def daysInMonth (year month : Nat) : Nat :=
  if month = 2 then if isLeap year then 29 else 28
  else if month ∈ [4, 6, 9, 11] then 30 else 31

/-- The parts of an ISO time. -/
structure IsoStamp where
  year : Nat
  month : Nat
  day : Nat
  hour : Nat
  minute : Nat
  second : Nat
  microsecond : Nat
  /-- `utcoffset()` in minutes -/
  offset : Int
  year_range : 1 ≤ year ∧ year ≤ 9999
  month_range : 1 ≤ month ∧ month ≤ 12
  day_range : 1 ≤ day ∧ day ≤ daysInMonth year month
  time_range : hour < 24 ∧ minute < 60 ∧ second < 60 ∧ microsecond < 1000000
  offset_range : offset.natAbs < 1440

/-! ## Text -/

/-- The last digit of a number. -/
def digit (n : Nat) : Char := Nat.digitChar (n % 10)

/-- `f"{n:02}"`. -/
def digits2 (n : Nat) : List Char := [digit (n / 10), digit n]

/-- `f"{n:04}"`. -/
def digits4 (n : Nat) : List Char := digits2 (n / 100) ++ digits2 n

/-- `f"{n:06}"`. -/
def digits6 (n : Nat) : List Char := digits2 (n / 10000) ++ digits4 n

def IsoStamp.date (stamp : IsoStamp) : List Char :=
  digits4 stamp.year ++ '-' :: digits2 stamp.month ++ '-' :: digits2 stamp.day

def IsoStamp.time (stamp : IsoStamp) : List Char :=
  digits2 stamp.hour ++ ':' :: digits2 stamp.minute ++ ':' :: digits2 stamp.second ++
    if stamp.microsecond = 0 then [] else '.' :: digits6 stamp.microsecond

/-- The UTC offset: `+00:00` for none. -/
def IsoStamp.zone (stamp : IsoStamp) : List Char :=
  (if stamp.offset < 0 then '-' else '+') ::
    (digits2 (stamp.offset.natAbs / 60) ++ ':' :: digits2 (stamp.offset.natAbs % 60))

/-- `datetime.isoformat()`. -/
def IsoStamp.text (stamp : IsoStamp) : String :=
  String.ofList (stamp.date ++ 'T' :: (stamp.time ++ stamp.zone))

theorem isDigit_digit (n : Nat) : (digit n).isDigit = true := by
  have h : ∀ d < 10, (Nat.digitChar d).isDigit = true := by decide
  exact h _ (Nat.mod_lt n (by decide))

/-! ## Instant -/

/-- `date.toordinal()`: day one is the first of January of the year one. -/
def IsoStamp.ordinal (stamp : IsoStamp) : Nat :=
  let y := stamp.year - 1
  y * 365 + y / 4 - y / 100 + y / 400 +
    ((List.range (stamp.month - 1)).map fun m => daysInMonth stamp.year (m + 1)).sum + stamp.day

def IsoStamp.instant (stamp : IsoStamp) : Int :=
  let days : Int := stamp.ordinal - 719163
  let seconds := days * 86400 + stamp.hour * 3600 + stamp.minute * 60 + stamp.second
  (seconds - stamp.offset * 60) * 1000000 + stamp.microsecond

/-- Half past ten in Kabul on the second of January 1970. -/
example : let stamp : IsoStamp := ⟨1970, 1, 2, 10, 30, 0, 5, 270, by decide, by decide, by decide,
    by decide, by decide⟩
    stamp.text = "1970-01-02T10:30:00.000005+04:30" ∧ stamp.instant = 108000000005 := by
  decide +kernel

end NocAgent
