/-!
# Moments — points in time, written as RFC 3339

A moment shown at an offset of whole minutes and less than a day, in the years 0 to 9999, has a text; trailing
zeros of the fraction are left out and offset zero is `Z`.  Any other has the empty text.
-/

namespace CanBus

/-- A point in time: seconds of the Unix epoch, nanoseconds, and the offset (in seconds) at which it is shown. -/
structure Moment where
  seconds : Int
  nanos : Nat
  offset : Int
  deriving DecidableEq, Repr

namespace Moment

/-! ## Calendar -/

/-- A day of the calendar. -/
structure Date where
  year : Int
  month : Nat
  day : Nat
  deriving DecidableEq, Repr

/-- The date that lies `days` after 1 January 1970.  Years are counted from March, so that a leap day ends one. -/
def dateOfDays (days : Int) : Date :=
  let z := days + 719468
  let era := z / 146097
  let dayOfEra := (z % 146097).toNat
  let yearOfEra := (dayOfEra - dayOfEra / 1460 + dayOfEra / 36524 - dayOfEra / 146096) / 365
  let dayOfYear := dayOfEra - (365 * yearOfEra + yearOfEra / 4 - yearOfEra / 100)
  let marchMonth := (5 * dayOfYear + 2) / 153
  let day := dayOfYear - (153 * marchMonth + 2) / 5 + 1
  let month := if marchMonth < 10 then marchMonth + 3 else marchMonth - 9
  ⟨yearOfEra + era * 400 + (if month ≤ 2 then 1 else 0), month, day⟩

/-- The number of days from 1 January 1970 to a date. -/
def daysOfDate (date : Date) : Int :=
  let year := if date.month ≤ 2 then date.year - 1 else date.year
  let era := year / 400
  let yearOfEra := year % 400
  let marchMonth : Int := if date.month ≤ 2 then date.month + 9 else date.month - 3
  let dayOfYear := (153 * marchMonth + 2) / 5 + date.day - 1
  era * 146097 + (yearOfEra * 365 + yearOfEra / 4 - yearOfEra / 100 + dayOfYear) - 719468

/-! ## Writing -/

/-- Decimal digits, zero-padded to `width`. -/
def padded (width n : Nat) : List Char :=
  let ds := Nat.toDigits 10 n
  List.replicate (width - ds.length) '0' ++ ds

/-- The fraction of a second without trailing zeros; nothing for a whole second. -/
def fractionText (nanos : Nat) : List Char :=
  if nanos = 0 then [] else '.' :: ((padded 9 nanos).reverse.dropWhile (· == '0')).reverse

/-- The offset of a moment. -/
def offsetText (offset : Int) : List Char :=
  if offset = 0 then ['Z']
  else
    let minutes := offset.natAbs / 60
    (if offset < 0 then '-' else '+') :: padded 2 (minutes / 60) ++ ':' :: padded 2 (minutes % 60)

/-- The text of a moment, empty where it has none. -/
def render (moment : Moment) : List Char :=
  let shown := moment.seconds + moment.offset
  let date := dateOfDays (shown / 86400)
  let second := (shown % 86400).toNat
  if 0 ≤ date.year ∧ date.year ≤ 9999 ∧ moment.offset % 60 = 0 ∧ moment.offset.natAbs < 86400 then
    padded 4 date.year.toNat ++ '-' :: padded 2 date.month ++ '-' :: padded 2 date.day ++
      'T' :: padded 2 (second / 3600) ++ ':' :: padded 2 (second / 60 % 60) ++ ':' :: padded 2 (second % 60) ++
      fractionText moment.nanos ++ offsetText moment.offset
  else []

/-! ## Reading -/

/-- Exactly `width` digits. -/
def digits? (width : Nat) (cs : List Char) : Option (Nat × List Char) :=
  let ds := cs.take width
  if ds.length = width ∧ ds.all Char.isDigit then
    some (ds.foldl (fun n c => n * 10 + (c.toNat - '0'.toNat)) 0, cs.drop width)
  else none

/-- The text after a given character. -/
def after? (c : Char) : List Char → Option (List Char)
  | d :: cs => if d = c then some cs else none
  | [] => none

/-- The nanoseconds of a fraction, if there is one; digits beyond the ninth are passed over. -/
def fraction? : List Char → Option (Nat × List Char)
  | '.' :: cs =>
    let ds := cs.takeWhile Char.isDigit
    if ds = [] then none
    else (digits? 9 (ds.take 9 ++ List.replicate (9 - ds.length) '0')).map fun (n, _) =>
      (n, cs.dropWhile Char.isDigit)
  | cs => some (0, cs)

/-- The offset in seconds that ends a text. -/
def offset? : List Char → Option Int
  | ['Z'] => some 0
  | ['z'] => some 0
  | sign :: cs => do
    let (hours, cs) ← digits? 2 cs
    let cs ← after? ':' cs
    let (minutes, cs) ← digits? 2 cs
    if cs ≠ [] ∨ 23 < hours ∨ 59 < minutes then none
    else if sign = '+' then some (hours * 3600 + minutes * 60)
    else if sign = '-' then some (-(hours * 3600 + minutes * 60))
    else none
  | [] => none

/-- The moment that a text names. -/
def read? (cs : List Char) : Option Moment := do
  let (year, cs) ← digits? 4 cs
  let cs ← after? '-' cs
  let (month, cs) ← digits? 2 cs
  let cs ← after? '-' cs
  let (day, cs) ← digits? 2 cs
  let cs ← (after? 'T' cs).or (after? 't' cs)
  let (hour, cs) ← digits? 2 cs
  let cs ← after? ':' cs
  let (minute, cs) ← digits? 2 cs
  let cs ← after? ':' cs
  let (second, cs) ← digits? 2 cs
  let (nanos, cs) ← fraction? cs
  let offset ← offset? cs
  let days := daysOfDate ⟨year, month, day⟩
  if dateOfDays days = ⟨year, month, day⟩ ∧ hour < 24 ∧ minute < 60 ∧ second < 60 then
    some ⟨days * 86400 + hour * 3600 + minute * 60 + second - offset, nanos, offset⟩
  else none

/-- The nanoseconds from one moment to a later one, none if it is not later. -/
def gap (earlier later : Moment) : Nat :=
  ((later.seconds - earlier.seconds) * 1000000000 + later.nanos - earlier.nanos).toNat

end Moment

end CanBus
