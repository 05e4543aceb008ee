import VmProvisioning.Number.Decimal
import VmProvisioning.Text.Blank

/-!
# Timestamps

Points in time as objects carry them: a date, a time of day and an offset from universal time.
They are read leniently, with blanks between their parts, and kept in universal time, to the
second.

## Main definitions

* `Timestamp.Moment`: a point in time
* `Timestamp.read?`, `Timestamp.write`: reading and writing timestamps
* `Timestamp.normalize?`: the normal form of a timestamp
-/

namespace VmProvisioning.Timestamp

/-- **A point in time**: a day, counted from the first of March of the year zero, a minute of the
day, and a second, which is 60 for a leap second. -/
structure Moment where
  day : Int
  minute : Int
  second : Int
deriving DecidableEq, Repr

/-! ## Dates -/

/-- The days of four hundred years. -/
def daysPerEra : Int :=
  146097

/-- The minutes of a day. -/
def minutesPerDay : Int :=
  1440

/-- The days of a date since the first of March of the year zero, in the Gregorian calendar. -/
def dayOfDate (year month day : Int) : Int :=
  let shifted := if month ≤ 2 then year - 1 else year
  let monthFromMarch := (month + 9) % 12
  365 * shifted + shifted.fdiv 4 - shifted.fdiv 100 + shifted.fdiv 400 +
    (153 * monthFromMarch + 2) / 5 + day - 1

/-- The date of a day: year, month and day of the month. -/
def dateOfDay (count : Int) : Int × Int × Int :=
  let era := count.fdiv daysPerEra
  let dayOfEra := count.fmod daysPerEra
  let yearOfEra := (dayOfEra - dayOfEra / 1460 + dayOfEra / 36524 - dayOfEra / 146096) / 365
  let dayOfYear := dayOfEra - (365 * yearOfEra + yearOfEra / 4 - yearOfEra / 100)
  let monthFromMarch := (5 * dayOfYear + 2) / 153
  let day := dayOfYear - (153 * monthFromMarch + 2) / 5 + 1
  let month := if monthFromMarch < 10 then monthFromMarch + 3 else monthFromMarch - 9
  let year := yearOfEra + era * 400
  (if month ≤ 2 then year + 1 else year, month, day)

/-- The years that have timestamps. -/
def isSupported (year : Int) : Bool :=
  -262143 ≤ year ∧ year ≤ 262142

/-- The moment of a date and a time of day, `offset` minutes ahead of universal time. Date and time
have to exist, and the year has to be supported here and in universal time. -/
def moment? (date : Int × Int × Int) (hour minute second offset : Int) : Option Moment :=
  let (year, month, day) := date
  let count := dayOfDate year month day
  let minutes := hour * 60 + minute - offset
  let universal := count + minutes.fdiv minutesPerDay
  if dateOfDay count = date ∧ hour ≤ 23 ∧ minute ≤ 59 ∧ second ≤ 60 ∧ isSupported year ∧
      isSupported (dateOfDay universal).1 then
    some ⟨universal, minutes.fmod minutesPerDay, second⟩
  else none

/-- The point in time that many seconds after the beginning of the year 1970. -/
def ofUnixSeconds (seconds : Int) : Moment :=
  let minutes := seconds.fdiv 60
  ⟨dayOfDate 1970 1 1 + minutes.fdiv minutesPerDay, minutes.fmod minutesPerDay, seconds.fmod 60⟩

/-! ## Reading -/

/-- A text without the blanks at its beginning. -/
def skipBlanks (cs : List Char) : List Char :=
  cs.dropWhile Text.isBlank

/-- A number of one to `most` digits. -/
def readDigits? (most : Nat) (cs : List Char) : Option (Int × List Char) :=
  let digits := (cs.take most).takeWhile Char.isDigit
  if digits.isEmpty then none else some (Decimal.ofDigits digits, cs.drop digits.length)

/-- A year, which has at most four digits unless it has a sign. -/
def readYear? (cs : List Char) : Option (Int × List Char) :=
  match skipBlanks cs with
  | '-' :: rest => (readDigits? rest.length rest).map fun (year, rest) => (0 - year, rest)
  | '+' :: rest => readDigits? rest.length rest
  | rest => readDigits? 4 rest

/-- A number of one or two digits after blanks. -/
def readTwo? (cs : List Char) : Option (Int × List Char) :=
  readDigits? 2 (skipBlanks cs)

/-- A number of one or two digits after a separator. -/
def readAfter? (separator : Char) (cs : List Char) : Option (Int × List Char) :=
  match skipBlanks cs with
  | c :: rest => if c = separator then readTwo? rest else none
  | [] => none

/-- What separates the time of day from the date. -/
def skipSeparator? : List Char → Option (List Char)
  | 'T' :: rest | 't' :: rest | ' ' :: rest => some rest
  | _ => none

/-- A fraction of a second, when there is one; it is not kept. -/
def skipFraction? : List Char → Option (List Char)
  | '.' :: rest =>
    if (rest.takeWhile Char.isDigit).isEmpty then none else some (rest.dropWhile Char.isDigit)
  | rest => some rest

/-- An offset in minutes after its sign: hours and minutes of two digits each, with or without
colons and blanks between them. -/
def readOffset? (cs : List Char) : Option (Int × List Char) :=
  let minutes := (cs.drop 2).dropWhile fun c => c == ':' || Text.isBlank c
  let hourDigits := cs.take 2
  let minuteDigits := minutes.take 2
  let hour := Decimal.ofDigits hourDigits
  let minute := Decimal.ofDigits minuteDigits
  if hourDigits.length = 2 ∧ hourDigits.all Char.isDigit ∧ hour ≤ 23 ∧
      minuteDigits.length = 2 ∧ minuteDigits.all Char.isDigit ∧ minute ≤ 59 then
    some (hour * 60 + minute, minutes.drop 2)
  else none

/-- The offset from universal time, in minutes. -/
def readZone? : List Char → Option (Int × List Char)
  | 'Z' :: rest | 'z' :: rest => some (0, rest)
  | '+' :: rest => readOffset? rest
  | '-' :: rest | '\u2212' :: rest =>
    (readOffset? rest).map fun (offset, rest) => (0 - offset, rest)
  | cs => if (cs.take 3).map Char.toUpper = ['U', 'T', 'C'] then some (0, cs.drop 3) else none

/-- **Read a timestamp.** -/
def read? (text : String) : Option Moment := do
  let (year, rest) ← readYear? text.toList
  let (month, rest) ← readAfter? '-' rest
  let (day, rest) ← readAfter? '-' rest
  let (hour, rest) ← readTwo? (← skipSeparator? rest)
  let (minute, rest) ← readAfter? ':' rest
  let (second, rest) ← readAfter? ':' rest
  let (offset, rest) ← readZone? (skipBlanks (← skipFraction? rest))
  if (skipBlanks rest).isEmpty then moment? (year, month, day) hour minute second offset else none

/-! ## Writing -/

/-- A number with at least `width` digits. -/
def padded (width value : Nat) : List Char :=
  let digits := Nat.toDigits 10 value
  List.replicate (width - digits.length) '0' ++ digits

/-- A year, with a sign unless it has four digits. -/
def writeYear (year : Int) : List Char :=
  if year < 0 then '-' :: padded 4 year.natAbs
  else if 9999 < year then '+' :: padded 4 year.natAbs
  else padded 4 year.natAbs

/-- **Write a timestamp.** -/
def write (moment : Moment) : String :=
  let (year, month, day) := dateOfDay moment.day
  String.ofList (writeYear year ++ '-' :: (padded 2 month.toNat ++ '-' :: (padded 2 day.toNat ++
    'T' :: (padded 2 (moment.minute / 60).toNat ++ ':' :: (padded 2 (moment.minute % 60).toNat ++
      ':' :: (padded 2 moment.second.toNat ++ ['Z']))))))

/-- **The normal form of a timestamp.** -/
def normalize? (text : String) : Option String :=
  (read? text).map write

end VmProvisioning.Timestamp
