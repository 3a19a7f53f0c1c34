import CurlScript.Number.Numeral
import CurlScript.Text.Cut

/-!
Days and times of day, and the timestamps that write them out.
-/

namespace CurlScript.Yaml

def isLeapYear (year : Nat) : Bool :=
  year % 4 = 0 && (year % 100 ≠ 0 || year % 400 = 0)

def daysInMonth (year month : Nat) : Nat :=
  if month = 2 then if isLeapYear year then 29 else 28
  else if [4, 6, 9, 11].contains month then 30
  else 31

def padded (width value : Nat) : String :=
  let digits := Nat.toDigits 10 value
  String.ofList (List.replicate (width - digits.length) '0' ++ digits)

structure Date where
  year : Nat
  month : Nat
  day : Nat
  yearExists : 1 ≤ year ∧ year ≤ 9999
  monthExists : 1 ≤ month ∧ month ≤ 12
  dayExists : 1 ≤ day ∧ day ≤ daysInMonth year month
deriving DecidableEq, Repr

namespace Date

def daysBefore (year month : Nat) : Nat :=
  (List.range (month - 1)).foldl (fun days past => days + daysInMonth year (past + 1)) 0

def number (date : Date) : Nat :=
  let past := date.year - 1
  365 * past + past / 4 - past / 100 + past / 400 + daysBefore date.year date.month + date.day

def shown (date : Date) : String :=
  padded 4 date.year ++ "-" ++ padded 2 date.month ++ "-" ++ padded 2 date.day

end Date

def minutesInDay : Nat := 24 * 60

structure Clock where
  hour : Nat
  minute : Nat
  second : Nat
  microsecond : Nat
  offset : Option Int
deriving DecidableEq, Repr

def Clock.Exists (clock : Clock) : Prop :=
  clock.hour < 24 ∧ clock.minute < 60 ∧ clock.second < 60 ∧ clock.microsecond < 1000000 ∧
    ∀ offset ∈ clock.offset, offset.natAbs < minutesInDay

instance (clock : Clock) : Decidable clock.Exists :=
  inferInstanceAs (Decidable (_ ∧ _))

structure Moment where
  date : Date
  clock : Clock
  clockExists : clock.Exists
deriving DecidableEq, Repr

namespace Moment

def isZoned (moment : Moment) : Bool :=
  moment.clock.offset.isSome

def instant (moment : Moment) : Int :=
  let clock := moment.clock
  let minutes : Int := minutesInDay * moment.date.number + 60 * clock.hour + clock.minute
  1000000 * (60 * (minutes - clock.offset.getD 0) + clock.second) + clock.microsecond

def shownOffset (offset : Int) : String :=
  (if offset < 0 then "-" else "+") ++
    padded 2 (offset.natAbs / 60) ++ ":" ++ padded 2 (offset.natAbs % 60)

def shown (moment : Moment) : String :=
  let clock := moment.clock
  moment.date.shown ++ " " ++
    padded 2 clock.hour ++ ":" ++ padded 2 clock.minute ++ ":" ++ padded 2 clock.second ++
    (if clock.microsecond = 0 then "" else "." ++ padded 6 clock.microsecond) ++
    (clock.offset.map shownOffset).getD ""

end Moment

structure Timestamp where
  year : Nat
  month : Nat
  day : Nat
  clock : Option Clock := none
deriving DecidableEq, Repr

namespace Timestamp

def date? (timestamp : Timestamp) : Option Date :=
  let { year, month, day, .. } := timestamp
  if isYear : 1 ≤ year ∧ year ≤ 9999 then
    if isMonth : 1 ≤ month ∧ month ≤ 12 then
      if isDay : 1 ≤ day ∧ day ≤ daysInMonth year month then
        some ⟨year, month, day, isYear, isMonth, isDay⟩
      else none
    else none
  else none

abbrev Reading := StateT (List Char) Option

def number (least most : Nat) : Reading Nat := fun text =>
  let digits := (Number.digitRun Text.asciiDigit? (text.take most)).1
  if digits.length < least then none
  else some (Number.digitsValue digits, text.drop digits.length)

def mark (c : Char) : Reading Unit := fun text =>
  (Text.after? [c] text).map fun rest => ((), rest)

def fractionPart : Reading Nat := fun text =>
  match text with
  | '.' :: rest =>
    let (digits, after) := Number.digitRun Text.asciiDigit? rest
    some (Number.digitsValue ((digits ++ List.replicate 6 0).take 6), after)
  | _ => some (0, text)

def offsetPart : Reading Int := do
  let sign ← get
  let negative := sign.head? = some '-'
  if negative then mark '-' else mark '+'
  let hours ← number 1 2
  let minutes ← if (← get).head? = some ':' then do mark ':'; number 2 2 else pure 0
  let size : Int := 60 * hours + minutes
  return if negative then -size else size

def isBlank (c : Char) : Bool :=
  c = ' ' || c = '\t'

def zonePart : Reading (Option Int) := do
  if (← get).isEmpty then return none
  modify (·.dropWhile isBlank)
  if (← get).head? = some 'Z' then
    mark 'Z'
    return some 0
  else return some (← offsetPart)

def clockPart : Reading Clock := do
  let hour ← number 1 2
  mark ':'
  let minute ← number 2 2
  mark ':'
  let second ← number 2 2
  let microsecond ← fractionPart
  let offset ← zonePart
  return { hour, minute, second, microsecond, offset }

def separator : Reading Unit := fun text =>
  match text with
  | c :: rest =>
    if c = 'T' ∨ c = 't' then some ((), rest)
    else if isBlank c then some ((), rest.dropWhile isBlank)
    else none
  | [] => none

def read : Reading Timestamp := do
  let year ← number 4 4
  mark '-'
  let month ← number 1 2
  mark '-'
  let day ← number 1 2
  if (← get).isEmpty then return { year, month, day }
  separator
  return { year, month, day, clock := some (← clockPart) }

def ofText? (text : List Char) : Option Timestamp :=
  match read.run text with
  | some (found, []) => some found
  | _ => none

end Timestamp

end CurlScript.Yaml
