import LogLine.Time.Calendar

/-
  Patterns for dates and times, in which `%` and a letter
  stand for a part of an instant.

  Key definitions include:
    * `LogLine.TimeItem`
    * `LogLine.TimePattern.parse?`
    * `LogLine.TimePattern.format?`
    * `LogLine.Instant.timestampText`
    * `LogLine.formatTime`
-/

------------------------------------------------------------
-- Items of a Pattern
------------------------------------------------------------

namespace LogLine

/- How a number is filled up to its width. -/
inductive NumberPad where
  | none
  | zero
  | space
deriving DecidableEq, Repr

/- The numbers of an instant. -/
inductive NumberItem where
  | year
  | century
  | yearOfCentury
  | isoYear
  | isoYearOfCentury
  | quarter
  | month
  | day
  | weekFromSunday
  | weekFromMonday
  | isoWeek
  | weekdayFromSunday
  | weekdayFromMonday
  | ordinal
  | hour
  | hour12
  | minute
  | second
  | nanosecond
  | timestamp
deriving DecidableEq, Repr

/- The parts of an instant that are no padded numbers. -/
inductive TextItem where
  | shortWeekday
  | longWeekday
  | shortMonth
  | longMonth
  | upperHalfDay
  | lowerHalfDay
  | zoneName
  | offset
  | offsetWithColon
  | offsetWithSeconds
  | offsetHours
  /- An offset to be read in any form, which cannot be written. -/
  | offsetInAnyForm
  /- As few groups of three digits as the fraction needs. -/
  | fraction
  | fractionPlaces (point : Bool) (places : Nat)
  | timestampText
deriving DecidableEq, Repr

/- A piece of a pattern. -/
inductive TimeItem where
  | literal (text : Text)
  | number (item : NumberItem) (pad : NumberPad)
  | part (item : TextItem)
deriving DecidableEq, Repr

end LogLine

------------------------------------------------------------
-- Reading Patterns
------------------------------------------------------------

namespace LogLine

namespace TimePattern

/- A number filled up with zeros. -/
def zeros
    (item : NumberItem) :
    TimeItem :=
  .number item .zero

/- A number filled up with spaces. -/
def spaces
    (item : NumberItem) :
    TimeItem :=
  .number item .space

/- A number of its own length. -/
def plain
    (item : NumberItem) :
    TimeItem :=
  .number item .none

/- A character of a pattern that stands for itself. -/
def char
    (c : Char) :
    TimeItem :=
  .literal [c]

/- The month, the day and the year of the century. -/
def slashedDate : List TimeItem :=
  [zeros .month, char '/', zeros .day, char '/',
   zeros .yearOfCentury]

/- The time of day to the second. -/
def clock : List TimeItem :=
  [zeros .hour, char ':', zeros .minute, char ':', zeros .second]

/- What a letter behind a percent sign stands for. -/
def ofLetter? : Char → Option (List TimeItem)
  | 'A' => some [.part .longWeekday]
  | 'B' => some [.part .longMonth]
  | 'C' => some [zeros .century]
  | 'D' => some slashedDate
  | 'F' => some
      [zeros .year, char '-', zeros .month, char '-', zeros .day]
  | 'G' => some [zeros .isoYear]
  | 'H' => some [zeros .hour]
  | 'I' => some [zeros .hour12]
  | 'M' => some [zeros .minute]
  | 'P' => some [.part .lowerHalfDay]
  | 'R' => some [zeros .hour, char ':', zeros .minute]
  | 'S' => some [zeros .second]
  | 'T' => some clock
  | 'U' => some [zeros .weekFromSunday]
  | 'V' => some [zeros .isoWeek]
  | 'W' => some [zeros .weekFromMonday]
  | 'X' => some clock
  | 'Y' => some [zeros .year]
  | 'Z' => some [.part .zoneName]
  | 'a' => some [.part .shortWeekday]
  | 'b' => some [.part .shortMonth]
  | 'c' => some
      ([.part .shortWeekday, char ' ', .part .shortMonth,
        char ' ', spaces .day, char ' '] ++ clock ++
        [char ' ', zeros .year])
  | 'd' => some [zeros .day]
  | 'e' => some [spaces .day]
  | 'f' => some [zeros .nanosecond]
  | 'g' => some [zeros .isoYearOfCentury]
  | 'h' => some [.part .shortMonth]
  | 'j' => some [zeros .ordinal]
  | 'k' => some [spaces .hour]
  | 'l' => some [spaces .hour12]
  | 'm' => some [zeros .month]
  | 'n' => some [char '\n']
  | 'p' => some [.part .upperHalfDay]
  | 'q' => some [plain .quarter]
  | 'r' => some
      [zeros .hour12, char ':', zeros .minute, char ':',
       zeros .second, char ' ', .part .upperHalfDay]
  | 's' => some [plain .timestamp]
  | 't' => some [char '\t']
  | 'u' => some [plain .weekdayFromMonday]
  | 'v' => some
      [spaces .day, char '-', .part .shortMonth, char '-',
       zeros .year]
  | 'w' => some [plain .weekdayFromSunday]
  | 'x' => some slashedDate
  | 'y' => some [zeros .yearOfCentury]
  | 'z' => some [.part .offset]
  | '+' => some [.part .timestampText]
  | '%' => some [char '%']
  | _ => none

/- A letter with another padding, which only one number takes. -/
def padded?
    (pad : NumberPad)
    (letter : Char) :
    Option (List TimeItem) :=
  match ofLetter? letter with
  | some [.number item _] => some [.number item pad]
  | _ => none

/- What stands behind a percent sign, and the rest. -/
def directive?
    (text : Text) :
    Option (List TimeItem × Text) :=
  match text with
  | '-' :: c :: rest => (padded? .none c).map (·, rest)
  | '0' :: c :: rest => (padded? .zero c).map (·, rest)
  | '_' :: c :: rest => (padded? .space c).map (·, rest)
  | '#' :: 'z' :: rest =>
      some ([.part .offsetInAnyForm], rest)
  | ':' :: ':' :: ':' :: 'z' :: rest =>
      some ([.part .offsetHours], rest)
  | ':' :: ':' :: 'z' :: rest =>
      some ([.part .offsetWithSeconds], rest)
  | ':' :: 'z' :: rest =>
      some ([.part .offsetWithColon], rest)
  | '.' :: 'f' :: rest => some ([.part .fraction], rest)
  | '.' :: '3' :: 'f' :: rest =>
      some ([.part (.fractionPlaces true 3)], rest)
  | '.' :: '6' :: 'f' :: rest =>
      some ([.part (.fractionPlaces true 6)], rest)
  | '.' :: '9' :: 'f' :: rest =>
      some ([.part (.fractionPlaces true 9)], rest)
  | '3' :: 'f' :: rest =>
      some ([.part (.fractionPlaces false 3)], rest)
  | '6' :: 'f' :: rest =>
      some ([.part (.fractionPlaces false 6)], rest)
  | '9' :: 'f' :: rest =>
      some ([.part (.fractionPlaces false 9)], rest)
  | c :: rest => (ofLetter? c).map (·, rest)
  | [] => none

/- Pairing a result with a rest leaves just that rest. -/
theorem rest_eq_of_map
    {items : List TimeItem}
    {read : Option (List TimeItem)}
    {rest behind : Text}
    (hRead : read.map (·, behind) = some (items, rest)) :
    behind = rest := by
  obtain ⟨_, _, hPair⟩ := Option.map_eq_some_iff.mp hRead
  exact (Prod.mk.inj hPair).2

/- Reading a directive leaves less text. -/
theorem directive?_shorter
    {text rest : Text}
    {items : List TimeItem}
    (hRead : directive? text = some (items, rest)) :
    rest.length < text.length := by
  unfold directive? at hRead
  split at hRead
  case h_1 | h_2 | h_3 | h_15 =>
    rw [← rest_eq_of_map hRead]
    simp only [List.length_cons]
    omega
  case h_16 => simp at hRead
  all_goals
    rw [← (Prod.mk.inj (Option.some.inj hRead)).2]
    simp only [List.length_cons]
    omega

/- The items of a pattern, if all of its directives exist. -/
def parse?
    (text : Text) :
    Option (List TimeItem) :=
  match text with
  | [] => some []
  | '%' :: rest =>
      match _hRead : directive? rest with
      | none => none
      | some (items, behind) =>
          (parse? behind).map (items ++ ·)
  | c :: rest => (parse? rest).map (char c :: ·)
termination_by text.length
decreasing_by
  · have hLess := directive?_shorter (by assumption)
    simp only [List.length_cons]
    omega
  · simp

end TimePattern

end LogLine

------------------------------------------------------------
-- Writing Numbers
------------------------------------------------------------

namespace LogLine

namespace NumberPad

/-
  A number filled up to a width, sign included.  Zeros go
  behind the sign, spaces in front of it.
-/
def fill
    (pad : NumberPad)
    (width : Nat)
    (sign : Text)
    (digits : Text) :
    Text :=
  let missing := width - (sign.length + digits.length)
  match pad with
  | none => sign ++ digits
  | zero => sign ++ List.replicate missing '0' ++ digits
  | space => List.replicate missing ' ' ++ sign ++ digits

/- An integer filled up to a width. -/
def signed
    (pad : NumberPad)
    (width : Nat)
    (n : Int) :
    Text :=
  pad.fill width (if n < 0 then ['-'] else [])
    (Text.ofNat n.natAbs)

/- A year; outside of 0 to 9999 it always has a sign. -/
def year
    (pad : NumberPad)
    (n : Int) :
    Text :=
  if 0 ≤ n ∧ n ≤ 9999 then
    pad.signed 4 n
  else
    pad.fill 5 (if n < 0 then ['-'] else ['+'])
      (Text.ofNat n.natAbs)

/-
  The remainder of a number by 256 in two characters.  The
  first one counts the tens from `0` on, also beyond `9`.
-/
def two
    (pad : NumberPad)
    (n : Int) :
    Text :=
  let byte := (n % 256).toNat
  let tens := byte / 10
  let ones := Char.ofNat ('0'.toNat + byte % 10)
  if tens = 0 ∧ pad = none then
    [ones]
  else if tens = 0 ∧ pad = space then
    [' ', ones]
  else
    [Char.ofNat ('0'.toNat + tens), ones]

end NumberPad

/- A number of an instant. -/
def NumberItem.write
    (item : NumberItem)
    (pad : NumberPad)
    (instant : Instant) :
    Text :=
  let date := instant.date
  let time := instant.timeOfDay
  match item with
  | year => pad.year date.year
  | century => pad.two (date.year / 100)
  | yearOfCentury => pad.two (date.year % 100)
  | isoYear => pad.year date.isoYear
  | isoYearOfCentury => pad.two (date.isoYear % 100)
  | quarter => Text.ofNat date.quarter
  | month => pad.two date.month
  | day => pad.two date.day
  | weekFromSunday => pad.two date.weekFromSunday
  | weekFromMonday => pad.two date.weekFromMonday
  | isoWeek => pad.two date.isoWeek
  | weekdayFromSunday => Text.ofNat date.weekdayFromSunday
  | weekdayFromMonday => Text.ofNat (date.weekdayFromMonday + 1)
  | ordinal => pad.signed 3 (date.dayOfYear + 1)
  | hour => pad.two time.hour
  | hour12 => pad.two time.hour12
  | minute => pad.two time.minute
  | second => pad.two time.second
  | nanosecond => pad.signed 9 time.nanosecond
  | timestamp => pad.signed 9 instant.seconds

end LogLine

------------------------------------------------------------
-- Writing Instants
------------------------------------------------------------

namespace LogLine

def weekdayNames : List String :=
  ["Monday", "Tuesday", "Wednesday", "Thursday", "Friday",
   "Saturday", "Sunday"]

def monthNames : List String :=
  ["January", "February", "March", "April", "May", "June",
   "July", "August", "September", "October", "November",
   "December"]

namespace Date

def weekdayName
    (date : Date) :
    Text :=
  (weekdayNames.getD date.weekdayFromMonday "").toList

def monthName
    (date : Date) :
    Text :=
  (monthNames.getD (date.month - 1) "").toList

end Date

namespace TimeOfDay

/- A number of digits of the fraction of the second. -/
def fractionDigits
    (time : TimeOfDay)
    (places : Nat) :
    Text :=
  Text.zeroPadded places
    (Text.ofNat (time.nanosecond / Nat.pow 10 (9 - places)))

/-
  The fraction of the second by its point and three, six or
  nine digits; nothing if it is zero.
-/
def fraction
    (time : TimeOfDay) :
    Text :=
  if time.nanosecond = 0 then
    []
  else if time.nanosecond % 1000000 = 0 then
    '.' :: time.fractionDigits 3
  else if time.nanosecond % 1000 = 0 then
    '.' :: time.fractionDigits 6
  else
    '.' :: time.fractionDigits 9

end TimeOfDay

namespace Instant

/- The items of a pattern written one after another. -/
def numbers
    (instant : Instant)
    (items : List TimeItem) :
    Text :=
  items.flatMap fun
    | .literal text => text
    | .number item pad => item.write pad instant
    | .part _ => []

/- The date, the time of day and the offset as a timestamp. -/
def timestampText
    (instant : Instant) :
    Text :=
  instant.numbers
    [TimePattern.zeros .year, TimePattern.char '-',
     TimePattern.zeros .month, TimePattern.char '-',
     TimePattern.zeros .day, TimePattern.char 'T'] ++
  instant.numbers TimePattern.clock ++
  instant.timeOfDay.fraction ++ "+00:00".toList

end Instant

/- A part of an instant; one of them cannot be written. -/
def TextItem.write?
    (item : TextItem)
    (instant : Instant) :
    Option Text :=
  let date := instant.date
  let time := instant.timeOfDay
  match item with
  | shortWeekday => some (date.weekdayName.take 3)
  | longWeekday => some date.weekdayName
  | shortMonth => some (date.monthName.take 3)
  | longMonth => some date.monthName
  | upperHalfDay =>
      some (if time.hour < 12 then ['A', 'M'] else ['P', 'M'])
  | lowerHalfDay =>
      some (if time.hour < 12 then ['a', 'm'] else ['p', 'm'])
  | zoneName => some "+00:00".toList
  | offset => some "+0000".toList
  | offsetWithColon => some "+00:00".toList
  | offsetWithSeconds => some "+00:00:00".toList
  | offsetHours => some "+00".toList
  | offsetInAnyForm => none
  | fraction => some time.fraction
  | fractionPlaces point places =>
      some ((if point then ['.'] else []) ++
        time.fractionDigits places)
  | timestampText => some instant.timestampText

/- A piece of a pattern. -/
def TimeItem.write?
    (item : TimeItem)
    (instant : Instant) :
    Option Text :=
  match item with
  | literal text => some text
  | number item pad => some (item.write pad instant)
  | part item => item.write? instant

namespace TimePattern

/- An instant in a pattern, if all of it can be written. -/
def format?
    (pattern : Text)
    (instant : Instant) :
    Option Text := do
  let items ← parse? pattern
  let texts ← items.mapM (fun item => item.write? instant)
  return texts.flatten

/- Whether all directives of a pattern exist. -/
def isValid
    (pattern : Text) :
    Bool :=
  (parse? pattern).isSome

end TimePattern

end LogLine

------------------------------------------------------------
-- The Time of a Line
------------------------------------------------------------

namespace LogLine

/- The pattern for times without one of their own. -/
def standardPattern : Text :=
  "%Y-%m-%d %H:%M:%S".toList

/- How the time of a record is written. -/
abbrev TimeFormatter :=
  Instant → Option Text → Text

/-
  The time in a pattern, and as a timestamp if the pattern
  fails.  Without a pattern, milliseconds follow a comma.
-/
def formatTime : TimeFormatter :=
  fun instant pattern =>
    let text :=
      match pattern with
      | some pattern => TimePattern.format? pattern instant
      | none =>
          (TimePattern.format? standardPattern instant).map
            (· ++ ',' :: Text.zeroPadded 3
              (Text.ofNat instant.subsecondMillis))
    text.getD instant.timestampText

end LogLine
