import ChestMenu.Number.Whole

/-!
# Dates and times

A moment is a day, a time of day, or both, and with both there may be an offset. Days
are checked against the calendar, and sixty seconds are allowed. The seconds may be
missing, and of a fraction of a second nine digits are kept. The written form has
a `T` between day and time, whatever stood there.
-/

namespace ChestMenu.Toml

open ChestMenu.Number

/-- A day of the calendar. -/
structure Day where
  year : Nat
  month : Nat
  day : Nat
deriving DecidableEq, Repr

/-- A time of day. -/
structure Clock where
  hour : Nat
  minute : Nat
  second : Option Nat
  nanosecond : Option Nat
deriving DecidableEq, Repr

/-- The distance from universal time. -/
inductive Offset where
  | universal
  | minutes (ahead : Int)
deriving DecidableEq, Repr

/-- A date, a time, or both. -/
structure Moment where
  day : Option Day
  clock : Option Clock
  offset : Option Offset
deriving DecidableEq, Repr

/-- Reads exactly `n` digits. -/
def fixedDigits? (n : Nat) (cs : List Char) : Option (Nat × List Char) :=
  let shown := cs.take n
  if shown.length = n then (digits? shown).map (·, cs.drop n) else none

/-- The length of a month, the leap day included. -/
def daysIn (year month : Nat) : Nat :=
  let leap := year % 4 = 0 ∧ (year % 100 ≠ 0 ∨ year % 400 = 0)
  if month = 2 then if leap then 29 else 28
  else if month = 4 ∨ month = 6 ∨ month = 9 ∨ month = 11 then 30
  else 31

/-- Reads a day. -/
def day? (cs : List Char) : Option (Day × List Char) :=
  match fixedDigits? 4 cs with
  | some (year, '-' :: afterYear) =>
    match fixedDigits? 2 afterYear with
    | some (month, '-' :: afterMonth) =>
      match fixedDigits? 2 afterMonth with
      | some (day, rest) =>
        if 1 ≤ month ∧ month ≤ 12 ∧ 1 ≤ day ∧ day ≤ daysIn year month then
          some (⟨year, month, day⟩, rest)
        else none
      | none => none
    | _ => none
  | _ => none

/-- The first nine digits of a fraction, filled up with zeros. -/
def nanoseconds (digits : List Char) : Option Nat :=
  digits? ((digits ++ List.replicate 9 '0').take 9)

/-- Reads seconds with their fraction, or neither. -/
def seconds? (cs : List Char) : Option ((Option Nat × Option Nat) × List Char) :=
  match cs with
  | ':' :: shown =>
    match fixedDigits? 2 shown with
    | some (second, '.' :: rest) =>
      let fraction := rest.takeWhile fun c => (digit? c).isSome
      if fraction.isEmpty ∨ 60 < second then none
      else some ((some second, nanoseconds fraction), rest.drop fraction.length)
    | some (second, rest) => if 60 < second then none else some ((some second, none), rest)
    | none => none
  | _ => some ((none, none), cs)

/-- Reads a time of day. -/
def clock? (cs : List Char) : Option (Clock × List Char) :=
  match fixedDigits? 2 cs with
  | some (hour, ':' :: afterHour) =>
    match fixedDigits? 2 afterHour with
    | some (minute, afterMinute) =>
      if hour ≤ 23 ∧ minute ≤ 59 then
        (seconds? afterMinute).map fun ((second, nanosecond), rest) =>
          (⟨hour, minute, second, nanosecond⟩, rest)
      else none
    | none => none
  | _ => none

/-- Reads an offset of hours and minutes. -/
def distance? (cs : List Char) : Option Int :=
  match fixedDigits? 2 cs with
  | some (hours, ':' :: rest) =>
    match fixedDigits? 2 rest with
    | some (minutes, []) =>
      if hours ≤ 23 ∧ minutes ≤ 59 then some (Int.ofNat (60 * hours + minutes)) else none
    | _ => none
  | _ => none

/-- Reads what stands behind day and time: nothing, a `Z`, or a signed distance. -/
def offset? (cs : List Char) : Option (Option Offset) :=
  match cs with
  | [] => some none
  | ['Z'] | ['z'] => some (some .universal)
  | '+' :: rest => (distance? rest).map fun ahead => some (.minutes ahead)
  | '-' :: rest => (distance? rest).map fun behind => some (.minutes (-behind))
  | _ => none

/-- Reads a moment that is the whole text. -/
def Moment.ofText? (cs : List Char) : Option Moment :=
  match day? cs with
  | some (day, []) => some ⟨some day, none, none⟩
  | some (day, c :: rest) =>
    if c = 'T' ∨ c = 't' ∨ c = ' ' then
      match clock? rest with
      | some (clock, tail) => (offset? tail).map fun offset => ⟨some day, some clock, offset⟩
      | none => none
    else none
  | none =>
    match clock? cs with
    | some (clock, []) => some ⟨none, some clock, none⟩
    | _ => none

/-- A number with zeros in front, up to a width. -/
def padded (width n : Nat) : List Char :=
  let shown := Nat.toDigits 10 n
  List.replicate (width - shown.length) '0' ++ shown

/-- The written form of a day. -/
def Day.chars (day : Day) : List Char :=
  padded 4 day.year ++ '-' :: padded 2 day.month ++ '-' :: padded 2 day.day

/-- The written form of a time; zeros at the end of a fraction are left out. -/
def Clock.chars (clock : Clock) : List Char :=
  let second := (clock.second.map fun s => ':' :: padded 2 s).getD []
  let fraction := (clock.nanosecond.map fun n =>
    let shown := ((padded 9 n).reverse.dropWhile (· == '0')).reverse
    '.' :: if shown.isEmpty then ['0'] else shown).getD []
  padded 2 clock.hour ++ ':' :: padded 2 clock.minute ++ second ++ fraction

/-- The written form of an offset. -/
def Offset.chars : Offset → List Char
  | .universal => ['Z']
  | .minutes ahead =>
    let total := ahead.natAbs
    (if ahead < 0 then '-' else '+') :: padded 2 (total / 60) ++ ':' :: padded 2 (total % 60)

/-- The written form of a moment. -/
def Moment.text (moment : Moment) : String :=
  let day := (moment.day.map Day.chars).getD []
  let clock := (moment.clock.map Clock.chars).getD []
  let between := if day.isEmpty ∨ clock.isEmpty then [] else ['T']
  let offset := (moment.offset.map Offset.chars).getD []
  String.ofList (day ++ between ++ clock ++ offset)

end ChestMenu.Toml
