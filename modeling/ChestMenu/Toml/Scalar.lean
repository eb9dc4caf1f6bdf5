import ChestMenu.Number.Binary
import ChestMenu.Toml.Value

/-!
# Strings, numbers and other simple values

Strings come in four forms: with escapes or literal, on one line or on several. A
simple value that is no string is a run of characters up to a blank, a comma, a
closing bracket, a comment or the end of the line, and the run as a whole must be
a truth value, a number or a moment. Underscores may stand between digits.
-/

namespace ChestMenu.Toml

open ChestMenu.Number

/-- Characters that may stand in comments and strings: no control characters but
the tab. -/
def isPlain (c : Char) : Bool := c = '\t' || (' ' ≤ c && c != '\x7f')

/-- A space or a tab. -/
def isGap (c : Char) : Bool := c = ' ' || c = '\t'

/-- The rest behind a line ending, which is a newline with an optional carriage
return in front. -/
def afterLineEnd? : List Char → Option (List Char)
  | '\n' :: rest => some rest
  | '\r' :: '\n' :: rest => some rest
  | _ => none

/-- The value of a hexadecimal digit. -/
def hexDigit? (c : Char) : Option Nat :=
  if '0' ≤ c ∧ c ≤ '9' then some (c.toNat - '0'.toNat)
  else if 'a' ≤ c.toLower ∧ c.toLower ≤ 'f' then some (c.toLower.toNat - 'a'.toNat + 10)
  else none

/-- The value of digits in a base. -/
def inBase (base : Nat) (cs : List Char) : Option Nat :=
  cs.foldl (fun value c =>
    match value, (hexDigit? c).filter (· < base) with
    | some v, some d => some (base * v + d)
    | _, _ => none) (some 0)

/-- A character given by exactly `n` hexadecimal digits. -/
def numbered? (n : Nat) (cs : List Char) : Option (Char × List Char) :=
  let shown := cs.take n
  match inBase 16 shown with
  | some number =>
    if shown.length = n ∧ number.isValidChar then some (Char.ofNat number, cs.drop n) else none
  | none => none

/-- The character that an escape stands for; the backslash has been read. -/
def escaped? : List Char → Option (Char × List Char)
  | 'b' :: rest => some ('\x08', rest)
  | 't' :: rest => some ('\t', rest)
  | 'n' :: rest => some ('\n', rest)
  | 'f' :: rest => some ('\x0c', rest)
  | 'r' :: rest => some ('\r', rest)
  | 'e' :: rest => some ('\x1b', rest)
  | '"' :: rest => some ('"', rest)
  | '\\' :: rest => some ('\\', rest)
  | 'x' :: rest => numbered? 2 rest
  | 'u' :: rest => numbered? 4 rest
  | 'U' :: rest => numbered? 8 rest
  | _ => none

/-- A string on one line, after its opening quote. Each step uses up a character. -/
def basicText : Nat → Step (List Char)
  | steps + 1, '\\' :: rest =>
    match escaped? rest with
    | some (c, tail) => (basicText steps tail).map fun (cs, tail) => (c :: cs, tail)
    | none => .error .malformed
  | steps + 1, c :: rest =>
    if c = '"' then .ok ([], rest)
    else if isPlain c then (basicText steps rest).map fun (cs, tail) => (c :: cs, tail)
    else .error .malformed
  | _, _ => .error .malformed

/-- A literal string on one line, after its opening quote. -/
def literalText : Step (List Char)
  | [] => .error .malformed
  | c :: rest =>
    if c = '\'' then .ok ([], rest)
    else if isPlain c then (literalText rest).map fun (cs, tail) => (c :: cs, tail)
    else .error .malformed

/-- What remains after gaps and line ends. -/
def afterGaps : List Char → List Char
  | [] => []
  | '\r' :: '\n' :: rest => afterGaps rest
  | c :: rest => if isGap c ∨ c = '\n' then afterGaps rest else c :: rest

/-- What remains after a backslash at the end of a line: the line end and all gaps and
line ends that follow. -/
def afterFold? (cs : List Char) : Option (List Char) :=
  (afterLineEnd? (cs.dropWhile isGap)).map afterGaps

/-- The end of a string on several lines: three quotes, before which up to two more
belong to the text. -/
def closing? (quote : Char) (cs : List Char) : Option (List Char × List Char) :=
  let run := (cs.takeWhile (· == quote)).length
  if 3 ≤ run then
    let own := min (run - 3) 2
    some (List.replicate own quote, cs.drop (own + 3))
  else none

/-- A string on several lines, after its opening quotes. Each step uses up a
character. -/
def longText (quote : Char) : Nat → Step (List Char)
  | _, [] => .error .malformed
  | 0, _ => .error .malformed
  | steps + 1, c :: rest =>
    match closing? quote (c :: rest) with
    | some (own, tail) => .ok (own, tail)
    | none =>
      if c = '\\' ∧ quote = '"' then
        match escaped? rest with
        | some (d, tail) => (longText quote steps tail).map fun (cs, tail) => (d :: cs, tail)
        | none =>
          match afterFold? rest with
          | some tail => longText quote steps tail
          | none => .error .malformed
      else if isPlain c ∨ (afterLineEnd? (c :: rest)).isSome then
        (longText quote steps rest).map fun (cs, tail) => (c :: cs, tail)
      else .error .malformed

/-- A string on several lines; a line end right after the opening quotes is not part
of it. -/
def longString (quote : Char) (cs : List Char) : Except Fault (List Char × List Char) :=
  let shown := (afterLineEnd? cs).getD cs
  longText quote shown.length shown

/-- A string of any form, if the text starts with a quote. -/
def string? : List Char → Option (Except Fault (String × List Char))
  | '"' :: '"' :: '"' :: rest =>
    some ((longString '"' rest).map fun (cs, tail) => (String.ofList cs, tail))
  | '\'' :: '\'' :: '\'' :: rest =>
    some ((longString '\'' rest).map fun (cs, tail) => (String.ofList cs, tail))
  | '"' :: rest =>
    some ((basicText rest.length rest).map fun (cs, tail) => (String.ofList cs, tail))
  | '\'' :: rest => some ((literalText rest).map fun (cs, tail) => (String.ofList cs, tail))
  | _ => none

/-- Digits of a base without the underscores, each of which stood between two digits. -/
def joined? (base : Nat) (cs : List Char) : Option (List Char) :=
  let isDigit := fun c => ((hexDigit? c).filter (· < base)).isSome
  match cs with
  | [] => none
  | [c] => if isDigit c then some [c] else none
  | c :: '_' :: rest => if isDigit c then (joined? base rest).map (c :: ·) else none
  | c :: rest => if isDigit c then (joined? base rest).map (c :: ·) else none

/-- Decimal digits of a number, of which only zero starts with a zero. -/
def decimalDigits? (cs : List Char) : Option (List Char) :=
  match joined? 10 cs with
  | some ['0'] => some ['0']
  | some ('0' :: _) => none
  | shown => shown

/-- Integers of the widest kind lie in this range. -/
def isStorable (n : Int) : Bool := isBetween (Nat.pow 2 127) (Nat.pow 2 128) n

/-- An integer within its range. -/
def boundedInteger (n : Int) : Except Fault Value :=
  if isStorable n then .ok (.integer n) else .error .outOfRange

/-- An integer in a base other than ten, which has no sign. -/
def prefixedInteger (base : Nat) (cs : List Char) : Except Fault Value :=
  match (joined? base cs).bind (inBase base) with
  | some n => boundedInteger (Int.ofNat n)
  | none => .error .malformed

/-- A floating-point number with at least a fraction or a power of ten. -/
def floatNumeral? (negative : Bool) (cs : List Char) : Option Numeral :=
  let isPower := fun c => c == 'e' || c == 'E'
  let front := cs.takeWhile (!isPower ·)
  let power := cs.dropWhile (!isPower ·)
  let before := front.takeWhile (· != '.')
  let behind := front.dropWhile (· != '.')
  let fraction := match behind with
    | [] => some []
    | _ :: digits => joined? 10 digits
  let exponent := match power with
    | [] => some 0
    | _ :: shown =>
      let (minus, digits) := signed shown
      ((joined? 10 digits).bind digits?).map fun n =>
        if minus then -Int.ofNat n else Int.ofNat n
  match decimalDigits? before, fraction, exponent with
  | some whole, some fraction, some exponent =>
    (digits? (whole ++ fraction)).map fun digits =>
      .finite negative digits (exponent - fraction.length)
  | _, _, _ => none

/-- A number in base ten, of either kind. A finite numeral must not become infinite. -/
def decimalNumber (cs : List Char) : Except Fault Value :=
  let (negative, shown) := signed cs
  let encoded := fun numeral => Value.float (Format.double.encode numeral)
  if shown = "inf".toList then .ok (encoded (.infinite negative))
  else if shown = "nan".toList then .ok (encoded (.nan negative))
  else match (decimalDigits? shown).bind digits? with
    | some n => boundedInteger (if negative then -Int.ofNat n else Int.ofNat n)
    | none =>
      match floatNumeral? negative shown with
      | some numeral =>
        let bits := Format.double.encode numeral
        if Format.double.magnitude bits = Format.double.infinity then .error .outOfRange
        else .ok (.float bits)
      | none => .error .malformed

/-- A simple value that is no string, from the whole of its characters. -/
def bareValue (cs : List Char) : Except Fault Value :=
  match Moment.ofText? cs with
  | some moment => .ok (.moment moment)
  | none =>
    if cs = "true".toList then .ok (.boolean true)
    else if cs = "false".toList then .ok (.boolean false)
    else match cs with
      | '0' :: 'x' :: rest => prefixedInteger 16 rest
      | '0' :: 'o' :: rest => prefixedInteger 8 rest
      | '0' :: 'b' :: rest => prefixedInteger 2 rest
      | _ => decimalNumber cs

/-- Characters of a run that is a simple value. -/
def isRunChar (c : Char) : Bool :=
  !(isGap c || c == '\n' || c == '\r' || c == ',' || c == ']' || c == '\x7d' || c == '#')

/-- Reads a simple value that is no string. A day may be followed by a space and a
time, which then belong to it. -/
def bareStep : Step Value := fun cs =>
  let run := cs.takeWhile isRunChar
  let rest := cs.dropWhile isRunChar
  match day? run, rest with
  | some (_, []), ' ' :: c :: more =>
    if (digit? c).isSome then
      let clock := (c :: more).takeWhile isRunChar
      (bareValue (run ++ ' ' :: clock)).map (·, (c :: more).dropWhile isRunChar)
    else (bareValue run).map (·, rest)
  | _, _ => (bareValue run).map (·, rest)

end ChestMenu.Toml
