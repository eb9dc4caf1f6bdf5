import ChestMenu.Text.CaseTable
import ChestMenu.Text.HiddenTable

/-!
# Quoted text

A quoted text stands between double quotes. Quotes, backslashes and the common
control characters are written with a backslash, and every other character without
a visible shape of its own by its number in hexadecimal digits between braces.
-/

namespace ChestMenu.Text

/-- The digits of a number in base sixteen, small letters, at least one digit. -/
def hexDigits (n : Nat) : List Char := Nat.toDigits 16 n

/-- One character as it stands in quoted text. -/
def quotedChar (c : Char) : List Char :=
  match c with
  | '\x00' => ['\\', '0']
  | '\t' => ['\\', 't']
  | '\n' => ['\\', 'n']
  | '\r' => ['\\', 'r']
  | '"' => ['\\', '"']
  | '\\' => ['\\', '\\']
  | _ =>
    if inRanges hiddenRanges c.toNat then ['\\', 'u', '\x7b'] ++ hexDigits c.toNat ++ ['\x7d']
    else [c]

/-- A text between double quotes, with escapes. -/
def quoted (text : String) : String :=
  String.ofList ('"' :: text.toList.flatMap quotedChar ++ ['"'])

end ChestMenu.Text
