import EdgeFleet.Text.Printable

/-!
# Quoted text in messages

`Text.quoted` puts a text between quotation marks, so that a message shows where it begins and
ends and what it holds. Line ends, tabs and the null character have short escapes, and any other
character that does not print is written by its code point.
-/

namespace EdgeFleet.Text

/-- The hexadecimal digits of a number, in lower case and without leading zeros. -/
def hexadecimal (value : Nat) : List Char :=
  Nat.toDigits 16 value

/-- One character inside quotation marks. -/
def quotedChar (c : Char) : List Char :=
  match c with
  | '\x00' => ['\\', '0']
  | '\t' => ['\\', 't']
  | '\r' => ['\\', 'r']
  | '\n' => ['\\', 'n']
  | '"' => ['\\', '"']
  | '\\' => ['\\', '\\']
  | c =>
    if isPrintable c then [c]
    else ['\\', 'u', '\x7b'] ++ hexadecimal c.toNat ++ ['\x7d']

/-- A text between quotation marks, with all that is not shown as it is escaped. -/
def quoted (text : String) : String :=
  String.ofList ('"' :: text.toList.flatMap quotedChar ++ ['"'])

end EdgeFleet.Text
