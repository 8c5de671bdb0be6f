import TextCursor.Text.GraphemeExtend
import TextCursor.Text.Unprintable

/-!
Texts that show a value in full: quoted text, with an escape for each character that would not show,
and records with their fields by name.
-/
namespace TextCursor.Text

/-- How a character is written between double quotes. Single quotes stay as they are; escapes by
number give the code point in lower-case hexadecimal digits. -/
def quotedChar (c : Char) : List Char :=
  match c with
  | '\x00' => ['\\', '0']
  | '\t' => ['\\', 't']
  | '\n' => ['\\', 'n']
  | '\r' => ['\\', 'r']
  | '"' => ['\\', '"']
  | '\\' => ['\\', '\\']
  | c =>
    if isExtending c || isUnprintable c then
      ['\\', 'u', '\x7b'] ++ Nat.toDigits 16 c.toNat ++ ['\x7d']
    else
      [c]

def quoted (text : String) : String :=
  String.ofList (['"'] ++ text.toList.flatMap quotedChar ++ ['"'])

/-- The record's name, then its fields between braces, each as name and text. -/
def record (name : String) (fields : List (String × String)) : String :=
  name ++ " \x7b " ++ ", ".intercalate (fields.map fun field => field.1 ++ ": " ++ field.2) ++ " \x7d"

end TextCursor.Text
