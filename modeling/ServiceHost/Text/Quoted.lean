/-
  ServiceHost.Text.Quoted — a text between double quotes, as log fields and the inspection
  texts of records show it.

  Quotes, backslashes and the usual control characters are written with a backslash;
  any other character that would not show is written by number.
-/

import ServiceHost.Text.Numeral
import ServiceHost.Text.Unprintable

namespace ServiceHost.Text

def quotedChar (c : Char) : String :=
  match c with
  | '"' => "\\\""
  | '\\' => "\\\\"
  | '\n' => "\\n"
  | '\r' => "\\r"
  | '\t' => "\\t"
  | '\x00' => "\\0"
  | c => if isUnprintable c then "\\u\x7b" ++ hex 1 c.toNat ++ "\x7d" else c.toString

def quoted (s : String) : String := "\"" ++ String.join (s.toList.map quotedChar) ++ "\""

def quotedList (xs : List String) : String := "[" ++ ", ".intercalate (xs.map quoted) ++ "]"

/-- A record as its name and fields between braces; an empty one is its name alone. -/
def inspected (name : String) (fields : List (String × String)) (exhaustive : Bool) : String :=
  let shown := fields.map (fun f => f.1 ++ ": " ++ f.2) ++ if exhaustive then [] else [".."]
  if shown.isEmpty then name else name ++ " \x7b " ++ ", ".intercalate shown ++ " \x7d"

end ServiceHost.Text
