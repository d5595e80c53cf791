/-
  ServiceHost.Text.Duration — how spans of time are written.

  Two forms: the inspection form of a span in milliseconds (`5s`, `1.5s`, `50ms`), in the
  largest unit that leaves a whole part, and the uptime form (`1h2m3s`) in whole seconds,
  without leading zero units.
-/

import ServiceHost.Text.Blank
import ServiceHost.Text.Numeral

namespace ServiceHost.Text

/-- A fraction's digits with a point in front, without trailing zeros; nothing for a whole number. -/
def fractionDigits (width n : Nat) : String :=
  if n = 0 then "" else "." ++ String.ofList (dropEndWhile (· = '0') (padded width n).toList)

/-- The inspection form of a span given in milliseconds. -/
def spanText (millis : Nat) : String :=
  if 1000 ≤ millis then toString (millis / 1000) ++ fractionDigits 3 (millis % 1000) ++ "s"
  else if 0 < millis then toString millis ++ "ms"
  else "0ns"

def uptimeText (secs : Nat) : String :=
  let hours := secs / 3600
  let minutes := secs % 3600 / 60
  let seconds := toString (secs % 60) ++ "s"
  if 0 < hours then toString hours ++ "h" ++ toString minutes ++ "m" ++ seconds
  else if 0 < minutes then toString minutes ++ "m" ++ seconds
  else seconds

end ServiceHost.Text
