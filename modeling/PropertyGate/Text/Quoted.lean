import PropertyGate.Text.Hidden

/-!
# Text/Quoted — text between quotes, for messages

A text that a message quotes is set between quotation marks. Quotation marks and backslashes are
marked by a backslash, the common controls have letters of their own, and what has no visible form
is shown by its number, so that any two texts look different.
-/

namespace PropertyGate.Text

/-- How one character shows inside a quoted text. -/
def quotedChar (c : Char) : String :=
  if c = '"' then "\\\""
  else if c = '\\' then "\\\\"
  else if c = '\n' then "\\n"
  else if c = '\r' then "\\r"
  else if c = '\t' then "\\t"
  else if c.toNat = 0 then "\\0"
  else if 0x20 ≤ c.toNat && c.toNat < 0x7F then c.toString
  else if isHidden c then "\\u\x7b" ++ String.ofList (Nat.toDigits 16 c.toNat) ++ "\x7d"
  else c.toString

/-- The text between quotation marks. -/
def quoted (text : String) : String :=
  text.foldl (fun shown c => shown ++ quotedChar c) "\"" ++ "\""

end PropertyGate.Text
