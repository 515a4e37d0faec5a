import PropertyGate.Text.Plain

/-!
# Launch/Style — text that stands out on a terminal

Messages and the help mark some of their words, so that they stand out. Where the marks are not
wanted they are taken out again, and with them whatever else steers a terminal.
-/

namespace PropertyGate

/-- What a marked text is. -/
inductive Style where
  /-- The word that opens the message of a fault. -/
  | fault
  | heading
  /-- A word to be typed as it is. -/
  | word
  /-- What is wrong in what was typed. -/
  | wrong
deriving DecidableEq, Repr

namespace Style

/-- The sequence that a marked text begins with. -/
def opening : Style → String
  | .fault => "\x1b[1m\x1b[31m"
  | .heading => "\x1b[1m\x1b[4m"
  | .word => "\x1b[1m"
  | .wrong => "\x1b[33m"

/-- The sequence that a marked text ends with. -/
def closing : String := "\x1b[0m"

/-- The text with its marks. -/
def mark (style : Style) (text : String) : String := style.opening ++ text ++ closing

/-- A text as it is written, with its marks if they are wanted. -/
def written (wanted : Bool) (text : String) : String := if wanted then text else Text.plain text

end Style

end PropertyGate
