import TeenyFront.Text.Alphabetic
import TeenyFront.Text.Numeric
import TeenyFront.Text.WhiteSpace
import TeenyFront.Text.Combining
import TeenyFront.Text.Ignorable
import TeenyFront.Text.Unprintable

/-!
# Classes of characters

Words are made of alphabetic and numeric characters in the sense of Unicode, numbers of ASCII
digits only. ASCII is decided by arithmetic; the tables serve the characters beyond it.
-/

set_option autoImplicit false

namespace TeenyFront.Text

def isAlphabetic (c : Char) : Bool :=
  if c.toNat < 0x80 then c.isAlpha else alphabetic.contains c

def isNumeric (c : Char) : Bool :=
  if c.toNat < 0x80 then c.isDigit else numeric.contains c

def isAlphanumeric (c : Char) : Bool := isAlphabetic c || isNumeric c

def isWhiteSpace (c : Char) : Bool := whiteSpace.contains c

/-- A character that a message can show as itself. -/
def isShown (c : Char) : Bool :=
  if c.toNat < 0x80 then 0x20 ≤ c.toNat && c.toNat ≤ 0x7E
  else !unprintable.contains c && !combining.contains c && !ignorable.contains c

theorem isAlphabetic_ascii (c : Char) (h : c.toNat < 0x80) : isAlphabetic c = c.isAlpha := by
  simp [isAlphabetic, h]

end TeenyFront.Text
