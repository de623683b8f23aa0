/-
# FactScan.Text.Blank — white space

Two classes of white space are in use.  `isBlank` is the property `White_Space` of the
character database, which decides whether a text holds anything at all.  `isSpacing` is
the four characters that may stand between the parts of a term or of a document.
-/

namespace FactScan.Text

set_option autoImplicit false

/-- The ranges of the property `White_Space`. -/
def blankRanges : List (Nat × Nat) :=
  [(0x09, 0x0d), (0x20, 0x20), (0x85, 0x85), (0xa0, 0xa0), (0x1680, 0x1680), (0x2000, 0x200a),
    (0x2028, 0x2029), (0x202f, 0x202f), (0x205f, 0x205f), (0x3000, 0x3000)]

def isBlank (c : Char) : Bool :=
  blankRanges.any fun (low, high) => low ≤ c.toNat && c.toNat ≤ high

/-- Space, tab, carriage return and line feed. -/
def isSpacing (c : Char) : Bool :=
  c = ' ' ∨ c = '\t' ∨ c = '\r' ∨ c = '\n'

/-- What follows the spacing at the start of a text. -/
def skipSpacing (cs : List Char) : List Char := cs.dropWhile isSpacing

/-- Bytes that a text takes. -/
def byteCount : List Char → Nat
  | [] => 0
  | c :: cs => c.utf8Size + byteCount cs

end FactScan.Text
