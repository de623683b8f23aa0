/-
# FactScan.Text.Named — character sets by name

Looks up categories, scripts and properties by name.  Names are compared without regard to
case, blanks, hyphens and underscores, and a leading `is` is dropped.
-/
import FactScan.Text.Category
import FactScan.Text.Property
import FactScan.Text.Script

namespace FactScan.Text

set_option autoImplicit false

/-- The form in which names are compared.  A name that is nothing but `is`, and the name
`isc`, keep their beginning. -/
def looseName (cs : List Char) : String :=
  let lowered := cs.map Char.toLower
  let isPrefixed := lowered.take 2 = ['i', 's']
  let kept :=
    ((if isPrefixed then lowered.drop 2 else lowered).filter
      fun c => c.toNat < 128 && c != ' ' && c != '-' && c != '_')
  if isPrefixed ∧ kept = ['c'] then "isc" else String.ofList kept

def find? (sets : List NamedRanges) (name : String) : Option (List (Nat × Nat)) :=
  (sets.find? (·.names.contains name)).map fun s => rangesOf s.ranges

/-- The general category or group of categories of a name. -/
def category? (name : String) : Option (List (Nat × Nat)) :=
  if name = "any" then some [(0, 0x10ffff)]
  else if name = "ascii" then some [(0, 0x7f)]
  else
    match categoryGroups.find? (·.1.contains name) with
    | some (_, members) => some (normalized (members.filterMap (find? categories)).flatten)
    | none => find? categories name

def script? (name : String) : Option (List (Nat × Nat)) := find? scripts name

def property? (name : String) : Option (List (Nat × Nat)) := find? properties name

/-- Letters, marks, decimal digits, connectors and joiners: the characters of words. -/
def wordRanges : List (Nat × Nat) :=
  normalized
    ((property? "alphabetic").toList ++ (category? "m").toList ++ (category? "nd").toList
      ++ (category? "pc").toList ++ (property? "joincontrol").toList).flatten

def digitRanges : List (Nat × Nat) := ((category? "nd").toList).flatten

/-- Whether a character is a letter in the widest sense. -/
def isAlphabetic (c : Char) : Bool :=
  if c.toNat < 128 then c.isAlpha else (property? "alphabetic").any (inRanges · c.toNat)

/-- A letter or a character of any kind of number. -/
def isAlphanumeric (c : Char) : Bool :=
  isAlphabetic c || c.isDigit || (128 ≤ c.toNat && (category? "n").any (inRanges · c.toNat))

end FactScan.Text
