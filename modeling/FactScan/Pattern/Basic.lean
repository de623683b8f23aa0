/-
# FactScan.Pattern.Basic — patterns

A pattern is a source together with the regular expression it compiles to.  Between
slashes a source is written with every bare slash escaped; two sources with the same such
text, `canonical`, are the same pattern.
-/
import FactScan.Pattern.Meaning

namespace FactScan

set_option autoImplicit false

namespace Pattern

/-- Why a source is no pattern. -/
inductive CompileError where
  | malformed (report : String)
  | tooLarge (limit : Nat)
  deriving DecidableEq

def CompileError.message : CompileError → String
  | .malformed report => report
  | .tooLarge limit =>
    "Compiled regex exceeds size limit of " ++ String.ofList (Decimal.natChars limit) ++ " bytes."

/-- How much an expression may take up. -/
def sizeLimit : Nat := 10485760

/-- The regular expression of a source. -/
def compile (source : List Char) : Except CompileError Regex :=
  match Node.ofChars source >>= fun node => node.meaning {} with
  | .error f => .error (.malformed (f.report source))
  | .ok (r, _) => if sizeLimit < r.cost then .error (.tooLarge sizeLimit) else .ok r

/-- A source as it is written between slashes: pairs of a backslash and a character are
kept, and any other slash gets a backslash. -/
def canonical : List Char → List Char
  | [] => []
  | ['\\'] => ['\\']
  | '\\' :: c :: rest => '\\' :: c :: canonical rest
  | '/' :: rest => '\\' :: '/' :: canonical rest
  | c :: rest => c :: canonical rest

end Pattern

/-- A compiled pattern. -/
structure Pattern where
  source : String
  regex : Pattern.Regex
  compiles : Pattern.compile source.toList = .ok regex

namespace Pattern

/-- The pattern of a source. -/
def ofSource (source : String) : Except CompileError Pattern :=
  match h : compile source.toList with
  | .ok r => .ok ⟨source, r, h⟩
  | .error e => .error e

/-- A pattern is settled by its source. -/
theorem ext_source {p q : Pattern} (h : p.source = q.source) : p = q := by
  obtain ⟨s, r, hr⟩ := p
  obtain ⟨t, r', hr'⟩ := q
  cases h
  simp only [mk.injEq, true_and]
  exact Except.ok.inj (hr.symm.trans hr')

/-- The text of a pattern between its slashes. -/
def canonicalChars (p : Pattern) : List Char := canonical p.source.toList

/-- The text of a pattern. -/
def chars (p : Pattern) : List Char := '/' :: p.canonicalChars ++ ['/']

def isMatch (p : Pattern) (text : String) : Bool := p.regex.isMatch text.toList

instance : BEq Pattern := ⟨fun p q => p.canonicalChars == q.canonicalChars⟩

theorem beq_iff {p q : Pattern} : (p == q) = true ↔ p.canonicalChars = q.canonicalChars := by
  show (p.canonicalChars == q.canonicalChars) = true ↔ _
  exact beq_iff_eq

end Pattern

end FactScan
