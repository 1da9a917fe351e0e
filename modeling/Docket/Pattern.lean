/-
Patterns: the regular expressions that search titles and bodies.  A
pattern keeps its source text, and two patterns with one source are equal.

Main statement: the source decides the pattern.
-/
import Docket.Pattern.Reader
import Docket.Pattern.Footprint

namespace Docket

/-- The term that a source text stands for. -/
def Regex.ofSource (source : String) : Except PatternFault (Regex Atom) := do
  let regex ← Pattern.read source.toList
  if regex.fits then .ok regex else .error .tooLarge

/-- A source text that stands for a term, with that term. -/
structure Pattern where
  source : String
  regex : Regex Atom
  compiled : Regex.ofSource source = .ok regex

namespace Pattern

/-- Compile a source text. -/
def compile (source : String) : Except PatternFault Pattern :=
  match h : Regex.ofSource source with
  | .ok regex => .ok ⟨source, regex, h⟩
  | .error fault => .error fault

/-- Whether some part of a text matches. -/
def isMatch (p : Pattern) (text : String) : Bool := p.regex.isMatch text.toList

/-- The source decides the pattern. -/
@[ext]
theorem ext {p q : Pattern} (h : p.source = q.source) : p = q := by
  cases p with
  | mk s r hr =>
    cases q with
    | mk s' r' hr' =>
      cases h
      cases hr.symm.trans hr'
      rfl

instance : DecidableEq Pattern := fun p q =>
  if h : p.source = q.source then isTrue (ext h)
  else isFalse fun e => h (e ▸ rfl)

/-- A pattern that was compiled keeps its source. -/
theorem source_of_compile {s : String} {p : Pattern} (h : compile s = .ok p) :
    p.source = s := by
  unfold compile at h
  split at h
  · cases h
    rfl
  · cases h

/-- The source of a pattern compiles to it. -/
theorem compile_source (p : Pattern) : compile p.source = .ok p := by
  unfold compile
  split
  · exact congrArg Except.ok (ext rfl)
  · next h => cases h.symm.trans p.compiled

end Pattern

end Docket
