import FleetSearch.Text.Split

/-! Why a backend failed: a chain of causes, the outermost one first. -/

namespace FleetSearch.Backend

/-- A cause that other software reports in its own words. -/
inductive Foreign where
  | transport
  | pattern
  | json
deriving DecidableEq, Repr

inductive Link where
  | text (words : String)
  | foreign (kind : Foreign)
deriving DecidableEq, Repr

structure Cause where
  outermost : Link
  inner : List Link := []
deriving DecidableEq, Repr

namespace Link

def words? : Link → Option String
  | .text words => some words
  | .foreign _ => none

end Link

namespace Cause

def ofText (words : String) : Cause := ⟨.text words, []⟩

/-- Texts as a chain; an empty list has an empty cause. -/
def ofTexts : List String → Cause
  | [] => ofText ""
  | words :: rest => ⟨.text words, rest.map .text⟩

def within (cause : Cause) (words : String) : Cause :=
  ⟨.text words, cause.outermost :: cause.inner⟩

def words? (cause : Cause) : Option String :=
  cause.outermost.words?

/-- The words of the whole chain. -/
def message? (cause : Cause) : Option String := do
  let texts ← (cause.outermost :: cause.inner).mapM Link.words?
  some (Text.join ": " texts)

end Cause

end FleetSearch.Backend
