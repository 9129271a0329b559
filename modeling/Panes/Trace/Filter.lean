import Panes.Trace.Directive

/-!
# Trace filters

A filter is a list of directives between commas. Among those on modules the one with the longest
name decides, and the last one of several with the same. A span that a directive on spans covers is
traced whatever the level of the directive; the level counts for what happens within the span. Above
all stands the greatest level of any directive, which no span may exceed. It is not lowered when a
later directive replaces an earlier one.
-/

namespace Panes.Trace

/-- The level for what nobody asked about: errors alone. -/
def defaultLevel : Nat := 1

/-- What is traced. -/
structure Filter where
  /-- The directives, in order. -/
  directives : List Directive
  deriving DecidableEq, Repr

/-- What is open at a moment. -/
structure Scope where
  /-- The traced spans with their numbers, innermost first. -/
  spans : List (Site × Nat)
  /-- The levels that directives on spans give to what happens now. -/
  levels : List Nat
  deriving DecidableEq, Repr

/-- Nothing is open. -/
def Scope.empty : Scope := ⟨[], []⟩

namespace Filter

/-- The parts of the text of a filter. -/
def parts (text : String) : List String := (text.splitOn ",").filter (· != "")

/-- The filter that a text writes, without the parts that make no directive. -/
def ofText (text : String) : Filter :=
  match (parts text).filterMap fun part => (Directive.parse part.toList).toOption with
  | [] => ⟨[⟨none, none, none, defaultLevel⟩]⟩
  | directives => ⟨directives⟩

/-- The parts of a text that make no directive, and why. -/
def rejects (text : String) : List (String × Directive.Fault) :=
  (parts text).filterMap fun part =>
    match Directive.parse part.toList with
    | .ok _ => none
    | .error fault => some (part, fault)

/-- The level that no span may exceed. Conditions on details lift it altogether. -/
def ceiling (filter : Filter) : Nat :=
  if filter.directives.any fun directive => directive.condition.any (·.wanted.isSome) then maxLevel
  else filter.directives.foldl (fun level directive => max level directive.level) 0

/-- The better of two directives for a module. -/
def prefer (best : Option Directive) (directive : Directive) : Option Directive :=
  match best with
  | some found => if found.yieldsTo directive then some directive else best
  | none => some directive

/-- The level for the module of a place. -/
def moduleLevel (filter : Filter) (site : Site) : Nat :=
  let covering := filter.directives.filter fun directive =>
    directive.isAboutModules && directive.coversModule site
  match covering.foldl prefer none with
  | some directive => directive.level
  | none => 0

/-- Add a directive, which replaces one about the same. -/
def add (directives : List Directive) (directive : Directive) : List Directive :=
  directives.filter (fun old => !old.sameScope directive) ++ [directive]

/-- The level for what happens within a span, if there is a directive on such spans. -/
def levelWithin? (filter : Filter) (opening : Opening) : Option Nat :=
  match (filter.directives.foldl add []).filter (·.coversSpan opening) with
  | [] => none
  | covering =>
    some ((covering.filter (·.admits opening)).foldl
      (fun level directive => max level directive.level) 0)

/-- A span is traced. -/
def traces (filter : Filter) (scope : Scope) (opening : Opening) : Bool :=
  spanLevel ≤ filter.ceiling &&
    ((filter.levelWithin? opening).isSome || spanLevel ≤ filter.moduleLevel opening.site
      || scope.levels.any (spanLevel ≤ ·))

/-- What is open within a traced span. -/
def enter (filter : Filter) (scope : Scope) (opening : Opening) (number : Nat) : Scope :=
  ⟨(opening.site, number) :: scope.spans, (filter.levelWithin? opening).toList ++ scope.levels⟩

end Filter

end Panes.Trace
