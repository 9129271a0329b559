import Panes.Text.Blank
import Panes.Text.Pattern
import Panes.Trace.Site

/-!
# Directives of trace filters

A directive gives a level of detail. It is written

    target[span{field=value}]=level

and only one of its parts has to be there. Without brackets it is about modules, and a word alone is
a level if it can be one and a module if it cannot. With brackets it is about spans and what happens
within them.

Blanks around a directive are left out to see how it is made up, but the parts are cut out of the
text as it stands: blanks in front shift them, and blanks at the end belong to the last part.
-/

namespace Panes.Trace

/-- What the detail of a span has to be. -/
inductive Wanted
  /-- This count. -/
  | count (value : Nat)
  /-- A description that fits. -/
  | text (pattern : Text.Pattern)
  deriving DecidableEq, Repr

/-- The detail is as it has to be. -/
def Wanted.admits : Wanted → Detail → Bool
  | .count wanted, .count value => wanted == value
  | .text pattern, .text value => pattern.fits value
  | _, _ => false

/-- A condition on a detail of a span. -/
structure Condition where
  /-- The name of the detail. -/
  name : String
  /-- What it has to be, if that matters. -/
  wanted : Option Wanted
  deriving DecidableEq, Repr

/-- A part of a filter. -/
structure Directive where
  /-- How the names of the modules start. -/
  target : Option (List Char)
  /-- The name of the spans. -/
  span : Option (List Char)
  /-- A condition on the spans. -/
  condition : Option Condition
  /-- The level of detail. -/
  level : Nat
  deriving DecidableEq, Repr

/-- Why a text is no directive. -/
inductive Directive.Fault
  /-- It is not made up as a directive is. -/
  | form
  /-- The level is none. -/
  | level
  /-- The pattern is none. -/
  | pattern
  deriving DecidableEq, Repr

/-- The wording of a fault. -/
def Directive.Fault.message : Directive.Fault → String
  | .form => "invalid filter directive"
  | .level =>
    "error parsing level filter: expected one of \"off\", \"error\", \"warn\", \"info\", "
      ++ "\"debug\", \"trace\", or a number 0-5"
  | .pattern => "invalid field filter: regex parse error:"

/-- The names of the levels, from zero on. -/
def levelNames : List (List Char) :=
  ["off".toList, "error".toList, "warn".toList, "info".toList, "debug".toList, "trace".toList]

/-- The number that a text of digits writes, after a plus sign if it has one. -/
def naturalNumber? (text : List Char) : Option Nat :=
  let digits := match text with
    | '+' :: digits => digits
    | digits => digits
  if digits.isEmpty ∨ ¬ digits.all Char.isDigit then none
  else some (digits.foldl (fun number char => number * 10 + (char.toNat - '0'.toNat)) 0)

/-- The level that a word names, by its number or its name in any letter case. -/
def level? (word : List Char) : Option Nat :=
  match naturalNumber? word with
  | some number => if number ≤ maxLevel then some number else none
  | none => levelNames.findIdx? (· == word.map Char.toLower)

/-- The condition between braces. What follows a second equals sign is overlooked. -/
def Condition.parse (text : List Char) : Except Directive.Fault Condition :=
  let name := text.takeWhile (· != '=')
  match text, text.drop name.length with
  | [], _ => .error .form
  | _, [] => .ok ⟨String.ofList name, none⟩
  | _, _ :: rest =>
    let value := rest.takeWhile (· != '=')
    match naturalNumber? value, Text.Pattern.ofText? value with
    | some count, _ => .ok ⟨String.ofList name, some (.count count)⟩
    | none, some pattern => .ok ⟨String.ofList name, some (.text pattern)⟩
    | none, none => .error .pattern

namespace Directive

/-- What stands in a text from one place up to another. -/
def cut (text : List Char) (start stop : Nat) : List Char := (text.take stop).drop start

/-- A directive can start with this character. -/
def isWordStart (char : Char) : Bool :=
  char.isAlphanum || 0x80 ≤ char.toNat || char == '-' || char == ':' || char == '_'

/-- The level that is written from a place on. When nothing is, it is the greatest. -/
def levelFrom (text : List Char) (start : Nat) : Except Fault Nat :=
  match text.drop start with
  | [] => .ok maxLevel
  | word =>
    match level? word with
    | some level => .ok level
    | none => .error .level

/-- The level after the closing bracket, which may be missing with its equals sign. `rest` is what
the directive has from the place on. -/
def levelAfterBracket (text rest : List Char) (start : Nat) : Except Fault Nat :=
  match rest with
  | [] => .ok maxLevel
  | '=' :: _ => levelFrom text (start + 1)
  | _ => .error .form

/-- The directive from the opening brace on. -/
def parseCondition (target span : Option (List Char)) (text rest : List Char) (start : Nat) :
    Except Fault Directive := do
  let length := (rest.takeWhile (· != '}')).length
  match rest.drop length with
  | '}' :: rest =>
    let condition ← Condition.parse (cut text start (start + length))
    match rest with
    | ']' :: rest =>
      let level ← levelAfterBracket text rest (start + length + 2)
      return ⟨target, span, some condition, level⟩
    | _ => .error .form
  | _ => .error .form

/-- The directive from the opening bracket on. -/
def parseSpan (target : Option (List Char)) (text rest : List Char) (start : Nat) :
    Except Fault Directive := do
  let length := (rest.takeWhile fun char => char != ']' && char != '{').length
  let name := cut text start (start + length)
  match rest.drop length with
  | ']' :: rest =>
    let level ← levelAfterBracket text rest (start + length + 1)
    return ⟨target, some name, none, level⟩
  | '{' :: rest =>
    parseCondition target (if name.isEmpty then none else some name) text rest (start + length + 1)
  | _ => .error .form

/-- The directive that a text writes. -/
def parse (text : List Char) : Except Fault Directive :=
  let trimmed := Text.trim text
  match trimmed with
  | [] => .error .form
  | '[' :: rest => parseSpan none text rest 1
  | first :: _ =>
    if ¬ isWordStart first then .error .form
    else
      let length := (trimmed.takeWhile fun char => char != '=' && char != '[').length
      let target := cut text 0 length
      match trimmed.drop length with
      | '=' :: _ => (levelFrom text (length + 1)).map fun level => ⟨some target, none, none, level⟩
      | '[' :: rest => parseSpan (some target) text rest (length + 1)
      | _ =>
        match level? text with
        | some level => .ok ⟨none, none, none, level⟩
        | none => .ok ⟨some text, none, none, maxLevel⟩

/-- The directive is about spans and what happens within them. -/
def isAboutSpans (directive : Directive) : Bool :=
  directive.span.isSome || directive.condition.isSome

/-- The directive is about modules. One that names a detail without saying what it has to be is
about both. -/
def isAboutModules (directive : Directive) : Bool :=
  directive.span.isNone && directive.condition.all (·.wanted.isNone)

/-- The directive applies to a place by its module. -/
def coversModule (directive : Directive) (site : Site) : Bool :=
  match directive.target with
  | some target => target.isPrefixOf site.module.toList
  | none => true

/-- The directive is about spans such as this one, whatever their details are. -/
def coversSpan (directive : Directive) (opening : Opening) : Bool :=
  directive.isAboutSpans && directive.coversModule opening.site
    && directive.span.all (· == opening.site.name.toList)
    && directive.condition.all fun condition => (opening.details.lookup condition.name).isSome

/-- The details of a span are as the directive wants them. -/
def admits (directive : Directive) (opening : Opening) : Bool :=
  match directive.condition with
  | some ⟨name, some wanted⟩ => (opening.details.lookup name).any wanted.admits
  | _ => true

/-- Two directives are about the same, so that the later one replaces the other. -/
def sameScope (left right : Directive) : Bool :=
  left.target == right.target && left.span == right.span && left.condition == right.condition

/-- The name of the detail that the directive is about, and an empty one if it is about none. -/
def detailName (directive : Directive) : String :=
  match directive.condition with
  | some condition => condition.name
  | none => ""

/-- How exactly the directive names modules. -/
def precision (directive : Directive) : Nat :=
  match directive.target with
  | some target => target.length + 1
  | none => 0

/-- The second directive goes before the first one for the modules that both cover: it is more
exact, or the details put it first, or it is the later one. -/
def yieldsTo (first second : Directive) : Bool :=
  first.precision < second.precision ||
    (first.precision == second.precision && !(second.detailName < first.detailName))

end Directive

end Panes.Trace
