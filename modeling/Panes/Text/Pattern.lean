/-!
# Patterns of texts

A pattern is a regular expression, and a text fits it if the pattern covers the whole text. Fitting
is decided by taking the characters of the text off the pattern one by one.
-/

namespace Panes.Text

/-- A set of characters. -/
structure CharSet where
  /-- The set holds what the ranges do not. -/
  negated : Bool
  /-- Ranges of characters, bounds included. -/
  ranges : List (Char × Char)
  deriving DecidableEq, Repr

namespace CharSet

/-- The character is in the set. -/
def contains (set : CharSet) (char : Char) : Bool :=
  (set.ranges.any fun (first, last) => first ≤ char && char ≤ last) != set.negated

/-- A character alone. -/
def single (char : Char) : CharSet := ⟨false, [(char, char)]⟩

/-- What a point stands for: anything but the end of a line. -/
def point : CharSet := ⟨true, [('\n', '\n')]⟩

/-- Digits. -/
def digits : List (Char × Char) := [('0', '9')]

/-- Characters of words. -/
def wordChars : List (Char × Char) := [('0', '9'), ('A', 'Z'), ('_', '_'), ('a', 'z')]

/-- Blanks. -/
def blanks : List (Char × Char) := [('\t', '\r'), (' ', ' ')]

/-- What a character after a backslash stands for. A letter or digit without a meaning of its own
stands for nothing. -/
def escaped? (char : Char) : Option CharSet :=
  match char with
  | 'd' => some ⟨false, digits⟩
  | 'D' => some ⟨true, digits⟩
  | 'w' => some ⟨false, wordChars⟩
  | 'W' => some ⟨true, wordChars⟩
  | 's' => some ⟨false, blanks⟩
  | 'S' => some ⟨true, blanks⟩
  | 'n' => some (single '\n')
  | 'r' => some (single '\r')
  | 't' => some (single '\t')
  | char => if char.isAlphanum then none else some (single char)

end CharSet

/-- A pattern. -/
inductive Pattern
  /-- No text fits. -/
  | never
  /-- The empty text fits. -/
  | empty
  /-- One character of the set. -/
  | one (set : CharSet)
  /-- One pattern after another. -/
  | sequence (first second : Pattern)
  /-- One pattern or another. -/
  | choice (first second : Pattern)
  /-- A pattern any number of times. -/
  | many (inner : Pattern)
  deriving DecidableEq, Repr

namespace Pattern

/-- One pattern after another, in a short form. -/
def andThen : Pattern → Pattern → Pattern
  | never, _ => never
  | empty, second => second
  | first, second => sequence first second

/-- One pattern or another, in a short form. -/
def orElse : Pattern → Pattern → Pattern
  | never, second => second
  | first, never => first
  | first, second => if first = second then first else choice first second

/-- The empty text fits. -/
def fitsEmpty : Pattern → Bool
  | never => false
  | empty => true
  | one _ => false
  | sequence first second => first.fitsEmpty && second.fitsEmpty
  | choice first second => first.fitsEmpty || second.fitsEmpty
  | many _ => true

/-- What has to follow a character in the texts that start with it and fit. -/
def after (char : Char) : Pattern → Pattern
  | never => never
  | empty => never
  | one set => if set.contains char then empty else never
  | sequence first second =>
    let inFirst := (first.after char).andThen second
    if first.fitsEmpty then inFirst.orElse (second.after char) else inFirst
  | choice first second => (first.after char).orElse (second.after char)
  | many inner => (inner.after char).andThen (many inner)

/-- The whole text fits. -/
def fits (pattern : Pattern) (text : List Char) : Bool :=
  (text.foldl (fun pattern char => pattern.after char) pattern).fitsEmpty

/-- A group that is being read. -/
structure Group where
  /-- The alternatives that are complete. -/
  choices : Pattern
  /-- The parts of the current alternative, the last one first. -/
  parts : List Pattern
  deriving DecidableEq, Repr

namespace Group

/-- Nothing is read yet. -/
def start : Group := ⟨never, []⟩

/-- The pattern of a group that ends here. -/
def pattern (group : Group) : Pattern :=
  group.choices.orElse (group.parts.foldl (fun rest part => part.andThen rest) empty)

/-- One more part. -/
def add (group : Group) (part : Pattern) : Group := { group with parts := part :: group.parts }

/-- The current alternative is complete. -/
def nextChoice (group : Group) : Group := ⟨group.pattern, []⟩

/-- Repeat the last part, if there is one. -/
def changeLast? (group : Group) (change : Pattern → Pattern) : Option Group :=
  match group.parts with
  | [] => none
  | part :: parts => some { group with parts := change part :: parts }

end Group

/-- At least once. -/
def repeated (inner : Pattern) : Pattern := inner.andThen (many inner)

/-- At most once. -/
def optional (inner : Pattern) : Pattern := empty.orElse inner

mutual

/-- Read a pattern on: the current group and those around it, the innermost first. -/
def read (group : Group) (outer : List Group) : List Char → Option Pattern
  | [] => if outer.isEmpty then some group.pattern else none
  | '(' :: '?' :: ':' :: rest => read .start (group :: outer) rest
  | '(' :: rest => read .start (group :: outer) rest
  | ')' :: rest =>
    match outer with
    | [] => none
    | around :: outer => read (around.add group.pattern) outer rest
  | '|' :: rest => read group.nextChoice outer rest
  | '*' :: rest => (group.changeLast? many).bind fun group => read group outer rest
  | '+' :: '?' :: rest => (group.changeLast? repeated).bind fun group => read group outer rest
  | '+' :: rest => (group.changeLast? repeated).bind fun group => read group outer rest
  | '?' :: rest => (group.changeLast? optional).bind fun group => read group outer rest
  | '.' :: rest => read (group.add (one .point)) outer rest
  | '^' :: rest => read group outer rest
  | '$' :: rest => read group outer rest
  | '\\' :: char :: rest =>
    (CharSet.escaped? char).bind fun set => read (group.add (one set)) outer rest
  | '[' :: '^' :: rest => readSet group outer true [] rest
  | '[' :: rest => readSet group outer false [] rest
  | char :: rest =>
    if char = '{' ∨ char = '\\' then none
    else read (group.add (one (.single char))) outer rest

/-- Read the ranges of a set on, up to its closing bracket. -/
def readSet (group : Group) (outer : List Group) (negated : Bool) (ranges : List (Char × Char)) :
    List Char → Option Pattern
  | [] => none
  | ']' :: rest =>
    if ranges.isEmpty then readSet group outer negated [(']', ']')] rest
    else read (group.add (one ⟨negated, ranges⟩)) outer rest
  | '\\' :: char :: rest =>
    match CharSet.escaped? char with
    | some ⟨false, more⟩ => readSet group outer negated (more ++ ranges) rest
    | _ => none
  | first :: '-' :: last :: rest =>
    if last = ']' then
      read (group.add (one ⟨negated, ('-', '-') :: (first, first) :: ranges⟩)) outer rest
    else if first ≤ last then readSet group outer negated ((first, last) :: ranges) rest
    else none
  | char :: rest => readSet group outer negated ((char, char) :: ranges) rest

end

/-- The pattern that a text writes, if it writes one. -/
def ofText? (text : List Char) : Option Pattern := read .start [] text

end Pattern

end Panes.Text
