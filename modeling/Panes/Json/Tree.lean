import Panes.Json
import Panes.Json.Token

/-!
# Reading JSON

Tokens become a tree in one pass from left to right, with a stack of the lists and objects that are
still open. The tree still shows which leaves have no value. Whether that matters, and how deep the
tree may be, depends on the reader: `Tree.value?` reads strictly, and `Tree.record?` overlooks the
members of an object that it does not know.
-/

namespace Panes.Json

/-- The shape of a JSON text. -/
inductive Tree
  /-- The word `null`. -/
  | null
  /-- A truth value. -/
  | bool (value : Bool)
  /-- A number, without value when it is too great. -/
  | number (value : Option Number)
  /-- A text, without value when it holds half a surrogate pair. -/
  | string (value : Option String)
  /-- A list. -/
  | array (elements : List Tree)
  /-- An object. -/
  | object (members : List (Option String × Tree))
  deriving Inhabited

/-- A list or an object that waits for a value. What it has already comes last first. -/
inductive Frame
  /-- A list. -/
  | array (elements : List Tree)
  /-- An object, and the key of the value. -/
  | object (members : List (Option String × Tree)) (key : Option String)

/-- What has to come next. -/
inductive Need
  /-- A value. -/
  | value
  /-- A value or the end of the list that has just begun. -/
  | firstElement
  /-- A key, or the end of the object if it has just begun. -/
  | key (members : List (Option String × Tree)) (fresh : Bool)
  /-- The colon after a key. -/
  | colon (members : List (Option String × Tree)) (key : Option String)
  /-- A comma or the end of the list. -/
  | moreElements (elements : List Tree)
  /-- A comma or the end of the object. -/
  | moreMembers (members : List (Option String × Tree))
  /-- Nothing, as the value is complete. -/
  | nothing (tree : Tree)

/-- A point of the pass. -/
structure Reading where
  /-- What has to come next. -/
  need : Need
  /-- What is open around it, innermost first. -/
  stack : List Frame

namespace Reading

/-- Nothing is read yet. -/
def start : Reading := ⟨.value, []⟩

/-- A value is complete: it goes to what is open around it. -/
def complete (tree : Tree) : List Frame → Reading
  | [] => ⟨.nothing tree, []⟩
  | .array elements :: stack => ⟨.moreElements (tree :: elements), stack⟩
  | .object members key :: stack => ⟨.moreMembers ((key, tree) :: members), stack⟩

/-- A token begins a value. -/
def beginValue (stack : List Frame) : Token → Option Reading
  | .openArray => some ⟨.firstElement, stack⟩
  | .openObject => some ⟨.key [] true, stack⟩
  | .null => some (complete .null stack)
  | .bool value => some (complete (.bool value) stack)
  | .number value => some (complete (.number value) stack)
  | .string value => some (complete (.string value) stack)
  | _ => none

/-- Take one token. -/
def step (reading : Reading) (token : Token) : Option Reading :=
  let stack := reading.stack
  match reading.need, token with
  | .value, token => beginValue stack token
  | .firstElement, .closeArray => some (complete (.array []) stack)
  | .firstElement, token => beginValue (.array [] :: stack) token
  | .key members _, .string key => some ⟨.colon members key, stack⟩
  | .key members true, .closeObject => some (complete (.object members.reverse) stack)
  | .colon members key, .colon => some ⟨.value, .object members key :: stack⟩
  | .moreElements elements, .comma => some ⟨.value, .array elements :: stack⟩
  | .moreElements elements, .closeArray => some (complete (.array elements.reverse) stack)
  | .moreMembers members, .comma => some ⟨.key members false, stack⟩
  | .moreMembers members, .closeObject => some (complete (.object members.reverse) stack)
  | _, _ => none

/-- Take tokens to their end. -/
def run (reading : Reading) (tokens : List Token) : Option Reading := tokens.foldlM step reading

/-- The complete value. -/
def result? (reading : Reading) : Option Tree :=
  match reading.need with
  | .nothing tree => some tree
  | _ => none

end Reading

/-- The tree of a text. -/
def Tree.ofText? (text : List Char) : Option Tree := do
  let tokens ← tokens? text
  let reading ← Reading.start.run tokens
  reading.result?

mutual

/-- The value of a tree, if all its leaves have values and no more lists and objects than the given
number lie within one another. -/
def Tree.value? : Nat → Tree → Option Json
  | _, .null => some .null
  | _, .bool value => some (.bool value)
  | _, .number value => value.map .number
  | _, .string value => value.map .string
  | depth + 1, .array elements => (Tree.elements? depth elements).map .array
  | depth + 1, .object members => (Tree.members? depth members).map .object
  | 0, .array _ => none
  | 0, .object _ => none

/-- The values of the elements of a list. -/
def Tree.elements? : Nat → List Tree → Option (List Json)
  | _, [] => some []
  | depth, tree :: trees => do
    let value ← Tree.value? depth tree
    let values ← Tree.elements? depth trees
    return value :: values

/-- The values of the members of an object. -/
def Tree.members? : Nat → List (Option String × Tree) → Option (List (String × Json))
  | _, [] => some []
  | depth, (key, tree) :: members => do
    let key ← key
    let value ← Tree.value? depth tree
    let values ← Tree.members? depth members
    return (key, value) :: values

end

/-- How many lists and objects may lie within one another. -/
def maxDepth : Nat := 127

/-- The members of an object whose keys are known. Other members are only looked at for their
keys. -/
def Tree.knownMembers? (known : List String) :
    List (Option String × Tree) → Option (List (String × Json))
  | [] => some []
  | (key, tree) :: members => do
    let key ← key
    if known.contains key then
      let value ← Tree.value? (maxDepth - 1) tree
      let values ← Tree.knownMembers? known members
      return (key, value) :: values
    else
      Tree.knownMembers? known members

/-- The value of a tree as a reader of the known fields takes it. -/
def Tree.record? (known : List String) : Tree → Option Json
  | .object members => (Tree.knownMembers? known members).map .object
  | tree => tree.value? maxDepth

/-- The value of a text. -/
def parse? (text : String) : Option Json := do
  let tree ← Tree.ofText? text.toList
  tree.value? maxDepth

/-- The value of a text, of which only the known fields are read if it is an object. -/
def parseRecord? (known : List String) (text : String) : Option Json := do
  let tree ← Tree.ofText? text.toList
  tree.record? known

end Panes.Json
