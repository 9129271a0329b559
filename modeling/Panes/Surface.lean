import Panes.Pane

/-!
# Contextual action surfaces

While entries are selected the host shows a surface with the commands that apply to them. A surface
has a number of its own, and a descriptor says what it offers. The coordinator speaks to the host
through `Surface.Command`.
-/

namespace Panes.Surface

/-- The number of a surface. Numbers are never given twice. The program's counter has 64 bits, and
is the one of `Controller.nextNumber` as long as there were fewer than `2 ^ 64 - 1` starts. -/
structure Id where
  /-- The number itself. -/
  number : Nat
  deriving DecidableEq, Repr

/-- How a surface is named in messages. -/
def Id.text (id : Id) : String := "surface#" ++ id.number.repr

/-- What kind of entries a surface acts on. -/
inductive Kind
  /-- Books. -/
  | book
  /-- Notes. -/
  | note
  /-- Saved filters. -/
  | filter
  deriving DecidableEq, Repr

/-- A command that a surface may offer. -/
inductive Op
  /-- Paste beside the selected note. -/
  | paste
  /-- Move one level up. -/
  | promote
  /-- Move one level down. -/
  | demote
  /-- Move among the siblings. -/
  | move
  /-- Cut. -/
  | cut
  /-- Delete. -/
  | delete
  /-- Set the state of a task. -/
  | setState
  /-- Set a date. -/
  | schedule
  /-- Export a book. -/
  | exportBook
  /-- Rename a book. -/
  | renameBook
  deriving DecidableEq, Repr

/-- All commands, in the order in which they are listed. -/
def Op.all : List Op :=
  [.paste, .promote, .demote, .move, .cut, .delete, .setState, .schedule, .exportBook, .renameBook]

/-- The place of a command in the order. -/
def Op.rank (op : Op) : Nat := op.ctorIdx

/-- A set of commands, as its list in order. -/
structure OpSet where
  /-- The commands in order, each once. -/
  ops : List Op
  /-- The list is in order, so equal sets are equal values. -/
  sorted : ops.Pairwise fun left right => left.rank < right.rank
  deriving DecidableEq, Repr

theorem Op.pairwise_all : Op.all.Pairwise fun left right => left.rank < right.rank := by
  decide

/-- The set of the commands in a list. -/
def OpSet.ofList (ops : List Op) : OpSet :=
  ⟨Op.all.filter ops.contains, Op.pairwise_all.filter _⟩

/-- The command is in the set. -/
def OpSet.contains (set : OpSet) (op : Op) : Bool := set.ops.contains op

@[simp]
theorem OpSet.contains_ofList (ops : List Op) (op : Op) :
    (OpSet.ofList ops).contains op = ops.contains op := by
  have member : op ∈ Op.all := by cases op <;> decide
  rw [Bool.eq_iff_iff]
  simp [OpSet.contains, OpSet.ofList, member]

/-- Marks surfaces that ask for something to be done when they close. -/
inductive Tag
  /-- Structural editing: closing such a surface after a structural command asks the content store
  to synchronise again. -/
  | move
  deriving DecidableEq, Repr

/-- What a surface offers. -/
structure Descriptor where
  /-- What the commands act on. -/
  kind : Kind
  /-- The commands on offer. -/
  allowedOps : OpSet
  /-- What is to be done when the surface closes. -/
  tag : Option Tag
  deriving DecidableEq, Repr

namespace Descriptor

/-- An untagged descriptor with these commands. -/
def ofOps (kind : Kind) (ops : List Op) : Descriptor := ⟨kind, .ofList ops, none⟩

/-- The surface offers the command. -/
def allows (descriptor : Descriptor) (op : Op) : Bool := descriptor.allowedOps.contains op

/-- What a surface offers when the list pane asks for nothing else. Panes without a list have
none. -/
def forPane? : Pane.Kind → Option Descriptor
  | .books => some (ofOps .book [.delete, .exportBook, .renameBook])
  | .book => some (ofOps .note [.paste, .promote, .demote, .cut, .delete, .setState, .schedule])
  | .query => some (ofOps .note [.setState, .schedule, .delete])
  | .filters => some (ofOps .filter [.delete])
  | .note | .settings => none

/-- The structural editing mode of an outline. -/
def structuralMove : Descriptor :=
  { ofOps .note [.promote, .demote, .move] with tag := some .move }

/-- Exactly the list panes have a descriptor of their own. -/
theorem isSome_forPane? (kind : Pane.Kind) : (forPane? kind).isSome = kind.isList := by
  cases kind <;> rfl

end Descriptor

/-- What the host is told about surfaces. -/
inductive Command
  /-- Show a new surface. -/
  | start (surface : Id) (descriptor : Descriptor)
  /-- The number of selected entries changed. -/
  | invalidate (surface : Id) (count : Nat)
  /-- Close the surface. -/
  | finish (surface : Id)
  deriving DecidableEq, Repr

end Panes.Surface
