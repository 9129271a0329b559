import Panes.Proofs.Json.Tree
import Panes.Proofs.Wire.Field
import Panes.Wire.Surface

/-!
# Surfaces read back

Kinds, commands on offer, tags and descriptors are read back as they were written. The commands of
a descriptor stand in their own order, so the set that is read from their list is the set that was
written. Commands to the host hold counts, and are read back if these are numbers of 64 bits; a
command that was read holds no others.
-/

namespace Panes.Surface

open Json Wire

section

variable {depth : Nat}

@[simp]
theorem Kind.plain_toJson (kind : Kind) : kind.toJson.Plain depth := trivial

@[simp]
theorem Op.plain_toJson (op : Op) : op.toJson.Plain depth := trivial

@[simp]
theorem Tag.plain_toJson (tag : Tag) : tag.toJson.Plain depth := trivial

@[simp]
theorem Kind.ofJson_toJson (mode : Mode) (kind : Kind) :
    Kind.ofJson? mode kind.toJson = some kind := by
  refine name_string mode ?_ ?_
  · cases kind <;> decide
  · intro other
    cases other <;> cases kind <;> simp [Kind.name]

@[simp]
theorem Op.ofJson_toJson (mode : Mode) (op : Op) : Op.ofJson? mode op.toJson = some op := by
  refine name_string mode ?_ ?_
  · cases op <;> decide
  · intro other
    cases other <;> cases op <;> simp [Op.name]

@[simp]
theorem Tag.ofJson_toJson (mode : Mode) (tag : Tag) : Tag.ofJson? mode tag.toJson = some tag := by
  cases tag
  rfl

@[simp]
theorem Tag.toJson_ne_null (tag : Tag) : tag.toJson ≠ .null := nofun

end

namespace Id

/-- The number has 64 bits. -/
def Fits (id : Id) : Prop := id.number ≤ maxUnsigned

@[simp]
theorem plain_toJson {depth : Nat} (id : Id) : id.toJson.Plain depth ↔ id.Fits := plain_nat _

theorem ofJson_toJson {id : Id} (fits : id.Fits) : ofJson? id.toJson = some id := by
  rw [ofJson?, toJson, unsigned_nat fits, Option.map_some]

theorem fits_of_ofJson {json : Json} {id : Id} (read : ofJson? json = some id) : id.Fits := by
  obtain ⟨number, unsigned, rfl⟩ := Option.map_eq_some_iff.mp read
  exact le_of_unsigned unsigned

end Id

/-! ## Descriptors -/

/-- A set is read back from its list. -/
@[simp]
theorem OpSet.ofList_ops (set : OpSet) : OpSet.ofList set.ops = set := by
  have same : Op.all.filter set.ops.contains = set.ops := by
    refine List.Perm.eq_of_pairwise ?_ (Op.pairwise_all.filter _) set.sorted ?_
    · intro left right _ _ before after
      exact absurd before (Nat.lt_asymm after)
    · rw [List.perm_ext_iff_of_nodup]
      · intro op
        have listed : op ∈ Op.all := by cases op <;> decide
        simp [listed]
      · exact (by decide : Op.all.Nodup).filter _
      · exact set.sorted.imp fun before same => absurd (congrArg Op.rank same) (Nat.ne_of_lt before)
  obtain ⟨ops, sorted⟩ := set
  simpa only [OpSet.ofList, OpSet.mk.injEq] using same

namespace Descriptor

@[simp]
theorem plain_toJson {depth : Nat} (descriptor : Descriptor) :
    descriptor.toJson.Plain (depth + 2) := by
  simp [toJson, Plain, PlainMembers]

@[simp]
theorem ofJson_toJson (mode : Mode) (descriptor : Descriptor) :
    ofJson? mode descriptor.toJson = some descriptor := by
  obtain ⟨kind, allowedOps, tag⟩ := descriptor
  have ops := list_ofList (Op.ofJson_toJson mode) allowedOps.ops
  cases tag <;> simp [ofJson?, toJson, fieldNames, fields_object, optionalField, ops]

@[simp]
theorem toJson_ne_null (descriptor : Descriptor) : descriptor.toJson ≠ .null := nofun

theorem members_toJson (descriptor : Descriptor) :
    ∀ member ∈ descriptor.toJson.members, member.1 ∈ fieldNames := by
  obtain ⟨kind, allowedOps, tag⟩ := descriptor
  cases tag <;> simp [toJson, members, fieldNames, optionalField]

end Descriptor

/-! ## Commands -/

namespace Command

/-- All numbers have 64 bits. -/
def Fits : Command → Prop
  | start surface _ => surface.Fits
  | invalidate surface count => surface.Fits ∧ count ≤ maxUnsigned
  | finish surface => surface.Fits

theorem plain_toJson {depth : Nat} {command : Command} (fits : command.Fits) :
    command.toJson.Plain (depth + 3) := by
  cases command <;> simpa [toJson, PlainMembers, Fits] using fits

theorem ofJson_toJson (mode : Mode) {command : Command} (fits : command.Fits) :
    ofJson? mode command.toJson = some command := by
  cases command with
  | start surface descriptor =>
    have number := Id.ofJson_toJson fits
    simp [ofJson?, toJson, tags, tagged_tagged, fields_object, number]
  | invalidate surface count =>
    have number := Id.ofJson_toJson fits.1
    have unsigned := unsigned_nat fits.2
    simp [ofJson?, toJson, tags, tagged_tagged, fields_object, number, unsigned]
  | finish surface =>
    have number := Id.ofJson_toJson fits
    simp [ofJson?, toJson, tags, tagged_tagged, fields_object, number]

/-- Only numbers of 64 bits are read. -/
theorem fits_of_ofJson {mode : Mode} {json : Json} {command : Command}
    (read : ofJson? mode json = some command) : command.Fits := by
  simp only [ofJson?, Option.bind_eq_bind, Option.pure_def, Option.bind_eq_some_iff] at read
  obtain ⟨⟨name, body⟩, -, read⟩ := read
  split at read <;> simp only [Option.bind_eq_some_iff, Option.some_inj, reduceCtorEq] at read
  case h_1 =>
    obtain ⟨fields, -, surface, number, descriptor, -, rfl⟩ := read
    exact Fields.of_required Id.fits_of_ofJson number
  case h_2 =>
    obtain ⟨fields, -, surface, number, count, unsigned, rfl⟩ := read
    exact ⟨Fields.of_required Id.fits_of_ofJson number, Fields.of_required le_of_unsigned unsigned⟩
  case h_3 =>
    obtain ⟨fields, -, surface, number, rfl⟩ := read
    exact Fields.of_required Id.fits_of_ofJson number

end Command

end Panes.Surface
