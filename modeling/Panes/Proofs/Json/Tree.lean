import Panes.Json.Tree
import Panes.Proofs.Json.Token

/-!
# Reading printed values back

The tokens of a value are read as its tree, whatever is open around it, and the tree of a plain
value has that value. So a plain value that is printed and read is the same value again.
-/

namespace Panes.Json

mutual

/-- The shape of a value's text. -/
def tree : Json → Tree
  | null => .null
  | bool value => .bool value
  | number value => .number (some value)
  | string value => .string (some value)
  | array elements => .array (elementTrees elements)
  | object members => .object (memberTrees members)

/-- The shapes of the elements of a list. -/
def elementTrees : List Json → List Tree
  | [] => []
  | element :: elements => tree element :: elementTrees elements

/-- The shapes of the members of an object. -/
def memberTrees : List (String × Json) → List (Option String × Tree)
  | [] => []
  | (key, value) :: members => (some key, tree value) :: memberTrees members

end

/-! ## One pass over the tokens -/

namespace Reading

theorem run_cons {reading next : Reading} {token : Token} (taken : reading.step token = some next)
    (tokens : List Token) : reading.run (token :: tokens) = next.run tokens := by
  rw [run, List.foldlM_cons, taken]
  rfl

/-- A value may stand first in a list. -/
theorem run_firstElement {stack : List Frame} {token : Token} (inner : token ≠ .closeArray)
    (tokens : List Token) :
    run ⟨.firstElement, stack⟩ (token :: tokens) =
      run ⟨.value, .array [] :: stack⟩ (token :: tokens) := by
  have same : step ⟨.firstElement, stack⟩ token = step ⟨.value, .array [] :: stack⟩ token := by
    cases token with
    | closeArray => exact absurd rfl inner
    | _ => rfl
  rw [run, run, List.foldlM_cons, List.foldlM_cons, same]

end Reading

/-- No value starts with a closing bracket. -/
theorem tokens_head (json : Json) : ∃ token later, json.tokens = token :: later ∧
    token ≠ .closeArray := by
  cases json with
  | array elements => cases elements <;> exact ⟨_, _, rfl, nofun⟩
  | object members => cases members <;> exact ⟨_, _, rfl, nofun⟩
  | _ => exact ⟨_, _, rfl, nofun⟩

open Reading

mutual

/-- The tokens of a value make its tree complete. -/
theorem run_tokens : ∀ (json : Json) (stack : List Frame) (rest : List Token),
    run ⟨.value, stack⟩ (json.tokens ++ rest) = run (complete json.tree stack) rest
  | null, _, _ | bool _, _, _ | number _, _, _ | string _, _, _ => rfl
  | array [], _, _ => rfl
  | array (element :: elements), stack, rest => by
    obtain ⟨token, later, tokens_eq, inner⟩ := tokens_head element
    -- An open list that waits for its first element would also take a closing bracket.
    have first := run_tokens element (.array [] :: stack) (elementTokens elements ++ rest)
    rw [tokens, List.cons_append, List.append_assoc, run_cons rfl, tokens_eq, List.cons_append,
      run_firstElement inner, ← List.cons_append, ← tokens_eq, first]
    exact run_elementTokens elements [element.tree] stack rest
  | object [], _, _ => rfl
  | object ((key, value) :: members), stack, rest => by
    have first := run_tokens value (.object [] (some key) :: stack) (memberTokens members ++ rest)
    simp only [tokens, List.cons_append, List.append_assoc]
    rw [run_cons rfl, run_cons rfl, run_cons rfl, first]
    exact run_memberTokens members [(some key, value.tree)] stack rest

/-- The further elements of a list make it complete. -/
theorem run_elementTokens : ∀ (elements : List Json) (before : List Tree) (stack : List Frame)
    (rest : List Token),
    run ⟨.moreElements before, stack⟩ (elementTokens elements ++ rest) =
      run (complete (.array (before.reverse ++ elementTrees elements)) stack) rest
  | [], before, stack, rest => by
    rw [elementTrees, List.append_nil]
    rfl
  | element :: elements, before, stack, rest => by
    have first := run_tokens element (.array before :: stack) (elementTokens elements ++ rest)
    have further := run_elementTokens elements (element.tree :: before) stack rest
    rw [elementTokens, List.cons_append, List.append_assoc, run_cons rfl, first, complete, further,
      List.reverse_cons, List.append_assoc, elementTrees]
    rfl

/-- The further members of an object make it complete. -/
theorem run_memberTokens : ∀ (members : List (String × Json)) (before : List (Option String × Tree))
    (stack : List Frame) (rest : List Token),
    run ⟨.moreMembers before, stack⟩ (memberTokens members ++ rest) =
      run (complete (.object (before.reverse ++ memberTrees members)) stack) rest
  | [], before, stack, rest => by
    rw [memberTrees, List.append_nil]
    rfl
  | (key, value) :: members, before, stack, rest => by
    have first :=
      run_tokens value (.object before (some key) :: stack) (memberTokens members ++ rest)
    have further := run_memberTokens members ((some key, value.tree) :: before) stack rest
    simp only [memberTokens, List.cons_append, List.append_assoc]
    rw [run_cons rfl, run_cons rfl, run_cons rfl, first, complete, further, List.reverse_cons,
      List.append_assoc, memberTrees]
    rfl

end

/-! ## Values of trees -/

mutual

/-- The tree of a plain value has that value. -/
theorem value_tree : ∀ {depth : Nat} (json : Json), json.Plain depth →
    Tree.value? depth json.tree = some json
  | _, null, _ | _, bool _, _ | _, number (.int _), _ | _, string _, _ => by
    simp only [tree, Tree.value?, Option.map_some]
  | depth + 1, array elements, plain => by
    rw [tree, Tree.value?, elements_trees elements plain]
    rfl
  | depth + 1, object members, plain => by
    rw [tree, Tree.value?, members_trees members plain]
    rfl

theorem elements_trees : ∀ {depth : Nat} (elements : List Json), PlainElements depth elements →
    Tree.elements? depth (elementTrees elements) = some elements
  | _, [], _ => rfl
  | _, element :: elements, ⟨first, others⟩ => by
    rw [elementTrees, Tree.elements?, value_tree element first, elements_trees elements others]
    rfl

theorem members_trees : ∀ {depth : Nat} (members : List (String × Json)),
    PlainMembers depth members → Tree.members? depth (memberTrees members) = some members
  | _, [], _ => rfl
  | _, (key, value) :: members, ⟨first, others⟩ => by
    simp only [memberTrees, Tree.members?, value_tree value first, members_trees members others]
    rfl

end

/-- A reader of known fields sees all members of an object that has no others. -/
theorem knownMembers_trees {known : List String} : ∀ (members : List (String × Json)),
    PlainMembers (maxDepth - 1) members → (∀ member ∈ members, member.1 ∈ known) →
      Tree.knownMembers? known (memberTrees members) = some members
  | [], _, _ => rfl
  | (key, value) :: members, ⟨first, others⟩, familiar => by
    have key_known : known.contains key = true := by
      simpa using familiar (key, value) (by simp)
    have further := knownMembers_trees members others fun member later =>
      familiar member (by simp [later])
    simp only [memberTrees, Tree.knownMembers?, value_tree value first, further,
      Option.bind_eq_bind, Option.bind_some, key_known, if_true]
    rfl

/-! ## Printed values -/

/-- A printed plain value has the shape of the value. -/
theorem tree_of_render {depth : Nat} {json : Json} (plain : json.Plain depth) :
    Tree.ofText? json.render.toList = some json.tree := by
  have cut : tokens? json.chars = some json.tokens := by
    have nothing : tokens? [] = some [] := rfl
    have whole := tokens_chars json plain endsNumber_nil nothing
    simpa using whole
  have read : Reading.start.run json.tokens = some (complete json.tree []) := by
    have whole := run_tokens json [] []
    rwa [List.append_nil] at whole
  rw [render, String.toList_ofList, Tree.ofText?, cut, Option.bind_eq_bind, Option.bind_some, read]
  rfl

/-- A plain value that is printed and read is the same value. -/
theorem parse_render {json : Json} (plain : json.Plain maxDepth) :
    parse? json.render = some json := by
  rw [parse?, tree_of_render plain, Option.bind_eq_bind, Option.bind_some]
  exact value_tree json plain

/-- The members of an object. -/
def members : Json → List (String × Json)
  | object members => members
  | _ => []

/-- So is a plain value that is read for its fields, if it is no object with others. -/
theorem parseRecord_render {known : List String} {json : Json} (plain : json.Plain maxDepth)
    (familiar : ∀ member ∈ json.members, member.1 ∈ known) :
    parseRecord? known json.render = some json := by
  rw [parseRecord?, tree_of_render plain, Option.bind_eq_bind, Option.bind_some]
  cases json with
  | object members =>
    rw [tree, Tree.record?, knownMembers_trees members plain familiar]
    rfl
  | _ => exact value_tree _ plain

end Panes.Json
