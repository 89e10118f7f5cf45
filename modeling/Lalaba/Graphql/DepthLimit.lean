import Lalaba.Graphql.Document
import Mathlib.Data.Finset.Card
import Mathlib.Tactic.Linarith

/-!
# The query-depth limit

`selectionSetDepth` walks a selection set with a set of the fragments it is inside of,
to which every spread adds its fragment for the time it is walked.  The walk ends
because a spread that is entered leaves fewer fragments to enter, and everything else
is smaller than what it stands in.  It finds the deepest expansion in which no fragment
is entered twice at a time, which puts all fragments in place if none refers to itself.
-/

namespace Lalaba.Graphql

open ValidationContext (reachable_of_fragment)

/-! ## The code -/

section

variable (context : ValidationContext)

/--
One round of the loop over the selections, whose state is the greatest depth so far and
the fragments being visited.  A nested selection set is given to `depthOf`.
-/
def visitSelection
    (depthOf : SelectionSet → Finset String → Option (ℕ × Finset String))
    (state : ℕ × Finset String) : Selection → Option (ℕ × Finset String)
  | .field none => some (max state.1 (1 + 0), state.2)
  | .field (some selectionSet) =>
    (depthOf selectionSet state.2).map fun (childDepth, visitedFragments) =>
      (max state.1 (1 + childDepth), visitedFragments)
  | .inlineFragment none => some state
  | .inlineFragment (some selectionSet) =>
    (depthOf selectionSet state.2).map fun (depth, visitedFragments) =>
      (max state.1 depth, visitedFragments)
  | .fragmentSpread name =>
    if name ∈ state.2 then
      -- A cyclic fragment stops here.
      some state
    else
      match context.getFragment name with
      | none => some state
      | some fragment =>
        (depthOf fragment.selectionSet (insert name state.2)).map
          fun (depth, visitedFragments) =>
            (max state.1 depth, visitedFragments.erase name)

/--
The depth of a selection set and the set of visited fragments afterwards, unless more
than `frames` calls are open at a time.
-/
def selectionSetDepth :
    ℕ → SelectionSet → Finset String → Option (ℕ × Finset String)
  | 0, _, _ => none
  | frames + 1, selectionSet, visitedFragments =>
    selectionSet.foldlM (visitSelection context (selectionSetDepth frames)) (0, visitedFragments)

structure GraphQLError where
  message : String
  nodes : List OperationDefinition

def tooDeep (maxDepth : ℤ) (depth : ℕ) (node : OperationDefinition) : GraphQLError where
  message := s!"Query exceeds the maximum allowed depth of {maxDepth} (got {depth})."
  nodes := [node]

def depthLimit (maxDepth : ℤ) (frames : ℕ) (node : OperationDefinition) :
    Option (List GraphQLError) :=
  (selectionSetDepth context frames node.selectionSet ∅).map fun (depth, _) =>
    if depth > maxDepth then [tooDeep maxDepth depth node] else []

def Accepts (maxDepth : ℤ) (node : OperationDefinition) : Prop :=
  ∃ frames, ∀ more, frames ≤ more → depthLimit context maxDepth more node = some []

end

variable {context : ValidationContext}

/-- The walk through a selection set inside of the visited fragments, with its depth. -/
inductive Walk (context : ValidationContext) : Finset String → SelectionSet → ℕ → Prop where
  | nil {visited : Finset String} : Walk context visited [] 0
  | field {visited : Finset String} {selectionSet : Option SelectionSet}
      {rest : SelectionSet} {below after : ℕ}
      (inside : Walk context visited (selectionSet.getD []) below)
      (beside : Walk context visited rest after) :
      Walk context visited (.field selectionSet :: rest) (max (1 + below) after)
  | inlineFragment {visited : Finset String} {selectionSet : Option SelectionSet}
      {rest : SelectionSet} {below after : ℕ}
      (inside : Walk context visited (selectionSet.getD []) below)
      (beside : Walk context visited rest after) :
      Walk context visited (.inlineFragment selectionSet :: rest) (max below after)
  | entered {visited : Finset String} {name : String} {node : FragmentDefinition}
      {rest : SelectionSet} {below after : ℕ}
      (fresh : name ∉ visited) (found : context.getFragment name = some node)
      (inside : Walk context (insert name visited) node.selectionSet below)
      (beside : Walk context visited rest after) :
      Walk context visited (.fragmentSpread name :: rest) (max below after)
  | unknown {visited : Finset String} {name : String} {rest : SelectionSet} {after : ℕ}
      (fresh : name ∉ visited) (unknown : context.getFragment name = none)
      (beside : Walk context visited rest after) :
      Walk context visited (.fragmentSpread name :: rest) after
  | revisited {visited : Finset String} {name : String} {rest : SelectionSet}
      {after : ℕ} (again : name ∈ visited) (beside : Walk context visited rest after) :
      Walk context visited (.fragmentSpread name :: rest) after

def unvisited (context : ValidationContext) (visited : Finset String) : Finset String :=
  context.document.fragmentNames.toFinset \ visited

variable {visited : Finset String} {selectionSet : SelectionSet} {depth : ℕ}

theorem unvisited_insert {name : String} {node : FragmentDefinition}
    (fresh : name ∉ visited) (found : context.getFragment name = some node) :
    (unvisited context (insert name visited)).card < (unvisited context visited).card := by
  obtain ⟨defined, named⟩ := context.getFragment_defined found
  have known : name ∈ context.document.fragmentNames := named ▸ Document.mem_fragmentNames defined
  apply Finset.card_lt_card
  rw [unvisited, unvisited, Finset.ssubset_iff_of_subset
    (Finset.sdiff_subset_sdiff subset_rfl (Finset.subset_insert name visited))]
  exact ⟨name, by simp [known, fresh], by simp⟩

theorem Walk.total (visited : Finset String) (selectionSet : SelectionSet) :
    ∃ depth, Walk context visited selectionSet depth := by
  match selectionSet with
  | [] => exact ⟨0, .nil⟩
  | .field none :: rest =>
    obtain ⟨_, beside⟩ := Walk.total visited rest
    exact ⟨_, .field .nil beside⟩
  | .field (some children) :: rest =>
    obtain ⟨_, inside⟩ := Walk.total visited children
    obtain ⟨_, beside⟩ := Walk.total visited rest
    exact ⟨_, .field inside beside⟩
  | .inlineFragment none :: rest =>
    obtain ⟨_, beside⟩ := Walk.total visited rest
    exact ⟨_, .inlineFragment .nil beside⟩
  | .inlineFragment (some children) :: rest =>
    obtain ⟨_, inside⟩ := Walk.total visited children
    obtain ⟨_, beside⟩ := Walk.total visited rest
    exact ⟨_, .inlineFragment inside beside⟩
  | .fragmentSpread name :: rest =>
    obtain ⟨_, beside⟩ := Walk.total visited rest
    by_cases again : name ∈ visited
    · exact ⟨_, .revisited again beside⟩
    · cases found : context.getFragment name with
      | none => exact ⟨_, .unknown again found beside⟩
      | some node =>
        have fewer := unvisited_insert again found
        obtain ⟨_, inside⟩ := Walk.total (insert name visited) node.selectionSet
        exact ⟨_, .entered again found inside beside⟩
termination_by ((unvisited context visited).card, selectionSet)

/-- The loop ends at the greater of `reached` and `depth`, with the visited fragments
that it began with. -/
def Loops (context : ValidationContext) (visited : Finset String)
    (selectionSet : SelectionSet) (depth frames : ℕ) : Prop :=
  ∀ more, frames ≤ more → ∀ reached,
    selectionSet.foldlM (visitSelection context (selectionSetDepth context more))
      (reached, visited) = some (max reached depth, visited)

theorem Loops.call {frames : ℕ}
    (loop : Loops context visited selectionSet depth frames) {more : ℕ}
    (enough : frames + 1 ≤ more) :
    selectionSetDepth context more selectionSet visited = some (depth, visited) := by
  obtain ⟨more, rfl⟩ := Nat.exists_eq_add_of_le' enough
  simpa [selectionSetDepth] using loop (more + frames) (by omega) 0

/-- The loop takes the walk. -/
theorem Walk.loops (walk : Walk context visited selectionSet depth) :
    ∃ frames, Loops context visited selectionSet depth frames := by
  induction walk with
  | nil => exact ⟨0, fun _ _ reached => by simp⟩
  | @field visited selectionSet rest below after walked _ inside beside =>
    obtain ⟨first, inside⟩ := inside
    obtain ⟨second, beside⟩ := beside
    refine ⟨max (first + 1) second, fun more enough reached => ?_⟩
    have inside := inside.call (show first + 1 ≤ more by omega)
    have beside := beside more (by omega)
    cases selectionSet with
    | none =>
      cases walked
      simp [visitSelection, beside, max_assoc]
    | some children =>
      simp only [Option.getD_some] at inside
      simp [visitSelection, inside, beside, max_assoc]
  | @inlineFragment visited selectionSet rest below after walked _ inside beside =>
    obtain ⟨first, inside⟩ := inside
    obtain ⟨second, beside⟩ := beside
    refine ⟨max (first + 1) second, fun more enough reached => ?_⟩
    have inside := inside.call (show first + 1 ≤ more by omega)
    have beside := beside more (by omega)
    cases selectionSet with
    | none =>
      cases walked
      simp [visitSelection, beside]
    | some children =>
      simp only [Option.getD_some] at inside
      simp [visitSelection, inside, beside, max_assoc]
  | entered fresh found _ _ inside beside =>
    obtain ⟨first, inside⟩ := inside
    obtain ⟨second, beside⟩ := beside
    refine ⟨max (first + 1) second, fun more enough reached => ?_⟩
    have inside := inside.call (show first + 1 ≤ more by omega)
    have beside := beside more (by omega)
    -- Taking the fragment out again restores the set, since it was not in it before.
    simp [visitSelection, fresh, found, inside, beside, max_assoc]
  | unknown fresh unknown _ beside =>
    obtain ⟨frames, beside⟩ := beside
    exact ⟨frames, fun more enough reached => by
      simp [visitSelection, fresh, unknown, beside more enough]⟩
  | revisited again _ beside =>
    obtain ⟨frames, beside⟩ := beside
    exact ⟨frames, fun more enough reached => by
      simp [visitSelection, again, beside more enough]⟩

theorem Walk.returns (walk : Walk context visited selectionSet depth) :
    ∃ frames, ∀ more, frames ≤ more →
      selectionSetDepth context more selectionSet visited = some (depth, visited) := by
  obtain ⟨frames, loop⟩ := walk.loops
  exact ⟨frames + 1, fun more enough => loop.call enough⟩

theorem Walk.bounds (walk : Walk context visited selectionSet depth)
    {trees : List FieldTree}
    (expansion : Expansion context visited selectionSet trees) :
    nesting trees ≤ depth := by
  induction walk generalizing trees with
  | nil => cases expansion with
    | nil => exact Nat.le_refl 0
  | field _ _ inside beside => cases expansion with
    | field below after =>
      exact max_le_max (Nat.add_le_add_left (inside below) 1) (beside after)
  | inlineFragment _ _ inside beside => cases expansion with
    | inlineFragment spliced after =>
      rw [nesting_append]
      exact max_le_max (inside spliced) (beside after)
  | entered fresh found _ _ inside beside => cases expansion with
    | entered _ again spliced after =>
      cases found.symm.trans again
      rw [nesting_append]
      exact max_le_max (inside spliced) (beside after)
    | omitted after => exact (beside after).trans (le_max_right _ _)
  | unknown _ absent _ beside => cases expansion with
    | entered _ found _ _ => cases absent.symm.trans found
    | omitted after => exact beside after
  | revisited again _ beside => cases expansion with
    | entered outside _ _ _ => exact absurd again outside
    | omitted after => exact beside after

theorem Walk.attained (walk : Walk context visited selectionSet depth) :
    ∃ trees, Expansion context visited selectionSet trees ∧ nesting trees = depth := by
  induction walk with
  | nil => exact ⟨[], .nil, rfl⟩
  | field _ _ inside beside =>
    obtain ⟨below, inside, rfl⟩ := inside
    obtain ⟨after, beside, rfl⟩ := beside
    exact ⟨.node below :: after, .field inside beside, rfl⟩
  | inlineFragment _ _ inside beside =>
    obtain ⟨spliced, inside, rfl⟩ := inside
    obtain ⟨after, beside, rfl⟩ := beside
    exact ⟨spliced ++ after, .inlineFragment inside beside, nesting_append spliced after⟩
  | entered fresh found _ _ inside beside =>
    obtain ⟨spliced, inside, rfl⟩ := inside
    obtain ⟨after, beside, rfl⟩ := beside
    exact ⟨spliced ++ after, .entered fresh found inside beside, nesting_append spliced after⟩
  | unknown _ _ _ beside | revisited _ _ beside =>
    obtain ⟨after, beside, rfl⟩ := beside
    exact ⟨after, .omitted beside, rfl⟩

/--
Without cycles the walk puts all fragments in place: it is never inside of a fragment
that it comes to.
-/
theorem Walk.inlines (walk : Walk context visited selectionSet depth)
    (acyclic : context.Acyclic selectionSet)
    (outside : ∀ name ∈ visited, ¬ context.Reachable selectionSet name) :
    ∃ trees, Inlines context selectionSet trees ∧ nesting trees = depth := by
  induction walk with
  | nil => exact ⟨[], .nil, rfl⟩
  | @field visited selectionSet rest _ _ _ _ ihInside ihBeside =>
    have within : spreads (selectionSet.getD []) ⊆ spreads (.field selectionSet :: rest) := by
      simp [spreads_field]
    have behind : spreads rest ⊆ spreads (.field selectionSet :: rest) := by
      simp [spreads_field]
    obtain ⟨below, inside, rfl⟩ := ihInside (acyclic.mono within)
      fun name mem reachable => outside name mem (reachable.mono within)
    obtain ⟨after, beside, rfl⟩ := ihBeside (acyclic.mono behind)
      fun name mem reachable => outside name mem (reachable.mono behind)
    exact ⟨.node below :: after, .field inside beside, rfl⟩
  | @inlineFragment visited selectionSet rest _ _ _ _ ihInside ihBeside =>
    have within : spreads (selectionSet.getD []) ⊆
        spreads (.inlineFragment selectionSet :: rest) := by
      simp [spreads_inlineFragment]
    have behind : spreads rest ⊆ spreads (.inlineFragment selectionSet :: rest) := by
      simp [spreads_inlineFragment]
    obtain ⟨spliced, inside, rfl⟩ := ihInside (acyclic.mono within)
      fun name mem reachable => outside name mem (reachable.mono within)
    obtain ⟨after, beside, rfl⟩ := ihBeside (acyclic.mono behind)
      fun name mem reachable => outside name mem (reachable.mono behind)
    exact ⟨spliced ++ after, .inlineFragment inside beside, nesting_append spliced after⟩
  | @entered visited name node rest _ _ fresh found _ _ ihInside ihBeside =>
    have spread : name ∈ spreads (.fragmentSpread name :: rest) := by simp [spreads]
    have behind : spreads rest ⊆ spreads (.fragmentSpread name :: rest) := by
      simp [spreads]
    obtain ⟨spliced, inside, rfl⟩ := ihInside (fun target reachable =>
        acyclic target (reachable_of_fragment spread found reachable).2)
      (by
        intro target mem reachable
        obtain ⟨path, reached⟩ := reachable_of_fragment spread found reachable
        rcases Finset.mem_insert.mp mem with rfl | mem
        · exact acyclic target reached path
        · exact outside target mem reached)
    obtain ⟨after, beside, rfl⟩ := ihBeside (acyclic.mono behind)
      fun name mem reachable => outside name mem (reachable.mono behind)
    exact ⟨spliced ++ after, .fragmentSpread found inside beside, nesting_append spliced after⟩
  | @unknown visited name rest _ _ absent _ ihBeside =>
    have behind : spreads rest ⊆ spreads (.fragmentSpread name :: rest) := by
      simp [spreads]
    obtain ⟨after, beside, rfl⟩ := ihBeside (acyclic.mono behind)
      fun name mem reachable => outside name mem (reachable.mono behind)
    exact ⟨after, .unknown absent beside, rfl⟩
  | @revisited visited name rest _ again _ _ =>
    have spread : name ∈ spreads (.fragmentSpread name :: rest) := by simp [spreads]
    exact absurd ⟨name, spread, .refl⟩ (outside name again)

/--
Every operation has a depth, which the rule compares with its limit.  No expansion that
enters no fragment while it is being expanded is deeper, and some is as deep.  Without
cycles it is the nesting of the operation with all fragments in place.
-/
theorem depthLimit_exact (context : ValidationContext) (maxDepth : ℤ)
    (node : OperationDefinition) :
    ∃ depth,
      (∃ frames, ∀ more, frames ≤ more →
        selectionSetDepth context more node.selectionSet ∅ = some (depth, ∅) ∧
          depthLimit context maxDepth more node =
            some (if depth > maxDepth then [tooDeep maxDepth depth node] else [])) ∧
      (∀ trees, Expansion context ∅ node.selectionSet trees → nesting trees ≤ depth) ∧
      (∃ trees, Expansion context ∅ node.selectionSet trees ∧ nesting trees = depth) ∧
      (context.Acyclic node.selectionSet →
        ∃ trees, Inlines context node.selectionSet trees ∧
          (∀ other, Inlines context node.selectionSet other → other = trees) ∧
          depth = nesting trees ∧
          (Accepts context maxDepth node ↔ nesting trees ≤ maxDepth)) := by
  obtain ⟨depth, walk⟩ := @Walk.total context ∅ node.selectionSet
  obtain ⟨frames, returns⟩ := walk.returns
  have reported : ∀ more, frames ≤ more →
      depthLimit context maxDepth more node =
        some (if depth > maxDepth then [tooDeep maxDepth depth node] else []) := by
    intro more enough
    simp only [depthLimit, returns more enough, Option.map_some]
  refine ⟨depth, ⟨frames, fun more enough => ⟨returns more enough, reported more enough⟩⟩,
    fun trees => walk.bounds, walk.attained, fun acyclic => ?_⟩
  obtain ⟨trees, inlines, rfl⟩ := walk.inlines acyclic (by simp)
  refine ⟨trees, inlines, fun other others => others.unique inlines, rfl, ?_⟩
  constructor
  · rintro ⟨least, accepts⟩
    have accepted := accepts (max frames least) (le_max_right _ _)
    rw [reported _ (le_max_left _ _)] at accepted
    by_contra deeper
    rw [if_pos (not_le.mp deeper)] at accepted
    simp at accepted
  · intro shallow
    exact ⟨frames, fun more enough => by
      rw [reported more enough, if_neg (not_lt.mpr shallow)]⟩

/-- Two fragments that spread each other, below a field and below two fields. -/
example :
    let document : Document := {
      definitions := [
        .fragment ⟨"first", [.field (some [.fragmentSpread "second"])]⟩,
        .fragment ⟨"second", [.field (some [.fragmentSpread "first"])]⟩] }
    selectionSetDepth document.context 8
      [.field (some [.fragmentSpread "first"]),
        .field (some [.field (some [.fragmentSpread "first"])])] ∅ =
      some (4, ∅) := by
  decide

end Lalaba.Graphql
