import Mathlib.Data.Finset.Basic
import Mathlib.Logic.Relation
import Mathlib.Order.Lattice

/-!
# Selections and their fragments

The selections of a GraphQL document, as far as their nesting goes, and what it means to
put the named fragments in place of the spreads that name them: `Inlines` puts all of
them in place, which ends only where no fragment comes back to itself, and `Expansion`
puts in place as many as it likes, as long as none is entered while it is being
expanded.
-/

namespace Lalaba.Graphql

/-! ## The document -/

/--
A selection.  Its name, arguments and directives do not nest.
-/
inductive Selection where
  | field (selectionSet : Option (List Selection))
  | inlineFragment (selectionSet : Option (List Selection))
  | fragmentSpread (name : String)

abbrev SelectionSet := List Selection

structure OperationDefinition where
  selectionSet : SelectionSet

structure FragmentDefinition where
  name : String
  selectionSet : SelectionSet

inductive Definition where
  | operation (node : OperationDefinition)
  | fragment (node : FragmentDefinition)

structure Document where
  definitions : List Definition

namespace Document

def fragmentNames (document : Document) : List String :=
  document.definitions.filterMap fun
    | .operation _ => none
    | .fragment node => some node.name

theorem mem_fragmentNames {document : Document} {node : FragmentDefinition}
    (defined : .fragment node ∈ document.definitions) :
    node.name ∈ document.fragmentNames :=
  List.mem_filterMap.mpr ⟨.fragment node, defined, rfl⟩

end Document

/--
What a validation rule is given.  Which fragment a name stands for is looked up by the
library; it is a definition of the document that has the name.
-/
structure ValidationContext where
  document : Document
  getFragment : String → Option FragmentDefinition
  getFragment_defined {name : String} {node : FragmentDefinition} :
    getFragment name = some node → .fragment node ∈ document.definitions ∧ node.name = name

namespace Document

/-- The library lets the last definition of a name win. -/
def context (document : Document) : ValidationContext where
  document := document
  getFragment name :=
    document.definitions.reverse.findSome? fun
      | .operation _ => none
      | .fragment node => if node.name = name then some node else none
  getFragment_defined := by
    intro name node found
    obtain ⟨definition, mem, matched⟩ := List.exists_of_findSome?_eq_some found
    cases definition with
    | operation _ => cases matched
    | fragment other =>
      simp only at matched
      split at matched
      · next named =>
        cases matched
        exact ⟨List.mem_reverse.mp mem, named⟩
      · cases matched

end Document

/-- A field with the fields below it, without any fragment. -/
inductive FieldTree where
  | node (below : List FieldTree)

mutual

def FieldTree.depth : FieldTree → ℕ
  | .node below => 1 + nesting below

def nesting : List FieldTree → ℕ
  | [] => 0
  | tree :: rest => max tree.depth (nesting rest)

end

theorem nesting_append (first second : List FieldTree) :
    nesting (first ++ second) = max (nesting first) (nesting second) := by
  induction first with
  | nil => simp [nesting]
  | cons tree rest ih => simp only [List.cons_append, nesting, ih, max_assoc]

/-! ## References between fragments -/

def spreads : List Selection → List String
  | [] => []
  | .field none :: rest => spreads rest
  | .field (some selectionSet) :: rest => spreads selectionSet ++ spreads rest
  | .inlineFragment none :: rest => spreads rest
  | .inlineFragment (some selectionSet) :: rest =>
    spreads selectionSet ++ spreads rest
  | .fragmentSpread name :: rest => name :: spreads rest

theorem spreads_field (selectionSet : Option SelectionSet) (rest : SelectionSet) :
    spreads (.field selectionSet :: rest) = spreads (selectionSet.getD []) ++ spreads rest := by
  cases selectionSet <;> simp [spreads]

theorem spreads_inlineFragment (selectionSet : Option SelectionSet)
    (rest : SelectionSet) :
    spreads (.inlineFragment selectionSet :: rest) =
      spreads (selectionSet.getD []) ++ spreads rest := by
  cases selectionSet <;> simp [spreads]

namespace ValidationContext

variable (context : ValidationContext)

def Refers (first second : String) : Prop :=
  ∃ node, context.getFragment first = some node ∧ second ∈ spreads node.selectionSet

def Reachable (selectionSet : SelectionSet) (name : String) : Prop :=
  ∃ first ∈ spreads selectionSet, Relation.ReflTransGen context.Refers first name

def Acyclic (selectionSet : SelectionSet) : Prop :=
  ∀ name, context.Reachable selectionSet name → ¬ Relation.TransGen context.Refers name name

variable {context : ValidationContext} {outer inner : SelectionSet}
variable {name : String} {node : FragmentDefinition}

theorem Acyclic.mono (acyclic : context.Acyclic outer)
    (subset : spreads inner ⊆ spreads outer) : context.Acyclic inner := by
  rintro name ⟨first, mem, path⟩
  exact acyclic name ⟨first, subset mem, path⟩

theorem Reachable.mono {target : String} (reachable : context.Reachable inner target)
    (subset : spreads inner ⊆ spreads outer) : context.Reachable outer target := by
  obtain ⟨first, mem, path⟩ := reachable
  exact ⟨first, subset mem, path⟩

theorem reachable_of_fragment (mem : name ∈ spreads outer)
    (found : context.getFragment name = some node) {target : String}
    (reachable : context.Reachable node.selectionSet target) :
    Relation.TransGen context.Refers name target ∧
      context.Reachable outer target := by
  obtain ⟨first, inside, path⟩ := reachable
  have refers : context.Refers name first := ⟨node, found, inside⟩
  exact ⟨Relation.TransGen.head' refers path, name, mem, path.head refers⟩

end ValidationContext

/--
All spreads of a selection set replaced by the fields of their fragments, and those of
the fragments likewise.  A name that stands for no fragment has no fields.
-/
inductive Inlines (context : ValidationContext) : SelectionSet → List FieldTree → Prop where
  | nil : Inlines context [] []
  | field {selectionSet : Option SelectionSet} {rest : SelectionSet}
      {below after : List FieldTree}
      (inside : Inlines context (selectionSet.getD []) below)
      (beside : Inlines context rest after) :
      Inlines context (.field selectionSet :: rest) (.node below :: after)
  | inlineFragment {selectionSet : Option SelectionSet} {rest : SelectionSet}
      {spliced after : List FieldTree}
      (inside : Inlines context (selectionSet.getD []) spliced)
      (beside : Inlines context rest after) :
      Inlines context (.inlineFragment selectionSet :: rest) (spliced ++ after)
  | fragmentSpread {name : String} {node : FragmentDefinition} {rest : SelectionSet}
      {spliced after : List FieldTree}
      (found : context.getFragment name = some node)
      (inside : Inlines context node.selectionSet spliced)
      (beside : Inlines context rest after) :
      Inlines context (.fragmentSpread name :: rest) (spliced ++ after)
  | unknown {name : String} {rest : SelectionSet} {after : List FieldTree}
      (unknown : context.getFragment name = none)
      (beside : Inlines context rest after) :
      Inlines context (.fragmentSpread name :: rest) after

theorem Inlines.unique {context : ValidationContext} {selectionSet : SelectionSet}
    {first second : List FieldTree} (left : Inlines context selectionSet first)
    (right : Inlines context selectionSet second) : first = second := by
  induction left generalizing second with
  | nil => cases right with
    | nil => rfl
  | field _ _ inside beside => cases right with
    | field below after => rw [inside below, beside after]
  | inlineFragment _ _ inside beside => cases right with
    | inlineFragment spliced after => rw [inside spliced, beside after]
  | fragmentSpread found _ _ inside beside => cases right with
    | fragmentSpread again spliced after =>
      cases found.symm.trans again
      rw [inside spliced, beside after]
    | unknown absent _ => cases found.symm.trans absent
  | unknown absent _ beside => cases right with
    | fragmentSpread found _ _ => cases absent.symm.trans found
    | unknown _ after => rw [beside after]

/--
Some of the spreads of a selection set replaced by the fields of their fragments, while
the fragments in `path` are being expanded, and the others left out.
-/
inductive Expansion (context : ValidationContext) :
    Finset String → SelectionSet → List FieldTree → Prop where
  | nil {path : Finset String} : Expansion context path [] []
  | field {path : Finset String} {selectionSet : Option SelectionSet}
      {rest : SelectionSet} {below after : List FieldTree}
      (inside : Expansion context path (selectionSet.getD []) below)
      (beside : Expansion context path rest after) :
      Expansion context path (.field selectionSet :: rest) (.node below :: after)
  | inlineFragment {path : Finset String} {selectionSet : Option SelectionSet}
      {rest : SelectionSet} {spliced after : List FieldTree}
      (inside : Expansion context path (selectionSet.getD []) spliced)
      (beside : Expansion context path rest after) :
      Expansion context path (.inlineFragment selectionSet :: rest) (spliced ++ after)
  | entered {path : Finset String} {name : String} {node : FragmentDefinition}
      {rest : SelectionSet} {spliced after : List FieldTree}
      (outside : name ∉ path) (found : context.getFragment name = some node)
      (inside : Expansion context (insert name path) node.selectionSet spliced)
      (beside : Expansion context path rest after) :
      Expansion context path (.fragmentSpread name :: rest) (spliced ++ after)
  | omitted {path : Finset String} {name : String} {rest : SelectionSet}
      {after : List FieldTree} (beside : Expansion context path rest after) :
      Expansion context path (.fragmentSpread name :: rest) after

end Lalaba.Graphql
