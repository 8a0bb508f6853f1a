import FeatureFlags.Proofs.Condition.Clauses

/-!
# The attributes a condition looks at

A path reaches into the attribute that its first segment names, and a condition looks
at the attributes of its paths.  The conditions that items of an array are matched
with do not count: their paths start from the item.  A condition cannot tell users
apart who agree on the attributes it looks at (`Node.holds_congr`).
-/

namespace FeatureFlags

/-- Two users have the same values, or no values, for the given attributes. -/
def Attributes.AgreeOn (names : List String) (first second : Attributes) : Prop :=
  ∀ name ∈ names, Dictionary.get? first name = Dictionary.get? second name

namespace Attributes

variable {names fewer : List String} {first second : Attributes}

theorem AgreeOn.mono (hagree : AgreeOn names first second) (hfewer : fewer ⊆ names) :
    AgreeOn fewer first second :=
  fun name hname => hagree name (hfewer hname)

theorem lookup_congr {path : AttributePath}
    (hagree : AgreeOn path.segments.head?.toList first second) :
    first.lookup path = second.lookup path := by
  unfold lookup
  cases hsegments : path.segments with
  | nil => rfl
  | cons name rest =>
      have hname : Dictionary.get? first name = Dictionary.get? second name := by
        refine hagree name ?_
        rw [hsegments]
        exact List.mem_singleton.mpr rfl
      simp only [hname]

end Attributes

/-- The attributes that a compiled condition looks at. -/
def Node.names : Node → List String
  | .all nodes => nodes.flatMap fun node => node.names
  | .any nodes => nodes.flatMap fun node => node.names
  | .none nodes => nodes.flatMap fun node => node.names
  | .not node => node.names
  | .field path _ => path.segments.head?.toList
  | .invalid => []

/-- **A condition looks at nothing but its attributes.** -/
theorem Node.holds_congr (groups : SavedGroups) {first second : Attributes} (node : Node)
    (hagree : Attributes.AgreeOn node.names first second) :
    node.holds groups (.attributes first) = node.holds groups (.attributes second) := by
  have hnodes : ∀ nodes : List Node, sizeOf nodes < sizeOf node →
      Attributes.AgreeOn (nodes.flatMap fun node => node.names) first second →
      (nodes.map fun node => node.holds groups (.attributes first)) =
        nodes.map fun node => node.holds groups (.attributes second) := by
    intro nodes hsize hagree
    refine List.map_congr_left fun item hitem => item.holds_congr groups ?_
    exact hagree.mono fun name hname => List.mem_flatMap.mpr ⟨item, hitem, hname⟩
  cases node with
  | all nodes =>
      rw [names] at hagree
      rw [holds, holds, allHold_eq, allHold_eq, hnodes nodes (by simp) hagree]
  | any nodes =>
      rw [names] at hagree
      rw [holds, holds, someHolds_eq, someHolds_eq, hnodes nodes (by simp) hagree]
  | none nodes =>
      rw [names] at hagree
      rw [holds, holds, someHolds_eq, someHolds_eq, hnodes nodes (by simp) hagree]
  | not inner =>
      rw [names] at hagree
      rw [holds, holds, inner.holds_congr groups hagree]
  | field path test =>
      -- The test is not looked into: it is given the value, and knows no other one.
      rw [names] at hagree
      rw [holds, holds, Subject.lookup, Subject.lookup, Attributes.lookup_congr hagree]
  | invalid => rw [holds, holds]
termination_by sizeOf node
decreasing_by
  · exact Nat.lt_trans (List.sizeOf_lt_of_mem hitem) hsize
  · rw [‹node = inner.not›]
    simp

/-- The attributes that a condition looks at. -/
def Condition.names (condition : Condition) : List String := condition.root.names

/-- A test looks at the attribute that its path starts from. -/
theorem Condition.names_ofClause {path : String} (hpath : Condition.isPath path = true)
    (test : Json) :
    (Condition.ofClause path test).names = (AttributePath.segments ⟨path⟩).head?.toList := by
  rw [names, root_ofClause, compileClause_of_isPath hpath, Node.names]

theorem Condition.holds_congr {condition : Condition} (groups : SavedGroups)
    {first second : Attributes} (hagree : Attributes.AgreeOn condition.names first second) :
    condition.holds (.attributes first) groups = condition.holds (.attributes second) groups :=
  condition.root.holds_congr groups hagree

end FeatureFlags
