import SelectorProse.Proofs.Value.Basic

/-!
The leaves of a value: what stands in it and is neither a list nor a record.
-/

set_option autoImplicit false

namespace SelectorProse.Value

mutual

def leaves : Value → List Value
  | .list items => itemsLeaves items
  | .record members => membersLeaves members
  | value => [value]

def itemsLeaves : List Value → List Value
  | [] => []
  | item :: rest => item.leaves ++ itemsLeaves rest

def membersLeaves : List (Text × Value) → List Value
  | [] => []
  | (_, value) :: rest => value.leaves ++ membersLeaves rest

end

variable {leaf : Value}

theorem mem_itemsLeaves {items : List Value} :
    leaf ∈ itemsLeaves items ↔ ∃ item ∈ items, leaf ∈ item.leaves := by
  induction items with
  | nil => simp [itemsLeaves]
  | cons item rest ih => simp [itemsLeaves, ih]

theorem mem_membersLeaves {members : List (Text × Value)} :
    leaf ∈ membersLeaves members ↔ ∃ member ∈ members, leaf ∈ member.2.leaves := by
  induction members with
  | nil => simp [membersLeaves]
  | cons member rest ih => simp [membersLeaves, ih]

theorem isWritable_of_leaves {value : Value}
    (short : ∀ leaf ∈ value.leaves, leaf.isWritable = true) : value.isWritable = true := by
  induction value using inductionOn with
  | list items ih =>
    rw [isWritable, areWritable_iff]
    intro item member
    refine ih item member fun leaf inside => short leaf ?_
    rw [leaves]
    exact mem_itemsLeaves.mpr ⟨item, member, inside⟩
  | record members ih =>
    rw [isWritable, areMembersWritable_iff]
    intro member present
    refine ih member present fun leaf inside => short leaf ?_
    rw [leaves]
    exact mem_membersLeaves.mpr ⟨member, present, inside⟩
  | _ => exact short _ (List.mem_singleton_self _)

/-- Putting a member into a record brings in the leaves of its value only. -/
theorem mem_membersLeaves_put {key : Text} {value : Value} {members : List (Text × Value)}
    (present : leaf ∈ membersLeaves (put key value members)) :
    leaf ∈ value.leaves ∨ leaf ∈ membersLeaves members := by
  induction members with
  | nil =>
    rw [put, membersLeaves, membersLeaves, List.append_nil] at present
    exact Or.inl present
  | cons member rest ih =>
    rw [put] at present
    split at present
    · rw [membersLeaves, List.mem_append] at present
      rw [membersLeaves, List.mem_append]
      exact present.imp_right Or.inr
    · rw [membersLeaves, List.mem_append] at present
      rw [membersLeaves, List.mem_append]
      rcases present with here | later
      · exact Or.inr (Or.inl here)
      · exact (ih later).imp_right Or.inr

theorem mem_leaves_of_lookup {key : Text} {value : Value} {members : List (Text × Value)}
    (found : members.lookup key = some value) (present : leaf ∈ value.leaves) :
    leaf ∈ membersLeaves members := by
  obtain ⟨before, after, rfl, -⟩ := List.lookup_eq_some_iff.mp found
  exact mem_membersLeaves.mpr ⟨(key, value), by simp, present⟩

end SelectorProse.Value
