import Mathlib.Data.List.Nodup
import SelectorProse.Value.Basic

/-!
Records as mappings: what counts is the value under each key, not where the member stands.
-/

set_option autoImplicit false

namespace SelectorProse.Value

/-- Members that give the same value, or none, under every key. -/
def SameMapping (first second : List (Text × Value)) : Prop :=
  ∀ key, first.lookup key = second.lookup key

theorem exists_lookup_iff {members : List (Text × Value)} {key : Text} :
    (∃ value, members.lookup key = some value) ↔ key ∈ members.map Prod.fst := by
  rw [← Option.isSome_iff_exists, List.lookup_isSome_iff, List.mem_map]
  simp only [beq_iff_eq, eq_comm (a := key)]

theorem lookup_eq_none {members : List (Text × Value)} {key : Text}
    (absent : key ∉ members.map Prod.fst) : members.lookup key = none := by
  rw [Option.eq_none_iff_forall_ne_some]
  intro value found
  exact absent (exists_lookup_iff.mp ⟨value, found⟩)

theorem mem_of_lookup {members : List (Text × Value)} {key : Text} {value : Value}
    (found : members.lookup key = some value) : (key, value) ∈ members := by
  obtain ⟨before, after, split, -⟩ := List.lookup_eq_some_iff.mp found
  rw [split]
  exact List.mem_append_right before (List.mem_cons_self ..)

/-- Where no key comes up twice, what is found under a key is the only member with this key. -/
theorem lookup_eq_some_iff_mem {members : List (Text × Value)} {key : Text} {value : Value}
    (distinct : (members.map Prod.fst).Nodup) :
    members.lookup key = some value ↔ (key, value) ∈ members := by
  constructor
  · exact mem_of_lookup
  · intro present
    obtain ⟨other, found⟩ := exists_lookup_iff.mpr (List.mem_map_of_mem present)
    have same : (key, other) = (key, value) :=
      List.inj_on_of_nodup_map distinct (mem_of_lookup found) present rfl
    rw [found, (Prod.mk.inj same).2]

/-- Records whose keys are distinct are the same mapping exactly if one is the other in another
order. -/
theorem sameMapping_iff_perm {first second : List (Text × Value)}
    (distinct : (first.map Prod.fst).Nodup) (distinctSecond : (second.map Prod.fst).Nodup) :
    SameMapping first second ↔ first.Perm second := by
  rw [List.perm_ext_iff_of_nodup (.of_map Prod.fst distinct) (.of_map Prod.fst distinctSecond)]
  constructor
  · intro same member
    obtain ⟨key, value⟩ := member
    rw [← lookup_eq_some_iff_mem distinct, ← lookup_eq_some_iff_mem distinctSecond, same key]
  · intro same key
    apply Option.ext
    intro value
    rw [lookup_eq_some_iff_mem distinct, lookup_eq_some_iff_mem distinctSecond, same (key, value)]

end SelectorProse.Value
