import SelectorProse.Proofs.Describer.Refusal
import SelectorProse.Proofs.Session.Reachable

/-!
Describers behind tees. Main statement: if its values can be written out, a tee refuses an event
exactly if each describer behind it does, so that every describer is led where it would go alone.
-/

set_option autoImplicit false

namespace SelectorProse.Generator

/-- Tees with nothing but describers at their ends, and the cells of these from left to right. -/
inductive TeeOver : Generator → List Nat → Prop where
  | describer (cell : Nat) : TeeOver (.describer cell) [cell]
  | tee {primary secondary : Generator} {front back : List Nat}
    (first : TeeOver primary front) (second : TeeOver secondary back) :
    TeeOver (.tee primary secondary) (front ++ back)

/-- The memory after events were given to a generator one by one, whatever became of each. -/
def callAll (generator : Generator) : List Event → Memory → Memory
  | [], memory => memory
  | event :: rest, memory => generator.callAll rest (generator.call event memory).1

theorem TeeOver.flatten_eq {generator : Generator} {cells : List Nat}
    (tree : generator.TeeOver cells) : generator.flatten = cells.map Action.describe := by
  induction tree with
  | describer cell => rfl
  | tee first second ihFirst ihSecond => rw [flatten, ihFirst, ihSecond, List.map_append]

theorem TeeOver.ne_nil {generator : Generator} {cells : List Nat}
    (tree : generator.TeeOver cells) : cells ≠ [] := by
  induction tree with
  | describer cell => exact List.cons_ne_nil cell []
  | tee first second nonempty _ => exact List.append_ne_nil_of_left_ne_nil nonempty _

theorem TeeOver.within_iff {generator : Generator} {cells : List Nat} {memory : Memory}
    (tree : generator.TeeOver cells) :
    generator.Within memory ↔ ∀ cell ∈ cells, cell < memory.describers.length := by
  rw [Within, tree.flatten_eq, List.forall_mem_map]
  exact Iff.rfl

/-- Tees over describers of a memory that are all different. -/
structure Spreads (memory : Memory) (generator : Generator) (cells : List Nat) : Prop where
  tree : generator.TeeOver cells
  distinct : cells.Nodup
  within : generator.Within memory

section

variable {event : Event} {memory : Memory} {cell : Nat}

theorem perform_describe_of_accepted
    (accepted : event.fault? (memory.describer cell).config.isLegacy = none) :
    Action.perform memory event (.describe cell) =
      (memory.setDescriber cell ((memory.describer cell).call event).1, none) := by
  rw [← Describer.fault_call] at accepted
  rcases called : (memory.describer cell).call event with ⟨next, fault⟩
  rw [called] at accepted
  cases accepted
  exact Action.perform_describe_of_none called

theorem perform_describe_of_refused {fault : SelectorProse.Fault}
    (failed : event.fault? (memory.describer cell).config.isLegacy = some fault) :
    Action.perform memory event (.describe cell) = (memory, some (.describer fault)) :=
  Action.perform_describe_of_some (Describer.call_of_fault failed)

/-- An event that no describer refuses changes each of these once and leaves the others alone. -/
theorem performAll_describe {cells : List Nat} (distinct : cells.Nodup)
    (within : ∀ cell ∈ cells, cell < memory.describers.length)
    (accepted : ∀ legacy, event.fault? legacy = none) :
    ∃ next, performAll event (cells.map .describe) memory = (next, none) ∧
      (∀ cell ∈ cells, next.describer cell = ((memory.describer cell).call event).1) ∧
      ∀ cell, cell ∉ cells → next.describer cell = memory.describer cell := by
  induction cells generalizing memory with
  | nil => exact ⟨memory, rfl, List.forall_mem_nil _, fun _ _ => rfl⟩
  | cons cell rest ih =>
    rw [List.nodup_cons] at distinct
    rw [List.forall_mem_cons] at within
    let middle := memory.setDescriber cell ((memory.describer cell).call event).1
    have performed : Action.perform memory event (.describe cell) = (middle, none) :=
      perform_describe_of_accepted (accepted _)
    have kept (other : Nat) (different : other ≠ cell) :
        middle.describer other = memory.describer other :=
      Memory.describer_setDescriber_of_ne memory _ different
    have remaining : ∀ other ∈ rest, other < middle.describers.length := by
      rw [Memory.length_setDescriber]
      exact within.2
    obtain ⟨next, run, changed, outside⟩ := ih distinct.2 remaining
    refine ⟨next, ?_, List.forall_mem_cons.mpr ⟨?_, ?_⟩, ?_⟩
    · rw [List.map_cons, performAll_cons_of_none _ performed, run]
    · rw [outside cell distinct.1]
      exact Memory.describer_setDescriber _ within.1
    · intro other member
      rw [changed other member, kept other (ne_of_mem_of_not_mem member distinct.1)]
    · intro other absent
      rw [List.mem_cons, not_or] at absent
      rw [outside other absent.2, kept other absent.1]

end

namespace Spreads

variable {generator : Generator} {cells : List Nat} {memory : Memory} {event : Event} {cell : Nat}

theorem lt_length (spreads : generator.Spreads memory cells) :
    ∀ cell ∈ cells, cell < memory.describers.length :=
  spreads.tree.within_iff.mp spreads.within

/-- A describer alone. -/
theorem describer (there : cell < memory.describers.length) :
    (Generator.describer cell).Spreads memory [cell] :=
  ⟨.describer cell, List.pairwise_singleton _ cell,
    (TeeOver.describer cell).within_iff.mpr (List.forall_mem_singleton.mpr there)⟩

theorem call (spreads : generator.Spreads memory cells) (event : Event) :
    generator.Spreads (generator.call event memory).1 cells :=
  ⟨spreads.tree, spreads.distinct, spreads.within.grows (.call memory event generator)⟩

/-- The step: every describer accepts the event and changes as it would alone, or none does and
nothing changes. -/
theorem call_cases (spreads : generator.Spreads memory cells) (writable : event.Writable)
    (shallow : event.Shallow) :
    (∃ next, event.fault? false = none ∧ generator.call event memory = (next, none) ∧
      ∀ cell ∈ cells, next.describer cell = ((memory.describer cell).call event).1) ∨
    ∃ fault, event.fault? false = some fault ∧
      generator.call event memory = (memory, some (.describer fault)) := by
  have alike (legacy : Bool) : event.fault? legacy = event.fault? false :=
    Event.fault?_congr writable shallow legacy false
  rw [call_eq_performAll, spreads.tree.flatten_eq]
  cases checked : event.fault? false with
  | none =>
    have accepted (legacy : Bool) : event.fault? legacy = none := (alike legacy).trans checked
    obtain ⟨next, run, changed, -⟩ :=
      performAll_describe spreads.distinct spreads.lt_length accepted
    exact .inl ⟨next, rfl, run, changed⟩
  | some fault =>
    -- The leftmost describer is asked first, and its fault ends the call.
    obtain ⟨cell, rest, rfl⟩ := List.exists_cons_of_ne_nil spreads.tree.ne_nil
    have refused : Action.perform memory event (.describe cell) =
        (memory, some (.describer fault)) :=
      perform_describe_of_refused ((alike _).trans checked)
    exact .inr ⟨fault, rfl, performAll_cons_of_some _ refused⟩

theorem fault_call (spreads : generator.Spreads memory cells) (writable : event.Writable)
    (shallow : event.Shallow) :
    (generator.call event memory).2 = (event.fault? false).map .describer := by
  rcases spreads.call_cases writable shallow with
    ⟨next, accepted, called, -⟩ | ⟨fault, failed, called⟩
  · rw [called, accepted, Option.map_none]
  · rw [called, failed, Option.map_some]

theorem describer_call (spreads : generator.Spreads memory cells) (writable : event.Writable)
    (shallow : event.Shallow) (member : cell ∈ cells) :
    (generator.call event memory).1.describer cell = ((memory.describer cell).call event).1 := by
  rcases spreads.call_cases writable shallow with
    ⟨next, -, called, changed⟩ | ⟨fault, failed, called⟩
  · rw [called, changed cell member]
  · rw [← Event.fault?_congr writable shallow (memory.describer cell).config.isLegacy] at failed
    rw [called, Describer.call_of_fault failed]

/-- The run: what a call keeps of two describers, calls of the generators before them keep. -/
theorem callAll_related {related : Describer → Describer → Prop}
    (kept : ∀ first second event, related first second →
      related (first.call event).1 (second.call event).1)
    {other : Generator} {others : List Nat} {copy : Memory} {twin : Nat} {events : List Event}
    (spreads : generator.Spreads memory cells) (alongside : other.Spreads copy others)
    (member : cell ∈ cells) (present : twin ∈ others)
    (insertable : ∀ event ∈ events, event.Writable ∧ event.Shallow)
    (start : related (memory.describer cell) (copy.describer twin)) :
    related ((generator.callAll events memory).describer cell)
      ((other.callAll events copy).describer twin) := by
  induction events generalizing memory copy with
  | nil => exact start
  | cons event rest ih =>
    rw [List.forall_mem_cons] at insertable
    obtain ⟨⟨writable, shallow⟩, remaining⟩ := insertable
    refine ih (spreads.call event) (alongside.call event) remaining ?_
    rw [spreads.describer_call writable shallow member,
      alongside.describer_call writable shallow present]
    exact kept _ _ event start

end Spreads

/-- Describers that fill the template in or not. The second was left in the middle of a walk. -/
def unevenMemory : Memory where
  describers := [
    {}, { config := { legacyDashMatch := .int 1 }, text := [.ofChar 'x'], chained := true },
    { config := { legacyDashMatch := .text [] } }]

def unevenTee : Generator := .tee (.describer 1) (.tee (.describer 2) (.describer 0))

/-- The third event has no value to compare with. -/
def unevenWalk : List Event := [
  .descendant, .attributeMatch .dashMatch (.int 7) (.list []),
  .attributeMatch .dashMatch (.int 7) .null, .close]

/-- A comparison under a name that is nested too deeply. -/
def deepMatch : Event := .attributeMatch .dashMatch (Value.nestedList 4999) (.text [.ofChar 'v'])

theorem fault?_deepMatch : deepMatch.fault? false = some (.unwritable .tooDeep) := by
  have named : (Value.nestedList 4999).isTruthy = true := Value.isTruthy_nestedList_succ 4998
  have present : Value.text [.ofChar 'v'] ≠ .null := nofun
  rw [deepMatch, Event.fault?_attributeMatch false .dashMatch named present, Event.insertedValues,
    if_neg (by decide), Event.insertionFault?, List.findSome?_cons,
    Value.obstacle?_nestedList (by decide)]
  rfl

end SelectorProse.Generator
