import SelectorProse.Generator.Basic

/-!
Reading a memory after something was put into it.
-/

set_option autoImplicit false

namespace SelectorProse.Generator.Memory

variable {memory : Memory} {cell : Nat}

theorem getElem?_describers (there : cell < memory.describers.length) :
    memory.describers[cell]? = some (memory.describer cell) := by
  rw [describer, List.getElem?_eq_getElem there, Option.getD_some]

theorem getElem?_transcripts (there : cell < memory.transcripts.length) :
    memory.transcripts[cell]? = some (memory.transcript cell) := by
  rw [transcript, List.getElem?_eq_getElem there, Option.getD_some]

theorem describer_setDescriber (describer : Describer)
    (there : cell < memory.describers.length) :
    (memory.setDescriber cell describer).describer cell = describer := by
  rw [Memory.describer, setDescriber, List.getElem?_set_self there, Option.getD_some]

theorem describer_setDescriber_of_ne {other : Nat} (memory : Memory) (describer : Describer)
    (different : other ≠ cell) :
    (memory.setDescriber cell describer).describer other = memory.describer other := by
  rw [Memory.describer, setDescriber, List.getElem?_set_ne different.symm, Memory.describer]

theorem setDescriber_self (memory : Memory) (cell : Nat) :
    memory.setDescriber cell (memory.describer cell) = memory := by
  have same : memory.describers.set cell (memory.describer cell) = memory.describers := by
    by_cases there : cell < memory.describers.length
    · rw [describer, List.getElem?_eq_getElem there, Option.getD_some, List.set_getElem_self]
    · exact List.set_eq_of_length_le (Nat.le_of_not_lt there)
  rw [setDescriber, same]

theorem setDescriber_setDescriber (memory : Memory) (cell : Nat) (first second : Describer) :
    (memory.setDescriber cell first).setDescriber cell second =
      memory.setDescriber cell second := by
  rw [setDescriber, setDescriber, List.set_set, setDescriber]

theorem transcript_setTranscript (events : List Event)
    (there : cell < memory.transcripts.length) :
    (memory.setTranscript cell events).transcript cell = events := by
  rw [transcript, setTranscript, List.getElem?_set_self there, Option.getD_some]

@[simp] theorem length_setDescriber (memory : Memory) (cell : Nat) (describer : Describer) :
    (memory.setDescriber cell describer).describers.length = memory.describers.length :=
  List.length_set

@[simp] theorem length_setTranscript (memory : Memory) (cell : Nat) (events : List Event) :
    (memory.setTranscript cell events).transcripts.length = memory.transcripts.length :=
  List.length_set

@[simp] theorem describer_setTranscript (memory : Memory) (cell slot : Nat) (events : List Event) :
    (memory.setTranscript slot events).describer cell = memory.describer cell := rfl

@[simp] theorem transcript_setDescriber (memory : Memory) (cell slot : Nat)
    (describer : Describer) :
    (memory.setDescriber cell describer).transcript slot = memory.transcript slot := rfl

end SelectorProse.Generator.Memory
