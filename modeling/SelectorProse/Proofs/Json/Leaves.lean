import SelectorProse.Proofs.Json.Steps
import SelectorProse.Proofs.Value.Leaves

/-!
Where the values in a document come from. Main statement: each leaf of the value that a source is
read as is one of its tokens.
-/

set_option autoImplicit false

namespace SelectorProse.Json

open Value (itemsLeaves membersLeaves mem_itemsLeaves mem_membersLeaves)

def Frame.leaves : Frame → List Value
  | .item before => itemsLeaves before
  | .member before _ => membersLeaves before

/-- The leaves of what the reader has kept so far. -/
def State.leaves : State → List Value
  | .value outer => outer.flatMap Frame.leaves
  | .firstItem outer => outer.flatMap Frame.leaves
  | .firstKey outer => outer.flatMap Frame.leaves
  | .key before outer => membersLeaves before ++ outer.flatMap Frame.leaves
  | .colon before _ outer => membersLeaves before ++ outer.flatMap Frame.leaves
  | .afterItem items outer => itemsLeaves items ++ outer.flatMap Frame.leaves
  | .afterMember members outer => membersLeaves members ++ outer.flatMap Frame.leaves
  | .done result => result.leaves

variable {leaf : Value}

theorem mem_leaves_completed {value : Value} {outer : List Frame}
    (present : leaf ∈ (State.completed value outer).leaves) :
    leaf ∈ value.leaves ∨ leaf ∈ outer.flatMap Frame.leaves := by
  cases outer with
  | nil => exact Or.inl present
  | cons frame outer =>
    rw [List.flatMap_cons, List.mem_append]
    cases frame with
    | item before =>
      rw [State.completed, State.leaves, Value.itemsLeaves, List.append_assoc, List.mem_append,
        List.mem_append] at present
      exact present
    | member before name =>
      rw [State.completed, State.leaves, List.mem_append] at present
      rcases present with inside | further
      · exact (Value.mem_membersLeaves_put inside).imp_right Or.inl
      · exact Or.inr (Or.inr further)

/-- A token is at most one leaf. -/
theorem Token.Gives.leaves_eq {token : Token} {value : Value} (gives : token.Gives value) :
    value.leaves = [value] := by
  cases gives <;> rfl

/-- The step: a leaf was there before, or it is the token. -/
theorem Steps.mem_leaves {state next : State} {token : Token} (steps : Steps state token next)
    (present : leaf ∈ next.leaves) : leaf ∈ state.leaves ∨ token.Gives leaf := by
  induction steps with
  | given outer gives =>
    rcases mem_leaves_completed present with new | old
    · rw [gives.leaves_eq, List.mem_singleton] at new
      exact Or.inr (new ▸ gives)
    · exact Or.inl old
  | firstItem other item ih => exact ih present
  | emptyList outer | emptyRecord outer =>
    rcases mem_leaves_completed present with impossible | old
    · cases impossible
    · exact Or.inl old
  | closeList items outer =>
    rw [State.leaves, List.mem_append]
    refine Or.inl ((mem_leaves_completed present).imp_left fun inside => ?_)
    rw [Value.leaves, mem_itemsLeaves] at inside
    simpa only [List.mem_reverse, ← mem_itemsLeaves] using inside
  | closeRecord members outer =>
    rw [State.leaves, List.mem_append]
    exact Or.inl (mem_leaves_completed present)
  | _ => exact Or.inl present

/-- The run: a leaf of the result was there at the start, or it is one of the tokens. -/
theorem mem_leaves_of_run {state : State} {length : Nat} {lexemes : List Lexeme} {value : Value}
    (success : state.run length lexemes = .ok value) (present : leaf ∈ value.leaves) :
    leaf ∈ state.leaves ∨ ∃ lexeme ∈ lexemes, lexeme.token.Gives leaf := by
  induction lexemes generalizing state with
  | nil =>
    cases state with
    | done result =>
      cases Except.ok.inj success
      exact Or.inl present
    | _ => cases success
  | cons lexeme rest ih =>
    obtain ⟨next, stepped, later⟩ := run_cons_ok success
    rcases ih later with kept | ⟨other, member, gives⟩
    · refine ((steps_of_step stepped).mem_leaves kept).imp_right fun gives => ?_
      exact ⟨lexeme, List.mem_cons_self .., gives⟩
    · exact Or.inr ⟨other, List.mem_cons_of_mem _ member, gives⟩

/-- Each leaf of a document is one of its tokens. -/
theorem mem_leaves_of_read {source : Text} {value : Value} (success : read source = .ok value)
    (present : leaf ∈ value.leaves) : ∃ token ∈ tokens source, token.Gives leaf := by
  rcases mem_leaves_of_run (run_of_read success) present with impossible | ⟨lexeme, member, gives⟩
  · cases impossible
  · exact ⟨lexeme.token, List.mem_map_of_mem member, gives⟩

end SelectorProse.Json
