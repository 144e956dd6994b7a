import SelectorProse.Proofs.Json.Source

/-!
How deep documents go. Main statement: whatever is read can be written out.
-/

set_option autoImplicit false

namespace SelectorProse.Json

open Value (nestingLimit itemsNesting membersNesting)

def Frame.nesting : Frame → Nat
  | .item before => itemsNesting before
  | .member before _ => membersNesting before

/-- There was room for each open list and record, and for what it holds so far. -/
def Fit : List Frame → Prop
  | [] => True
  | frame :: outer => frame.nesting + (outer.length + 1) ≤ nestingLimit ∧ Fit outer

/-- There was room for all that the reader has kept. -/
def State.Fits : State → Prop
  | .value outer => Fit outer
  | .firstItem outer => Fit (.item [] :: outer)
  | .firstKey outer => Fit (.member [] [] :: outer)
  | .key before outer => Fit (.member before [] :: outer)
  | .colon before name outer => Fit (.member before name :: outer)
  | .afterItem items outer => Fit (.item items :: outer)
  | .afterMember members outer => Fit (.member members [] :: outer)
  | .done result => result.nesting ≤ nestingLimit

theorem Fit.length_le {outer : List Frame} (fit : Fit outer) : outer.length ≤ nestingLimit := by
  cases outer with
  | nil => exact Nat.zero_le _
  | cons frame outer =>
    have room := fit.1
    rw [List.length_cons]
    omega

theorem Fit.completed {value : Value} {outer : List Frame} (fit : Fit outer)
    (room : value.nesting + outer.length ≤ nestingLimit) :
    (State.completed value outer).Fits := by
  cases outer with
  | nil => exact room
  | cons frame outer =>
    obtain ⟨inside, outside⟩ := fit
    rw [List.length_cons] at room
    cases frame with
    | item before =>
      refine ⟨?_, outside⟩
      simp only [Frame.nesting, itemsNesting] at inside ⊢
      omega
    | member before name =>
      have grown := Value.membersNesting_put_le name value before
      refine ⟨?_, outside⟩
      simp only [Frame.nesting] at inside ⊢
      omega

theorem Token.Gives.nesting_eq_zero {token : Token} {value : Value} (gives : token.Gives value) :
    value.nesting = 0 := by
  cases gives <;> rfl

/-- The step: a list or a record is opened only where there is room. -/
theorem Steps.fits {state next : State} {token : Token} (steps : Steps state token next)
    (fits : state.Fits) : next.Fits := by
  induction steps with
  | given outer gives =>
    refine Fit.completed fits ?_
    rw [gives.nesting_eq_zero, Nat.zero_add]
    exact Fit.length_le fits
  | openList room | openRecord room =>
    refine ⟨?_, fits⟩
    simp only [Frame.nesting, itemsNesting, membersNesting]
    omega
  | firstItem other item ih => exact ih fits
  | emptyList outer | emptyRecord outer =>
    refine fits.2.completed ?_
    rw [Nat.add_comm]
    exact Fit.length_le fits
  | closeList items outer =>
    have inside : itemsNesting items + (outer.length + 1) ≤ nestingLimit := fits.1
    have reversed := Value.itemsNesting_reverse_le items
    refine fits.2.completed ?_
    rw [Value.nesting]
    omega
  | closeRecord members outer =>
    have inside : membersNesting members + (outer.length + 1) ≤ nestingLimit := fits.1
    refine fits.2.completed ?_
    rw [Value.nesting]
    omega
  | _ => exact fits

/-- The run: where there was room at the start, there was room for the result. -/
theorem nesting_of_run {state : State} {length : Nat} {lexemes : List Lexeme} {value : Value}
    (success : state.run length lexemes = .ok value) (fits : state.Fits) :
    value.nesting ≤ nestingLimit := by
  induction lexemes generalizing state with
  | nil =>
    cases state with
    | done result =>
      cases Except.ok.inj success
      exact fits
    | _ => cases success
  | cons lexeme rest ih =>
    obtain ⟨next, stepped, later⟩ := run_cons_ok success
    exact ih later ((steps_of_step stepped).fits fits)

theorem nesting_of_read {source : Text} {value : Value} (success : read source = .ok value) :
    value.nesting ≤ nestingLimit :=
  nesting_of_run (run_of_read success) trivial

/-- Neither its numbers nor its nesting keep what was read from being written out. -/
theorem obstacle?_of_read {source : Text} {value : Value} (success : read source = .ok value) :
    value.obstacle? = none := by
  refine Value.obstacle?_eq_none_iff.mpr ⟨Value.isWritable_of_leaves ?_, nesting_of_read success⟩
  exact fun leaf present => isWritable_of_read success present

end SelectorProse.Json
