import SelectorProse.Json.Reader
import SelectorProse.Proofs.Json.Extent

/-!
What one token can do to the reader, and what a whole run keeps. Main statement: runs over tokens
that are alike end alike; they differ at most in what is malformed, and where.
-/

set_option autoImplicit false

namespace SelectorProse.Json

/-- The token is a value by itself. -/
inductive Token.Gives : Token → Value → Prop
  | null : Gives .null .null
  | bool (b : Bool) : Gives (.bool b) (.bool b)
  | float (x : Binary64) : Gives (.float x) (.float x)
  | text (t : Text) : Gives (.text t) (.text t)
  | int (negative : Bool) {digits : Text} (short : digits.length ≤ Text.digitLimit) :
    Gives (.int negative digits) (.int (ofSignedDigits negative digits))

/-- Every way to go on with a token. -/
inductive Steps : State → Token → State → Prop
  | given {token : Token} {value : Value} (outer : List Frame) (gives : token.Gives value) :
    Steps (.value outer) token (.completed value outer)
  | openList {outer : List Frame} (room : outer.length < Value.nestingLimit) :
    Steps (.value outer) .openList (.firstItem outer)
  | openRecord {outer : List Frame} (room : outer.length < Value.nestingLimit) :
    Steps (.value outer) .openRecord (.firstKey outer)
  | emptyList (outer : List Frame) :
    Steps (.firstItem outer) .closeList (.completed (.list []) outer)
  | firstItem {outer : List Frame} {token : Token} {next : State} (other : token ≠ .closeList)
    (item : Steps (.value (.item [] :: outer)) token next) : Steps (.firstItem outer) token next
  | emptyRecord (outer : List Frame) :
    Steps (.firstKey outer) .closeRecord (.completed (.record []) outer)
  | firstKey (outer : List Frame) (name : Text) :
    Steps (.firstKey outer) (.text name) (.colon [] name outer)
  | key (before : List (Text × Value)) (outer : List Frame) (name : Text) :
    Steps (.key before outer) (.text name) (.colon before name outer)
  | colon (before : List (Text × Value)) (name : Text) (outer : List Frame) :
    Steps (.colon before name outer) .colon (.value (.member before name :: outer))
  | nextItem (items : List Value) (outer : List Frame) :
    Steps (.afterItem items outer) .comma (.value (.item items :: outer))
  | closeList (items : List Value) (outer : List Frame) :
    Steps (.afterItem items outer) .closeList (.completed (.list items.reverse) outer)
  | nextMember (members : List (Text × Value)) (outer : List Frame) :
    Steps (.afterMember members outer) .comma (.key members outer)
  | closeRecord (members : List (Text × Value)) (outer : List Frame) :
    Steps (.afterMember members outer) .closeRecord (.completed (.record members) outer)

theorem steps_of_begin {outer : List Frame} {lexeme : Lexeme} {next : State}
    (success : State.begin outer lexeme = .ok next) :
    Steps (.value outer) lexeme.token next := by
  obtain ⟨token, start⟩ := lexeme
  cases token with
  | null | bool _ | float _ | text _ =>
    cases Except.ok.inj success
    exact .given outer (by constructor)
  | int negative digits =>
    change (if digits.length ≤ Text.digitLimit then _ else _) = _ at success
    split at success
    · rename_i short
      cases Except.ok.inj success
      exact .given outer (.int negative short)
    · cases success
  | openList =>
    change (if outer.length < Value.nestingLimit then _ else _) = _ at success
    split at success
    · rename_i room
      cases Except.ok.inj success
      exact .openList room
    · cases success
  | openRecord =>
    change (if outer.length < Value.nestingLimit then _ else _) = _ at success
    split at success
    · rename_i room
      cases Except.ok.inj success
      exact .openRecord room
    · cases success
  | _ => cases success

/-- The reader goes on in one of these ways or not at all. -/
theorem steps_of_step {state next : State} {lexeme : Lexeme}
    (success : state.step lexeme = .ok next) : Steps state lexeme.token next := by
  cases state with
  | value outer => exact steps_of_begin success
  | firstItem outer =>
    rw [State.step] at success
    split at success
    · rename_i closes
      cases Except.ok.inj success
      rw [closes]
      exact .emptyList outer
    · exact .firstItem ‹_› (steps_of_begin success)
  | firstKey outer =>
    rw [State.step] at success
    split at success
    · rename_i closes
      cases Except.ok.inj success
      rw [closes]
      exact .emptyRecord outer
    · obtain ⟨token, start⟩ := lexeme
      cases token with
      | text name =>
        cases Except.ok.inj success
        exact .firstKey outer name
      | _ => cases success
  | key before outer =>
    obtain ⟨token, start⟩ := lexeme
    cases token with
    | text name =>
      cases Except.ok.inj success
      exact .key before outer name
    | _ => cases success
  | colon before name outer =>
    rw [State.step] at success
    split at success
    · rename_i colon
      cases Except.ok.inj success
      rw [colon]
      exact .colon before name outer
    · cases success
  | afterItem items outer =>
    obtain ⟨token, start⟩ := lexeme
    cases token with
    | comma =>
      cases Except.ok.inj success
      exact .nextItem items outer
    | closeList =>
      cases Except.ok.inj success
      exact .closeList items outer
    | _ => cases success
  | afterMember members outer =>
    obtain ⟨token, start⟩ := lexeme
    cases token with
    | comma =>
      cases Except.ok.inj success
      exact .nextMember members outer
    | closeRecord =>
      cases Except.ok.inj success
      exact .closeRecord members outer
    | _ => cases success
  | done result => cases success

/-- Only tokens of a document lead on. -/
theorem Steps.isSound {state next : State} {token : Token} (steps : Steps state token next) :
    token.isSound = true := by
  induction steps with
  | given outer gives => cases gives <;> rfl
  | firstItem other item ih => exact ih
  | _ => rfl

theorem run_cons_ok {state : State} {length : Nat} {lexeme : Lexeme} {rest : List Lexeme}
    {value : Value} (success : state.run length (lexeme :: rest) = .ok value) :
    ∃ next, state.step lexeme = .ok next ∧ next.run length rest = .ok value := by
  rw [State.run] at success
  split at success
  · exact ⟨_, ‹_›, success⟩
  · cases success

/-- A document is read from its tokens, and none of them is broken. -/
theorem isSound_of_run {state : State} {length : Nat} {lexemes : List Lexeme} {value : Value}
    (success : state.run length lexemes = .ok value) :
    ∀ lexeme ∈ lexemes, lexeme.token.isSound = true := by
  induction lexemes generalizing state with
  | nil => exact List.forall_mem_nil _
  | cons lexeme rest ih =>
    obtain ⟨next, stepped, later⟩ := run_cons_ok success
    exact List.forall_mem_cons.mpr ⟨(steps_of_step stepped).isSound, ih later⟩

theorem run_of_read {source : Text} {value : Value} (success : read source = .ok value) :
    (State.value []).run source.length (lex 0 source) = .ok value := by
  rw [read] at success
  split at success
  · cases success
  · exact success

theorem isSound_of_read {source : Text} {value : Value} (success : read source = .ok value) :
    ∀ token ∈ tokens source, token.isSound = true := by
  rw [tokens, List.forall_mem_map]
  exact isSound_of_run (run_of_read success)

/-- Outcomes that differ at most in what is malformed, and where. -/
inductive Alike {α : Type} : Except Fault α → Except Fault α → Prop
  | refl (outcome : Except Fault α) : Alike outcome outcome
  | malformed (problem other : Problem) (offset place : Nat) :
    Alike (.error (.malformed problem offset)) (.error (.malformed other place))

/-- The token as far as it decides what comes next: how a broken one is broken does not. -/
def Token.blurred (token : Token) : Token := if token.isSound then token else .unknown

theorem begin_alike (outer : List Frame) (token : Token) (start place : Nat) :
    Alike (State.begin outer ⟨token, start⟩) (State.begin outer ⟨token, place⟩) := by
  cases token with
  | brokenText problem distance => exact .malformed ..
  | unknown | closeList | closeRecord | comma | colon => exact .malformed ..
  | _ => exact .refl _

theorem beginKey_alike (before : List (Text × Value)) (outer : List Frame) (token : Token)
    (start place : Nat) :
    Alike (State.beginKey before outer ⟨token, start⟩)
      (State.beginKey before outer ⟨token, place⟩) := by
  cases token with
  | text name => exact .refl _
  | _ => exact .malformed ..

/-- Where a token stands decides at most the place of a fault. -/
theorem step_alike (state : State) (token : Token) (start place : Nat) :
    Alike (state.step ⟨token, start⟩) (state.step ⟨token, place⟩) := by
  cases state with
  | value outer => exact begin_alike outer token start place
  | firstItem outer =>
    rw [State.step, State.step]
    split
    · exact .refl _
    · exact begin_alike _ token start place
  | firstKey outer =>
    rw [State.step, State.step]
    split
    · exact .refl _
    · exact beginKey_alike _ outer token start place
  | key before outer => exact beginKey_alike before outer token start place
  | colon before name outer =>
    rw [State.step, State.step]
    split
    · exact .refl _
    · exact .malformed ..
  | afterItem items outer =>
    cases token with
    | comma | closeList => exact .refl _
    | _ => exact .malformed ..
  | afterMember members outer =>
    cases token with
    | comma | closeRecord => exact .refl _
    | _ => exact .malformed ..
  | done result => exact .malformed ..

/-- At a broken token every document is malformed. -/
theorem step_of_not_isSound (state : State) {lexeme : Lexeme}
    (broken : lexeme.token.isSound = false) :
    ∃ problem offset, state.step lexeme = .error (.malformed problem offset) := by
  obtain ⟨token, start⟩ := lexeme
  cases token with
  | brokenText problem distance => cases state <;> exact ⟨_, _, rfl⟩
  | unknown => cases state <;> exact ⟨_, _, rfl⟩
  | _ => cases broken

theorem finish_alike (state : State) (offset place : Nat) :
    Alike (state.finish offset) (state.finish place) := by
  cases state with
  | done result => exact .refl _
  | _ => exact .malformed ..

theorem Token.eq_or_broken_of_blurred {token other : Token}
    (same : token.blurred = other.blurred) :
    token = other ∨ token.isSound = false ∧ other.isSound = false := by
  rw [blurred, blurred] at same
  cases first : token.isSound with
  | false =>
    cases second : other.isSound with
    | false => exact Or.inr ⟨rfl, rfl⟩
    | true =>
      rw [first, second, if_neg Bool.false_ne_true, if_pos rfl] at same
      rw [← same] at second
      cases second
  | true =>
    rw [first, if_pos rfl] at same
    split at same
    · exact Or.inl same
    · rw [same] at first
      cases first

theorem step_alike_of_blurred (state : State) {lexeme other : Lexeme}
    (same : lexeme.token.blurred = other.token.blurred) :
    Alike (state.step lexeme) (state.step other) := by
  rcases Token.eq_or_broken_of_blurred same with equal | ⟨first, second⟩
  · obtain ⟨token, start⟩ := lexeme
    obtain ⟨_, place⟩ := other
    cases equal
    exact step_alike state token start place
  · obtain ⟨_, _, failed⟩ := step_of_not_isSound state first
    obtain ⟨_, _, otherFailed⟩ := step_of_not_isSound state second
    rw [failed, otherFailed]
    exact .malformed ..

/-- Runs over tokens that are alike end alike. -/
theorem run_alike (length size : Nat) {state : State} {lexemes others : List Lexeme}
    (same : lexemes.map (·.token.blurred) = others.map (·.token.blurred)) :
    Alike (state.run length lexemes) (state.run size others) := by
  induction lexemes generalizing state others with
  | nil =>
    rw [List.map_nil] at same
    rw [List.map_eq_nil_iff.mp same.symm]
    exact finish_alike state length size
  | cons lexeme rest ih =>
    obtain ⟨other, behind, rfl, token, later⟩ := List.map_eq_cons_iff.mp same.symm
    have stepped := step_alike_of_blurred state token.symm
    rw [State.run, State.run]
    generalize state.step lexeme = first at stepped
    generalize state.step other = second at stepped
    cases stepped with
    | malformed => exact .malformed ..
    | refl =>
      cases first with
      | ok next => exact ih later.symm
      | error fault => exact .refl _

end SelectorProse.Json
