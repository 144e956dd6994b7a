import SelectorProse.Proofs.Json.Reread
import SelectorProse.Proofs.Json.Steps

/-!
Documents inside documents. Inside further lists and records a reader goes on as it does outside of
them, unless it is then too deep. Main statement: a record that is spelt by keys and documents is
read as the members that these are read as, unless it is nested too deeply.
-/

set_option autoImplicit false

namespace SelectorProse.Json

/-- The state of a reader around which these lists and records are open as well. -/
def State.inside (outer : List Frame) : State → State
  | .value frames => .value (frames ++ outer)
  | .firstItem frames => .firstItem (frames ++ outer)
  | .firstKey frames => .firstKey (frames ++ outer)
  | .key before frames => .key before (frames ++ outer)
  | .colon before name frames => .colon before name (frames ++ outer)
  | .afterItem items frames => .afterItem items (frames ++ outer)
  | .afterMember members frames => .afterMember members (frames ++ outer)
  | .done result => .completed result outer

theorem inside_completed (outer : List Frame) (result : Value) (frames : List Frame) :
    (State.completed result frames).inside outer = .completed result (frames ++ outer) := by
  cases frames with
  | nil => rfl
  | cons frame frames => cases frame <;> rfl

/-- There are more lists and records inside one another than are read. -/
def TooDeep {α : Type} (outcome : Except Fault α) : Prop :=
  ∃ container, outcome = .error (.tooDeep container)

/-- What is read is not too deep. -/
theorem not_tooDeep_of_isOk {α : Type} {outcome : Except Fault α} (success : outcome.isOk = true) :
    ¬ TooDeep outcome := by
  rintro ⟨container, rfl⟩
  cases success

section

variable {state next : State} {token : Token}

theorem Steps.step_eq (steps : Steps state token next) (start : Nat) :
    state.step ⟨token, start⟩ = .ok next := by
  induction steps with
  | given outer gives =>
    cases gives with
    | int negative short => exact if_pos short
    | _ => rfl
  | openList room => exact if_pos room
  | openRecord room => exact if_pos room
  | firstItem other item ih => exact (if_neg other).trans ih
  | _ => rfl

/-- One token does the same inside further lists and records, where there is room. -/
theorem Steps.inside (steps : Steps state token next) (outer : List Frame) (start : Nat) :
    (state.inside outer).step ⟨token, start⟩ = .ok (next.inside outer) ∨
      TooDeep ((state.inside outer).step ⟨token, start⟩) := by
  induction steps with
  | given frames gives =>
    rw [inside_completed]
    exact Or.inl ((Steps.given (frames ++ outer) gives).step_eq start)
  | openList room =>
    rename_i frames
    by_cases inner : (frames ++ outer).length < Value.nestingLimit
    · exact Or.inl ((Steps.openList inner).step_eq start)
    · exact Or.inr ⟨.list, if_neg inner⟩
  | openRecord room =>
    rename_i frames
    by_cases inner : (frames ++ outer).length < Value.nestingLimit
    · exact Or.inl ((Steps.openRecord inner).step_eq start)
    · exact Or.inr ⟨.record, if_neg inner⟩
  | firstItem other item ih =>
    rename_i frames token next
    have same : ((State.firstItem frames).inside outer).step ⟨token, start⟩ =
        ((State.value (.item [] :: frames)).inside outer).step ⟨token, start⟩ := if_neg other
    rw [same]
    exact ih
  | emptyList frames | emptyRecord frames | closeList _ frames | closeRecord _ frames =>
    rw [inside_completed]
    exact Or.inl rfl
  | _ => exact Or.inl rfl

end

/-- From one state these tokens lead to another, wherever they stand and whatever follows, unless
they lead too deep. -/
def Reaches (state : State) (found : List Token) (next : State) : Prop :=
  ∀ (length : Nat) (lexemes rest : List Lexeme), lexemes.map Lexeme.token = found →
    state.run length (lexemes ++ rest) = next.run length rest ∨
      TooDeep (state.run length (lexemes ++ rest))

section

variable {state next final : State} {token : Token} {found others : List Token}

theorem Reads.reaches (reads : Reads state found next) : Reaches state found next :=
  fun length lexemes rest same => Or.inl (reads length lexemes rest same)

theorem Reaches.append (first : Reaches state found next) (second : Reaches next others final) :
    Reaches state (found ++ others) final := by
  intro length lexemes rest same
  obtain ⟨front, back, rfl, frontSame, backSame⟩ := List.map_eq_append_iff.mp same
  rw [List.append_assoc]
  rcases first length front (back ++ rest) frontSame with run | deep
  · rw [run]
    exact second length back rest backSame
  · exact Or.inr deep

theorem Reaches.cons (first : Reads state [token] next) (second : Reaches next others final) :
    Reaches state (token :: others) final :=
  first.reaches.append second

/-- A run that ends with a value leads inside further lists and records to their next state. -/
theorem reaches_of_run {length : Nat} {lexemes : List Lexeme} {value : Value}
    (success : state.run length lexemes = .ok value) (outer : List Frame) :
    Reaches (state.inside outer) (lexemes.map Lexeme.token) (.completed value outer) := by
  induction lexemes generalizing state with
  | nil =>
    intro size others rest same
    rw [List.map_eq_nil_iff.mp same]
    cases state with
    | done result =>
      cases Except.ok.inj success
      exact Or.inl rfl
    | _ => cases success
  | cons lexeme lexemes ih =>
    obtain ⟨next, stepped, later⟩ := run_cons_ok success
    intro size others rest same
    obtain ⟨⟨_, start⟩, behind, rfl, rfl, follow⟩ := List.map_eq_cons_iff.mp same
    rw [List.cons_append, State.run]
    rcases (steps_of_step stepped).inside outer start with inside | ⟨container, deep⟩
    · rw [inside]
      exact ih later size behind rest follow
    · rw [deep]
      exact Or.inr ⟨container, rfl⟩

end

/-- A document is read alike inside further lists and records. -/
theorem reaches_document {source : Text} {value : Value} (success : read source = .ok value)
    (outer : List Frame) : Reaches (.value outer) (tokens source) (.completed value outer) :=
  reaches_of_run (run_of_read success) outer

/-- A member as it is spelt by its key and a document. -/
def memberSpelling (member : Text × Text) : Text := member.1 ++ CodePoint.ofChar ':' :: member.2

/-- A record as it is spelt by keys and documents. -/
def recordSpelling (members : List (Text × Text)) : Text :=
  CodePoint.ofChar '\x7b' ::
    (Text.join [','] (members.map memberSpelling) ++ [CodePoint.ofChar '\x7d'])

/-- The key is spelt in any way, and the document is one by itself; blanks may stand around both. -/
structure SpellsMember (member : Text × Text) (result : Text × Value) : Prop where
  key : tokens member.1 = [.text result.1]
  document : read member.2 = .ok result.2

theorem SpellsMember.tokens_append {member : Text × Text} {result : Text × Value}
    (spells : SpellsMember member result) {tail : Text} (delimited : Delimited tail) :
    tokens (memberSpelling member ++ tail) =
      (.text result.1 :: .colon :: tokens member.2) ++ tokens tail := by
  have keySound : ∀ token ∈ tokens member.1, token.isSound = true := by
    rw [spells.key]
    exact List.forall_mem_singleton.mpr rfl
  have colon : Delimited (CodePoint.ofChar ':' :: (member.2 ++ tail)) :=
    delimited_cons _ (by decide)
  rw [memberSpelling, List.append_assoc, List.cons_append, Json.tokens_append colon keySound,
    spells.key, tokens_colon, Json.tokens_append delimited (isSound_of_read spells.document)]
  rfl

theorem SpellsMember.reaches {member : Text × Text} {result : Text × Value}
    (spells : SpellsMember member result) (before : List (Text × Value)) (outer : List Frame) :
    Reaches (.key before outer) (.text result.1 :: .colon :: tokens member.2)
      (.afterMember (Value.put result.1 result.2 before) outer) := by
  have value := reaches_document spells.document (.member before result.1 :: outer)
  exact .cons (reads_key outer before result.1) (.cons (reads_colon outer before result.1) value)

/-- Members with commas between them: their tokens, whatever delimiter follows, and where these
lead. -/
theorem exists_tokens_members {members : List (Text × Text)} {results : List (Text × Value)}
    (spelt : List.Forall₂ SpellsMember members results) (some : members ≠ [])
    (before : List (Text × Value)) (outer : List Frame) :
    ∃ name more, (∀ tail, Delimited tail →
        tokens (Text.join [','] (members.map memberSpelling) ++ tail) =
          (.text name :: more) ++ tokens tail) ∧
      Reaches (.key before outer) (.text name :: more)
        (.afterMember (Value.putAll results before) outer) := by
  induction spelt generalizing before with
  | nil => exact absurd rfl some
  | cons first others ih =>
    rename_i member result members results
    have here := first.reaches before outer
    cases others with
    | nil => exact ⟨_, _, fun tail => first.tokens_append, here⟩
    | cons second others =>
      rename_i next members nextResult results
      obtain ⟨name, more, spelling, later⟩ :=
        ih (List.cons_ne_nil _ _) (Value.put result.1 result.2 before)
      have comma : Reads (.afterMember (Value.put result.1 result.2 before) outer) [.comma]
          (.key (Value.put result.1 result.2 before) outer) := reads_one fun _ => rfl
      refine ⟨result.1, (.colon :: tokens member.2) ++ .comma :: .text name :: more,
        fun tail delimited => ?_, here.append (.cons comma later)⟩
      have behind (rest : Text) : Delimited (CodePoint.ofChar ',' :: rest) :=
        delimited_cons rest (by decide)
      rw [List.map_cons, List.map_cons, Text.join_cons_cons, List.append_assoc, List.append_assoc,
        List.singleton_append, first.tokens_append (behind _), tokens_comma]
      rw [List.map_cons] at spelling
      rw [spelling tail delimited]
      simp only [List.append_assoc, List.cons_append]

theorem reaches_firstKey {outer : List Frame} {next : State} {name : Text} {more : List Token}
    (reaches : Reaches (.key [] outer) (.text name :: more) next) :
    Reaches (.firstKey outer) (.text name :: more) next := by
  intro length lexemes rest same
  have before := reaches length lexemes rest same
  obtain ⟨⟨_, start⟩, behind, rfl, rfl, -⟩ := List.map_eq_cons_iff.mp same
  exact before

/-- A record of documents is read as its members, put in one after another. -/
theorem read_recordSpelling {members : List (Text × Text)} {results : List (Text × Value)}
    (spelt : List.Forall₂ SpellsMember members results) :
    read (recordSpelling members) = .ok (.record (Value.putAll results [])) ∨
      TooDeep (read (recordSpelling members)) := by
  have opened := reads_openRecord [] (by decide)
  have whole : Reaches (.value []) (tokens (recordSpelling members))
      (.done (.record (Value.putAll results []))) := by
    have start (rest : Text) :
        tokens (CodePoint.ofChar '\x7b' :: rest) = .openRecord :: tokens rest :=
      tokens_punctuation rfl (by decide) rest
    have last : tokens [CodePoint.ofChar '\x7d'] = [.closeRecord] := by
      rw [tokens_punctuation rfl (by decide), tokens_nil]
    have delimited : Delimited [CodePoint.ofChar '\x7d'] := delimited_cons [] (by decide)
    rw [recordSpelling, start]
    cases spelt with
    | nil =>
      have closed : Reads (.firstKey []) [.closeRecord] (.done (.record [])) :=
        reads_one fun _ => rfl
      rw [List.map_nil, Text.join_nil, List.nil_append, last]
      exact .cons opened closed.reaches
    | cons first others =>
      obtain ⟨name, more, spelling, inside⟩ :=
        exists_tokens_members (.cons first others) (List.cons_ne_nil _ _) [] []
      rw [spelling _ delimited, last]
      exact .cons opened ((reaches_firstKey inside).append (reads_closeRecord [] _).reaches)
  have unmarked : byteOrderMark.isPrefixOf (recordSpelling members) = false := rfl
  have run := whole (recordSpelling members).length (lex 0 (recordSpelling members)) [] rfl
  rw [List.append_nil] at run
  rw [read, unmarked, if_neg Bool.false_ne_true]
  exact run

end SelectorProse.Json
