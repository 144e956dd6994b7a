import SelectorProse.Json.Reader
import SelectorProse.Proofs.Json.Tokens
import SelectorProse.Proofs.Value.Basic

/-!
Reading what has been written. The reader takes the tokens of a value from any state that awaits
one, with any lists and records open around it. Main statement: a document that has been written
is read as its value, with the surrogate pairs of its texts joined.
-/

set_option autoImplicit false

namespace SelectorProse

namespace Value

mutual

/-- What a value is read as after it has been written. -/
def reread : Value → Value
  | .null => .null
  | .bool b => .bool b
  | .int i => .int i
  | .float x => .float x.reread
  | .text t => .text t.joinSurrogates
  | .list items => .list (rereadItems items)
  | .record members => .record (putAll (rereadMembers members) [])

def rereadItems : List Value → List Value
  | [] => []
  | item :: rest => item.reread :: rereadItems rest

def rereadMembers : List (Text × Value) → List (Text × Value)
  | [] => []
  | (key, value) :: rest => (key.joinSurrogates, value.reread) :: rereadMembers rest

end

theorem rereadItems_eq_map (items : List Value) : rereadItems items = items.map reread := by
  induction items with
  | nil => rfl
  | cons item rest ih => rw [rereadItems, ih, List.map_cons]

theorem rereadMembers_eq_map (members : List (Text × Value)) :
    rereadMembers members =
      members.map fun member => (member.1.joinSurrogates, member.2.reread) := by
  induction members with
  | nil => rfl
  | cons member rest ih => rw [rereadMembers, ih, List.map_cons]

end Value

namespace Json

/-- From one state these tokens lead to another, wherever they stand and whatever follows. -/
def Reads (state : State) (found : List Token) (next : State) : Prop :=
  ∀ length (lexemes rest : List Lexeme), lexemes.map Lexeme.token = found →
    state.run length (lexemes ++ rest) = next.run length rest

section

variable {state next final : State} {token : Token} {found others : List Token}

theorem reads_one (step : ∀ start, state.step ⟨token, start⟩ = .ok next) :
    Reads state [token] next := by
  intro length lexemes rest same
  obtain ⟨⟨_, start⟩, rfl, rfl⟩ := List.map_eq_singleton_iff.mp same
  rw [List.singleton_append, State.run, step start]

theorem Reads.append (first : Reads state found next) (second : Reads next others final) :
    Reads state (found ++ others) final := by
  intro length lexemes rest same
  obtain ⟨front, back, rfl, frontSame, backSame⟩ := List.map_eq_append_iff.mp same
  rw [List.append_assoc, first length front _ frontSame, second length back rest backSame]

theorem Reads.cons (first : Reads state [token] next) (second : Reads next others final) :
    Reads state (token :: others) final :=
  first.append second

/-- States that take a token alike take all that follows alike. -/
theorem Reads.of_step_eq {other : State} (same : ∀ start,
      other.step ⟨token, start⟩ = state.step ⟨token, start⟩)
    (reads : Reads state (token :: others) final) : Reads other (token :: others) final := by
  intro length lexemes rest spelt
  have before := reads length lexemes rest spelt
  obtain ⟨⟨_, start⟩, behind, rfl, rfl, -⟩ := List.map_eq_cons_iff.mp spelt
  rw [List.cons_append, State.run] at before ⊢
  rw [same start]
  exact before

end

section

variable (outer : List Frame)

theorem reads_colon (before : List (Text × Value)) (name : Text) :
    Reads (.colon before name outer) [.colon] (.value (.member before name :: outer)) :=
  reads_one fun _ => rfl

theorem reads_key (before : List (Text × Value)) (name : Text) :
    Reads (.key before outer) [.text name] (.colon before name outer) :=
  reads_one fun _ => rfl

theorem reads_openList (room : outer.length < Value.nestingLimit) :
    Reads (.value outer) [.openList] (.firstItem outer) :=
  reads_one fun _ => if_pos room

theorem reads_openRecord (room : outer.length < Value.nestingLimit) :
    Reads (.value outer) [.openRecord] (.firstKey outer) :=
  reads_one fun _ => if_pos room

theorem reads_closeList (items : List Value) :
    Reads (.afterItem items outer) [.closeList] (.completed (.list items.reverse) outer) :=
  reads_one fun _ => rfl

theorem reads_closeRecord (members : List (Text × Value)) :
    Reads (.afterMember members outer) [.closeRecord] (.completed (.record members) outer) :=
  reads_one fun _ => rfl

end

/-- Sign and digits of a number spell it. -/
theorem ofSignedDigits_natAbs (i : Int) :
    ofSignedDigits (decide (i < 0)) (Text.ofNat i.natAbs) = i := by
  rw [ofSignedDigits, ofDigits_ofNat]
  split
  · rename_i below
    have negative := of_decide_eq_true below
    omega
  · rename_i above
    have natural : ¬ i < 0 := fun negative => above (decide_eq_true negative)
    omega

theorem reads_int (outer : List Frame) {i : Int} (writable : Text.isWritable i = true) :
    Reads (.value outer) [.int (decide (i < 0)) (Text.ofNat i.natAbs)]
      (.completed (.int i) outer) := by
  refine reads_one fun start => ?_
  refine (if_pos (Text.length_ofNat_le_digitLimit writable)).trans ?_
  rw [ofSignedDigits_natAbs]

/-- No value begins with a closing mark. -/
theorem tokens_eq_cons (value : Value) : ∃ first rest, value.tokens = first :: rest ∧
    first ≠ .closeList ∧ first ≠ .unknown := by
  cases value <;> exact ⟨_, _, rfl, Token.noConfusion, Token.noConfusion⟩

theorem reads_firstItem {outer : List Frame} {next : State} {value : Value} {rest : List Token}
    (reads : Reads (.value (.item [] :: outer)) (value.tokens ++ rest) next) :
    Reads (.firstItem outer) (value.tokens ++ rest) next := by
  obtain ⟨first, behind, spelt, other, -⟩ := tokens_eq_cons value
  rw [spelt, List.cons_append] at reads ⊢
  have same (start : Nat) : (State.firstItem outer).step ⟨first, start⟩ =
      (State.value (.item [] :: outer)).step ⟨first, start⟩ := if_neg other
  exact reads.of_step_eq same

theorem reads_firstKey {outer : List Frame} {next : State} {key : Text} {rest : List Token}
    (reads : Reads (.key [] outer) (.text key :: rest) next) :
    Reads (.firstKey outer) (.text key :: rest) next := by
  have same (start : Nat) : (State.firstKey outer).step ⟨.text key, start⟩ =
      (State.key [] outer).step ⟨.text key, start⟩ := rfl
  exact reads.of_step_eq same

theorem exists_separated_eq (piece : List Token) (rest : List (List Token)) :
    ∃ more, separated (piece :: rest) = piece ++ more := by
  cases rest with
  | nil => exact ⟨[], (List.append_nil piece).symm⟩
  | cons next rest => exact ⟨_, separated_cons_cons piece next rest⟩

section

variable {outer : List Frame}

theorem reads_items (before : List Value) (item : Value) (rest : List Value)
    (readable : ∀ value ∈ item :: rest, ∀ before : List Value,
      Reads (.value (.item before :: outer)) value.tokens
        (.afterItem (value.reread :: before) outer)) :
    Reads (.value (.item before :: outer)) (separated (Value.itemsTokens (item :: rest)))
      (.afterItem ((Value.rereadItems (item :: rest)).reverse ++ before) outer) := by
  induction rest generalizing before item with
  | nil => exact readable item (List.mem_cons_self ..) before
  | cons next rest ih =>
    have first := readable item (List.mem_cons_self ..) before
    have others := ih (item.reread :: before) next fun value member =>
      readable value (List.mem_cons_of_mem _ member)
    have comma : Reads (.afterItem (item.reread :: before) outer) [.comma]
        (.value (.item (item.reread :: before) :: outer)) := reads_one fun _ => rfl
    rw [Value.rereadItems, List.reverse_cons, List.append_assoc, List.singleton_append]
    exact first.append (comma.cons others)

theorem reads_members (before : List (Text × Value)) (member : Text × Value)
    (rest : List (Text × Value))
    (readable : ∀ other ∈ member :: rest, ∀ (before : List (Text × Value)) (name : Text),
      Reads (.value (.member before name :: outer)) other.2.tokens
        (.afterMember (Value.put name other.2.reread before) outer)) :
    Reads (.key before outer) (separated (Value.membersTokens (member :: rest)))
      (.afterMember (Value.putAll (Value.rereadMembers (member :: rest)) before) outer) := by
  induction rest generalizing before member with
  | nil =>
    have value := readable member (List.mem_cons_self ..) before member.1.joinSurrogates
    exact (reads_key outer before _).cons ((reads_colon outer before _).cons value)
  | cons next rest ih =>
    have value := readable member (List.mem_cons_self ..) before member.1.joinSurrogates
    have first := (reads_key outer before _).cons ((reads_colon outer before _).cons value)
    have others := ih (Value.put member.1.joinSurrogates member.2.reread before) next
      fun other present => readable other (List.mem_cons_of_mem _ present)
    have comma : Reads (.afterMember (Value.put member.1.joinSurrogates member.2.reread before)
        outer) [.comma] (.key (Value.put member.1.joinSurrogates member.2.reread before) outer) :=
      reads_one fun _ => rfl
    exact first.append (comma.cons others)

/-- A list is read if its items are, as many of them as there are. -/
theorem reads_list {items : List Value} (room : outer.length < Value.nestingLimit)
    (readable : ∀ value ∈ items, ∀ before : List Value,
      Reads (.value (.item before :: outer)) value.tokens
        (.afterItem (value.reread :: before) outer)) :
    Reads (.value outer) (Value.list items).tokens
      (.completed (.list (Value.rereadItems items)) outer) := by
  have opened := reads_openList outer room
  cases items with
  | nil => exact opened.cons (reads_one fun _ => rfl)
  | cons item rest =>
    have inside := reads_items [] item rest readable
    have closed := reads_closeList outer ((Value.rereadItems (item :: rest)).reverse ++ [])
    rw [List.append_nil, List.reverse_reverse] at closed
    rw [List.append_nil] at inside
    have whole := inside.append closed
    obtain ⟨more, spelt⟩ := exists_separated_eq item.tokens (Value.itemsTokens rest)
    rw [Value.itemsTokens, spelt, List.append_assoc] at whole
    rw [Value.tokens, Value.itemsTokens, spelt, List.cons_append, List.append_assoc]
    exact opened.cons (reads_firstItem whole)

theorem reads_record {members : List (Text × Value)} (room : outer.length < Value.nestingLimit)
    (readable : ∀ member ∈ members, ∀ (before : List (Text × Value)) (name : Text),
      Reads (.value (.member before name :: outer)) member.2.tokens
        (.afterMember (Value.put name member.2.reread before) outer)) :
    Reads (.value outer) (Value.record members).tokens
      (.completed (.record (Value.putAll (Value.rereadMembers members) [])) outer) := by
  have opened := reads_openRecord outer room
  cases members with
  | nil => exact opened.cons (reads_one fun _ => rfl)
  | cons member rest =>
    have inside := reads_members [] member rest readable
    have whole := inside.append (reads_closeRecord outer _)
    obtain ⟨more, spelt⟩ := exists_separated_eq
      (.text member.1.joinSurrogates :: .colon :: member.2.tokens) (Value.membersTokens rest)
    rw [Value.membersTokens, spelt, List.append_assoc] at whole
    rw [Value.tokens, Value.membersTokens, spelt, List.cons_append, List.append_assoc]
    exact opened.cons (reads_firstKey whole)

end

/-- The reader takes the tokens of a value for what the value is read as, wherever there is room
for its lists and records. -/
theorem reads_value (value : Value) (outer : List Frame) (writable : value.isWritable = true)
    (shallow : outer.length + value.nesting ≤ Value.nestingLimit) :
    Reads (.value outer) value.tokens (.completed value.reread outer) := by
  induction value using Value.inductionOn generalizing outer with
  | null => exact reads_one fun _ => rfl
  | bool b => exact reads_one fun _ => rfl
  | int i =>
    rw [Value.isWritable] at writable
    exact reads_int outer writable
  | float x => exact reads_one fun _ => rfl
  | text t => exact reads_one fun _ => rfl
  | list items ih =>
    rw [Value.isWritable, Value.areWritable_iff] at writable
    rw [Value.nesting] at shallow
    have bound := Value.itemsNesting_le_iff.mp (Nat.le_refl (Value.itemsNesting items))
    refine reads_list (by omega) fun value member before => ?_
    refine ih value member (.item before :: outer) (writable value member) ?_
    have inside := bound value member
    rw [List.length_cons]
    omega
  | record members ih =>
    rw [Value.isWritable, Value.areMembersWritable_iff] at writable
    rw [Value.nesting] at shallow
    have bound := Value.membersNesting_le_iff.mp (Nat.le_refl (Value.membersNesting members))
    refine reads_record (by omega) fun member present before name => ?_
    refine ih member present (.member before name :: outer) (writable member present) ?_
    have inside := bound member present
    rw [List.length_cons]
    omega

/-- No document that has been written begins with a byte order mark. -/
theorem not_byteOrderMark_isPrefixOf_written (value : Value) :
    byteOrderMark.isPrefixOf (written 0 value) = false := by
  rw [← Bool.not_eq_true]
  intro marked
  obtain ⟨rest, marked⟩ := List.isPrefixOf_iff_prefix.mp marked
  obtain ⟨first, others, spelt, -, other⟩ := tokens_eq_cons value
  have unread : tokens (byteOrderMark ++ rest) =
      .unknown :: tokens (rest.drop (rest.length + 1 - 1)) :=
    tokens_of_scan (by decide) rfl
  rw [marked, tokens_written, spelt, List.cons.injEq] at unread
  exact other unread.1

/-- Reading what has been written. -/
theorem read_written {value : Value} (writable : value.isWritable = true)
    (shallow : value.nesting ≤ Value.nestingLimit) : read (written 0 value) = .ok value.reread := by
  have reads := reads_value value [] writable (by rwa [List.length_nil, Nat.zero_add])
  have run := reads (written 0 value).length (lex 0 (written 0 value)) [] (tokens_written value)
  rw [List.append_nil] at run
  rw [read, not_byteOrderMark_isPrefixOf_written, if_neg Bool.false_ne_true, run]
  rfl

end Json

end SelectorProse
