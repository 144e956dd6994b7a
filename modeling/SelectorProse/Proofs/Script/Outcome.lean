import SelectorProse.Proofs.Event.Record
import SelectorProse.Proofs.Json.Depth
import SelectorProse.Proofs.Json.Nested
import SelectorProse.Script.Basic

/-!
What comes of loading a script. Main statement: every source has exactly one of the outcomes listed
here, and a list of events has the same outcome as a member `events` of a record, whatever other
members stand around it.
-/

set_option autoImplicit false

namespace SelectorProse.Script

/-- What has to be the list of events: the document itself, or what a record holds under
`events`. -/
def held? : Value → Option Value
  | .record members => members.lookup (Text.ofString "events")
  | value => some value

/-- The items are accepted one by one, in order. -/
def Accepted (items : List Value) (events : List Event) : Prop :=
  List.Forall₂ (fun item event => Event.ofValue item = .ok event) items events

/-- The outcomes of loading a source. -/
inductive Outcome (source : Text) : Except Fault (List Event) → Prop
  | malformed {problem : Json.Problem} {offset : Nat}
    (failed : Json.read source = .error (.malformed problem offset)) :
    Outcome source (.error (.rejected .null (.malformed problem (.ofOffset source offset))))
  | integerTooLong {digits : Nat} (failed : Json.read source = .error (.integerTooLong digits)) :
    Outcome source (.error (.integerTooLong digits))
  | tooDeep {container : Json.Container}
    (failed : Json.read source = .error (.tooDeep container)) :
    Outcome source (.error (.tooDeep container))
  | withoutEvents {value : Value} (read : Json.read source = .ok value)
    (absent : held? value = none) : Outcome source (.error (.rejected .null .withoutEvents))
  | notAList {value held : Value} (read : Json.read source = .ok value)
    (holds : held? value = some held) (other : held.kind ≠ .list) :
    Outcome source (.error (.rejected .null (.notAList held.kind)))
  | accepted {value : Value} {items : List Value} {events : List Event}
    (read : Json.read source = .ok value) (holds : held? value = some (.list items))
    (accepted : Accepted items events) : Outcome source (.ok events)
  /-- The first item that is rejected decides, whatever stands behind it. -/
  | rejected {value item : Value} {before after : List Value} {events : List Event}
    {defect : Event.Defect} (read : Json.read source = .ok value)
    (holds : held? value = some (.list (before ++ item :: after)))
    (accepted : Accepted before events) (failed : Event.ofValue item = .error defect) :
    Outcome source (.error (.rejected (.int before.length) (.event defect)))

theorem accepted_of_ofItems {index : Nat} {items : List Value} {events : List Event}
    (success : ofItems index items = .ok events) : Accepted items events := by
  induction items generalizing index events with
  | nil =>
    cases Except.ok.inj success
    exact .nil
  | cons item rest ih =>
    rw [ofItems] at success
    split at success
    · cases success
    · rename_i event read
      cases later : ofItems (index + 1) rest with
      | error fault =>
        rw [later] at success
        cases success
      | ok others =>
        rw [later] at success
        cases Except.ok.inj success
        exact .cons (readEvent_eq_ok.mp read) (ih later)

theorem ofItems_of_accepted {items : List Value} {events : List Event}
    (accepted : Accepted items events) (index : Nat) : ofItems index items = .ok events := by
  induction accepted generalizing index with
  | nil => rfl
  | cons first others ih =>
    rw [ofItems, readEvent_eq_ok.mpr first]
    dsimp only
    rw [ih (index + 1)]
    rfl

/-- The first item that is rejected, with the items before it. -/
theorem exists_rejected_of_ofItems {index : Nat} {items : List Value} {fault : Fault}
    (failed : ofItems index items = .error fault) :
    ∃ before item after events, items = before ++ item :: after ∧ Accepted before events ∧
      readEvent (.int ↑(index + before.length)) item = .error fault := by
  induction items generalizing index with
  | nil => cases failed
  | cons item rest ih =>
    rw [ofItems] at failed
    split at failed
    · rename_i found stopped
      cases failed
      exact ⟨[], item, rest, [], rfl, .nil, stopped⟩
    · rename_i event read
      cases later : ofItems (index + 1) rest with
      | ok others =>
        rw [later] at failed
        cases failed
      | error other =>
        rw [later] at failed
        cases Except.error.inj failed
        obtain ⟨before, rejected, after, events, rfl, accepted, stopped⟩ := ih later
        refine ⟨item :: before, rejected, after, event :: events, rfl,
          .cons (readEvent_eq_ok.mp read) accepted, ?_⟩
        have place : index + (item :: before).length = index + 1 + before.length := by
          rw [List.length_cons]
          omega
        rw [place]
        exact stopped

theorem ofItems_of_rejected {before after : List Value} {events : List Event}
    (accepted : Accepted before events) {index : Nat} {item : Value} {fault : Fault}
    (failed : readEvent (.int ↑(index + before.length)) item = .error fault) :
    ofItems index (before ++ item :: after) = .error fault := by
  induction accepted generalizing index with
  | nil =>
    have stopped : readEvent (.int ↑index) item = .error fault := failed
    rw [List.nil_append, ofItems, stopped]
  | cons first others ih =>
    rename_i accepted event before events
    have place : index + (accepted :: before).length = index + 1 + before.length := by
      rw [List.length_cons]
      omega
    rw [place] at failed
    rw [List.cons_append, ofItems, readEvent_eq_ok.mpr first]
    dsimp only
    rw [ih failed]
    rfl

theorem ofDocument_of_held {value held : Value} (holds : held? value = some held) :
    ofDocument value = ofList held := by
  cases value with
  | record members =>
    rw [held?] at holds
    rw [ofDocument, holds]
  | _ =>
    cases Option.some.inj holds
    rfl

theorem ofDocument_of_absent {value : Value} (absent : held? value = none) :
    ofDocument value = .error (.rejected .null .withoutEvents) := by
  cases value with
  | record members =>
    rw [held?] at absent
    rw [ofDocument, absent]
  | _ => cases absent

/-- What a document holds can be written out. -/
theorem obstacle?_of_held {source : Text} {value held : Value}
    (read : Json.read source = .ok value) (holds : held? value = some held) :
    held.obstacle? = none := by
  have free := Json.obstacle?_of_read read
  cases value with
  | record members => exact Value.obstacle?_of_mem_members free (Value.mem_of_lookup holds)
  | _ =>
    cases Option.some.inj holds
    exact free

/-- What is wrong with an item of a document can always be told. -/
theorem readEvent_item_eq_error_iff {source : Text} {value item index : Value}
    {items : List Value} {fault : Fault} (read : Json.read source = .ok value)
    (holds : held? value = some (.list items)) (member : item ∈ items) :
    readEvent index item = .error fault ↔
      ∃ defect, Event.ofValue item = .error defect ∧ fault = .rejected index (.event defect) := by
  have free := Value.obstacle?_of_mem_items (obstacle?_of_held read holds) member
  rw [readEvent_eq_error_iff]
  refine exists_congr fun defect => and_congr_right fun failed => ?_
  rw [report_of_none (Event.obstacle?_of_ofValue free failed)]

theorem outcome_of_document {source : Text} {value : Value} (read : Json.read source = .ok value) :
    Outcome source (ofDocument value) := by
  cases holds : held? value with
  | none =>
    rw [ofDocument_of_absent holds]
    exact .withoutEvents read holds
  | some held =>
    rw [ofDocument_of_held holds]
    cases held with
    | list items =>
      cases outcome : ofItems 0 items with
      | ok events =>
        rw [ofList, outcome]
        exact .accepted read holds (accepted_of_ofItems outcome)
      | error fault =>
        obtain ⟨before, item, after, events, rfl, accepted, stopped⟩ :=
          exists_rejected_of_ofItems outcome
        rw [Nat.zero_add, readEvent_item_eq_error_iff read holds (by simp)] at stopped
        obtain ⟨defect, failed, rfl⟩ := stopped
        rw [ofList, outcome]
        exact .rejected read holds accepted failed
    | _ => exact .notAList read holds Value.Kind.noConfusion

theorem outcome_parse (source : Text) : Outcome source (parse source) := by
  rw [parse]
  cases read : Json.read source with
  | ok value => exact outcome_of_document read
  | error fault =>
    cases fault with
    | malformed problem offset => exact .malformed read
    | integerTooLong digits => exact .integerTooLong read
    | tooDeep container => exact .tooDeep read

theorem parse_of_read {source : Text} {value : Value} (read : Json.read source = .ok value) :
    parse source = ofDocument value := by
  rw [parse, read]

/-- A source has one outcome. -/
theorem Outcome.parse_eq {source : Text} {result : Except Fault (List Event)}
    (outcome : Outcome source result) : parse source = result := by
  cases outcome with
  | malformed failed => rw [parse, failed]
  | integerTooLong failed => rw [parse, failed]
  | tooDeep failed => rw [parse, failed]
  | withoutEvents read absent => rw [parse_of_read read, ofDocument_of_absent absent]
  | notAList read holds other =>
    rename_i value held
    rw [parse_of_read read, ofDocument_of_held holds]
    cases held with
    | list items => exact absurd rfl other
    | _ => rfl
  | accepted read holds accepted =>
    rw [parse_of_read read, ofDocument_of_held holds]
    exact ofItems_of_accepted accepted 0
  | rejected read holds accepted failed =>
    rw [parse_of_read read, ofDocument_of_held holds]
    refine ofItems_of_rejected accepted ?_
    rw [Nat.zero_add, readEvent_item_eq_error_iff read holds (by simp)]
    exact ⟨_, failed, rfl⟩

theorem parse_eq_ok_iff {source : Text} {events : List Event} :
    parse source = .ok events ↔ ∃ value items, Json.read source = .ok value ∧
      held? value = some (.list items) ∧ Accepted items events := by
  constructor
  · intro success
    have outcome := outcome_parse source
    rw [success] at outcome
    cases outcome with
    | accepted read holds accepted => exact ⟨_, _, read, holds, accepted⟩
  · rintro ⟨value, items, read, holds, accepted⟩
    exact (Outcome.accepted read holds accepted).parse_eq

section

variable {source wrapped key : Text} {items : List Value} {members : List (Text × Value)}
  {before after : List (Text × Text)} {earlier later : List (Text × Value)}

/-- A record that holds a list as its events has the outcome of the list. -/
theorem parse_of_lookup (list : Json.read source = .ok (.list items))
    (record : Json.read wrapped = .ok (.record members))
    (found : members.lookup (Text.ofString "events") = some (.list items)) :
    parse wrapped = parse source := by
  have holds : held? (.record members) = some (.list items) := found
  rw [parse_of_read record, parse_of_read list, ofDocument_of_held holds]
  rfl

/-- The last member `events` counts, and no other member does. -/
theorem parse_recordSpelling (list : Json.read source = .ok (.list items))
    (events : Json.tokens key = [.text (Text.ofString "events")])
    (front : List.Forall₂ Json.SpellsMember before earlier)
    (back : List.Forall₂ Json.SpellsMember after later)
    (others : ∀ member ∈ later, member.1 ≠ Text.ofString "events")
    (room : ¬ Json.TooDeep (Json.read (Json.recordSpelling (before ++ (key, source) :: after)))) :
    parse (Json.recordSpelling (before ++ (key, source) :: after)) = parse source := by
  have middle : Json.SpellsMember (key, source) (Text.ofString "events", .list items) :=
    ⟨events, list⟩
  have spelt := List.rel_append front (List.Forall₂.cons middle back)
  rcases Json.read_recordSpelling spelt with record | deep
  · exact parse_of_lookup list record (Value.lookup_putAll earlier [] others)
  · exact absurd deep room

end

/-- Every source has exactly one outcome of those listed. A list of events keeps its outcome in
every record that holds the list as its events; such a record is spelt by making the list its last
member `events`, whatever other members stand around it, unless it is then nested too deeply. -/
theorem parse_outcome (source : Text) :
    (∀ result, parse source = result ↔ Outcome source result) ∧
      ∀ items, Json.read source = .ok (.list items) →
        (∀ (wrapped : Text) (members : List (Text × Value)),
          Json.read wrapped = .ok (.record members) →
          members.lookup (Text.ofString "events") = some (.list items) →
          parse wrapped = parse source) ∧
        ∀ (key : Text) (before after : List (Text × Text)) (earlier later : List (Text × Value)),
          Json.tokens key = [.text (Text.ofString "events")] →
          List.Forall₂ Json.SpellsMember before earlier →
          List.Forall₂ Json.SpellsMember after later →
          (∀ member ∈ later, member.1 ≠ Text.ofString "events") →
          ¬ Json.TooDeep (Json.read (Json.recordSpelling (before ++ (key, source) :: after))) →
          parse (Json.recordSpelling (before ++ (key, source) :: after)) = parse source := by
  constructor
  · intro result
    constructor
    · rintro rfl
      exact outcome_parse source
    · exact Outcome.parse_eq
  · intro items list
    constructor
    · intro wrapped members record found
      exact parse_of_lookup list record found
    · intro key before after earlier later events front back others room
      exact parse_recordSpelling list events front back others room

/-- Of these items the second and the third are no records. -/
def brokenItems : List Value := [Event.init.toValue, .null, .int 7]

/-- The items as the last member `events` of a record, under a key that is spelt with an escape. -/
def brokenMembers : List (Text × Text) := [
  (Text.ofString "\"events\"", Json.written 0 (.int 1)),
  (Text.ofString "\"\\u0065vents\" ", Json.written 0 (.list brokenItems)),
  (Text.ofString "\"note\"", Json.written 0 (.record [(Text.ofString "events", .list [])]))]

theorem parse_outcome_brokenItems :
    parse (Json.recordSpelling brokenMembers) =
      .error (.rejected (.int 1) (.event (.notARecord .null))) := by
  have list : Json.read (Json.written 0 (.list brokenItems)) = .ok (.list brokenItems) :=
    Json.read_written (by decide +kernel) (by decide)
  have escaped : Json.tokens (Text.ofString "\"\\u0065vents\" ") =
      [.text (Text.ofString "events")] := by decide +kernel
  have earlier : Json.SpellsMember (Text.ofString "\"events\"", Json.written 0 (.int 1))
      (Text.ofString "events", .int 1) :=
    ⟨by decide +kernel, Json.read_written (by decide +kernel) (by decide)⟩
  have later : Json.SpellsMember (Text.ofString "\"note\"",
        Json.written 0 (.record [(Text.ofString "events", .list [])]))
      (Text.ofString "note", .record [(Text.ofString "events", .list [])]) :=
    ⟨by decide +kernel, Json.read_written rfl (by decide)⟩
  have room : ¬ Json.TooDeep (Json.read (Json.recordSpelling brokenMembers)) :=
    Json.not_tooDeep_of_isOk (by decide +kernel)
  obtain ⟨outcomes, kept⟩ := parse_outcome (Json.written 0 (.list brokenItems))
  have same := (kept _ list).2 _ _ _ _ _ escaped (.cons earlier .nil) (.cons later .nil)
    (by decide) room
  have typed : Event.init.WellTyped := by decide
  have first : Accepted [Event.init.toValue] [.init] := .cons (Event.ofValue_toValue typed) .nil
  rw [brokenMembers]
  exact same.trans ((outcomes _).mpr (.rejected list rfl first rfl))

end SelectorProse.Script
