import SelectorProse.Value.Basic

/-!
Values by what they hold: induction over items and members, how deep a value goes, and whether it
can be written out.
-/

set_option autoImplicit false

namespace SelectorProse.Value

/-- Whatever passes from items and members to their list or record holds of every value. -/
@[elab_as_elim]
theorem inductionOn {motive : Value → Prop} (value : Value) (null : motive .null)
    (bool : ∀ b, motive (.bool b)) (int : ∀ i, motive (.int i)) (float : ∀ x, motive (.float x))
    (text : ∀ t, motive (.text t))
    (list : ∀ items, (∀ item ∈ items, motive item) → motive (.list items))
    (record : ∀ members, (∀ member ∈ members, motive member.2) → motive (.record members)) :
    motive value := by
  refine @Value.rec motive (fun items => ∀ item ∈ items, motive item)
    (fun members => ∀ member ∈ members, motive member.2) (fun member => motive member.2)
    null bool int float text list record ?_ ?_ ?_ ?_ ?_ value
  · exact fun _ impossible => absurd impossible List.not_mem_nil
  · exact fun _ _ first others => List.forall_mem_cons.mpr ⟨first, others⟩
  · exact fun _ impossible => absurd impossible List.not_mem_nil
  · exact fun _ _ first others => List.forall_mem_cons.mpr ⟨first, others⟩
  · exact fun _ _ held => held

theorem exists_text_of_kind {value : Value} (textual : value.kind = .text) :
    ∃ t, value = .text t := by
  cases value <;> cases textual
  exact ⟨_, rfl⟩

theorem exists_int_of_kind {value : Value} (whole : value.kind = .int) :
    ∃ i, value = .int i := by
  cases value <;> cases whole
  exact ⟨_, rfl⟩

theorem areWritable_iff {items : List Value} :
    areWritable items = true ↔ ∀ item ∈ items, item.isWritable = true := by
  induction items with
  | nil => simp [areWritable]
  | cons item rest ih => rw [areWritable, Bool.and_eq_true, ih, List.forall_mem_cons]

theorem areMembersWritable_iff {members : List (Text × Value)} :
    areMembersWritable members = true ↔ ∀ member ∈ members, member.2.isWritable = true := by
  induction members with
  | nil => simp [areMembersWritable]
  | cons member rest ih => rw [areMembersWritable, Bool.and_eq_true, ih, List.forall_mem_cons]

theorem itemsNesting_le_iff {items : List Value} {depth : Nat} :
    itemsNesting items ≤ depth ↔ ∀ item ∈ items, item.nesting ≤ depth := by
  induction items with
  | nil => simp [itemsNesting]
  | cons item rest ih => rw [itemsNesting, Nat.max_le, ih, List.forall_mem_cons]

theorem membersNesting_le_iff {members : List (Text × Value)} {depth : Nat} :
    membersNesting members ≤ depth ↔ ∀ member ∈ members, member.2.nesting ≤ depth := by
  induction members with
  | nil => simp [membersNesting]
  | cons member rest ih => rw [membersNesting, Nat.max_le, ih, List.forall_mem_cons]

theorem itemsNesting_reverse_le (items : List Value) :
    itemsNesting items.reverse ≤ itemsNesting items :=
  itemsNesting_le_iff.mpr fun item member =>
    itemsNesting_le_iff.mp (Nat.le_refl _) item (List.mem_reverse.mp member)

theorem membersNesting_put_le (key : Text) (value : Value) (members : List (Text × Value)) :
    membersNesting (put key value members) ≤ max value.nesting (membersNesting members) := by
  induction members with
  | nil => exact Nat.le_refl _
  | cons member rest ih =>
    rw [put]
    split
    · simp only [membersNesting]
      omega
    · simp only [membersNesting]
      omega

theorem itemsObstacle?_eq_none_iff {room : Nat} {items : List Value} :
    itemsObstacle? room items = none ↔ ∀ item ∈ items, obstacleWithin? room item = none := by
  induction items with
  | nil => simp [itemsObstacle?]
  | cons item rest ih => rw [itemsObstacle?, Option.or_eq_none_iff, ih, List.forall_mem_cons]

theorem membersObstacle?_eq_none_iff {room : Nat} {members : List (Text × Value)} :
    membersObstacle? room members = none ↔
      ∀ member ∈ members, obstacleWithin? room member.2 = none := by
  induction members with
  | nil => simp [membersObstacle?]
  | cons member rest ih => rw [membersObstacle?, Option.or_eq_none_iff, ih, List.forall_mem_cons]

/-- A value can be written out if its numbers can and there is room for its lists and records. -/
theorem obstacleWithin?_eq_none_iff {room : Nat} {value : Value} :
    obstacleWithin? room value = none ↔ value.isWritable = true ∧ value.nesting ≤ room := by
  induction value using inductionOn generalizing room with
  | int i => simp [obstacleWithin?, isWritable, nesting]
  | list items ih =>
    cases room with
    | zero => simp [obstacleWithin?, nesting]
    | succ room =>
      have each : (∀ item ∈ items, obstacleWithin? room item = none) ↔
          ∀ item ∈ items, item.isWritable = true ∧ item.nesting ≤ room :=
        forall₂_congr fun item member => ih item member
      rw [obstacleWithin?, itemsObstacle?_eq_none_iff, each, isWritable, areWritable_iff, nesting,
        Nat.add_le_add_iff_right, itemsNesting_le_iff]
      simp only [imp_and, forall_and]
  | record members ih =>
    cases room with
    | zero => simp [obstacleWithin?, nesting]
    | succ room =>
      have each : (∀ member ∈ members, obstacleWithin? room member.2 = none) ↔
          ∀ member ∈ members, member.2.isWritable = true ∧ member.2.nesting ≤ room :=
        forall₂_congr fun member present => ih member present
      rw [obstacleWithin?, membersObstacle?_eq_none_iff, each, isWritable, areMembersWritable_iff,
        nesting, Nat.add_le_add_iff_right, membersNesting_le_iff]
      simp only [imp_and, forall_and]
  | _ => simp [obstacleWithin?, isWritable, nesting]

theorem obstacle?_eq_none_iff {value : Value} :
    value.obstacle? = none ↔ value.isWritable = true ∧ value.nesting ≤ nestingLimit :=
  obstacleWithin?_eq_none_iff

theorem exists_of_itemsObstacle? {room : Nat} {items : List Value} {obstacle : Obstacle}
    (met : itemsObstacle? room items = some obstacle) :
    ∃ item ∈ items, obstacleWithin? room item = some obstacle := by
  induction items with
  | nil => cases met
  | cons item rest ih =>
    rw [itemsObstacle?, Option.or_eq_some_iff] at met
    rcases met with first | ⟨-, later⟩
    · exact ⟨item, List.mem_cons_self .., first⟩
    · obtain ⟨other, member, behind⟩ := ih later
      exact ⟨other, List.mem_cons_of_mem _ member, behind⟩

theorem exists_of_membersObstacle? {room : Nat} {members : List (Text × Value)}
    {obstacle : Obstacle} (met : membersObstacle? room members = some obstacle) :
    ∃ member ∈ members, obstacleWithin? room member.2 = some obstacle := by
  induction members with
  | nil => cases met
  | cons member rest ih =>
    rw [membersObstacle?, Option.or_eq_some_iff] at met
    rcases met with first | ⟨-, later⟩
    · exact ⟨member, List.mem_cons_self .., first⟩
    · obtain ⟨other, present, behind⟩ := ih later
      exact ⟨other, List.mem_cons_of_mem _ present, behind⟩

/-- Where every number can be written, a value can only go too deep. -/
theorem obstacleWithin?_eq_tooDeep {room : Nat} {value : Value} {obstacle : Obstacle}
    (writable : value.isWritable = true) (met : obstacleWithin? room value = some obstacle) :
    obstacle = .tooDeep := by
  induction value using inductionOn generalizing room with
  | int i =>
    rw [isWritable] at writable
    rw [obstacleWithin?, if_pos writable] at met
    cases met
  | list items ih =>
    cases room with
    | zero =>
      cases met
      rfl
    | succ room =>
      obtain ⟨item, member, inside⟩ := exists_of_itemsObstacle? met
      exact ih item member (areWritable_iff.mp writable item member) inside
  | record members ih =>
    cases room with
    | zero =>
      cases met
      rfl
    | succ room =>
      obtain ⟨member, present, inside⟩ := exists_of_membersObstacle? met
      exact ih member present (areMembersWritable_iff.mp writable member present) inside
  | _ => cases met

theorem obstacle?_eq_some_tooDeep_iff {value : Value} (writable : value.isWritable = true) :
    value.obstacle? = some .tooDeep ↔ nestingLimit < value.nesting := by
  cases met : value.obstacle? with
  | none =>
    have shallow := (obstacle?_eq_none_iff.mp met).2
    simp only [reduceCtorEq, false_iff]
    omega
  | some obstacle =>
    obtain rfl := obstacleWithin?_eq_tooDeep writable met
    have deep : ¬ value.nesting ≤ nestingLimit := by
      intro shallow
      rw [obstacle?_eq_none_iff.mpr ⟨writable, shallow⟩] at met
      cases met
    simp only [true_iff]
    omega

theorem obstacle?_of_mem_items {items : List Value} {item : Value}
    (free : (list items).obstacle? = none) (member : item ∈ items) : item.obstacle? = none := by
  rw [obstacle?_eq_none_iff, isWritable, areWritable_iff, nesting] at free
  obtain ⟨short, shallow⟩ := free
  have inside := itemsNesting_le_iff.mp (Nat.le_of_succ_le shallow) item member
  exact obstacle?_eq_none_iff.mpr ⟨short item member, inside⟩

theorem obstacle?_of_mem_members {members : List (Text × Value)} {member : Text × Value}
    (free : (record members).obstacle? = none) (present : member ∈ members) :
    member.2.obstacle? = none := by
  rw [obstacle?_eq_none_iff, isWritable, areMembersWritable_iff, nesting] at free
  obtain ⟨short, shallow⟩ := free
  have inside := membersNesting_le_iff.mp (Nat.le_of_succ_le shallow) member present
  exact obstacle?_eq_none_iff.mpr ⟨short member present, inside⟩

/-- Empty lists wrapped into so many others. -/
def nestedList : Nat → Value
  | 0 => .list []
  | depth + 1 => .list [nestedList depth]

theorem isWritable_nestedList (depth : Nat) : (nestedList depth).isWritable = true := by
  induction depth with
  | zero => rfl
  | succ depth ih => simp only [nestedList, isWritable, areWritable, ih, Bool.and_self]

theorem nesting_nestedList (depth : Nat) : (nestedList depth).nesting = depth + 1 := by
  induction depth with
  | zero => rfl
  | succ depth ih => simp only [nestedList, nesting, itemsNesting, ih, Nat.max_zero]

theorem isTruthy_nestedList_succ (depth : Nat) : (nestedList (depth + 1)).isTruthy = true := rfl

theorem obstacle?_nestedList {depth : Nat} (deep : nestingLimit ≤ depth) :
    (nestedList depth).obstacle? = some .tooDeep := by
  rw [obstacle?_eq_some_tooDeep_iff (isWritable_nestedList depth), nesting_nestedList]
  exact Nat.lt_succ_of_le deep

/-- Members put into a record one after another. -/
def putAll : List (Text × Value) → List (Text × Value) → List (Text × Value)
  | [], members => members
  | (key, value) :: rest, members => putAll rest (put key value members)

theorem put_of_not_mem {key : Text} {value : Value} {members : List (Text × Value)}
    (fresh : key ∉ members.map Prod.fst) : put key value members = members ++ [(key, value)] := by
  induction members with
  | nil => rfl
  | cons member rest ih =>
    rw [List.map_cons, List.mem_cons, not_or] at fresh
    rw [put, if_neg fun same => fresh.1 same.symm, ih fresh.2, List.cons_append]

/-- Members whose keys all differ stay as they are and keep their order. -/
theorem putAll_of_nodup {added before : List (Text × Value)}
    (distinct : ((before ++ added).map Prod.fst).Nodup) :
    putAll added before = before ++ added := by
  induction added generalizing before with
  | nil => exact (List.append_nil before).symm
  | cons member rest ih =>
    obtain ⟨key, value⟩ := member
    have fresh : key ∉ before.map Prod.fst := by
      intro present
      rw [List.map_append, List.nodup_append] at distinct
      exact distinct.2.2 key present key (List.mem_cons_self ..) rfl
    rw [List.append_cons] at distinct ⊢
    rw [putAll, put_of_not_mem fresh, ih distinct]

theorem putAll_append (first second members : List (Text × Value)) :
    putAll (first ++ second) members = putAll second (putAll first members) := by
  induction first generalizing members with
  | nil => rfl
  | cons member rest ih => exact ih (put member.1 member.2 members)

theorem lookup_put_of_ne {key other : Text} {value : Value} {members : List (Text × Value)}
    (different : key ≠ other) : (put other value members).lookup key = members.lookup key := by
  have absent : (key == other) = false := beq_eq_false_iff_ne.mpr different
  induction members with
  | nil => simp [put, List.lookup_cons, absent]
  | cons member rest ih =>
    obtain ⟨k, v⟩ := member
    rw [put]
    split
    · rename_i same
      subst same
      simp [List.lookup_cons, absent]
    · simp only [List.lookup_cons, ih]

/-- Of several members with one key the last one counts. -/
theorem lookup_putAll {key : Text} {value : Value} (before : List (Text × Value))
    {after : List (Text × Value)} (members : List (Text × Value))
    (others : ∀ member ∈ after, member.1 ≠ key) :
    (putAll (before ++ (key, value) :: after) members).lookup key = some value := by
  have kept (current : List (Text × Value)) :
      (putAll after current).lookup key = current.lookup key := by
    induction after generalizing current with
    | nil => rfl
    | cons member rest ih =>
      rw [List.forall_mem_cons] at others
      exact (ih others.2 _).trans (lookup_put_of_ne others.1.symm)
  rw [putAll_append, putAll, kept, lookup_put_self]

end SelectorProse.Value
