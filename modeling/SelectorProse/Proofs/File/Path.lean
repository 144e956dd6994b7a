import SelectorProse.File.Tree

/-!
The normal form of a path. It has the same names, starts where the path does and is no longer, so
that it leads to the same file.
-/

set_option autoImplicit false

namespace SelectorProse

namespace Path

theorem pieces_ne_nil (path : Text) : pieces path ≠ [] := by
  cases path with
  | nil => exact List.cons_ne_nil _ _
  | cons c rest =>
    rw [pieces]
    split
    · split
      · exact List.cons_ne_nil _ _
      · exact List.cons_ne_nil _ _
    · exact List.cons_ne_nil _ _

theorem pieces_cons (c : CodePoint) (path : Text) :
    ∃ first others, pieces path = first :: others ∧
      pieces (c :: path) = if c = '/' then [] :: first :: others else (c :: first) :: others := by
  obtain ⟨first, others, shape⟩ := List.exists_cons_of_ne_nil (pieces_ne_nil path)
  refine ⟨first, others, shape, ?_⟩
  rw [pieces, shape]

/-- A slash parts the pieces before it from those behind it. -/
theorem pieces_append_slash (before behind : Text) :
    pieces (before ++ CodePoint.ofChar '/' :: behind) = pieces before ++ pieces behind := by
  induction before with
  | nil =>
    obtain ⟨first, others, shape, parted⟩ := pieces_cons (CodePoint.ofChar '/') behind
    rw [List.nil_append, parted, if_pos rfl, shape]
    rfl
  | cons c before ih =>
    obtain ⟨first, others, shape, parted⟩ := pieces_cons c before
    obtain ⟨first', others', shape', parted'⟩ :=
      pieces_cons c (before ++ CodePoint.ofChar '/' :: behind)
    rw [ih, shape, List.cons_append, List.cons.injEq] at shape'
    obtain ⟨rfl, rfl⟩ := shape'
    rw [List.cons_append, parted', parted]
    split
    · rfl
    · rfl

theorem pieces_of_not_mem {piece : Text} (whole : CodePoint.ofChar '/' ∉ piece) :
    pieces piece = [piece] := by
  induction piece with
  | nil => rfl
  | cons c piece ih =>
    rw [List.mem_cons, not_or] at whole
    obtain ⟨first, others, shape, parted⟩ := pieces_cons c piece
    rw [ih whole.2, List.cons.injEq] at shape
    obtain ⟨rfl, rfl⟩ := shape
    rw [parted, if_neg (Ne.symm whole.1)]

theorem not_mem_of_mem_pieces {path piece : Text} (member : piece ∈ pieces path) :
    CodePoint.ofChar '/' ∉ piece := by
  induction path generalizing piece with
  | nil =>
    rw [List.mem_singleton.mp member]
    exact List.not_mem_nil
  | cons c path ih =>
    obtain ⟨first, others, shape, parted⟩ := pieces_cons c path
    rw [parted] at member
    rw [shape] at ih
    split at member
    · rcases List.mem_cons.mp member with rfl | later
      · exact List.not_mem_nil
      · exact ih later
    · rename_i other
      rcases List.mem_cons.mp member with rfl | later
      · rw [List.mem_cons, not_or]
        exact ⟨Ne.symm other, ih (List.mem_cons_self ..)⟩
      · exact ih (List.mem_cons_of_mem _ later)

theorem join_cons_slash (piece next : Text) (rest : List Text) :
    Text.join (Text.ofString "/") (piece :: next :: rest) =
      piece ++ CodePoint.ofChar '/' :: Text.join (Text.ofString "/") (next :: rest) := by
  rw [Text.join_cons_cons, List.append_assoc]
  rfl

theorem pieces_join {texts : List Text} (present : texts ≠ [])
    (whole : ∀ piece ∈ texts, CodePoint.ofChar '/' ∉ piece) :
    pieces (Text.join (Text.ofString "/") texts) = texts := by
  induction texts with
  | nil => exact absurd rfl present
  | cons piece rest ih =>
    rw [List.forall_mem_cons] at whole
    cases rest with
    | nil => exact pieces_of_not_mem whole.1
    | cons next rest =>
      rw [join_cons_slash, pieces_append_slash, pieces_of_not_mem whole.1,
        ih (List.cons_ne_nil _ _) whole.2]
      rfl

/-- The pieces of a path, joined again, are the path. -/
theorem join_pieces (path : Text) : Text.join (Text.ofString "/") (pieces path) = path := by
  induction path with
  | nil => rfl
  | cons c path ih =>
    obtain ⟨first, others, shape, parted⟩ := pieces_cons c path
    rw [shape] at ih
    rw [parted]
    split
    · rename_i slash
      rw [Text.join_cons_cons, ih, slash]
      rfl
    · rw [← ih]
      cases others with
      | nil => rfl
      | cons next others => rfl

section

variable {separator text : Text} {fewer texts : List Text}

theorem join_sublist_join_cons : (Text.join separator texts).Sublist
    (Text.join separator (text :: texts)) := by
  cases texts with
  | nil => exact List.nil_sublist _
  | cons next rest => exact List.sublist_append_right _ _

theorem join_cons_sublist (within : (Text.join separator fewer).Sublist (Text.join separator texts))
    (both : texts = [] → fewer = []) : (Text.join separator (text :: fewer)).Sublist
      (Text.join separator (text :: texts)) := by
  cases texts with
  | nil =>
    obtain rfl := both rfl
    exact .refl _
  | cons next rest =>
    rw [Text.join_cons_cons]
    cases fewer with
    | nil =>
      rw [Text.join_singleton, List.append_assoc]
      exact List.sublist_append_left _ _
    | cons first others => exact (List.Sublist.refl (text ++ separator)).append within

/-- Joining some of the texts gives nothing but characters of the whole, in their order. -/
theorem join_filter_sublist (keep : Text → Bool) :
    (Text.join separator (texts.filter keep)).Sublist (Text.join separator texts) := by
  induction texts with
  | nil => exact .refl _
  | cons text rest ih =>
    rw [List.filter_cons]
    split
    · exact join_cons_sublist ih fun none => by rw [none, List.filter_nil]
    · exact ih.trans join_sublist_join_cons

end

/-- What a path is made of between its slashes, and what it leads through. -/
structure IsName (piece : Text) : Prop where
  present : piece ≠ []
  moves : piece ≠ Text.ofString "."
  whole : CodePoint.ofChar '/' ∉ piece

theorem isName_of_mem_names {path name : Text} (member : name ∈ names path) : IsName name := by
  obtain ⟨piece, kept⟩ := List.mem_filter.mp member
  rw [Bool.and_eq_true, bne_iff_ne, bne_iff_ne] at kept
  exact ⟨kept.1, kept.2, not_mem_of_mem_pieces piece⟩

theorem filter_of_isName {texts : List Text} (named : ∀ text ∈ texts, IsName text) :
    (texts.filter fun piece => piece != [] && piece != Text.ofString ".") = texts := by
  refine List.filter_eq_self.mpr fun text member => ?_
  rw [Bool.and_eq_true, bne_iff_ne, bne_iff_ne]
  exact ⟨(named text member).present, (named text member).moves⟩

theorem head?_join_ne {texts : List Text} (named : ∀ text ∈ texts, IsName text) :
    (Text.join (Text.ofString "/") texts).head? ≠ some (CodePoint.ofChar '/') := by
  cases texts with
  | nil => exact nofun
  | cons text rest =>
    have name := named text (List.mem_cons_self ..)
    obtain ⟨c, tail, rfl⟩ := List.exists_cons_of_ne_nil name.present
    have first : (Text.join (Text.ofString "/") ((c :: tail) :: rest)).head? = some c := by
      cases rest with
      | nil => rfl
      | cons next rest => rfl
    rw [first]
    rintro ⟨⟩
    exact name.whole (List.mem_cons_self ..)

/-- How many slashes a path starts with. -/
def slashes (path : Text) : Nat := (path.takeWhile fun c => c == CodePoint.ofChar '/').length

theorem exists_slashes (path : Text) :
    ∃ rest, path = List.replicate (slashes path) (CodePoint.ofChar '/') ++ rest := by
  have front : (path.takeWhile fun c => c == CodePoint.ofChar '/') =
      List.replicate (slashes path) (CodePoint.ofChar '/') := by
    refine List.eq_replicate_of_mem fun c member => ?_
    exact eq_of_beq (List.all_eq_true.mp List.all_takeWhile c member)
  refine ⟨path.dropWhile fun c => c == CodePoint.ofChar '/', ?_⟩
  rw [← front, List.takeWhile_append_dropWhile]

theorem slashes_pos_iff (path : Text) :
    0 < slashes path ↔ path.head? = some (CodePoint.ofChar '/') := by
  cases path with
  | nil => exact iff_of_false (Nat.lt_irrefl 0) nofun
  | cons c path =>
    rw [slashes, List.takeWhile_cons, List.head?_cons, Option.some.injEq]
    split
    · rename_i slash
      exact iff_of_true (Nat.succ_pos _) (eq_of_beq slash)
    · rename_i other
      exact iff_of_false (Nat.lt_irrefl 0) fun slash => other (beq_iff_eq.mpr slash)

/-- Of the slashes that a path starts with the root keeps some, if there are any. -/
theorem root_eq_replicate (path : Text) :
    ∃ count, root path = List.replicate count (CodePoint.ofChar '/') ∧ count ≤ slashes path ∧
      (0 < count ↔ 0 < slashes path) := by
  unfold root
  split
  · rename_i none
    rw [slashes, none]
    exact ⟨0, rfl, Nat.le_refl 0, Iff.rfl⟩
  · rename_i two
    rw [slashes, two]
    exact ⟨2, rfl, Nat.le_refl 2, Iff.rfl⟩
  · rename_i other _
    have positive : 0 < slashes path := Nat.pos_of_ne_zero other
    exact ⟨1, rfl, positive, iff_of_true Nat.one_pos positive⟩

theorem pieces_slashes (count : Nat) (path : Text) :
    pieces (List.replicate count (CodePoint.ofChar '/') ++ path) =
      List.replicate count [] ++ pieces path := by
  induction count with
  | zero => rfl
  | succ count ih =>
    rw [List.replicate_succ, List.replicate_succ, List.cons_append, List.cons_append, ← ih]
    exact pieces_append_slash [] _

theorem names_slashes (count : Nat) (path : Text) :
    names (List.replicate count (CodePoint.ofChar '/') ++ path) = names path := by
  rw [names, pieces_slashes, List.filter_append, List.filter_replicate, if_neg (by decide)]
  rfl

section

variable {path : Text}

theorem normalized_eq (named : names path ≠ []) :
    normalized path = root path ++ Text.join (Text.ofString "/") (names path) := by
  refine if_neg fun none => ?_
  have joined := congrArg pieces (List.append_eq_nil_iff.mp none).2
  rw [pieces_join named fun name member => (isName_of_mem_names member).whole] at joined
  have unnamed : [] ∈ names path := by
    rw [joined]
    exact List.mem_singleton_self _
  exact (isName_of_mem_names unnamed).present rfl

theorem pieces_normalized (named : names path ≠ []) :
    ∃ count, pieces (normalized path) = List.replicate count [] ++ names path := by
  obtain ⟨count, front, -⟩ := root_eq_replicate path
  refine ⟨count, ?_⟩
  rw [normalized_eq named, front, pieces_slashes,
    pieces_join named fun name member => (isName_of_mem_names member).whole]

theorem names_normalized (named : names path ≠ []) : names (normalized path) = names path := by
  obtain ⟨count, parted⟩ := pieces_normalized named
  rw [names, parted, List.filter_append, List.filter_replicate, if_neg (by decide),
    List.nil_append]
  exact filter_of_isName fun name => isName_of_mem_names

theorem isName_of_getLast?_normalized {last : Text} (named : names path ≠ [])
    (final : (pieces (normalized path)).getLast? = some last) : IsName last := by
  obtain ⟨count, parted⟩ := pieces_normalized named
  have behind : (names path).getLast? = some last := by
    rw [parted, List.getLast?_append, List.getLast?_eq_some_getLast named] at final
    exact (List.getLast?_eq_some_getLast named).trans final
  exact isName_of_mem_names (List.mem_of_getLast? behind)

theorem head?_normalized (named : names path ≠ []) :
    (normalized path).head? = some (CodePoint.ofChar '/') ↔
      path.head? = some (CodePoint.ofChar '/') := by
  obtain ⟨count, front, -, leading⟩ := root_eq_replicate path
  rw [normalized_eq named, front, ← slashes_pos_iff path, ← leading]
  cases count with
  | succ count => exact iff_of_true rfl (Nat.succ_pos count)
  | zero => exact iff_of_false (head?_join_ne fun _ => isName_of_mem_names) (Nat.lt_irrefl 0)

theorem normalized_sublist (named : names path ≠ []) : (normalized path).Sublist path := by
  obtain ⟨rest, split⟩ := exists_slashes path
  obtain ⟨count, front, fewer, -⟩ := root_eq_replicate path
  have same : names path = names rest := by rw [split, names_slashes]
  have below : (Text.join (Text.ofString "/") (names rest)).Sublist rest := by
    conv => rhs; rw [← join_pieces rest]
    exact join_filter_sublist _
  rw [normalized_eq named, front, same]
  conv => rhs; rw [split]
  exact (List.replicate_sublist_replicate _ |>.mpr fewer).append below

end

theorem foldl_octetCount (t : Text) (length : Nat) :
    t.foldl (fun length c => length + octetCount c) length = length + octetLength t := by
  induction t generalizing length with
  | nil => rfl
  | cons c t ih =>
    have whole : octetLength (c :: t) = 0 + octetCount c + octetLength t :=
      ih (0 + octetCount c)
    rw [List.foldl_cons, ih, whole]
    omega

theorem octetLength_cons (c : CodePoint) (t : Text) :
    octetLength (c :: t) = octetCount c + octetLength t := by
  rw [octetLength, List.foldl_cons, foldl_octetCount, Nat.zero_add]

theorem octetLength_le {t u : Text} (within : t.Sublist u) : octetLength t ≤ octetLength u := by
  induction within with
  | slnil => exact Nat.le_refl _
  | cons c _ ih =>
    rw [octetLength_cons]
    exact Nat.le_add_left_of_le ih
  | cons_cons c _ ih =>
    rw [octetLength_cons, octetLength_cons]
    exact Nat.add_le_add_left ih _

end Path

namespace File

variable {tree : Tree} {path : Text} {content : Octets}

theorem Place.start_eq (path : Text) :
    start path = ⟨if path.head? = some (CodePoint.ofChar '/') then .top else .above 0, []⟩ := by
  cases path with
  | nil => rfl
  | cons c path =>
    have front : (Text.ofString "/").isPrefixOf (c :: path) = (CodePoint.ofChar '/' == c) :=
      Bool.and_true _
    rw [start, front, List.head?_cons]
    simp only [beq_iff_eq, Option.some.injEq, eq_comm (a := c)]

namespace Tree

/-- A path leads to a file if its names do, and if it is not too long and does not ask for a
directory. -/
theorem find_eq_file_iff : tree.find path = .ok (.file content) ↔
    path ≠ [] ∧ Path.octetLength path ≤ pathLimit ∧
      tree.follow (Place.start path) (Path.names path) = .ok (.file content) ∧
      (Path.pieces path).getLast? ≠ some [] ∧
      (Path.pieces path).getLast? ≠ some (Text.ofString ".") := by
  rw [find]
  split
  · rename_i none
    exact iff_of_false nofun fun found => found.1 none
  · rename_i present
    split
    · rename_i long
      exact iff_of_false nofun fun found => Nat.not_lt.mpr found.2.1 long
    · rename_i short
      have short := Nat.not_lt.mp short
      split
      · rename_i other followed
        dsimp only
        rw [followed]
        split
        · rename_i directory
          rw [Bool.or_eq_true, decide_eq_true_iff, decide_eq_true_iff] at directory
          refine iff_of_false nofun fun found => ?_
          rcases directory with empty | point
          · exact found.2.2.2.1 empty
          · exact found.2.2.2.2 point
        · rename_i final
          rw [Bool.or_eq_true, decide_eq_true_iff, decide_eq_true_iff, not_or] at final
          exact ⟨fun found => ⟨present, short, found, final⟩, fun found => found.2.2.1⟩
      · rename_i other
        refine iff_of_false ?_ fun found => ?_
        · exact fun found => other content found
        · exact other content found.2.2.1

theorem names_ne_nil (found : tree.find path = .ok (.file content)) : Path.names path ≠ [] := by
  obtain ⟨-, -, followed, -⟩ := find_eq_file_iff.mp found
  intro none
  rw [none] at followed
  cases followed

/-- The normal form of a path to a file leads to the same file. -/
theorem find_normalized (found : tree.find path = .ok (.file content)) :
    tree.find (Path.normalized path) = .ok (.file content) := by
  have named := names_ne_nil found
  obtain ⟨present, short, followed, -⟩ := find_eq_file_iff.mp found
  have start : Place.start (Path.normalized path) = Place.start path := by
    simp only [Place.start_eq, Path.head?_normalized named]
  refine find_eq_file_iff.mpr ⟨?_, ?_, ?_, ?_, ?_⟩
  · intro none
    have same := Path.names_normalized named
    rw [none] at same
    exact named same.symm
  · exact Nat.le_trans (Path.octetLength_le (Path.normalized_sublist named)) short
  · rw [start, Path.names_normalized named]
    exact followed
  · exact fun last => (Path.isName_of_getLast?_normalized named last).present rfl
  · exact fun last => (Path.isName_of_getLast?_normalized named last).moves rfl

end Tree

end File

end SelectorProse
