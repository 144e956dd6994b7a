import SelectorProse.Proofs.Json.LineEnds
import SelectorProse.Proofs.Json.Printed
import SelectorProse.Proofs.Script.Canonical
import SelectorProse.Proofs.Text.Utf8

/-!
Scripts from files. Main statement: the line ends of a file do not decide what it is loaded as, so
that a walk that was stored with any line ends is loaded again.
-/

set_option autoImplicit false

namespace SelectorProse.Script

/-- Outcomes that differ at most in what is malformed in a document, and where. -/
inductive Alike : Except Fault (List Event) → Except Fault (List Event) → Prop
  | refl (outcome : Except Fault (List Event)) : Alike outcome outcome
  | malformed (problem other : Json.Problem) (place elsewhere : Json.Place) :
    Alike (.error (.rejected .null (.malformed problem place)))
      (.error (.rejected .null (.malformed other elsewhere)))

/-- Sources that are read alike have like outcomes. -/
theorem parse_alike {first second : Text}
    (same : Json.Alike (Json.read first) (Json.read second)) :
    Alike (parse first) (parse second) := by
  rw [parse, parse]
  generalize Json.read first = left at same
  generalize Json.read second = right at same
  cases same with
  | malformed problem other offset place => exact .malformed ..
  | refl =>
    cases left with
    | ok value => exact .refl _
    | error fault =>
      cases fault with
      | malformed problem offset => exact .malformed ..
      | integerTooLong digits => exact .refl _
      | tooDeep container => exact .refl _

theorem parse_unifyLineEnds (source : Text) :
    Alike (parse source.unifyLineEnds) (parse source) :=
  parse_alike (Json.read_unifyLineEnds source)

/-- Every line end is made of characters of ASCII. -/
theorem ascii_withLineEnds {t ending : Text} (known : ending ∈ Text.lineEnds)
    (ascii : ∀ c ∈ t, c.val < 0x80) : ∀ c ∈ t.withLineEnds ending, c.val < 0x80 := by
  have parts : ∀ c ∈ ending, c.val < 0x80 := by
    have all : (Text.lineEnds.all fun ending => ending.all fun c => decide (c.val < 0x80)) =
        true := by decide
    have each := List.all_eq_true.mp (List.all_eq_true.mp all ending known)
    exact fun c member => of_decide_eq_true (each c member)
  intro c member
  obtain ⟨d, present, inside⟩ := List.mem_flatMap.mp member
  split at inside
  · exact parts c inside
  · rw [List.mem_singleton.mp inside]
    exact ascii d present

/-- At this path there is a file that holds this text in UTF-8. -/
structure HoldsText (tree : File.Tree) (path source : Text) : Prop where
  clean : path.contains '\x00' = false
  octets : ∃ content, opened tree path = .ok content ∧ Utf8.decode content = .ok source

section

variable {tree : File.Tree} {path source : Text}

theorem HoldsText.load_eq (holds : HoldsText tree path source) :
    load tree path = parse source.unifyLineEnds := by
  obtain ⟨clean, content, found, decoded⟩ := holds
  have allowed : ofOpened path (.ok content) = ofOctets path content :=
    if_neg (Bool.eq_false_iff.mp clean)
  rw [load, found, allowed, ofOctets, decoded]

/-- A document of storable events is loaded from a file, whatever its line ends are. -/
theorem HoldsText.load_written {events : List Event} {ending : Text}
    (storable : ∀ event ∈ events, event.Storable) (known : ending ∈ Text.lineEnds)
    (holds : HoldsText tree path
      ((Json.written 0 (.list (events.map Event.toValue))).withLineEnds ending)) :
    load tree path = .ok events := by
  have noReturn : ∀ c ∈ Json.written 0 (.list (events.map Event.toValue)),
      c ≠ CodePoint.ofChar '\r' := by
    rintro c member rfl
    exact absurd (Json.printed_written 0 _ _ member) (by decide)
  rw [holds.load_eq, Text.unifyLineEnds_withLineEnds known noReturn]
  exact parse_written_of_storable storable

end

/-- A file is loaded as its text is with the line ends left as they are, but for what is malformed
and where. A walk that was stored with any one line end is loaded as it was. -/
theorem load_alike :
    (∀ tree path source, HoldsText tree path source → Alike (load tree path) (parse source)) ∧
      ∀ events : List Event, (∀ event ∈ events, event.Storable) →
        ∃ document, dump? events = some document ∧ ∀ ending ∈ Text.lineEnds,
          (∃ content, Utf8.decode content = .ok (document.withLineEnds ending)) ∧
          ∀ tree path, HoldsText tree path (document.withLineEnds ending) →
            load tree path = .ok events := by
  constructor
  · intro tree path source holds
    rw [holds.load_eq]
    exact parse_unifyLineEnds source
  · intro events storable
    have stored := dump?_eq fun event member => (storable event member).writable
    refine ⟨_, stored, fun ending known => ⟨⟨_, Utf8.decode_asciiOctets ?_⟩, ?_⟩⟩
    · apply ascii_withLineEnds known
      intro c member
      rcases Json.isPrinted_iff.mp (Json.printed_written 0 _ c member) with rfl | visible
      · decide
      · omega
    · intro tree path holds
      exact holds.load_written storable known

/-- A walk with a line feed in a name. -/
def brokenNameWalk : List Event := [.init, .type (.text [.ofChar 'a', .ofChar '\n', .ofChar 'b'])]

/-- The walk is stored with two characters for each line end. -/
theorem load_alike_brokenNameWalk :
    ∃ document content, dump? brokenNameWalk = some document ∧
      Utf8.decode content = .ok (document.withLineEnds ['\r', '\n']) ∧
      load (File.Tree.empty.addFile (Text.ofString "walks/one.json") content)
        (Text.ofString "walks/one.json") = .ok brokenNameWalk := by
  have wellTyped : ∀ event ∈ brokenNameWalk, event.WellTyped := by decide
  have writable : ∀ event ∈ brokenNameWalk, event.Writable := by decide +kernel
  have unpaired : ∀ event ∈ brokenNameWalk, ∀ t, Value.text t ∈ event.arguments → t.Unpaired := by
    simp only [brokenNameWalk, List.forall_mem_cons]
    refine ⟨?_, ?_, List.forall_mem_nil _⟩
    · intro t impossible
      cases impossible
    · intro t carried
      cases List.mem_singleton.mp carried
      exact ⟨by decide, by decide, trivial⟩
  have found (content : Octets) : opened (File.Tree.empty.addFile (Text.ofString "walks/one.json")
      content) (Text.ofString "walks/one.json") = .ok content := rfl
  obtain ⟨document, stored, restored⟩ := load_alike.2 brokenNameWalk fun event member =>
    ⟨wellTyped event member, writable event member, unpaired event member⟩
  obtain ⟨⟨content, decoded⟩, loaded⟩ := restored ['\r', '\n'] (by decide)
  exact ⟨document, content, stored, decoded, loaded _ _ ⟨by decide, content, found _, decoded⟩⟩

end SelectorProse.Script
