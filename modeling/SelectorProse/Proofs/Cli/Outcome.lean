import SelectorProse.Proofs.Cli.Toolkit
import SelectorProse.Proofs.Describer.EmptyName
import SelectorProse.Proofs.File.Path
import SelectorProse.Proofs.Script.Load

/-!
What the program makes of a script's file, on any toolkit that keeps its laws. Main statement: every
content of the file leads to one of a few outcomes, only a text that was told and can be written
ends well, and nothing is printed otherwise.
-/

set_option autoImplicit false

namespace SelectorProse

/-- At this path there is a file with this content. -/
structure File.Tree.Holds (tree : File.Tree) (path : Text) (content : Octets) : Prop where
  clean : path.contains '\x00' = false
  found : tree.find path = .ok (.file content)

namespace Script

variable {tree : File.Tree} {path : Text} {content : Octets}

theorem opened_of_holds (holds : tree.Holds path content) : opened tree path = .ok content := by
  rw [opened, File.Tree.find_normalized holds.found]

theorem load_of_holds (holds : tree.Holds path content) :
    load tree path = ofOctets path content := by
  rw [load, opened_of_holds holds]
  exact if_neg (Bool.eq_false_iff.mp holds.clean)

/-- What keeps a file's content from being loaded as a script. -/
theorem ofOctets_error {fault : Fault} (failed : ofOctets path content = .error fault) :
    (∃ index defect, fault = .rejected index defect) ∨
      (∃ digits, fault = .integerTooLong digits) ∨ ∃ container, fault = .tooDeep container := by
  rw [ofOctets] at failed
  split at failed
  · rename_i source decoded
    have outcome := outcome_parse source.unifyLineEnds
    rw [failed] at outcome
    cases outcome with
    | malformed | withoutEvents | notAList => exact .inl ⟨_, _, rfl⟩
    | integerTooLong => exact .inr (.inl ⟨_, rfl⟩)
    | tooDeep => exact .inr (.inr ⟨_, rfl⟩)
    | rejected => exact .inl ⟨_, _, rfl⟩
  · cases failed
    exact .inl ⟨_, _, rfl⟩

theorem parse_of_ofOctets {events : List Event} (success : ofOctets path content = .ok events) :
    ∃ source, parse source = .ok events := by
  rw [ofOctets] at success
  split at success
  · exact ⟨_, success⟩
  · cases success

end Script

namespace Cli

/-- A script that was loaded is told by this text. -/
def Tells (legacy : Bool) (loaded : Except Script.Fault (List Event)) (text : Text) : Prop :=
  ∃ events, loaded = .ok events ∧
    (describe { legacyDashMatch := .bool legacy } events).result = .ok text

section

variable {kit : Toolkit} {verbose legacy : Bool} {events : List Event} {text : Text}
  {loaded : Except Script.Fault (List Event)}

/-- What a request for a log shows of it. -/
def shownLog (verbose : Bool) (log : List LogEntry) : Text := if verbose then logLines log else []

theorem ofDescription_of_clear (lawful : kit.Lawful) {description : Description}
    (told : description.result = .ok text) (clear : ∀ c ∈ text, c.isSurrogate = false) :
    ofDescription kit verbose description =
      { exitCode := 0, out := kit.printed (text ++ Text.ofString "\n"),
        err := shownLog verbose description.log } := by
  have writable := (lawful.encodeFault?_printed_eq_none_iff text).mpr clear
  simp only [ofDescription, told, writable]
  rfl

theorem ofDescription_of_surrogate (lawful : kit.Lawful) {description : Description}
    {c : CodePoint} (told : description.result = .ok text) (member : c ∈ text)
    (surrogate : c.isSurrogate = true) :
    ∃ fault, ofDescription kit verbose description =
      .crash (shownLog verbose description.log) (.unencodable fault) := by
  have writable := mt (lawful.encodeFault?_printed_eq_none_iff text).mp fun clear =>
    Bool.false_ne_true ((clear c member).symm.trans surrogate)
  obtain ⟨fault, unwritable⟩ := Option.ne_none_iff_exists'.mp writable
  refine ⟨fault, ?_⟩
  simp only [ofDescription, told, unwritable]
  rfl

theorem ofDescription_of_fault (lawful : kit.Lawful) {description : Description} {part : Part}
    (failed : description.result = .error (.event (.emptyName part))) :
    ofDescription kit verbose description =
      { exitCode := 1,
        err := shownLog verbose description.log ++ (Text.ofString "Invalid event: " ++
          (DescribeFault.event (.emptyName part)).message ++ Text.ofString "\n") } := by
  have printed : Json.Printed (Text.ofString "Invalid event: " ++
      (DescribeFault.event (.emptyName part)).message) := by
    cases part <;> exact Json.printed_of_all (by decide)
  obtain ⟨seen, shown, line⟩ := lawful.printedError_line printed []
  cases shown
  rw [Utf8.escapeSurrogates, List.flatMap_nil, List.append_nil] at line
  simp only [ofDescription, failed, failure]
  rw [line]
  rfl

/-- The script was loaded and is told by a text that can be written. -/
def Printable (legacy : Bool) (loaded : Except Script.Fault (List Event)) : Prop :=
  ∃ text, Tells legacy loaded text ∧ ∀ c ∈ text, c.isSurrogate = false

theorem ofScript_of_tells (lawful : kit.Lawful) (verbose : Bool)
    (tells : Tells legacy loaded text) (clear : ∀ c ∈ text, c.isSurrogate = false) :
    (ofScript kit verbose legacy loaded).exitCode = 0 ∧
      (ofScript kit verbose legacy loaded).out = kit.printed (text ++ Text.ofString "\n") := by
  obtain ⟨events, rfl, told⟩ := tells
  rw [ofScript, ofDescription_of_clear lawful told clear]
  exact ⟨rfl, rfl⟩

theorem ofScript_of_surrogate (lawful : kit.Lawful) (verbose : Bool) {c : CodePoint}
    (tells : Tells legacy loaded text) (member : c ∈ text) (surrogate : c.isSurrogate = true) :
    ∃ log fault, ofScript kit verbose legacy loaded = .crash log (.unencodable fault) := by
  obtain ⟨events, rfl, told⟩ := tells
  obtain ⟨fault, crashed⟩ := ofDescription_of_surrogate lawful told member surrogate
  exact ⟨_, fault, crashed⟩

/-- Whatever cannot be printed as a whole is not printed at all. -/
theorem ofScript_of_not_printable (lawful : kit.Lawful) (verbose : Bool)
    (fails : ¬ Printable legacy loaded) :
    (ofScript kit verbose legacy loaded).exitCode = 1 ∧
      (ofScript kit verbose legacy loaded).out = [] := by
  cases loaded with
  | error fault => cases fault <;> exact ⟨rfl, rfl⟩
  | ok events =>
    cases told : (describe { legacyDashMatch := .bool legacy } events).result with
    | error fault =>
      simp only [ofScript, ofDescription, told]
      split <;> exact ⟨rfl, rfl⟩
    | ok text =>
      have tells : Tells legacy (.ok events) text := ⟨events, rfl, told⟩
      by_cases clear : ∀ c ∈ text, c.isSurrogate = false
      · exact absurd ⟨text, tells, clear⟩ fails
      · simp only [not_forall, Bool.not_eq_false] at clear
        obtain ⟨c, member, surrogate⟩ := clear
        obtain ⟨log, fault, crashed⟩ := ofScript_of_surrogate lawful verbose tells member surrogate
        rw [crashed]
        exact ⟨rfl, rfl⟩

/-- A log among the errors changes neither the exit code nor what is printed. -/
theorem ofScript_alike (lawful : kit.Lawful) (verbose spoken legacy : Bool)
    (loaded : Except Script.Fault (List Event)) :
    (ofScript kit verbose legacy loaded).exitCode = (ofScript kit spoken legacy loaded).exitCode ∧
      (ofScript kit verbose legacy loaded).out = (ofScript kit spoken legacy loaded).out := by
  by_cases printable : Printable legacy loaded
  · obtain ⟨text, tells, clear⟩ := printable
    obtain ⟨zero, printed⟩ := ofScript_of_tells lawful verbose tells clear
    obtain ⟨zero', printed'⟩ := ofScript_of_tells lawful spoken tells clear
    exact ⟨zero.trans zero'.symm, printed.trans printed'.symm⟩
  · obtain ⟨one, nothing⟩ := ofScript_of_not_printable lawful verbose printable
    obtain ⟨one', nothing'⟩ := ofScript_of_not_printable lawful spoken printable
    exact ⟨one.trans one'.symm, nothing.trans nothing'.symm⟩

theorem ofScript_rejected (lawful : kit.Lawful) (verbose legacy : Bool) (index : Value)
    (defect : Script.Defect) :
    ∃ seen, (Script.Fault.rejected index defect).message.SeenAs seen ∧
      ofScript kit verbose legacy (.error (.rejected index defect)) =
        { exitCode := 1,
          err := Text.ofString "Script error: " ++ Utf8.escapeSurrogates seen ++
            Text.ofString "\n" } := by
  have printed : Json.Printed (Text.ofString "Script error: ") := Json.printed_of_all (by decide)
  obtain ⟨seen, shown, line⟩ :=
    lawful.printedError_line printed (Script.Fault.rejected index defect).message
  refine ⟨seen, shown, ?_⟩
  rw [← line]
  rfl

end

/-- Of the events of a script, only an empty name is refused. -/
theorem exists_emptyName_of_describe {source : Text} {events : List Event} {legacy : Bool}
    {fault : DescribeFault} (success : Script.parse source = .ok events)
    (failed : (describe { legacyDashMatch := .bool legacy } events).result = .error fault) :
    ∃ part, fault = .event (.emptyName part) := by
  have named : (Config.logger? { legacyDashMatch := .bool legacy }).isSome = true :=
    Config.isSome_logger? (.inl ⟨_, rfl⟩)
  obtain ⟨found, first, rfl⟩ := (result_describe_eq_error_iff named).mp failed
  rw [Script.findSome?_fault?_of_parse success, Option.map_eq_some_iff] at first
  obtain ⟨part, -, rfl⟩ := first
  exact ⟨part, rfl⟩

section

variable {kit : Toolkit} {tree : File.Tree} {path : Text} {content : Octets}
  {verbose legacy : Bool} {arguments : List Text}

/-- What arguments come to that ask for the description of a script. -/
theorem run_of_plan (lawful : kit.Lawful)
    (asks : kit.plan arguments = .describe { verbose, legacy, script := path, extra := [] })
    (holds : tree.Holds path content) :
    run kit tree arguments = ofScript kit verbose legacy (Script.load tree path) := by
  have there : standing tree path = .file := by rw [standing, holds.found]
  have admitted := lawful.admits ⟨verbose, legacy, path, []⟩ rfl holds.clean
  simp only [run, asks, there, Request.outcome, admitted]
  rfl

/-- Every content of a script's file has one of these outcomes: a text is printed, of which control
sequences may be hidden, if the script is told by one and it has no surrogate; a script that is
rejected and an empty name are reported; what is beyond reading or writing is not caught. No failure
prints anything, and the log changes neither what is printed nor the exit code. -/
theorem run_script (lawful : kit.Lawful)
    (asks : kit.plan arguments = .describe { verbose, legacy, script := path, extra := [] })
    (holds : tree.Holds path content) :
    let outcome := run kit tree arguments
    let loaded := Script.load tree path
    (outcome.exitCode = 0 ↔ Printable legacy loaded) ∧
      (∀ text, Tells legacy loaded text → (∀ c ∈ text, c.isSurrogate = false) →
        outcome.out = kit.printed (text ++ Text.ofString "\n") ∧
          ∃ seen, text.SeenAs seen ∧ outcome.out = seen ++ Text.ofString "\n" ∧
            (CodePoint.ofChar '\x1b' ∉ text → seen = text)) ∧
      (∀ index defect, loaded = .error (.rejected index defect) →
        outcome.exitCode = 1 ∧ outcome.uncaught = none ∧
          ∃ seen, (Script.Fault.rejected index defect).message.SeenAs seen ∧
            Text.ofString "Script error: " ++ Utf8.escapeSurrogates seen ++ Text.ofString "\n" <:+
              outcome.err ∧
            (CodePoint.ofChar '\x1b' ∉ (Script.Fault.rejected index defect).message →
              seen = (Script.Fault.rejected index defect).message)) ∧
      (∀ events fault, loaded = .ok events →
        (describe { legacyDashMatch := .bool legacy } events).result = .error fault →
        outcome.exitCode = 1 ∧ outcome.uncaught = none ∧
          (∃ part, fault = .event (.emptyName part)) ∧
          Text.ofString "Invalid event: " ++ fault.message ++ Text.ofString "\n" <:+
            outcome.err) ∧
      (∀ fault, loaded = .error fault → (∀ index defect, fault ≠ .rejected index defect) →
        outcome.exitCode = 1 ∧ outcome.uncaught = some (.script fault) ∧
          ((∃ digits, fault = .integerTooLong digits) ∨
            ∃ container, fault = .tooDeep container)) ∧
      (∀ text, Tells legacy loaded text → (∃ c ∈ text, c.isSurrogate = true) →
        outcome.exitCode = 1 ∧ ∃ fault, outcome.uncaught = some (.unencodable fault)) ∧
      (outcome.exitCode ≠ 0 → outcome.exitCode = 1 ∧ outcome.out = []) ∧
      ∀ spoken other,
        kit.plan other = .describe { verbose := spoken, legacy, script := path, extra := [] } →
        (run kit tree other).exitCode = outcome.exitCode ∧
          (run kit tree other).out = outcome.out := by
  intro outcome loaded
  have ran : outcome = ofScript kit verbose legacy loaded := run_of_plan lawful asks holds
  have octets : loaded = Script.ofOctets path content := Script.load_of_holds holds
  rw [ran]
  refine ⟨⟨?_, ?_⟩, ?_, ?_, ?_, ?_, ?_, ?_, ?_⟩
  · intro zero
    by_contra fails
    cases zero.symm.trans (ofScript_of_not_printable lawful verbose fails).1
  · rintro ⟨text, tells, clear⟩
    exact (ofScript_of_tells lawful verbose tells clear).1
  · intro text tells clear
    have printed := (ofScript_of_tells lawful verbose tells clear).2
    obtain ⟨seen, shown, line⟩ := lawful.printed_line text
    exact ⟨printed, seen, shown, printed.trans line, shown.eq_self⟩
  · intro index defect rejected
    obtain ⟨seen, shown, reported⟩ := ofScript_rejected lawful verbose legacy index defect
    rw [rejected, reported]
    exact ⟨rfl, rfl, seen, shown, List.suffix_rfl, shown.eq_self⟩
  · intro events fault success failed
    rw [success] at octets ⊢
    obtain ⟨source, parsed⟩ := Script.parse_of_ofOctets octets.symm
    obtain ⟨part, rfl⟩ := exists_emptyName_of_describe parsed failed
    rw [ofScript, ofDescription_of_fault lawful failed]
    exact ⟨rfl, rfl, ⟨part, rfl⟩, List.suffix_append _ _⟩
  · intro fault failed other
    rw [failed] at octets ⊢
    rcases Script.ofOctets_error octets.symm with ⟨index, defect, rfl⟩ | ⟨digits, rfl⟩ |
      ⟨container, rfl⟩
    · exact absurd rfl (other index defect)
    · exact ⟨rfl, rfl, .inl ⟨digits, rfl⟩⟩
    · exact ⟨rfl, rfl, .inr ⟨container, rfl⟩⟩
  · rintro text tells ⟨c, member, surrogate⟩
    obtain ⟨log, fault, crashed⟩ := ofScript_of_surrogate lawful verbose tells member surrogate
    rw [crashed]
    exact ⟨rfl, fault, rfl⟩
  · intro failed
    by_cases printable : Printable legacy loaded
    · obtain ⟨text, tells, clear⟩ := printable
      exact absurd (ofScript_of_tells lawful verbose tells clear).1 failed
    · exact ofScript_of_not_printable lawful verbose printable
  · intro spoken other asks'
    rw [run_of_plan lawful asks' holds]
    exact ofScript_alike lawful spoken verbose legacy loaded

end

/-- What turns the text behind it red on a terminal. -/
def red : Text := Text.ofString "\x1b[31m"

theorem removeControlSequences_red {before behind : Text}
    (start : CodePoint.ofChar '\x1b' ∉ before) (rest : CodePoint.ofChar '\x1b' ∉ behind) :
    (before ++ (red ++ behind)).removeControlSequences = before ++ behind := by
  have passed : Text.afterControlSequence? (red ++ behind) = some behind :=
    Text.afterControlSequence?_opened (Text.ofString "31m" ++ behind)
  rw [Text.removeControlSequences_plain_append start, Text.removeControlSequences_of_some passed,
    (Text.seenAs_removeControlSequences behind).eq_self rest]

def redWalk : List Event := [.type (.text (red ++ Text.ofString "x"))]

/-- The octets of the walk's document. -/
def redContent : Octets :=
  Utf8.asciiOctets ((Json.written 0 (.list (redWalk.map Event.toValue))).withLineEnds ['\n'])

def redTree : File.Tree := File.Tree.empty.addFile (Text.ofString "s.json") redContent

theorem load_redTree {path : Text} (clean : path.contains '\x00' = false)
    (there : Script.opened redTree path = .ok redContent) :
    Script.load redTree path = .ok redWalk := by
  have known : [CodePoint.ofChar '\n'] ∈ Text.lineEnds := by decide
  have printed := Json.printed_written 0 (.list (redWalk.map Event.toValue))
  have decoded := Utf8.decode_asciiOctets (Script.ascii_withLineEnds known printed.ascii)
  exact Script.HoldsText.load_written (by decide +kernel) known ⟨clean, redContent, there, decoded⟩

def redText : Text := Text.ofString "with the <" ++ (red ++ Text.ofString "x> tag.")

theorem tells_redWalk (legacy : Bool) : Tells legacy (.ok redWalk) redText := by
  refine ⟨redWalk, rfl, ?_⟩
  cases legacy <;> rfl

theorem clear_redText : ∀ c ∈ redText, c.isSurrogate = false := by
  have each : redText.all (!·.isSurrogate) = true := by decide
  simpa only [List.all_eq_true, Bool.not_eq_true'] using each

theorem printed_redText : Toolkit.standard.printed (redText ++ Text.ofString "\n") =
    Text.ofString "with the <x> tag.\n" := by
  have line : redText ++ Text.ofString "\n" =
      Text.ofString "with the <" ++ (red ++ Text.ofString "x> tag.\n") := rfl
  rw [line]
  exact removeControlSequences_red (by decide) (by decide)

/-- A file whose name is red, and that is no text. -/
def redName : File.Tree := File.Tree.empty.addFile (red ++ Text.ofString "x") [0xFF]

def redDefect : Script.Defect :=
  .undecodable (red ++ Text.ofString "x") ⟨.invalidStart, [0xFF], 0⟩

theorem printedError_redDefect :
    Toolkit.standard.printedError (Text.ofString "Script error: " ++
        (Script.Fault.rejected .null redDefect).message ++ Text.ofString "\n") =
      Text.ofString "Script error: cannot read x: 'utf-8' codec can't decode byte 0xff " ++
        Text.ofString "in position 0: invalid start byte\n" := by
  have line : Text.ofString "Script error: " ++
      (Script.Fault.rejected .null redDefect).message ++ Text.ofString "\n" =
        Text.ofString "Script error: cannot read " ++ (red ++ (Text.ofString "x: " ++
          (Utf8.DecodeFault.mk .invalidStart [0xFF] 0).message ++ Text.ofString "\n")) := rfl
  have printed : Toolkit.standard.printed = Text.removeControlSequences := rfl
  rw [line, Toolkit.printedError, printed,
    removeControlSequences_red (by decide) (by decide +kernel)]
  decide +kernel

/-- What is seen need not be what the walk is told by, nor what a script is rejected with. -/
theorem seen_ne_red :
    Toolkit.standard.Lawful ∧
      Toolkit.standard.plan [Text.ofString "describe", Text.ofString "s.json"] =
        .describe ⟨false, false, Text.ofString "s.json", []⟩ ∧
      redTree.Holds (Text.ofString "s.json") redContent ∧
      (∃ text, Tells false (Script.load redTree (Text.ofString "s.json")) text ∧
        (∀ c ∈ text, c.isSurrogate = false) ∧
        (run .standard redTree [Text.ofString "describe", Text.ofString "s.json"]).exitCode = 0 ∧
        (run .standard redTree [Text.ofString "describe", Text.ofString "s.json"]).out ≠
          text ++ Text.ofString "\n") ∧
      redName.Holds (red ++ Text.ofString "x") [0xFF] ∧
      Script.load redName (red ++ Text.ofString "x") = .error (.rejected .null redDefect) ∧
      ¬ Text.ofString "Script error: " ++ (Script.Fault.rejected .null redDefect).message ++
          Text.ofString "\n" <:+
        (run .standard redName [Text.ofString "describe", red ++ Text.ofString "x"]).err := by
  have lawful := Toolkit.lawful_standard
  have asks : Toolkit.standard.plan [Text.ofString "describe", Text.ofString "s.json"] =
      .describe ⟨false, false, Text.ofString "s.json", []⟩ := rfl
  have asks' : Toolkit.standard.plan [Text.ofString "describe", red ++ Text.ofString "x"] =
      .describe ⟨false, false, red ++ Text.ofString "x", []⟩ := rfl
  have holds : redTree.Holds (Text.ofString "s.json") redContent := ⟨by decide, rfl⟩
  have holds' : redName.Holds (red ++ Text.ofString "x") [0xFF] := ⟨by decide, rfl⟩
  have tells := tells_redWalk false
  rw [← load_redTree holds.clean (Script.opened_of_holds holds)] at tells
  obtain ⟨zero, printed⟩ := ofScript_of_tells lawful false tells clear_redText
  have rejected : Script.load redName (red ++ Text.ofString "x") =
      .error (.rejected .null redDefect) := rfl
  have reported : (ofScript .standard false false (.error (.rejected .null redDefect))).err = _ :=
    printedError_redDefect
  refine ⟨lawful, asks, holds, ⟨redText, tells, clear_redText, ?_⟩, holds', rejected, ?_⟩
  · rw [run_of_plan lawful asks holds, printed, printed_redText]
    exact ⟨zero, by decide⟩
  · rw [run_of_plan lawful asks' holds', rejected, reported]
    exact fun ends => absurd ends.length_le (by decide +kernel)

theorem run_script_redWalk :
    Toolkit.standard.Lawful ∧
      Toolkit.standard.plan (Toolkit.describeArguments true true (Text.ofString "./s.json")) =
        .describe ⟨true, true, Text.ofString "./s.json", []⟩ ∧
      redTree.Holds (Text.ofString "./s.json") redContent ∧
      (run .standard redTree
        (Toolkit.describeArguments true true (Text.ofString "./s.json"))).exitCode = 0 ∧
      (run .standard redTree
          (Toolkit.describeArguments true true (Text.ofString "./s.json"))).out =
        Text.ofString "with the <x> tag.\n" ∧
      (run .standard redTree
          (Toolkit.describeArguments false true (Text.ofString "./s.json"))).out =
        Text.ofString "with the <x> tag.\n" := by
  have lawful := Toolkit.lawful_standard
  have asks := Toolkit.plan_describeArguments true true (Text.ofString "./s.json")
  have holds : redTree.Holds (Text.ofString "./s.json") redContent := ⟨by decide, rfl⟩
  have tells := tells_redWalk true
  rw [← load_redTree holds.clean (Script.opened_of_holds holds)] at tells
  obtain ⟨zero, printed, -, -, -, -, -, alike⟩ := run_script lawful asks holds
  have out := (printed redText tells clear_redText).1.trans printed_redText
  refine ⟨lawful, asks, holds, zero.mpr ⟨redText, tells, clear_redText⟩, out, ?_⟩
  exact (alike false _ (Toolkit.plan_describeArguments false true _)).2.trans out

end Cli

end SelectorProse
