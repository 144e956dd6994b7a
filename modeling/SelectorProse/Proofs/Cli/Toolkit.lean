import SelectorProse.Cli.Toolkit
import SelectorProse.Proofs.Text.ControlSequence
import SelectorProse.Proofs.Text.Utf8
import SelectorProse.Proofs.Json.Printed

/-!
What the program relies on in the toolkit that it is built on. Main statement: the toolkit that the
program runs on keeps these laws.
-/

set_option autoImplicit false

namespace SelectorProse.Cli.Toolkit

/-- The laws of a toolkit, which leave open how it reads the arguments. -/
structure Lawful (kit : Toolkit) : Prop where
  /-- A file at the path is enough, if nothing was given behind it. -/
  admits (request : Request) : request.extra = [] → request.script.contains '\x00' = false →
    kit.refused? request .file = none
  /-- Of a message nothing is hidden but control sequences. -/
  seen (message : Text) : message.SeenAs (kit.printed message)

section

variable {kit : Toolkit}

/-- The end of a line is seen whatever stands before it. -/
theorem Lawful.printed_line (lawful : kit.Lawful) (message : Text) :
    ∃ seen, message.SeenAs seen ∧
      kit.printed (message ++ Text.ofString "\n") = seen ++ Text.ofString "\n" :=
  (lawful.seen _).exists_of_append_singleton (by decide)

/-- What is written of a line that starts with words that can be printed. -/
theorem Lawful.printedError_line (lawful : kit.Lawful) {lead : Text} (printed : Json.Printed lead)
    (message : Text) :
    ∃ seen, message.SeenAs seen ∧
      kit.printedError (lead ++ message ++ Text.ofString "\n") =
        lead ++ Utf8.escapeSurrogates seen ++ Text.ofString "\n" := by
  have unescaped : CodePoint.ofChar '\x1b' ∉ lead := fun member =>
    absurd (printed _ member) (by decide)
  have whole : ∀ c ∈ lead, c.isSurrogate = false := by
    intro c member
    have below := printed.ascii c member
    simp only [CodePoint.isSurrogate, Bool.and_eq_false_iff, decide_eq_false_iff_not]
    omega
  obtain ⟨seen, shown, line⟩ := lawful.printed_line (lead ++ message)
  obtain ⟨rest, behind, rfl⟩ := shown.exists_of_plain_append unescaped
  refine ⟨rest, behind, ?_⟩
  rw [printedError, line, Utf8.escapeSurrogates_append, Utf8.escapeSurrogates_append,
    Utf8.escapeSurrogates_eq_self whole]
  rfl

/-- Only surrogates keep a text from being printed, and none of them is hidden. -/
theorem Lawful.encodeFault?_printed_eq_none_iff (lawful : kit.Lawful) (text : Text) :
    Utf8.encodeFault? (kit.printed (text ++ Text.ofString "\n")) = none ↔
      ∀ c ∈ text, c.isSurrogate = false := by
  have seen (c : CodePoint) (surrogate : c.isSurrogate = true) :
      c ∈ kit.printed (text ++ Text.ofString "\n") ↔ c ∈ text := by
    have beyond : 0x80 ≤ c.val := by
      simp only [CodePoint.isSurrogate, Bool.and_eq_true, decide_eq_true_eq] at surrogate
      omega
    rw [(lawful.seen _).mem_iff beyond, List.mem_append]
    refine or_iff_left fun ending => ?_
    rw [List.mem_singleton.mp ending] at surrogate
    cases surrogate
  rw [Utf8.encodeFault?_eq_none_iff]
  refine forall_congr' fun c => ?_
  cases surrogate : c.isSurrogate with
  | false => exact iff_of_true (fun _ => rfl) fun _ => rfl
  | true => rw [seen c surrogate]

end

theorem lawful_standard : standard.Lawful where
  admits request alone clean := by
    change refuse? request .file = none
    rw [refuse?, if_neg (Bool.eq_false_iff.mp clean)]
    exact if_pos alone
  seen := Text.seenAs_removeControlSequences

/-- The arguments that ask for a description, with each flag or without it. -/
def describeArguments (verbose legacy : Bool) (script : Text) : List Text :=
  (if verbose then [Text.ofString "--verbose"] else []) ++ Text.ofString "describe" ::
    (if legacy then [Text.ofString "--legacy-dash-match"] else []) ++ [Text.ofString "--", script]

theorem plan_describeArguments (verbose legacy : Bool) (script : Text) :
    standard.plan (describeArguments verbose legacy script) =
      .describe { verbose, legacy, script, extra := [] } := by
  cases verbose <;> cases legacy <;> rfl

end SelectorProse.Cli.Toolkit
