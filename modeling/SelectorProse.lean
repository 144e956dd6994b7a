import SelectorProse.Generator.Session
import SelectorProse.Main
import SelectorProse.Proofs.Describer.EmptyName
import SelectorProse.Proofs.Describer.Rendering
import SelectorProse.Proofs.Generator.Tee
import SelectorProse.Proofs.Script.Load
import SelectorProse.Proofs.Session.Stored
import SelectorProse.Report
import SelectorProse.Proofs.Describer.Operation
import SelectorProse.Proofs.File.Path
import SelectorProse.Proofs.Text.ControlSequence
import SelectorProse.Proofs.Cli.Outcome
import SelectorProse.Proofs.Session.Replayed
import SelectorProse.Proofs.Describer.Atomic
import SelectorProse.Proofs.Describer.Trimmed
import SelectorProse.Proofs.Describer.Supplied
import SelectorProse.Proofs.Script.IllTyped
import SelectorProse.Proofs.Describer.Announced
