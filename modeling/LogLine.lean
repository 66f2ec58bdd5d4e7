import LogLine.Proofs.Color.Palettes
import LogLine.Proofs.Color.Spans
import LogLine.Proofs.Configuration
import LogLine.Proofs.Format.AlternateForm
import LogLine.Proofs.Format.General
import LogLine.Proofs.Format.Integers
import LogLine.Proofs.Format.SpecWriting
import LogLine.Proofs.LevelMap.History
import LogLine.Proofs.Logging
import LogLine.Proofs.Rendering.Blocks
import LogLine.Proofs.Rendering.History
import LogLine.Proofs.Rendering.MissingFields
import LogLine.Proofs.Rendering.PaddingOnly
import LogLine.Proofs.SetupFaults
import LogLine.Proofs.Template.BlankSpecs
import LogLine.Proofs.Template.Concatenation
import LogLine.Proofs.Template.GroupMarkup
import LogLine.Proofs.Template.ResolvedSpecs
import LogLine.Proofs.Template.UnknownNames
import LogLine.Proofs.Template.Violations
import LogLine.Proofs.Text.Quoting
