import Manuscript.Main
import Manuscript.Options.Json
import Manuscript.Proofs.ExtractedFigures
import Manuscript.Proofs.LifeCycle
import Manuscript.Proofs.WellNested
import Manuscript.Template.Value.Json
import Manuscript.Proofs.Delivery
import Manuscript.Proofs.CarriedText
import Manuscript.Proofs.DocumentText
import Manuscript.Proofs.Listing
import Manuscript.Proofs.LiteralText
import Manuscript.Proofs.Containment
import Manuscript.Proofs.TargetLabels
import Manuscript.Proofs.TextKept
import Manuscript.Proofs.PackageLookup
import Manuscript.Proofs.OutdatedOutput
import Manuscript.Proofs.PlainStrings
import Manuscript.Proofs.ArticleText
import Manuscript.Proofs.BibliographyFile
import Manuscript.Proofs.PlaceResolution
import Manuscript.Proofs.RenderingEnds
import Manuscript.Proofs.TargetKinds
import Manuscript.Proofs.BlankRuns
import Manuscript.Proofs.TidiedText
import Manuscript.Proofs.EscapedText
import Manuscript.Proofs.PlainProse
import Manuscript.Proofs.SeparatedBlocks
import Manuscript.Proofs.EscapedEntry
import Manuscript.Proofs.EntryRecords
import Manuscript.Proofs.CellText
import Manuscript.Proofs.TabularRows
import Manuscript.Proofs.Interleaving
import Manuscript.Proofs.LinkTargets
import Manuscript.Proofs.InlineMath
import Manuscript.Proofs.OptionalArguments
import Manuscript.Proofs.Traversals
import Manuscript.Proofs.MetadataText
import Manuscript.Proofs.FailureReports
import Manuscript.Proofs.HeadingLevels
import Manuscript.Proofs.NodeHistories
