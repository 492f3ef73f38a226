import LinearProgram.Line.Grammar
import LinearProgram.Main
import LinearProgram.Proofs.CanonicalForm
import LinearProgram.Proofs.Certificate
import LinearProgram.Proofs.Mirror
import LinearProgram.Proofs.OptimalFace
import LinearProgram.Proofs.Unboundedness
import LinearProgram.Proofs.WellFormed
import LinearProgram.Proofs.Shape
import LinearProgram.Proofs.Replay
import LinearProgram.Proofs.IterationCap
import LinearProgram.Proofs.Renaming
import LinearProgram.Proofs.Stalling
import LinearProgram.Proofs.RenamedLines
import LinearProgram.Proofs.ExitCodes
import LinearProgram.Proofs.WrittenProblem
import LinearProgram.Proofs.RatioTest
import LinearProgram.Proofs.SameBasis
import LinearProgram.Proofs.CheckedPivot
import LinearProgram.Proofs.SurplusRows
import LinearProgram.Proofs.CheckedRun
import LinearProgram.Proofs.Spacing
import LinearProgram.Proofs.ReadSlices
import LinearProgram.Proofs.FirstFault
import LinearProgram.Proofs.Comments
import LinearProgram.Proofs.Segments
import LinearProgram.Proofs.SignBounds
import LinearProgram.Proofs.WrittenLines
import LinearProgram.Proofs.RenderedTableaux
import LinearProgram.Proofs.FirstExtremes
import LinearProgram.Proofs.Densifying
import LinearProgram.Proofs.FreshNames
import LinearProgram.Proofs.PivotLoop
