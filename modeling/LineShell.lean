import LineShell.Main
import LineShell.Session
import LineShell.Proofs.Boundary
import LineShell.Proofs.Segmentation
import LineShell.Proofs.OpenText
import LineShell.Proofs.Position
import LineShell.Proofs.Shape
import LineShell.Proofs.Interleaving
import LineShell.Proofs.Renaming
import LineShell.Proofs.Joining
import LineShell.Proofs.RoundTrip
import LineShell.Proofs.NormalForm
import LineShell.Proofs.Quoting
import LineShell.Proofs.Escaping
import LineShell.Proofs.Summary
import LineShell.Proofs.Literals
import LineShell.Proofs.Identity
import LineShell.Proofs.Files
import LineShell.Proofs.Retention
import LineShell.Proofs.Transcript
import LineShell.Proofs.Stages
import LineShell.Proofs.Continuity
import LineShell.Proofs.FailedLoad
import LineShell.Proofs.Cursor
import LineShell.Proofs.Progress
import LineShell.Proofs.Stepping
import LineShell.Proofs.FailedStart
import LineShell.Proofs.Filtering
