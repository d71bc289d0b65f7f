import Stencil.Instruction.Flat
import Stencil.Main
import Stencil.Proofs.Disassembly
import Stencil.Proofs.Printing
import Stencil.Session
import Stencil.Proofs.Viability
import Stencil.Proofs.Placement
import Stencil.Proofs.Sessions
import Stencil.Proofs.TemplateMarks
import Stencil.Proofs.Composition
import Stencil.Proofs.FailureStages
import Stencil.Proofs.Layout
import Stencil.Proofs.Literals
import Stencil.Proofs.CommandRuns
import Stencil.Proofs.LetterCase
import Stencil.Proofs.EncodingChecks
import Stencil.Proofs.Requests
import Stencil.Proofs.Listings
import Stencil.Proofs.PatchLaws
import Stencil.Proofs.SlotChecks
import Stencil.Proofs.TokenPlaces
import Stencil.Proofs.IllegalBytes
import Stencil.Proofs.WordAccess
import Stencil.Proofs.AssemblyLog
import Stencil.Proofs.Dumps
import Stencil.Proofs.Highlights
