import MultisetSubstitution.Console.Completion
import MultisetSubstitution.Files.Tree
import MultisetSubstitution.Main
import MultisetSubstitution.Proofs.Derivation
import MultisetSubstitution.Proofs.Membership
import MultisetSubstitution.Proofs.NormalForm
import MultisetSubstitution.Proofs.Reloading
import MultisetSubstitution.RuleSet.Table
import MultisetSubstitution.Selection
import MultisetSubstitution.Proofs.Balance
import MultisetSubstitution.Proofs.Transposition
import MultisetSubstitution.Proofs.Restriction
import MultisetSubstitution.Proofs.Conversation
import MultisetSubstitution.Proofs.Deeds
import MultisetSubstitution.Proofs.FileLoading
import MultisetSubstitution.Proofs.Modes
import MultisetSubstitution.Proofs.Presentation
import MultisetSubstitution.Proofs.Requests
import MultisetSubstitution.Proofs.Status
import MultisetSubstitution.Proofs.Grammar
import MultisetSubstitution.Proofs.Accounting
import MultisetSubstitution.Proofs.Comments
import MultisetSubstitution.Proofs.Confinement
import MultisetSubstitution.Proofs.Registration
import MultisetSubstitution.Proofs.Bounds
import MultisetSubstitution.Proofs.Lightening
import MultisetSubstitution.Proofs.Sustenance
import MultisetSubstitution.Proofs.Resumption
import MultisetSubstitution.Proofs.Recognition
import MultisetSubstitution.Proofs.Matching
import MultisetSubstitution.Proofs.Printing
import MultisetSubstitution.Proofs.Sides
import MultisetSubstitution.Proofs.Refusal
import MultisetSubstitution.Proofs.Description
import MultisetSubstitution.Proofs.Rebuilding
