import ByteMachine.Architecture
import ByteMachine.Instruction.Listing
import ByteMachine.Machine.Operation
import ByteMachine.Main
import ByteMachine.Proofs.Acceptance
import ByteMachine.Proofs.ArgumentGrammar
import ByteMachine.Proofs.ArithmeticUnit
import ByteMachine.Proofs.Casts
import ByteMachine.Proofs.Comparisons
import ByteMachine.Proofs.Discriminants
import ByteMachine.Proofs.Divergence
import ByteMachine.Proofs.Encoding
import ByteMachine.Proofs.ExitCodes
import ByteMachine.Proofs.Faults
import ByteMachine.Proofs.FieldEffects
import ByteMachine.Proofs.Footprint
import ByteMachine.Proofs.Grammar
import ByteMachine.Proofs.Images
import ByteMachine.Proofs.Invocations
import ByteMachine.Proofs.Iteration
import ByteMachine.Proofs.JoinedTexts
import ByteMachine.Proofs.Layouts
import ByteMachine.Proofs.Lifecycle
import ByteMachine.Proofs.Loading
import ByteMachine.Proofs.Logging
import ByteMachine.Proofs.Provenance
import ByteMachine.Proofs.RegisterRenaming
import ByteMachine.Proofs.Repairs
import ByteMachine.Proofs.Spellings
import ByteMachine.Proofs.Stack
import ByteMachine.Proofs.StraightLine
import ByteMachine.Proofs.Tags
import ByteMachine.Proofs.TraceLines
import ByteMachine.Proofs.Tracing
import ByteMachine.Proofs.Warnings
import ByteMachine.Proofs.Wrapping
import ByteMachine.Tagging.Expansion
import ByteMachine.Proofs.LogSettings
