import Bidirectional.CommandLine.Arguments
import Bidirectional.CommandLine.Output
import Bidirectional.Env
import Bidirectional.Error
import Bidirectional.Expr.Basic
import Bidirectional.Expr.Structure
import Bidirectional.Judgment.Basic
import Bidirectional.Judgment.Run
import Bidirectional.Log
import Bidirectional.Main
import Bidirectional.Program
import Bidirectional.Proofs.CommandLine.Runs
import Bidirectional.Proofs.Env.FiniteMap
import Bidirectional.Proofs.Env.Rendering
import Bidirectional.Proofs.Env.Writes
import Bidirectional.Proofs.Expr.Rendering
import Bidirectional.Proofs.Judgment.Answers
import Bidirectional.Proofs.Judgment.AppliedLambda
import Bidirectional.Proofs.Judgment.Bindings
import Bidirectional.Proofs.Judgment.DebugLog
import Bidirectional.Proofs.Judgment.Derivation
import Bidirectional.Proofs.Judgment.Extension
import Bidirectional.Proofs.Judgment.FailFast
import Bidirectional.Proofs.Judgment.Failure
import Bidirectional.Proofs.Judgment.Goals
import Bidirectional.Proofs.Judgment.LexicalScope
import Bidirectional.Proofs.Judgment.Modes
import Bidirectional.Proofs.Judgment.Noninterference
import Bidirectional.Proofs.Judgment.Rearrangement
import Bidirectional.Proofs.Judgment.Records
import Bidirectional.Proofs.Judgment.Replay
import Bidirectional.Proofs.Judgment.Simulation
import Bidirectional.Proofs.Judgment.Spine
import Bidirectional.Proofs.Judgment.Success
import Bidirectional.Proofs.Judgment.Trace
import Bidirectional.Proofs.Program.Outcomes
import Bidirectional.Proofs.Session.Commutation
import Bidirectional.Proofs.Session.Intersections
import Bidirectional.Proofs.Text.Legible
import Bidirectional.Proofs.Ty.Arrows
import Bidirectional.Proofs.Ty.Equality
import Bidirectional.Proofs.Ty.InterFree
import Bidirectional.Proofs.Ty.Obstruction
import Bidirectional.Proofs.Ty.Order
import Bidirectional.Proofs.Ty.Rearrangement
import Bidirectional.Proofs.Ty.Rendering
import Bidirectional.Render
import Bidirectional.Session
import Bidirectional.Text.Quoted
import Bidirectional.Ty
import Bidirectional.Proofs.Judgment.Records
