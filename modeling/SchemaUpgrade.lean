import SchemaUpgrade.Main
import SchemaUpgrade.Proofs.Transaction
import SchemaUpgrade.Proofs.Planning
import SchemaUpgrade.Proofs.Passage
import SchemaUpgrade.Proofs.Continuation
import SchemaUpgrade.Proofs.Stages
import SchemaUpgrade.Proofs.Atomicity
import SchemaUpgrade.Proofs.Templates
import SchemaUpgrade.Proofs.Bookkeeping
import SchemaUpgrade.Proofs.Session
import SchemaUpgrade.Proofs.Completeness
import SchemaUpgrade.Proofs.Undisturbed
import SchemaUpgrade.Proofs.Resumption
import SchemaUpgrade.Proofs.LateKeys
import SchemaUpgrade.Proofs.Repetition
import SchemaUpgrade.Proofs.Ending
import SchemaUpgrade.Proofs.Disclosure
import SchemaUpgrade.Proofs.Prediction
import SchemaUpgrade.Proofs.Segments
import SchemaUpgrade.Proofs.Chronicle
import SchemaUpgrade.Proofs.Bench
import SchemaUpgrade.Proofs.Failures
import SchemaUpgrade.Proofs.Readiness
import SchemaUpgrade.Proofs.Cancellation
import SchemaUpgrade.Proofs.Poisoning
import SchemaUpgrade.Proofs.Independence
import SchemaUpgrade.Proofs.LineEndings
import SchemaUpgrade.Proofs.BrokenStream
import SchemaUpgrade.Proofs.Utf8
import SchemaUpgrade.Proofs.WrittenScript
import SchemaUpgrade.Proofs.Execution
import SchemaUpgrade.Proofs.Harmlessness
import SchemaUpgrade.Proofs.Drafting
import SchemaUpgrade.Proofs.SupplyOrder
import SchemaUpgrade.Proofs.Configuration
import SchemaUpgrade.Proofs.Errands
import SchemaUpgrade.Proofs.Registration
import SchemaUpgrade.Proofs.RootCause
import SchemaUpgrade.Proofs.Substitution
import SchemaUpgrade.Proofs.DatabaseChoice
import SchemaUpgrade.Proofs.TableLayout
import SchemaUpgrade.Proofs.RollbackJoins
