import Jury.Access.Session.Lifetime
import Jury.Cli.Collection
import Jury.Client.Control
import Jury.Engine.Agreement
import Jury.Engine.Atomicity
import Jury.Engine.Authentication
import Jury.Engine.Counting
import Jury.Engine.Forks
import Jury.Engine.Rollback
import Jury.LocalState.Rollback
import Jury.LocalState.TamperEvidence
import Jury.Mutation.Commit.CatalogRollback
import Jury.Mutation.ImportSteps
import Jury.Policy.Replay.Preparation
import Jury.Process.Supervision
import Jury.Protected.Base32
import Jury.Protocol.Witness.Messages
import Jury.Rollover.Scopes
import Jury.WitnessOperations.Recovery
