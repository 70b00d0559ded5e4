import Fixture.Main
import Fixture.Run.Session
import Fixture.Proofs.Generate
import Fixture.Proofs.Session.ClosedForm
import Fixture.Proofs.Sink
import Fixture.Proofs.Command.Form
import Fixture.Proofs.Command.Outcome
import Fixture.Proofs.Numeral.Reader
import Fixture.Proofs.Command.Integers
import Fixture.Proofs.Command.Filter
import Fixture.Proofs.Command.Commitment
import Fixture.Proofs.Command.Directives
import Fixture.Proofs.Generate.Order
import Fixture.Proofs.Generate.Events
import Fixture.Proofs.Session.Chunks
import Fixture.Proofs.Sink.Interruption
