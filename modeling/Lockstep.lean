import Lockstep.Main
import Lockstep.Peer.Script
import Lockstep.Server.Clients
import Lockstep.Proofs.Session.Accounting
import Lockstep.Proofs.Session.Trail
import Lockstep.Proofs.Session.Correlation
import Lockstep.Proofs.Session.Alternation
import Lockstep.Proofs.Load.Isolation
import Lockstep.Proofs.Load.Agreement
import Lockstep.Proofs.Program.Modes
import Lockstep.Proofs.Session.Meaning
import Lockstep.Proofs.Session.Inertness
import Lockstep.Proofs.Session.Lag
import Lockstep.Proofs.Transparency
import Lockstep.Proofs.Session.Judgement
import Lockstep.Proofs.Suite.Course
import Lockstep.Proofs.Session.Cause
import Lockstep.Proofs.Interactive.Agreement
import Lockstep.Proofs.Load.Outcome
import Lockstep.Proofs.Program.Exit
import Lockstep.Proofs.Server.Independence
import Lockstep.Proofs.Transform.Answers
import Lockstep.Proofs.Report.Order
import Lockstep.Proofs.Report.Average
import Lockstep.Proofs.Display
import Lockstep.Proofs.Endpoint
import Lockstep.Proofs.Transform.Forms
import Lockstep.Proofs.Session.Waits
import Lockstep.Proofs.Report.Lines
