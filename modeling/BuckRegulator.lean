import BuckRegulator.Proofs.Board.Schedule
import BuckRegulator.Proofs.Trim.Repetition
import BuckRegulator.Proofs.Regulator.Phases
import BuckRegulator.Proofs.Regulator.Transparency
import BuckRegulator.Proofs.Bench.EnableBit
import BuckRegulator.Proofs.Bench.LastSetting
import BuckRegulator.Proofs.Regulator.Knowledge
import BuckRegulator.Proofs.Regulator.Writes
import BuckRegulator.Proofs.Trim.Foreign
import BuckRegulator.Proofs.Regulator.Rediscovery
import BuckRegulator.Proofs.Bench.Restart
import BuckRegulator.Proofs.Ramp.Steps
import BuckRegulator.Proofs.Regulator.Adjustment
import BuckRegulator.Proofs.Trim.Faults
import BuckRegulator.Proofs.Regulator.Identification
import BuckRegulator.Proofs.Ramp.Order
import BuckRegulator.Proofs.Ramp.Precedence
import BuckRegulator.Proofs.Ramp.Wrap
import BuckRegulator.Proofs.Ramp.Checked
import BuckRegulator.Proofs.Regulator.Arithmetic
