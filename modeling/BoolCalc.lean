import BoolCalc.Main
import BoolCalc.Proofs.ByteEdits
import BoolCalc.Proofs.Correspondence
import BoolCalc.Proofs.DialogReach
import BoolCalc.Proofs.Exports
import BoolCalc.Proofs.GateAgreement
import BoolCalc.Proofs.HelpView
import BoolCalc.Proofs.LogTrail
import BoolCalc.Proofs.Parentheses
import BoolCalc.Proofs.Rendering
import BoolCalc.Proofs.Tolerance
import BoolCalc.Proofs.Truncation
import BoolCalc.Proofs.Viable
import BoolCalc.Proofs.Walk
import BoolCalc.Proofs.Waiting
import BoolCalc.Proofs.Parts
import BoolCalc.Proofs.HistoryPanel
import BoolCalc.Proofs.CursorCell
