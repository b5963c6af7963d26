import FaultDiagnosis.Main
import FaultDiagnosis.Proofs.Contribution.DerivedIds
import FaultDiagnosis.Proofs.Diagnosis.Advice
import FaultDiagnosis.Proofs.Diagnosis.FullCoverage
import FaultDiagnosis.Proofs.Diagnosis.Listing
import FaultDiagnosis.Proofs.Diagnosis.MoreObserved
import FaultDiagnosis.Proofs.Diagnosis.Table
import FaultDiagnosis.Proofs.Engine.Atomic
import FaultDiagnosis.Proofs.Engine.LaterVerdicts
import FaultDiagnosis.Proofs.Engine.Listed
import FaultDiagnosis.Proofs.Engine.NothingObserved
import FaultDiagnosis.Proofs.Engine.Respelled
import FaultDiagnosis.Proofs.Engine.Separate
import FaultDiagnosis.Proofs.Engine.Soundness
import FaultDiagnosis.Proofs.Engine.Submission
import FaultDiagnosis.Proofs.Engine.TakesEffect
import FaultDiagnosis.Proofs.Engine.Transmitted
import FaultDiagnosis.Proofs.Engine.UnknownIds
import FaultDiagnosis.Proofs.Engine.Verdicts
import FaultDiagnosis.Proofs.Knowledge.RuleForms
import FaultDiagnosis.Proofs.Service.Run
import FaultDiagnosis.Proofs.Service.SameVerdict
import FaultDiagnosis.Proofs.Settings.Overlay
import FaultDiagnosis.Proofs.Store.Curation
import FaultDiagnosis.Proofs.Store.Damage
import FaultDiagnosis.Proofs.Store.Upgrade
