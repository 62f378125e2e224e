import Colloq.Strictness
import Colloq.FailClosed
import Colloq.Verdict
import Colloq.Authorization
import Colloq.Jev
import Colloq.Verified
import Colloq.Dictionary
import Colloq.LocalRun
import Colloq.Counting
import Colloq.FaultLink
import Colloq.DraftSync
import Colloq.Safety
import Colloq.Session
import Colloq.Network
import Colloq.CompactSession
import Colloq.Patch
import Colloq.Promotion
import Colloq.Delivery
import Colloq.Identity
import Colloq.SessionReports
import Colloq.NodeIdentity
import Colloq.Storing
import Colloq.Agreement
import Colloq.Framing
import Colloq.NetworkDemo
import Colloq.Outcomes
import Colloq.Liveness
import Colloq.Deploy
import Colloq.Artifacts
import Colloq.TrustFiles
import Colloq.JevClient
