import KeyvalOperator.Proof.Fallback
import KeyvalOperator.Proof.Freshness
import KeyvalOperator.Proof.ScaleDown
import KeyvalOperator.Proof.RollingStep
import KeyvalOperator.Proof.Convergence
import KeyvalOperator.Proof.ImportProgress
import KeyvalOperator.Proof.SentinelOptions
import KeyvalOperator.Proof.SentinelDeferral
import KeyvalOperator.Proof.Finalizer
import KeyvalOperator.Proof.Services
import KeyvalOperator.Proof.Ports
import KeyvalOperator.Proof.Separation
import KeyvalOperator.Proof.Idempotence
import KeyvalOperator.Proof.ForcedMaster
import KeyvalOperator.Proof.MasterCache
import KeyvalOperator.Proof.ResizeRuns
import KeyvalOperator.Proof.Reconciles
import KeyvalOperator.Proof.FormerMaster
import KeyvalOperator.Proof.Delays
import KeyvalOperator.Proof.PodStatus
import KeyvalOperator.Proof.PDB
import KeyvalOperator.Proof.PodMetadata
import KeyvalOperator.Proof.Digests
import KeyvalOperator.Proof.MemoryValues
import KeyvalOperator.Proof.Candidate
import KeyvalOperator.Proof.TopologySettings
import KeyvalOperator.Proof.InfoReplies
import KeyvalOperator.Proof.Rollback
import KeyvalOperator.Proof.Tracker
import KeyvalOperator.Proof.Watch
import KeyvalOperator.Proof.Backoff
