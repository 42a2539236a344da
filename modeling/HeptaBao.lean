import HeptaBao.Durable.Refinement
import HeptaBao.Durable.ExactlyOnce
import HeptaBao.Durable.Finality
import HeptaBao.Durable.Atomicity
import HeptaBao.Ha.NoLostUpdate
import HeptaBao.Raft.LogRefinement
import HeptaBao.Ha.Admission
import HeptaBao.Raft.Retry
import HeptaBao.Auth.NonEscalation
import HeptaBao.Auth.JwtReplay
import HeptaBao.Auth.Lifetimes
import HeptaBao.Auth.MountRemoval
import HeptaBao.Plugin.Fences
import HeptaBao.Migration.Safety
import HeptaBao.Server.Secrecy
import HeptaBao.Auth.Decision
import HeptaBao.Auth.PolicyRoundTrip
import HeptaBao.Anchor.NoFork
import HeptaBao.Http.RateLimit
import HeptaBao.Http.Packets
import HeptaBao.Audit.Tampering
import HeptaBao.Engines.KvHistory
import HeptaBao.Engines.MergePatch
import HeptaBao.KeyLifecycle.Ledger
import HeptaBao.Peer.Service
import HeptaBao.Raft.Status
import HeptaBao.Authbus.Replay
import HeptaBao.Ha.WriterFence
import HeptaBao.Namespaces.Store
import HeptaBao.Engines.Base32
import HeptaBao.Engines.Timestamp
import HeptaBao.P0.Runs
