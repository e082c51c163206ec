import SecAI.Auth.TemporaryLock
import SecAI.Auth.SessionSoundness
import SecAI.Auth.Rotation
import SecAI.Credential.SingleUse
import SecAI.Queue.ExactlyOnce
import SecAI.Submission.Binding
import SecAI.Findings.Storage
import SecAI.Recovery.Convergence
import SecAI.LinuxAudit.Stream
import SecAI.OneShot.Finality
import SecAI.Approval.Safety
import SecAI.Chat.AggregateRefinement
import SecAI.Chat.Scheduling
import SecAI.Platforms.ArubaProjection
import SecAI.Explanation.BlockedOutput
import SecAI.Explanation.CutOff
import SecAI.Chat.Conversation
import SecAI.Chat.RequestKeys
import SecAI.Chat.TypedFailures
import SecAI.Launcher.AdministratorRuns
import SecAI.LinuxKisa.Settings
import SecAI.LiveDraft.Monotone
import SecAI.RestrictedMarkdown.StreamingRenderer
import SecAI.RestrictedMarkdown.ParsedShape
import SecAI.RestrictedMarkdown.LineEndings
import SecAI.Package.StrictClosure
import SecAI.Platforms.SwitchDirectives
import SecAI.LiveDraft.Verdicts
import SecAI.Components.Fetch
import SecAI.Criteria.Presentation
import SecAI.Criteria.Selection
import SecAI.OneShot.RateLimiter
import SecAI.Guides.Conflicts
import SecAI.Guides.Chunks
import SecAI.Guides.CategoryCoverage
import SecAI.Approval.Refusals
import SecAI.Chat.Management
import SecAI.Auth.Lifetimes
import SecAI.Explanation.SummaryStream
import SecAI.Package.Versions
