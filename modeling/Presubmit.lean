import Presubmit.Main
import Presubmit.Proofs.Sequence
import Presubmit.Proofs.Suite.Preference
import Presubmit.Proofs.Suite.Heads
import Presubmit.Proofs.Plan.Targets
import Presubmit.Proofs.Plan.Contents
import Presubmit.Proofs.Plan.OneOf
import Presubmit.Proofs.Pruning.Coverage
import Presubmit.Proofs.Plan.MorePaths
import Presubmit.Proofs.Request.Answers
import Presubmit.Proofs.Plan.Leaders
import Presubmit.Proofs.Rearranged
import Presubmit.Proofs.Suite.Tags
import Presubmit.Proofs.Plan.DocumentOrder
import Presubmit.Proofs.Change.Paths
import Presubmit.Proofs.Change.Edits
import Presubmit.Proofs.Request.SamePaths
import Presubmit.Proofs.Request.Unmapped
import Presubmit.Proofs.Request.Faults
import Presubmit.Proofs.Plan.UsableBuilds
import Presubmit.Proofs.Change.RelativePaths
import Presubmit.Proofs.Change.RootHistory
import Presubmit.Proofs.Json.Building
import Presubmit.Proofs.Document.Formats
import Presubmit.Proofs.Program.Responses
import Presubmit.Proofs.Glob.Matching
import Presubmit.Proofs.Path.Containment
import Presubmit.Proofs.Pruning.Scopes
import Presubmit.Proofs.Change.Listing
import Presubmit.Proofs.Skipping.Partition
import Presubmit.Proofs.Verdict.MoreRules
import Presubmit.Proofs.Suite.Groups
import Presubmit.Proofs.Plan.AlsoGroups
import Presubmit.Proofs.Plan.Criticality
import Presubmit.Proofs.Plan.Joined
import Presubmit.Proofs.Glob.Texts
import Presubmit.Proofs.Glob.Reading
import Presubmit.Proofs.Glob.Collapsing
import Presubmit.Proofs.Glob.AnyDepth
import Presubmit.Proofs.Glob.Componentwise
import Presubmit.Proofs.Glob.SameTexts
import Presubmit.Proofs.Glob.Classes
import Presubmit.Proofs.Path.Directories
import Presubmit.Proofs.Verdict.Relevance
import Presubmit.Proofs.Glob.Collapsed
import Presubmit.Proofs.Glob.Brackets
import Presubmit.Proofs.Glob.Refusals
import Presubmit.Proofs.Glob.NormalForm
