import WorkflowPolicy.Main
import WorkflowPolicy.Proofs.Assoc
import WorkflowPolicy.Proofs.Check
import WorkflowPolicy.Proofs.Json.Quoted
import WorkflowPolicy.Proofs.Json.RoundTrip
import WorkflowPolicy.Proofs.Json.Sorted
import WorkflowPolicy.Proofs.Network
import WorkflowPolicy.Proofs.Permissions
import WorkflowPolicy.Proofs.SafeOutput.Faithful
import WorkflowPolicy.Proofs.Workflow.FirstFailure
import WorkflowPolicy.Proofs.Workflow.StrictMode
import WorkflowPolicy.Proofs.SafeOutput.Target
import WorkflowPolicy.Proofs.Workflow.Rejection
import WorkflowPolicy.Proofs.Workflow.StrictOnlyRefuses
import WorkflowPolicy.Proofs.SafeOutput.Ceiling
import WorkflowPolicy.Proofs.SafeOutput.Signals
import WorkflowPolicy.Proofs.Network.ReadBack
import WorkflowPolicy.Proofs.Sandbox.ReadBack
import WorkflowPolicy.Proofs.Workflow.Firewall
import WorkflowPolicy.Proofs.SafeOutput.BlockReadBack
import WorkflowPolicy.Proofs.Workflow.Recompile
import WorkflowPolicy.Proofs.Records
import WorkflowPolicy.Proofs.Workflow.Refusal
import WorkflowPolicy.Proofs.Sandbox.Authored
import WorkflowPolicy.Proofs.SafeOutput.Layout
import WorkflowPolicy.Proofs.Workflow.TrialRun
import WorkflowPolicy.Proofs.Workflow.Wildcard
import WorkflowPolicy.Proofs.SafeOutput.OwnField
import WorkflowPolicy.Proofs.Workflow.Rearrangement
import WorkflowPolicy.Proofs.Json.Writable
import WorkflowPolicy.Proofs.Workflow.Output
import WorkflowPolicy.Proofs.CommandLine.Agreement
import WorkflowPolicy.Proofs.Sandbox.AnyOrder
import WorkflowPolicy.Proofs.Strict
import WorkflowPolicy.Proofs.Workflow.Spelling
import WorkflowPolicy.Proofs.Decimal.Value
import WorkflowPolicy.Proofs.Templatable
import WorkflowPolicy.Proofs.SafeOutput.Limit
import WorkflowPolicy.Proofs.Trigger
import WorkflowPolicy.Proofs.Workflow.Concurrency
import WorkflowPolicy.Proofs.Text.Lines
import WorkflowPolicy.Proofs.SafeOutput.EnvLines
import WorkflowPolicy.Proofs.Workflow.SandboxReadBack
import WorkflowPolicy.Proofs.Sandbox.Disabled
import WorkflowPolicy.Proofs.Files
import WorkflowPolicy.Proofs.Settings
import WorkflowPolicy.Proofs.Settings.Override
import WorkflowPolicy.Proofs.Settings.DocumentOverride
import WorkflowPolicy.Proofs.Settings.Loading
import WorkflowPolicy.Proofs.Data.Document
import WorkflowPolicy.Proofs.Yaml.Lines
import WorkflowPolicy.Proofs.Yaml.PlainScalar
import WorkflowPolicy.Proofs.Yaml.QuotedScalar
import WorkflowPolicy.Proofs.Yaml.DoubleQuoted
import WorkflowPolicy.Proofs.Yaml.Integer
import WorkflowPolicy.Proofs.Yaml.Storable
import WorkflowPolicy.Proofs.Yaml.Scanner.Value
import WorkflowPolicy.Proofs.Yaml.Scanner.Block
import WorkflowPolicy.Proofs.Yaml.Scanner.Tree
import WorkflowPolicy.Proofs.Yaml.Nodes
import WorkflowPolicy.Proofs.Yaml.Grammar
import WorkflowPolicy.Proofs.Yaml.Meaning
import WorkflowPolicy.Proofs.Yaml.RoundTrip
import WorkflowPolicy.Proofs.Settings.Storage
import WorkflowPolicy.Proofs.CommandLine.Trial
import WorkflowPolicy.Proofs.Frontmatter
import WorkflowPolicy.Proofs.Workflow.Parts
import WorkflowPolicy.Proofs.Workflow.BareTrigger
import WorkflowPolicy.Proofs.Toolset
import WorkflowPolicy.Proofs.Permissions.ReadBack
import WorkflowPolicy.Proofs.SafeOutput.Respelling
import WorkflowPolicy.Proofs.Text.Parts
import WorkflowPolicy.Proofs.Firewall.Allowlist
