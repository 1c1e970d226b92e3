/-
  WorkflowPolicy/SafeOutput/Kind.lean
  ===================================
  **The kinds of safe outputs.**  A kind of output action is described by a few
  properties and a table of options; nothing else in the library depends on which
  kind it is.

  All kinds share a limit, a staging flag and a token.  Targeted kinds, which act
  on an issue or pull request, may also write to another repository.
-/
import WorkflowPolicy.SafeOutput.Setting

namespace WorkflowPolicy.SafeOutput

/-- The kinds in canonical order, which is also the order of a plan. -/
inductive Kind where
  | createIssue
  | createDiscussion
  | createPullRequest
  | addComment
  | addLabels
  | removeLabels
  | addReviewer
  | assignToAgent
  | assignToUser
  | updateIssue
  | updateDiscussion
  | updatePullRequest
  | closeIssue
  | closePullRequest
  | closeDiscussion
  | hideComment
  | linkSubIssue
  | dispatchWorkflow
  | uploadAsset
  | createCodeScanningAlert
  | autofixCodeScanningAlert
  | createPullRequestReviewComment
  | submitPullRequestReview
  | createProject
  | updateProject
  | missingTool
  | missingData
  | noop
deriving DecidableEq, Repr

/-- One option of a kind: the field that it sets, how its value is read, and what
    holds when it is not given. -/
structure OptionSpec where
  field : Text
  rule : Rule
  default : Option Setting := none
deriving DecidableEq, Repr

/-- The key of an option in frontmatter: the field with hyphens. -/
def OptionSpec.key (o : OptionSpec) : Text := o.field.replaced '_' '-'

namespace Kind

def all : List Kind :=
  [.createIssue, .createDiscussion, .createPullRequest, .addComment, .addLabels,
   .removeLabels, .addReviewer, .assignToAgent, .assignToUser, .updateIssue,
   .updateDiscussion, .updatePullRequest, .closeIssue, .closePullRequest, .closeDiscussion,
   .hideComment, .linkSubIssue, .dispatchWorkflow, .uploadAsset, .createCodeScanningAlert,
   .autofixCodeScanningAlert, .createPullRequestReviewComment, .submitPullRequestReview,
   .createProject, .updateProject, .missingTool, .missingData, .noop]

def name : Kind → Text
  | .createIssue => "create-issue"
  | .createDiscussion => "create-discussion"
  | .createPullRequest => "create-pull-request"
  | .addComment => "add-comment"
  | .addLabels => "add-labels"
  | .removeLabels => "remove-labels"
  | .addReviewer => "add-reviewer"
  | .assignToAgent => "assign-to-agent"
  | .assignToUser => "assign-to-user"
  | .updateIssue => "update-issue"
  | .updateDiscussion => "update-discussion"
  | .updatePullRequest => "update-pull-request"
  | .closeIssue => "close-issue"
  | .closePullRequest => "close-pull-request"
  | .closeDiscussion => "close-discussion"
  | .hideComment => "hide-comment"
  | .linkSubIssue => "link-sub-issue"
  | .dispatchWorkflow => "dispatch-workflow"
  | .uploadAsset => "upload-asset"
  | .createCodeScanningAlert => "create-code-scanning-alert"
  | .autofixCodeScanningAlert => "autofix-code-scanning-alert"
  | .createPullRequestReviewComment => "create-pull-request-review-comment"
  | .submitPullRequestReview => "submit-pull-request-review"
  | .createProject => "create-project"
  | .updateProject => "update-project"
  | .missingTool => "missing-tool"
  | .missingData => "missing-data"
  | .noop => "noop"

def ofName? (s : Text) : Option Kind := all.find? (·.name == s)

/-- The name under which handlers know the kind. -/
def handlerName (k : Kind) : Text := k.name.replaced '-' '_'

/-! ### Properties -/

/-- Whether the kind acts on an issue or pull request, maybe elsewhere. -/
def isTargeted : Kind → Bool
  | .uploadAsset | .createProject | .updateProject | .missingTool | .missingData | .noop => false
  | _ => true

/-- Whether the kind is handled with the other project outputs. -/
def isProject : Kind → Bool
  | .createProject | .updateProject => true
  | _ => false

/-- The limit when none is given; none means no limit. -/
def defaultMax : Kind → Option Int
  | .addLabels | .removeLabels | .addReviewer => some 3
  | .hideComment | .linkSubIssue => some 5
  | .uploadAsset | .autofixCodeScanningAlert | .createPullRequestReviewComment
  | .updateProject => some 10
  | .createCodeScanningAlert | .missingTool | .missingData => none
  | _ => some 1

/-- The highest limit that can be given, where there is one. -/
def ceiling : Kind → Option Int
  | .dispatchWorkflow => some 50
  | _ => none

/-- The field that a bare list stands for. -/
def shorthand : Kind → Option Text
  | .addLabels | .removeLabels | .assignToUser => some "allowed"
  | .addReviewer => some "reviewers"
  | .dispatchWorkflow => some "workflows"
  | _ => none

/-! ### Options -/

def tokenOption : OptionSpec := { field := "github_token", rule := .text }

/-- The options that choose what a targeted kind acts on. -/
def targetOptions : List OptionSpec :=
  [{ field := "target", rule := .nameOrNumber },
   { field := "target_repo", rule := .text },
   { field := "allowed_repos", rule := .texts }]

def textOption (field : Text) : OptionSpec := { field := field, rule := .text }

def textsOption (field : Text) : OptionSpec := { field := field, rule := .texts }

def flagOption (field : Text) : OptionSpec := { field := field, rule := .flag }

def numberOption (field : Text) : OptionSpec := { field := field, rule := .number }

def templateOption (field : Text) : OptionSpec := { field := field, rule := .template }

def namesOption (field : Text) : OptionSpec := { field := field, rule := .participants }

/-- An option that is on by being present. -/
def presenceOption (field : Text) : OptionSpec :=
  { field := field, rule := .presence, default := some (.flag false) }

/-- The options that only this kind has. -/
def ownOptions : Kind → List OptionSpec
  | .createIssue =>
    [textOption "title_prefix",
     textsOption "labels",
     textsOption "allowed_labels",
     namesOption "assignees",
     flagOption "close_older_issues",
     numberOption "expires"]
  | .createDiscussion =>
    [textOption "title_prefix",
     { field := "category", rule := .nameOrNumber },
     textsOption "labels",
     textsOption "allowed_labels",
     flagOption "close_older_discussions",
     numberOption "expires"]
  | .createPullRequest =>
    [textOption "title_prefix",
     textsOption "labels",
     namesOption "reviewers",
     templateOption "draft",
     { field := "if_no_changes", rule := .oneOf ["warn", "error", "ignore"] },
     textOption "base_branch",
     numberOption "max_patch_size",
     flagOption "allow_empty"]
  | .addComment =>
    [flagOption "discussion",
     flagOption "hide_older_comments",
     textsOption "allowed_reasons"]
  | .addLabels | .removeLabels | .assignToUser => [textsOption "allowed"]
  | .addReviewer => [namesOption "reviewers"]
  | .assignToAgent => [textOption "name"]
  | .updateIssue => [presenceOption "status", presenceOption "title", presenceOption "body"]
  | .updateDiscussion =>
    [presenceOption "title",
     presenceOption "body",
     presenceOption "labels",
     textsOption "allowed_labels"]
  | .updatePullRequest => [templateOption "title", templateOption "body"]
  | .closeIssue | .closePullRequest =>
    [textsOption "required_labels",
     textOption "required_title_prefix"]
  | .closeDiscussion =>
    [textsOption "required_labels",
     textOption "required_title_prefix",
     textOption "required_category"]
  | .hideComment => [flagOption "discussion", textsOption "allowed_reasons"]
  | .linkSubIssue =>
    [textsOption "parent_required_labels",
     textOption "parent_title_prefix",
     textsOption "sub_required_labels",
     textOption "sub_title_prefix"]
  | .dispatchWorkflow => [textsOption "workflows"]
  | .uploadAsset =>
    [{ field := "branch", rule := .text
       default := some (.text "assets/$\x7b\x7b github.workflow \x7d\x7d") },
     { field := "max_size", rule := .number, default := some (.number 10240) },
     { field := "allowed_exts", rule := .texts
       default := some (.texts [".png", ".jpg", ".jpeg"]) }]
  | .createCodeScanningAlert => [textOption "driver"]
  | .autofixCodeScanningAlert | .submitPullRequestReview => []
  | .createPullRequestReviewComment => [{ field := "side", rule := .oneOf ["LEFT", "RIGHT"] }]
  | .createProject => [textOption "target_owner", textOption "title_prefix"]
  | .updateProject => [textOption "project"]
  | .missingTool =>
    [{ field := "create_issue", rule := .flag, default := some (.flag true) },
     { field := "title_prefix", rule := .text, default := some (.text "[missing tool]") },
     { field := "labels", rule := .texts, default := some (.texts []) }]
  | .missingData =>
    [{ field := "create_issue", rule := .flag, default := some (.flag true) },
     { field := "title_prefix", rule := .text, default := some (.text "[missing data]") },
     { field := "labels", rule := .texts, default := some (.texts []) }]
  | .noop => [{ field := "report_as_issue", rule := .flag, default := some (.flag true) }]

/-- All options of a kind besides the limit and the staging flag, in the order in
    which they are written. -/
def options (k : Kind) : List OptionSpec :=
  tokenOption :: (if k.isTargeted then targetOptions else []) ++ k.ownOptions

/-- No two options of a kind share a field or a key, and none is called like the
    limit or the staging flag. -/
theorem options_distinct (k : Kind) :
    (Text.ofString "max" :: "staged" :: k.options.map OptionSpec.field).Nodup ∧
      (Text.ofString "max" :: "staged" :: k.options.map OptionSpec.key).Nodup := by
  cases k <;> decide +kernel

@[simp] theorem ofName?_name (k : Kind) : ofName? k.name = some k := by
  cases k <;> decide +kernel

end Kind

end WorkflowPolicy.SafeOutput
