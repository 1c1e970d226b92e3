/-
  WorkflowPolicy/Proofs/CommandLine/Trial.lean
  ============================================
  **Settings of a compilation.**  What is asked for on the command line should come before
  what the settings say, and the outcome should be settings again
  (`CompileRequest.Respects`).  The flags of a trial act through the settings alone
  (`runCompile_plain`), but nothing checks what they leave: a repository that is no
  repository is taken as it is, and a trial without a repository forgets the one of the
  settings (`CompileRequest.respects_iff`).

  Neither is reported, since the checks of a compilation look at no trial
  (`runCompile_errors`).
-/
import WorkflowPolicy.Proofs.CommandLine.Agreement
import WorkflowPolicy.Proofs.Settings

namespace WorkflowPolicy.CommandLine

variable {s t : Settings}

/-! ### Flags of a trial -/

namespace CompileRequest

/-- The request without its trial. -/
def plain (r : CompileRequest) : CompileRequest := { r with trial := false, trialRepo := none }

/-- Whether the flags reach the settings. -/
def isTrial (r : CompileRequest) : Bool := r.trial || r.trialRepo.any (· != "")

/-- The repository that is asked for. -/
def repository (r : CompileRequest) : Option Text := r.trialRepo.map Text.ofString

theorem settings_of_trial {r : CompileRequest} (h : r.isTrial = true) (s : Settings) :
    r.settings s = { s with trialMode := true, trialRepo := r.repository } := if_pos h

theorem settings_of_not_trial {r : CompileRequest} (h : r.isTrial = false) (s : Settings) :
    r.settings s = s := if_neg (by rw [← isTrial, h]; nofun)

theorem isTrial_iff {r : CompileRequest} :
    r.isTrial = true ↔ r.trial = true ∨ ∃ repo ∈ r.trialRepo, repo ≠ "" := by
  simp [isTrial, Option.any_eq_true]

/-- Where the flags do not reach the settings, no valid repository is asked for. -/
theorem trialRepo_eq_none {r : CompileRequest} (h : r.isTrial = false)
    (hrepo : ∀ repo ∈ r.repository, isOwnerAndName repo = true) : r.trialRepo = none := by
  rw [Option.eq_none_iff_forall_not_mem]
  intro repo hmem
  have hempty : repo = "" := by
    by_contra hne
    rw [isTrial_iff.mpr (.inr ⟨repo, hmem, hne⟩)] at h
    cases h
  have hname := hrepo repo (Option.mem_map_of_mem Text.ofString hmem)
  rw [hempty] at hname
  cases hname

@[simp] theorem settings_plain (r : CompileRequest) (s : Settings) : r.plain.settings s = s := rfl

/-- How the settings `t` of a compilation should follow from the request and the settings
    `s` that were loaded. -/
structure Respects (r : CompileRequest) (s t : Settings) : Prop where
  valid : t.IsValid
  mode : t.trialMode = true ↔ (r.trial = true ∨ r.trialRepo ≠ none) ∨ s.trialMode = true
  repository : t.trialRepo = r.repository.or s.trialRepo
  others : { t with trialMode := s.trialMode, trialRepo := s.trialRepo } = s

/-- Settings other than those of a trial are always those that were loaded. -/
theorem settings_others (r : CompileRequest) (s : Settings) :
    { r.settings s with trialMode := s.trialMode, trialRepo := s.trialRepo } = s := by
  rw [settings]
  split <;> rfl

/-- An empty repository is valid only where it is overlooked. -/
theorem isValid_settings_iff (hs : s.IsValid) (r : CompileRequest) :
    (r.settings s).IsValid
      ↔ r.isTrial = false ∨ ∀ repo ∈ r.repository, isOwnerAndName repo = true := by
  cases h : r.isTrial with
  | false =>
    rw [settings_of_not_trial h]
    exact iff_of_true hs (.inl rfl)
  | true =>
    rw [settings_of_trial h]
    constructor
    · exact fun hvalid => .inr hvalid.repository
    · rintro (hnot | hrepo)
      · cases hnot
      · exact ⟨hrepo, hs.logging⟩

theorem respects_settings (hs : s.IsValid) {r : CompileRequest}
    (hrepo : ∀ repo ∈ r.repository, isOwnerAndName repo = true)
    (hkept : r.trial = true → r.trialRepo = none → s.trialRepo = none) :
    r.Respects s (r.settings s) := by
  have hvalid := (isValid_settings_iff hs r).mpr (.inr hrepo)
  -- naming a repository makes a trial, so a run that is no trial names none
  cases h : r.isTrial with
  | false =>
    have hnone := trialRepo_eq_none h hrepo
    have htrial : r.trial ≠ true := by
      intro htrial
      rw [isTrial_iff.mpr (.inl htrial)] at h
      cases h
    refine ⟨hvalid, ?_, ?_, settings_others r s⟩
    · rw [settings_of_not_trial h]
      simp [htrial, hnone]
    · rw [settings_of_not_trial h, repository, hnone, Option.map_none, Option.none_or]
  | true =>
    refine ⟨hvalid, ?_, ?_, settings_others r s⟩
    · rw [settings_of_trial h]
      refine iff_of_true rfl (.inl ?_)
      rcases isTrial_iff.mp h with htrial | ⟨repo, hmem, -⟩
      · exact .inl htrial
      · exact .inr (Option.ne_none_iff_exists'.mpr ⟨repo, hmem⟩)
    · rw [settings_of_trial h, repository]
      cases hasked : r.trialRepo with
      | some repo => rfl
      | none =>
        have htrial : r.trial = true := by
          simpa [hasked] using isTrial_iff.mp h
        rw [hkept htrial hasked]
        rfl

theorem respects_settings_iff (hs : s.IsValid) (r : CompileRequest) :
    r.Respects s (r.settings s)
      ↔ (∀ repo ∈ r.repository, isOwnerAndName repo = true)
        ∧ (r.trial = true → r.trialRepo = none → s.trialRepo = none) := by
  constructor
  · rintro ⟨hvalid, -, hrepository, -⟩
    constructor
    · intro repo hmem
      apply hvalid.repository repo
      rw [hrepository, Option.mem_def.mp hmem]
      rfl
    · intro htrial hnone
      rw [settings_of_trial (isTrial_iff.mpr (.inl htrial)), repository, hnone] at hrepository
      exact hrepository.symm
  · rintro ⟨hrepo, hkept⟩
    exact respects_settings hs hrepo hkept

end CompileRequest

/-! ### Runs -/

variable (readers : Readers)

/-- The flags act through the settings alone. -/
theorem runCompile_plain (fs : Files) (s : Settings) (r : CompileRequest) :
    runCompile readers fs s r = runCompile readers fs (r.settings s) r.plain := rfl

theorem errors_done (texts : List (Option Text)) : (Outcome.done texts).errors = "" := by
  rw [Outcome.done, Outcome.printing]
  split <;> rfl

theorem errors_printedPolicy (json : Bool) (doc : Document) (p : Policy) :
    (printedPolicy json doc p).errors = "" := by
  rw [printedPolicy]
  split
  · rw [policyJson]
    split
    · exact errors_done _
    · rfl
  · exact errors_done _

/-- What is reported when a document is compiled. -/
def reported (r : CompileRequest) (s : Settings) (doc : Document) : String :=
  (Policy.failure? s r.strict doc.entries).elim ""
    fun f => (Outcome.ofFailure (fun e => .failed e.message) f).errors

theorem policyFailure?_settings (r : CompileRequest) (s : Settings) (asked : Option Bool)
    (m : Mapping) : Policy.failure? (r.settings s) asked m = Policy.failure? s asked m := by
  rw [CompileRequest.settings]
  split
  · exact Policy.failure?_forTrial s (r.trialRepo.map Text.ofString) asked m
  · rfl

/-- What a compilation reports comes from the file and the checks alone. -/
theorem runCompile_errors_eq (fs : Files) (s : Settings) (r : CompileRequest) :
    (runCompile readers fs s r).errors
      = (withDocument readers fs r.file fun doc => { errors := reported r s doc }).errors := by
  cases hload : Frontmatter.loadDocument readers fs (Path.ofText r.file) with
  | error f => simp only [runCompile, withDocument, hload]
  | ok doc =>
    obtain ⟨ws, hcompile⟩ := runCompile_eq hload s
    rw [policyFailure?_settings] at hcompile
    rw [withDocument_eq hload, hcompile, reported]
    cases Policy.failure? s r.strict doc.entries with
    | some f => rfl
    | none => exact errors_printedPolicy _ _ _

/-- No flag of a trial is ever reported. -/
theorem runCompile_errors (fs : Files) (s : Settings) (r : CompileRequest) :
    (runCompile readers fs s r).errors = (runCompile readers fs s r.plain).errors := by
  rw [runCompile_errors_eq, runCompile_errors_eq]
  rfl

/-- **The settings of a compilation respect the command line** if and only if a repository
    that is asked for is one, and a trial that asks for none finds none.  No other setting
    changes, and whatever becomes of the repository is not reported. -/
theorem runCompile_settings (hs : s.IsValid) (fs : Files) (r : CompileRequest) :
    runCompile readers fs s r = runCompile readers fs (r.settings s) r.plain
      ∧ (runCompile readers fs s r).errors = (runCompile readers fs s r.plain).errors
      ∧ { r.settings s with trialMode := s.trialMode, trialRepo := s.trialRepo } = s
      ∧ ((r.settings s).IsValid
        ↔ r.isTrial = false ∨ ∀ repo ∈ r.repository, isOwnerAndName repo = true)
      ∧ (r.Respects s (r.settings s)
        ↔ (∀ repo ∈ r.repository, isOwnerAndName repo = true)
          ∧ (r.trial = true → r.trialRepo = none → s.trialRepo = none)) :=
  ⟨runCompile_plain readers fs s r, runCompile_errors readers fs s r, r.settings_others s,
    r.isValid_settings_iff hs, r.respects_settings_iff hs⟩

def keptSettings : Settings := { trialRepo := some "octo/trial" }

/-- A trial for a repository that is none. -/
def strayRequest : CompileRequest := ⟨"w.yml", none, false, some "bad", true⟩

/-- A trial for no repository in particular. -/
def bareRequest : CompileRequest := ⟨"w.yml", none, true, none, true⟩

theorem runCompile_settings_kept :
    keptSettings.IsValid
      ∧ (runCompile (.own 100) (workflowFiles groupText) keptSettings strayRequest).errors
        = (runCompile (.own 100) (workflowFiles groupText) keptSettings strayRequest.plain).errors
      ∧ ¬ (strayRequest.settings keptSettings).IsValid
      ∧ (bareRequest.settings keptSettings).IsValid
      ∧ ¬ bareRequest.Respects keptSettings (bareRequest.settings keptSettings) := by
  have hvalid : keptSettings.IsValid := by
    refine ⟨?_, LogSettings.isValid_default⟩
    rintro repo ⟨⟩
    rfl
  obtain ⟨-, herrors, -, hstray, -⟩ :=
    runCompile_settings (.own 100) hvalid (workflowFiles groupText) strayRequest
  obtain ⟨-, -, -, hbare, hrespects⟩ :=
    runCompile_settings (.own 100) hvalid (workflowFiles groupText) bareRequest
  refine ⟨hvalid, herrors, ?_, ?_, ?_⟩
  · rw [hstray]
    decide +kernel
  · rw [hbare]
    exact .inr nofun
  · rw [hrespects]
    decide +kernel

/-- A repository that is none is compiled with, and nothing is said about it. -/
theorem runCompile_strayRepository :
    (strayRequest.settings {}).trialRepo = some (.ofString "bad") ∧ isOwnerAndName "bad" = false
      ∧ (runCompile (.own 100) (workflowFiles groupText) {} strayRequest).exitCode = 0
      ∧ (runCompile (.own 100) (workflowFiles groupText) {} strayRequest).errors = "" := by
  have hload : (Frontmatter.load (.own 100) (workflowFiles groupText)
      (Path.ofText "w.yml")).toOption = some groupFrontmatter := by
    decide +kernel
  have hfailure : Policy.failure? {} strayRequest.strict groupFrontmatter = none := by
    decide +kernel
  obtain ⟨doc, hdoc, hentries⟩ := Frontmatter.exists_loadDocument hload
  have hdoc' : Frontmatter.loadDocument (.own 100) (workflowFiles groupText)
      (Path.ofText strayRequest.file) = .ok doc := hdoc
  have hcarries : Carries strayRequest.json doc.entries := by
    rw [hentries]
    exact ⟨fun _ => by decide +kernel, nofun⟩
  refine ⟨rfl, by decide, ?_, ?_⟩
  · obtain ⟨hpasses, hfits⟩ := Policy.failure?_eq_none_iff.mp
      ((policyFailure?_settings strayRequest {} strayRequest.strict groupFrontmatter).trans
        hfailure)
    rw [exitCode_runCompile hdoc' hcarries, hentries]
    exact ⟨hpasses, hfits, nofun⟩
  · rw [runCompile_errors_eq, withDocument_eq hdoc', reported, hentries]
    rw [hfailure]
    rfl

end WorkflowPolicy.CommandLine
