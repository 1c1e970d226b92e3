/-
  WorkflowPolicy/Proofs/CommandLine/Agreement.lean
  ================================================
  **Checking and compiling agree.**  The two commands read one file under the same
  settings.  Checking stops when the workflow has passed every check; compiling goes on to
  a policy and prints it, perhaps for a trial run.  No check looks at a trial, so both
  commands end well or both fail, and they report the same text, unless something cannot
  be written (`runCheck_agrees`).

  A number that goes into the policy may be too long for its text.  And the summary of a
  policy, like the text of an error, may have half of a surrogate pair, for which there is
  no output.  Checking prints no policy, so it ends well where compiling then fails
  (`runCheck_halfName`).
-/
import WorkflowPolicy.CommandLine.Run
import WorkflowPolicy.Proofs.Workflow.Output
import WorkflowPolicy.Proofs.Workflow.TrialRun

namespace WorkflowPolicy

/-! ### Groups that can be written -/

namespace Concurrency

theorem isWritable_of_explicit? {d : Data} {c : Concurrency} (hd : d.isShowable = true)
    (h : explicit? d = some c) : c.isWritable = true := by
  cases d with
  | text s =>
    rw [explicit?] at h
    split at h
    · cases h
    · obtain rfl := Option.some.inj h
      rfl
  | map es =>
    cases es with
    | nil => cases h
    | cons e es =>
      obtain rfl := Option.some.inj h
      exact hd
  | _ => cases h

theorem isWritable_of_block_eq_none {c : Concurrency} (h : c.block = none) :
    c.isWritable = true := by
  rw [isWritable, fileEntries, h]
  cases c.cancelInProgress <;> rfl

/-- A group can be written as soon as the author's block can. -/
theorem isWritable_ofWorkflow (on : Data) (isCommand : Bool) {explicit : Data}
    (h : explicit.isShowable = true) : (ofWorkflow on isCommand explicit).isWritable = true := by
  rw [ofWorkflow]
  cases hexplicit : explicit? explicit with
  | none => exact isWritable_of_block_eq_none rfl
  | some c => exact isWritable_of_explicit? h hexplicit

end Concurrency

theorem Frontmatter.exists_loadDocument {readers : Readers} {fs : Files} {path : Path}
    {m : Mapping} (h : (load readers fs path).toOption = some m) :
    ∃ doc, loadDocument readers fs path = .ok doc ∧ doc.entries = m := by
  rw [load] at h
  cases hdoc : loadDocument readers fs path with
  | error f =>
    rw [hdoc] at h
    cases h
  | ok doc =>
    rw [hdoc] at h
    exact ⟨doc, rfl, Option.some.inj h⟩

namespace CommandLine

/-! ### Texts that can be printed -/

/-- Texts can be printed if all of them are there and have characters only. -/
theorem printable_eq_none_iff {texts : List (Option Text)} :
    (printable texts).2 = none ↔ ∀ t ∈ texts, ∃ s : String, t = some (.ofString s) := by
  induction texts with
  | nil => exact iff_of_true rfl nofun
  | cons t texts ih =>
    rw [List.forall_mem_cons]
    cases t with
    | none => exact iff_of_false nofun fun h => by obtain ⟨⟨s, hs⟩, -⟩ := h; cases hs
    | some t =>
      cases ht : t.string? with
      | some s =>
        obtain rfl := Text.string?_eq_some.mp ht
        rw [printable, ht]
        exact ih.trans ⟨fun h => ⟨⟨s, rfl⟩, h⟩, And.right⟩
      | none =>
        rw [printable, ht]
        refine iff_of_false nofun ?_
        rintro ⟨⟨s, hs⟩, -⟩
        rw [Option.some.inj hs, Text.string?_ofString] at ht
        cases ht

theorem printable_strings (ss : List String) :
    printable (ss.map fun s => some (.ofString s)) = (ss, none) := by
  induction ss with
  | nil => rfl
  | cons s ss ih =>
    rw [List.map_cons, printable, Text.string?_ofString]
    simp only [ih]

namespace Outcome

theorem exitCode_done {texts : List (Option Text)} :
    (done texts).exitCode = 0 ↔ (printable texts).2 = none := by
  rw [done, printing]
  cases h : printable texts with
  | mk ss e => cases e <;> simp

theorem exitCode_refusedWith (texts : List (Option Text)) : (refusedWith texts).exitCode = 1 := by
  rw [refusedWith, printing]
  cases h : printable texts with
  | mk ss e => cases e <;> rfl

/-! ### What is reported -/

def ofFailure (rejected : PolicyError → Outcome) : Failure → Outcome
  | .policy e => rejected e
  | .refused rs => escape (.refused rs)
  | .overlong => escape .overlong

/-- The outcome of a check that has at most one thing to fail for. -/
theorem ofCheck_guarded {α : Type} {c : Check α} {f : Option Failure} {a : α}
    (h : c.outcome = Check.guarded f a) (accepted : α → Outcome)
    (rejected : PolicyError → Outcome) :
    ofCheck c accepted rejected
      = { f.elim (accepted a) (ofFailure rejected) with warnings := c.warnings } := by
  rw [ofCheck, h]
  cases f with
  | none => rfl
  | some e => cases e <;> rfl

/-- An error text as compiling reports it. -/
structure CompileReports (o : Outcome) (text : String) : Prop where
  output : o.output = ""
  errors : o.errors = printed ["Error: " ++ text]
  escaped : o.escaped = none

/-- An error text as checking reports it: in a line of its own, or as an entry. -/
structure CheckReports (json : Bool) (o : Outcome) (text : Text) : Prop where
  output : if json then
      ∃ answer : Fields Data, answer.get? "error" = some (.text text)
        ∧ o.output = printed [Json.indented (.ofFields answer)]
    else ∃ s : String, text = s ∧ o.output = printed ["INVALID", s]
  errors : o.errors = ""
  escaped : o.escaped = none

end Outcome

open Outcome (CheckReports CompileReports)

/-- What checking prints for an error. -/
def answer (json : Bool) (e : PolicyError) : List (Option Text) :=
  if json then [some (Json.indented e.toData)] else [some "INVALID", some e.message]

variable {e : PolicyError}

theorem checkReports_json (ws : List Text) :
    CheckReports true { Outcome.refusedWith (answer true e) with warnings := ws } e.message := by
  have hprinted := printable_strings [Json.indented e.toData]
  rw [answer, if_pos rfl, Outcome.refusedWith, Outcome.printing]
  simp only [List.map_cons, List.map_nil] at hprinted
  rw [hprinted]
  exact ⟨⟨_, rfl, rfl⟩, rfl, rfl⟩

theorem checkReports_line {text : String} (h : e.message = text) (ws : List Text) :
    CheckReports false { Outcome.refusedWith (answer false e) with warnings := ws } e.message := by
  have hprinted := printable_strings ["INVALID", text]
  rw [answer, if_neg Bool.false_ne_true, Outcome.refusedWith, Outcome.printing, h]
  simp only [List.map_cons, List.map_nil] at hprinted
  rw [hprinted]
  exact ⟨⟨text, rfl, rfl⟩, rfl, rfl⟩

/-- A text that has more than characters is no line. -/
theorem escaped_line (h : ∀ text : String, e.message ≠ text) :
    (Outcome.refusedWith (answer false e)).escaped = some .unencodable := by
  have hmessage : e.message.string? = none := by
    rw [Option.eq_none_iff_forall_ne_some]
    exact fun text htext => h text (Text.string?_eq_some.mp htext)
  have hprinted : printable (answer false e) = (["INVALID"], some .unencodable) := by
    rw [answer, if_neg Bool.false_ne_true, printable, Text.string?_ofString, printable, hmessage]
  rw [Outcome.refusedWith, Outcome.printing, hprinted]

theorem compileReports_failed {text : String} (h : e.message = text) (ws : List Text) :
    CompileReports { Outcome.failed e.message with warnings := ws } text := by
  have happend : ("Error: " : Text) ++ (text : Text) = (("Error: " ++ text : String) : Text) := by
    rw [← Text.toList_inj]
    simp
  refine ⟨rfl, ?_, rfl⟩
  show printed [Text.encoded ("Error: " ++ e.message)] = _
  rw [h, happend, Text.encoded_ofString]

/-! ### Policies that can be printed -/

/-- What compiling makes of a workflow that passed the checks can be written: no number is
    too long, and a summary has characters only. -/
structure CanBeWritten (s : Settings) (json : Bool) (doc : Document) (w : Workflow) : Prop where
  numbers : Policy.isOverlong w = false
  summary : json = false →
    ∀ t, some t ∈ (Policy.ofWorkflow s w).summary ((Policy.ofWorkflow s w).groupsIn doc) →
      ∃ text : String, t = text

/-- No text of a summary is missing if the block of the workflow file is there. -/
theorem ne_none_of_mem_summary {p : Policy} {g : Policy.Groups} (h : g.fileText? ≠ none) :
    ∀ t ∈ p.summary g, t ≠ none := by
  obtain ⟨text, htext⟩ := Option.ne_none_iff_exists'.mp h
  intro t ht hnone
  subst hnone
  cases hjob : g.job <;> simp [Policy.summary, Policy.concurrencyLines, htext, hjob] at ht

theorem fileText?_groupsIn {p : Policy} (h : p.concurrency.isWritable = true) (doc : Document) :
    (p.groupsIn doc).fileText? ≠ none := by
  rw [Policy.groupsIn, Policy.written?, if_pos h]
  exact Option.some_ne_none _

/-- A summary is printed if it has characters only. -/
theorem exitCode_summary {p : Policy} (h : p.concurrency.isWritable = true) (doc : Document) :
    (Outcome.done (p.summary (p.groupsIn doc))).exitCode = 0
      ↔ ∀ t, some t ∈ p.summary (p.groupsIn doc) → ∃ text : String, t = text := by
  have hthere := ne_none_of_mem_summary (p := p) (fileText?_groupsIn h doc)
  rw [Outcome.exitCode_done, printable_eq_none_iff]
  constructor
  · intro hall t ht
    obtain ⟨text, htext⟩ := hall (some t) ht
    exact ⟨text, Option.some.inj htext⟩
  · intro hall t ht
    obtain ⟨u, rfl⟩ := Option.ne_none_iff_exists'.mp (hthere t ht)
    obtain ⟨text, htext⟩ := hall u ht
    exact ⟨text, congrArg some htext⟩

theorem exitCode_policyJson {p : Policy} (h : Json.Writable p.toData) :
    (policyJson p).exitCode = 0 := by
  rw [policyJson, h]
  exact Outcome.exitCode_done.mpr (congrArg Prod.snd (printable_strings [Json.indented p.toData]))

/-! ### Two commands -/

variable {readers : Readers} {fs : Files} {c : CheckRequest} {r : CompileRequest} {doc : Document}

theorem withDocument_eq {file : String}
    (h : Frontmatter.loadDocument readers fs (Path.ofText file) = .ok doc)
    (next : Document → Outcome) : withDocument readers fs file next = next doc := by
  simp only [withDocument, h]

/-- No check looks at a trial. -/
theorem failure?_settings (r : CompileRequest) (s : Settings) (asked : Option Bool) (m : Mapping) :
    Workflow.failure? (r.settings s) asked m = Workflow.failure? s asked m := by
  rw [CompileRequest.settings]
  split
  · exact Workflow.failure?_forTrial s (r.trialRepo.map Text.ofString) asked m
  · rfl

theorem exitCode_ofFailure {rejected : PolicyError → Outcome}
    (h : ∀ e, (rejected e).exitCode = 1) (f : Failure) :
    (Outcome.ofFailure rejected f).exitCode = 1 := by
  cases f with
  | policy e => exact h e
  | _ => rfl

/-- How both commands report an error of the policy. -/
structure ReportAlike (json : Bool) (check compile : Outcome) (e : PolicyError) : Prop where
  exit : check.exitCode = 1 ∧ compile.exitCode = 1
  same : ∀ text : String, e.message = text →
    check.CheckReports json text ∧ compile.CompileReports text
  /-- A text for which there is no output is reported by an entry of JSON only. -/
  entry : json = true → check.CheckReports json e.message
  line : json = false → (∀ text : String, e.message ≠ text) → check.escaped = some .unencodable

theorem reportAlike_of_policy (json : Bool) (ws ws' : List Text) :
    ReportAlike json { Outcome.refusedWith (answer json e) with warnings := ws }
      { Outcome.failed e.message with warnings := ws' } e := by
  constructor
  · exact ⟨Outcome.exitCode_refusedWith _, rfl⟩
  · intro text htext
    refine ⟨?_, compileReports_failed htext ws'⟩
    cases json with
    | false => exact htext ▸ checkReports_line htext ws
    | true => exact htext ▸ checkReports_json ws
  · rintro rfl
    exact checkReports_json ws
  · rintro rfl hhalves
    exact escaped_line hhalves

/-- What a policy carries as its author wrote it can be written. -/
structure Carries (json : Bool) (m : Mapping) : Prop where
  asJson : json = true → ∀ d ∈ Workflow.handedOn m, Json.fault? d = none
  asYaml : json = false → (m.value "concurrency").isShowable = true

/-- A policy as compiling prints it. -/
def printedPolicy (json : Bool) (doc : Document) (p : Policy) : Outcome :=
  if json then policyJson p else .done (p.summary (p.groupsIn doc))

/-- A policy that could be derived is printed if it can be written. -/
theorem exitCode_printedPolicy {json : Bool} (hcarries : Carries json doc.entries) {s : Settings}
    {asked : Option Bool} (hfits : Policy.derivesOverlong s asked doc.entries = false) :
    (printedPolicy json doc
        (.ofWorkflow s (Workflow.ready s (Workflow.reading s asked doc.entries)))).exitCode = 0
      ↔ CanBeWritten s json doc (Workflow.ready s (Workflow.reading s asked doc.entries)) := by
  cases json with
  | true =>
    have hwritable := Policy.writable_toData (hcarries.asJson rfl) hfits
    exact iff_of_true (exitCode_policyJson hwritable) ⟨hfits, nofun⟩
  | false =>
    have hgroup : (Policy.ofWorkflow s (Workflow.ready s (Workflow.reading s asked
        doc.entries))).concurrency.isWritable = true :=
      Concurrency.isWritable_ofWorkflow _ _ (hcarries.asYaml rfl)
    refine (exitCode_summary hgroup doc).trans ⟨fun h => ⟨hfits, fun _ => h⟩, fun h => ?_⟩
    exact h.summary rfl

theorem runCheck_eq (hload : Frontmatter.loadDocument readers fs (Path.ofText c.file) = .ok doc)
    (s : Settings) :
    ∃ ws text, runCheck readers fs s c
      = { (Workflow.failure? s c.strict doc.entries).elim (.done [some (.ofString text)])
          (Outcome.ofFailure fun e => .refusedWith (answer c.json e)) with warnings := ws } := by
  have hvalidate := Workflow.validate_guarded s c.strict doc.entries
  rw [runCheck, withFrontmatter, withDocument_eq hload, Outcome.ofCheck_guarded hvalidate]
  cases c.json with
  | true => exact ⟨_, Json.compact validData, rfl⟩
  | false => exact ⟨_, "VALID", rfl⟩

theorem runCompile_eq (hload : Frontmatter.loadDocument readers fs (Path.ofText r.file) = .ok doc)
    (s : Settings) :
    ∃ ws, runCompile readers fs s r
      = { (Policy.failure? (r.settings s) r.strict doc.entries).elim
          (printedPolicy r.json doc (.ofWorkflow (r.settings s) (Workflow.ready (r.settings s)
            (Workflow.reading (r.settings s) r.strict doc.entries))))
          (Outcome.ofFailure fun e => .failed e.message) with warnings := ws } := by
  have hcompile := Policy.compile_guarded (r.settings s) r.strict doc.entries
  rw [runCompile, withDocument_eq hload, Outcome.ofCheck_guarded hcompile]
  exact ⟨_, rfl⟩

theorem exitCode_runCheck
    (hload : Frontmatter.loadDocument readers fs (Path.ofText c.file) = .ok doc) (s : Settings) :
    (runCheck readers fs s c).exitCode = 0 ↔ Workflow.failure? s c.strict doc.entries = none := by
  obtain ⟨ws, text, hrun⟩ := runCheck_eq hload s
  rw [hrun]
  cases Workflow.failure? s c.strict doc.entries with
  | none => exact iff_of_true (Outcome.exitCode_done.mpr (congrArg Prod.snd
      (printable_strings [text]))) rfl
  | some f =>
    have hfailed := exitCode_ofFailure (fun e => Outcome.exitCode_refusedWith (answer c.json e)) f
    exact iff_of_false (fun h => absurd (hfailed.symm.trans h) (by decide)) nofun

theorem exitCode_runCompile
    (hload : Frontmatter.loadDocument readers fs (Path.ofText r.file) = .ok doc)
    (hcarries : Carries r.json doc.entries) (s : Settings) :
    (runCompile readers fs s r).exitCode = 0
      ↔ Workflow.failure? (r.settings s) r.strict doc.entries = none
        ∧ CanBeWritten (r.settings s) r.json doc
          (Workflow.ready (r.settings s)
            (Workflow.reading (r.settings s) r.strict doc.entries)) := by
  obtain ⟨ws, hrun⟩ := runCompile_eq hload s
  rw [hrun]
  cases hfailure : Policy.failure? (r.settings s) r.strict doc.entries with
  | none =>
    obtain ⟨hpasses, hfits⟩ := Policy.failure?_eq_none_iff.mp hfailure
    rw [hpasses]
    exact (exitCode_printedPolicy hcarries hfits).trans (and_iff_right rfl).symm
  | some f =>
    have hfailed : (Outcome.ofFailure (fun e => .failed e.message) f).exitCode = 1 :=
      exitCode_ofFailure (fun _ => rfl) f
    refine iff_of_false (fun h => absurd (hfailed.symm.trans h) (by decide)) ?_
    rintro ⟨hpasses, hwritten⟩
    rw [Policy.failure?_eq_none_iff.mpr ⟨hpasses, hwritten.numbers⟩] at hfailure
    cases hfailure

/-- **Checking and compiling agree** on every file whose frontmatter loads, whatever the
    settings and the strictness that is asked for, for a trial run or not, as JSON or not.
    Their exit codes tell the same exactly if what compiling makes of a workflow that passed
    the checks can be written; and where both end with an error of the policy, they report
    the same text as long as it has characters only. -/
theorem runCheck_agrees (readers : Readers) (hfile : r.file = c.file)
    (hstrict : r.strict = c.strict)
    (hload : Frontmatter.loadDocument readers fs (Path.ofText c.file) = .ok doc)
    (hcarries : Carries r.json doc.entries) (s : Settings) :
    (((runCheck readers fs s c).exitCode = 0 ↔ (runCompile readers fs s r).exitCode = 0)
        ↔ ∀ w, (Workflow.validate (r.settings s) r.strict doc.entries).outcome = .ok w →
          CanBeWritten (r.settings s) r.json doc w)
      ∧ ∀ e, (Workflow.validate s c.strict doc.entries).outcome = .error (.policy e) →
        ReportAlike c.json (runCheck readers fs s c) (runCompile readers fs s r) e := by
  have hload' : Frontmatter.loadDocument readers fs (Path.ofText r.file) = .ok doc := by
    rw [hfile, hload]
  constructor
  · rw [exitCode_runCheck hload, exitCode_runCompile hload' hcarries, Workflow.validate_guarded,
      failure?_settings, hstrict]
    cases Workflow.failure? s c.strict doc.entries with
    | none => simp [Check.guarded]
    | some f => simp [Check.guarded]
  · intro e he
    obtain ⟨ws, text, hcheck⟩ := runCheck_eq hload s
    obtain ⟨ws', hcompile⟩ := runCompile_eq hload' s
    have hfailure : Workflow.failure? s c.strict doc.entries = some (.policy e) := by
      rw [Workflow.validate_guarded] at he
      cases hfailure : Workflow.failure? s c.strict doc.entries with
      | none =>
        rw [hfailure] at he
        cases he
      | some f =>
        rw [hfailure] at he
        exact congrArg some (Except.error.inj he)
    rw [Policy.failure?, failure?_settings, hstrict, hfailure] at hcompile
    rw [hcheck, hcompile, hfailure]
    exact reportAlike_of_policy c.json ws ws'

def workflowFiles (text : String) : Files :=
  { here := ⟨"/", ["repo"]⟩
    home := ⟨"/", ["home"]⟩
    files := [(⟨"/", ["repo", "w.yml"]⟩, ⟨text, 420⟩)] }

/-- A workflow with a concurrency group of its own, which it shows in its summary. -/
def groupText : String := "on: push\nconcurrency: one\n"

def groupFrontmatter : Mapping := [(.text "concurrency", .text "one"), (.text "on", .text "push")]

theorem runCheck_agrees_group :
    ∃ doc, Frontmatter.loadDocument (.own 100) (workflowFiles groupText) (Path.ofText "w.yml")
        = .ok doc
      ∧ Carries false doc.entries
      ∧ (runCheck (.own 100) (workflowFiles groupText) {} ⟨"w.yml", none, false⟩).exitCode = 0
      ∧ (runCompile (.own 100) (workflowFiles groupText) {}
        ⟨"w.yml", none, true, some "o/r", false⟩).exitCode = 0
      ∧ ∀ w, (Workflow.validate { trialMode := true, trialRepo := some "o/r" } none
          doc.entries).outcome = .ok w →
        CanBeWritten { trialMode := true, trialRepo := some "o/r" } false doc w := by
  have hload : (Frontmatter.load (.own 100) (workflowFiles groupText)
      (Path.ofText "w.yml")).toOption = some groupFrontmatter := by
    decide +kernel
  have hcheck : (runCheck (.own 100) (workflowFiles groupText) {}
      ⟨"w.yml", none, false⟩).exitCode = 0 := by
    decide +kernel
  have hcompile : (runCompile (.own 100) (workflowFiles groupText) {}
      ⟨"w.yml", none, true, some "o/r", false⟩).exitCode = 0 := by
    decide +kernel
  obtain ⟨doc, hdoc, hentries⟩ := Frontmatter.exists_loadDocument hload
  have hcarries : Carries false doc.entries := by
    rw [hentries]
    exact ⟨nofun, fun _ => rfl⟩
  have hagree := (runCheck_agrees (.own 100) (c := ⟨"w.yml", none, false⟩)
    (r := ⟨"w.yml", none, true, some "o/r", false⟩) rfl rfl hdoc hcarries {}).1
  exact ⟨doc, hdoc, hcarries, hcheck, hcompile, hagree.mp (iff_of_true hcheck hcompile)⟩

/-- A workflow whose name is half of a surrogate pair. -/
def halfNameText : String := "name: \"\\ud83d\"\n"

/-- It passes the checks, and its policy has no summary. -/
theorem runCheck_halfName :
    (runCheck (.own 100) (workflowFiles halfNameText) {} ⟨"w.yml", none, false⟩).exitCode = 0
      ∧ (runCompile (.own 100) (workflowFiles halfNameText) {}
        ⟨"w.yml", none, false, none, false⟩).exitCode = 1
      ∧ (runCompile (.own 100) (workflowFiles halfNameText) {}
        ⟨"w.yml", none, false, none, false⟩).escaped = some .unencodable := by
  refine ⟨?_, ?_, ?_⟩
  all_goals decide +kernel

end CommandLine

end WorkflowPolicy
