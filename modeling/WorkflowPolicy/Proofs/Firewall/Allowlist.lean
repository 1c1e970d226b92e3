/-
  WorkflowPolicy/Proofs/Firewall/Allowlist.lean
  =============================================
  **The allowlist as an argument.**  The firewall is started with the URL patterns of an
  author as one argument, joined with commas.  Splitting it gives the parts of every
  pattern between commas (`Firewall.urlParts`), and these are all that the arguments tell
  about an allowlist (`sslBumpArgs_denotes`).

  For patterns without commas the parts are the patterns, and the arguments tell any two
  allowlists apart.  A pattern with a comma in it looks like several, and its arguments
  are those of another allowlist (`sslBumpArgs_commaUrl`).
-/
import WorkflowPolicy.Network
import WorkflowPolicy.Proofs.Text.Parts

namespace WorkflowPolicy.Firewall

variable {f g : Firewall}

/-- The parts of the URL patterns between commas. -/
def urlParts (f : Firewall) : List Text := f.allowUrls.flatMap (Text.splitText ',')

/-- No URL pattern has a comma in it. -/
def HasPlainUrls (f : Firewall) : Prop := ∀ url ∈ f.allowUrls, .char ',' ∉ url.toList

/-- The URL patterns joined to one argument. -/
def urlArgument (f : Firewall) : Text := Text.intercalate "," f.allowUrls

/-! ### The argument -/

theorem urlParts_eq_allowUrls_iff : f.urlParts = f.allowUrls ↔ f.HasPlainUrls :=
  Text.flatMap_splitText_eq_self_iff

theorem splitText_urlArgument (h : f.allowUrls ≠ []) :
    Text.splitText ',' f.urlArgument = f.urlParts :=
  Text.splitText_intercalate h

/-- The argument tells the parts, and nothing else. -/
theorem urlArgument_eq_iff (hf : f.allowUrls ≠ []) (hg : g.allowUrls ≠ []) :
    g.urlArgument = f.urlArgument ↔ g.urlParts = f.urlParts := by
  rw [← splitText_urlArgument hf, ← splitText_urlArgument hg]
  constructor
  · intro h
    rw [h]
  · intro h
    have hjoined := congrArg (Text.intercalate ⟨[.char ',']⟩) h
    rwa [Text.intercalate_splitText, Text.intercalate_splitText] at hjoined

theorem sslBumpArgs_eq_some_iff {a : Text} :
    f.sslBumpArgs = some (["--ssl-bump", "--allow-urls", a] : List Text)
      ↔ f.sslBump = true ∧ f.allowUrls ≠ [] ∧ f.urlArgument = a := by
  rw [sslBumpArgs]
  by_cases hbump : f.sslBump = false
  · simp [hbump]
  · by_cases hurls : f.allowUrls = []
    · simp [hurls]
    · simp [hbump, hurls, urlArgument]

/-! ### What the arguments say -/

/-- The arguments of a firewall and what they tell about its allowlist. -/
structure Denotes (f : Firewall) (a : Text) : Prop where
  args : f.sslBumpArgs = some (["--ssl-bump", "--allow-urls", a] : List Text)
  /-- Between the commas stand the parts of the author's patterns. -/
  parts : Text.splitText ',' a = f.urlParts
  /-- These are the author's patterns exactly if no pattern has a comma in it. -/
  allowUrls_iff : Text.splitText ',' a = f.allowUrls ↔ f.HasPlainUrls
  /-- Another firewall has the same arguments exactly if its patterns have the same parts. -/
  args_eq_iff : ∀ g : Firewall, g.sslBumpArgs = f.sslBumpArgs
    ↔ g.sslBump = true ∧ g.allowUrls ≠ [] ∧ g.urlParts = f.urlParts
  /-- Patterns without commas are known by their arguments. -/
  injective : f.HasPlainUrls → ∀ g : Firewall, g.HasPlainUrls →
    g.sslBumpArgs = f.sslBumpArgs → g.allowUrls = f.allowUrls

/-- **An allowlist as an argument.**  HTTPS inspection with URL patterns starts the firewall
    with an argument that denotes them, up to the commas in them. -/
theorem sslBumpArgs_denotes (hbump : f.sslBump = true) (hurls : f.allowUrls ≠ []) :
    ∃ a, f.Denotes a := by
  have hargs : f.sslBumpArgs = some (["--ssl-bump", "--allow-urls", f.urlArgument] : List Text) :=
    sslBumpArgs_eq_some_iff.mpr ⟨hbump, hurls, rfl⟩
  have hsame : ∀ g : Firewall, g.sslBumpArgs = f.sslBumpArgs
      ↔ g.sslBump = true ∧ g.allowUrls ≠ [] ∧ g.urlParts = f.urlParts := by
    intro g
    rw [hargs, sslBumpArgs_eq_some_iff]
    refine and_congr_right fun _ => and_congr_right fun hg => ?_
    exact urlArgument_eq_iff hurls hg
  refine ⟨f.urlArgument, hargs, splitText_urlArgument hurls, ?_, hsame, ?_⟩
  · rw [splitText_urlArgument hurls]
    exact urlParts_eq_allowUrls_iff
  · intro hplain g hplain' heq
    obtain ⟨-, -, hparts⟩ := (hsame g).mp heq
    rwa [urlParts_eq_allowUrls_iff.mpr hplain, urlParts_eq_allowUrls_iff.mpr hplain'] at hparts

/-! ### Allowlists of authors -/

/-- A frontmatter with HTTPS inspection and the given entries for the allowlist. -/
def inspecting (urls : List Data) : Mapping :=
  [(.text "network", .map
    [(.text "firewall", .map
      [(.text "ssl-bump", .bool true), (.text "allow-urls", .list urls)])])]

/-- An empty pattern and one that stands twice are kept; what is no text is left out. -/
theorem sslBumpArgs_denotes_repeated :
    ∃ f, (Network.ofFrontmatter?
        (inspecting [.text "https://a/*", .int 1, .text "", .text "https://a/*"])).bind
          Network.firewall = some f
      ∧ f.sslBump = true ∧ f.allowUrls = (["https://a/*", "", "https://a/*"] : List Text)
      ∧ f.HasPlainUrls ∧ ∃ a, f.Denotes a ∧ Text.splitText ',' a = f.allowUrls := by
  have hplain : HasPlainUrls
      { sslBump := true, allowUrls := ["https://a/*", "", "https://a/*"] } := by
    unfold HasPlainUrls
    decide +kernel
  obtain ⟨a, ha⟩ := sslBumpArgs_denotes
    (f := { sslBump := true, allowUrls := ["https://a/*", "", "https://a/*"] }) rfl (by simp)
  exact ⟨_, by decide +kernel, rfl, rfl, hplain, a, ha, ha.allowUrls_iff.mpr hplain⟩

/-- One pattern with a comma in it starts the firewall as two patterns would: it allows a
    whole site that the author did not list. -/
theorem sslBumpArgs_commaUrl :
    ∃ f g, (Network.ofFrontmatter? (inspecting [.text "https://a/x,https://b/*"])).bind
          Network.firewall = some f
      ∧ (Network.ofFrontmatter? (inspecting [.text "https://a/x", .text "https://b/*"])).bind
          Network.firewall = some g
      ∧ f.sslBump = true ∧ f.allowUrls = (["https://a/x,https://b/*"] : List Text)
      ∧ g.sslBump = true ∧ g.allowUrls = (["https://a/x", "https://b/*"] : List Text)
      ∧ f.sslBumpArgs
        = some (["--ssl-bump", "--allow-urls", "https://a/x,https://b/*"] : List Text)
      ∧ Text.splitText ',' "https://a/x,https://b/*" ≠ f.allowUrls
      ∧ f.allowUrls ≠ g.allowUrls ∧ f.sslBumpArgs = g.sslBumpArgs := by
  refine ⟨{ sslBump := true, allowUrls := ["https://a/x,https://b/*"] },
    { sslBump := true, allowUrls := ["https://a/x", "https://b/*"] }, ?_⟩
  decide +kernel

end WorkflowPolicy.Firewall
