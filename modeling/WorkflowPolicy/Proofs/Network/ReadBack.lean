/-
  WorkflowPolicy/Proofs/Network/ReadBack.lean
  ===========================================
  **Networks read back.**  The frontmatter value of a network declares that network,
  firewall settings included.  A network that was not declared is declared afterwards,
  and only this tells the two apart (`ofData?_toData`); restrictions do not depend on
  it for the default set (`isRestricted_declared`).

  What a frontmatter declares is always declared, so it comes back as it was
  (`ofFrontmatter?_frontmatter`).  The firewall is what could go wrong: a firewall with
  default settings has an empty mapping for its written form, and one that is off has
  none.
-/
import WorkflowPolicy.Network
import WorkflowPolicy.Proofs.Rows

namespace WorkflowPolicy

/-! ### Firewalls -/

namespace Firewall

def rows (f : Firewall) : Fields (Option Data) :=
  [("args", Fields.textsRow f.args),
   ("version", Fields.textRow f.version),
   ("log-level", Fields.textRow f.logLevel),
   ("ssl-bump", Fields.flagRow f.sslBump),
   ("allow-urls", Fields.textsRow f.allowUrls)]

theorem distinct_rows (f : Firewall) : f.rows.Distinct := by
  simp [Assoc.Distinct, rows]

theorem toData_eq (f : Firewall) : f.toData = .ofFields (Fields.present f.rows) := by
  simp only [toData, rows, Fields.entry_text, Fields.entry_texts, Fields.entry_flag,
    Fields.present_cons_cons, List.append_assoc]

theorem version_row (s : Text) :
    (version? ((Fields.textRow s).getD .null)).getD "" = s := by
  by_cases h : s = "" <;> simp [Fields.textRow, h, version?]

theorem ofData?_toData (f : Firewall) : ofData? f.toData = some f := by
  rw [toData_eq, Fields.ofFields_eq]
  simp only [ofData?, Fields.value_toMapping, Fields.get?_present f.distinct_rows]
  simp [rows, Fields.get?, Assoc.get?, version_row]

theorem isOverlong_toData (f : Firewall) : isOverlong f.toData = false := by
  rw [toData_eq, Fields.ofFields_eq, isOverlong, Fields.value_toMapping,
    Fields.get?_present f.distinct_rows]
  by_cases h : f.version = "" <;> simp [rows, Fields.get?, Assoc.get?, Fields.textRow, h]

end Firewall

/-! ### Networks -/

namespace Network

def rows (n : Network) : Fields (Option Data) :=
  [("allowed", some (.ofTexts n.allowed)),
   ("blocked", Fields.textsRow n.blocked),
   ("firewall", n.firewall.map Firewall.toData)]

theorem distinct_rows (n : Network) : n.rows.Distinct := by
  simp [Assoc.Distinct, rows]

theorem toData_eq (n : Network) : n.toData = .ofFields (Fields.present n.rows) := by
  simp only [toData, rows, Fields.entry_texts, Fields.present_cons_cons, List.append_assoc]
  cases n.firewall <;> rfl

theorem ofData?_toData (n : Network) : ofData? n.toData = some { n with explicit := true } := by
  have hfirewall : (n.firewall.map Firewall.toData).bind Firewall.ofData? = n.firewall := by
    cases n.firewall with
    | none => rfl
    | some f => exact f.ofData?_toData
  rw [toData_eq, Fields.ofFields_eq]
  simp only [ofData?, Fields.value_toMapping, Fields.get?_toMapping,
    Fields.get?_present n.distinct_rows]
  simp [rows, Fields.get?, Assoc.get?, hfirewall]

theorem explicit_of_ofData? {d : Data} {n : Network} (h : ofData? d = some n) :
    n.explicit = true := by
  cases d with
  | text s =>
    rw [ofData?] at h
    split at h
    · obtain rfl := Option.some.inj h
      rfl
    · cases h
  | map es =>
    obtain rfl := Option.some.inj h
    rfl
  | _ => cases h

theorem explicit_of_ofFrontmatter? {m : Mapping} {n : Network} (h : ofFrontmatter? m = some n) :
    n.explicit = true := by
  obtain ⟨d, -, hd⟩ := Option.bind_eq_some_iff.mp h
  exact explicit_of_ofData? hd

/-- Declaring the default set restricts no more than declaring nothing. -/
theorem isRestricted_declared (m : Mapping) :
    isRestricted { (ofFrontmatter? m).getD default with explicit := true }
      = ((ofFrontmatter? m).getD default).isRestricted := by
  cases hdeclared : ofFrontmatter? m with
  | none => decide
  | some n =>
    have hexplicit := explicit_of_ofFrontmatter? hdeclared
    obtain ⟨allowed, blocked, firewall, explicit⟩ := n
    obtain rfl : explicit = true := hexplicit
    rfl

/-! ### Networks that are declared -/

def frontmatter (n : Network) : Mapping := [(.text "network", n.toData)]

theorem ofFrontmatter?_of_get? {m : Mapping} {n : Network}
    (hm : m.get? "network" = some n.toData) :
    ofFrontmatter? m = some { n with explicit := true } := by
  rw [ofFrontmatter?, hm, Option.bind_some, ofData?_toData]

theorem isOverlong_of_get? {m : Mapping} {n : Network} (hm : m.get? "network" = some n.toData) :
    isOverlong m = false := by
  rw [isOverlong, Mapping.value, hm, Option.getD_some, toData_eq, Fields.ofFields_eq]
  simp only [Fields.value_toMapping, Fields.get?_present n.distinct_rows]
  cases hfirewall : n.firewall with
  | none => simp [rows, Fields.get?, Assoc.get?, hfirewall, Firewall.isOverlong]
  | some f => simp [rows, Fields.get?, Assoc.get?, hfirewall, f.isOverlong_toData]

/-- **Round trip of networks.**  The network that a frontmatter declares is declared by
    its written form, and whatever is judged of the one holds of the other. -/
theorem ofFrontmatter?_frontmatter {m : Mapping} {n : Network} (h : ofFrontmatter? m = some n) :
    ofFrontmatter? n.frontmatter = some n
      ∧ ∀ n' ∈ ofFrontmatter? n.frontmatter, n'.deniesAll = n.deniesAll
        ∧ n'.allowsEverything = n.allowsEverything ∧ n'.isRestricted = n.isRestricted := by
  have hget : n.frontmatter.get? "network" = some n.toData :=
    Assoc.get?_insert_self Data.keyForm _ _ []
  have hread : ofFrontmatter? n.frontmatter = some n := by
    rw [ofFrontmatter?_of_get? hget, ← explicit_of_ofFrontmatter? h]
  refine ⟨hread, ?_⟩
  intro n' hn'
  rw [hread, Option.mem_some_iff] at hn'
  subst hn'
  exact ⟨rfl, rfl, rfl⟩

/-- No domain is left of the allowed ones, the blocked ones are malformed, and the
    firewall has a number for its version and a word for its flag. -/
def sparseNetwork : Mapping :=
  [(.text "network", .map
    [(.text "allowed", .list [.int 1, .null]),
     (.text "blocked", .text "example.com"),
     (.text "firewall", .map
      [(.text "version", .float (.finite false 7177611906121728 (-49))),
       (.text "args", .list [.text "", .bool true]),
       (.text "ssl-bump", .text "yes"),
       (.text "allow-urls", .list [.text "https://a/*", .null])])])]

theorem ofFrontmatter?_frontmatter_sparse :
    ∃ n, ofFrontmatter? sparseNetwork = some n ∧ n.deniesAll = true
      ∧ n.firewall = some { version := "12.75", args := [""], allowUrls := ["https://a/*"] }
      ∧ ofFrontmatter? n.frontmatter = some n
      ∧ ∀ n' ∈ ofFrontmatter? n.frontmatter, n'.deniesAll = n.deniesAll
        ∧ n'.allowsEverything = n.allowsEverything ∧ n'.isRestricted = n.isRestricted := by
  have h : ofFrontmatter? sparseNetwork = some
      { firewall := some { version := "12.75", args := [""], allowUrls := ["https://a/*"] }
        explicit := true } := by
    decide +kernel
  exact ⟨_, h, rfl, rfl, ofFrontmatter?_frontmatter h⟩

end Network

end WorkflowPolicy
