/-
  WorkflowPolicy/Proofs/Workflow/BareTrigger.lean
  ===============================================
  **The bare trigger key.**  YAML reads a bare `on` as the boolean, and two stages know of it:
  the loader gives the entry its name back, and the reader of triggers looks under the
  boolean when there is no such name.  Both find the same trigger
  (`Frontmatter.triggerOf_restoreTrigger`), and the entry that moves to the end hides no other
  one, so the loader changes nothing about compilation (`Policy.compile_restoreTrigger`).

  The loader restores the entry before it is known what lies in it.  For documents without
  cycles this is the same as restoring it in the tree (`Frontmatter.entries_ofDocument`).
-/
import WorkflowPolicy.Frontmatter
import WorkflowPolicy.Proofs.Data.Document
import WorkflowPolicy.Proofs.Workflow.Parts

namespace WorkflowPolicy

namespace Frontmatter

open Workflow (SameParts ofFrontmatter triggerOf)
open SafeOutput (Block)

/-! ### The restored trigger -/

section Restored

variable (m : Mapping)

theorem get?_restoreTrigger {key : Data} (hon : key ≠ .text "on")
    (htrue : key.keyForm ≠ Data.keyForm (.bool true)) :
    Mapping.get? (restoreTrigger m) key = m.get? key := by
  unfold restoreTrigger
  split
  · have hname : Data.keyForm (.text "on") ≠ key.keyForm := by
      intro hform
      exact hon (Data.keyForm_eq_text.mp hform.symm)
    rw [Mapping.get?, Assoc.get?_insert_of_ne _ hname, Assoc.get?_erase_of_ne _ htrue.symm]
    rfl
  · rfl

theorem triggerOf_restoreTrigger : triggerOf (restoreTrigger m) = triggerOf m := by
  unfold restoreTrigger
  split
  · rename_i d htrue hon
    have hrestored : triggerOf (Assoc.insert Data.keyForm (.text "on") d
        (Assoc.erase Data.keyForm (.bool true) m)) = d := by
      rw [triggerOf, Mapping.get?, Assoc.get?_insert_self]
    have hbare : triggerOf m = d := by
      rw [triggerOf, Mapping.get?, hon, Mapping.value, Mapping.get?, htrue]
      rfl
    rw [hrestored, hbare]
  · rfl

theorem get?_restoreTrigger_text {key : Text} (h : key ≠ "on") :
    Mapping.get? (restoreTrigger m) key = m.get? key := by
  apply get?_restoreTrigger
  · intro hkey
    exact h (Data.text.inj hkey)
  · exact nofun

theorem sameParts_restoreTrigger : SameParts (restoreTrigger m) m := by
  constructor
  · intro key hkey
    apply get?_restoreTrigger_text
    rintro rfl
    exact absurd hkey (by decide)
  · rw [Block.extract, Block.extract, Mapping.value_congr (get?_restoreTrigger_text m (by decide))]
  · rw [Block.isOverlong, Block.isOverlong,
      Mapping.value_congr (get?_restoreTrigger_text m (by decide))]

/-- Reading finds the same workflow, and warns of the same. -/
theorem ofFrontmatter_restoreTrigger (settings : Settings) (asked : Option Bool) :
    ofFrontmatter settings asked (restoreTrigger m) = ofFrontmatter settings asked m := by
  -- the trigger alone is found under another key
  have hparts := sameParts_restoreTrigger m
  have houtputs : Mapping.value (restoreTrigger m) "safe-outputs" = m.value "safe-outputs" :=
    Mapping.value_congr (get?_restoreTrigger_text m (by decide))
  have hblock : Block.read (restoreTrigger m) = Block.read m := by
    rw [Block.read, Block.read, hparts.safeOutputs, hparts.longKeys, Block.extractWarnings,
      Block.extractWarnings, houtputs]
  have hnetwork : Network.read (restoreTrigger m) = Network.read m := by
    rw [Network.read, Network.read, Network.isOverlong, Network.isOverlong,
      Network.ofFrontmatter?, Network.ofFrontmatter?, hparts.value_eq "network" (by decide),
      hparts.entries "network" (by decide)]
  have hsandbox : Sandbox.read (restoreTrigger m) = Sandbox.read m := by
    rw [Sandbox.read, Sandbox.read, Sandbox.ofFrontmatter, Sandbox.ofFrontmatter,
      hparts.value_eq "sandbox" (by decide)]
  have hname := hparts.value_eq "name" (by decide)
  have hpermissions := hparts.value_eq "permissions" (by decide)
  have hengine := hparts.value_eq "engine" (by decide)
  have hconcurrency := hparts.value_eq "concurrency" (by decide)
  have htools := hparts.mappingAt_eq "tools" (by decide)
  have hservers := hparts.mappingAt_eq "mcp-servers" (by decide)
  unfold ofFrontmatter
  rw [hblock, hnetwork, hsandbox, htools, hservers, triggerOf_restoreTrigger, hname, hengine,
    hpermissions, hconcurrency, hparts.strictness_eq]

end Restored

/-! ### Loading -/

section Loading

variable {ν μ : Type}

theorem restoreTrigger_map (f : ν → μ) (m : List (Data × ν)) :
    restoreTrigger (m.map fun e => (e.1, f e.2))
      = (restoreTrigger m).map fun e => (e.1, f e.2) := by
  rw [restoreTrigger, restoreTrigger, Assoc.get?_map, Assoc.get?_map]
  cases Assoc.get? Data.keyForm (.bool true) m with
  | none => rfl
  | some v =>
    cases Assoc.get? Data.keyForm (.text "on") m with
    | some w => rfl
    | none =>
      rw [Option.map_some, Option.map_none]
      exact (congrArg _ (Assoc.erase_map Data.keyForm f _ m)).trans
        (Assoc.insert_map Data.keyForm f _ v _)

/-- No value is new. -/
theorem exists_of_mem_restoreTrigger {m : List (Data × ν)} {e : Data × ν}
    (h : e ∈ restoreTrigger m) : ∃ d ∈ m, d.2 = e.2 := by
  unfold restoreTrigger at h
  split at h
  · rename_i v htrue hon
    have hne : Data.keyForm (.bool true) ≠ Data.keyForm (.text "on") := by decide
    have herased : Assoc.get? Data.keyForm (.text "on")
        (Assoc.erase Data.keyForm (.bool true) m) = none := by
      rw [Assoc.get?_erase_of_ne _ hne, hon]
    rw [Assoc.insert_of_get?_eq_none _ herased, List.mem_append, List.mem_singleton] at h
    rcases h with hold | rfl
    · exact ⟨e, (Assoc.erase_sublist Data.keyForm _ m).subset hold, rfl⟩
    · obtain ⟨key, -, hmem⟩ := Assoc.mem_of_get? Data.keyForm htrue
      exact ⟨(key, v), hmem, rfl⟩
  · exact ⟨e, h, rfl⟩

theorem links_restoreTrigger (es : List (Data × Part)) :
    (Collection.map (restoreTrigger es)).links ⊆ (Collection.map es).links := by
  intro l hl
  obtain ⟨p, hp, hid⟩ := List.mem_filterMap.mp hl
  obtain ⟨e, he, rfl⟩ := List.mem_map.mp hp
  obtain ⟨d, hd, hvalue⟩ := exists_of_mem_restoreTrigger he
  refine List.mem_filterMap.mpr ⟨d.2, List.mem_map_of_mem hd, ?_⟩
  rw [hvalue, hid]

/-- The loader restores the trigger of what was decoded. -/
theorem entries_ofDocument {doc doc' : Document} (h : doc.IsAcyclic)
    (hload : ofDocument doc = .ok doc') : doc'.entries = restoreTrigger doc.entries := by
  unfold ofDocument at hload
  split at hload
  · rename_i hroot
    cases hload
    have hdata : doc.data = .null := by
      rw [Document.data, hroot]
      rfl
    rw [Document.entries, Document.entries, hdata]
    rfl
  · rename_i id es hroot hentries
    -- keys that are too long to be shown keep the loader from its result
    obtain rfl : doc.set id (.map (restoreTrigger es)) = doc' := by
      dsimp only at hload
      split at hload
      · exact Except.ok.inj hload
      · cases hload
    have hget : doc.get? id = some (.map es) := by
      rw [hroot, Document.entries?] at hentries
      split at hentries
      · rename_i hc
        cases hentries
        exact hc
      · cases hentries
    -- only the entries of the root change: the data of what lies in it stay
    obtain ⟨value, hdata, hdata'⟩ :=
      Document.data_set_root h hroot hget (links_restoreTrigger es)
    rw [Document.entries, Document.entries, hdata, hdata']
    exact (restoreTrigger_map (·.toData value) es).symm
  · cases hload

end Loading

end Frontmatter

/-! ### Two places to look -/

namespace Policy

open Frontmatter (ofDocument restoreTrigger)
open Workflow (triggerOf)

/-- Two frontmatters that say the same, with the trigger in one place or the other. -/
structure SaysTheSame (m n : Mapping) : Prop where
  trigger : triggerOf m = triggerOf n
  entries : ∀ key : Data, key ≠ .text "on" → key.keyForm ≠ Data.keyForm (.bool true) →
    m.get? key = n.get? key
  compiled : ∀ settings asked, compile settings asked m = compile settings asked n

theorem saysTheSame_restoreTrigger (m : Mapping) : SaysTheSame (restoreTrigger m) m := by
  refine ⟨Frontmatter.triggerOf_restoreTrigger m, ?_, ?_⟩
  · intro key hon htrue
    exact Frontmatter.get?_restoreTrigger m hon htrue
  · intro settings asked
    rw [compile, compile, Workflow.validate, Workflow.validate,
      Frontmatter.ofFrontmatter_restoreTrigger]

/-- **The bare trigger key** is read alike in both places.  Whether the loader has restored
    its name or not, the trigger and everything else are found as they were, and compilation
    ends with the same error or the same policy. -/
theorem compile_restoreTrigger :
    (∀ m, SaysTheSame (restoreTrigger m) m)
    ∧ ∀ doc doc' : Document, doc.IsAcyclic → ofDocument doc = .ok doc' →
      SaysTheSame doc'.entries doc.entries := by
  refine ⟨saysTheSame_restoreTrigger, ?_⟩
  intro doc doc' h hload
  rw [Frontmatter.entries_ofDocument h hload]
  exact saysTheSame_restoreTrigger doc.entries

/-- A push under a number that is the same key as the boolean, and a name. -/
def numberedFrontmatter : Mapping := [(.int 1, .text "push"), (.text "name", .text "nightly")]

def numberedDocument : Document :=
  ⟨#[.map [(.int 1, .own (.text "push")), (.text "tools", .shared 1)], .map []], .shared 0⟩

theorem compile_restoreTrigger_numbered :
    restoreTrigger numberedFrontmatter
        = [(.text "name", .text "nightly"), (.text "on", .text "push")]
      ∧ SaysTheSame (restoreTrigger numberedFrontmatter) numberedFrontmatter
      ∧ numberedDocument.IsAcyclic
      ∧ ∃ doc, ofDocument numberedDocument = .ok doc
        ∧ SaysTheSame doc.entries numberedDocument.entries := by
  obtain ⟨hmapping, hdocument⟩ := compile_restoreTrigger
  have hranked : numberedDocument.Ranked id := by
    have hlinks : ∀ id < numberedDocument.size, ∀ l ∈ numberedDocument.links id,
        l < numberedDocument.size ∧ id < l := by
      decide
    constructor
    · intro id l hl
      exact (hlinks id (Document.lt_size_of_mem_links hl) l hl).1
    · intro id l hl
      exact (hlinks id (Document.lt_size_of_mem_links hl) l hl).2
  have hacyclic : numberedDocument.IsAcyclic := ⟨id, hranked, by decide⟩
  exact ⟨by decide, hmapping _, hacyclic, _, rfl, hdocument _ _ hacyclic rfl⟩

end Policy

end WorkflowPolicy
