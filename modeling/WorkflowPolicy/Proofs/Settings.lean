/-
  WorkflowPolicy/Proofs/Settings.lean
  ===================================
  **Settings that can be.**  Checking leaves settings whose repository has an owner and a
  name, whose level can be named and whose sizes are positive (`Settings.IsValid`), and
  all such settings can be got: their own entries are accepted as they are, although what
  is not set is left out of them (`Settings.ofMapping_entries`).
-/
import WorkflowPolicy.Proofs.Records
import WorkflowPolicy.Settings.Storage

namespace WorkflowPolicy

/-! ### Schemas -/

theorem Schema.mem_of_choice {α : Type} {choices : List (Text × α)} {d : Data} {a : α}
    (h : choice choices d = .accepted a) : ∃ s, (s, a) ∈ choices := by
  cases d with
  | text s =>
    obtain ⟨-, -, h⟩ := Verdict.andThen_eq_accepted.mp h
    split at h
    · rename_i b hb
      cases h
      obtain ⟨l₁, l₂, hsplit, -⟩ := List.lookup_eq_some_iff.mp hb
      exact ⟨s, by simp [hsplit]⟩
    · cases h
  | _ => cases h

theorem Schema.positive_int {n : Int} (h : 0 < n) : positive (.int n) = .accepted n :=
  if_neg (Int.not_le.mpr h)

theorem Schema.positive_eq_accepted {d : Data} {n : Int} (h : positive d = .accepted n) :
    0 < n := by
  obtain ⟨k, -, hk⟩ := Verdict.andThen_eq_accepted.mp h
  split at hk
  · cases hk
  · rename_i hpos
    cases hk
    exact Int.not_le.mp hpos

theorem Schema.repository_eq_accepted {d : Data} {repo : Option Text}
    (h : repository d = .accepted repo) : ∀ r ∈ repo, isOwnerAndName r = true := by
  obtain ⟨r, -, hr⟩ := Verdict.andThen_eq_accepted.mp h
  split at hr
  · rename_i hall
    cases hr
    rintro r rfl
    exact hall
  · cases hr

/-! ### Settings of the log -/

namespace LogSettings

structure IsValid (s : LogSettings) : Prop where
  level : s.level ≠ .critical
  maxSize : 0 < s.maxSizeMb
  backups : 0 < s.backupCount

theorem isValid_default : IsValid {} := ⟨nofun, by decide, by decide⟩

theorem choice_name {l : LogLevel} (h : l ≠ .critical) :
    Schema.choice LogLevel.choices (.text l.name) = .accepted l := by
  cases l with
  | critical => exact (h rfl).elim
  | _ => rfl

theorem ne_critical_of_choice {d : Data} {l : LogLevel}
    (h : Schema.choice LogLevel.choices d = .accepted l) : l ≠ .critical := by
  obtain ⟨s, hmem⟩ := Schema.mem_of_choice h
  rintro rfl
  simp [LogLevel.choices] at hmem

theorem ofRecord_toFields {s : LogSettings} (h : s.IsValid) :
    ofRecord (.ofFields s.toFields) = .accepted s := by
  obtain ⟨level, file, maxSize, backups⟩ := s
  have hlevel := choice_name h.level
  have hmaxSize := Schema.positive_int h.maxSize
  have hbackups := Schema.positive_int h.backups
  rw [Fields.ofFields_eq, ofRecord, Schema.model]
  cases file with
  | none =>
    simp [toFields, Schema.field, Fields.get?, Assoc.get?, hlevel, hmaxSize, hbackups,
      Verdict.within]
    rfl
  | some f =>
    simp [toFields, Schema.field, Fields.get?, Assoc.get?, hlevel, hmaxSize, hbackups,
      Schema.optional, Schema.text, Verdict.within]
    rfl

theorem isValid_of_accepted {d : Data} {s : LogSettings} (h : ofRecord d = .accepted s) :
    s.IsValid := by
  obtain ⟨m, -, hm⟩ := Schema.model_eq_accepted.mp h
  -- the fields are read one after the other, the last one outermost
  obtain ⟨f, backups, hf, hbackups, rfl⟩ := Verdict.seq_eq_accepted.mp hm
  obtain ⟨g, maxSize, hg, hmaxSize, rfl⟩ := Verdict.seq_eq_accepted.mp hf
  obtain ⟨k, file, hk, -, rfl⟩ := Verdict.seq_eq_accepted.mp hg
  obtain ⟨level, hlevel, rfl⟩ := Verdict.map_eq_accepted.mp hk
  refine ⟨?_, ?_, ?_⟩
  · rcases Schema.field_eq_accepted hlevel with rfl | ⟨d, hd⟩
    · nofun
    · exact ne_critical_of_choice hd
  · rcases Schema.field_eq_accepted hmaxSize with rfl | ⟨d, hd⟩
    · exact isValid_default.maxSize
    · exact Schema.positive_eq_accepted hd
  · rcases Schema.field_eq_accepted hbackups with rfl | ⟨d, hd⟩
    · exact isValid_default.backups
    · exact Schema.positive_eq_accepted hd

end LogSettings

/-! ### All settings -/

namespace Settings

structure IsValid (s : Settings) : Prop where
  repository : ∀ repo ∈ s.trialRepo, isOwnerAndName repo = true
  logging : s.logging.IsValid

theorem isValid_default : IsValid {} := ⟨nofun, LogSettings.isValid_default⟩

theorem entries_eq (s : Settings) :
    s.entries = Fields.toMapping
      (([("strict", .bool s.strict), ("trial_mode", .bool s.trialMode)] : Fields Data)
        ++ (match s.trialRepo with
          | some r => [("trial_repo", .text r)]
          | none => [])
        ++ ([("firewall_engines", .ofTexts s.firewallEngines),
          ("firewall_engine_support", .ofTexts s.firewallEngineSupport),
          ("default_firewall_version", .text s.defaultFirewallVersion),
          ("logging", .ofFields s.logging.toFields)] : Fields Data)) := rfl

/-- Valid settings are accepted as they were written. -/
theorem ofMapping_entries {s : Settings} (h : s.IsValid) : ofMapping s.entries = .accepted s := by
  obtain ⟨strict, trialMode, trialRepo, engines, support, version, logging⟩ := s
  have hlogging := LogSettings.ofRecord_toFields h.logging
  have hengines := Schema.list_text engines
  have hsupport := Schema.list_text support
  rw [entries_eq, ofMapping]
  cases trialRepo with
  | none =>
    simp [Schema.field, Fields.get?, Assoc.get?, hlogging, hengines, hsupport, Schema.flag,
      Schema.text, Verdict.within]
    rfl
  | some repo =>
    have hrepo : Schema.repository (.text repo) = .accepted (some repo) :=
      if_pos (h.repository repo rfl)
    simp [Schema.field, Fields.get?, Assoc.get?, hlogging, hengines, hsupport, hrepo, Schema.flag,
      Schema.text, Verdict.within]
    rfl

theorem isValid_of_accepted {m : Mapping} {s : Settings} (h : ofMapping m = .accepted s) :
    s.IsValid := by
  obtain ⟨f₆, logging, h₆, hlogging, rfl⟩ := Verdict.seq_eq_accepted.mp h
  obtain ⟨f₅, version, h₅, -, rfl⟩ := Verdict.seq_eq_accepted.mp h₆
  obtain ⟨f₄, support, h₄, -, rfl⟩ := Verdict.seq_eq_accepted.mp h₅
  obtain ⟨f₃, engines, h₃, -, rfl⟩ := Verdict.seq_eq_accepted.mp h₄
  obtain ⟨f₂, repo, h₂, hrepo, rfl⟩ := Verdict.seq_eq_accepted.mp h₃
  obtain ⟨f₁, trialMode, h₁, -, rfl⟩ := Verdict.seq_eq_accepted.mp h₂
  obtain ⟨strict, -, rfl⟩ := Verdict.map_eq_accepted.mp h₁
  constructor
  · rcases Schema.field_eq_accepted hrepo with rfl | ⟨d, hd⟩
    · nofun
    · exact Schema.repository_eq_accepted hd
  · rcases Schema.field_eq_accepted hlogging with rfl | ⟨d, hd⟩
    · exact LogSettings.isValid_default
    · exact LogSettings.isValid_of_accepted hd

/-- The valid settings are those that can be read from a mapping. -/
theorem isValid_iff {s : Settings} : s.IsValid ↔ ∃ m, ofMapping m = .accepted s :=
  ⟨fun h => ⟨_, ofMapping_entries h⟩, fun ⟨_, h⟩ => isValid_of_accepted h⟩

end Settings

end WorkflowPolicy
