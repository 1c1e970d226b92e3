/-
  WorkflowPolicy/Proofs/Records.lean
  ==================================
  **Models accept what was read.**  A model that is given field by field checks the type
  of every field.  What a reader found has the types already, whatever the author wrote,
  so its record is accepted as it is (`Network.ofRecord_record` and its siblings).

  An agent that is turned off may not say anything else, and that is the only rule on a
  whole record.
-/
import WorkflowPolicy.Network
import WorkflowPolicy.Permissions
import WorkflowPolicy.Proofs.Check
import WorkflowPolicy.Proofs.Rows
import WorkflowPolicy.Sandbox

namespace WorkflowPolicy

/-! ### Schemas -/

theorem Verdict.all_accepted {α : Type} (l : List α) :
    Verdict.all (l.map .accepted) = .accepted l := by
  induction l with
  | nil => rfl
  | cons a l ih =>
    rw [List.map_cons, Verdict.all, ih]
    rfl

namespace Schema

variable {α : Type} {schema : Schema α} {write : α → Data}

/-- A schema that accepts every value in the given written form as that value. -/
def Accepts (schema : Schema α) (write : α → Data) : Prop := ∀ a, schema (write a) = .accepted a

theorem text_accepts : Accepts text Data.text := fun _ => rfl

theorem integer_accepts : Accepts integer Data.int := fun _ => rfl

theorem any_accepts : Accepts any fun d => d := fun _ => rfl

theorem itemsFrom_of_accepts (h : Accepts schema write) (n : Nat) (l : List α) :
    itemsFrom schema n (l.map write) = l.map .accepted := by
  induction l generalizing n with
  | nil => rfl
  | cons a l ih =>
    rw [List.map_cons, itemsFrom, h, ih]
    rfl

theorem list_accepts (h : Accepts schema write) :
    Accepts (list schema) fun l => .list (l.map write) := by
  intro l
  rw [list, itemsFrom_of_accepts h, Verdict.all_accepted]

theorem fields_accepts (h : Accepts schema write) :
    Accepts (fields schema) fun m => .ofFields (m.map fun e => (e.1, write e.2)) := by
  intro m
  have hentries : (Fields.toMapping (m.map fun e => (e.1, write e.2))).map
      (fun e => Prod.mk <$> key e.1 <*> (schema e.2).within (keyStep e.1)) = m.map .accepted := by
    rw [Fields.toMapping, List.map_map, List.map_map]
    apply List.map_congr_left
    intro e _
    simp only [Function.comp_apply, h e.2]
    rfl
  have hunder : underTexts (Fields.toMapping (m.map fun e => (e.1, write e.2))) m = m := by
    simp [underTexts, Fields.strangeKeys_toMapping]
  show fields schema (.map (Fields.toMapping (m.map fun e => (e.1, write e.2)))) = .accepted m
  rw [fields, hentries, Verdict.all_accepted]
  exact congrArg Verdict.accepted hunder

theorem optional_accepts (h : Accepts schema write) (hnull : ∀ a, write a ≠ .null) :
    Accepts (optional schema) fun o => (o.map write).getD .null := by
  intro o
  cases o with
  | none => rfl
  | some a =>
    have hsome : ∀ d : Data, d ≠ .null → optional schema d = some <$> schema d := by
      intro d hd
      cases d with
      | null => exact (hd rfl).elim
      | _ => rfl
    exact (hsome _ (hnull a)).trans (congrArg (some <$> ·) (h a))

theorem list_text (l : List Text) : list text (.ofTexts l) = .accepted l :=
  list_accepts text_accepts l

theorem fields_text (m : Fields Text) : fields text (.ofTextFields m) = .accepted m := by
  rw [Fields.ofTextFields_eq]
  exact fields_accepts text_accepts m

/-- A mapping whose keys are texts is carried as it is. -/
theorem fields_any (m : Fields Data) : fields any (.ofFields m) = .accepted m := by
  simpa using fields_accepts any_accepts m

theorem model_eq_accepted {read : Mapping → Verdict α} {d : Data} {a : α} :
    model read d = .accepted a ↔ ∃ es, d = .map es ∧ read es = .accepted a := by
  cases d <;> simp [model, Verdict.refuse]

theorem field_eq_accepted {m : Mapping} {name : Text} {default a : α}
    (h : field m name default schema = .accepted a) :
    a = default ∨ ∃ d, schema d = .accepted a := by
  rw [field] at h
  split at h
  · exact .inl (Verdict.accepted.inj h).symm
  · exact .inr ⟨_, Verdict.within_eq_accepted.mp h⟩

theorem optional_eq_accepted {d : Data} {o : Option α} (h : optional schema d = .accepted o) :
    ∀ a ∈ o, schema d = .accepted a := by
  rintro a rfl
  unfold optional at h
  split at h
  · cases h
  · obtain ⟨b, hb, hab⟩ := Verdict.map_eq_accepted.mp h
    rw [hb, Option.some.inj hab]

end Schema

/-! ### Networks -/

namespace Firewall

def record (f : Firewall) : Data :=
  .ofFields
    [("version", .text f.version),
     ("args", .ofTexts f.args),
     ("log_level", .text f.logLevel),
     ("ssl_bump", .bool f.sslBump),
     ("allow_urls", .ofTexts f.allowUrls)]

theorem ofRecord_record (f : Firewall) : ofRecord f.record = .accepted f := by
  rw [record, Fields.ofFields_eq, ofRecord, Schema.model]
  simp [Schema.field, Fields.get?, Assoc.get?, Schema.list_text, Schema.text, Schema.flag,
    Verdict.within]
  rfl

end Firewall

namespace Network

def record (n : Network) : Data :=
  .ofFields
    [("allowed", .ofTexts n.allowed),
     ("blocked", .ofTexts n.blocked),
     ("firewall", (n.firewall.map Firewall.record).getD .null),
     ("explicitly_defined", .bool n.explicit)]

theorem ofRecord_record (n : Network) : ofRecord n.record = .accepted n := by
  have hfirewall : Schema.optional Firewall.ofRecord ((n.firewall.map Firewall.record).getD .null)
      = .accepted n.firewall :=
    Schema.optional_accepts Firewall.ofRecord_record (fun _ => nofun) n.firewall
  rw [record, Fields.ofFields_eq, ofRecord, Schema.model]
  simp [Schema.field, Fields.get?, Assoc.get?, Schema.list_text, hfirewall, Schema.flag,
    Verdict.within]
  rfl

end Network

/-! ### Permissions -/

namespace Permissions

def record (p : Permissions) : Data :=
  .ofFields
    [("shorthand", (p.shorthand.map fun l => Data.text l.name).getD .null),
     ("scopes", .ofFields (p.scopes.map fun e => (e.1, .text e.2.name)))]

theorem choice_accepts : Schema.Accepts (Schema.choice Level.choices) fun l => .text l.name := by
  intro l
  cases l <;> rfl

theorem ofRecord_record (p : Permissions) : ofRecord p.record = .accepted p := by
  have hshorthand : Schema.optional (Schema.choice Level.choices)
      ((p.shorthand.map fun l => Data.text l.name).getD .null) = .accepted p.shorthand :=
    Schema.optional_accepts choice_accepts (fun _ => nofun) p.shorthand
  have hscopes : Schema.fields (Schema.choice Level.choices)
      (.ofFields (p.scopes.map fun e => (e.1, .text e.2.name))) = .accepted p.scopes :=
    Schema.fields_accepts choice_accepts p.scopes
  rw [record, Fields.ofFields_eq, ofRecord, Schema.model]
  simp [Schema.field, Fields.get?, Assoc.get?, hshorthand, hscopes, Verdict.within]
  rfl

end Permissions

/-! ### Sandboxes -/

/-- Settings of older workflows, which are carried as they are. -/
def Agent.settingsRecord (config : Option (Fields Data)) : Data :=
  (config.map Data.ofFields).getD .null

theorem Agent.settings_accepts :
    Schema.Accepts (Schema.optional (Schema.fields Schema.any)) settingsRecord := by
  exact Schema.optional_accepts Schema.fields_any fun _ => nofun

namespace Agent

def record (a : Agent) : Data :=
  .ofFields
    [("id", .text a.id),
     ("type", .text a.type),
     ("disabled", .bool a.disabled),
     ("command", .text a.command),
     ("args", .ofTexts a.args),
     ("env", .ofTextFields a.env),
     ("mounts", .ofTexts a.mounts),
     ("config", settingsRecord a.config)]

theorem ofRecord_record {a : Agent} (h : a.disabled = true → a.isBare = true) :
    ofRecord a.record = .accepted a := by
  have hmodel : ofRecord a.record
      = if a.disabled && !a.isBare then .refuse .ruleBroken else .accepted a := by
    rw [record, Fields.ofFields_eq, ofRecord, Schema.model]
    simp [Schema.field, Fields.get?, Assoc.get?, Schema.list_text, Schema.fields_text,
      settings_accepts a.config, Schema.text, Schema.flag, Verdict.within]
    rfl
  rw [hmodel, if_neg]
  rw [Bool.and_eq_true, Bool.not_eq_true']
  rintro ⟨hdisabled, hbare⟩
  rw [h hdisabled] at hbare
  cases hbare

end Agent

namespace Gateway

def record (g : Gateway) : Data :=
  .ofFields
    [("container", .text g.container),
     ("version", .text g.version),
     ("entrypoint", .text g.entrypoint),
     ("port", (g.port.map Data.int).getD .null),
     ("api_key", .text g.apiKey),
     ("domain", .text g.domain),
     ("args", .ofTexts g.args),
     ("entrypoint_args", .ofTexts g.entrypointArgs),
     ("env", .ofTextFields g.env),
     ("mounts", .ofTexts g.mounts),
     ("payload_dir", .text g.payloadDir)]

theorem ofRecord_record (g : Gateway) : ofRecord g.record = .accepted g := by
  have hport : Schema.optional Schema.integer ((g.port.map Data.int).getD .null)
      = .accepted g.port :=
    Schema.optional_accepts Schema.integer_accepts (fun _ => nofun) g.port
  rw [record, Fields.ofFields_eq, ofRecord, Schema.model]
  simp [Schema.field, Fields.get?, Assoc.get?, Schema.list_text, Schema.fields_text, hport,
    Schema.text, Verdict.within]
  rfl

end Gateway

namespace Sandbox

def record (s : Sandbox) : Data :=
  .ofFields
    [("agent", (s.agent.map Agent.record).getD .null),
     ("mcp", (s.gateway.map Gateway.record).getD .null),
     ("type", .text s.type),
     ("config", Agent.settingsRecord s.config)]

theorem ofRecord_record {s : Sandbox}
    (h : ∀ a ∈ s.agent, a.disabled = true → a.isBare = true) : ofRecord s.record = .accepted s := by
  have hagent : Schema.optional Agent.ofRecord ((s.agent.map Agent.record).getD .null)
      = .accepted s.agent := by
    cases hs : s.agent with
    | none => rfl
    | some a => exact congrArg (some <$> ·) (Agent.ofRecord_record (h a hs))
  have hgateway : Schema.optional Gateway.ofRecord ((s.gateway.map Gateway.record).getD .null)
      = .accepted s.gateway :=
    Schema.optional_accepts Gateway.ofRecord_record (fun _ => nofun) s.gateway
  rw [record, Fields.ofFields_eq, ofRecord, Schema.model]
  simp [Schema.field, Fields.get?, Assoc.get?, hagent, hgateway, Agent.settings_accepts s.config,
    Schema.text, Verdict.within]
  rfl

end Sandbox

end WorkflowPolicy
