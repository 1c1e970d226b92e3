/-
  WorkflowPolicy/Proofs/SafeOutput/BlockReadBack.lean
  ===================================================
  **Blocks read back.**  The frontmatter value of a block that was read configures the
  same actions in the same order, with the same staging flag, environment and message
  templates, and it has no kind to reject.

  The shared token is the one setting with a value that is present and left out: an
  empty token is not written, so it comes back as no token.  A block is read back as it
  was exactly when its token is not empty (`extract_frontmatter`).
-/
import WorkflowPolicy.Proofs.Rows
import WorkflowPolicy.Proofs.SafeOutput.ReadBack

namespace WorkflowPolicy.SafeOutput

/-! ### Message templates -/

namespace Messages

variable {m : Messages} {name : Text}

def keyedRows (m : Messages) : Fields (Option Data) :=
  m.rows.map fun r => (keyOf r.1, r.2.map .text)

theorem ofTextFields_toFields (m : Messages) :
    Data.ofTextFields m.toFields = .ofFields (Fields.present m.keyedRows) := by
  have hpresent : m.toFields = Fields.present (m.rows.map fun r => (keyOf r.1, r.2)) := by
    rw [Fields.present, List.filterMap_map]
    rfl
  rw [Fields.ofTextFields_eq, hpresent, Fields.map_present, keyedRows, List.map_map]
  rfl

theorem distinct_keyedRows (m : Messages) : m.keyedRows.Distinct := by
  have hkeys : (([.ofString "footer", "footer_install", "staged_title", "staged_description",
      "run_started", "run_success", "run_failure"] : List Text).map keyOf).Nodup := by
    decide +kernel
  exact hkeys

theorem keyOf_keyOf (name : Text) : keyOf (keyOf name) = keyOf name := by
  rw [keyOf, keyOf, Text.replaced, Text.replaced, List.map_map]
  refine congrArg Text.ofList (List.map_congr_left fun c _ => ?_)
  by_cases h : c = .char '_' <;> simp [h]

theorem get?_keyedRows {t : Option Text} (h : (name, t) ∈ m.rows) :
    m.keyedRows.get? (keyOf name) = some (t.map .text) :=
  Assoc.get?_of_mem id m.distinct_keyedRows (List.mem_map.mpr ⟨(name, t), h, rfl⟩)

theorem get?_keyedRows_name (h : (name, none) ∈ m.rows) :
    (m.keyedRows.get? name).join = none := by
  cases hget : m.keyedRows.get? name with
  | none => rfl
  | some o =>
    -- keys have no underscores left, so a name among them is its own key
    obtain ⟨key, hkey, hmem⟩ := Assoc.mem_of_get? id hget
    obtain ⟨r, -, hr⟩ := List.mem_map.mp hmem
    have hname : keyOf name = name := by
      have : keyOf r.1 = name := (congrArg Prod.fst hr).trans hkey
      rw [← this, keyOf_keyOf]
    have hnone := get?_keyedRows h
    rw [hname, hget] at hnone
    rw [hnone]
    rfl

theorem textOf?_keyedRows {t : Option Text} (h : (name, t) ∈ m.rows) :
    textOf? (Fields.present m.keyedRows).toMapping name = t := by
  rw [textOf?, Fields.get?_toMapping, Fields.get?_toMapping,
    Fields.get?_present m.distinct_keyedRows, Fields.get?_present m.distinct_keyedRows,
    get?_keyedRows h]
  cases t with
  | none =>
    rw [get?_keyedRows_name h]
    rfl
  | some s => rfl

theorem ofData?_toFields (m : Messages) : ofData? (.ofTextFields m.toFields) = some m := by
  have htexts : ∀ r ∈ m.rows, textOf? (Fields.present m.keyedRows).toMapping r.1 = r.2 :=
    fun r hr => textOf?_keyedRows hr
  simp only [rows, List.forall_mem_cons] at htexts
  obtain ⟨hfooter, hinstall, htitle, hdescription, hstarted, hsuccess, hfailure, -⟩ := htexts
  rw [ofTextFields_toFields, Fields.ofFields_eq, ofData?, ofMapping, hfooter, hinstall, htitle,
    hdescription, hstarted, hsuccess, hfailure]

theorem ofRecord_toFields (m : Messages) :
    ofRecord (.ofTextFields m.toFields) = .accepted m :=
  congrArg Verdict.accepted (Option.some.inj m.ofData?_toFields)

end Messages

/-! ### Blocks -/

namespace Block

variable (es : Mapping)

def tokenRow (token : Option Text) : Option Data := token.bind Fields.textRow

def actionRows : Fields (Option Data) :=
  Kind.all.map fun k => (k.name, (actionOf? es k).map Action.toData)

def settingRows (b : Block) : Fields (Option Data) :=
  [("staged", Fields.flagRow b.staged),
   ("env", Fields.textMapRow b.env),
   ("github-token", tokenRow b.token),
   ("messages", b.messages.map fun m => .ofTextFields m.toFields)]

/-- The rows of the block that a mapping configures: one for each kind, in canonical
    order, then the shared settings. -/
def rows : Fields (Option Data) := actionRows es ++ (ofMapping es).settingRows

theorem distinct_rows : (rows es).Distinct := by
  have hkeys : (Kind.all.map Kind.name
      ++ ([.ofString "staged", "env", "github-token", "messages"] : List Text)).Nodup := by
    decide +kernel
  exact hkeys

theorem present_actionRows :
    Fields.present (actionRows es)
      = (ofMapping es).actions.map fun a => (a.kind.name, a.toData) := by
  have hactions : (ofMapping es).actions = Kind.all.filterMap (actionOf? es) := rfl
  rw [Fields.present, actionRows, List.filterMap_map, hactions, List.map_filterMap]
  apply List.filterMap_congr
  intro k _
  cases hk : actionOf? es k with
  | none => simp [hk]
  | some a => simp [hk, kind_of_actionOf? hk]

theorem toData_eq : (ofMapping es).toData = .ofFields (Fields.present (rows es)) := by
  have happend : Fields.present (rows es)
      = Fields.present (actionRows es) ++ Fields.present (ofMapping es).settingRows :=
    List.filterMap_append
  have hentry : entry = Firewall.entry := rfl
  rw [happend, present_actionRows]
  -- what is left is about the settings of any block
  generalize ofMapping es = b
  rw [toData, hentry, settingRows]
  simp only [Fields.entry_flag, Fields.entry_textMap, Fields.entry_text, Fields.present_cons_cons,
    List.append_assoc]
  cases b.token <;> cases b.messages <;> rfl

/-- The keys of a written block are texts, and so are those of its environment. -/
theorem hasLongKey_written : hasLongKey (Fields.present (rows es)).toMapping = false := by
  have henv : ((Fields.present (rows es)).toMapping.value "env").hasLongKey = false := by
    have hrow : (rows es).get? "env" = some (Fields.textMapRow (ofMapping es).env) :=
      Assoc.get?_of_mem id (distinct_rows es) (List.mem_append_right _ (by simp [settingRows]))
    rw [Fields.value_toMapping, Fields.get?_present (distinct_rows es), hrow]
    exact Fields.hasLongKey_row _
  rw [hasLongKey, henv, Bool.or_false, Fields.toMapping, List.any_map]
  exact List.any_eq_false.mpr fun _ _ => by simp [Data.isShowable]

/-! ### Reading the written form -/

def written : Mapping := (Fields.present (rows es)).toMapping

theorem get?_written_kind (k : Kind) :
    (written es).get? k.name = (actionOf? es k).map Action.toData := by
  have hrow : (rows es).get? k.name = some ((actionOf? es k).map Action.toData) :=
    Assoc.get?_of_mem id (distinct_rows es)
      (List.mem_append_left _ (List.mem_map.mpr ⟨k, k.mem_all, rfl⟩))
  rw [written, Fields.get?_toMapping, Fields.get?_present (distinct_rows es), hrow]
  rfl

theorem value_written_setting {key : Text} {o : Option Data}
    (h : (key, o) ∈ (ofMapping es).settingRows) : (written es).value key = o.getD .null := by
  have hrow : (rows es).get? key = some o :=
    Assoc.get?_of_mem id (distinct_rows es) (List.mem_append_right _ h)
  rw [written, Fields.value_toMapping, Fields.get?_present (distinct_rows es), hrow]
  rfl

theorem actionOf?_written (k : Kind) : actionOf? (written es) k = actionOf? es k := by
  rw [actionOf?, get?_written_kind]
  cases hk : actionOf? es k with
  | none => rfl
  | some a =>
    -- what was read for a kind is accepted, and what is accepted reads back
    obtain ⟨d, -, hd⟩ := Option.bind_eq_some_iff.mp hk
    obtain ⟨hkind, haccepted⟩ := Action.isAccepted_of_extract? hd
    rw [Option.map_some, Option.bind_some, ← hkind]
    exact haccepted.reads_back

theorem isRejected_written (k : Kind) : isRejected (written es) k = false := by
  rw [isRejected, get?_written_kind]
  cases hk : actionOf? es k with
  | none => rfl
  | some a =>
    obtain ⟨d, -, hd⟩ := Option.bind_eq_some_iff.mp hk
    obtain ⟨-, haccepted⟩ := Action.isAccepted_of_extract? hd
    obtain ⟨f, hf⟩ := haccepted.normal
    rw [Option.map_some, Option.any_some, Action.toData_eq]
    exact hf.namesWildcard_written _

theorem rejectedKinds_written : rejectedKinds (written es) = [] := by
  apply List.filter_eq_nil_iff.mpr
  intro k _
  simp [isRejected_written]

/-- The block with a token that says something, or with none. -/
def withoutEmptyToken (b : Block) : Block := { b with token := b.token.filter (!·.isEmpty) }

theorem text?_tokenRow (token : Option Text) :
    ((tokenRow token).getD .null).text? = token.filter (!·.isEmpty) := by
  cases token with
  | none => rfl
  | some t => by_cases h : t = "" <;> simp [tokenRow, Fields.textRow, Option.filter, h, Data.text?]

theorem distinct_env : (ofMapping es).env.Distinct := Fields.distinct_textMap (es.value "env")

theorem ofMapping_written : ofMapping (written es) = (ofMapping es).withoutEmptyToken := by
  have hmem : ∀ r ∈ (ofMapping es).settingRows, (written es).value r.1 = r.2.getD .null :=
    fun r hr => value_written_setting es hr
  simp only [settingRows, List.forall_mem_cons] at hmem
  obtain ⟨hstaged, henv, htoken, hmessages, -⟩ := hmem
  have hactions : Kind.all.filterMap (actionOf? (written es)) = (ofMapping es).actions :=
    List.filterMap_congr fun k _ => actionOf?_written es k
  have htemplates : Messages.ofData? (((ofMapping es).messages.map fun m =>
      Data.ofTextFields m.toFields).getD .null) = (ofMapping es).messages := by
    cases (ofMapping es).messages with
    | none => rfl
    | some m => exact m.ofData?_toFields
  rw [ofMapping, withoutEmptyToken]
  simp only [hactions, hstaged, henv, htoken, hmessages, htemplates, text?_tokenRow,
    Fields.flag_row, Fields.textMap_row (distinct_env es)]

theorem withoutEmptyToken_eq_self_iff {b : Block} :
    b.withoutEmptyToken = b ↔ b.token ≠ (some "" : Option Text) := by
  constructor
  · intro h htoken
    have hfilter : b.token.filter (!·.isEmpty) = b.token := congrArg Block.token h
    rw [htoken] at hfilter
    simp [Option.filter] at hfilter
  · intro h
    have hfilter : b.token.filter (!·.isEmpty) = b.token := by
      cases ht : b.token with
      | none => rfl
      | some t =>
        have hne : t ≠ "" := by
          rintro rfl
          exact h ht
        simp [Option.filter, hne]
    rw [withoutEmptyToken, hfilter]

/-- Wherever the written form of a block stands, that block is read without an empty
    token, and nothing is rejected. -/
theorem extract_of_value {m : Mapping} (h : m.value "safe-outputs" = (ofMapping es).toData) :
    extract m = { block := some (ofMapping es).withoutEmptyToken, rejected := [] } := by
  have hvalue : m.value "safe-outputs" = .map (written es) := by
    rw [h, toData_eq]
    rfl
  rw [extract, hvalue]
  simp only [ofMapping_written, rejectedKinds_written]

theorem toData_withoutEmptyToken (b : Block) : b.withoutEmptyToken.toData = b.toData := by
  obtain ⟨actions, staged, env, token, messages, distinct⟩ := b
  cases token with
  | none => rfl
  | some t =>
    by_cases h : t = ""
    · subst h
      rfl
    · have hfilter : (some t).filter (!·.isEmpty) = some t := by
        simp [Option.filter, h, ← Bool.not_eq_true]
      rw [withoutEmptyToken, hfilter]

theorem eq_ofMapping_of_extract {m : Mapping} {b : Block} (h : (extract m).block = some b) :
    ∃ es, b = ofMapping es := by
  rw [extract] at h
  split at h
  · rename_i es _
    exact ⟨es, (Option.some.inj h).symm⟩
  · cases h

theorem isAccepted_of_mem_extract {m : Mapping} :
    ∀ b ∈ (extract m).block, ∀ a ∈ b.actions, a.IsAccepted := by
  intro b hb a ha
  obtain ⟨es, rfl⟩ := eq_ofMapping_of_extract hb
  exact Action.isAccepted_of_mem_ofMapping a ha

def frontmatter (b : Block) : Mapping := [(.text "safe-outputs", b.toData)]

/-- **Round trip of blocks.**  The block that a frontmatter configures is read from its
    written form with no kind rejected and nothing changed but an empty token, which
    comes back as no token; so the block itself comes back exactly when its token is not
    empty. -/
theorem extract_frontmatter {m : Mapping} {b : Block} (h : (extract m).block = some b) :
    extract (frontmatter b) = { block := some b.withoutEmptyToken, rejected := [] }
      ∧ ((extract (frontmatter b)).block = some b ↔ b.token ≠ (some "" : Option Text)) := by
  obtain ⟨es, rfl⟩ := eq_ofMapping_of_extract h
  have hread := extract_of_value es (m := frontmatter (ofMapping es)) rfl
  refine ⟨hread, ?_⟩
  rw [hread, Option.some.injEq, withoutEmptyToken_eq_self_iff]

/-- A block with its kinds out of order, one of them rejected, a shorthand, names of the
    environment that are no texts and message templates of which none is set. -/
def mixedBlock : Mapping :=
  [(.text "noop", .null),
   (.text "messages", .map [(.text "footer", .int 1)]),
   (.text "add-labels", .list [.text "bug", .int 2]),
   (.text "env", .map [(.int 1, .text "one"), (.text "A", .text ""), (.text "1", .text "two")]),
   (.text "add-comment", .map [(.text "target-repo", .text "*")]),
   (.text "create-issue", .map [(.text "title_prefix", .text "[ai] "), (.text "max", .int 900)]),
   (.text "staged", .bool true),
   (.text "github-token", .text "t")]

theorem extract_frontmatter_mixed :
    (extract [(.text "safe-outputs", .map mixedBlock)]).block = some (ofMapping mixedBlock)
      ∧ (extract [(.text "safe-outputs", .map mixedBlock)]).rejected = [.addComment]
      ∧ (ofMapping mixedBlock).actions.map Action.kind = [.createIssue, .addLabels, .noop]
      ∧ (ofMapping mixedBlock).env = ([("1", "two"), ("A", "")] : Fields Text)
      ∧ (ofMapping mixedBlock).messages = some {}
      ∧ (extract (frontmatter (ofMapping mixedBlock))).block = some (ofMapping mixedBlock)
      ∧ (extract (frontmatter (ofMapping mixedBlock))).rejected = [] := by
  have h : (extract [(.text "safe-outputs", .map mixedBlock)]).block
      = some (ofMapping mixedBlock) := rfl
  obtain ⟨hread, hsame⟩ := extract_frontmatter h
  have htoken : (ofMapping mixedBlock).token ≠ (some "" : Option Text) := by
    decide +kernel
  refine ⟨h, ?_, ?_, ?_, ?_, hsame.mpr htoken, ?_⟩
  · decide +kernel
  · decide +kernel
  · decide +kernel
  · decide +kernel
  · rw [hread]

def emptyTokenBlock : Mapping := [(.text "github-token", .text "")]

/-- An empty token is read, is left out of the written form, and does not come back. -/
theorem extract_frontmatter_emptyToken :
    (extract [(.text "safe-outputs", .map emptyTokenBlock)]).block
        = some (ofMapping emptyTokenBlock)
      ∧ (extract (frontmatter (ofMapping emptyTokenBlock))).block
        ≠ some (ofMapping emptyTokenBlock) := by
  refine ⟨rfl, ?_⟩
  rw [extract_of_value emptyTokenBlock rfl]
  intro h
  have htoken : (ofMapping emptyTokenBlock).token = (some "" : Option Text) := rfl
  exact withoutEmptyToken_eq_self_iff.mp (Option.some.inj h) htoken

end Block

end WorkflowPolicy.SafeOutput
