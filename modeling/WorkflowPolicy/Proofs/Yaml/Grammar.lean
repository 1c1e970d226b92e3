/-
  WorkflowPolicy/Proofs/Yaml/Grammar.lean
  =======================================
  **Tokens of data, parsed.**  The tokens of storable data are parsed to nodes that stand
  for the data (`onlyNodes_dataTokens`).  Data is parsed the same way wherever it stands, and
  its nodes come behind the ones that are there (`Parses`).
-/
import WorkflowPolicy.Proofs.Yaml.Nodes
import WorkflowPolicy.Proofs.Yaml.Storable
import WorkflowPolicy.Yaml.Reader

namespace WorkflowPolicy.Yaml

variable {val : Nat → Data}

/-! ### Steps of the parser -/

namespace Node

variable {r : Reading} {t : Token} {rest : List Token} {setting : Setting} {steps : Nat}

/-- The tokens that a node without properties can start with. -/
def startsNode : Token → Bool
  | .scalar _ _ | .listStart | .mapStart | .blockListStart | .blockMapStart | .item => true
  | _ => false

/-- A reading inside a node whose number is taken. -/
def entered (r : Reading) : Reading :=
  { r with room := r.room - 1, nodes := r.nodes.push Node.empty }

theorem start_none (hroom : 0 < r.room) : r.start none = .ok (r.nodes.size, entered r) := by
  obtain ⟨m, hm⟩ := Nat.exists_eq_add_of_le' hroom
  rw [Reading.start, Reading.enter, entered, hm]
  rfl

/-- Behind a node there is as much room as in front of it. -/
theorem finish_entered {n : Node} {b : Nodes} (hroom : 0 < r.room) :
    Reading.finish { entered r with tokens := rest, nodes := b } r.nodes.size n
      = { r with tokens := rest, nodes := b.setIfInBounds r.nodes.size n } := by
  simp only [Reading.finish, Reading.leave, entered, Nat.sub_add_cancel hroom]

theorem nodeAt_eq (h : startsNode t = true) (hr : r.tokens = t :: rest) (hroom : 0 < r.room) :
    nodeAt setting (steps + 1) r = do
      let (n, r') ← contentAt setting {} steps (entered r)
      return (r.nodes.size, r'.finish r.nodes.size n) := by
  have hproperties : r.properties = ({}, r) := by
    rw [Reading.properties, hr]
    cases t <;> first | rfl | cases h
  have hlook : r.look = .ok () := by
    rw [Reading.look, hr]
    cases t <;> first | rfl | cases h
  have hstart := start_none hroom
  rw [nodeAt, hr]
  cases t with
  | scalar s plain | listStart | mapStart | blockListStart | blockMapStart | item =>
    simp only [hproperties, hlook, hstart]
    rfl
  | _ => cases h

theorem sees_eq (hr : r.tokens = t :: rest) (ts : List Token) : r.sees ts = ts.contains t := by
  rw [Reading.sees, hr]
  rfl

/-- The type of a scalar that has no tag. -/
def impliedTag (s : Text) (plain : Bool) : Tag :=
  match s.chars? with
  | some cs => if plain then Tag.ofPlain cs else .text
  | none => .text

theorem contentAt_scalar {s : Text} {plain : Bool} (hr : r.tokens = .scalar s plain :: rest) :
    contentAt setting {} (steps + 1) r
      = .ok (.scalar (impliedTag s plain) s, { r with tokens := rest }) := by
  rw [contentAt, hr]
  rfl

theorem contentAt_emptyList (hr : r.tokens = .listStart :: .listEnd :: rest) :
    contentAt setting {} (steps + 2) r = .ok (.list .list [], { r with tokens := rest }) := by
  have hhead : r.next.tokens = .listEnd :: rest := by
    rw [Reading.next, hr]
    rfl
  have hsees : r.next.sees [.listEnd] = true := by
    rw [sees_eq hhead]
    rfl
  have hnext : r.next.next = { r with tokens := rest } := by
    simp [Reading.next, hr]
  rw [contentAt, hr]
  simp only [Reading.tagOr?, expect, bind, Except.bind, bracketItems, hsees, if_true, hnext]
  rfl

theorem contentAt_emptyMap (hr : r.tokens = .mapStart :: .mapEnd :: rest) :
    contentAt setting {} (steps + 2) r = .ok (.map .map [], { r with tokens := rest }) := by
  have hhead : r.next.tokens = .mapEnd :: rest := by
    rw [Reading.next, hr]
    rfl
  have hsees : r.next.sees [.mapEnd] = true := by
    rw [sees_eq hhead]
    rfl
  have hnext : r.next.next = { r with tokens := rest } := by
    simp [Reading.next, hr]
  rw [contentAt, hr]
  simp only [Reading.tagOr?, expect, bind, Except.bind, bracketEntries, hsees, if_true, hnext]
  rfl

theorem contentAt_blockList (hr : r.tokens = .blockListStart :: rest)
    (hsetting : setting ≠ .bracket) :
    contentAt setting {} (steps + 1) r
      = (blockItems steps { r with tokens := rest }).map fun p => (.list .list p.1, p.2) := by
  have hnext : r.next = { r with tokens := rest } := by
    simp [Reading.next, hr]
  have hitem : r.sees [.item] = false := by
    rw [sees_eq hr]
    rfl
  have hstart : r.sees [.blockListStart] = true := by
    rw [sees_eq hr]
    rfl
  rw [contentAt, hr]
  simp only [Reading.tagOr?, expect, bind, Except.bind, hitem, hstart, hnext, hsetting, ne_eq,
    not_false_eq_true, Bool.false_eq_true, and_false, and_self, if_false, if_true]
  cases blockItems steps { r with tokens := rest } with
  | error f => rfl
  | ok p => rfl

theorem contentAt_blockMap (hr : r.tokens = .blockMapStart :: rest)
    (hsetting : setting ≠ .bracket) :
    contentAt setting {} (steps + 1) r
      = (blockEntries steps { r with tokens := rest }).map fun p => (.map .map p.1, p.2) := by
  have hnext : r.next = { r with tokens := rest } := by
    simp [Reading.next, hr]
  have hitem : r.sees [.item] = false := by
    rw [sees_eq hr]
    rfl
  have hlist : r.sees [.blockListStart] = false := by
    rw [sees_eq hr]
    rfl
  have hstart : r.sees [.blockMapStart] = true := by
    rw [sees_eq hr]
    rfl
  rw [contentAt, hr]
  simp only [Reading.tagOr?, expect, bind, Except.bind, hitem, hlist, hstart, hnext, hsetting,
    ne_eq, not_false_eq_true, Bool.false_eq_true, and_false, and_self, if_false, if_true]
  cases blockEntries steps { r with tokens := rest } with
  | error f => rfl
  | ok p => rfl

theorem contentAt_loose (hr : r.tokens = .item :: rest) :
    contentAt .blockValue {} (steps + 1) r
      = (looseItems steps r).map fun p => (.list .list p.1, p.2) := by
  have hitem : r.sees [.item] = true := by
    rw [sees_eq hr]
    rfl
  rw [contentAt, hr]
  simp only [Reading.tagOr?, expect, bind, Except.bind, hitem, and_self, if_true]
  cases looseItems steps r with
  | error f => rfl
  | ok p => rfl

/-! ### Data in its places -/

/-- Behind a key the items of a list may be loose. -/
def settingOf (loose : Bool) : Setting := if loose then .blockValue else .block

theorem settingOf_ne_bracket (loose : Bool) : settingOf loose ≠ .bracket := by
  cases loose <;> decide

/-- What comes of parsing: new nodes, the first of which stands for the data. -/
def Parsed (r : Reading) (rest : List Token) (d : Data) (result : Except Fault (Nat × Reading)) :
    Prop :=
  ∃ nodes val, result = .ok (r.nodes.size, { r with tokens := rest, nodes := nodes })
    ∧ Grown r.nodes nodes val ∧ r.nodes.size < nodes.size ∧ val r.nodes.size = d

/-- Data is parsed from its tokens, wherever they stand. -/
def Parses (loose : Bool) (n : Nat) (d : Data) : Prop :=
  ∀ (r : Reading) (rest : List Token) (steps : Nat), r.tokens = dataTokens loose d ++ rest →
    (loose = true → rest.head? ≠ some .item) → n < r.room →
    4 * (dataTokens loose d).length ≤ steps → Parsed r rest d (nodeAt (settingOf loose) steps r)

/-- A node is parsed if its content is. -/
theorem parsed_of_content {n : Node} {b : Nodes} {d : Data} {ts : List Token}
    (ht : startsNode t = true) (hr : r.tokens = t :: ts) (hroom : 0 < r.room)
    (hcontent : contentAt setting {} steps (entered r)
      = .ok (n, { entered r with tokens := rest, nodes := b }))
    (hgrown : Grown (entered r).nodes b val)
    (hmeans : MeansAt (b.setIfInBounds r.nodes.size n) (joined (r.nodes.size + 1) (fun _ => d) val)
      r.nodes.size) :
    Parsed r rest d (nodeAt setting (steps + 1) r) := by
  have hsize := hgrown.size
  refine ⟨b.setIfInBounds r.nodes.size n, joined (r.nodes.size + 1) (fun _ => d) val, ?_,
    hgrown.finish hmeans, ?_, joined_of_lt (Nat.lt_succ_self _) _ _⟩
  · rw [nodeAt_eq ht hr hroom, hcontent, ← finish_entered hroom]
    rfl
  · rw [entered, Array.size_push] at hsize
    rw [Array.size_setIfInBounds]
    exact hsize

theorem getElem?_finish {b : Nodes} (hgrown : Grown (entered r).nodes b val) (n : Node) :
    (b.setIfInBounds r.nodes.size n)[r.nodes.size]? = some n := by
  have hsize := hgrown.size
  rw [entered, Array.size_push] at hsize
  rw [Array.getElem?_setIfInBounds_self_of_lt hsize]

/-! ### Values without items -/

theorem impliedTag_standsPlain (s : Text) : impliedTag s (standsPlain s) = .text := by
  cases hs : s.chars? with
  | none => rw [impliedTag, hs]
  | some cs =>
    rw [impliedTag, hs, Text.chars?_eq_some.mp hs, standsPlain_ofChars]
    by_cases hplain : IsPlain cs
    · rw [decide_eq_true hplain]
      exact hplain.tag
    · rw [decide_eq_false hplain]
      rfl

theorem impliedTag_ofChars (cs : List Char) :
    impliedTag (.ofChars cs) true = Tag.ofPlain cs := by
  rw [impliedTag, Text.chars?_ofChars]
  rfl

theorem exists_simpleToken {d : Data} (h : Simple d) : ∃ s plain, simpleToken d = .scalar s plain
    ∧ Scalar.value (impliedTag s plain) s = .ok d := by
  cases h with
  | null => exact ⟨"null", true, rfl, by decide +kernel⟩
  | bool b => cases b with
    | false => exact ⟨"false", true, rfl, by decide +kernel⟩
    | true => exact ⟨"true", true, rfl, by decide +kernel⟩
  | @int n hn =>
    refine ⟨.ofString (Decimal.ofInt n), true, rfl, ?_⟩
    rw [Text.ofString, impliedTag_ofChars]
    exact value_ofInt hn
  | text s =>
    refine ⟨s, standsPlain s, rfl, ?_⟩
    rw [impliedTag_standsPlain]
    rfl

theorem parses_simple {d : Data} (h : Simple d) (loose : Bool) (n : Nat) : Parses loose n d := by
  intro r rest steps hr _ hroom hsteps
  rw [dataTokens_simple h] at hr hsteps
  obtain ⟨s, plain, htoken, hvalue⟩ := exists_simpleToken h
  rw [htoken] at hr hsteps
  obtain ⟨steps, rfl⟩ := Nat.exists_eq_add_of_le' hsteps
  have hentered : (entered r).tokens = .scalar s plain :: rest := hr
  have hgrown := Grown.refl (entered r).nodes fun _ => d
  refine parsed_of_content (by rfl) hr (by omega) (contentAt_scalar hentered) hgrown ?_
  refine .scalar (getElem?_finish hgrown _) ?_
  rw [hvalue, joined_of_lt (Nat.lt_succ_self _)]

/-! ### Items -/

theorem exists_head (loose : Bool) (d : Data) : ∃ t ts, dataTokens loose d = t :: ts
    ∧ startsNode t = true ∧ (t = .item → loose = true) := by
  cases d with
  | list xs =>
    cases xs with
    | nil => exact ⟨.listStart, [.listEnd], rfl, rfl, by simp⟩
    | cons x xs =>
      cases loose with
      | false => exact ⟨.blockListStart, _, rfl, rfl, by simp⟩
      | true => exact ⟨.item, _, rfl, rfl, by simp⟩
  | map es =>
    cases es with
    | nil => exact ⟨.mapStart, [.mapEnd], rfl, rfl, by simp⟩
    | cons e es => exact ⟨.blockMapStart, _, rfl, rfl, by simp⟩
  | text s => exact ⟨.scalar s _, [], rfl, rfl, by simp⟩
  | _ => exact ⟨.scalar _ true, [], rfl, rfl, by simp⟩

theorem nodeUnless_eq {ends : List Token} (hr : r.tokens = t :: rest) (h : t ∉ ends) :
    nodeUnless setting ends (steps + 1) r = nodeAt setting steps r := by
  have hsees : r.sees ends = false := by
    rw [sees_eq hr, Bool.eq_false_iff, ne_eq, List.contains_iff_mem]
    exact h
  rw [nodeUnless, hsees]
  rfl

/-- No data starts with a token that ends the place of a node. -/
theorem nodeUnless_dataTokens {loose : Bool} {d : Data} {ends : List Token}
    (hends : ∀ t, startsNode t = true → (t = .item → loose = true) → t ∉ ends)
    (hr : r.tokens = dataTokens loose d ++ rest) :
    nodeUnless setting ends (steps + 1) r = nodeAt setting steps r := by
  obtain ⟨t, ts, hhead, hstart, hitem⟩ := exists_head loose d
  have hr : r.tokens = t :: (ts ++ rest) := by
    rw [hr, hhead, List.cons_append]
  exact nodeUnless_eq hr (hends t hstart hitem)

/-- The items of a list, in a block of their own or loose. -/
def itemsAt (loose : Bool) : Nat → Reading → Except Fault (List Nat × Reading) :=
  if loose then looseItems else blockItems

def itemEnds (loose : Bool) : List Token :=
  if loose then [.item, .key, .value, .blockEnd] else [.item, .blockEnd]

theorem not_mem_itemEnds (loose : Bool) (h : startsNode t = true) (hitem : t ≠ .item) :
    t ∉ itemEnds loose := by
  intro hmem
  cases loose <;> cases t <;> simp_all [itemEnds, startsNode]

/-- What closes the items of a list. -/
def closing (loose : Bool) : List Token := if loose then [] else [.blockEnd]

theorem itemsAt_item {loose : Bool} (hr : r.tokens = .item :: rest) :
    itemsAt loose (steps + 1) r = do
      let (x, r') ← nodeUnless .block (itemEnds loose) steps { r with tokens := rest }
      let (xs, r') ← itemsAt loose steps r'
      return (x :: xs, r') := by
  have hsees : r.sees [.item] = true := by
    rw [sees_eq hr]
    rfl
  have hnext : r.next = { r with tokens := rest } := by
    simp [Reading.next, hr]
  cases loose with
  | false =>
    simp only [itemsAt, Bool.false_eq_true, if_false]
    rw [blockItems, hsees, hnext]
    rfl
  | true =>
    simp only [itemsAt, if_true]
    rw [looseItems, hsees, hnext]
    rfl

theorem itemsAt_end {loose : Bool} (hr : r.tokens = closing loose ++ rest)
    (hrest : loose = true → rest.head? ≠ some .item) :
    itemsAt loose (steps + 1) r = .ok ([], { r with tokens := rest }) := by
  cases loose with
  | false =>
    have hr : r.tokens = .blockEnd :: rest := hr
    have hitem : r.sees [.item] = false := by
      rw [sees_eq hr]
      rfl
    have hend : r.sees [.blockEnd] = true := by
      rw [sees_eq hr]
      rfl
    have hnext : r.next = { r with tokens := rest } := by
      simp [Reading.next, hr]
    simp only [itemsAt, Bool.false_eq_true, if_false]
    rw [blockItems, hitem, Reading.take, hend, hnext]
    rfl
  | true =>
    -- a list without a block ends where no dash follows
    have hr : r.tokens = rest := hr
    have hitem : r.sees [.item] = false := by
      rw [Reading.sees, hr]
      cases rest with
      | nil => rfl
      | cons t rest =>
        have hne : t ≠ .item := fun h => hrest rfl (congrArg some h)
        simpa using hne
    simp only [itemsAt, if_true]
    rw [looseItems, hitem, ← hr]
    rfl

theorem map_joined {m : Nat} {ids : List Nat} (h : ∀ i ∈ ids, m ≤ i) (val val' : Nat → Data) :
    ids.map (joined m val val') = ids.map val' :=
  List.map_congr_left fun i hi => joined_of_le (h i hi) val val'

/-- A new node in front of nodes that are newer still. -/
theorem new_cons {a b c : Nodes} {val₁ val₂ : Nat → Data} {ids : List Nat} {x : Data}
    {xs : List Data} (hab : a.size < b.size) (hbc : b.size ≤ c.size) (hx : val₁ a.size = x)
    (hids : ∀ i ∈ ids, b.size ≤ i ∧ i < c.size) (hxs : ids.map val₂ = xs) :
    (∀ i ∈ a.size :: ids, a.size ≤ i ∧ i < c.size)
      ∧ (a.size :: ids).map (joined b.size val₁ val₂) = x :: xs := by
  constructor
  · intro i hi
    rcases List.mem_cons.mp hi with rfl | hi
    · exact ⟨Nat.le_refl _, Nat.lt_of_lt_of_le hab hbc⟩
    · exact ⟨Nat.le_trans (Nat.le_of_lt hab) (hids i hi).1, (hids i hi).2⟩
  · have hfirst : joined b.size val₁ val₂ a.size = x := (joined_of_lt hab val₁ val₂).trans hx
    rw [List.map_cons, hfirst, map_joined fun i hi => (hids i hi).1, hxs]

/-- Items are parsed one after another, if each of them is. -/
theorem itemsAt_itemTokens (loose : Bool) {n : Nat} {xs : List Data}
    (hxs : ∀ x ∈ xs, Parses false n x) :
    ∀ (r : Reading) (steps : Nat), r.tokens = itemTokens xs ++ (closing loose ++ rest) →
      (loose = true → rest.head? ≠ some .item) → n < r.room → 0 < steps →
      4 * (itemTokens xs).length ≤ steps + 2 →
      ∃ nodes val ids, itemsAt loose steps r = .ok (ids, { r with tokens := rest, nodes := nodes })
        ∧ Grown r.nodes nodes val ∧ (∀ i ∈ ids, r.nodes.size ≤ i ∧ i < nodes.size)
        ∧ ids.map val = xs := by
  induction xs with
  | nil =>
    intro r steps hr hrest _ hpos _
    obtain ⟨steps, rfl⟩ := Nat.exists_eq_add_of_le' hpos
    exact ⟨r.nodes, fun _ => .null, [], itemsAt_end hr hrest, .refl _ _, by simp, rfl⟩
  | cons x xs ih =>
    intro r steps hr hrest hroom hpos hsteps
    rw [itemTokens, List.cons_append, List.append_assoc] at hr
    rw [itemTokens, List.length_cons, List.length_append] at hsteps
    obtain ⟨steps, rfl⟩ : ∃ k, steps = k + 2 := ⟨steps - 2, by omega⟩
    obtain ⟨behind, hbehind⟩ : ∃ ts, ts = itemTokens xs ++ (closing loose ++ rest) := ⟨_, rfl⟩
    rw [← hbehind] at hr
    -- the first item takes new nodes, and the items behind it take later ones
    obtain ⟨nodes₁, val₁, hread₁, hgrown₁, hlt₁, hval₁⟩ :=
      hxs x List.mem_cons_self { r with tokens := dataTokens false x ++ behind } behind steps rfl
        (by simp) hroom (by omega)
    obtain ⟨nodes₂, val₂, ids, hread₂, hgrown₂, hids, hvals⟩ :=
      ih (fun y hy => hxs y (List.mem_cons_of_mem x hy))
        { r with tokens := behind, nodes := nodes₁ } (steps + 1) hbehind hrest hroom (by omega)
        (by omega)
    have hends : ∀ t, startsNode t = true → (t = .item → false = true) → t ∉ itemEnds loose :=
      fun t hstart hitem => not_mem_itemEnds loose hstart fun h => Bool.noConfusion (hitem h)
    have hread₁ : nodeAt .block steps { r with tokens := dataTokens false x ++ behind }
        = .ok (r.nodes.size, { r with tokens := behind, nodes := nodes₁ }) := hread₁
    refine ⟨nodes₂, joined nodes₁.size val₁ val₂, r.nodes.size :: ids, ?_, hgrown₁.trans hgrown₂,
      new_cons hlt₁ hgrown₂.size hval₁ hids hvals⟩
    rw [itemsAt_item hr, nodeUnless_dataTokens hends rfl]
    simp only [hread₁, hread₂, bind, Except.bind]
    rfl

/-! ### Entries -/

/-- What no key and no value of a block starts with. -/
def entryEnds : List Token := [.key, .value, .blockEnd]

theorem not_mem_entryEnds (h : startsNode t = true) : t ∉ entryEnds := by
  intro hmem
  cases t <;> simp_all [entryEnds, startsNode]

def entryAt (steps : Nat) (r : Reading) : Except Fault ((Nat × Nat) × Reading) := do
  let (k, r) ← nodeUnless .blockValue entryEnds steps r
  let (v, r) ←
    if r.sees [.value] then nodeUnless .blockValue entryEnds steps r.next
    else .ok (r.add empty)
  return ((k, v), r)

theorem blockEntries_entry (hr : r.tokens = .key :: rest) :
    blockEntries (steps + 1) r = do
      let (e, r') ← entryAt steps { r with tokens := rest }
      let (es, r') ← blockEntries steps r'
      return (e :: es, r') := by
  have hsees : r.sees [.key] = true := by
    rw [sees_eq hr]
    rfl
  have hnext : r.next = { r with tokens := rest } := by
    simp [Reading.next, hr]
  rw [blockEntries, hsees, hnext, if_pos rfl, entryAt, bind_assoc]
  refine bind_congr fun p => ?_
  cases hvalue : p.2.sees [.value] with
  | false =>
    simp only [hvalue, Bool.false_eq_true, if_false]
    rfl
  | true =>
    simp only [hvalue, if_true, bind_assoc]
    rfl

theorem blockEntries_end (hr : r.tokens = .blockEnd :: rest) :
    blockEntries (steps + 1) r = .ok ([], { r with tokens := rest }) := by
  have hkey : r.sees [.key] = false := by
    rw [sees_eq hr]
    rfl
  have hend : r.sees [.blockEnd] = true := by
    rw [sees_eq hr]
    rfl
  have hnext : r.next = { r with tokens := rest } := by
    simp [Reading.next, hr]
  rw [blockEntries, hkey, Reading.take, hend, hnext]
  rfl

theorem entryAt_parsed {n : Nat} {s : Text} {v : Data} (hv : Parses true n v)
    (hr : r.tokens = simpleToken (.text s) :: .value :: (dataTokens true v ++ rest))
    (hrest : rest.head? ≠ some .item) (hroom : n < r.room)
    (hsteps : 4 * (1 + (dataTokens true v).length) ≤ steps) :
    ∃ nodes val k, entryAt (steps + 1) r
        = .ok ((r.nodes.size, k), { r with tokens := rest, nodes := nodes })
      ∧ Grown r.nodes nodes val ∧ r.nodes.size < k ∧ k < nodes.size
      ∧ val r.nodes.size = .text s ∧ val k = v := by
  have htext := dataTokens_simple (.text s) true
  obtain ⟨nodes₁, val₁, hread₁, hgrown₁, hlt₁, hval₁⟩ :=
    parses_simple (.text s) true n r (.value :: (dataTokens true v ++ rest)) steps
      (by rw [htext]; exact hr) (by simp) hroom (by rw [htext]; simp; omega)
  -- what is left to read behind the key
  let r₂ : Reading := { r with tokens := dataTokens true v ++ rest, nodes := nodes₁ }
  obtain ⟨nodes₂, val₂, hread₂, hgrown₂, hlt₂, hval₂⟩ :=
    hv r₂ rest steps rfl (fun _ => hrest) hroom (by omega)
  have hkey : nodeUnless .blockValue entryEnds (steps + 1) r = nodeAt .blockValue steps r :=
    nodeUnless_eq hr (by simp [simpleToken, entryEnds])
  have hvalue : nodeUnless .blockValue entryEnds (steps + 1) r₂ = nodeAt .blockValue steps r₂ :=
    nodeUnless_dataTokens (fun t hstart _ => not_mem_entryEnds hstart) rfl
  refine ⟨nodes₂, joined nodes₁.size val₁ val₂, nodes₁.size, ?_, hgrown₁.trans hgrown₂, hlt₁,
    hlt₂, ?_, ?_⟩
  · have hread₁ : nodeAt .blockValue steps r = .ok (r.nodes.size,
      { r with tokens := .value :: (dataTokens true v ++ rest), nodes := nodes₁ }) := hread₁
    have hread₂ : nodeAt .blockValue steps r₂ = .ok (nodes₁.size,
      { r with tokens := rest, nodes := nodes₂ }) := hread₂
    rw [entryAt, hkey, hread₁]
    show (do
      let (v, r') ← nodeUnless .blockValue entryEnds (steps + 1) r₂
      return ((r.nodes.size, v), r')) = _
    rw [hvalue, hread₂]
    rfl
  · rw [joined_of_lt hlt₁, hval₁]
  · rw [joined_of_le (Nat.le_refl _)]
    exact hval₂

theorem head_entryTokens (es : List (Data × Data)) (rest : List Token) :
    (entryTokens es ++ .blockEnd :: rest).head? ≠ some .item := by
  cases es with
  | nil => simp [entryTokens]
  | cons e es => simp [entryTokens]

/-- The new nodes of an entry in front of nodes that are newer still. -/
theorem new_row_cons {a b c : Nodes} {val₁ val₂ : Nat → Data} {k : Nat} {ids : List (Nat × Nat)}
    {e : Data × Data} {es : List (Data × Data)} (hak : a.size < k) (hkb : k < b.size)
    (hbc : b.size ≤ c.size) (hkey : val₁ a.size = e.1) (hvalue : val₁ k = e.2)
    (hids : ∀ i ∈ ids, (b.size ≤ i.1 ∧ i.1 < c.size) ∧ b.size ≤ i.2 ∧ i.2 < c.size)
    (hes : ids.map (fun i => (val₂ i.1, val₂ i.2)) = es) :
    (∀ i ∈ (a.size, k) :: ids, (a.size ≤ i.1 ∧ i.1 < c.size) ∧ a.size ≤ i.2 ∧ i.2 < c.size)
      ∧ ((a.size, k) :: ids).map
          (fun i => (joined b.size val₁ val₂ i.1, joined b.size val₁ val₂ i.2))
        = e :: es := by
  constructor
  · intro i hi
    rcases List.mem_cons.mp hi with rfl | hi
    · simp only
      omega
    · have hbounds := hids i hi
      omega
  · have hsame : ∀ i ∈ ids, (joined b.size val₁ val₂ i.1, joined b.size val₁ val₂ i.2)
        = (val₂ i.1, val₂ i.2) := by
      intro i hi
      rw [joined_of_le (hids i hi).1.1, joined_of_le (hids i hi).2.1]
    rw [List.map_cons, List.map_congr_left hsame, hes, joined_of_lt (Nat.lt_trans hak hkb),
      joined_of_lt hkb, hkey, hvalue]

/-- Entries are parsed one after another, if each of their values is. -/
theorem blockEntries_entryTokens {n : Nat} {es : List (Data × Data)}
    (hkeys : ∀ e ∈ es, ∃ s, e.1 = .text s) (hes : ∀ e ∈ es, Parses true n e.2) :
    ∀ (r : Reading) (steps : Nat), r.tokens = entryTokens es ++ .blockEnd :: rest →
      n < r.room → 4 * (entryTokens es).length < steps →
      ∃ nodes val ids, blockEntries steps r = .ok (ids, { r with tokens := rest, nodes := nodes })
        ∧ Grown r.nodes nodes val
        ∧ (∀ i ∈ ids, (r.nodes.size ≤ i.1 ∧ i.1 < nodes.size)
          ∧ r.nodes.size ≤ i.2 ∧ i.2 < nodes.size)
        ∧ ids.map (fun i => (val i.1, val i.2)) = es := by
  induction es with
  | nil =>
    intro r steps hr _ hsteps
    obtain ⟨steps, rfl⟩ := Nat.exists_eq_add_of_le' (Nat.zero_lt_of_lt hsteps)
    exact ⟨r.nodes, fun _ => .null, [], blockEntries_end hr, .refl _ _, by simp, rfl⟩
  | cons e es ih =>
    obtain ⟨k, v⟩ := e
    intro r steps hr hroom hsteps
    obtain ⟨s, rfl⟩ : ∃ s, k = .text s := hkeys _ List.mem_cons_self
    rw [entryTokens, List.cons_append, List.cons_append, List.cons_append, List.append_assoc] at hr
    simp only [entryTokens, List.length_cons, List.length_append] at hsteps
    obtain ⟨steps, rfl⟩ : ∃ m, steps = m + 2 := ⟨steps - 2, by omega⟩
    have hbound : 4 * (1 + (dataTokens true v).length) ≤ steps := by omega
    obtain ⟨behind, hbehind⟩ : ∃ ts, ts = entryTokens es ++ .blockEnd :: rest := ⟨_, rfl⟩
    rw [← hbehind] at hr
    -- the first entry takes new nodes, and the entries behind it take later ones
    obtain ⟨nodes₁, val₁, id, hread₁, hgrown₁, hid, hlt, hkey, hvalue⟩ :=
      entryAt_parsed (s := s) (v := v) (hes _ List.mem_cons_self)
        (r := { r with tokens := simpleToken (.text s) :: .value :: (dataTokens true v ++ behind) })
        rfl (hbehind ▸ head_entryTokens es rest) hroom hbound
    obtain ⟨nodes₂, val₂, ids, hread₂, hgrown₂, hids, hvals⟩ :=
      ih (fun f hf => hkeys f (List.mem_cons_of_mem _ hf))
        (fun f hf => hes f (List.mem_cons_of_mem _ hf))
        { r with tokens := behind, nodes := nodes₁ } (steps + 1) hbehind hroom (by omega)
    refine ⟨nodes₂, joined nodes₁.size val₁ val₂, (r.nodes.size, id) :: ids, ?_,
      hgrown₁.trans hgrown₂, new_row_cons hid hlt hgrown₂.size hkey hvalue hids hvals⟩
    rw [blockEntries_entry hr]
    simp only [hread₁, hread₂, bind, Except.bind]
    rfl

/-! ### Collections -/

theorem parsed_list {ids : List Nat} {b : Nodes} {xs : List Data} {ts : List Token}
    (ht : startsNode t = true) (hr : r.tokens = t :: ts) (hroom : 0 < r.room)
    (hcontent : contentAt setting {} steps (entered r)
      = .ok (.list .list ids, { entered r with tokens := rest, nodes := b }))
    (hgrown : Grown (entered r).nodes b val)
    (hids : ∀ i ∈ ids, (entered r).nodes.size ≤ i ∧ i < b.size) (hvals : ids.map val = xs) :
    Parsed r rest (.list xs) (nodeAt setting (steps + 1) r) := by
  have hsize : (entered r).nodes.size = r.nodes.size + 1 := Array.size_push _
  rw [hsize] at hids
  refine parsed_of_content ht hr hroom hcontent hgrown (.list (getElem?_finish hgrown _) ?_ ?_)
  · intro i hi
    rw [Array.size_setIfInBounds]
    exact ⟨(hids i hi).1, (hids i hi).2⟩
  · rw [map_joined fun i hi => (hids i hi).1, hvals, joined_of_lt (Nat.lt_succ_self _)]

theorem parsed_map {ids : List (Nat × Nat)} {b : Nodes} {es : List (Data × Data)}
    {ts : List Token} (ht : startsNode t = true) (hr : r.tokens = t :: ts)
    (hroom : 0 < r.room) (hkeys : ∀ e ∈ es, ∃ s, e.1 = .text s)
    (hdistinct : Assoc.Distinct Data.keyForm es)
    (hcontent : contentAt setting {} steps (entered r)
      = .ok (.map .map ids, { entered r with tokens := rest, nodes := b }))
    (hgrown : Grown (entered r).nodes b val)
    (hids : ∀ i ∈ ids, ((entered r).nodes.size ≤ i.1 ∧ i.1 < b.size)
      ∧ (entered r).nodes.size ≤ i.2 ∧ i.2 < b.size)
    (hvals : ids.map (fun i => (val i.1, val i.2)) = es) :
    Parsed r rest (.map es) (nodeAt setting (steps + 1) r) := by
  have hsize : (entered r).nodes.size = r.nodes.size + 1 := Array.size_push _
  rw [hsize] at hids
  -- all rows come after the node of the mapping
  have hrow : ∀ i ∈ ids, (joined (r.nodes.size + 1) (fun _ => .map es) val i.1,
      joined (r.nodes.size + 1) (fun _ => .map es) val i.2) = (val i.1, val i.2) := by
    intro i hi
    rw [joined_of_le (hids i hi).1.1, joined_of_le (hids i hi).2.1]
  have hrows := (List.map_congr_left hrow).trans hvals
  refine parsed_of_content ht hr hroom hcontent hgrown
    (.map (getElem?_finish hgrown _) ?_ ?_ ?_ ?_)
  · intro i hi
    obtain ⟨s, hs⟩ := hkeys (val i.1, val i.2) (hvals ▸ List.mem_map_of_mem hi)
    rw [Array.size_setIfInBounds, joined_of_le (hids i hi).1.1]
    exact ⟨(hids i hi).1.1, (hids i hi).1.2, s, hs⟩
  · intro i hi
    rw [Array.size_setIfInBounds]
    exact (hids i hi).2
  · rwa [hrows]
  · rw [hrows, joined_of_lt (Nat.lt_succ_self _)]

theorem parses_emptyList (loose : Bool) (n : Nat) : Parses loose (n + 1) (.list []) := by
  intro r rest steps hr _ hroom hsteps
  have hr : r.tokens = .listStart :: .listEnd :: rest := hr
  obtain ⟨steps, rfl⟩ : ∃ m, steps = m + 3 := ⟨steps - 3, by simp [dataTokens] at hsteps; omega⟩
  exact parsed_list rfl hr (by omega) (contentAt_emptyList (r := entered r) hr)
    (.refl (entered r).nodes fun _ => .null) (by simp) rfl

/-- A list in a block of its own. -/
theorem parses_blockList {n : Nat} {xs : List Data} (hne : xs ≠ [])
    (hxs : ∀ x ∈ xs, Parses false n x) : Parses false (n + 1) (.list xs) := by
  obtain ⟨x, xs, rfl⟩ := List.exists_cons_of_ne_nil hne
  intro r rest steps hr hrest hroom hsteps
  have hr : r.tokens = .blockListStart :: (itemTokens (x :: xs) ++ [.blockEnd] ++ rest) := hr
  have hlength : (dataTokens false (.list (x :: xs))).length
      = (itemTokens (x :: xs)).length + 2 := by
    simp [dataTokens]
  have hdeeper : n < (entered r).room := Nat.lt_sub_of_add_lt hroom
  rw [hlength] at hsteps
  obtain ⟨steps, rfl⟩ : ∃ m, steps = m + 2 := ⟨steps - 2, by omega⟩
  rw [List.append_assoc] at hr
  obtain ⟨b, val, ids, hread, hgrown, hids, hvals⟩ :=
    itemsAt_itemTokens false hxs
      { entered r with tokens := itemTokens (x :: xs) ++ ([.blockEnd] ++ rest) } steps rfl
      hrest hdeeper (by omega) (by omega)
  refine parsed_list rfl hr (by omega) ?_ hgrown hids hvals
  rw [contentAt_blockList (r := entered r) hr (settingOf_ne_bracket false)]
  exact congrArg (Except.map _) hread

/-- A list behind a key, whose items have no block of their own. -/
theorem parses_looseList {n : Nat} {xs : List Data} (hne : xs ≠ [])
    (hxs : ∀ x ∈ xs, Parses false n x) : Parses true (n + 1) (.list xs) := by
  obtain ⟨x, xs, rfl⟩ := List.exists_cons_of_ne_nil hne
  intro r rest steps hr hrest hroom hsteps
  have hr : r.tokens = itemTokens (x :: xs) ++ (closing true ++ rest) := hr
  have hlength : (dataTokens true (.list (x :: xs))).length = (itemTokens (x :: xs)).length := by
    simp [dataTokens]
  have hdeeper : n < (entered r).room := Nat.lt_sub_of_add_lt hroom
  rw [hlength] at hsteps
  have hpos : 0 < (itemTokens (x :: xs)).length := by simp [itemTokens]
  obtain ⟨steps, rfl⟩ : ∃ m, steps = m + 2 := ⟨steps - 2, by omega⟩
  obtain ⟨b, val, ids, hread, hgrown, hids, hvals⟩ :=
    itemsAt_itemTokens true hxs (entered r) steps hr hrest hdeeper (by omega) (by omega)
  refine parsed_list rfl hr (by omega) ?_ hgrown hids hvals
  rw [show settingOf true = .blockValue from rfl, contentAt_loose (r := entered r) hr]
  exact congrArg (Except.map _) hread

theorem parses_list {n : Nat} {xs : List Data} (hxs : ∀ x ∈ xs, Parses false n x)
    (loose : Bool) : Parses loose (n + 1) (.list xs) := by
  by_cases hne : xs = []
  · subst hne
    exact parses_emptyList loose n
  · cases loose with
    | false => exact parses_blockList hne hxs
    | true => exact parses_looseList hne hxs

theorem parses_map {n : Nat} {es : List (Data × Data)} (hkeys : ∀ e ∈ es, ∃ s, e.1 = .text s)
    (hdistinct : Assoc.Distinct Data.keyForm es) (hes : ∀ e ∈ es, Parses true n e.2)
    (loose : Bool) : Parses loose (n + 1) (.map es) := by
  intro r rest steps hr _ hroom hsteps
  have hhere : 0 < r.room := Nat.zero_lt_of_lt hroom
  have hdeeper : n < (entered r).room := Nat.lt_sub_of_add_lt hroom
  cases es with
  | nil =>
    have hr : r.tokens = .mapStart :: .mapEnd :: rest := hr
    obtain ⟨steps, rfl⟩ : ∃ m, steps = m + 3 := ⟨steps - 3, by simp [dataTokens] at hsteps; omega⟩
    exact parsed_map rfl hr hhere hkeys hdistinct (contentAt_emptyMap (r := entered r) hr)
      (.refl (entered r).nodes fun _ => .null) (by simp) rfl
  | cons e es =>
    have hr : r.tokens = .blockMapStart :: (entryTokens (e :: es) ++ [.blockEnd] ++ rest) := hr
    have hlength : (dataTokens loose (.map (e :: es))).length
        = (entryTokens (e :: es)).length + 2 := by
      simp [dataTokens]
    rw [hlength] at hsteps
    obtain ⟨steps, rfl⟩ : ∃ m, steps = m + 2 := ⟨steps - 2, by omega⟩
    rw [List.append_assoc] at hr
    obtain ⟨b, val, ids, hread, hgrown, hids, hvals⟩ :=
      blockEntries_entryTokens hkeys hes
        { entered r with tokens := entryTokens (e :: es) ++ .blockEnd :: rest } steps rfl
        hdeeper (by omega)
    refine parsed_map rfl hr hhere hkeys hdistinct ?_ hgrown hids hvals
    rw [contentAt_blockMap (r := entered r) hr (settingOf_ne_bracket loose)]
    exact congrArg (Except.map _) hread

theorem parses_storable {n : Nat} {d : Data} (h : Storable n d) :
    ∀ loose, Parses loose n d := by
  induction h with
  | simple h => exact fun loose => parses_simple h loose _
  | list _ ih => exact parses_list fun x hx => ih x hx false
  | @map n es _ hdistinct _ ih =>
    refine parses_map ?_ (Fields.distinct_toMapping hdistinct) ?_
    · intro e he
      obtain ⟨f, -, rfl⟩ := List.mem_map.mp he
      exact ⟨f.1, rfl⟩
    · intro e he
      obtain ⟨f, hf, rfl⟩ := List.mem_map.mp he
      exact ih f hf true

end Node

/-! ### Documents -/

variable {deepest : Nat}

theorem onlyNodes_of_startsNode {t : Token} {ts : List Token} (h : Node.startsNode t = true) :
    onlyNodes deepest (t :: ts) = documentNodes deepest standardHandles (t :: ts) := by
  cases t <;> first | rfl | cases h

/-- The tokens of storable data are the tokens of a document whose nodes stand for it. -/
theorem onlyNodes_dataTokens {n : Nat} {d : Data} (h : Storable n d) (hn : n < deepest) :
    ∃ nodes val, onlyNodes deepest (dataTokens false d) = .ok (nodes, 0) ∧ 0 < nodes.size
      ∧ val 0 = d ∧ ∀ id < nodes.size, MeansAt nodes val id := by
  obtain ⟨t, ts, hhead, hstart, -⟩ := Node.exists_head false d
  obtain ⟨nodes, val, hread, hgrown, hlt, hval⟩ :=
    Node.parses_storable h false
      { tokens := dataTokens false d, room := deepest, handles := standardHandles } []
      (stepsFor (dataTokens false d)) (List.append_nil _).symm (by simp) hn
      (Nat.le_add_right _ _)
  refine ⟨nodes, val, ?_, hlt, hval, fun id hid => hgrown.means id (Nat.zero_le id) hid⟩
  rw [hhead, onlyNodes_of_startsNode hstart, ← hhead, documentNodes]
  have hread : Node.nodeAt .block (stepsFor (dataTokens false d))
      { tokens := dataTokens false d, room := deepest, handles := standardHandles }
      = .ok (0, { tokens := [], nodes := nodes, room := deepest, handles := standardHandles }) :=
    hread
  rw [hread]
  rfl

end WorkflowPolicy.Yaml
