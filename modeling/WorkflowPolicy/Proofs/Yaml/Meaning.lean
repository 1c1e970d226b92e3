/-
  WorkflowPolicy/Proofs/Yaml/Meaning.lean
  =======================================
  **The data that nodes stand for.**  A document made of nodes that stand for values has the
  value of its first node as its tree (`document_data`).  What is known of a node never
  changes (`Grows`), so each step is looked at alone and gives a result of its kind
  (`Gives`).
-/
import Mathlib.Data.List.Forall2
import WorkflowPolicy.Proofs.Data.Document
import WorkflowPolicy.Proofs.Yaml.Nodes
import WorkflowPolicy.Yaml.Node.Meaning

namespace WorkflowPolicy.Yaml

variable {nodes : Nodes} {val : Nat → Data} {id : Nat}

/-! ### Nodes that stand for values -/

theorem Nodes.node_eq {n : Node} (h : nodes[id]? = some n) : nodes.node id = n := by
  rw [Nodes.node, Array.getD_eq_getD_getElem?, h]
  rfl

/-- Every node stands for its value. -/
def Meaningful (nodes : Nodes) (val : Nat → Data) : Prop :=
  ∀ id < nodes.size, MeansAt nodes val id

theorem isScalar_of_value {tag : Tag} {s : Text} {d : Data}
    (h : Scalar.value tag s = .ok d) : tag.isScalar = true := by
  cases tag <;> first | rfl | cases h

theorem not_isCollection_of_isScalar {tag : Tag} (h : tag.isScalar = true) :
    tag.isCollection = false := by
  cases tag <;> first | rfl | cases h

/-- No node is a key of a special kind. -/
theorem MeansAt.ordinary (h : MeansAt nodes val id) :
    nodes.tag id ≠ .merge ∧ nodes.tag id ≠ .default := by
  cases h with
  | @scalar tag s hnode hvalue =>
    have hscalar := isScalar_of_value hvalue
    rw [Nodes.tag, Nodes.node_eq hnode, Node.tag]
    constructor <;> rintro rfl <;> cases hscalar
  | list hnode =>
    rw [Nodes.tag, Nodes.node_eq hnode, Node.tag]
    exact ⟨by decide, by decide⟩
  | map hnode =>
    rw [Nodes.tag, Nodes.node_eq hnode, Node.tag]
    exact ⟨by decide, by decide⟩

/-! ### Steps -/

namespace Progress

variable {p p' : Progress}

def lookup (p : Progress) (id : Nat) : Option Part := p.parts.getD id none

/-- What is known is right. -/
structure Sound (nodes : Nodes) (val : Nat → Data) (p : Progress) : Prop where
  nodes_eq : p.nodes = nodes
  size : p.parts.size = nodes.size
  own : ∀ id d, p.lookup id = some (.own d) → d = val id
  shared : ∀ id k, p.lookup id = some (.shared k) →
    p.noted[k]? = some id ∧ (nodes.tag id).isCollection = true
  noted : ∀ k id, p.noted[k]? = some id → id < nodes.size ∧ p.lookup id = some (.shared k)

/-- What was known stays known. -/
def Grows (p p' : Progress) : Prop := ∀ id q, p.lookup id = some q → p'.lookup id = some q

theorem Grows.trans {p'' : Progress} (h : Grows p p') (h' : Grows p' p'') : Grows p p'' :=
  fun id q hq => h' id q (h id q hq)

/-- A step succeeds with a result of a kind, and all that is known is right again. -/
def Gives {α : Type} (nodes : Nodes) (val : Nat → Data) (p : Progress)
    (result : Except Fault (α × Progress)) (kind : Progress → α → Prop) : Prop :=
  ∃ a p', result = .ok (a, p') ∧ Sound nodes val p' ∧ Grows p p' ∧ kind p' a

variable {α β : Type}

theorem Gives.pure {kind : Progress → α → Prop} {a : α} (h : Sound nodes val p)
    (ha : kind p a) : Gives nodes val p ((Pure.pure a : Step α) p) kind :=
  ⟨a, p, rfl, h, fun _ _ hq => hq, ha⟩

theorem Gives.bind {x : Step α} {f : α → Step β} {kind : Progress → α → Prop}
    {kind' : Progress → β → Prop} (hx : Gives nodes val p (x p) kind)
    (hf : ∀ a p', Sound nodes val p' → kind p' a → Gives nodes val p' (f a p') kind') :
    Gives nodes val p ((x >>= f) p) kind' := by
  obtain ⟨a, p', hread, hsound, hgrows, ha⟩ := hx
  obtain ⟨b, p'', hread', hsound', hgrows', hb⟩ := hf a p' hsound ha
  refine ⟨b, p'', ?_, hsound', hgrows.trans hgrows', hb⟩
  have hstep : (x >>= f) p = x p >>= fun r => f r.1 r.2 := rfl
  rw [hstep, hread]
  exact hread'

theorem Gives.imp {result : Except Fault (α × Progress)} {kind kind' : Progress → α → Prop}
    (h : Gives nodes val p result kind)
    (hkind : ∀ p' a, Sound nodes val p' → Grows p p' → kind p' a → kind' p' a) :
    Gives nodes val p result kind' := by
  obtain ⟨a, p', hread, hsound, hgrows, ha⟩ := h
  exact ⟨a, p', hread, hsound, hgrows, hkind p' a hsound hgrows ha⟩

/-- A step for each of some things, if what it gives stays right. -/
theorem gives_mapM {xs : List α} {f : α → Step β} {kind : α → Progress → β → Prop}
    (hmono : ∀ x p p' b, Grows p p' → kind x p b → kind x p' b)
    (hf : ∀ x ∈ xs, ∀ p, Sound nodes val p → Gives nodes val p (f x p) (kind x))
    (h : Sound nodes val p) :
    Gives nodes val p (xs.mapM f p) fun p' bs => List.Forall₂ (fun x b => kind x p' b) xs bs := by
  induction xs generalizing p with
  | nil => exact .pure h .nil
  | cons x xs ih =>
    rw [List.mapM_cons]
    refine .bind (hf x List.mem_cons_self p h) fun b p' hsound hb => ?_
    have hrest : Gives nodes val p' (xs.mapM f p') fun p'' bs =>
        kind x p'' b ∧ List.Forall₂ (fun y b => kind y p'' b) xs bs :=
      (ih (fun y hy => hf y (List.mem_cons_of_mem x hy)) hsound).imp
        fun p'' bs _ hgrows hbs => ⟨hmono x p' p'' b hgrows hb, hbs⟩
    exact hrest.bind fun bs p'' hsound' hbs => .pure hsound' (.cons hbs.1 hbs.2)

/-! ### Parts -/

theorem lookup_keep (h : Sound nodes val p) (hid : id < nodes.size) (q : Part) (i : Nat) :
    (p.keep id q).lookup i = if i = id then some q else p.lookup i := by
  rw [lookup, keep, lookup]
  by_cases hi : i = id
  · subst hi
    simp [Array.getD_eq_getD_getElem?, h.size, hid]
  · rw [if_neg hi]
    simp only [Array.getD_eq_getD_getElem?]
    rw [Array.getElem?_setIfInBounds_ne (Ne.symm hi)]

theorem grows_keep (h : Sound nodes val p) (hid : id < nodes.size) (hnew : p.lookup id = none)
    (q : Part) : Grows p (p.keep id q) := by
  intro i r hr
  have hne : i ≠ id := by
    rintro rfl
    rw [hnew] at hr
    cases hr
  rw [lookup_keep h hid, if_neg hne, hr]

theorem sound_keep (h : Sound nodes val p) (hid : id < nodes.size) (hnew : p.lookup id = none) :
    Sound nodes val (p.keep id (.own (val id))) := by
  have hgrows := grows_keep h hid hnew
  refine ⟨h.nodes_eq, by rw [keep, Array.size_setIfInBounds, h.size], ?_, ?_, ?_⟩
  · intro i d hd
    rw [lookup_keep h hid] at hd
    split at hd
    · next hi => rw [hi]; cases hd; rfl
    · exact h.own i d hd
  · intro i k hk
    rw [lookup_keep h hid] at hk
    split at hk
    · cases hk
    · exact h.shared i k hk
  · exact fun k i hk => ⟨(h.noted k i hk).1, hgrows _ i _ (h.noted k i hk).2⟩

theorem lookup_note (h : Sound nodes val p) (hid : id < nodes.size) (i : Nat) :
    (p.note id).2.lookup i = if i = id then some (.shared p.noted.size) else p.lookup i :=
  lookup_keep h hid _ i

theorem sound_note (h : Sound nodes val p) (hid : id < nodes.size) (hnew : p.lookup id = none)
    (htag : (nodes.tag id).isCollection = true) : Sound nodes val (p.note id).2 := by
  have hgrows : Grows p (p.note id).2 := grows_keep h hid hnew _
  have hnoted : (p.note id).2.noted = p.noted.push id := rfl
  refine ⟨h.nodes_eq, by rw [note, keep, Array.size_setIfInBounds, h.size], ?_, ?_, ?_⟩
  · intro i d hd
    rw [lookup_note h hid] at hd
    split at hd
    · cases hd
    · exact h.own i d hd
  · intro i k hk
    rw [lookup_note h hid] at hk
    rw [hnoted]
    split at hk
    · next hi =>
      cases hk
      exact ⟨by rw [Array.getElem?_push_size, hi], hi ▸ htag⟩
    · obtain ⟨hat, hcollection⟩ := h.shared i k hk
      refine ⟨?_, hcollection⟩
      obtain ⟨hlt, -⟩ := Array.getElem?_eq_some_iff.mp hat
      rw [Array.getElem?_push_lt hlt, ← Array.getElem?_eq_getElem hlt, hat]
  · -- the new number stands behind all others
    intro k i hk
    rw [hnoted, Array.getElem?_push] at hk
    split at hk
    · next hlast =>
      cases hk
      exact ⟨hid, by rw [lookup_note h hid, if_pos rfl, hlast]⟩
    · exact ⟨(h.noted k i hk).1, hgrows i _ (h.noted k i hk).2⟩

theorem scalar_eq {tag : Tag} {s : Text} (h : Sound nodes val p)
    (hnode : nodes[id]? = some (.scalar tag s)) (hvalue : Scalar.value tag s = .ok (val id)) :
    p.scalar id = .ok (val id) := by
  have htag : nodes.tag id = tag := by
    rw [Nodes.tag, Nodes.node_eq hnode, Node.tag]
  have htext : nodes.text id = .ok s := by
    rw [Nodes.text, Nodes.textAt, Nodes.node_eq hnode]
  rw [scalar, h.nodes_eq, htag, isScalar_of_value hvalue, htext]
  exact hvalue

theorem gives_part (h : Sound nodes val p) (hid : id < nodes.size)
    (hmeans : MeansAt nodes val id) :
    Gives nodes val p (part id p) fun p' q => p'.lookup id = some q := by
  cases hnew : p.lookup id with
  | some q =>
    have hread : part id p = .ok (q, p) := by
      rw [part, show p.parts.getD id none = some q from hnew]
    exact ⟨q, p, hread, h, fun _ _ hq => hq, hnew⟩
  | none =>
    have hread : part id p = if (nodes.tag id).isCollection then .ok (p.note id)
        else (p.scalar id).map fun d => (.own d, p.keep id (.own d)) := by
      rw [part, show p.parts.getD id none = none from hnew, ← h.nodes_eq]
    have hnoted : (nodes.tag id).isCollection = true →
        Gives nodes val p (part id p) fun p' q => p'.lookup id = some q := by
      intro htag
      rw [hread, if_pos htag]
      exact ⟨_, _, rfl, sound_note h hid hnew htag, grows_keep h hid hnew _,
        (lookup_note h hid id).trans (if_pos rfl)⟩
    -- a scalar is read at once, a collection only gets its number
    cases hmeans with
    | @scalar tag s hnode hvalue =>
      have htag : (nodes.tag id).isCollection = false := by
        rw [Nodes.tag, Nodes.node_eq hnode, Node.tag]
        exact not_isCollection_of_isScalar (isScalar_of_value hvalue)
      rw [hread, htag, if_neg Bool.false_ne_true, scalar_eq h hnode hvalue]
      exact ⟨_, _, rfl, sound_keep h hid hnew, grows_keep h hid hnew _,
        (lookup_keep h hid _ id).trans (if_pos rfl)⟩
    | list hnode =>
      refine hnoted ?_
      rw [Nodes.tag, Nodes.node_eq hnode]
      rfl
    | map hnode =>
      refine hnoted ?_
      rw [Nodes.tag, Nodes.node_eq hnode]
      rfl

/-- A text is no collection. -/
theorem own_of_text {s : Text} {q : Part} (h : Sound nodes val p)
    (hmeans : MeansAt nodes val id) (hs : val id = .text s) (hq : p.lookup id = some q) :
    q = .own (.text s) := by
  cases q with
  | own d => rw [h.own id d hq, hs]
  | shared k =>
    have hcollection := (h.shared id k hq).2
    cases hmeans with
    | scalar hnode hvalue =>
      rw [Nodes.tag, Nodes.node_eq hnode, Node.tag,
        not_isCollection_of_isScalar (isScalar_of_value hvalue)] at hcollection
      cases hcollection
    | list _ _ hvalue =>
      rw [hs] at hvalue
      cases hvalue
    | map _ _ _ _ hvalue =>
      rw [hs] at hvalue
      cases hvalue

theorem gives_key {s : Text} (h : Sound nodes val p) (hid : id < nodes.size)
    (hmeans : MeansAt nodes val id) (hs : val id = .text s) :
    Gives nodes val p (key id p) fun _ k => k = val id := by
  refine (gives_part h hid hmeans).bind fun q p' hsound hq => ?_
  rw [own_of_text hsound hmeans hs hq, hs]
  exact .pure hsound rfl

/-! ### Collections -/

theorem settle_ordinary {tag : Tag} {es : List (Nat × Nat)} (steps : Nat)
    (hnode : nodes[id]? = some (.map tag es))
    (hkeys : ∀ e ∈ es, nodes.tag e.1 ≠ .merge ∧ nodes.tag e.1 ≠ .default) :
    nodes.settle (steps + 1) id = .ok nodes := by
  have hnone : es.filter (fun e => decide (nodes.tag e.1 = .merge)) = [] := by
    rw [List.filter_eq_nil_iff]
    exact fun e he => by simpa using (hkeys e he).1
  have hsettled : ∀ fs ⊆ es, fs.foldl (fun n e => n.settleKey e.1) nodes = nodes := by
    intro fs
    induction fs with
    | nil => exact fun _ => rfl
    | cons f fs ih =>
      intro hfs
      rw [List.foldl_cons, Nodes.settleKey, if_neg (hkeys f (hfs List.mem_cons_self)).2]
      exact ih fun e he => hfs (List.mem_cons_of_mem f he)
  rw [Nodes.settle, Nodes.node_eq hnode]
  simp only [List.partition_eq_filter_filter, hnone, hsettled _ (List.filter_subset_self _),
    List.isEmpty_nil, if_true]
  rfl

/-- A collection has later nodes as its parts, and their data makes the value of its own. -/
structure MadeOf (val : Nat → Data) (p : Progress) (id : Nat) (c : Collection) : Prop where
  parts : ∀ q ∈ c.parts, ∃ x, id < x ∧ p.lookup x = some q
  data : ∀ look : Nat → Data, (∀ x q, p.lookup x = some q → q.toData look = val x) →
    c.toData look = val id

theorem MadeOf.mono {c : Collection} (h : MadeOf val p id c) (hgrows : Grows p p') :
    MadeOf val p' id c := by
  refine ⟨?_, fun look hlook => h.data look fun x q hq => hlook x q (hgrows x q hq)⟩
  intro q hq
  obtain ⟨x, hx, hlookup⟩ := h.parts q hq
  exact ⟨x, hx, hgrows x q hlookup⟩

theorem exists_mem_of_forall₂ {R : α → β → Prop} {xs : List α} {ys : List β} {y : β}
    (h : List.Forall₂ R xs ys) (hy : y ∈ ys) : ∃ x ∈ xs, R x y := by
  induction h with
  | nil => cases hy
  | @cons x z xs ys hfirst _ ih =>
    rcases List.mem_cons.mp hy with rfl | hy
    · exact ⟨x, List.mem_cons_self, hfirst⟩
    · obtain ⟨w, hw, hR⟩ := ih hy
      exact ⟨w, List.mem_cons_of_mem x hw, hR⟩

theorem map_eq_of_forall₂ {γ : Type} {f : α → γ} {g : β → γ} {xs : List α} {ys : List β}
    (h : List.Forall₂ (fun x y => g y = f x) xs ys) : ys.map g = xs.map f := by
  rw [← List.forall₂_eq_eq_eq, List.forall₂_map_left_iff, List.forall₂_map_right_iff]
  exact h.flip

/-- A part for each of some nodes. -/
abbrev ItemsOf (p : Progress) : List Nat → List Part → Prop :=
  List.Forall₂ fun x q => p.lookup x = some q

/-- A key and a part for each of some pairs of nodes. -/
abbrev RowsOf (val : Nat → Data) (p : Progress) : List (Nat × Nat) → List (Data × Part) → Prop :=
  List.Forall₂ fun e row => row.1 = val e.1 ∧ p.lookup e.2 = some row.2

theorem madeOf_list {ids : List Nat} {qs : List Part} (hlater : ∀ i ∈ ids, id < i)
    (hvalue : val id = .list (ids.map val)) (h : ItemsOf p ids qs) :
    MadeOf val p id (.list qs) := by
  refine ⟨?_, ?_⟩
  · intro q hq
    obtain ⟨x, hx, hlookup⟩ := exists_mem_of_forall₂ h hq
    exact ⟨x, hlater x hx, hlookup⟩
  · intro look hlook
    rw [hvalue, Collection.toData, map_eq_of_forall₂ (h.imp fun x q hq => hlook x q hq)]

theorem madeOf_map {es : List (Nat × Nat)} {rows : List (Data × Part)}
    (hlater : ∀ e ∈ es, id < e.2) (hvalue : val id = .map (es.map fun e => (val e.1, val e.2)))
    (h : RowsOf val p es rows) : MadeOf val p id (.map rows) := by
  refine ⟨?_, ?_⟩
  · intro q hq
    obtain ⟨row, hrow, rfl⟩ := List.mem_map.mp hq
    obtain ⟨e, he, -, hlookup⟩ := exists_mem_of_forall₂ h hrow
    exact ⟨e.2, hlater e he, hlookup⟩
  · intro look hlook
    rw [hvalue, Collection.toData]
    refine congrArg Data.map (map_eq_of_forall₂ (h.imp fun e row hrow => ?_))
    rw [hrow.1, hlook e.2 row.2 hrow.2]

theorem gives_entry {s : Text} {e : Nat × Nat} (h : Sound nodes val p)
    (hmeaning : Meaningful nodes val) (hkey : e.1 < nodes.size) (hvalue : e.2 < nodes.size)
    (hs : val e.1 = .text s) :
    Gives nodes val p (entry e p) fun p' row => row.1 = val e.1 ∧ p'.lookup e.2 = some row.2 := by
  refine (gives_key h hkey (hmeaning _ hkey) hs).bind fun k p' hsound hk => ?_
  exact (gives_part hsound hvalue (hmeaning _ hvalue)).bind fun q p'' hsound' hq =>
    .pure hsound' ⟨hk, hq⟩

theorem get_bind (f : Progress → Step α) : ((get : Step Progress) >>= f) p = f p p := rfl

theorem entries_eq {tag : Tag} {es : List (Nat × Nat)} (h : Sound nodes val p)
    (hnode : nodes[id]? = some (.map tag es))
    (hkeys : ∀ e ∈ es, nodes.tag e.1 ≠ .merge ∧ nodes.tag e.1 ≠ .default) :
    entries id p
      = (es.mapM entry >>= fun rows => Pure.pure (Assoc.ofList Data.keyForm rows) : Step _) p := by
  have hsettle : p.nodes.settle (p.nodes.size + 1) id = .ok nodes := by
    rw [h.nodes_eq]
    exact settle_ordinary _ hnode hkeys
  have hentries : nodes.entries id = es := by
    rw [Nodes.entries, Nodes.node_eq hnode]
  have hsame : { p with nodes := nodes } = p := by
    rw [← h.nodes_eq]
  rw [entries, get_bind, hsettle]
  show ((nodes.entries id).mapM entry >>= fun rows =>
    Pure.pure (Assoc.ofList Data.keyForm rows) : Step _) { p with nodes := nodes } = _
  rw [hsame, hentries]

/-- Rows whose keys are those of the nodes are no two under one key. -/
theorem distinct_rows {es : List (Nat × Nat)} {rows : List (Data × Part)}
    (hdistinct : Assoc.Distinct Data.keyForm (es.map fun e => (val e.1, val e.2)))
    (hrows : RowsOf val p es rows) : Assoc.Distinct Data.keyForm rows := by
  have hkeys : rows.map (fun row => Data.keyForm row.1)
      = es.map fun e => Data.keyForm (val e.1) :=
    map_eq_of_forall₂ (hrows.imp fun e row hrow => congrArg Data.keyForm hrow.1)
  rw [Assoc.Distinct, hkeys]
  rwa [Assoc.Distinct, List.map_map] at hdistinct

theorem gives_collection (h : Sound nodes val p) (hmeaning : Meaningful nodes val)
    (hid : id < nodes.size) (htag : (nodes.tag id).isCollection = true) :
    Gives nodes val p (collection id p) (MadeOf val · id) := by
  cases hmeaning id hid with
  | scalar hnode hvalue =>
    rw [Nodes.tag, Nodes.node_eq hnode, Node.tag,
      not_isCollection_of_isScalar (isScalar_of_value hvalue)] at htag
    cases htag
  | @list ids hnode hparts hvalue =>
    have hitems : Gives nodes val p (ids.mapM part p) (ItemsOf · ids) :=
      gives_mapM (fun x p p' q hgrows hq => hgrows x q hq)
        (fun x hx p h => gives_part h (hparts x hx).2 (hmeaning x (hparts x hx).2)) h
    have hown : p.nodes.node id = .list .list ids := by
      rw [h.nodes_eq, Nodes.node_eq hnode]
    rw [collection, get_bind, hown]
    exact hitems.bind fun qs p' hsound hqs =>
      .pure hsound (madeOf_list (fun x hx => (hparts x hx).1) hvalue hqs)
  | @map es hnode hkeys hparts hdistinct hvalue =>
    -- no key merges or stands for a default, so the entries are taken as they are
    have hordinary := fun e (he : e ∈ es) => (hmeaning e.1 (hkeys e he).2.1).ordinary
    have hentries : Gives nodes val p (es.mapM entry p) (RowsOf val · es) := by
      refine gives_mapM (fun e p p' row hgrows hrow => ⟨hrow.1, hgrows e.2 row.2 hrow.2⟩) ?_ h
      intro e he p h
      obtain ⟨-, hlt, s, hs⟩ := hkeys e he
      exact gives_entry h hmeaning hlt (hparts e he).2 hs
    have hread : Gives nodes val p (entries id p) (RowsOf val · es) := by
      rw [entries_eq h hnode hordinary]
      refine hentries.bind fun rows p' hsound hrows => .pure hsound ?_
      rwa [Assoc.ofList_of_distinct _ (distinct_rows hdistinct hrows)]
    have hown : p.nodes.node id = .map .map es := by
      rw [h.nodes_eq, Nodes.node_eq hnode]
    rw [collection, get_bind, hown]
    exact hread.bind fun rows p' hsound hrows =>
      .pure hsound (madeOf_map (fun e he => (hparts e he).1) hvalue hrows)

/-! ### All collections -/

theorem noted_of_grows {k : Nat} (h : Sound nodes val p) (h' : Sound nodes val p')
    (hgrows : Grows p p') (hk : p.noted[k]? = some id) : p'.noted[k]? = some id :=
  (h'.shared id k (hgrows id _ (h.noted k id hk).2)).1

theorem size_noted_le (h : Sound nodes val p) : p.noted.size ≤ nodes.size := by
  rw [← Array.length_toList]
  refine Document.length_le_of_bounded ?_ ?_
  · rw [List.Nodup, List.pairwise_iff_getElem]
    intro i j hi hj hij heq
    rw [Array.getElem_toList, Array.getElem_toList] at heq
    have hfirst := (h.noted i _ (Array.getElem?_eq_getElem hi)).2
    have hlast := (h.noted j _ (Array.getElem?_eq_getElem hj)).2
    rw [heq, hlast] at hfirst
    cases hfirst
    exact Nat.lt_irrefl _ hij
  · intro i hi
    obtain ⟨k, hk, rfl⟩ := Array.mem_iff_getElem.mp (Array.mem_toList_iff.mp hi)
    exact (h.noted k _ (Array.getElem?_eq_getElem hk)).1

/-- The collections so far are made of the nodes that were noted first. -/
structure Made (val : Nat → Data) (p : Progress) (made : Array Collection) : Prop where
  size_le : made.size ≤ p.noted.size
  madeOf : ∀ (k : Nat) (c : Collection), made[k]? = some c →
    ∃ id, p.noted[k]? = some id ∧ MadeOf val p id c

theorem Made.push {made : Array Collection} {c : Collection} (h : Made val p made)
    (hsound : Sound nodes val p) (hsound' : Sound nodes val p') (hgrows : Grows p p')
    (hid : p.noted[made.size]? = some id) (hc : MadeOf val p' id c) :
    Made val p' (made.push c) := by
  have hnext := noted_of_grows hsound hsound' hgrows hid
  refine ⟨?_, ?_⟩
  · obtain ⟨hlt, -⟩ := Array.getElem?_eq_some_iff.mp hnext
    rw [Array.size_push]
    exact hlt
  · intro k d hd
    rw [Array.getElem?_push] at hd
    split at hd
    · next hlast =>
      cases hd
      exact ⟨id, hlast ▸ hnext, hc⟩
    · obtain ⟨i, hi, hmade⟩ := h.madeOf k d hd
      exact ⟨i, noted_of_grows hsound hsound' hgrows hi, hmade.mono hgrows⟩

theorem gives_complete (hmeaning : Meaningful nodes val) :
    ∀ (steps : Nat) (made : Array Collection) (p : Progress), Sound nodes val p →
      Made val p made → nodes.size ≤ made.size + steps →
      Gives nodes val p (complete steps made p)
        fun p' made' => Made val p' made' ∧ made'.size = p'.noted.size := by
  intro steps
  induction steps with
  | zero =>
    intro made p h hmade hsteps
    -- a node is noted at most once, so all that were noted are made
    have hle := size_noted_le h
    have hmost := hmade.size_le
    exact .pure h ⟨hmade, by omega⟩
  | succ steps ih =>
    intro made p h hmade hsteps
    rw [complete, get_bind]
    cases hid : p.noted[made.size]? with
    | none =>
      have hend := Array.getElem?_eq_none_iff.mp hid
      exact .pure h ⟨hmade, Nat.le_antisymm hmade.size_le hend⟩
    | some id =>
      obtain ⟨hlt, hlookup⟩ := h.noted _ id hid
      have hnext : Gives nodes val p (collection id p) fun p' c =>
          Made val p' (made.push c) :=
        (gives_collection h hmeaning hlt (h.shared id _ hlookup).2).imp
          fun p' c hsound hgrows hc => hmade.push h hsound hgrows hid hc
      refine hnext.bind fun c p' hsound hmade' => ih _ p' hsound hmade' ?_
      rw [Array.size_push]
      omega

theorem sound_start : Sound nodes val (start nodes) := by
  have hnone : ∀ id, (start nodes).lookup id = none := by
    intro id
    rw [lookup, start, Array.getD_eq_getD_getElem?, Array.getElem?_replicate]
    split <;> rfl
  refine ⟨rfl, Array.size_replicate, ?_, ?_, ?_⟩
  · intro id d hd
    rw [hnone] at hd
    cases hd
  · intro id k hk
    rw [hnone] at hk
    cases hk
  · intro k id hk
    cases hk

/-! ### The tree -/

/-- The data of collections by the nodes that they were made of. -/
def value (val : Nat → Data) (p : Progress) (k : Nat) : Data := val (p.noted.getD k 0)

theorem getD_noted {k : Nat} (h : p.noted[k]? = some id) : p.noted.getD k 0 = id := by
  rw [Array.getD_eq_getD_getElem?, h]
  rfl

theorem toData_of_lookup {q : Part} (h : Sound nodes val p) (hq : p.lookup id = some q) :
    q.toData (value val p) = val id := by
  cases q with
  | own d => exact h.own id d hq
  | shared k => exact congrArg val (getD_noted (h.shared id k hq).1)

theorem eq_shared_of_id? {q : Part} {l : Nat} (h : q.id? = some l) : q = .shared l := by
  cases q with
  | own d => cases h
  | shared k =>
    cases h
    rfl

/-- A collection ranks as the node that it was made of. -/
theorem ranked_of_made {doc : Document} (h : Sound nodes val p) (hmade : Made val p doc.collections)
    (hsize : doc.collections.size = p.noted.size) : doc.Ranked fun k => p.noted.getD k 0 := by
  have hlinks : ∀ k, ∀ l ∈ doc.links k, l < doc.size ∧ p.noted.getD k 0 < p.noted.getD l 0 := by
    intro k l hl
    rw [Document.links] at hl
    split at hl
    · next c hc =>
      obtain ⟨id, hid, hmadeOf⟩ := hmade.madeOf k c hc
      obtain ⟨q, hq, hshared⟩ := List.mem_filterMap.mp hl
      obtain ⟨x, hx, hlookup⟩ := hmadeOf.parts q hq
      obtain ⟨hnoted, -⟩ := h.shared x l (eq_shared_of_id? hshared ▸ hlookup)
      rw [getD_noted hid, getD_noted hnoted, Document.size, hsize]
      exact ⟨(Array.getElem?_eq_some_iff.mp hnoted).1, hx⟩
    · cases hl
  exact ⟨fun k l hl => (hlinks k l hl).1, fun k l hl => (hlinks k l hl).2⟩

theorem fits_of_made {doc : Document} (h : Sound nodes val p) (hmade : Made val p doc.collections) :
    doc.Fits (value val p) := by
  intro k c hc
  obtain ⟨id, hid, hmadeOf⟩ := hmade.madeOf k c hc
  rw [hmadeOf.data _ fun x q hq => toData_of_lookup h hq, value, getD_noted hid]

end Progress

theorem exists_document {root : Nat} (hmeaning : Meaningful nodes val) (hroot : root < nodes.size) :
    ∃ doc p, nodes.document root = .ok doc ∧ Progress.Sound nodes val p
      ∧ Progress.Made val p doc.collections ∧ doc.collections.size = p.noted.size
      ∧ p.lookup root = some doc.root := by
  let build : Progress.Step Document := do
    let part ← Progress.part root
    return { collections := ← Progress.complete nodes.size #[], root := part }
  have hbuild : Progress.Gives nodes val (.start nodes) (build (.start nodes)) fun p doc =>
      Progress.Made val p doc.collections ∧ doc.collections.size = p.noted.size
        ∧ p.lookup root = some doc.root := by
    refine (Progress.gives_part Progress.sound_start hroot (hmeaning root hroot)).bind ?_
    intro q p hsound hq
    have hmade : Progress.Made val p #[] := ⟨Nat.zero_le _, by simp⟩
    have hcomplete := (Progress.gives_complete hmeaning nodes.size #[] p hsound hmade (by simp)).imp
      fun p' _ _ hgrows hcs => And.intro hcs (hgrows root q hq)
    exact hcomplete.bind fun cs p' hsound' hcs => .pure hsound' ⟨hcs.1.1, hcs.1.2, hcs.2⟩
  obtain ⟨doc, p, hread, hsound, -, hmade, hsize, hdoc⟩ := hbuild
  refine ⟨doc, p, ?_, hsound, hmade, hsize, hdoc⟩
  rw [Nodes.document]
  show (fun r : Document × Progress => r.1) <$> build (.start nodes) = _
  rw [hread]
  rfl

/-- The tree of nodes that stand for values is the value of the node that is the whole. -/
theorem document_data {root : Nat} (hmeaning : Meaningful nodes val) (hroot : root < nodes.size) :
    ∃ doc, nodes.document root = .ok doc ∧ doc.data = val root := by
  obtain ⟨doc, p, hread, hsound, hmade, hsize, hdoc⟩ := exists_document hmeaning hroot
  have hwhole : ∀ k ∈ doc.root.id?, k < doc.size := by
    intro k hk
    rw [Progress.eq_shared_of_id? hk] at hdoc
    obtain ⟨hnoted, -⟩ := hsound.shared root k hdoc
    rw [Document.size, hsize]
    exact (Array.getElem?_eq_some_iff.mp hnoted).1
  refine ⟨doc, hread, ?_⟩
  rw [Document.data_eq (Progress.ranked_of_made hsound hmade hsize)
    (Progress.fits_of_made hsound hmade) hwhole, Progress.toData_of_lookup hsound hdoc]

end WorkflowPolicy.Yaml
