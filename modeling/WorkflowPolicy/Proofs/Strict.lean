/-
  WorkflowPolicy/Proofs/Strict.lean
  =================================
  **What strict mode refuses.**  The review passes a workflow that is clear in all four
  respects (`Strict.Clear`): writes, network, caches, servers.  Otherwise it stops at the
  first respect in which the workflow is not, and there at the first scope in canonical
  order or the first server in the order of the mapping (`Strict.Finds`).  `check_decides`
  says that the review does this and nothing else.

  Each review has one lemma for what it finds and one for when it finds nothing; a review
  finds the first of a list, so what it finds splits the list.
-/
import WorkflowPolicy.Proofs.Permissions

namespace WorkflowPolicy.Strict

/-! ### What is forbidden -/

/-- Write access to a scope where strict mode leaves none. -/
def Forbidden (granted : Permissions) (scope : Text) : Prop :=
  granted.has scope .write = true ∧ scope ∉ writableScopes

def WritesClear (p : Option Permissions) : Prop :=
  ∀ granted ∈ p, ∀ scope ∈ permissionScopes, ¬ Forbidden granted scope

def NetworkClear (n : Option Network) : Prop := ∃ net, n = some net ∧ ("*" : Text) ∉ net.allowed

/-- A cache is the setting itself, or stands in a list of them. -/
def IsCache (d : Data) (cache : Mapping) : Prop :=
  d = .map cache ∨ ∃ xs, d = .list xs ∧ .map cache ∈ xs

def InRepo (cache : Mapping) : Prop := cache.get? "scope" = some (.text "repo")

def CachesClear (tools : Mapping) : Prop :=
  ∀ cache, IsCache (tools.value "cache-memory") cache → ¬ InRepo cache

/-- A server in a container without a network of its own. -/
def IsOpen (d : Data) : Prop :=
  ∃ server : Mapping, d = .map server ∧ server.get? "container" ≠ none
    ∧ server.get? "network" = none

def ServersClear (servers : Mapping) : Prop := ∀ e ∈ servers, ¬ IsOpen e.2

/-- A workflow in which strict mode finds nothing. -/
structure Clear (p : Option Permissions) (n : Option Network) (tools servers : Mapping) :
    Prop where
  writes : WritesClear p
  network : NetworkClear n
  caches : CachesClear tools
  servers : ServersClear servers

/-- The violation that strict mode stops at. -/
inductive Finds (p : Option Permissions) (n : Option Network) (tools servers : Mapping) :
    Violation → Prop where
  | write {granted : Permissions} {before after : List Text} {scope : Text}
      (hp : p = some granted) (hscopes : permissionScopes = before ++ scope :: after)
      (hscope : Forbidden granted scope) (hfirst : ∀ s ∈ before, ¬ Forbidden granted s) :
      Finds p n tools servers (writeViolation scope)
  | missingNetwork (hp : WritesClear p) (hn : n = none) :
      Finds p n tools servers missingNetworkViolation
  | wildcard {net : Network} (hp : WritesClear p) (hn : n = some net)
      (hwildcard : ("*" : Text) ∈ net.allowed) : Finds p n tools servers wildcardViolation
  | cache {cache : Mapping} (hp : WritesClear p) (hn : NetworkClear n)
      (hcache : IsCache (tools.value "cache-memory") cache) (hrepo : InRepo cache) :
      Finds p n tools servers cacheViolation
  | server {before after : Mapping} {name server : Data} (hp : WritesClear p)
      (hn : NetworkClear n) (htools : CachesClear tools)
      (hservers : servers = before ++ (name, server) :: after) (hopen : IsOpen server)
      (hfirst : ServersClear before) :
      Finds p n tools servers (serverViolation name.display)

/-! ### The first of a list -/

/-- The first that passes a test, in terms of what the test decides. -/
theorem find?_eq_some_iff {α : Type} {test : α → Bool} {P : α → Prop}
    (htest : ∀ a, test a = true ↔ P a) {l : List α} {a : α} :
    l.find? test = some a
      ↔ P a ∧ ∃ before after, l = before ++ a :: after ∧ ∀ b ∈ before, ¬ P b := by
  simp only [List.find?_eq_some_iff_append, ← htest, Bool.not_eq_true', Bool.not_eq_true]

/-! ### Permissions -/

theorem isForbidden_iff {granted : Permissions} {scope : Text} :
    (granted.has scope .write && !writableScopes.contains scope) = true
      ↔ Forbidden granted scope := by
  simp [Forbidden]

theorem permissionsViolation?_eq_none_iff {p : Option Permissions} :
    permissionsViolation? p = none ↔ WritesClear p := by
  rw [permissionsViolation?, Option.map_eq_none_iff, Option.bind_eq_none_iff]
  constructor
  · intro h granted hgranted scope hscope hforbidden
    have hnone := h granted hgranted
    rw [Permissions.forbiddenWrite?_eq, List.find?_eq_none] at hnone
    exact hnone scope hscope (isForbidden_iff.mpr hforbidden)
  · intro h granted hgranted
    rw [Permissions.forbiddenWrite?_eq, List.find?_eq_none]
    intro scope hscope hforbidden
    exact h granted hgranted scope hscope (isForbidden_iff.mp hforbidden)

theorem permissionsViolation?_eq_some_iff {p : Option Permissions} {v : Violation} :
    permissionsViolation? p = some v ↔ ∃ granted before scope after, p = some granted
      ∧ permissionScopes = before ++ scope :: after ∧ Forbidden granted scope
      ∧ (∀ s ∈ before, ¬ Forbidden granted s) ∧ writeViolation scope = v := by
  rw [permissionsViolation?, Option.map_eq_some_iff]
  constructor
  · rintro ⟨scope, hfound, rfl⟩
    obtain ⟨granted, hp, hfound⟩ := Option.bind_eq_some_iff.mp hfound
    rw [Permissions.forbiddenWrite?_eq, find?_eq_some_iff fun _ => isForbidden_iff] at hfound
    obtain ⟨hscope, before, after, hscopes, hfirst⟩ := hfound
    exact ⟨granted, before, scope, after, hp, hscopes, hscope, hfirst, rfl⟩
  · rintro ⟨granted, before, scope, after, rfl, hscopes, hscope, hfirst, rfl⟩
    refine ⟨scope, ?_, rfl⟩
    rw [Option.bind_some, Permissions.forbiddenWrite?_eq,
      find?_eq_some_iff fun _ => isForbidden_iff]
    exact ⟨hscope, before, after, hscopes, hfirst⟩

/-! ### Network -/

theorem networkViolation?_eq_none_iff {n : Option Network} :
    networkViolation? n = none ↔ NetworkClear n := by
  cases n with
  | none => simp [networkViolation?, NetworkClear]
  | some net => simp [networkViolation?, NetworkClear, Network.allowsEverything]

theorem networkViolation?_eq_some_iff {n : Option Network} {v : Violation} :
    networkViolation? n = some v ↔ n = none ∧ missingNetworkViolation = v
      ∨ ∃ net, n = some net ∧ ("*" : Text) ∈ net.allowed ∧ wildcardViolation = v := by
  cases n with
  | none => simp [networkViolation?]
  | some net => simp [networkViolation?, Network.allowsEverything]

/-! ### Caches and servers -/

theorem mem_cacheInstances {d : Data} {cache : Mapping} :
    cache ∈ cacheInstances d ↔ IsCache d cache := by
  have hmapping : ∀ x : Data, mapping? x = some cache ↔ x = .map cache := by
    intro x
    cases x <;> simp [mapping?]
  cases d with
  | map es => simp [cacheInstances, IsCache, eq_comm]
  | list xs => simp [cacheInstances, IsCache, hmapping]
  | _ => simp [cacheInstances, IsCache]

theorem any_keepsInRepo_iff {tools : Mapping} :
    (cacheInstances (tools.value "cache-memory")).any keepsInRepo = true
      ↔ ∃ cache, IsCache (tools.value "cache-memory") cache ∧ InRepo cache := by
  simp only [List.any_eq_true, mem_cacheInstances, keepsInRepo, InRepo, beq_iff_eq]

theorem toolsViolation?_eq_none_iff {tools : Mapping} :
    toolsViolation? tools = none ↔ CachesClear tools := by
  rw [toolsViolation?]
  split
  · rename_i hany
    obtain ⟨cache, hcache, hrepo⟩ := any_keepsInRepo_iff.mp hany
    constructor
    · intro h
      cases h
    · intro h
      exact absurd hrepo (h cache hcache)
  · rename_i hnot
    refine ⟨fun _ => ?_, fun _ => rfl⟩
    intro cache hcache hrepo
    exact hnot (any_keepsInRepo_iff.mpr ⟨cache, hcache, hrepo⟩)

theorem toolsViolation?_eq_some_iff {tools : Mapping} {v : Violation} :
    toolsViolation? tools = some v
      ↔ (∃ cache, IsCache (tools.value "cache-memory") cache ∧ InRepo cache)
        ∧ cacheViolation = v := by
  rw [toolsViolation?, ← any_keepsInRepo_iff]
  split
  · rename_i hany
    simp [hany]
  · rename_i hnot
    simp [hnot]

theorem isOpenServer_iff {d : Data} : isOpenServer d = true ↔ IsOpen d := by
  cases d with
  | map es => simp [isOpenServer, IsOpen, Mapping.contains, Option.ne_none_iff_isSome]
  | _ => simp [isOpenServer, IsOpen]

theorem serversViolation?_eq_none_iff {servers : Mapping} :
    serversViolation? servers = none ↔ ServersClear servers := by
  rw [serversViolation?, Option.map_eq_none_iff, List.find?_eq_none]
  constructor
  · intro h e he hopen
    exact h e he (isOpenServer_iff.mpr hopen)
  · intro h e he hopen
    exact h e he (isOpenServer_iff.mp hopen)

theorem serversViolation?_eq_some_iff {servers : Mapping} {v : Violation} :
    serversViolation? servers = some v ↔ ∃ before name server after,
      servers = before ++ (name, server) :: after ∧ IsOpen server ∧ ServersClear before
        ∧ serverViolation name.display = v := by
  rw [serversViolation?, Option.map_eq_some_iff]
  simp only [find?_eq_some_iff fun e : Data × Data => isOpenServer_iff (d := e.2)]
  constructor
  · rintro ⟨⟨name, server⟩, ⟨hopen, before, after, hservers, hfirst⟩, rfl⟩
    exact ⟨before, name, server, after, hservers, hopen, hfirst, rfl⟩
  · rintro ⟨before, name, server, after, hservers, hopen, hfirst, rfl⟩
    exact ⟨(name, server), ⟨hopen, before, after, hservers, hfirst⟩, rfl⟩

/-! ### The review -/

section Review

variable (p : Option Permissions) (n : Option Network) (tools servers : Mapping)

theorem violation?_eq_none_iff :
    violation? p n tools servers = none ↔ Clear p n tools servers := by
  rw [violation?, Option.or_eq_none_iff, Option.or_eq_none_iff, Option.or_eq_none_iff,
    permissionsViolation?_eq_none_iff, networkViolation?_eq_none_iff,
    toolsViolation?_eq_none_iff, serversViolation?_eq_none_iff]
  constructor
  · rintro ⟨hp, hn, htools, hservers⟩
    exact ⟨hp, hn, htools, hservers⟩
  · rintro ⟨hp, hn, htools, hservers⟩
    exact ⟨hp, hn, htools, hservers⟩

theorem violation?_eq_some_iff (v : Violation) :
    violation? p n tools servers = some v ↔ Finds p n tools servers v := by
  simp only [violation?, Option.or_eq_some_iff, permissionsViolation?_eq_none_iff,
    networkViolation?_eq_none_iff, toolsViolation?_eq_none_iff,
    permissionsViolation?_eq_some_iff, networkViolation?_eq_some_iff,
    toolsViolation?_eq_some_iff, serversViolation?_eq_some_iff]
  -- a later review runs only where the earlier ones found nothing
  constructor
  · rintro (hwrite | ⟨hp, hnetwork | ⟨hn, hcache | ⟨htools, hserver⟩⟩⟩)
    · obtain ⟨granted, before, scope, after, hgranted, hscopes, hscope, hfirst, rfl⟩ := hwrite
      exact .write hgranted hscopes hscope hfirst
    · rcases hnetwork with ⟨hnone, rfl⟩ | ⟨net, hnet, hwildcard, rfl⟩
      · exact .missingNetwork hp hnone
      · exact .wildcard hp hnet hwildcard
    · obtain ⟨⟨cache, hcache, hrepo⟩, rfl⟩ := hcache
      exact .cache hp hn hcache hrepo
    · obtain ⟨before, name, server, after, hsplit, hopen, hfirst, rfl⟩ := hserver
      exact .server hp hn htools hsplit hopen hfirst
  · intro h
    cases h with
    | write hgranted hscopes hscope hfirst =>
      exact .inl ⟨_, _, _, _, hgranted, hscopes, hscope, hfirst, rfl⟩
    | missingNetwork hp hnone => exact .inr ⟨hp, .inl (.inl ⟨hnone, rfl⟩)⟩
    | wildcard hp hnet hwildcard => exact .inr ⟨hp, .inl (.inr ⟨_, hnet, hwildcard, rfl⟩)⟩
    | cache hp hn hcache hrepo => exact .inr ⟨hp, .inr ⟨hn, .inl ⟨⟨_, hcache, hrepo⟩, rfl⟩⟩⟩
    | server hp hn htools hsplit hopen hfirst =>
      exact .inr ⟨hp, .inr ⟨hn, .inr ⟨htools, _, _, _, _, hsplit, hopen, hfirst, rfl⟩⟩⟩

/-- **The review decides exactly its policy.**  It passes what is clear, and it fails
    with the first violation and with no other error. -/
theorem check_decides :
    ((check p n tools servers).outcome = .ok () ↔ Clear p n tools servers)
      ∧ ∀ e, (check p n tools servers).outcome = .error e
        ↔ ∃ v, Finds p n tools servers v ∧ e = .policy (.strict v) := by
  rw [check, ← violation?_eq_none_iff]
  simp only [← violation?_eq_some_iff]
  cases violation? p n tools servers with
  | none =>
    constructor
    · simp
    · intro e
      simp
  | some found =>
    constructor
    · simp
    · intro e
      simp [eq_comm]

end Review

end WorkflowPolicy.Strict
