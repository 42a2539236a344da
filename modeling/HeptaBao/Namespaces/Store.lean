import Mathlib.Data.List.MinMax
import HeptaBao.Exec.Runs
import HeptaBao.Contracts.Domain

namespace HeptaBao.Namespaces

open Exec Wire Std Durable List ExtTreeMap
open Domain (Id CanonicalPath DomainError checkPath parse_path)

def rootPath : CanonicalPath := ⟨[47], by decide⟩

variable (path : CanonicalPath)

def child (id : Id) : Except DomainError CanonicalPath :=
  CanonicalPath.parse (if path.text = [47] then 47 :: id.text else path.text ++ 47 :: id.text)

variable (front : CanonicalPath)

def matchesPrefix : Bool :=
  front.text = [47] || path.text = front.text || (stripPrefix front.text path.text).any fun suffix => suffix.head? = some 47

inductive NamespaceState where
  | active
  | disabled
deriving DecidableEq

structure Namespace where
  id : Id
  parentId : Option Id
  path : CanonicalPath
  state : NamespaceState
  generation : Nat
deriving DecidableEq

inductive NamespaceError where
  | rootAlreadyExists
  | duplicateNamespace
  | duplicatePath
  | missingNamespace
  | missingParent
  | parentDisabled
  | namespaceDisabled
  | cannotDisableRoot
  | alreadyDisabled
  | invalidResourcePath
  | domain (flaw : DomainError)
deriving DecidableEq

structure NamespaceStore where
  namespaces : ExtTreeMap Id Namespace
  pathIndex : ExtTreeMap Str Id

namespace NamespaceStore

variable (store : NamespaceStore)

def add (entry : Namespace) : NamespaceStore :=
  ⟨store.namespaces.insert entry.id entry, store.pathIndex.insert entry.path.text entry.id⟩

def bootstrapRoot (id : Id) : Except NamespaceError NamespaceStore :=
  if store.namespaces.isEmpty = false then .error .rootAlreadyExists else .ok (store.add ⟨id, none, rootPath, .active, 1⟩)

def create (id parentId : Id) : Except NamespaceError (NamespaceStore × Namespace) :=
  if store.namespaces.contains id = true then .error .duplicateNamespace
  else match store.namespaces[parentId]? with
    | none => .error .missingParent
    | some parent =>
      if parent.state ≠ .active then .error .parentDisabled
      else match child parent.path id with
        | .error flaw => .error (.domain flaw)
        | .ok path =>
          if store.pathIndex.contains path.text = true then .error .duplicatePath
          else .ok (store.add ⟨id, some parentId, path, .active, 1⟩, ⟨id, some parentId, path, .active, 1⟩)

def get (id : Id) : Except NamespaceError Namespace :=
  match store.namespaces[id]? with
  | none => .error .missingNamespace
  | some entry => .ok entry

def disable (id : Id) : Except NamespaceError NamespaceStore :=
  match store.namespaces[id]? with
  | none => .error .missingNamespace
  | some entry =>
    if entry.parentId = none then .error .cannotDisableRoot
    else if entry.state = .disabled then .error .alreadyDisabled
    else .ok { store with
      namespaces := store.namespaces.insert id { entry with state := .disabled, generation := min (entry.generation + 1) u64Max } }

def candidates (path : CanonicalPath) : List Namespace :=
  (store.namespaces.toList.map Prod.snd).filter fun entry => entry.state = .active && matchesPrefix path entry.path

-- max_by_key takes the last of several maxima.
def resolve (path : CanonicalPath) : Except NamespaceError Namespace :=
  match (store.candidates path).reverse.argmax fun entry => entry.path.text.length with
  | none => .error .missingNamespace
  | some entry => .ok entry

def qualify (id : Id) (resourcePath : CanonicalPath) : Except NamespaceError CanonicalPath := do
  let entry ← store.get id
  if entry.state ≠ .active then .error .namespaceDisabled
  else if resourcePath.text = [47] then .ok entry.path
  else match stripPrefix [47] resourcePath.text with
    | none => .error .invalidResourcePath
    | some suffix => (CanonicalPath.parse (trimEndMatches 47 entry.path.text ++ 47 :: suffix)).mapError .domain

def Stored (entry : Namespace) : Prop := store.namespaces[entry.id]? = some entry

-- What qualify answers for the record it finds; a path is canonical by its type.
def Qualifies : Prop :=
  (∀ (id : Id) resource, store.namespaces[id]? = none → store.qualify id resource = .error .missingNamespace) ∧
  ∀ entry, store.Stored entry → ∀ resource,
    (entry.state = .disabled → store.qualify entry.id resource = .error .namespaceDisabled) ∧
    (entry.state = .active → ∀ path : CanonicalPath, store.qualify entry.id resource = .ok path ↔
      path.text = if resource.text = [47] then entry.path.text else trimEndMatches 47 entry.path.text ++ resource.text)

-- A path resolves to the active namespace around it that has no active one below around it.
def ResolvesDeepest : Prop :=
  ∀ path entry, store.resolve path = .ok entry ↔
    (store.Stored entry ∧ entry.state = .active ∧ matchesPrefix path entry.path = true) ∧
      ∀ deeper, store.Stored deeper → deeper.state = .active → deeper ≠ entry →
        matchesPrefix deeper.path entry.path = true → matchesPrefix path deeper.path = false

-- A successful disable marks one active record, which is not the root.
def DisablesOne : Prop :=
  ∀ id next, store.disable id = .ok next → next.pathIndex = store.pathIndex ∧
    (∀ other, other ≠ id → next.namespaces[other]? = store.namespaces[other]?) ∧
    ∃ entry, store.namespaces[id]? = some entry ∧ entry.parentId ≠ none ∧ entry.state = .active ∧
      next.namespaces[id]? = some { entry with state := .disabled, generation := min (entry.generation + 1) u64Max }

end NamespaceStore

inductive Event where
  | bootstrapRoot (id : Id)
  | create (id parentId : Id)
  | disable (id : Id)

def step (store : NamespaceStore) : Event → NamespaceStore
  | .bootstrapRoot id => (store.bootstrapRoot id).toOption.getD store
  | .create id parentId => ((store.create id parentId).toOption.map Prod.fst).getD store
  | .disable id => (store.disable id).toOption.getD store

theorem path_head : path.text.head? = some 47 := by
  have parsed := path.parsed
  unfold checkPath at parsed
  split at parsed
  · cases parsed
  split at parsed
  · cases parsed
  split at parsed
  · cases parsed
  next absolute => exact not_not.mp absolute

theorem matches_iff : matchesPrefix path front = true ↔
    front.text = [47] ∨ ∃ rest, path.text = front.text ++ rest ∧ (rest = [] ∨ rest.head? = some 47) := by
  simp only [matchesPrefix, Bool.or_eq_true, decide_eq_true_eq, Option.any_eq_true, or_assoc]
  refine or_congr_right ⟨?_, ?_⟩
  · rintro (same | ⟨rest, stripped, slash⟩)
    · exact ⟨[], by rw [same, append_nil], .inl rfl⟩
    · exact ⟨rest, strip_prefix_some stripped, .inr slash⟩
  · rintro ⟨rest, same, rfl | slash⟩
    · exact .inl (by rw [same, append_nil])
    · exact .inr ⟨rest, by rw [same, strip_prefix_append], slash⟩

theorem root_of_short (short : path.text.length ≤ 1) : path.text = [47] := by
  have slash := path_head path
  match same : path.text with
  | [] => simp [same] at slash
  | [byte] => simpa [same] using slash
  | _ :: _ :: _ => simp [same] at short

-- Two namespaces around one path lie one below the other.
theorem matches_nested {path outer inner : CanonicalPath} (one : matchesPrefix path outer = true)
    (two : matchesPrefix path inner = true)
    (order : outer.text.length ≤ inner.text.length) : matchesPrefix inner outer = true := by
  rw [matches_iff] at one two ⊢
  rcases one with root | ⟨first, whole, slash⟩
  · exact .inl root
  rcases two with root | ⟨second, split, _⟩
  · exact .inl (root_of_short outer (by simpa [root] using order))
  · obtain ⟨between, isInner, isFirst⟩ | ⟨between, isOuter, _⟩ := append_eq_append_iff.mp (whole.symm.trans split)
    · refine .inr ⟨between, isInner, ?_⟩
      cases between with
      | nil => exact .inl rfl
      | cons => exact .inr (by rw [isFirst] at slash; simpa using slash)
    · obtain rfl : between = [] := eq_nil_of_length_eq_zero (by rw [isOuter, length_append] at order; omega)
      exact .inr ⟨[], by simpa using isOuter.symm, .inl rfl⟩

theorem matches_length {path front : CanonicalPath} (below : matchesPrefix path front = true)
    (short : path.text.length ≤ front.text.length) :
    path.text = front.text := by
  rcases (matches_iff path front).mp below with root | ⟨rest, same, _⟩
  · rw [root, root_of_short path (by simpa [root] using short)]
  · obtain rfl : rest = [] := eq_nil_of_length_eq_zero (by rw [same, length_append] at short; omega)
    simpa using same

structure Indexed (store : NamespaceStore) : Prop where
  id : ∀ (id : Id) entry, store.namespaces[id]? = some entry → entry.id = id
  index : ∀ (id : Id) entry, store.namespaces[id]? = some entry → store.pathIndex[entry.path.text]? = some id

variable {store : NamespaceStore}

theorem add_indexed (indexed : Indexed store) (entry : Namespace)
    (fresh : ∀ (id : Id) other, store.namespaces[id]? = some other → other.path.text ≠ entry.path.text) :
    Indexed (store.add entry) := by
  refine ⟨fun id other found => ?_, fun id other found => ?_⟩
  · rw [NamespaceStore.add, lookup_insert] at found
    split at found
    next same =>
      cases found
      exact same
    · exact indexed.id id other found
  · rw [NamespaceStore.add, lookup_insert] at found ⊢
    split at found
    next same =>
      cases found
      rw [if_pos rfl, same]
    · rw [if_neg fun same => fresh id other found same.symm]
      exact indexed.index id other found

theorem disables_one (store : NamespaceStore) : store.DisablesOne := by
  intro id next disabled
  unfold NamespaceStore.disable at disabled
  split at disabled
  · cases disabled
  next entry found =>
    split at disabled
    · cases disabled
    next child =>
      split at disabled <;> cases disabled
      next usable =>
        have active : entry.state = .active := by
          cases state : entry.state with
          | active => rfl
          | disabled => exact absurd state usable
        refine ⟨rfl, fun other differs => ?_, entry, found, child, active, ?_⟩
        · rw [lookup_insert, if_neg (Ne.symm differs)]
        · rw [lookup_insert, if_pos rfl]

theorem disable_indexed (indexed : Indexed store) {id : Id} {next : NamespaceStore}
    (disabled : store.disable id = .ok next) :
    Indexed next := by
  obtain ⟨paths, others, entry, found, _, _, marked⟩ := disables_one store id next disabled
  constructor
  all_goals
    intro other record stored
    by_cases same : other = id
    · rw [same, marked] at stored
      cases stored
      rw [same]
      first
        | exact indexed.id id entry found
        | exact paths ▸ indexed.index id entry found
    · rw [others other same] at stored
      first
        | exact indexed.id other record stored
        | exact paths ▸ indexed.index other record stored

theorem step_indexed (store : NamespaceStore) (event : Event) (indexed : Indexed store) :
    Indexed (step store event) := by
  cases event with
  | bootstrapRoot id =>
    rw [step, NamespaceStore.bootstrapRoot]
    split
    · exact indexed
    next empty =>
      refine add_indexed indexed _ fun other entry found => ?_
      simp [show store.namespaces = ∅ by simpa using empty] at found
  | create id parentId =>
    rw [step, NamespaceStore.create]
    split
    · exact indexed
    split
    · exact indexed
    split
    · exact indexed
    split
    · exact indexed
    split
    · exact indexed
    next path _ unused =>
      refine add_indexed indexed _ fun other entry found same => unused ?_
      rw [contains_eq_isSome_getElem?, ← same, indexed.index other entry found]
      rfl
  | disable id =>
    rw [step]
    cases disabled : store.disable id with
    | error => exact indexed
    | ok => exact disable_indexed indexed disabled

-- Nothing enables or replaces a disabled record again.
theorem step_disabled (entry : Namespace) (disabled : entry.state = .disabled) (store : NamespaceStore) (event : Event)
    (stored : store.Stored entry) : (step store event).Stored entry := by
  have known : store.namespaces.contains entry.id = true := by
    rw [contains_eq_isSome_getElem?, stored]
    rfl
  have added : ∀ other : Namespace, store.namespaces.contains other.id ≠ true → (store.add other).Stored entry := by
    intro other fresh
    have differs : other.id ≠ entry.id := fun same => fresh (by rw [same, known])
    rw [NamespaceStore.Stored, NamespaceStore.add, lookup_insert, if_neg differs]
    exact stored
  cases event with
  | bootstrapRoot id =>
    rw [step, NamespaceStore.bootstrapRoot]
    split
    · exact stored
    next empty =>
      rw [show store.namespaces = ∅ by simpa using empty] at known
      simp at known
  | create id parentId =>
    rw [step, NamespaceStore.create]
    split
    · exact stored
    next fresh =>
      split
      · exact stored
      split
      · exact stored
      split
      · exact stored
      split
      · exact stored
      · exact added _ fresh
  | disable id =>
    rw [step]
    cases succeeded : store.disable id with
    | error => exact stored
    | ok next =>
      obtain ⟨_, others, record, found, _, active, _⟩ := disables_one store id next succeeded
      have differs : entry.id ≠ id := by
        intro same
        rw [NamespaceStore.Stored, same, found] at stored
        cases stored
        rw [active] at disabled
        cases disabled
      exact (others entry.id differs).trans stored

theorem candidate_iff (indexed : Indexed store) (path : CanonicalPath) (entry : Namespace) :
    entry ∈ (store.candidates path).reverse ↔
      store.Stored entry ∧ entry.state = .active ∧ matchesPrefix path entry.path = true := by
  simp only [NamespaceStore.candidates, mem_reverse, List.mem_filter, List.mem_map, Bool.and_eq_true, decide_eq_true_eq]
  refine ⟨?_, fun ⟨stored, fits⟩ => ⟨⟨(entry.id, entry), mem_toList_iff_getElem?_eq_some.mpr stored, rfl⟩, fits⟩⟩
  rintro ⟨⟨⟨id, _⟩, listed, rfl⟩, fits⟩
  have found := mem_toList_iff_getElem?_eq_some.mp listed
  obtain rfl := indexed.id _ _ found
  exact ⟨found, fits⟩

theorem same_path (indexed : Indexed store) {first second : Namespace} (one : store.Stored first)
    (two : store.Stored second) (same : first.path.text = second.path.text) : first = second := by
  have ids := indexed.index _ _ one
  rw [same, indexed.index _ _ two] at ids
  rw [NamespaceStore.Stored, ← Option.some.inj ids, two] at one
  exact (Option.some.inj one).symm

theorem indexed_resolves (indexed : Indexed store) : store.ResolvesDeepest := by
  intro path entry
  rw [NamespaceStore.resolve]
  constructor
  · intro resolved
    split at resolved <;> cases resolved
    next chosen =>
      have candidate := (candidate_iff indexed path entry).mp (argmax_mem chosen)
      refine ⟨candidate, fun deeper known active other below => ?_⟩
      by_contra covers
      have shorter :=
        le_of_mem_argmax ((candidate_iff indexed path deeper).mpr ⟨known, active, by simpa using covers⟩) chosen
      exact other (same_path indexed known candidate.1 (matches_length below shorter))
  · rintro ⟨candidate, none⟩
    have listed := (candidate_iff indexed path entry).mpr candidate
    split
    next missing =>
      rw [argmax_eq_none.mp missing] at listed
      cases listed
    next best chosen =>
      obtain ⟨known, active, covers⟩ := (candidate_iff indexed path best).mp (argmax_mem chosen)
      by_cases same : best = entry
      · rw [same]
      · have order := le_of_mem_argmax listed chosen
        have below := matches_nested candidate.2.2 covers order
        rw [none best known active same below] at covers
        cases covers

theorem parse_ok_iff (text : Str) (path : CanonicalPath) : CanonicalPath.parse text = .ok path ↔ path.text = text := by
  constructor
  · intro parsed
    unfold CanonicalPath.parse at parsed
    split at parsed <;> cases parsed
    rfl
  · rintro rfl
    exact parse_path path

theorem qualifies (store : NamespaceStore) : store.Qualifies := by
  refine ⟨fun id resource missing => ?_, fun entry stored resource => ⟨fun disabled => ?_, fun active path => ?_⟩⟩
  · simp [NamespaceStore.qualify, NamespaceStore.get, missing, bind, Except.bind]
  · have found : store.namespaces[entry.id]? = some entry := stored
    simp [NamespaceStore.qualify, NamespaceStore.get, found, disabled, bind, Except.bind]
  · have found : store.namespaces[entry.id]? = some entry := stored
    obtain ⟨suffix, slash⟩ := head?_eq_some_iff.mp (path_head resource)
    simp only [NamespaceStore.qualify, NamespaceStore.get, found, active, bind, Except.bind, ne_eq, not_true, if_false]
    by_cases root : resource.text = [47]
    · rw [if_pos root, if_pos root, ← parse_ok_iff, parse_path, Except.ok.injEq, Except.ok.injEq]
    · rw [if_neg root, if_neg root, slash, show stripPrefix [47] (47 :: suffix) = some suffix from strip_prefix_append [47] suffix,
        ← parse_ok_iff]
      cases parsed : CanonicalPath.parse (trimEndMatches 47 entry.path.text ++ 47 :: suffix) with
      | error => simp [Except.mapError, parsed]
      | ok => simp [Except.mapError, parsed]

/-- In every run qualify and resolve go by the state of single records, disable marks one, and a record
that was disabled is refused for good. -/
theorem namespace_records_decide (events more : List Event) :
    let reached := run step ⟨∅, ∅⟩ events
    reached.Qualifies ∧ reached.ResolvesDeepest ∧ reached.DisablesOne ∧
      ∀ entry, reached.Stored entry → entry.state = .disabled → ∀ resource,
        (run step reached more).qualify entry.id resource = .error .namespaceDisabled := by
  intro reached
  have indexed : Indexed reached := run_preserves step Indexed step_indexed _ events ⟨by simp, by simp⟩
  refine ⟨qualifies reached, indexed_resolves indexed, disables_one reached, fun entry stored disabled resource => ?_⟩
  have kept := run_preserves step (·.Stored entry) (step_disabled entry disabled) reached more stored
  exact ((qualifies _).2 entry kept resource).1 disabled

def rootId : Id := ⟨[114], by decide⟩
def teamId : Id := ⟨[116], by decide⟩
def appId : Id := ⟨[97], (rfl : Except.ok () = _)⟩

def teamApp : List Event := [.bootstrapRoot rootId, .create teamId rootId, .create appId teamId]

-- The team is disabled: its app is still qualified, its own path resolves to the root.
theorem disabled_namespace_open : let store := run step ⟨∅, ∅⟩ (teamApp ++ [.disable teamId])
    (store.get teamId).toOption.map Namespace.state = some .disabled ∧ (store.qualify appId rootPath).isOk = true ∧
      ((store.resolve ⟨[47, 116], by decide⟩).toOption.map Namespace.id) = some rootId := by
  decide +kernel

end HeptaBao.Namespaces
