import HeptaBao.Engines.Kv
import HeptaBao.Exec.Runs

namespace HeptaBao.Engines.Kv2

open Wire Std Durable Exec List ExtTreeMap

structure Request where
  method : Str
  path : Str
  body : Value
  now : Nat

def serve (engine : Kv2) (req : Request) : Except EngineError (Answer Kv2) :=
  engine.handle req.method req.path req.body req.now

def step (engine : Kv2) (req : Request) : Kv2 := commit engine (engine.serve req)

def Request.writes (key : Str) (req : Request) : Bool :=
  target req.path == (str "data", key) && (writeMethod req.method || req.method == str "PATCH")

def Request.removes (key : Str) (req : Request) : Bool := target req.path == (str "metadata", key) && req.method == str "DELETE"

-- What a key remembers; one never written has the history of an entry without versions.
structure History where
  current : Nat
  oldest : Nat
  versions : ExtTreeMap Nat Version

def history (engine : Kv2) (key : Str) : History :=
  let entry := engine.entries[key]?.getD (.new 0)
  ⟨entry.currentVersion, entry.oldestVersion, entry.versions⟩

def retained (engine : Kv2) (key : Str) : Nat :=
  retention (engine.entries[key]?.getD (.new 0)).config.maxVersions engine.config.maxVersions

def History.append (history : History) (retained : Nat) (version : Version) : History :=
  let floor := versionFloor (history.current + 1) retained
  ⟨history.current + 1, if 1 < floor then floor else 0,
    (history.versions.insert (history.current + 1) version).filter fun number _ => decide (floor ≤ number)⟩

-- Versions are marked, never removed, and a destroyed one stays destroyed.
structure Marked (before after : ExtTreeMap Nat Version) : Prop where
  same : ∀ number, number ∈ after ↔ number ∈ before
  kept : ∀ (number : Nat) (old new : Version), before[number]? = some old → after[number]? = some new →
    old.destroyed = true → new.destroyed = true

theorem Marked.refl (versions : ExtTreeMap Nat Version) : Marked versions versions :=
  ⟨fun _ => Iff.rfl, fun _ _ _ found again destroyed => by rw [found] at again; cases again; exact destroyed⟩

theorem Marked.trans {first second third : ExtTreeMap Nat Version} (before : Marked first second)
    (after : Marked second third) :
    Marked first third := by
  refine ⟨fun number => (after.same number).trans (before.same number), fun number old new found again destroyed => ?_⟩
  have there : number ∈ second := (before.same number).mpr (mem_iff_isSome_getElem?.mpr (by rw [found]; rfl))
  obtain ⟨middle, stored⟩ := Option.isSome_iff_exists.mp (mem_iff_isSome_getElem?.mp there)
  exact after.kept number middle new stored again (before.kept number old middle found stored destroyed)

variable {versions : ExtTreeMap Nat Version} {op : Str}

theorem marked_insert {now number : Nat} {version : Version}
    (changed : versions[number]?.bind (changeVersion op now) = some version) :
      Marked versions (versions.insert number version) := by
  obtain ⟨_, found, change⟩ := Option.bind_eq_some_iff.mp changed
  refine ⟨fun other => ?_, fun other before after stored again destroyed => ?_⟩
  · rw [mem_insert, LawfulEqOrd.compare_eq_iff_eq, or_iff_right_of_imp]
    rintro rfl
    exact mem_iff_isSome_getElem?.mpr (by rw [found]; rfl)
  · rw [ExtTreeMap.getElem?_insert] at again
    by_cases same : number = other
    · subst same
      rw [found] at stored
      cases stored
      rw [changeVersion, if_pos destroyed] at change
      cases change
    · rw [if_neg (by rwa [LawfulEqOrd.compare_eq_iff_eq]), stored] at again
      cases again
      exact destroyed

theorem change_each_marked (op : Str) (now : Nat) (numbers : List Nat) (state : Bool × ExtTreeMap Nat Version) :
    Marked state.2 (numbers.foldl (changeEach op now) state).2 := by
  induction numbers generalizing state with
  | nil => exact .refl _
  | cons number _ ih =>
    refine Marked.trans ?_ (ih _)
    rw [changeEach]
    cases changed : state.2[number]?.bind (changeVersion op now) with
    | none => exact .refl _
    | some => exact marked_insert changed

inductive Effect (engine : Kv2) (key : Str) (req : Request) (response : EngineResponse) (next : Kv2) : Prop where
  | marked (quiet : req.writes key = false) (current : (next.history key).current = (engine.history key).current)
      (oldest : (next.history key).oldest = (engine.history key).oldest)
      (versions : Marked (engine.history key).versions (next.history key).versions)
  | written (writes : req.writes key = true) (mutated : response.mutated = true) (cas : Option Nat) (carried : casOf req.body = .ok cas)
      (matched : ∀ value, cas = some value → value = (engine.history key).current) (version : Version)
      (appended : next.history key = (engine.history key).append (engine.retained key) version)

variable {engine next : Kv2}

theorem effect_same {key : Str} {req : Request} {response : EngineResponse} (quiet : req.writes key = false)
    (same : next.history key = engine.history key) : Effect engine key req response next :=
  .marked quiet (by rw [same]) (by rw [same]) (by rw [same]; exact .refl _)

theorem history_insert (engine : Kv2) (config : Config) (key resource : Str) (entry : Entry) :
    history ⟨config, engine.entries.insert resource entry⟩ key =
      if resource = key then ⟨entry.currentVersion, entry.oldestVersion, entry.versions⟩ else engine.history key := by
  simp only [history, ExtTreeMap.getElem?_insert, LawfulEqOrd.compare_eq_iff_eq]
  by_cases same : resource = key
  · rw [if_pos same, if_pos same]
    rfl
  · rw [if_neg same, if_neg same]

theorem history_default (engine : Kv2) (key : Str) (now : Nat) : engine.history key =
    ⟨(engine.entries[key]?.getD (.new now)).currentVersion, (engine.entries[key]?.getD (.new now)).oldestVersion,
      (engine.entries[key]?.getD (.new now)).versions⟩ := by
  rw [history]
  cases engine.entries[key]? <;> rfl

variable {resource : Str}

theorem effect_versions {key : Str} {req : Request} {response : EngineResponse} {entry : Entry}
    (quiet : req.writes key = false) (stored : engine.entries[resource]? = some entry)
    (marked : Marked entry.versions versions) :
    Effect engine key req response
      ⟨engine.config, engine.entries.insert resource { entry with versions := versions }⟩ := by
  by_cases same : resource = key
  · subst same
    have before : engine.history resource = ⟨entry.currentVersion, entry.oldestVersion, entry.versions⟩ := by rw [history, stored]; rfl
    refine .marked quiet ?_ ?_ ?_ <;> rw [history_insert, if_pos rfl, before]
    exact marked
  · exact effect_same quiet (by rw [history_insert, if_neg same])

theorem write_effect {key : Str} {req : Request} {response : EngineResponse} {patch : Bool}
    (writes : req.writes key = decide (resource = key))
    (done : engine.write resource req.body req.now patch = .ok (response, next)) :
      Effect engine key req response next := by
  rw [write] at done
  obtain ⟨_, _, done⟩ := bind_ok done
  obtain ⟨_, _, done⟩ := bind_ok done
  obtain ⟨cas, carried, done⟩ := bind_ok done
  obtain ⟨_, _, done⟩ := bind_ok done
  obtain ⟨_, matched, done⟩ := bind_ok done
  obtain ⟨data, _, done⟩ := bind_ok done
  obtain ⟨_, _, done⟩ := bind_ok done
  obtain ⟨deletionAt, _, done⟩ := bind_ok done
  cases done
  by_cases same : resource = key
  · subst same
    have current : (engine.entries[resource]?.map Entry.currentVersion).getD 0 = (engine.history resource).current := by
      rw [history]
      cases engine.entries[resource]? <;> rfl
    have retains : retention (engine.entries[resource]?.getD (.new req.now)).config.maxVersions engine.config.maxVersions =
        engine.retained resource := by
      rw [retained]
      cases engine.entries[resource]? <;> rfl
    refine .written (by rw [writes]; simp) rfl cas carried (fun value same => ?_) ⟨req.now, deletionAt, false, some data⟩ ?_
    · have agreed := (not_or.mp (refuse_ok matched)).1
      rw [same] at agreed
      rw [← current]
      simpa using agreed
    · rw [history_insert, if_pos rfl, appended, retains, current, history_default engine resource req.now, History.append]
  · refine effect_same (by rw [writes]; exact decide_eq_false same) ?_
    rw [history_insert, if_neg same]

theorem handle_resource_effect {key : Str} {req : Request} {response : EngineResponse}
    (aimed : target req.path = (op, resource)) (stays : req.removes key = false)
    (done : engine.handleResource op req.method resource req.body req.now = .ok (response, next)) :
    Effect engine key req response next := by
  rw [handleResource] at done
  have writes : ∀ (holds : op = str "data" → (writeMethod req.method = true ∨ req.method = str "PATCH") → False),
      req.writes key = false := by
    intro holds
    rw [Request.writes, aimed, Bool.and_eq_false_iff, ← Bool.not_eq_true, ← Bool.not_eq_true, ← not_and_or]
    simp only [beq_iff_eq, Prod.mk.injEq, Bool.or_eq_true]
    exact fun both => holds both.1.1 both.2
  split at done
  · rename_i reading
    obtain ⟨answer, _, same⟩ := bind_ok done
    cases same
    exact effect_same (writes fun _ writing => by rw [reading.2] at writing; revert writing; decide) rfl
  split at done
  · rename_i writing
    refine write_effect ?_ done
    rw [Request.writes, aimed, writing.1, Bool.eq_iff_iff]
    simp [writing.2]
  have quiet := writes fun is writing => by simp_all
  split at done
  · rw [Except.ok.injEq, deleteCurrent] at done
    split at done
    · cases done
      exact effect_same quiet rfl
    · rename_i entry stored
      split at done
      · cases done
        exact effect_same quiet rfl
      · rename_i version changed
        cases done
        exact effect_versions quiet stored (marked_insert changed)
  split at done
  · rw [changeVersions] at done
    obtain ⟨_, _, done⟩ := bind_ok done
    obtain ⟨_, _, done⟩ := bind_ok done
    obtain ⟨numbers, _, done⟩ := bind_ok done
    split at done
    · cases done
      exact effect_same quiet rfl
    · rename_i entry stored
      cases done
      exact effect_versions quiet stored (change_each_marked op req.now numbers (false, entry.versions))
  split at done
  · obtain ⟨_, _, same⟩ := bind_ok done
    cases same
    exact effect_same quiet rfl
  split at done
  · rename_i removing
    cases done
    have other : resource ≠ key := by
      rintro rfl
      rw [Request.removes, aimed, removing.1, removing.2] at stays
      simp at stays
    refine effect_same quiet ?_
    simp only [history, getElem?_erase, LawfulEqOrd.compare_eq_iff_eq, if_neg other]
  split at done
  · rw [writeMetadata] at done
    obtain ⟨_, _, done⟩ := bind_ok done
    obtain ⟨_, _, done⟩ := bind_ok done
    obtain ⟨config, _, done⟩ := bind_ok done
    obtain ⟨custom, _, done⟩ := bind_ok done
    cases done
    refine effect_same quiet ?_
    rw [history_insert]
    split
    · rename_i same
      rw [← same, history_default engine resource req.now]
    · rfl
  · cases done

theorem serve_effect {key : Str} {req : Request} {response : EngineResponse} (stays : req.removes key = false)
    (done : engine.serve req = .ok (response, next)) : Effect engine key req response next := by
  rw [serve, handle] at done
  by_cases config : req.path = str "config"
  · have quiet : req.writes key = false := by
      rw [Request.writes, config]
      rfl
    rw [if_pos config, handleConfig] at done
    split at done
    · cases done
      exact effect_same quiet rfl
    · obtain ⟨_, _, done⟩ := bind_ok done
      obtain ⟨_, _, done⟩ := bind_ok done
      obtain ⟨config, _, done⟩ := bind_ok done
      cases done
      exact effect_same quiet rfl
  rw [if_neg config] at done
  rcases aimed : target req.path with ⟨op, resource⟩
  simp only [aimed] at done
  split at done
  · rename_i listing
    obtain ⟨keys, _, same⟩ := bind_ok done
    cases same
    have other : op ≠ str "data" := by
      rintro rfl
      exact absurd listing.1 (by decide)
    exact effect_same (by simp [Request.writes, aimed, other]) rfl
  · obtain ⟨_, _, done⟩ := bind_ok done
    obtain ⟨_, _, done⟩ := bind_ok done
    exact handle_resource_effect aimed stays done

def succeeds (engine : Kv2) (key : Str) (req : Request) : Bool := req.writes key && (engine.serve req).isOk

theorem step_effect (engine : Kv2) {key : Str} {req : Request} (stays : req.removes key = false) :
    (engine.succeeds key req = false ∧ engine.step req = engine) ∨
      ∃ response, Effect engine key req response (engine.step req) ∧ engine.succeeds key req = req.writes key := by
  cases served : engine.serve req with
  | error => exact .inl ⟨by rw [succeeds, served]; exact Bool.and_false _, by rw [step, served]; rfl⟩
  | ok answer =>
    obtain ⟨response, _⟩ := answer
    have effect := serve_effect stays served
    have counted : engine.succeeds key req = req.writes key := by
      rw [succeeds, served]
      exact Bool.and_true _
    refine .inr ⟨response, ?_, counted⟩
    rw [step, served, commit]
    by_cases mutated : response.mutated = true
    · rw [if_pos mutated]
      exact effect
    · rw [if_neg mutated]
      cases effect with
      | marked quiet => exact effect_same quiet rfl
      | written _ changed => exact absurd changed mutated

-- The versions a key holds are those from a lowest number on.
structure Ranged (low : Nat) (history : History) : Prop where
  positive : 1 ≤ low
  below : low ≤ max 1 history.current
  range : ∀ number, number ∈ history.versions ↔ low ≤ number ∧ number ≤ history.current

theorem Ranged.marked {low : Nat} {before after : History} (ranged : Ranged low before)
    (current : after.current = before.current)
    (versions : Marked before.versions after.versions) : Ranged low after :=
  ⟨ranged.positive, current ▸ ranged.below, fun number => by rw [versions.same, current]; exact ranged.range number⟩

theorem retained_positive (engine : Kv2) (key : Str) : 1 ≤ engine.retained key := by
  unfold retained retention
  split
  · split <;> omega
  · omega

theorem append_versions (history : History) (retained number : Nat) (version : Version) :
    (history.append retained version).versions[number]? =
      if versionFloor (history.current + 1) retained ≤ number then
        if history.current + 1 = number then some version else history.versions[number]?
      else none := by
  simp only [History.append, getElem?_filter', ExtTreeMap.getElem?_insert, LawfulEqOrd.compare_eq_iff_eq]
  by_cases above : versionFloor (history.current + 1) retained ≤ number
  · rw [if_pos above, decide_eq_true above]
    cases (if history.current + 1 = number then some version else history.versions[number]?) <;> rfl
  · rw [if_neg above, decide_eq_false above]
    cases (if history.current + 1 = number then some version else history.versions[number]?) <;> rfl

theorem Ranged.append {low retained : Nat} {history : History} (ranged : Ranged low history) (version : Version)
    (positive : 1 ≤ retained) :
    Ranged (max low (versionFloor (history.current + 1) retained)) (history.append retained version) := by
  have below := ranged.below
  have start := ranged.positive
  have current : (history.append retained version).current = history.current + 1 := rfl
  have under : versionFloor (history.current + 1) retained ≤ history.current + 1 := by
    rw [versionFloor]
    omega
  refine ⟨by omega, by omega, fun number => ?_⟩
  have held := ranged.range number
  rw [mem_iff_isSome_getElem?] at held ⊢
  rw [append_versions, current]
  by_cases above : versionFloor (history.current + 1) retained ≤ number
  · rw [if_pos above]
    by_cases last : history.current + 1 = number
    · rw [if_pos last]
      exact iff_of_true rfl (by omega)
    · rw [if_neg last, held]
      omega
  · rw [if_neg above]
    exact iff_of_false (by simp) (by omega)

def Gone (number : Nat) (history : History) : Prop :=
  number ≤ history.current ∧ ∀ version, history.versions[number]? = some version → version.destroyed = true

theorem gone_step (engine : Kv2) {key : Str} {req : Request} (stays : req.removes key = false) (number : Nat)
    (gone : Gone number (engine.history key)) : Gone number ((engine.step req).history key) := by
  obtain ⟨old, destroyed⟩ := gone
  cases step_effect engine stays with
  | inl kept =>
    rw [kept.2]
    exact ⟨old, destroyed⟩
  | inr changed =>
    obtain ⟨_, effect, _⟩ := changed
    cases effect with
    | marked _ current _ versions =>
      refine ⟨current ▸ old, fun version found => ?_⟩
      have there := (versions.same number).mp (mem_iff_isSome_getElem?.mpr (by rw [found]; rfl))
      obtain ⟨before, stored⟩ := Option.isSome_iff_exists.mp (mem_iff_isSome_getElem?.mp there)
      exact versions.kept number before version stored found (destroyed before stored)
    | written _ _ _ _ _ _ appended =>
      rw [appended]
      refine ⟨Nat.le_succ_of_le old, fun later found => destroyed later ?_⟩
      rw [append_versions] at found
      split at found
      · rw [if_neg (by omega)] at found
        exact found
      · cases found

def Withheld (res : Except EngineError EngineResponse) : Prop :=
  ∀ response, res = .ok response →
    ∃ metadata, response = ⟨404, .object [(str "data", .object [(str "data", .null), (str "metadata", metadata)])], false⟩

theorem gone_withheld {key : Str} {entry : Entry} {body : Value} {number : Nat} (now : Nat) (subkeys : Bool)
    (stored : engine.entries[key]? = some entry) (chosen : selected entry body = .ok number)
    (gone : Gone number (engine.history key)) :
    Withheld (engine.read key body now subkeys) := by
  intro response answered
  rw [read] at answered
  obtain ⟨_, same, answered⟩ := bind_ok answered
  cases stored.symm.trans (or_fail_ok same)
  obtain ⟨_, same, answered⟩ := bind_ok answered
  cases chosen.symm.trans same
  obtain ⟨version, held, answered⟩ := bind_ok answered
  have destroyed := gone.2 version (by rw [history, stored]; exact or_fail_ok held)
  have unreadable : version.readable now = false := by rw [Version.readable, destroyed]; rfl
  rw [if_pos unreadable] at answered
  cases answered
  exact ⟨_, rfl⟩

def Steady (key : Str) (engine : Kv2) (req : Request) : Prop :=
  req.writes key = true → (engine.history key).oldest ≤ versionFloor ((engine.history key).current + 1) (engine.retained key)

def casValues (key : Str) (engine : Kv2) (req : Request) (values : List Nat) : List Nat :=
  if engine.succeeds key req then values ++ (casOf req.body).toOption.join.toList else values

structure Recorded (key : Str) (engine : Kv2) (values : List Nat) : Prop where
  ranged : ∃ low, Ranged low (engine.history key)
  ascending : values.Pairwise (· < ·)
  below : ∀ value ∈ values, value < (engine.history key).current

theorem recorded_step (key : Str) (engine : Kv2) (req : Request) (values : List Nat) (stays : req.removes key = false)
    (recorded : Recorded key engine values) : Recorded key (engine.step req) (casValues key engine req values) := by
  obtain ⟨⟨low, ranged⟩, ascending, below⟩ := recorded
  rw [casValues]
  cases step_effect engine stays with
  | inl kept =>
    rw [kept.1, kept.2]
    exact ⟨⟨low, ranged⟩, ascending, below⟩
  | inr changed =>
    obtain ⟨_, effect, counted⟩ := changed
    rw [counted]
    cases effect with
    | marked quiet current _ versions =>
      rw [quiet]
      exact ⟨⟨low, ranged.marked current versions⟩, ascending, current ▸ below⟩
    | written writes _ cas carried matched version appended =>
      rw [writes, carried, if_pos rfl]
      refine ⟨⟨_, appended ▸ ranged.append version (retained_positive engine key)⟩, ?_, ?_⟩
      · refine pairwise_append.mpr ⟨ascending, by cases cas <;> simp [Except.toOption], fun value listed last same => ?_⟩
        have here := matched last (by simpa [Except.toOption] using same)
        have old := below value listed
        omega
      · intro value listed
        rw [appended]
        cases mem_append.mp listed with
        | inl before => exact Nat.lt_succ_of_lt (below value before)
        | inr last =>
          have here := matched value (by simpa [Except.toOption] using last)
          exact Nat.lt_succ_of_le (Nat.le_of_eq here)

def Tidy (history : History) : Prop := ∃ low, Ranged low history ∧ history.oldest = if low = 1 then 0 else low

theorem tidy_step {key : Str} {req : Request} (stays : req.removes key = false) (steady : Steady key engine req)
    (tidy : Tidy (engine.history key)) :
    Tidy ((engine.step req).history key) ∧ (engine.history key).oldest ≤ ((engine.step req).history key).oldest := by
  cases step_effect engine stays with
  | inl kept =>
    rw [kept.2]
    exact ⟨tidy, Nat.le_refl _⟩
  | inr changed =>
    obtain ⟨_, effect, _⟩ := changed
    obtain ⟨low, ranged, oldest⟩ := tidy
    have start := ranged.positive
    cases effect with
    | marked _ current same versions => exact ⟨⟨low, ranged.marked current versions, by rw [same]; exact oldest⟩, Nat.le_of_eq same.symm⟩
    | written writes _ _ _ _ version appended =>
      have floor := steady writes
      have least : 1 ≤ versionFloor ((engine.history key).current + 1) (engine.retained key) := Nat.le_add_left _ _
      have now : ((engine.history key).append (engine.retained key) version).oldest =
        if 1 < versionFloor ((engine.history key).current + 1) (engine.retained key) then
          versionFloor ((engine.history key).current + 1) (engine.retained key) else 0 := rfl
      rw [appended]
      refine ⟨⟨_, ranged.append version (retained_positive engine key), ?_⟩, ?_⟩
      · rw [now]
        split at oldest <;> split <;> split <;> omega
      · rw [now]
        split at oldest <;> split <;> omega

/-- How a key's versions evolve while its metadata is not deleted. -/
theorem kv_history_kept (key : Str) (start : Kv2) (absent : start.entries[key]? = none) (requests : List Request)
    (stays : ∀ req ∈ requests, req.removes key = false) : (∀ before req after, requests = before ++ req :: after →
      ((run step start (before ++ [req])).history key).current =
        ((run step start before).history key).current + if (run step start before).succeeds key req then 1 else 0) ∧
    (Exec.history step (casValues key) start [] requests).Nodup ∧
      (∃ low, Ranged low ((run step start requests).history key)) ∧
    (∀ before after, requests = before ++ after → ∀ number, Gone number ((run step start before).history key) →
      Gone number ((run step start requests).history key) ∧
      ∀ entry body now subkeys, (run step start requests).entries[key]? = some entry → selected entry body =
        .ok number →
        Withheld ((run step start requests).read key body now subkeys)) ∧
    (Along step (Steady key) start requests → Tidy ((run step start requests).history key) ∧
      ∀ before after, requests = before ++ after →
        ((run step start before).history key).oldest ≤ ((run step start requests).history key).oldest) := by
  have nothing : start.history key = ⟨0, 0, ∅⟩ := by rw [history, absent]; rfl
  have fresh : Ranged 1 (start.history key) := by
    rw [nothing]
    exact ⟨Nat.le_refl 1, Nat.le_refl 1, fun number => iff_of_false (by simp) fun within => by have low := within.1; have high : number ≤ 0 := within.2; omega⟩
  have quiet := along_all step (fun req : Request => req.removes key = false) start requests stays
  have recorded : Recorded key (run step start requests) (Exec.history step (casValues key) start [] requests) :=
    @history_invariant _ _ _ step (casValues key) _ (Recorded key) (fun engine req values => recorded_step key engine req values) start [] requests
      ⟨⟨1, fresh⟩, .nil, by simp⟩ quiet
  refine ⟨fun before req after split => ?_, recorded.ascending.imp Nat.ne_of_lt, recorded.ranged, fun before after split number gone => ?_,
    fun steady => ⟨?_, fun before after split => ?_⟩⟩
  · rw [run_append]
    have here := stays req (by rw [split]; simp)
    change (((run step start before).step req).history key).current = _
    cases step_effect (run step start before) here with
    | inl kept =>
      rw [kept.1, kept.2]
      rfl
    | inr changed =>
      obtain ⟨_, effect, counted⟩ := changed
      rw [counted]
      cases effect with
      | marked quiet current => rw [quiet, current]; rfl
      | written writes _ _ _ _ _ appended => rw [writes, appended]; rfl
  · have later : Gone number ((run step start requests).history key) := by
      rw [split, along_append] at quiet
      rw [split, run_append]
      exact @run_invariant _ _ step _ (fun engine => Gone number (engine.history key)) (fun engine req here => gone_step engine here number)
        _ after gone quiet.2
    exact ⟨later, fun entry body now subkeys stored chosen => gone_withheld now subkeys stored chosen later⟩
  · exact @run_invariant _ _ step _ (fun engine => Tidy (engine.history key))
      (fun engine req allowed tidy => (tidy_step allowed.1 allowed.2 tidy).1) start requests
      ⟨1, fresh, by rw [nothing]; rfl⟩ (along_and start quiet steady)
  · have both := along_and start quiet steady
    rw [split, along_append] at both
    have first := @run_invariant _ _ step _ (fun engine => Tidy (engine.history key))
      (fun engine req allowed tidy => (tidy_step allowed.1 allowed.2 tidy).1) start before ⟨1, fresh, by rw [nothing]; rfl⟩ both.1
    rw [split, run_append]
    refine (@run_invariant _ _ step _ (fun engine => Tidy (engine.history key) ∧
      ((run step start before).history key).oldest ≤ (engine.history key).oldest) (fun engine req allowed held => ?_) _ after
      ⟨first, Nat.le_refl _⟩ both.2).2
    obtain ⟨tidy, grows⟩ := tidy_step allowed.1 allowed.2 held.1
    exact ⟨tidy, Nat.le_trans held.2 grows⟩

def putRequest (path : String) (body : Value) : Request := ⟨str "PUT", str path, body, 1⟩

def dataBody (cas : Nat) : Value :=
  .object [(str "data", .object [(str "k", .string (str "v"))]), (str "options", .object [(str "cas", .natural (UInt64.ofNat cas))])]

def keepBody (count : Nat) : Value := .object [(str "max_versions", .natural (UInt64.ofNat count))]

def threeWrites : List Request :=
  [putRequest "metadata/a" (keepBody 2), putRequest "data/a" (dataBody 0), putRequest "data/a" (dataBody 1), putRequest "data/a" (dataBody 2)]

theorem kv_history_kept_pruned : Tidy ((run step {} threeWrites).history (str "a")) ∧
    ((run step {} threeWrites).history (str "a")).oldest = 2 ∧
    Gone 1 ((run step {} threeWrites).history (str "a")) := by
  have held := kv_history_kept (str "a") {} rfl threeWrites (by decide +kernel)
  have steady : Along step (Steady (str "a")) {} threeWrites :=
    ⟨fun _ => by decide +kernel, fun _ => by decide +kernel, fun _ => by decide +kernel, fun _ => by decide +kernel, trivial⟩
  obtain ⟨_, _, _, gone, tidy⟩ := held
  refine ⟨(tidy steady).1, by decide +kernel, (gone threeWrites [] rfl 1 ⟨by decide +kernel, fun version found => ?_⟩).1⟩
  have pruned : ((run step {} threeWrites).history (str "a")).versions[1]?.isNone = true := by decide +kernel
  rw [found] at pruned
  cases pruned

theorem raised_retention_forgets : ((run step {} threeWrites).history (str "a")).oldest = 2 ∧
    ((run step {} (threeWrites ++ [putRequest "metadata/a" (keepBody 10), putRequest "data/a" (dataBody 3)])).history
      (str "a")).oldest = 0 ∧
    ((run step {} (threeWrites ++ [putRequest "metadata/a" (keepBody 10), putRequest "data/a" (dataBody 3)])).history
      (str "a")).versions.keys =
      [2, 3, 4] := by
  decide +kernel

end HeptaBao.Engines.Kv2
