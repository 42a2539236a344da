import HeptaBao.Auth.PolicyText
import HeptaBao.Auth.StandIn

namespace HeptaBao.Auth

open Wire Std Durable List

def ValidRule (entry : Rule) : Prop := validatePath entry.path true = .ok () ∧ ∀ name ∈ entry.capabilities, name ∈ capabilities

theorem rule_valid (entry : Rule) (valid : ValidRule entry) : rule entry.path entry.capabilities = .ok entry := by
  have known : entry.capabilities.toList.any (fun name => !capabilities.contains name) = false := by
    rw [any_eq_false]
    intro name listed
    simp [valid.2 name (ExtTreeSet.mem_toList.mp listed)]
  rw [rule, valid.1]
  change (if _ then _ else _) = _
  rw [known]
  rfl

section Rendering

variable (names : List Str)

def gathered (start : Names) : Names := names.foldl (fun set name => set.insert name) start

theorem mem_gathered (start : Names) (name : Str) : name ∈ gathered names start ↔ name ∈ names ∨ name ∈ start := by
  induction names generalizing start with
  | nil => simp [gathered]
  | cons _ _ ih =>
    rw [gathered, foldl_cons, ← gathered, ih, ExtTreeSet.mem_insert, LawfulEqCmp.compare_eq_iff_eq, mem_cons]
    tauto

theorem gathered_same (set : Names) (same : ∀ name, name ∈ set ↔ name ∈ names) : gathered names ∅ = set := by
  apply ExtTreeSet.ext_mem
  intro name
  rw [mem_gathered, same]
  simp

variable (trailing : Bool)

theorem take_capabilities_listed (name : Str) (names : List Str) (rest : List Lex) (start : Names) (fuel : Nat)
    (enough : names.length < fuel) :
    takeCapabilities fuel (listLexemes trailing (name :: names) ++ .symbol 93 :: rest) start =
      .ok (gathered (name :: names) start, .symbol 93 :: rest) := by
  induction names generalizing name start fuel with
  | nil =>
    obtain ⟨fuel, rfl⟩ : ∃ less, fuel = less + 1 := ⟨fuel - 1, by omega⟩
    cases trailing <;> rfl
  | cons next names ih =>
    obtain ⟨fuel, rfl⟩ : ∃ less, fuel = less + 1 := ⟨fuel - 1, by omega⟩
    rw [length_cons] at enough
    have later := ih next (start.insert name) fuel (by omega)
    have open' : (listLexemes trailing (next :: names) ++ .symbol 93 :: rest).head? ≠ some (.symbol 93) := by
      cases names <;> cases trailing <;> simp [listLexemes]
    have shape : listLexemes trailing (name :: next :: names) ++ .symbol 93 :: rest =
        .string name :: .symbol 44 :: (listLexemes trailing (next :: names) ++ .symbol 93 :: rest) := rfl
    rw [shape, takeCapabilities]
    simp only [takeText, ok_bind, head?_cons, tail_cons, ne_eq, not_true, if_false, if_neg open', later]
    rfl

theorem list_lexemes_length (name : Str) (names : List Str) :
    names.length < (listLexemes trailing (name :: names)).length := by
  induction names generalizing name with
  | nil => cases trailing <;> simp [listLexemes]
  | cons next _ ih =>
    have longer := ih next
    rw [listLexemes, length_cons, length_cons, length_cons]
    omega

theorem take_list (names : List Str) (set : Names) (rest : List Lex) (same : ∀ name, name ∈ set ↔ name ∈ names) :
    takeList (listLexemes trailing names ++ .symbol 93 :: rest) = .ok (set, .symbol 93 :: rest) := by
  rw [← gathered_same names set same, takeList]
  cases names with
  | nil => rfl
  | cons name names =>
    have open' : (listLexemes trailing (name :: names) ++ .symbol 93 :: rest).head? ≠ some (.symbol 93) := by
      cases names <;> cases trailing <;> simp [listLexemes]
    have long := list_lexemes_length trailing name names
    rw [if_neg open']
    apply take_capabilities_listed
    rw [length_append]
    omega

theorem hcl_rules_block (entry : Rule) (names : List Str) (rest : List Lex) (seen : List Str) (fuel : Nat)
    (valid : ValidRule entry) (same : ∀ name, name ∈ entry.capabilities ↔ name ∈ names) (fresh : entry.path ∉ seen) :
    hclRules (fuel + 1) (blockLexemes trailing entry.path names ++ rest) seen =
      (hclRules fuel rest (entry.path :: seen)).map (entry :: ·) := by
  have shape : blockLexemes trailing entry.path names ++ rest = .word (str "path") :: .string entry.path :: .symbol 123 ::
      .word (str "capabilities") :: .symbol 61 :: .symbol 91 :: (listLexemes trailing names ++ .symbol 93 :: .symbol 125 :: rest) := by
    simp [blockLexemes]
  have list := take_list trailing names entry.capabilities (.symbol 125 :: rest) same
  rw [shape, hclRules]
  · simp only [takeLex, takeText, if_true, ok_bind, if_neg fresh, list, rule_valid entry valid]
    cases hclRules fuel rest (entry.path :: seen) <;> rfl
  · intro empty
    cases empty

theorem hcl_rules_blocks (rules : List Rule) (blocks : List (Bool × List Str)) (seen : List Str) (fuel : Nat)
    (same : List.Forall₂ (fun entry block => ∀ name, name ∈ entry.capabilities ↔ name ∈ block.2) rules blocks)
    (valid : ∀ entry ∈ rules, ValidRule entry) (distinct : (rules.map Rule.path).Nodup)
    (fresh : ∀ entry ∈ rules, entry.path ∉ seen) (enough : rules.length < fuel) :
    hclRules fuel ((rules.zip blocks).flatMap fun pair => blockLexemes pair.2.1 pair.1.path pair.2.2) seen =
      .ok rules := by
  induction same generalizing seen fuel with
  | nil =>
    obtain ⟨fuel, rfl⟩ : ∃ less, fuel = less + 1 := ⟨fuel - 1, by simp at enough; omega⟩
    rfl
  | @cons entry block rules blocks first _ ih =>
    obtain ⟨fuel, rfl⟩ : ∃ less, fuel = less + 1 := ⟨fuel - 1, by omega⟩
    rw [map_cons, nodup_cons] at distinct
    rw [length_cons] at enough
    have later := ih (entry.path :: seen) fuel (fun other listed => valid other (mem_cons_of_mem _ listed)) distinct.2
      (fun other listed => by
        rw [mem_cons, not_or]
        exact ⟨fun repeated => distinct.1 (repeated ▸ mem_map_of_mem listed), fresh other (mem_cons_of_mem _ listed)⟩)
      (by omega)
    rw [zip_cons_cons, flatMap_cons, hcl_rules_block _ _ _ _ _ _ (valid entry mem_cons_self) first
      (fresh entry mem_cons_self), later]
    rfl

end Rendering

section Repeats

def nextText : List Lex → List Str
  | .string text :: _ => [text]
  | _ => []

def declared : List Lex → List Str
  | [] => []
  | lexeme :: rest => (if lexeme = .word (str "path") then nextText rest else []) ++ declared rest

theorem take_lex_ok {wanted : Lex} {lexemes rest : List Lex} (taken : takeLex wanted lexemes = .ok rest) :
    lexemes = wanted :: rest := by
  cases lexemes with
  | nil => cases taken
  | cons lexeme =>
    rw [takeLex] at taken
    by_cases same : lexeme = wanted
    · rw [if_pos same] at taken
      cases taken
      rw [same]
    · rw [if_neg same] at taken
      cases taken

theorem take_text_ok (lexemes : List Lex) (taken : Str × List Lex) (found : takeText lexemes = .ok taken) :
    lexemes = .string taken.1 :: taken.2 := by
  cases lexemes with
  | nil => cases found
  | cons lexeme =>
    cases lexeme with
    | string =>
      cases found
      rfl
    | word | symbol => cases found

def wordless (lexeme : Lex) : Bool :=
  match lexeme with
  | .word _ => false
  | _ => true

theorem declared_wordless (used rest : List Lex) (plain : used.all wordless = true) : declared (used ++ rest) =
    declared rest := by
  induction used with
  | nil => rfl
  | cons lexeme _ ih =>
    rw [all_cons, Bool.and_eq_true] at plain
    have differs : lexeme ≠ .word (str "path") := by
      intro same
      rw [same] at plain
      cases plain.1
    rw [cons_append, declared, if_neg differs, nil_append, ih plain.2]

theorem take_capabilities_ok (fuel : Nat) (lexemes : List Lex) (start : Names) (taken : Names × List Lex)
    (found : takeCapabilities fuel lexemes start = .ok taken) : ∃ used, lexemes = used ++ taken.2 ∧
      used.all wordless = true := by
  induction fuel generalizing lexemes start with
  | zero =>
    cases found
    exact ⟨[], rfl, rfl⟩
  | succ _ ih =>
    rw [takeCapabilities] at found
    obtain ⟨text, read, found⟩ := bind_ok found
    rw [take_text_ok _ _ read]
    by_cases last : text.2.head? ≠ some (.symbol 44)
    · rw [if_pos last] at found
      cases found
      exact ⟨[.string text.1], rfl, rfl⟩
    · rw [if_neg last] at found
      obtain ⟨rest, shape⟩ := head?_eq_some_iff.mp (not_not.mp last)
      rw [shape] at found ⊢
      by_cases closes : (Lex.symbol 44 :: rest).tail.head? = some (.symbol 93)
      · rw [if_pos closes] at found
        cases found
        exact ⟨[.string text.1, .symbol 44], rfl, rfl⟩
      · rw [if_neg closes] at found
        obtain ⟨used, split, plain⟩ := ih _ _ found
        rw [tail_cons] at split
        exact ⟨.string text.1 :: .symbol 44 :: used, by rw [split]; rfl, plain⟩

theorem take_list_ok (lexemes : List Lex) (taken : Names × List Lex) (found : takeList lexemes = .ok taken) :
    ∃ used, lexemes = used ++ taken.2 ∧ used.all wordless = true := by
  rw [takeList] at found
  by_cases empty : lexemes.head? = some (.symbol 93)
  · rw [if_pos empty] at found
    cases found
    exact ⟨[], rfl, rfl⟩
  · rw [if_neg empty] at found
    exact take_capabilities_ok _ _ _ _ found

-- Each accepted block names one path, and it is new.
theorem hcl_rules_ok (fuel : Nat) (lexemes : List Lex) (seen : List Str) (rules : List Rule)
    (enough : lexemes.length < fuel)
    (parsed : hclRules fuel lexemes seen = .ok rules) : (declared lexemes).Nodup ∧ ∀ path ∈ declared lexemes,
      path ∉ seen := by
  induction fuel generalizing lexemes seen rules with
  | zero => omega
  | succ fuel ih =>
    cases lexemes with
    | nil => exact ⟨nodup_nil, fun path listed => absurd listed (by simp [declared])⟩
    | cons _ lexemes =>
      rw [hclRules] at parsed
      · obtain ⟨_, took, parsed⟩ := bind_ok parsed
        cases take_lex_ok took
        obtain ⟨named, text, parsed⟩ := bind_ok parsed
        have first := take_text_ok _ _ text
        by_cases known : named.1 ∈ seen
        · rw [if_pos known] at parsed
          cases parsed
        · rw [if_neg known] at parsed
          obtain ⟨_, brace, parsed⟩ := bind_ok parsed
          obtain ⟨_, field, parsed⟩ := bind_ok parsed
          obtain ⟨_, equal, parsed⟩ := bind_ok parsed
          obtain ⟨_, bracket, parsed⟩ := bind_ok parsed
          obtain ⟨_, capable, parsed⟩ := bind_ok parsed
          obtain ⟨_, closed, parsed⟩ := bind_ok parsed
          obtain ⟨rest, ended, parsed⟩ := bind_ok parsed
          obtain ⟨_, _, parsed⟩ := bind_ok parsed
          obtain ⟨others, later, _⟩ := bind_ok parsed
          obtain ⟨used, split, plain⟩ := take_list_ok _ _ capable
          rw [take_lex_ok closed, take_lex_ok ended] at split
          rw [take_lex_ok brace, take_lex_ok field, take_lex_ok equal, take_lex_ok bracket, split] at first
          have paths : declared (.word (str "path") :: lexemes) = named.1 :: declared rest := by
            have inner := declared_wordless (used ++ [.symbol 93, .symbol 125]) rest (by rw [all_append, plain]; rfl)
            rw [append_assoc] at inner
            rw [first, declared, if_pos rfl, nextText, singleton_append]
            exact congrArg _ inner
          have shorter : rest.length < fuel := by
            rw [length_cons, first] at enough
            simp only [length_cons, length_append] at enough
            omega
          obtain ⟨distinct, fresh⟩ := ih rest _ others shorter later
          rw [paths]
          refine ⟨nodup_cons.mpr ⟨fun listed => fresh _ listed mem_cons_self, distinct⟩, fun path listed => ?_⟩
          cases mem_cons.mp listed with
          | inl same => rw [same]; exact known
          | inr other => exact fun old => fresh path other (mem_cons_of_mem _ old)
      · intro empty
        cases empty

theorem declared_sublist (front rest : List Lex) : (declared rest).Sublist (declared (front ++ rest)) := by
  induction front with
  | nil => exact .refl _
  | cons _ _ ih => exact ih.trans (sublist_append_right _ _)

theorem declared_twice (path : Str) (front middle back : List Lex) :
    ¬ (declared (front ++ .word (str "path") :: .string path ::
      (middle ++ .word (str "path") :: .string path :: back))).Nodup := by
  intro distinct
  have inner := (declared_sublist front _).nodup distinct
  have later := declared_sublist middle (.word (str "path") :: .string path :: back)
  have repeated : path ∈ declared (middle ++ .word (str "path") :: .string path :: back) :=
    later.subset (mem_cons_self)
  exact (nodup_cons.mp inner).1 repeated

end Repeats

section Json

def jsonEntry (entry : Rule × List Str) : Bytes × Value :=
  (entry.1.path, .object [(str "capabilities", .ofStrings entry.2)])

-- The JSON text of a policy: the members and each list in any order.
def Json (lib : Library) (rules : List Rule) (text : Bytes) : Prop :=
  ∃ entries : List (Rule × List Str), (entries.map Prod.fst).Perm rules ∧
    (∀ entry ∈ entries, ∀ name, name ∈ entry.1.capabilities ↔ name ∈ entry.2) ∧ (trim text).head? = some 123 ∧
    lib.readJson (trim text) = some (.object [(str "path", .object (entries.map jsonEntry))])

theorem strings_all (flaw : AuthError) (names : List Str) : strings flaw (names.map .string) = .ok names := by
  induction names with
  | nil => rfl
  | cons _ _ ih =>
    rw [map_cons, strings, ih]
    rfl

theorem json_rules_entries (entries : List (Rule × List Str)) (valid : ∀ entry ∈ entries, ValidRule entry.1)
    (same : ∀ entry ∈ entries, ∀ name, name ∈ entry.1.capabilities ↔ name ∈ entry.2) :
    jsonRules (entries.map jsonEntry) = .ok (entries.map Prod.fst) := by
  induction entries with
  | nil => rfl
  | cons entry _ ih =>
    have later := ih (fun other listed => valid other (mem_cons_of_mem _ listed))
      (fun other listed => same other (mem_cons_of_mem _ listed))
    have set : ExtTreeSet.ofList entry.2 = entry.1.capabilities := by
      apply ExtTreeSet.ext_mem
      intro name
      rw [ExtTreeSet.mem_ofList, contains_iff_mem, same entry mem_cons_self]
    have known : rejectUnknown (.object [(str "capabilities", .ofStrings entry.2)]) ["capabilities"] = .ok () := by
      simp [rejectUnknown, Value.asObject]
    have field : ((Value.object [(str "capabilities", .ofStrings entry.2)]).get (str "capabilities")).bind Value.asArray =
        some (entry.2.map .string) := by
      simp [Value.get, Value.ofStrings, Value.asArray]
    rw [map_cons, jsonEntry, jsonRules, known]
    simp only [ok_bind, field, strings_all, set, rule_valid entry.1 (valid entry mem_cons_self), later]
    rfl

theorem strict_single (name : Bytes) (value read : Value) (fixed : strict value = some read) :
    strict (.object [(name, value)]) = some (.object [(name, read)]) := by
  rw [strict, strictMembers, strictMembers, fixed]
  rfl

theorem strict_entries (entries : List (Rule × List Str)) (distinct : (entries.map fun entry => entry.1.path).Nodup) :
    ∃ sorted : List (Rule × List Str), sorted.Perm entries ∧
      strict (.object [(str "path", .object (entries.map jsonEntry))]) =
        some (.object [(str "path", .object (sorted.map jsonEntry))]) := by
  have fixed : ∀ member ∈ entries.map jsonEntry, strict member.2 = some member.2 := by
    intro member listed
    obtain ⟨entry, _, rfl⟩ := mem_map.mp listed
    exact strict_single _ _ _ (strict_strings entry.2)
  obtain ⟨members, read, same⟩ := strict_members_perm (entries.map jsonEntry) fixed (by rw [map_map]; exact distinct)
  have sorted : Relation.Comp (· = List.map jsonEntry ·) List.Perm members entries := by
    rw [eq_map_comp_perm]
    exact same
  obtain ⟨sorted, rfl, reordered⟩ := sorted
  refine ⟨sorted, reordered, strict_single _ _ _ ?_⟩
  rw [strict, read]
  rfl

end Json

section Parsing

variable (lib : Library)

theorem parse_policy_text (text : Str) (rules : List Rule) (short : text.length ≤ 256 * 1024)
    (few : rules.length ≤ 4096)
    (parsed : (if (trim text).head? = some 123 then jsonPolicy lib (trim text) else hclPolicy lib (trim text)) =
      .ok rules) :
    parsePolicy lib (.string text) = .ok ⟨text, rules⟩ := by
  have source : (Value.string text).asStr.getD (lib.writeJson (.string text)) = text := rfl
  simp only [parsePolicy, source, if_neg (Nat.not_lt.mpr short)]
  by_cases json : (trim text).head? = some 123
  · rw [if_pos json] at parsed ⊢
    rw [parsed, ok_bind, if_neg (Nat.not_lt.mpr few)]
  · rw [if_neg json] at parsed ⊢
    rw [parsed, ok_bind, if_neg (Nat.not_lt.mpr few)]

theorem parse_policy_rules {text : Str} {policy : Policy} (parsed : parsePolicy lib (.string text) = .ok policy) :
    (if (trim text).head? = some 123 then jsonPolicy lib (trim text) else hclPolicy lib (trim text)) =
      .ok policy.rules := by
  have source : (Value.string text).asStr.getD (lib.writeJson (.string text)) = text := rfl
  simp only [parsePolicy, source] at parsed
  by_cases long : 256 * 1024 < text.length
  · rw [if_pos long] at parsed
    cases parsed
  · rw [if_neg long] at parsed
    by_cases json : (trim text).head? = some 123
    all_goals
      simp only [json, if_true, if_false] at parsed ⊢
      obtain ⟨rules, read, parsed⟩ := bind_ok parsed
      by_cases many : 4096 < rules.length
      · rw [if_pos many] at parsed
        cases parsed
      · rw [if_neg many] at parsed
        cases parsed
        exact read

theorem hcl_policy_renders (rules : List Rule) (text : Bytes) (renders : Hcl lib rules text)
    (valid : ∀ entry ∈ rules, ValidRule entry) (distinct : (rules.map Rule.path).Nodup) :
      hclPolicy lib text = .ok rules := by
  obtain ⟨blocks, same, lexed⟩ := lex_rendering rules text renders
  rw [hclPolicy, ← lexAll, lexed, ok_bind]
  apply hcl_rules_blocks rules blocks [] _ same valid distinct (fun _ _ => not_mem_nil)
  have long : ∀ pairs : List (Rule × Bool × List Str),
      pairs.length ≤ (pairs.flatMap fun pair => blockLexemes pair.2.1 pair.1.path pair.2.2).length := by
    intro pairs
    induction pairs with
    | nil => rfl
    | cons pair =>
      have filled : 0 < (blockLexemes pair.2.1 pair.1.path pair.2.2).length := by simp [blockLexemes]
      rw [flatMap_cons, length_append, length_cons]
      omega
  have each := long (rules.zip blocks)
  rw [length_zip, ← same.length_eq, Nat.min_self] at each
  omega

theorem json_policy_renders {rules : List Rule} {text : Bytes} {entries : List (Rule × List Str)}
    (listed : (entries.map Prod.fst).Perm rules)
    (same : ∀ entry ∈ entries, ∀ name, name ∈ entry.1.capabilities ↔ name ∈ entry.2)
    (read : lib.readJson text = some (.object [(str "path", .object (entries.map jsonEntry))]))
    (valid : ∀ entry ∈ rules, ValidRule entry) (distinct : (rules.map Rule.path).Nodup) :
    ∃ sorted, jsonPolicy lib text = .ok sorted ∧ sorted.Perm rules := by
  have paths : (entries.map fun entry => entry.1.path).Nodup := by
    have moved := (listed.map Rule.path).nodup_iff.mpr distinct
    rwa [map_map] at moved
  obtain ⟨sorted, reordered, stricter⟩ := strict_entries entries paths
  have rules' := json_rules_entries sorted
    (fun entry member => valid entry.1 (listed.mem_iff.mp (mem_map_of_mem (reordered.mem_iff.mp member))))
    (fun entry member => same entry (reordered.mem_iff.mp member))
  refine ⟨sorted.map Prod.fst, ?_, (reordered.map Prod.fst).trans listed⟩
  have parsed : parseStrictJson lib text = .ok (.object [(str "path", .object (sorted.map jsonEntry))]) := by
    rw [parseStrictJson, read, Option.bind_some, stricter]
  have known : rejectUnknown (.object [(str "path", .object (sorted.map jsonEntry))]) ["path"] = .ok () := by
    simp [rejectUnknown, Value.asObject]
  have field : ((Value.object [(str "path", .object (sorted.map jsonEntry))]).get (str "path")).bind Value.asObject =
      some (sorted.map jsonEntry) := by
    simp [Value.get, Value.asObject]
  rw [jsonPolicy, parsed, ok_bind, known, ok_bind, field]
  exact rules'

theorem hcl_policy_repeats {text : Bytes} {path : Str} {front middle back : List Lex} (rules : List Rule)
    (lexed : lexHcl lib (text.length + 1) text =
      .ok (front ++ .word (str "path") :: .string path :: (middle ++ .word (str "path") :: .string path :: back))) :
    hclPolicy lib text ≠ .ok rules := by
  intro parsed
  rw [hclPolicy, lexed, ok_bind] at parsed
  exact declared_twice path front middle back (hcl_rules_ok _ _ _ _ (Nat.lt_succ_self _) parsed).1

theorem json_policy_repeats {text : Bytes} {members paths : List (Bytes × Value)} (rules : List Rule)
    (read : lib.readJson text = some (.object members)) (listed : (str "path", .object paths) ∈ members)
    (repeats : ¬ (paths.map Prod.fst).Nodup) : jsonPolicy lib text ≠ .ok rules := by
  intro parsed
  obtain ⟨_, strictly, _⟩ := bind_ok parsed
  have refused : strict (.object paths) = none := by
    rw [strict, strict_members_repeats paths repeats]
    rfl
  have unread : strict (.object members) = none := by
    rw [strict, strict_members_refused members _ listed refused]
    rfl
  rw [parseStrictJson, read, Option.bind_some, unread] at strictly
  cases strictly

end Parsing

/-- A text of valid rules parses to them in either syntax, and one that repeats a path is refused. -/
theorem policy_text_round_trip (lib : Library) :
    (∀ (rules : List Rule) (text : Str), (rules.map Rule.path).Nodup → (∀ entry ∈ rules, ValidRule entry) →
      rules.length ≤ 4096 →
      text.length ≤ 256 * 1024 → (Hcl lib rules text → parsePolicy lib (.string text) = .ok ⟨text, rules⟩) ∧
      (Json lib rules text → ∃ read, parsePolicy lib (.string text) = .ok ⟨text, read⟩ ∧ read.Perm rules)) ∧
    (∀ (text path : Str) (front middle back : List Lex), (trim text).head? ≠ some 123 →
      lexHcl lib ((trim text).length + 1) (trim text) =
        .ok (front ++ .word (str "path") :: .string path :: (middle ++ .word (str "path") :: .string path :: back)) →
      ∀ policy, parsePolicy lib (.string text) ≠ .ok policy) ∧
        (∀ (text : Str) (members paths : List (Bytes × Value)), (trim text).head? = some 123 →
      lib.readJson (trim text) = some (.object members) → (str "path", .object paths) ∈ members →
      ¬ (paths.map Prod.fst).Nodup → ∀ policy, parsePolicy lib (.string text) ≠ .ok policy) := by
  refine ⟨fun rules text distinct valid few short => ⟨fun renders => ?_, fun renders => ?_⟩,
    fun text path front middle back plain lexed policy parsed => ?_, fun text members paths json read listed repeats policy parsed => ?_⟩
  · have trimmed := hcl_trim rules text renders
    apply parse_policy_text lib text rules short few
    rw [if_neg (hcl_head rules _ trimmed)]
    exact hcl_policy_renders lib rules _ trimmed valid distinct
  · obtain ⟨entries, listed, same, json, read⟩ := renders
    obtain ⟨sorted, parsed, reordered⟩ := json_policy_renders lib listed same read valid distinct
    refine ⟨sorted, parse_policy_text lib text sorted short (by rw [reordered.length_eq]; exact few) ?_, reordered⟩
    rw [if_pos json]
    exact parsed
  · have read := parse_policy_rules lib parsed
    rw [if_neg plain] at read
    exact hcl_policy_repeats lib _ lexed read
  · have read' := parse_policy_rules lib parsed
    rw [if_pos json] at read'
    exact json_policy_repeats lib _ read listed repeats read'

-- A commented block with an escaped path and a trailing comma, and the same as JSON.
def hclSample : Str := str " # team\npath \"team\\/*\" \x7b /* list */ capabilities = [\"read\", \"list\",]\x7d // end"

def jsonSample : Str := str "\x7b\"path\":\x7b\"team/*\":\x7b\"capabilities\":[\"list\",\"read\"]\x7d\x7d\x7d\n"

def sampleRule : Rule := ⟨str "team/*", ExtTreeSet.ofList [str "read", str "list"]⟩

def sampleLibrary : Library := standIn ⟨[], [], [(str "\"team\\/*\"", .string (str "team/*")), (str "\"read\"", .string (str "read")),
  (str "\"list\"", .string (str "list")), (trim jsonSample, .object [(str "path", .object [(str "team/*",
    .object [(str "capabilities", .ofStrings [str "list", str "read"])])])])], []⟩

theorem escaped_text {text rest : Bytes} (free : ∀ byte ∈ text, byte ≠ 34 ∧ byte ≠ 92) (after : Escaped rest) :
    Escaped (text ++ rest) := by
  induction text with
  | nil => exact after
  | cons byte _ ih =>
    obtain ⟨quote, slash⟩ := free byte mem_cons_self
    exact .plain byte _ quote slash (ih fun other listed => free other (mem_cons_of_mem _ listed))

theorem sample_block : Block sampleLibrary sampleRule
    (str "path \"team\\/*\" \x7b /* list */ capabilities = [\"read\", \"list\",]\x7d") := by
  have blank : Gap false [32] := .space 32 [] rfl .none
  have read : Quotes sampleLibrary (str "read") (str "\"read\"") :=
    ⟨str "read", by decide +kernel, @escaped_text (str "read") [] (by decide +kernel) .none, rfl⟩
  have list : Quotes sampleLibrary (str "list") (str "\"list\"") :=
    ⟨str "list", by decide +kernel, @escaped_text (str "list") [] (by decide +kernel) .none, rfl⟩
  have path : Quotes sampleLibrary (str "team/*") (str "\"team\\/*\"") :=
    ⟨str "team\\/*", by decide +kernel, @escaped_text (str "team") _ (by decide +kernel) (.pair 47 _ (@escaped_text [42] [] (by simp) .none)),
      rfl⟩
  have names : Listing sampleLibrary true [str "read", str "list"] _ :=
    .more _ _ [] _ [] [32] _ read .none blank (.comma _ _ [] [] rfl list .none .none)
  have comment : Gap false (str " /* list */ ") := .space 32 _ rfl (.block (str " list ") [32] (by decide +kernel) blank)
  have block := @Block.intro sampleLibrary sampleRule _ _ _ _ [32] [32] (str " /* list */ ") [32] [32] [] [] path names
    (fun name => by rw [sampleRule, ExtTreeSet.mem_ofList, contains_iff_mem]) (by simp [blank, comment, Gap.none])
  convert block using 1
  decide +kernel

theorem policy_text_round_trip_sample : parsePolicy sampleLibrary (.string hclSample) = .ok ⟨hclSample, [sampleRule]⟩ ∧
    ∃ read, parsePolicy sampleLibrary (.string jsonSample) = .ok ⟨jsonSample, read⟩ ∧ read.Perm [sampleRule] := by
  have valid : ∀ entry ∈ [sampleRule], ValidRule entry := by
    intro entry listed
    rw [mem_singleton.mp listed]
    refine ⟨by decide +kernel, fun name member => ?_⟩
    have named := ExtTreeSet.mem_ofList.mp member
    rw [contains_iff_mem] at named
    clear member
    revert name
    decide +kernel
  have renders : Hcl sampleLibrary [sampleRule] hclSample := by
    have gap : Gap false (str " # team\n") := .space 32 _ rfl (.line [35] (str " team") [] (.inl rfl) (by decide +kernel) .none)
    have ending : Gap true (str " // end") := .space 32 _ rfl (.unended [47, 47] (str " end") rfl (.inr rfl) (by decide +kernel))
    convert Hcl.rule sampleRule [] _ _ _ gap sample_block (.none _ ending) using 1
    decide +kernel
  have reads : Json sampleLibrary [sampleRule] jsonSample := ⟨[(sampleRule, [str "list", str "read"])], .refl _, fun entry listed name => by
      rw [mem_singleton.mp listed, sampleRule, ExtTreeSet.mem_ofList, contains_iff_mem]
      simp [or_comm], by decide +kernel, rfl⟩
  have round := (policy_text_round_trip sampleLibrary).1 [sampleRule]
  exact ⟨(round hclSample (by decide) valid (by decide) (by decide +kernel)).1 renders,
    (round jsonSample (by decide) valid (by decide) (by decide +kernel)).2 reads⟩

end HeptaBao.Auth
