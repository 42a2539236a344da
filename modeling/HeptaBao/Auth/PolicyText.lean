import HeptaBao.Auth.PolicyRoute

namespace HeptaBao.Auth

open Wire Std Durable List

-- White space and comments. Only the last line comment may lack its line feed.
inductive Gap (final : Bool) : Bytes → Prop where
  | none : Gap final []
  | space (byte : UInt8) (rest : Bytes) (blank : asciiWhitespace byte = true) (after : Gap final rest) : Gap final (byte :: rest)
  | line (opener text rest : Bytes) (opens : opener = [35] ∨ opener = [47, 47]) (within : 10 ∉ text) (after : Gap final rest) :
      Gap final (opener ++ text ++ 10 :: rest)
  | block (text rest : Bytes) (within : ¬ [42, 47] <:+: text) (after : Gap final rest) :
      Gap final (47 :: 42 :: text ++ 42 :: 47 :: rest)
  | unended (opener text : Bytes) (last : final = true) (opens : opener = [35] ∨ opener = [47, 47]) (within : 10 ∉ text) :
      Gap final (opener ++ text)

-- The inside of a JSON string literal: a backslash takes the byte after it along.
inductive Escaped : Bytes → Prop where
  | none : Escaped []
  | plain (byte : UInt8) (rest : Bytes) (open' : byte ≠ 34) (free : byte ≠ 92) (after : Escaped rest) : Escaped (byte :: rest)
  | pair (byte : UInt8) (rest : Bytes) (after : Escaped rest) : Escaped (92 :: byte :: rest)

def Quotes (lib : Library) (text literal : Bytes) : Prop :=
  ∃ body, literal = 34 :: (body ++ [34]) ∧ Escaped body ∧ lib.readJson literal = some (.string text)

-- What stands between the brackets of a capability list, after the first gap.
inductive Listing (lib : Library) (trailing : Bool) : List Str → Bytes → Prop where
  | none : Listing lib trailing [] []
  | last (name : Str) (literal gap : Bytes) (open' : trailing = false) (quotes : Quotes lib name literal) (blank : Gap false gap) :
      Listing lib trailing [name] (literal ++ gap)
  | comma (name : Str) (literal gap after : Bytes) (closed : trailing = true) (quotes : Quotes lib name literal)
      (blank : Gap false gap) (blank' : Gap false after) : Listing lib trailing [name] (literal ++ (gap ++ 44 :: after))
  | more (name next : Str) (names : List Str) (literal gap after text : Bytes) (quotes : Quotes lib name literal)
      (blank : Gap false gap) (blank' : Gap false after) (rest : Listing lib trailing (next :: names) text) :
      Listing lib trailing (name :: next :: names) (literal ++ (gap ++ 44 :: (after ++ text)))

-- An HCL block: its list may name capabilities in any order and repeatedly.
inductive Block (lib : Library) (rule : Rule) : Bytes → Prop where
  | intro (names : List Str) (trailing : Bool) (path list first second third fourth fifth sixth seventh : Bytes)
      (quotes : Quotes lib rule.path path) (lists : Listing lib trailing names list)
      (same : ∀ name, name ∈ rule.capabilities ↔ name ∈ names)
      (gaps : ∀ gap ∈ [first, second, third, fourth, fifth, sixth, seventh], Gap false gap) :
      Block lib rule (str "path" ++ (first ++ (path ++ (second ++ (123 :: (third ++ (str "capabilities" ++ (fourth ++ (61 ::
        (fifth ++ (91 :: (sixth ++ (list ++ (93 :: (seventh ++ [125])))))))))))))))

inductive Hcl (lib : Library) : List Rule → Bytes → Prop where
  | none (gap : Bytes) (blank : Gap true gap) : Hcl lib [] gap
  | rule (rule : Rule) (rules : List Rule) (gap block text : Bytes) (blank : Gap false gap) (shape : Block lib rule block)
      (rest : Hcl lib rules text) : Hcl lib (rule :: rules) (gap ++ (block ++ text))

section Lexing

variable (lib : Library)

def lexAll (text : Bytes) : Except AuthError (List Lex) := lexHcl lib (text.length + 1) text

theorem drop_while_length (keep : UInt8 → Bool) (text : Bytes) : (text.dropWhile keep).length ≤ text.length :=
  (dropWhile_suffix keep).length_le

theorem skip_comment_length (text after : Bytes) (skipped : skipComment text = some after) :
    after.length < text.length := by
  fun_induction skipComment text with
  | case1 rest =>
    cases skipped
    simp
  | case2 byte second rest _ ih =>
    have shorter := ih skipped
    simp only [length_cons] at shorter ⊢
    omega
  | case3 => cases skipped

theorem quoted_length (escaped : Bool) (text body after : Bytes) (found : quoted escaped text = some (body, after)) :
    after.length < text.length := by
  induction text generalizing escaped body with
  | nil => cases found
  | cons byte _ ih =>
    rw [quoted] at found
    by_cases closes : byte = 34 ∧ escaped = false
    · rw [if_pos closes] at found
      cases found
      simp
    · rw [if_neg closes] at found
      obtain ⟨parts, inner, split⟩ := Option.map_eq_some_iff.mp found
      cases split
      have shorter := ih _ parts.1 inner
      simp only [length_cons]
      omega

theorem lex_fuel (text : Bytes) (less more : Nat) (enough : text.length < less) (enough' : text.length < more) :
    lexHcl lib less text = lexHcl lib more text := by
  induction less generalizing text more with
  | zero => omega
  | succ less ih =>
    obtain ⟨more, rfl⟩ : ∃ rest, more = rest + 1 := ⟨more - 1, by omega⟩
    cases text with
    | nil => rfl
    | cons _ rest =>
      have again : ∀ left : Bytes, left.length ≤ rest.length → lexHcl lib less left = lexHcl lib more left := by
        intro left shorter
        simp only [length_cons] at enough enough'
        exact ih left more (by omega) (by omega)
      have commented : ∀ after, skipComment rest.tail = some after → lexHcl lib less after = lexHcl lib more after := by
        intro after skipped
        have shorter := skip_comment_length _ _ skipped
        rw [length_tail] at shorter
        exact again after (by omega)
      have closed : ∀ body after, quoted false rest = some (body, after) → lexHcl lib less after = lexHcl lib more after := by
        intro body after found
        exact again after (quoted_length _ _ _ _ found).le
      simp only [lexHcl]
      rw [again rest le_rfl, again _ (drop_while_length _ _), again _ (drop_while_length _ _)]
      cases skipped : skipComment rest.tail with
      | none =>
        cases found : quoted false rest with
        | none => rfl
        | some parts => simp only [closed parts.1 parts.2 found]
      | some after =>
        simp only [commented after skipped]
        cases found : quoted false rest with
        | none => rfl
        | some parts => simp only [closed parts.1 parts.2 found]

theorem lex_all_fuel {text : Bytes} {fuel : Nat} (enough : text.length < fuel) :
    lexHcl lib fuel text = lexAll lib text :=
  lex_fuel lib text _ _ enough (Nat.lt_succ_self _)

-- The text adds these lexemes to whatever follows it.
def Spells (text : Bytes) (lexemes : List Lex) : Prop :=
  ∀ rest, lexAll lib (text ++ rest) = (lexAll lib rest).map (lexemes ++ ·)

variable {lib}

theorem spells_none : Spells lib [] [] := by
  intro rest
  cases lexed : lexAll lib rest <;> simp [lexed, Except.map]

theorem spells_append {text text' : Bytes} {lexemes lexemes' : List Lex} (first : Spells lib text lexemes)
    (second : Spells lib text' lexemes') : Spells lib (text ++ text') (lexemes ++ lexemes') := by
  intro rest
  rw [append_assoc, first, second]
  cases lexAll lib rest <;> simp [Except.map]

theorem lex_space (byte : UInt8) (rest : Bytes) (blank : asciiWhitespace byte = true) : lexAll lib (byte :: rest) =
    lexAll lib rest := by
  simp only [lexAll, lexHcl, if_pos blank, length_cons]

theorem spells_symbol (byte : UInt8) (symbol : byte ∈ hclSymbols) : Spells lib [byte] [.symbol byte] := by
  intro rest
  have plain : ∀ byte ∈ hclSymbols, asciiWhitespace byte = false ∧ byte ≠ 35 ∧ byte ≠ 47 := by simp [hclSymbols, asciiWhitespace]
  obtain ⟨visible, hash, slash⟩ := plain byte symbol
  simp [lexAll, lexHcl, visible, hash, slash, symbol]

theorem lex_line (opener text : Bytes) (opens : opener = [35] ∨ opener = [47, 47]) :
    lexAll lib (opener ++ text) = lexAll lib (text.dropWhile (· != 10)) := by
  have shorter : (text.dropWhile (· != 10)).length < text.length + 1 := Nat.lt_succ_of_le (drop_while_length _ text)
  cases opens with
  | inl hash =>
    subst hash
    rw [← lex_all_fuel lib shorter]
    simp [lexAll, lexHcl, asciiWhitespace]
  | inr slashes =>
    subst slashes
    rw [← lex_all_fuel lib (Nat.lt_succ_of_lt shorter)]
    simp [lexAll, lexHcl, asciiWhitespace]

theorem skip_comment_text (text rest : Bytes) (within : ¬ [42, 47] <:+: text) :
    skipComment (text ++ 42 :: 47 :: rest) = some rest := by
  induction text with
  | nil => rfl
  | cons byte text ih =>
    have inner : ¬ [42, 47] <:+: text := fun found => within (found.trans (suffix_cons byte text).isInfix)
    have again := ih inner
    have open' : ¬ (byte = 42 ∧ (text ++ 42 :: 47 :: rest).head? = some 47) := by
      intro both
      cases text with
      | nil => simp at both
      | cons second text =>
        have next : second = 47 := by simpa using both.2
        refine within ?_
        rw [both.1, next]
        exact ⟨[], text, rfl⟩
    cases joined : text ++ 42 :: 47 :: rest with
    | nil => simp at joined
    | cons =>
      rw [joined] at again open'
      rw [cons_append, joined, skipComment]
      · exact again
      · intro star slash
        exact open' ⟨star, by rw [slash]; rfl⟩

theorem lex_block (text rest : Bytes) (within : ¬ [42, 47] <:+: text) :
    lexAll lib (47 :: 42 :: text ++ 42 :: 47 :: rest) = lexAll lib rest := by
  rw [← @lex_all_fuel lib rest ((42 :: text ++ 42 :: 47 :: rest).length + 1) (by simp; omega)]
  have skipped := skip_comment_text text rest within
  simp [lexAll, lexHcl, asciiWhitespace, skipped]

theorem drop_to_feed (text rest : Bytes) (within : 10 ∉ text) : (text ++ 10 :: rest).dropWhile (· != 10) =
    10 :: rest := by
  rw [dropWhile_append_of_pos]
  · rfl
  · intro byte listed
    exact bne_iff_ne.mpr fun feed => within (feed ▸ listed)

theorem spells_gap (gap : Bytes) (blank : Gap false gap) : Spells lib gap [] := by
  intro rest
  rw [show (([] : List Lex) ++ ·) = id from rfl, show (lexAll lib rest).map id = lexAll lib rest by cases lexAll lib rest <;> rfl]
  induction blank with
  | none => rfl
  | space byte _ blank _ ih => rw [cons_append, lex_space byte _ blank, ih]
  | line _ _ _ opens within _ ih =>
    rw [append_assoc, append_assoc, lex_line _ _ opens, cons_append, drop_to_feed _ _ within, lex_space 10 _ rfl, ih]
  | block text after within _ ih =>
    have joined : (47 :: 42 :: text ++ 42 :: 47 :: after) ++ rest = 47 :: 42 :: text ++ 42 :: 47 :: (after ++ rest) := by simp
    rw [joined, lex_block _ _ within, ih]
  | unended _ _ last => cases last

theorem lex_ending (gap : Bytes) (blank : Gap true gap) : lexAll lib gap = .ok [] := by
  induction blank with
  | none => rfl
  | space byte _ blank _ ih => rw [lex_space byte _ blank, ih]
  | line _ _ _ opens within _ ih =>
    rw [append_assoc, lex_line _ _ opens, drop_to_feed _ _ within, lex_space 10 _ rfl, ih]
  | block _ _ within _ ih => rw [lex_block _ _ within, ih]
  | unended _ text _ opens within =>
    have dropped : text.dropWhile (· != 10) = [] := by
      rw [dropWhile_eq_nil_iff]
      intro byte listed
      exact bne_iff_ne.mpr fun feed => within (feed ▸ listed)
    rw [lex_line _ _ opens, dropped]
    rfl

theorem quoted_body (body rest : Bytes) (escaped : Escaped body) : quoted false (body ++ 34 :: rest) =
    some (body ++ [34], rest) := by
  induction escaped with
  | none => rfl
  | plain byte _ open' free _ ih =>
    have unescaped : (byte == 92) = false := beq_eq_false_iff_ne.mpr free
    simp [quoted, open', unescaped, ih]
  | pair _ _ _ ih => simp [quoted, ih]

theorem spells_quotes {name literal : Bytes} (quotes : Quotes lib name literal) :
    Spells lib literal [.string name] := by
  intro rest
  obtain ⟨body, rfl, escaped, decoded⟩ := quotes
  have found := quoted_body body rest escaped
  rw [← @lex_all_fuel lib rest ((body ++ 34 :: rest).length + 1) (by simp; omega)]
  simp [lexAll, lexHcl, asciiWhitespace, hclSymbols, found, decoded, Value.asStr]

def inWord (byte : UInt8) : Bool := asciiAlphanumeric byte || byte == 95

-- A word ends where a byte stands that no word contains.
def Apart (text : Bytes) : Prop := ∃ byte rest, text = byte :: rest ∧ inWord byte = false

theorem gap_apart (gap rest : Bytes) (blank : Gap false gap) (apart : Apart rest) : Apart (gap ++ rest) := by
  cases blank with
  | none => exact apart
  | space byte _ blank =>
    have blanks : byte = 32 ∨ byte = 9 ∨ byte = 10 ∨ byte = 12 ∨ byte = 13 := by simpa [asciiWhitespace, or_assoc] using blank
    have outside : inWord byte = false := by
      rcases blanks with rfl | rfl | rfl | rfl | rfl <;> decide
    exact ⟨byte, _, rfl, outside⟩
  | line _ _ _ opens =>
    cases opens with
    | inl hash => exact ⟨35, _, by rw [hash]; rfl, by decide⟩
    | inr slashes => exact ⟨47, _, by rw [slashes]; rfl, by decide⟩
  | block => exact ⟨47, _, rfl, by decide⟩
  | unended _ _ last => cases last

theorem spells_word {first : UInt8} {word text : Bytes} {lexemes : List Lex} (letter : asciiAlphabetic first = true)
    (letters : word.all inWord = true) (apart : Apart text) (spelled : Spells lib text lexemes) :
    Spells lib (first :: word ++ text) (.word (first :: word) :: lexemes) := by
  intro rest
  have differs : ∀ other, asciiAlphabetic other = false → first ≠ other := by
    intro other outside same
    rw [same, outside] at letter
    cases letter
  have visible : asciiWhitespace first = false := by
    simp [asciiWhitespace, differs 32 rfl, differs 9 rfl, differs 10 rfl, differs 12 rfl, differs 13 rfl]
  have symbol : first ∉ hclSymbols := by
    simp [hclSymbols, differs 123 rfl, differs 125 rfl, differs 91 rfl, differs 93 rfl, differs 61 rfl, differs 44 rfl]
  have hash := differs 35 rfl
  have slash := differs 47 rfl
  have quote := differs 34 rfl
  obtain ⟨byte, left, rfl, ends⟩ := apart
  have taken : (word ++ (byte :: left ++ rest)).takeWhile inWord = word := by
    rw [takeWhile_append_of_pos (all_eq_true.mp letters)]
    simp [ends]
  have dropped : (word ++ (byte :: left ++ rest)).dropWhile inWord = byte :: left ++ rest := by
    rw [dropWhile_append_of_pos (all_eq_true.mp letters)]
    simp [ends]
  have following := spelled rest
  rw [← @lex_all_fuel lib _ ((word ++ (byte :: left ++ rest)).length + 1) (by simp)] at following
  have shape : (first :: word ++ byte :: left) ++ rest = first :: (word ++ (byte :: left ++ rest)) := by simp
  rw [shape, lexAll, length_cons, lexHcl, if_neg (by simp [visible]), if_neg (by simp [hash, slash]), if_neg (by simp [slash]),
    if_neg symbol, if_neg quote, if_pos (.inl letter)]
  change (lexHcl lib _ ((word ++ (byte :: left ++ rest)).dropWhile inWord)).map
    (.word (first :: (word ++ (byte :: left ++ rest)).takeWhile inWord) :: ·) = _
  rw [taken, dropped, following]
  cases lexAll lib rest <;> rfl

def listLexemes (trailing : Bool) : List Str → List Lex
  | [] => []
  | [name] => if trailing then [.string name, .symbol 44] else [.string name]
  | name :: next :: names => .string name :: .symbol 44 :: listLexemes trailing (next :: names)

def blockLexemes (trailing : Bool) (path : Str) (names : List Str) : List Lex :=
  [.word (str "path"), .string path, .symbol 123, .word (str "capabilities"), .symbol 61, .symbol 91] ++
    (listLexemes trailing names ++ [.symbol 93, .symbol 125])

theorem spells_listing (trailing : Bool) (names : List Str) (text : Bytes) (lists : Listing lib trailing names text) :
    Spells lib text (listLexemes trailing names) := by
  have comma : Spells lib [44] [.symbol 44] := spells_symbol 44 (by decide)
  induction lists with
  | none => exact spells_none
  | last _ _ _ open' quotes blank =>
    rw [listLexemes, open']
    exact spells_append (spells_quotes quotes) (spells_gap _ blank)
  | comma _ _ _ _ closed quotes blank blank' =>
    rw [listLexemes, closed]
    exact spells_append (spells_quotes quotes) (spells_append (spells_gap _ blank)
      (spells_append comma (spells_gap _ blank')))
  | more _ _ _ _ _ _ _ quotes blank blank' _ ih =>
    exact spells_append (spells_quotes quotes) (spells_append (spells_gap _ blank)
      (spells_append comma (spells_append (spells_gap _ blank') ih)))

theorem quotes_apart (name literal rest : Bytes) (quotes : Quotes lib name literal) : Apart (literal ++ rest) := by
  obtain ⟨_, rfl, _⟩ := quotes
  exact ⟨34, _, rfl, by decide⟩

theorem spells_block (rule : Rule) (block : Bytes) (shape : Block lib rule block) :
    ∃ trailing names, (∀ name, name ∈ rule.capabilities ↔ name ∈ names) ∧
      Spells lib block (blockLexemes trailing rule.path names) := by
  obtain ⟨names, trailing, _, _, first, second, third, fourth, fifth, sixth, seventh, quotes, lists, same, gaps⟩ := shape
  have skip : ∀ gap ∈ [first, second, third, fourth, fifth, sixth, seventh], ∀ text lexemes, Spells lib text lexemes →
      Spells lib (gap ++ text) lexemes := fun gap listed text lexemes spelled =>
    @spells_append _ _ _ [] _ (spells_gap _ (gaps gap listed)) spelled
  have symbol : ∀ byte ∈ hclSymbols, ∀ text lexemes, Spells lib text lexemes →
      Spells lib (byte :: text) (.symbol byte :: lexemes) := fun byte listed text lexemes spelled =>
    @spells_append _ [byte] _ [.symbol byte] _ (spells_symbol byte listed) spelled
  have closing : Spells lib (93 :: (seventh ++ [125])) [.symbol 93, .symbol 125] :=
    symbol 93 (by decide) _ _ (skip seventh (by simp) _ _ (spells_symbol 125 (by decide)))
  have listed := spells_append (spells_listing _ _ _ lists) closing
  have opened := symbol 91 (by decide) _ _ (skip sixth (by simp) _ _ listed)
  have equated := symbol 61 (by decide) _ _ (skip fifth (by simp) _ _ opened)
  have capable := @spells_word _ 99 (str "apabilities") _ _ (by decide) (by decide)
    (gap_apart fourth _ (gaps fourth (by simp)) ⟨61, _, rfl, by decide⟩) (skip fourth (by simp) _ _ equated)
  have braced := symbol 123 (by decide) _ _ (skip third (by simp) _ _ capable)
  have named := spells_append (spells_quotes quotes) (skip second (by simp) _ _ braced)
  have whole := @spells_word _ 112 (str "ath") _ _ (by decide) (by decide)
    (gap_apart first _ (gaps first (by simp)) (quotes_apart _ _ _ quotes)) (skip first (by simp) _ _ named)
  exact ⟨trailing, names, same, whole⟩

theorem lex_rendering (rules : List Rule) (text : Bytes) (renders : Hcl lib rules text) :
    ∃ blocks : List (Bool × List Str), List.Forall₂ (fun rule block => ∀ name, name ∈ rule.capabilities ↔
      name ∈ block.2) rules blocks ∧
      lexAll lib text = .ok ((rules.zip blocks).flatMap fun pair => blockLexemes pair.2.1 pair.1.path pair.2.2) := by
  induction renders with
  | none gap blank => exact ⟨[], .nil, lex_ending gap blank⟩
  | rule rule _ gap block _ blank shape _ ih =>
    obtain ⟨blocks, same, lexed⟩ := ih
    obtain ⟨trailing, names, listed, spelled⟩ := spells_block rule block shape
    refine ⟨(trailing, names) :: blocks, .cons listed same, ?_⟩
    rw [spells_gap gap blank, spelled, lexed]
    rfl

end Lexing

section Trimming

theorem white_space_bytes {piece : Bytes} (listed : piece ∈ whiteSpace) :
    piece ≠ [] ∧ (∀ byte ∈ [35, 47, 112, 125], byte ∉ piece) ∧ ∀ byte ∈ piece, asciiWhitespace byte = true →
      piece = [byte] := by
  revert piece
  decide +kernel

theorem suffix_split {rest piece front back : Bytes} {byte : UInt8} (same : rest ++ piece = front ++ byte :: back) :
    (∃ left, back = left ++ piece ∧ rest = front ++ byte :: left) ∨
      byte ∈ piece ∧ ∃ inside, piece = inside ++ byte :: back ∧ front = rest ++ inside := by
  cases append_eq_append_iff.mp same with
  | inl within =>
    obtain ⟨inside, split, whole⟩ := within
    exact .inr ⟨by rw [whole]; simp, inside, whole, split⟩
  | inr beyond =>
    obtain ⟨left, split, whole⟩ := beyond
    cases left with
    | nil => exact .inr ⟨by rw [← nil_append piece, ← whole]; simp, [], whole.symm, by simpa using split.symm⟩
    | cons _ left =>
      cases whole
      exact .inl ⟨left, rfl, split⟩

theorem gap_back (piece rest : Bytes) (listed : piece ∈ whiteSpace) (blank : Gap true (rest ++ piece)) :
    Gap true rest := by
  obtain ⟨filled, absent, single⟩ := white_space_bytes listed
  generalize whole : rest ++ piece = text at blank
  induction blank generalizing rest with
  | none => exact absurd (append_eq_nil_iff.mp whole).2 filled
  | space byte text blank _ ih =>
    cases @suffix_split rest piece [] text byte whole with
    | inl kept =>
      obtain ⟨left, split, rfl⟩ := kept
      exact .space byte left blank (ih left split.symm)
    | inr cut =>
      obtain ⟨member, inside, _, split⟩ := cut
      rw [(append_eq_nil_iff.mp split.symm).1]
      exact .none
  | line opener text _ opens within _ ih =>
    cases suffix_split whole with
    | inl kept =>
      obtain ⟨left, split, rfl⟩ := kept
      exact .line opener text left opens within (ih left split.symm)
    | inr cut =>
      obtain ⟨member, inside, shape, split⟩ := cut
      have feed := single 10 member rfl
      rw [feed] at shape
      cases inside with
      | nil =>
        rw [append_nil] at split
        rw [← split]
        exact .unended opener text rfl opens within
      | cons => simp at shape
  | block text after within _ ih =>
    have shape : 47 :: 42 :: text ++ 42 :: 47 :: after = (47 :: 42 :: text ++ [42]) ++ 47 :: after := by simp
    cases suffix_split (whole.trans shape) with
    | inl kept =>
      obtain ⟨left, split, rfl⟩ := kept
      have block := Gap.block text left within (ih left split.symm)
      simpa using block
    | inr cut => exact absurd cut.1 (absent 47 (by simp))
  | unended _ text _ opens within =>
    cases opens with
    | inl hash =>
      subst hash
      cases @suffix_split rest piece [] text 35 whole with
      | inl kept =>
        obtain ⟨left, rfl, rfl⟩ := kept
        exact .unended [35] left rfl (.inl rfl) fun feed => within (mem_append_left _ feed)
      | inr cut => exact absurd cut.1 (absent 35 (by simp))
    | inr slashes =>
      subst slashes
      cases @suffix_split rest piece [47] text 47 whole with
      | inl kept =>
        obtain ⟨left, rfl, rfl⟩ := kept
        exact .unended [47, 47] left rfl (.inr rfl) fun feed => within (mem_append_left _ feed)
      | inr cut => exact absurd cut.1 (absent 47 (by simp))

theorem gap_front {final : Bool} {piece gap text rest : Bytes} (listed : piece ∈ whiteSpace) (blank : Gap final gap)
    (filled : gap ≠ []) (whole : piece ++ rest = gap ++ text) : ∃ left, Gap final left ∧ rest = left ++ text := by
  obtain ⟨some', absent, single⟩ := white_space_bytes listed
  obtain ⟨first, others, rfl⟩ := exists_cons_of_ne_nil some'
  have comment : ∀ opener : Bytes, opener = [35] ∨ opener = [47, 47] → ∀ after, first :: others ++ rest ≠ opener ++ after := by
    intro opener opens after same
    cases opens with
    | inl hash =>
      rw [hash] at same
      exact absent 35 (by simp) (by simp [(List.cons.inj same).1])
    | inr slashes =>
      rw [slashes] at same
      exact absent 47 (by simp) (by simp [(List.cons.inj same).1])
  cases blank with
  | none => exact absurd rfl filled
  | space _ left blank after =>
    obtain ⟨rfl, tails⟩ := List.cons.inj whole
    have alone := single first (by simp) blank
    cases alone
    exact ⟨left, after, tails⟩
  | line opener _ _ opens =>
    rw [append_assoc, append_assoc] at whole
    exact absurd whole (comment opener opens _)
  | block => exact absurd (by simp [(List.cons.inj whole).1]) (absent 47 (by simp))
  | unended opener _ _ opens =>
    rw [append_assoc] at whole
    exact absurd whole (comment opener opens _)

variable {lib : Library}

theorem block_ends {rule : Rule} {block : Bytes} (shape : Block lib rule block) :
    ∃ inner, block = 112 :: (inner ++ [125]) := by
  obtain ⟨_, _, path, list, first, second, third, fourth, fifth, sixth, seventh⟩ := shape
  exact ⟨str "ath" ++ (first ++ (path ++ (second ++ (123 :: (third ++ (str "capabilities" ++ (fourth ++ (61 ::
    (fifth ++ (91 :: (sixth ++ (list ++ (93 :: seventh))))))))))))), by simp [str]⟩

variable (rules : List Rule)

theorem hcl_front (piece rest : Bytes) (listed : piece ∈ whiteSpace) (renders : Hcl lib rules (piece ++ rest)) :
    Hcl lib rules rest := by
  obtain ⟨filled, absent, _⟩ := white_space_bytes listed
  generalize whole : piece ++ rest = text at renders
  cases renders with
  | none _ blank =>
    have full : text ≠ [] := by
      rw [← whole]
      exact fun empty => filled (append_eq_nil_iff.mp empty).1
    obtain ⟨left, kept, split⟩ := gap_front listed blank full (by rw [whole, append_nil])
    rw [split, append_nil]
    exact .none left kept
  | rule rule rules gap block text blank shape after =>
    by_cases full : gap = []
    · obtain ⟨_, rfl⟩ := block_ends shape
      obtain ⟨_, _, rfl⟩ := exists_cons_of_ne_nil filled
      rw [full] at whole
      exact absurd (by simp [(List.cons.inj whole).1]) (absent 112 (by simp))
    · obtain ⟨left, kept, rfl⟩ := gap_front listed blank full whole
      exact .rule rule rules left block text kept shape after

theorem hcl_back (piece rest : Bytes) (listed : piece ∈ whiteSpace) (renders : Hcl lib rules (rest ++ piece)) :
    Hcl lib rules rest := by
  obtain ⟨_, absent, _⟩ := white_space_bytes listed
  generalize whole : rest ++ piece = text at renders
  induction renders generalizing rest with
  | none _ blank =>
    rw [← whole] at blank
    exact .none rest (gap_back piece rest listed blank)
  | rule rule rules gap block text blank shape _ ih =>
    obtain ⟨inner, joined⟩ := block_ends shape
    have split : gap ++ (block ++ text) = (gap ++ 112 :: inner) ++ 125 :: text := by
      rw [joined]
      simp
    cases suffix_split (whole.trans split) with
    | inl kept =>
      obtain ⟨left, after, rfl⟩ := kept
      have again := Hcl.rule rule rules gap block left blank shape (ih left after.symm)
      rw [joined] at again
      simpa using again
    | inr cut => exact absurd cut.1 (absent 125 (by simp))

theorem hcl_trim (text : Bytes) (renders : Hcl lib rules text) : Hcl lib rules (trim text) :=
  trim_invariant (fun piece listed rest => hcl_front rules piece rest listed)
    (fun piece listed rest => hcl_back rules piece rest listed) renders

theorem gap_head {final : Bool} {gap : Bytes} (blank : Gap final gap) : gap.head? ≠ some 123 := by
  cases blank with
  | none | block => simp
  | space _ _ blank =>
    intro brace
    cases brace
    cases blank
  | line _ _ _ opens | unended _ _ _ opens =>
    cases opens with
    | inl hash => simp [hash]
    | inr slashes => simp [slashes]

theorem hcl_head (text : Bytes) (renders : Hcl lib rules text) : text.head? ≠ some 123 := by
  cases renders with
  | none _ blank => exact gap_head blank
  | rule rule _ gap block _ blank shape =>
    obtain ⟨_, rfl⟩ := block_ends shape
    have head := gap_head blank
    cases gap with
    | nil => simp
    | cons => exact head

end Trimming

end HeptaBao.Auth
