import HeptaBao.Auth.Acl
import Mathlib.Computability.RegularExpressions

namespace HeptaBao.Auth

open Wire Std Durable Exec List

def anyOf (keep : UInt8 → Bool) : RegularExpression UInt8 :=
  (((range 256).map UInt8.ofNat).filter keep).foldr (fun byte rest => .char byte + rest) 0

def literal (text : Str) : RegularExpression UInt8 := text.foldr (fun byte rest => .char byte * rest) 1

def nonSlash : RegularExpression UInt8 := anyOf (· ≠ 47)

def segmentExpression (segment : Str) : RegularExpression UInt8 :=
  if segment = str "+" then nonSlash * nonSlash.star else literal segment

def joinExpression : List Str → RegularExpression UInt8
  | [] => 1
  | [segment] => segmentExpression segment
  | segment :: rest => segmentExpression segment * (.char 47 * joinExpression rest)

def patternExpression (pattern : Str) : RegularExpression UInt8 :=
  match stripSuffix (str "*") pattern with
  | none => joinExpression (pattern.splitOn 47)
  | some front => joinExpression (front.splitOn 47) * (anyOf fun _ => true).star

theorem mem_any_of (keep : UInt8 → Bool) (text : Str) : text ∈ (anyOf keep).matches' ↔ ∃ byte, keep byte = true ∧
    text = [byte] := by
  have listed : ∀ bytes : List UInt8, text ∈ (bytes.foldr (fun byte rest => RegularExpression.char byte + rest) 0).matches' ↔
      ∃ byte ∈ bytes, text = [byte] := by
    intro bytes
    induction bytes with
    | nil => simp
    | cons _ _ ih =>
      rw [foldr_cons, RegularExpression.matches'_add, Language.mem_add, ih, RegularExpression.matches'_char]
      simp only [mem_cons, exists_eq_or_imp]
      exact Iff.rfl
  have every : ∀ byte : UInt8, byte ∈ (range 256).map UInt8.ofNat := fun byte =>
    mem_map.mpr ⟨byte.toNat, mem_range.mpr byte.toNat_lt, UInt8.ofNat_toNat⟩
  rw [anyOf, listed]
  constructor
  · rintro ⟨byte, member, same⟩
    exact ⟨byte, (mem_filter.mp member).2, same⟩
  · rintro ⟨byte, kept, same⟩
    exact ⟨byte, mem_filter.mpr ⟨every byte, kept⟩, same⟩

theorem mem_any_star (keep : UInt8 → Bool) (text : Str) : text ∈ (anyOf keep).star.matches' ↔ ∀ byte ∈ text,
    keep byte = true := by
  rw [RegularExpression.matches'_star, Language.mem_kstar]
  constructor
  · rintro ⟨words, rfl, each⟩ byte listed
    obtain ⟨word, member, inside⟩ := mem_flatten.mp listed
    obtain ⟨_, kept, rfl⟩ := (mem_any_of keep word).mp (each word member)
    rw [mem_singleton.mp inside]
    exact kept
  · intro each
    refine ⟨text.map fun byte => [byte], by rw [← flatMap_def, flatMap_singleton'], fun word member => ?_⟩
    obtain ⟨byte, listed, rfl⟩ := mem_map.mp member
    exact (mem_any_of keep _).mpr ⟨byte, each byte listed, rfl⟩

theorem mem_literal (segment text : Str) : text ∈ (literal segment).matches' ↔ text = segment := by
  induction segment generalizing text with
  | nil =>
    rw [literal, foldr_nil, RegularExpression.matches'_epsilon, Language.mem_one]
  | cons byte rest ih =>
    rw [literal, foldr_cons, RegularExpression.matches'_mul, RegularExpression.matches'_char, Language.mem_mul]
    constructor
    · rintro ⟨first, isByte, last, isRest, rfl⟩
      rw [(ih last).mp isRest, show first = [byte] from isByte]
      rfl
    · rintro rfl
      exact ⟨[byte], rfl, rest, (ih rest).mpr rfl, rfl⟩

theorem mem_segment (segment text : Str) : text ∈ (segmentExpression segment).matches' ↔
    if segment = str "+" then text ≠ [] ∧ 47 ∉ text else text = segment := by
  rw [segmentExpression]
  by_cases plus : segment = str "+"
  · rw [if_pos plus, if_pos plus, RegularExpression.matches'_mul, Language.mem_mul]
    constructor
    · rintro ⟨first, isFirst, last, isRest, rfl⟩
      obtain ⟨byte, kept, rfl⟩ := (mem_any_of _ first).mp isFirst
      have others := (mem_any_star _ last).mp isRest
      refine ⟨by simp, fun slash => ?_⟩
      rcases mem_cons.mp slash with here | later
      · exact absurd here.symm (of_decide_eq_true kept)
      · exact absurd rfl (of_decide_eq_true (others 47 later))
    · rintro ⟨filled, free⟩
      cases text with
      | nil => exact absurd rfl filled
      | cons byte rest =>
        refine ⟨[byte], (mem_any_of _ _).mpr ⟨byte, decide_eq_true fun slash => free (slash ▸ mem_cons_self), rfl⟩, rest,
          (mem_any_star _ _).mpr fun other listed => decide_eq_true fun slash => free (slash ▸ mem_cons_of_mem _ listed), rfl⟩
  · rw [if_neg plus, if_neg plus]
    exact mem_literal segment text

theorem join_cons (segment : Str) (rest : List Str) (more : rest ≠ []) :
    joinExpression (segment :: rest) = segmentExpression segment * (.char 47 * joinExpression rest) := by
  cases rest with
  | nil => exact absurd rfl more
  | cons => rfl

theorem mem_slash (segment : Str) (after : Language UInt8) (text : Str) :
    text ∈ (segmentExpression segment).matches' * ((RegularExpression.char 47).matches' * after) ↔
      ∃ first rest, text = first ++ 47 :: rest ∧ first ∈ (segmentExpression segment).matches' ∧ rest ∈ after := by
  rw [Language.mem_mul]
  constructor
  · rintro ⟨first, isFirst, tail, isTail, rfl⟩
    obtain ⟨slash, isSlash, rest, isRest, rfl⟩ := Language.mem_mul.mp isTail
    rw [RegularExpression.matches'_char] at isSlash
    rw [show slash = [47] from isSlash]
    exact ⟨first, rest, rfl, isFirst, isRest⟩
  · rintro ⟨first, rest, rfl, isFirst, isRest⟩
    exact ⟨first, isFirst, 47 :: rest, Language.mem_mul.mpr ⟨[47], rfl, rest, isRest, rfl⟩, rfl⟩

theorem split_free (text : Str) (free : 47 ∉ text) : text.splitOn 47 = [text] := by
  rw [splitOn_eq_splitOnP]
  refine splitOnP_eq_singleton fun byte listed => ?_
  rw [beq_eq_false_iff_ne]
  rintro rfl
  exact free listed

theorem split_slash (first rest : Str) (free : 47 ∉ first) : (first ++ 47 :: rest).splitOn 47 =
    first :: rest.splitOn 47 := by
  have whole := split_free first free
  rw [splitOn_eq_splitOnP] at whole
  rw [splitOn_eq_splitOnP, splitOnP_append_cons _ _ (by decide), whole, splitOn_eq_splitOnP]
  rfl

theorem split_cases (text : Str) : (47 ∉ text ∧ text.splitOn 47 = [text]) ∨
    ∃ first rest, text = first ++ 47 :: rest ∧ 47 ∉ first ∧ text.splitOn 47 = first :: rest.splitOn 47 := by
  by_cases slash : (47 : UInt8) ∈ text
  · obtain ⟨first, rest, rfl, free⟩ := eq_append_cons_of_mem slash
    exact .inr ⟨first, rest, rfl, free, split_slash first rest free⟩
  · exact .inl ⟨slash, split_free text slash⟩

theorem split_not_nil (text : Str) : text.splitOn 47 ≠ [] := by
  rcases split_cases text with ⟨_, whole⟩ | ⟨first, rest, _, _, parts⟩
  · rw [whole]
    exact cons_ne_nil _ _
  · rw [parts]
    exact cons_ne_nil _ _

theorem split_segments_free (text : Str) : ∀ segment ∈ text.splitOn 47, 47 ∉ segment := by
  induction size : text.length using Nat.strongRecOn generalizing text with
  | _ _ ih =>
    rcases split_cases text with ⟨free, whole⟩ | ⟨first, rest, rfl, free, parts⟩
    · rw [whole]
      intro segment listed
      rw [mem_singleton.mp listed]
      exact free
    · rw [parts]
      intro segment listed
      rcases mem_cons.mp listed with rfl | later
      · exact free
      · exact ih rest.length (by rw [← size, length_append, length_cons]; omega) rest rfl segment later

def segmentMatches (segment actual : Str) : Bool := if segment = str "+" then decide (actual ≠ []) else decide (segment = actual)

theorem segment_matches_iff (segment actual : Str) (free : 47 ∉ actual) :
    segmentMatches segment actual = true ↔ actual ∈ (segmentExpression segment).matches' := by
  rw [mem_segment, segmentMatches]
  by_cases plus : segment = str "+"
  · rw [if_pos plus, if_pos plus, decide_eq_true_iff]
    exact ⟨fun filled => ⟨filled, free⟩, fun both => both.1⟩
  · rw [if_neg plus, if_neg plus, decide_eq_true_iff, eq_comm]

theorem match_segments_cons {wildcard : Bool} (segment : Str) {rest : List Str} (actual : Str) (more : List Str)
    (notLast : ¬(wildcard = true ∧ rest = [])) :
    matchSegments wildcard (segment :: rest)
    (actual :: more) = (segmentMatches segment actual && matchSegments wildcard rest more) := by
  rw [matchSegments, if_neg notLast, segmentMatches]
  by_cases plus : segment = str "+"
  · rw [if_pos plus, if_pos plus]
    by_cases empty : actual = []
    · rw [if_pos empty, decide_eq_false (not_not.mpr empty), Bool.false_and]
    · rw [if_neg empty, decide_eq_true empty, Bool.true_and]
  · rw [if_neg plus, if_neg plus]
    by_cases same : segment = actual
    · rw [if_pos same, decide_eq_true same, Bool.true_and]
    · rw [if_neg same, decide_eq_false same, Bool.false_and]

theorem segment_free {segment text : Str} (slashless : 47 ∉ segment)
    (listed : text ∈ (segmentExpression segment).matches') : 47 ∉ text := by
  rw [mem_segment] at listed
  by_cases plus : segment = str "+"
  · rw [if_pos plus] at listed
    exact listed.2
  · rw [if_neg plus] at listed
    rw [listed]
    exact slashless

theorem exact_matches (segments : List Str) (some' : segments ≠ []) (slashless : ∀ segment ∈ segments, 47 ∉ segment)
    (path : Str) :
    path ∈ (joinExpression segments).matches' ↔
      segments.length = (path.splitOn 47).length ∧ matchSegments false segments (path.splitOn 47) = true := by
  induction segments generalizing path with
  | nil => exact absurd rfl some'
  | cons segment rest ih =>
    have first := slashless segment mem_cons_self
    by_cases last : rest = []
    · subst last
      rcases split_cases path with ⟨free, whole⟩ | ⟨head, tail, rfl, free, parts⟩
      · rw [whole, match_segments_cons segment path [] (by simp), Bool.and_eq_true, segment_matches_iff segment path free]
        simp [joinExpression, matchSegments]
      · rw [parts]
        constructor
        · intro listed
          exact absurd (by simp) (segment_free first listed)
        · rintro ⟨same, _⟩
          exact absurd same (by
            have filled := length_pos_of_ne_nil (split_not_nil tail)
            simp only [length_cons, length_nil]
            omega)
    · rw [join_cons segment rest last, RegularExpression.matches'_mul, RegularExpression.matches'_mul, mem_slash]
      have later := ih last fun other listed => slashless other (mem_cons_of_mem _ listed)
      constructor
      · rintro ⟨head, tail, rfl, isHead, isTail⟩
        have free := segment_free first isHead
        obtain ⟨same, matched⟩ := (later tail).mp isTail
        rw [split_slash head tail free, match_segments_cons segment head _ (by simp), Bool.and_eq_true, segment_matches_iff segment head free]
        exact ⟨by rw [length_cons, length_cons, same], isHead, matched⟩
      · rintro ⟨same, matched⟩
        rcases split_cases path with ⟨free, whole⟩ | ⟨head, tail, rfl, free, parts⟩
        · rw [whole] at same
          exact absurd (length_eq_zero_iff.mp (Nat.succ.inj same)) last
        · rw [parts] at same matched
          rw [match_segments_cons segment head _ (by simp), Bool.and_eq_true, segment_matches_iff segment head free] at matched
          exact ⟨head, tail, rfl, matched.1, (later tail).mpr ⟨Nat.succ.inj same, matched.2⟩⟩

theorem mem_front (segment : Str) (plain : segment ≠ str "+") (text : Str) :
    text ∈ (segmentExpression segment).matches' * ((anyOf fun _ => true).star).matches' ↔
      ∃ rest, text = segment ++ rest := by
  rw [Language.mem_mul]
  constructor
  · rintro ⟨first, isFirst, rest, _, rfl⟩
    rw [mem_segment, if_neg plain] at isFirst
    exact ⟨rest, by rw [isFirst]⟩
  · rintro ⟨rest, rfl⟩
    exact ⟨segment, (mem_segment _ _).mpr (by rw [if_neg plain]), rest, (mem_any_star _ _).mpr fun _ _ => rfl, rfl⟩

theorem front_of_first (segment : Str) {path head : Str} {more : List Str} (slashless : 47 ∉ segment)
    (parts : path.splitOn 47 = head :: more) :
    (∃ rest, path = segment ++ rest) ↔ segment.isPrefixOf head = true := by
  refine Iff.trans ?_ isPrefixOf_iff_prefix.symm
  rcases split_cases path with ⟨_, whole⟩ | ⟨first, rest, rfl, free, split⟩
  · rw [whole] at parts
    cases parts
    exact ⟨fun ⟨rest, same⟩ => ⟨rest, same.symm⟩, fun ⟨rest, same⟩ => ⟨rest, same.symm⟩⟩
  · rw [split] at parts
    cases parts
    constructor
    · rintro ⟨tail, same⟩
      rcases append_eq_append_iff.mp same with ⟨between, isSegment, isRest⟩ | ⟨between, isFirst, _⟩
      · cases between with
        | nil =>
          rw [append_nil] at isSegment
          exact ⟨[], by rw [isSegment, append_nil]⟩
        | cons =>
          rw [cons_append] at isRest
          cases isRest
          exact absurd (by rw [isSegment]; simp) slashless
      · exact ⟨between, isFirst.symm⟩
    · rintro ⟨tail, rfl⟩
      exact ⟨tail ++ 47 :: rest, by rw [append_assoc]⟩

theorem front_matches (segments : List Str) (some' : segments ≠ []) (slashless : ∀ segment ∈ segments, 47 ∉ segment)
    (plain : ∀ segment, segments.getLast? = some segment → segment ≠ str "+") (path : Str) :
    path ∈ (joinExpression segments).matches' * ((anyOf fun _ => true).star).matches' ↔
      matchSegments true segments (path.splitOn 47) = true := by
  induction segments generalizing path with
  | nil => exact absurd rfl some'
  | cons segment rest ih =>
    have first := slashless segment mem_cons_self
    by_cases last : rest = []
    · subst last
      have notPlus := plain segment rfl
      rw [joinExpression, mem_front segment notPlus]
      cases parts : path.splitOn 47 with
      | nil => exact absurd parts (split_not_nil path)
      | cons head more =>
        rw [matchSegments, if_pos ⟨rfl, rfl⟩, if_neg notPlus]
        exact front_of_first segment first parts
    · have notLast : ¬(true = true ∧ rest = []) := fun both => last both.2
      have later := ih last (fun other listed => slashless other (mem_cons_of_mem _ listed)) fun other isLast =>
        plain other (by rw [getLast?_cons, isLast]; rfl)
      rw [join_cons segment rest last, RegularExpression.matches'_mul, RegularExpression.matches'_mul, mul_assoc, mul_assoc, mem_slash]
      constructor
      · rintro ⟨head, tail, rfl, isHead, isTail⟩
        have free := segment_free first isHead
        rw [split_slash head tail free, match_segments_cons segment head _ notLast, Bool.and_eq_true, segment_matches_iff segment head free]
        exact ⟨isHead, (later tail).mp isTail⟩
      · intro matched
        rcases split_cases path with ⟨free, whole⟩ | ⟨head, tail, rfl, free, parts⟩
        · obtain ⟨_, _, rfl⟩ := exists_cons_of_ne_nil last
          rw [whole, match_segments_cons segment path [] notLast, matchSegments, Bool.and_false] at matched
          cases matched
        · rw [parts, match_segments_cons segment head _ notLast, Bool.and_eq_true, segment_matches_iff segment head free] at matched
          exact ⟨head, tail, rfl, matched.1, (later tail).mpr matched.2⟩

theorem match_segments_longer (wildcard : Bool) (segments parts : List Str) (fewer : parts.length < segments.length) :
    matchSegments wildcard segments parts = false := by
  induction segments generalizing parts with
  | nil => cases fewer
  | cons segment rest ih =>
    cases parts with
    | nil => rfl
    | cons actual more =>
      have shorter := Nat.lt_of_succ_lt_succ fewer
      have notLast : ¬(wildcard = true ∧ rest = []) := by
        rintro ⟨_, rfl⟩
        cases shorter
      rw [match_segments_cons segment actual more notLast, ih more shorter, Bool.and_false]

theorem split_last (text tail segment : Str) (free : 47 ∉ tail) (last : (text.splitOn 47).getLast? = some segment) :
    segment ++ tail ∈ (text ++ tail).splitOn 47 := by
  induction size : text.length using Nat.strongRecOn generalizing text with
  | _ _ ih =>
    rcases split_cases text with ⟨slashless, whole⟩ | ⟨first, rest, rfl, slashless, parts⟩
    · rw [whole] at last
      cases last
      have both : 47 ∉ text ++ tail := fun listed => (mem_append.mp listed).elim slashless free
      rw [split_free _ both]
      exact mem_cons_self
    · rw [parts, getLast?_cons] at last
      rw [append_assoc, cons_append, split_slash first (rest ++ tail) slashless]
      refine mem_cons_of_mem _ (ih rest.length (by rw [← size, length_append, length_cons]; omega) rest ?_ rfl)
      cases isLast : (rest.splitOn 47).getLast? with
      | none => exact absurd (getLast?_eq_none_iff.mp isLast) (split_not_nil rest)
      | some =>
        rw [isLast] at last
        exact last

theorem validate_path_pattern (pattern : Str) (valid : validatePath pattern true = .ok ()) :
    ∀ segment ∈ pattern.splitOn 47, 43 ∈ segment → segment = str "+" := by
  intro segment listed plus
  unfold validatePath at valid
  split at valid
  · cases valid
  · rw [if_pos rfl] at valid
    split at valid
    · cases valid
    · rename_i allowed
      simp only [not_or, Bool.not_eq_true] at allowed
      have none' := any_eq_false.mp allowed.2.2.2.2 segment listed
      by_contra other
      have contains : segment.contains 43 = true := contains_iff_mem.mpr plus
      have differs : (segment != str "+") = true := bne_iff_ne.mpr other
      rw [contains, differs] at none'
      exact none' rfl

theorem strip_star {pattern front : Str} (stripped : stripSuffix (str "*") pattern = some front) :
    pattern = front ++ [42] := by
  unfold stripSuffix at stripped
  by_cases ends : (str "*").isSuffixOf pattern = true
  · rw [if_pos ends] at stripped
    obtain ⟨_, rfl⟩ := isSuffixOf_iff_suffix.mp ends
    cases stripped
    simp [str]
  · rw [if_neg ends] at stripped
    cases stripped

theorem path_matches_iff (pattern path : Str) (valid : validatePath pattern true = .ok ()) :
    pathMatches pattern path = true ↔ path ∈ (patternExpression pattern).matches' := by
  have plus := validate_path_pattern pattern valid
  unfold pathMatches patternExpression
  cases stripped : stripSuffix (str "*") pattern with
  | none =>
    rw [exact_matches _ (split_not_nil pattern) (split_segments_free pattern)]
    simp only [Option.getD_none, Option.isSome_none, true_and]
    by_cases same : (pattern.splitOn 47).length = (path.splitOn 47).length
    · rw [if_neg (not_not.mpr same), if_neg (by rw [same]; exact Nat.lt_irrefl _)]
      exact ⟨fun matched => ⟨same, matched⟩, fun both => both.2⟩
    · rw [if_pos same]
      exact ⟨fun wrong => (nomatch wrong), fun both => absurd both.1 same⟩
  | some front =>
    have shape := strip_star stripped
    have plain : ∀ segment, (front.splitOn 47).getLast? = some segment → segment ≠ str "+" := by
      rintro segment last rfl
      have listed := split_last front [42] (str "+") (by decide) last
      rw [← shape] at listed
      exact absurd (plus _ listed (by decide)) (by decide)
    rw [RegularExpression.matches'_mul, front_matches _ (split_not_nil front) (split_segments_free front) plain]
    simp only [Option.getD_some, Option.isSome_some, reduceCtorEq, false_and, if_false]
    by_cases fewer : (path.splitOn 47).length < (front.splitOn 47).length
    · rw [if_pos fewer, match_segments_longer true _ _ fewer]
    · rw [if_neg fewer]

end HeptaBao.Auth
