import HeptaBao.Http.Request

namespace HeptaBao.Http

open Wire Std Durable List

theorem find_end_bound {bytes : Bytes} (index : Nat) (found : findEnd bytes = some index) :
    index + 4 ≤ bytes.length := by
  induction bytes generalizing index with
  | nil => cases found
  | cons byte rest ih =>
    rw [findEnd] at found
    by_cases here : headerEnd.isPrefixOf (byte :: rest) = true
    · rw [if_pos here] at found
      cases found
      have starts := isPrefixOf_iff_prefix.mp here
      exact starts.length_le
    · rw [if_neg here] at found
      obtain ⟨later, after, rfl⟩ := Option.map_eq_some_iff.mp found
      have bound := ih later after
      rw [length_cons]
      omega

theorem find_end_append (bytes more : Bytes) (index : Nat) (found : findEnd bytes = some index) :
    findEnd (bytes ++ more) = some index := by
  induction bytes generalizing index with
  | nil => cases found
  | cons byte rest ih =>
    rw [findEnd] at found
    rw [cons_append, findEnd]
    by_cases here : headerEnd.isPrefixOf (byte :: rest) = true
    · have starts := isPrefixOf_iff_prefix.mp here
      have still : headerEnd.isPrefixOf (byte :: (rest ++ more)) = true :=
        isPrefixOf_iff_prefix.mpr (starts.trans (prefix_append (byte :: rest) more))
      rw [if_pos here] at found
      rw [if_pos still]
      exact found
    · rw [if_neg here] at found
      obtain ⟨later, after, rfl⟩ := Option.map_eq_some_iff.mp found
      have shorter := find_end_bound later after
      have still : ¬ headerEnd.isPrefixOf (byte :: (rest ++ more)) = true := by
        intro longer
        refine here <| isPrefixOf_iff_prefix.mpr ?_
        have whole := isPrefixOf_iff_prefix.mp longer
        exact prefix_of_prefix_length_le whole (prefix_append (byte :: rest) more) (by simp only [headerEnd, length_cons, length_nil]; omega)
      rw [if_neg still, ih later after]
      rfl

theorem find_end_within {bytes more : Bytes} (index : Nat) (found : findEnd (bytes ++ more) = some index) :
    findEnd bytes = if index + 4 ≤ bytes.length then some index else none := by
  by_cases there : index + 4 ≤ bytes.length
  · rw [if_pos there]
    induction bytes generalizing index with
    | nil => simp at there
    | cons byte rest ih =>
      rw [cons_append, findEnd] at found
      rw [findEnd]
      by_cases here : headerEnd.isPrefixOf (byte :: (rest ++ more)) = true
      · rw [if_pos here] at found
        cases found
        have starts := isPrefixOf_iff_prefix.mp here
        have short : headerEnd.isPrefixOf (byte :: rest) = true :=
          isPrefixOf_iff_prefix.mpr (prefix_of_prefix_length_le starts (prefix_append (byte :: rest) more) there)
        rw [if_pos short]
      · rw [if_neg here] at found
        obtain ⟨later, after, rfl⟩ := Option.map_eq_some_iff.mp found
        have short : ¬ headerEnd.isPrefixOf (byte :: rest) = true := fun shorter => by
          have starts := isPrefixOf_iff_prefix.mp shorter
          exact here <| isPrefixOf_iff_prefix.mpr (starts.trans (prefix_append (byte :: rest) more))
        rw [if_neg short, ih later after (by rw [length_cons] at there; omega)]
        rfl
  · rw [if_neg there]
    cases early : findEnd bytes with
    | none => rfl
    | some other =>
      have same := (find_end_append bytes more other early).symm.trans found
      cases same
      exact absurd (find_end_bound index early) there

structure Splits (whole : Bytes) (chunks : List Bytes) : Prop where
  joined : chunks.flatten = whole
  sized : ∀ chunk ∈ chunks, chunk ≠ [] ∧ chunk.length ≤ bufferBytes

theorem splits_exist (bytes : Bytes) : ∃ chunks, Splits bytes chunks := by
  induction size : bytes.length using Nat.strong_induction_on generalizing bytes with
  | _ size ih =>
    cases bytes with
    | nil => exact ⟨[], rfl, by simp⟩
    | cons byte rest =>
      obtain ⟨chunks, joined, sized⟩ := ih ((byte :: rest).drop bufferBytes).length
        (by rw [length_drop, ← size, length_cons, bufferBytes]; omega) _ rfl
      refine ⟨(byte :: rest).take bufferBytes :: chunks, ?_, fun chunk listed => ?_⟩
      · rw [flatten_cons, joined, take_append_drop]
      · cases mem_cons.mp listed with
        | inl same =>
          rw [same]
          exact ⟨by simp [bufferBytes], by rw [length_take]; exact Nat.min_le_left _ _⟩
        | inr later => exact sized chunk later

theorem splits_append {first second : Bytes} {left right : List Bytes} (head : Splits first left)
    (last : Splits second right) :
    Splits (first ++ second) (left ++ right) := by
  refine ⟨by rw [flatten_append, head.joined, last.joined], fun chunk listed => ?_⟩
  cases mem_append.mp listed with
  | inl early => exact head.sized chunk early
  | inr late => exact last.sized chunk late

theorem splits_cons {whole chunk : Bytes} {chunks : List Bytes} (splits : Splits whole (chunk :: chunks)) :
    whole = chunk ++ chunks.flatten ∧ chunk ≠ [] ∧ chunk.length ≤ bufferBytes ∧ Splits chunks.flatten chunks :=
  ⟨splits.joined.symm, (splits.sized chunk mem_cons_self).1, (splits.sized chunk mem_cons_self).2, rfl,
    fun other listed => splits.sized other (mem_cons_of_mem _ listed)⟩

theorem splits_first {bytes : Bytes} {size : Nat} (positive : 0 < size) (bounded : size ≤ bufferBytes)
    (filled : bytes ≠ []) :
    ∃ rest, Splits bytes (bytes.take size :: rest) ∧ rest.flatten = bytes.drop size := by
  obtain ⟨rest, joined, sized⟩ := splits_exist (bytes.drop size)
  have nonempty := length_pos_iff.mpr filled
  refine ⟨rest, ⟨by rw [flatten_cons, joined, take_append_drop], fun chunk listed => ?_⟩, joined⟩
  cases mem_cons.mp listed with
  | inl same =>
    have length : chunk.length = min size bytes.length := by rw [same, length_take]
    exact ⟨fun empty => by rw [empty, length_nil] at length; omega, by omega⟩
  | inr later => exact sized chunk later

theorem read_some_chunk (limit : Nat) (chunk : Bytes) (chunks : List Bytes) (fits : chunk.length ≤ limit) :
    readSome limit (chunk :: chunks) = (chunk, chunks) := by rw [readSome, if_pos fits]

theorem head_loop_reads {bytes chunk : Bytes} (chunks : List Bytes) (missing : findEnd bytes = none)
    (small : bytes.length ≤ maxHeaders)
    (filled : chunk ≠ []) (fits : chunk.length ≤ bufferBytes) : headLoop bytes (chunk :: chunks) =
      headLoop (bytes ++ chunk) chunks := by
  rw [headLoop, missing]
  simp only [Nat.not_lt.mpr small, read_some_chunk bufferBytes chunk chunks fits]
  cases chunk with
  | nil => exact absurd rfl filled
  | cons => rfl

theorem head_loop_passes (bytes : Bytes) (first rest : List Bytes) (missing : findEnd (bytes ++ first.flatten) = none)
    (small : (bytes ++ first.flatten).length ≤ maxHeaders)
    (sized : ∀ chunk ∈ first, chunk ≠ [] ∧ chunk.length ≤ bufferBytes) :
    headLoop bytes (first ++ rest) = headLoop (bytes ++ first.flatten) rest := by
  induction first generalizing bytes with
  | nil => simp
  | cons chunk _ ih =>
    have absent : findEnd bytes = none := by
      cases early : findEnd bytes with
      | none => rfl
      | some index =>
        rw [find_end_append bytes _ index early] at missing
        cases missing
    obtain ⟨filled, fits⟩ := sized chunk mem_cons_self
    rw [flatten_cons, ← append_assoc] at missing small ⊢
    have shorter : bytes.length ≤ maxHeaders := by
      rw [append_assoc, length_append] at small
      omega
    rw [cons_append, head_loop_reads _ absent shorter filled fits]
    exact ih (bytes ++ chunk) missing small fun other listed => sized other (mem_cons_of_mem _ listed)

theorem head_loop_found (bytes : Bytes) (index : Nat) (chunks : List Bytes) (found : findEnd bytes = some index)
    (small : index ≤ maxHeaders) :
    headLoop bytes chunks = .ok (index + 4, bytes, chunks) := by
  rw [headLoop, found]
  simp only [Nat.not_lt.mpr small, if_false]

theorem head_loop_short (whole bytes : Bytes) (chunks : List Bytes) (index : Nat) (found : findEnd whole = some index)
    (early : index + 3 ≤ maxHeaders)
    (joined : bytes ++ chunks.flatten = whole) (splits : Splits chunks.flatten chunks) :
    ∃ read rest, headLoop bytes chunks = .ok (index + 4, read, rest) ∧ read ++ rest.flatten = whole ∧
      index + 4 ≤ read.length ∧
      Splits rest.flatten rest := by
  induction chunks generalizing bytes with
  | nil =>
    rw [flatten_nil, append_nil] at joined
    rw [← joined] at found
    exact ⟨bytes, [], head_loop_found bytes index [] found (by omega), by simpa using joined, find_end_bound index found, splits⟩
  | cons chunk chunks ih =>
    have within := find_end_within index (by rw [joined]; exact found)
    by_cases there : index + 4 ≤ bytes.length
    · rw [if_pos there] at within
      exact ⟨bytes, chunk :: chunks, head_loop_found bytes index _ within (by omega), joined, there, splits⟩
    · rw [if_neg there] at within
      obtain ⟨_, filled, fits, rest⟩ := splits_cons splits
      rw [head_loop_reads chunks within (by omega) filled fits]
      rw [flatten_cons, ← append_assoc] at joined
      exact ih (bytes ++ chunk) joined rest

theorem head_loop_long (whole bytes : Bytes) (chunks : List Bytes) (index : Nat) (found : findEnd whole = some index)
    (late : maxHeaders < index)
    (joined : bytes ++ chunks.flatten = whole) (splits : Splits chunks.flatten chunks) :
      headLoop bytes chunks = .error headersTooLarge := by
  induction chunks generalizing bytes with
  | nil =>
    rw [flatten_nil, append_nil] at joined
    rw [← joined] at found
    rw [headLoop, found]
    simp only [late, if_true]
  | cons chunk chunks ih =>
    have within := find_end_within index (by rw [joined]; exact found)
    by_cases there : index + 4 ≤ bytes.length
    · rw [if_pos there] at within
      rw [headLoop, within]
      simp only [late, if_true]
    · rw [if_neg there] at within
      by_cases large : maxHeaders < bytes.length
      · rw [headLoop, within]
        simp only [large, dite_true]
      · obtain ⟨_, filled, fits, rest⟩ := splits_cons splits
        rw [head_loop_reads chunks within (by omega) filled fits]
        rw [flatten_cons, ← append_assoc] at joined
        exact ih (bytes ++ chunk) joined rest

theorem body_loop_whole (whole bytes : Bytes) (chunks : List Bytes) (joined : bytes ++ chunks.flatten = whole)
    (splits : Splits chunks.flatten chunks) : bodyLoop whole.length bytes chunks = .ok whole := by
  induction chunks generalizing bytes with
  | nil =>
    rw [flatten_nil, append_nil] at joined
    rw [bodyLoop, joined]
    simp
  | cons chunk chunks ih =>
    obtain ⟨_, filled, _, rest⟩ := splits_cons splits
    have length := congrArg List.length joined
    have nonempty := length_pos_iff.mpr filled
    rw [length_append, flatten_cons, length_append] at length
    have short : ¬ whole.length ≤ bytes.length := by omega
    have read := read_some_chunk (min (whole.length - bytes.length) bufferBytes) chunk chunks (by omega)
    rw [flatten_cons, ← append_assoc] at joined
    rw [bodyLoop]
    simp only [short, dite_false, read]
    cases chunk with
    | nil => exact absurd rfl filled
    | cons byte more => exact ih (bytes ++ byte :: more) joined rest

-- A request whose headers end at the index, with exactly its declared body after them.
structure Complete (whole : Bytes) (index : Nat) : Prop where
  ends : findEnd whole = some index
  exact : ∀ head, parseHead (whole.take (index + 4)) = .ok head → whole.length = index + 4 + head.length

def parseWhole (readJson : Bytes → Option Value) (whole : Bytes) (index : Nat) : Except ParseError Request :=
  (parseHead (whole.take (index + 4)) >>= fun head => finish readJson head (index + 4) whole).mapError Rejection.error

theorem read_request_whole (readJson : Bytes → Option Value) {whole read : Bytes} {index : Nat}
    {chunks rest : List Bytes}
    (complete : Complete whole index) (head : headLoop [] chunks = .ok (index + 4, read, rest))
    (joined : read ++ rest.flatten = whole)
    (long : index + 4 ≤ read.length) (splits : Splits rest.flatten rest) : readRequest readJson chunks =
      parseWhole readJson whole index := by
  have front : read.take (index + 4) = whole.take (index + 4) := by rw [← joined, take_append_of_le_length long]
  rw [readRequest, head]
  simp only [bind, Except.bind, front, parseWhole]
  cases parsed : parseHead (whole.take (index + 4)) with
  | error => rfl
  | ok fields =>
    have body := body_loop_whole whole read rest joined splits
    rw [complete.exact fields parsed] at body
    simp only [Except.mapError, body]

theorem rejection_apart (rejection : Rejection) : rejection.error ≠ headersTooLarge := by
  cases rejection <;> decide

theorem parse_whole_apart (readJson : Bytes → Option Value) (whole : Bytes) (index : Nat) :
    parseWhole readJson whole index ≠ .error headersTooLarge := by
  rw [parseWhole]
  cases parseHead (whole.take (index + 4)) >>= fun head => finish readJson head (index + 4) whole with
  | error rejection => exact fun same => rejection_apart rejection (Except.error.inj same)
  | ok => exact fun same => by cases same

section Boundary

variable (readJson : Bytes → Option Value) (whole : Bytes) (index : Nat) (complete : Complete whole index)
  (late : maxHeaders < index + 3) (small : index ≤ maxHeaders)
include complete late small

theorem boundary_reached (size : Nat) (positive : 0 < size) (bounded : size ≤ bufferBytes) :
    ∃ chunks rest, Splits whole chunks ∧ whole.take (maxHeaders + size) ++ rest.flatten = whole ∧
      Splits rest.flatten rest ∧
      headLoop [] chunks = headLoop (whole.take (maxHeaders + size)) rest := by
  have bound := find_end_bound index complete.ends
  have joined := take_append_drop maxHeaders whole
  have within := find_end_within index (by rw [joined]; exact complete.ends)
  have length : (whole.take maxHeaders).length = maxHeaders := by
    rw [length_take]
    omega
  rw [length, if_neg (by omega)] at within
  have filled : whole.drop maxHeaders ≠ [] := by
    intro empty
    have none := congrArg List.length empty
    rw [length_drop, length_nil] at none
    omega
  obtain ⟨first, splits⟩ := splits_exist (whole.take maxHeaders)
  obtain ⟨rest, tail, remains⟩ := splits_first positive bounded filled
  have all := splits_append splits tail
  rw [joined] at all
  have longer : whole.take maxHeaders ++ (whole.drop maxHeaders).take size = whole.take (maxHeaders + size) := by rw [take_add]
  obtain ⟨chunk, fits⟩ := tail.sized _ mem_cons_self
  refine ⟨_, rest, all, ?_, ⟨rfl, fun other listed => tail.sized other (mem_cons_of_mem _ listed)⟩, ?_⟩
  · rw [remains, drop_drop, take_append_drop]
  · have passes := head_loop_passes [] first (((whole.drop maxHeaders).take size) :: rest)
    rw [nil_append, splits.joined] at passes
    rw [passes within (by rw [length]) splits.sized, head_loop_reads rest within (by rw [length]) chunk fits, longer]

theorem boundary_refused : ∃ chunks, Splits whole chunks ∧ readRequest readJson chunks = .error headersTooLarge := by
  have bound := find_end_bound index complete.ends
  obtain ⟨chunks, _, splits, joined, _, head⟩ := boundary_reached whole index complete late small 1 (by decide) (by decide)
  have length : (whole.take (maxHeaders + 1)).length = maxHeaders + 1 := by
    rw [length_take]
    omega
  have missing := find_end_within index (by rw [joined]; exact complete.ends)
  rw [length, if_neg (by omega)] at missing
  refine ⟨chunks, splits, ?_⟩
  rw [readRequest, head, headLoop, missing]
  simp only [length, Nat.lt_succ_self, dite_true]
  rfl

theorem boundary_accepted : ∃ chunks, Splits whole chunks ∧ readRequest readJson chunks =
    parseWhole readJson whole index := by
  have bound := find_end_bound index complete.ends
  obtain ⟨chunks, rest, splits, joined, tail, head⟩ := boundary_reached whole index complete late small bufferBytes (by decide) (by decide)
  have long : index + 4 ≤ (whole.take (maxHeaders + bufferBytes)).length := by
    rw [length_take, bufferBytes]
    omega
  have found := find_end_within index (by rw [joined]; exact complete.ends)
  rw [if_pos long] at found
  exact ⟨chunks, splits, read_request_whole readJson complete
    (head.trans (head_loop_found _ index rest found small)) joined long tail⟩

end Boundary

theorem split_lines_plain (line rest : Bytes) (plain : 13 ∉ line) :
    splitLines line = [line] ∧ splitLines (line ++ 13 :: 10 :: rest) = line :: splitLines rest := by
  induction line with
  | nil => exact ⟨rfl, by simp [splitLines]⟩
  | cons _ line ih =>
    rw [mem_cons, not_or] at plain
    obtain ⟨alone, joined⟩ := ih plain.2
    constructor
    · cases line with
      | nil => rfl
      | cons => rw [splitLines, if_neg (fun crlf => plain.1 crlf.1.symm), alone]
    · cases line with
      | nil =>
        rw [nil_append] at joined
        rw [cons_append, nil_append, splitLines, if_neg (fun crlf => plain.1 crlf.1.symm), joined]
      | cons =>
        rw [cons_append] at joined
        rw [cons_append, cons_append, splitLines, if_neg (fun crlf => plain.1 crlf.1.symm), joined]

theorem find_end_plain (line rest : Bytes) (plain : 13 ∉ line) : findEnd (line ++ rest) =
    (findEnd rest).map (· + line.length) := by
  induction line with
  | nil => simp
  | cons byte line ih =>
    rw [mem_cons, not_or] at plain
    have apart : ¬ headerEnd.isPrefixOf (byte :: (line ++ rest)) = true := by
      simp [headerEnd, plain.1]
    rw [cons_append, findEnd, if_neg apart, ih plain.2, Option.map_map, length_cons]
    cases findEnd rest <;> rfl

def padded (count : Nat) : Bytes :=
  str "GET /v1/a HTTP/1.1" ++ 13 :: 10 :: (str "Host: " ++ (replicate count 104 ++ headerEnd))

theorem padded_ends (count : Nat) : findEnd (padded count) = some (26 + count) := by
  have first : 13 ∉ str "GET /v1/a HTTP/1.1" := by decide
  have second : 13 ∉ str "Host: " := by decide
  have third : (13 : UInt8) ∉ replicate count 104 := fun listed => absurd (eq_of_mem_replicate listed) (by decide)
  have skip : ∀ rest, findEnd (13 :: 10 :: (str "Host: " ++ rest)) = (findEnd (str "Host: " ++ rest)).map (· + 2) := by
    intro rest
    have one : headerEnd.isPrefixOf (13 :: 10 :: (str "Host: " ++ rest)) = false := rfl
    have two : headerEnd.isPrefixOf (10 :: (str "Host: " ++ rest)) = false := rfl
    rw [findEnd, one, findEnd, two]
    simp [Option.map_map, Function.comp_def]
  have last : findEnd headerEnd = some 0 := rfl
  have lengths : (str "GET /v1/a HTTP/1.1").length = 18 ∧ (str "Host: ").length = 6 := ⟨rfl, rfl⟩
  rw [padded, find_end_plain _ _ first, skip, find_end_plain _ _ second, find_end_plain _ _ third, last]
  simp only [Option.map_some, length_replicate, lengths, Option.some.injEq]
  omega

theorem padded_lines (count : Nat) : splitLines ((padded count).take ((padded count).length - 4)) =
    [str "GET /v1/a HTTP/1.1", str "Host: " ++ replicate count 104] := by
  have cut : (padded count).take ((padded count).length - 4) = str "GET /v1/a HTTP/1.1" ++ 13 :: 10 :: (str "Host: " ++ replicate count 104) := by
    have tail : padded count = (str "GET /v1/a HTTP/1.1" ++ 13 :: 10 :: (str "Host: " ++ replicate count 104)) ++ headerEnd := by
      simp [padded]
    rw [tail, length_append]
    exact take_left' (Nat.add_sub_cancel _ 4)
  have first : 13 ∉ str "GET /v1/a HTTP/1.1" := by decide
  have second : 13 ∉ str "Host: " ++ replicate count 104 := by
    intro listed
    rcases mem_append.mp listed with front | pad
    · exact absurd front (by decide)
    · exact absurd (eq_of_mem_replicate pad) (by decide)
  rw [cut, (split_lines_plain _ _ first).2, (split_lines_plain _ [] second).1]

theorem padded_fields (count : Nat) :
    readFields 0 [str "Host: " ++ replicate count 104] ∅ =
      .ok ((∅ : Fields).insert (str "host") (trim (32 :: replicate count 104))) := by
  have pair : splitOnce 58 (str "Host: " ++ replicate count 104) = some (str "Host", 32 :: replicate count 104) := rfl
  have start : (str "Host: " ++ replicate count 104).head? = some 72 := rfl
  have lower : (str "Host").map asciiLower = str "host" := by decide
  have name : (str "Host").all (fun byte => asciiAlphanumeric byte || byte == 45) = true := by decide
  have filled : str "Host" ≠ [] := by decide
  have clean : (32 :: replicate count (104 : UInt8)).any (fun byte => byte < 32 && byte != 9) = false := by simp
  simp [readFields, pair, start, lower, name, clean, filled]

theorem padded_complete (count : Nat) : Complete (padded count) (26 + count) := by
  refine ⟨padded_ends count, fun head parsed => ?_⟩
  have length : (padded count).length = 26 + count + 4 := by
    have parts : (str "GET /v1/a HTTP/1.1").length = 18 ∧ (str "Host: ").length = 6 ∧ headerEnd.length = 4 := ⟨rfl, rfl, rfl⟩
    simp only [padded, length_append, length_cons, length_replicate, parts]
    omega
  have whole : (padded count).take (26 + count + 4) = padded count := take_of_length_le (by omega)
  have line : requestLine (str "GET /v1/a HTTP/1.1") = .ok (str "GET", str "/v1/a") := by decide +kernel
  have size : contentLength ((∅ : Fields).insert (str "host") (trim (32 :: replicate count 104))) = .ok 0 := by
    have apart : compare (str "host") (str "content-length") ≠ .eq := by decide
    simp [contentLength, apart]
  rw [whole, parseHead, padded_lines] at parsed
  obtain ⟨_, _, parsed⟩ := bind_ok parsed
  obtain ⟨_, requested, parsed⟩ := bind_ok parsed
  cases line.symm.trans requested
  obtain ⟨_, read, parsed⟩ := bind_ok parsed
  cases (padded_fields count).symm.trans read
  obtain ⟨_, _, parsed⟩ := bind_ok parsed
  obtain ⟨_, _, parsed⟩ := bind_ok parsed
  obtain ⟨_, _, parsed⟩ := bind_ok parsed
  obtain ⟨_, counted, parsed⟩ := bind_ok parsed
  cases size.symm.trans counted
  obtain ⟨_, _, parsed⟩ := bind_ok parsed
  obtain ⟨_, _, parsed⟩ := bind_ok parsed
  obtain ⟨_, _, parsed⟩ := bind_ok parsed
  obtain ⟨_, _, parsed⟩ := bind_ok parsed
  cases parsed
  exact length

/-- Splits do not matter exactly if the headers end outside three bytes around the limit. -/
theorem read_request_packets (readJson : Bytes → Option Value) (whole : Bytes) (index : Nat)
    (complete : Complete whole index) :
    (∀ first second, Splits whole first → Splits whole second → readRequest readJson first =
      readRequest readJson second) ↔
      index + 3 ≤ maxHeaders ∨ maxHeaders < index := by
  constructor
  · intro same
    by_contra between
    rw [not_or] at between
    obtain ⟨refused, splits, error⟩ := boundary_refused readJson whole index complete (by omega) (by omega)
    obtain ⟨accepted, splits', parsed⟩ := boundary_accepted readJson whole index complete (by omega) (by omega)
    refine parse_whole_apart readJson whole index ?_
    rw [← parsed, same accepted refused splits' splits, error]
  · intro apart
    have one : ∀ chunks, Splits whole chunks →
        readRequest readJson chunks = if index + 3 ≤ maxHeaders then parseWhole readJson whole index else .error headersTooLarge := by
      intro chunks splits
      have own : Splits chunks.flatten chunks := ⟨rfl, splits.sized⟩
      by_cases early : index + 3 ≤ maxHeaders
      · obtain ⟨read, rest, head, joined, long, others⟩ := head_loop_short whole [] chunks index complete.ends early splits.joined own
        rw [if_pos early]
        exact read_request_whole readJson complete head joined long others
      · have late : maxHeaders < index := by omega
        rw [if_neg early, readRequest, head_loop_long whole [] chunks index complete.ends late splits.joined own]
        rfl
    intro first second left right
    rw [one first left, one second right]

theorem read_request_packets_short : Complete (padded 9) 35 ∧ ∀ first second, Splits (padded 9) first →
    Splits (padded 9) second →
      readRequest (fun _ => none) first = readRequest (fun _ => none) second :=
  ⟨padded_complete 9, (read_request_packets (fun _ => none) (padded 9) 35 (padded_complete 9)).mpr (.inl (by decide))⟩

-- A read that ends one byte after the first 16 KiB makes these headers too large.
theorem packets_around_limit : ∃ first second, Complete (padded 16358) 16384 ∧ Splits (padded 16358) first ∧
    Splits (padded 16358) second ∧
      readRequest (fun _ => none) first ≠ readRequest (fun _ => none) second := by
  have complete := padded_complete 16358
  obtain ⟨refused, splits, error⟩ := boundary_refused (fun _ => none) _ _ complete (by decide) (by decide)
  obtain ⟨accepted, splits', parsed⟩ := boundary_accepted (fun _ => none) _ _ complete (by decide) (by decide)
  refine ⟨refused, accepted, complete, splits, splits', fun same => ?_⟩
  refine parse_whole_apart (fun _ => none) (padded 16358) (26 + 16358) ?_
  rw [← parsed, ← same, error]

end HeptaBao.Http
