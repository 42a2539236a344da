import HeptaBao.Audit.Log

namespace HeptaBao.Audit

open Wire Wire.Json Durable Exec List

section Lines

theorem audit_lines_cons (line rest : Bytes) (plain : 10 ∉ line) (filled : line ≠ []) :
    auditLines (line ++ 10 :: rest) = line :: auditLines rest := by
  have whole : line.splitOn 10 = [line] := by
    rw [splitOn_eq_splitOnP]
    refine splitOnP_eq_singleton fun byte listed => beq_eq_false_iff_ne.mpr fun same => plain ?_
    rw [← same]
    exact listed
  rw [auditLines, splitOn_eq_splitOnP, splitOnP_append_cons _ _ (by decide), ← splitOn_eq_splitOnP,
    ← splitOn_eq_splitOnP, whole, singleton_append, takeWhile_cons, auditLines]
  simp [filled]

def joinLines (lines : List Bytes) : Bytes := lines.flatMap (· ++ [10])

def Plain (line : Bytes) : Prop := 10 ∉ line ∧ line ≠ []

theorem join_lines_cons (line : Bytes) (lines : List Bytes) : joinLines (line :: lines) =
    line ++ 10 :: joinLines lines := by
  rw [joinLines, flatMap_cons, append_assoc]
  rfl

theorem join_lines_append (lines : List Bytes) (line : Bytes) : joinLines (lines ++ [line]) =
    joinLines lines ++ (line ++ [10]) := by
  rw [joinLines, flatMap_append]
  simp [joinLines]

theorem audit_lines_join (lines : List Bytes) (plain : ∀ line ∈ lines, Plain line) : auditLines (joinLines lines) =
    lines := by
  induction lines with
  | nil => rfl
  | cons line _ ih =>
    obtain ⟨apart, filled⟩ := plain line mem_cons_self
    rw [join_lines_cons, audit_lines_cons line _ apart filled, ih fun other listed => plain other (mem_cons_of_mem _ listed)]

theorem double_newline_skip (line rest : Bytes) (apart : 10 ∉ line) (double : [10, 10] <:+: line ++ rest) :
    [10, 10] <:+: rest := by
  induction line with
  | nil => exact double
  | cons _ _ ih =>
    rw [mem_cons, not_or] at apart
    rw [cons_append, infix_cons_iff] at double
    cases double with
    | inl starts => exact absurd (cons_prefix_cons.mp starts).1 apart.1
    | inr later => exact ih apart.2 later

theorem join_lines_head (lines : List Bytes) (plain : ∀ line ∈ lines, Plain line) :
    (joinLines lines).head? ≠ some 10 := by
  cases lines with
  | nil => simp [joinLines]
  | cons line =>
    obtain ⟨apart, filled⟩ := plain line mem_cons_self
    rw [join_lines_cons]
    cases line with
    | nil => exact absurd rfl filled
    | cons => exact fun same => apart (by rw [cons_append, head?_cons, Option.some.injEq] at same; rw [← same]; exact mem_cons_self)

theorem join_lines_single (lines : List Bytes) (plain : ∀ line ∈ lines, Plain line) :
    ¬ [10, 10] <:+: joinLines lines := by
  induction lines with
  | nil => decide
  | cons line lines ih =>
    have rest : ∀ other ∈ lines, Plain other := fun other listed => plain other (mem_cons_of_mem _ listed)
    intro double
    rw [join_lines_cons] at double
    have later := double_newline_skip line _ (plain line mem_cons_self).1 double
    cases infix_cons_iff.mp later with
    | inl starts =>
      obtain ⟨_, same⟩ := (cons_prefix_cons.mp starts).2
      exact join_lines_head lines rest (by rw [← same]; rfl)
    | inr within => exact ih rest within

theorem join_lines_last (lines : List Bytes) (filled : joinLines lines ≠ []) : (joinLines lines).getLast? =
    some 10 := by
  rcases eq_nil_or_concat lines with rfl | ⟨front, line, rfl⟩
  · exact absurd rfl filled
  · rw [concat_eq_append, join_lines_append, ← append_assoc, getLast?_concat]

end Lines

section Written

theorem escape_no_newline : ∀ byte : UInt8, 10 ∉ escape byte := by decide +kernel

theorem text_no_newline (value : Bytes) : 10 ∉ text.write value := by
  have inner : 10 ∉ value.flatMap escape := by
    intro listed
    obtain ⟨byte, _, escaped⟩ := mem_flatMap.mp listed
    exact escape_no_newline byte escaped
  simp [text, inner]

theorem decimal_no_newline (value : Nat) : 10 ∉ decimal value :=
  fun listed => absurd (decimal_digits 10 listed) (by decide)

theorem status_no_newline (status : Option UInt16) : 10 ∉ statusJson.write status := by
  cases status with
  | none => decide
  | some value => exact decimal_no_newline value.toNat

theorem event_no_newline (event : AuditUnsigned) : 10 ∉ eventJson.write event := by
  have numbers := decimal_no_newline
  have texts := text_no_newline
  have status := status_no_newline event.status
  simp only [eventJson, Format.map, Tail.first, Tail.later, Tail.closing, Tail.field, Tail.close, mem_append, not_or]
  exact ⟨by decide, numbers _, by decide, numbers _, by decide, texts _, by decide, numbers _, by decide, texts _, by decide, texts _, by decide,
    status, by decide⟩

theorem record_plain (record : AuditRecord) : Plain (recordJson.toVec record) := by
  refine ⟨?_, fun empty => ?_⟩
  · simp only [Format.toVec, recordJson, Format.map, Tail.first, Tail.later, Tail.closing, Tail.field, Tail.close, mem_append, not_or]
    exact ⟨by decide, event_no_newline _, by decide, text_no_newline _, by decide⟩
  · have first : (recordJson.toVec record).head? = some 123 := rfl
    rw [empty] at first
    cases first

end Written

section Chain

variable (lib : Library)

structure Extends (front : Frontier) (record : AuditRecord) (next : Frontier) : Prop where
  schema : record.event.schema = 2
  sequence : record.event.sequence.toNat = front.sequence.toNat + 1
  previous : record.event.previous = Base64.encode front.mac.bytes
  mac : Base64.decode record.mac = some next.mac.bytes
  signed : lib.sign (eventJson.toVec record.event) = next.mac
  reached : next.sequence = record.event.sequence

inductive Linked : Frontier → List AuditRecord → Frontier → Prop where
  | done (front : Frontier) : Linked front [] front
  | next (front middle stop : Frontier) (record : AuditRecord) (records : List AuditRecord) (extended : Extends lib front record middle)
      (rest : Linked middle records stop) : Linked front (record :: records) stop

theorem linked_snoc (front middle stop : Frontier) (records : List AuditRecord) (record : AuditRecord)
    (linked : Linked lib front records middle)
    (extended : Extends lib middle record stop) : Linked lib front (records ++ [record]) stop := by
  induction linked with
  | done front => exact .next front stop stop record [] extended (.done stop)
  | next front between _ first _ step _ ih => exact .next front between stop first _ step (ih extended)

theorem verify_line_ok (front next : Frontier) (line : Bytes) :
    verifyLine lib front line = .ok next ↔ ∃ record, lib.readRecord line = some record ∧
      Extends lib front record next := by
  constructor
  · intro verified
    rw [verifyLine] at verified
    cases read : lib.readRecord line with
    | none =>
      rw [read] at verified
      cases verified
    | some record =>
      rw [read] at verified
      simp only at verified
      by_cases broken : record.event.schema ≠ 2 ∨ record.event.sequence.toNat ≠ front.sequence.toNat + 1 ∨
          record.event.previous ≠ Base64.encode front.mac.bytes
      · rw [if_pos broken] at verified
        cases verified
      rw [if_neg broken] at verified
      simp only [not_or, not_not] at broken
      cases decoded : Base64.decode record.mac with
      | none =>
        rw [decoded] at verified
        cases verified
      | some tag =>
        rw [decoded] at verified
        simp only at verified
        by_cases sized : tag.length = 32
        · rw [dif_pos sized] at verified
          by_cases signed : lib.sign (eventJson.toVec record.event) = ⟨tag, sized⟩
          · rw [if_pos signed] at verified
            cases verified
            exact ⟨record, rfl, broken.1, broken.2.1, broken.2.2, decoded, signed, rfl⟩
          · rw [if_neg signed] at verified
            cases verified
        · rw [dif_neg sized] at verified
          cases verified
  · rintro ⟨record, read, extended⟩
    obtain ⟨seq, mac⟩ := next
    have same : seq = record.event.sequence := extended.reached
    have matching : ¬ (record.event.schema ≠ 2 ∨ record.event.sequence.toNat ≠ front.sequence.toNat + 1 ∨
        record.event.previous ≠ Base64.encode front.mac.bytes) := by
      simp only [not_or, not_not]
      exact ⟨extended.schema, extended.sequence, extended.previous⟩
    rw [verifyLine, read]
    simp only
    rw [if_neg matching, extended.mac]
    simp only
    rw [dif_pos mac.size, if_pos extended.signed, same]

theorem verify_lines_ok (lines : List Bytes) (start stop : Frontier) :
    lines.foldlM (verifyLine lib) start = .ok stop ↔ ∃ records, lines.map lib.readRecord = records.map some ∧
      Linked lib start records stop := by
  induction lines generalizing start with
  | nil =>
    constructor
    · intro verified
      cases verified
      exact ⟨[], rfl, .done _⟩
    · rintro ⟨records, read, linked⟩
      cases records with
      | nil =>
        cases linked
        rfl
      | cons => cases read
  | cons line _ ih =>
    rw [foldlM_cons]
    constructor
    · intro verified
      obtain ⟨middle, first, rest⟩ := bind_ok verified
      obtain ⟨record, read, extended⟩ := (verify_line_ok lib start middle line).mp first
      obtain ⟨records, reads, linked⟩ := (ih middle).mp rest
      exact ⟨record :: records, by rw [map_cons, map_cons, read, reads], .next start middle stop record records extended linked⟩
    · rintro ⟨records, read, linked⟩
      cases linked with
      | done => cases read
      | next _ middle _ record records extended rest =>
        rw [map_cons, map_cons, List.cons.injEq] at read
        rw [(verify_line_ok lib start middle line).mpr ⟨record, read.1, extended⟩]
        exact (ih middle).mpr ⟨records, read.2, rest⟩

theorem verify_accepts {bytes : Bytes} {start stop : Frontier} (accepted : verifyAuditFrom lib bytes start = .ok stop) :
    ∃ records, (auditLines bytes).map lib.readRecord = records.map some ∧ Linked lib start records stop := by
  rw [verifyAuditFrom] at accepted
  split at accepted
  · cases accepted
  · split at accepted
    · cases accepted
    · split at accepted
      · cases accepted
      · exact (verify_lines_ok lib (auditLines bytes) start stop).mp accepted

theorem verify_written {records : List AuditRecord} {start stop : Frontier} (linked : Linked lib start records stop)
    (read : ∀ record ∈ records, lib.readRecord (recordJson.toVec record) = some record)
    (sized : (joinLines (records.map recordJson.toVec)).length ≤ maxAuditBytes) :
    verifyAuditFrom lib (joinLines (records.map recordJson.toVec)) start = .ok stop := by
  have plain : ∀ line ∈ records.map recordJson.toVec, Plain line := by
    intro line listed
    obtain ⟨record, _, rfl⟩ := mem_map.mp listed
    exact record_plain record
  have whole : ¬ (joinLines (records.map recordJson.toVec) ≠ [] ∧ (joinLines (records.map recordJson.toVec)).getLast? ≠ some 10) :=
    fun cut => cut.2 (join_lines_last _ cut.1)
  have filled : ¬ ([10, 10] <:+: joinLines (records.map recordJson.toVec) ∨ (joinLines (records.map recordJson.toVec)).head? = some 10) := by
    rw [not_or]
    exact ⟨join_lines_single _ plain, join_lines_head _ plain⟩
  rw [verifyAuditFrom, if_neg (Nat.not_lt.mpr sized), if_neg whole, if_neg filled, audit_lines_join _ plain]
  refine (verify_lines_ok lib _ start stop).mpr ⟨records, ?_, linked⟩
  rw [map_map]
  exact map_congr_left read

end Chain

end HeptaBao.Audit
