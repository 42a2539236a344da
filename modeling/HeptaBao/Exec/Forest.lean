import Mathlib.Logic.Relation
import Mathlib.Data.Finset.Card

namespace Forest

open List

-- Records that point at one other identity at most, maybe missing or in a cycle.
section

variable {α β : Type} (node : α → Option β) (up : β → Option α)

def Up (child above : α) : Prop := ∃ record, node child = some record ∧ up record = some above

-- Every record from an identity to the top is present and sound.
inductive Lineage (sound : β → Prop) : α → Prop where
  | top (id : α) (record : β) (found : node id = some record) (holds : sound record) (ends : up record = none) :
      Lineage sound id
  | under (id above : α) (record : β) (found : node id = some record) (holds : sound record)
      (points : up record = some above) (rest : Lineage sound above) : Lineage sound id

variable {node up}

theorem lineage_record (sound : β → Prop) (id : α) (lineage : Lineage node up sound id) :
    ∃ record, node id = some record ∧ sound record := by
  cases lineage with
  | top _ record found holds | under _ _ record found holds => exact ⟨record, found, holds⟩

theorem lineage_above (sound : β → Prop) (id above : α) (lineage : Lineage node up sound id)
    (link : Up node up id above) :
    Lineage node up sound above := by
  obtain ⟨_, found, points⟩ := link
  cases lineage with
  | top _ _ foundOther _ ends =>
    rw [found] at foundOther
    cases foundOther
    rw [ends] at points
    cases points
  | under _ _ _ foundOther _ pointsOther rest =>
    rw [found] at foundOther
    cases foundOther
    rw [points] at pointsOther
    cases pointsOther
    exact rest

theorem lineage_acyclic {sound : β → Prop} {id : α} (lineage : Lineage node up sound id) :
    ¬Relation.TransGen (Up node up) id id := by
  induction lineage with
  | top _ _ found _ ends =>
    intro cycle
    obtain ⟨next, ⟨other, foundOther, points⟩, _⟩ := Relation.TransGen.head'_iff.mp cycle
    rw [found] at foundOther
    cases foundOther
    rw [ends] at points
    cases points
  | under _ _ record found _ points _ ih =>
    intro cycle
    obtain ⟨_, ⟨_, foundOther, pointsOther⟩, back⟩ := Relation.TransGen.head'_iff.mp cycle
    rw [found] at foundOther
    cases foundOther
    rw [points] at pointsOther
    cases pointsOther
    exact ih (Relation.TransGen.tail' back ⟨record, found, points⟩)

theorem lineage_transfer {other : α → Option β} (sound : β → Prop) (id : α) (lineage : Lineage node up sound id)
    (same : ∀ above, Relation.ReflTransGen (Up node up) id above → other above = node above) :
      Lineage other up sound id := by
  induction lineage with
  | top id record found holds ends => exact .top id record ((same id .refl).trans found) holds ends
  | under id above record found holds points _ ih =>
    refine .under id above record ((same id .refl).trans found) holds points (ih fun further reaches => ?_)
    exact same further (reaches.head ⟨record, found, points⟩)

end

section

variable {α β : Type} [DecidableEq α] (node : α → Option β) (up : β → Option α)

-- The climb gives up at a record missing, unsound or seen before.
def climb (sound : β → Bool) : Nat → List α → Option α → Bool
  | _, _, none => true
  | 0, _, some _ => false
  | fuel + 1, seen, some id =>
    if id ∈ seen then false
    else match node id with
      | none => false
      | some record => if sound record then climb sound fuel (id :: seen) (up record) else false

variable {node up}

theorem climb_lineage (sound : β → Bool) (fuel : Nat) (seen : List α) (id : α)
    (climbs : climb node up sound fuel seen (some id) = true) : Lineage node up (sound · = true) id := by
  induction fuel generalizing seen id with
  | zero => simp [climb] at climbs
  | succ _ ih =>
    rw [climb] at climbs
    by_cases again : id ∈ seen
    · simp [again] at climbs
    · rw [if_neg again] at climbs
      cases found : node id with
      | none => simp [found] at climbs
      | some record =>
        rw [found] at climbs
        by_cases holds : sound record = true
        · simp only [holds, if_true] at climbs
          cases points : up record with
          | none => exact .top id record found holds points
          | some above => exact .under id above record found holds points (ih _ above (points ▸ climbs))
        · simp [holds] at climbs

theorem lineage_climb (sound : β → Bool) (nodes : Finset α) (covers : ∀ id record, node id = some record → id ∈ nodes)
    (id : α) (lineage : Lineage node up (sound · = true) id) (fuel : Nat) (seen : List α) (distinct : seen.Nodup)
    (known : ∀ other ∈ seen, other ∈ nodes) (enough : nodes.card < fuel + seen.length)
    (apart : ∀ other ∈ seen, ¬Relation.ReflTransGen (Up node up) id other) : climb node up sound fuel seen (some id) =
      true := by
  have fits : ∀ listed : List α, listed.Nodup → (∀ other ∈ listed, other ∈ nodes) → listed.length ≤ nodes.card := by
    intro listed nodup inside
    rw [← toFinset_card_of_nodup nodup]
    exact Finset.card_le_card fun other member => inside other (mem_toFinset.mp member)
  have acyclic := lineage_acyclic lineage
  induction lineage generalizing fuel seen with
  | top id _ found holds ends =>
    cases fuel with
    | zero => have := fits seen distinct known; omega
    | succ =>
      have unseen : id ∉ seen := fun member => apart id member .refl
      simp [climb, unseen, found, holds, ends]
  | under id above record found holds points rest ih =>
    cases fuel with
    | zero => have := fits seen distinct known; omega
    | succ fuel =>
      have unseen : id ∉ seen := fun member => apart id member .refl
      have link : Up node up id above := ⟨record, found, points⟩
      simp only [climb, if_neg unseen, found, holds, if_true, points]
      refine ih fuel (id :: seen) (nodup_cons.mpr ⟨unseen, distinct⟩) ?_ (by simp; omega) ?_ (lineage_acyclic rest)
      · intro other member
        rcases mem_cons.mp member with rfl | later
        · exact covers other record found
        · exact known other later
      · intro other member reaches
        rcases mem_cons.mp member with rfl | later
        · exact acyclic (Relation.TransGen.head' link reaches)
        · exact apart other later (reaches.head link)

def foldUp {γ : Type} (node : α → Option β) (up : β → Option α) (step : γ → β → γ) : Nat → Option α → γ → Option γ
  | _, none, res => some res
  | 0, some _, _ => none
  | fuel + 1, some id, res =>
    match node id with
    | none => none
    | some record => foldUp node up step fuel (up record) (step res record)

end

variable {α : Type} [DecidableEq α]

def saturate (grow : Finset α → Finset α) : Nat → Finset α → Finset α
  | 0, members => members
  | fuel + 1, members =>
    let next := members ∪ grow members
    if next.card = members.card then members else saturate grow fuel next

theorem saturate_start (grow : Finset α → Finset α) (fuel : Nat) (members : Finset α) :
    members ⊆ saturate grow fuel members := by
  induction fuel generalizing members with
  | zero => exact Finset.Subset.refl _
  | succ _ ih =>
    rw [saturate]
    by_cases same : (members ∪ grow members).card = members.card
    · simp [same]
    · simp only [same, if_false]
      exact Finset.subset_union_left.trans (ih _)

theorem saturate_within (grow : Finset α → Finset α) (inside : α → Prop)
    (closed : ∀ members, (∀ id ∈ members, inside id) → ∀ id ∈ grow members, inside id)
    (fuel : Nat) (members : Finset α) (starts : ∀ id ∈ members, inside id) : ∀ id ∈ saturate grow fuel members,
      inside id := by
  induction fuel generalizing members with
  | zero => exact starts
  | succ _ ih =>
    rw [saturate]
    by_cases same : (members ∪ grow members).card = members.card
    · simpa [same] using starts
    · simp only [same, if_false]
      apply ih
      intro id member
      rcases Finset.mem_union.mp member with old | fresh
      · exact starts id old
      · exact closed members starts id fresh

theorem saturate_closed (grow : Finset α → Finset α) (whole : Finset α) (bounded : ∀ members, grow members ⊆ whole)
    (fuel : Nat) (members : Finset α) (enough : (whole \ members).card < fuel) :
      grow (saturate grow fuel members) ⊆ saturate grow fuel members := by
  induction fuel generalizing members with
  | zero => omega
  | succ _ ih =>
    rw [saturate]
    by_cases same : (members ∪ grow members).card = members.card
    · simp only [same, if_true]
      have fixed := Finset.eq_of_subset_of_card_le (Finset.subset_union_left : members ⊆ members ∪ grow members) same.le
      exact Finset.subset_union_right.trans fixed.symm.subset
    · simp only [same, if_false]
      apply ih
      -- a round that adds something leaves less to add
      have adds : ∃ id ∈ grow members, id ∉ members := by
        by_contra none
        apply same
        rw [Finset.union_eq_left.mpr]
        intro id member
        by_contra outside
        exact none ⟨id, member, outside⟩
      obtain ⟨_, member, outside⟩ := adds
      have fewer : (whole \ (members ∪ grow members)).card < (whole \ members).card := by
        apply Finset.card_lt_card
        refine ⟨Finset.sdiff_subset_sdiff (Finset.Subset.refl _) Finset.subset_union_left, fun back => ?_⟩
        have inside := back (Finset.mem_sdiff.mpr ⟨bounded members member, outside⟩)
        exact (Finset.mem_sdiff.mp inside).2 (Finset.mem_union_right _ member)
      omega

end Forest
