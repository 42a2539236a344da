import HeptaBao.Engines.Kv

namespace HeptaBao.Engines

open Wire Durable List

abbrev Members := List (Str × Value)

def member (members : Members) (name : Str) : Option Value := (members.find? (·.1 == name)).map (·.2)

-- A serde_json object is a map, so its names ascend; an array is never looked into.
inductive Formed : Value → Prop where
  | plain (value : Value) (other : value.asObject = none) : Formed value
  | object (members : Members) (ascends : Ascending members) (each : ∀ entry ∈ members, Formed entry.2) : Formed (.object members)

-- One name of RFC 7396. A missing target counts as null: neither is an object.
def rfcMember (merge : Value → Value → Value) : Option Value → Option Value → Option Value
  | none, old => old
  | some .null, _ => none
  | some value, old => some (merge (old.getD .null) value)

structure Rfc7396 (merge : Value → Value → Value) : Prop where
  plain : ∀ target patch, patch.asObject = none → merge target patch = patch
  object : ∀ target patch, Formed target → Formed (.object patch) → ∃ merged, merge target (.object patch) =
    .object merged ∧
    Ascending merged ∧ ∀ name, member merged name = rfcMember merge (member patch name) (member (target.asObject.getD []) name)

theorem apart_of_compare {a b : Str} (compared : compare a b ≠ .eq) : a ≠ b := fun same =>
  compared (same ▸ Std.ReflCmp.compare_self)

theorem member_cons (name other : Str) (value : Value) (members : Members) :
    member ((name, value) :: members) other = if name = other then some value else member members other := by
  by_cases same : name = other <;> simp [member, same]

theorem mem_iff_member {members : Members} (ascends : Ascending members) (name : Str) (value : Value) :
    (name, value) ∈ members ↔ member members name = some value := by
  induction members with
  | nil => simp [member]
  | cons entry members ih =>
    obtain ⟨other, old⟩ := entry
    obtain ⟨below, tail⟩ := pairwise_cons.mp ascends
    rw [mem_cons, ih tail, member_cons, Prod.mk.injEq]
    by_cases same : other = name
    · subst same
      have absent : member members other ≠ some value := fun found =>
        apart_of_compare (by rw [below _ ((ih tail).mpr found)]; decide) rfl
      simp [absent, eq_comm]
    · simp [same, Ne.symm same]

theorem ascending_ext {a b : Members} (ascendsA : Ascending a) (ascendsB : Ascending b)
    (same : ∀ name, member a name = member b name) : a = b := by
  have listed : a.Perm b := by
    refine (perm_ext_iff_of_nodup (List.Nodup.of_map _ (ascending_distinct a ascendsA))
      (List.Nodup.of_map _ (ascending_distinct b ascendsB))).mpr fun entry => ?_
    rw [mem_iff_member ascendsA, mem_iff_member ascendsB, same]
  refine listed.eq_of_pairwise (fun left right _ _ first second => ?_) ascendsA ascendsB
  rw [Std.OrientedCmp.gt_iff_lt.mpr second] at first
  cases first

theorem member_set (name other : Str) (value : Value) (members : Members) :
    member (setMember name value members) other = if name = other then some value else member members other := by
  induction members with
  | nil => rw [setMember, member_cons]
  | cons entry members ih =>
    obtain ⟨head, old⟩ := entry
    rw [setMember]
    split
    · rw [member_cons]
    · rename_i order
      rw [Std.LawfulEqOrd.compare_eq_iff_eq.mp order]
      simp only [member_cons]
      split <;> rfl
    · rename_i order
      have apart : name ≠ head := apart_of_compare (by rw [order]; decide)
      simp only [member_cons, ih]
      by_cases here : name = other
      · rw [if_pos here, if_pos here, if_neg fun same => apart (here.trans same.symm)]
      · rw [if_neg here, if_neg here]

theorem set_listed {name : Str} {value : Value} {members : Members} {entry : Str × Value}
    (listed : entry ∈ setMember name value members) : entry = (name, value) ∨ entry ∈ members := by
  induction members with
  | nil => exact .inl (mem_singleton.mp listed)
  | cons head members ih =>
    rw [setMember] at listed
    split at listed
    · exact mem_cons.mp listed
    · exact (mem_cons.mp listed).imp_right (mem_cons_of_mem _)
    · rcases mem_cons.mp listed with same | later
      · exact .inr (same ▸ mem_cons_self)
      · exact (ih later).imp_right (mem_cons_of_mem _)

theorem set_ascends (name : Str) (value : Value) {members : Members} (ascends : Ascending members) :
    Ascending (setMember name value members) := by
  induction members with
  | nil => exact pairwise_singleton _ _
  | cons head members ih =>
    obtain ⟨below, tail⟩ := pairwise_cons.mp ascends
    rw [setMember]
    split
    · rename_i order
      refine pairwise_cons.mpr ⟨fun other listed => ?_, ascends⟩
      rcases mem_cons.mp listed with rfl | later
      · exact order
      · exact Std.TransCmp.lt_trans order (below other later)
    · rename_i order
      obtain rfl := Std.LawfulEqOrd.compare_eq_iff_eq.mp order
      exact pairwise_cons.mpr ⟨below, tail⟩
    · rename_i order
      refine pairwise_cons.mpr ⟨fun other listed => ?_, ih tail⟩
      rcases set_listed listed with rfl | later
      · exact Std.OrientedCmp.gt_iff_lt.mp order
      · exact below other later

theorem member_filter (name other : Str) (members : Members) :
    member (members.filter (·.1 != name)) other = if name = other then none else member members other := by
  induction members with
  | nil => simp [member]
  | cons entry members ih =>
    obtain ⟨head, old⟩ := entry
    rw [filter_cons]
    by_cases gone : head = name
    · rw [if_neg (by simp [gone]), ih, member_cons, gone]
      by_cases here : name = other
      · rw [if_pos here, if_pos here]
      · rw [if_neg here, if_neg here, if_neg here]
    · rw [if_pos (by simp [gone]), member_cons, ih, member_cons]
      by_cases here : head = other
      · rw [if_pos here, if_pos here, if_neg fun same => gone (here.trans same.symm)]
      · rw [if_neg here, if_neg here]

theorem merge_members_value {members patch : Members} {name : Str} {value : Value} (present : value ≠ .null) :
    mergeMembers members ((name, value) :: patch) =
      mergeMembers (setMember name (mergePatch ((member members name).getD .null) value) members) patch := by
  rw [mergeMembers]
  · rfl
  · exact present

variable {merge : Value → Value → Value}

theorem rfc_value {value : Value} (present : value ≠ .null) (old : Option Value) :
    rfcMember merge (some value) old = some (merge (old.getD .null) value) := by
  cases value with
  | null => exact absurd rfl present
  | bool | natural | negative | float | string | array | object => rfl

-- The names of a patch are distinct, so the order of merging does not show.
theorem merge_members_spec (patch : Members) (distinct : (patch.map Prod.fst).Nodup) {members : Members}
    (ascends : Ascending members) :
    Ascending (mergeMembers members patch) ∧
      ∀ name, member (mergeMembers members patch) name = rfcMember mergePatch (member patch name)
        (member members name) := by
  induction patch generalizing members with
  | nil => exact ⟨by rwa [mergeMembers], fun name => by rw [mergeMembers]; rfl⟩
  | cons entry patch ih =>
    obtain ⟨head, value⟩ := entry
    obtain ⟨fresh, later⟩ := nodup_cons.mp distinct
    have absent : member patch head = none := by
      rw [member, Option.map_eq_none_iff, find?_eq_none]
      intro other listed same
      exact fresh (mem_map.mpr ⟨other, listed, beq_iff_eq.mp same⟩)
    by_cases null : value = .null
    · subst null
      obtain ⟨sorted, each⟩ := ih later (ascends.filter (·.1 != head))
      rw [mergeMembers]
      refine ⟨sorted, fun name => ?_⟩
      rw [each, member_filter, member_cons]
      by_cases here : head = name
      · rw [if_pos here, if_pos here, ← here, absent]
        rfl
      · rw [if_neg here, if_neg here]
    · rw [merge_members_value null]
      obtain ⟨sorted, each⟩ := ih later (set_ascends head (mergePatch ((member members head).getD .null) value) ascends)
      refine ⟨sorted, fun name => ?_⟩
      rw [each, member_set, member_cons]
      by_cases here : head = name
      · rw [if_pos here, if_pos here, ← here, absent, rfc_value null]
        rfl
      · rw [if_neg here, if_neg here]

theorem formed_object {members : Members} (formed : Formed (.object members)) :
    Ascending members ∧ ∀ name value, member members name = some value → Formed value := by
  cases formed with
  | plain _ other => cases other
  | object _ ascends each => exact ⟨ascends, fun name value found => each _ ((mem_iff_member ascends name value).mpr found)⟩

theorem formed_members {value : Value} (formed : Formed value) : Ascending (value.asObject.getD []) ∧
    ∀ name inner, member (value.asObject.getD []) name = some inner → Formed inner := by
  cases value with
  | object members => exact formed_object formed
  | null | bool | natural | negative | float | string | array => exact ⟨.nil, nofun⟩

theorem merge_patch_rfc : Rfc7396 mergePatch where
  plain target patch other := by
    cases patch with
    | object members => cases other
    | null | bool | natural | negative | float | string | array => rw [mergePatch]; nofun
  object target patch formed formedPatch := by
    obtain ⟨sorted, each⟩ := merge_members_spec patch (ascending_distinct _ (formed_object formedPatch).1) (formed_members formed).1
    exact ⟨_, by rw [mergePatch], sorted, each⟩

theorem old_formed {target : Value} (formed : Formed target) (name : Str) :
    Formed ((member (target.asObject.getD []) name).getD .null) := by
  cases old : member (target.asObject.getD []) name with
  | none => exact .plain _ rfl
  | some inner => exact (formed_members formed).2 name inner old

variable {patch : Value}

theorem rfc_unique {other : Value → Value → Value} (rfc : Rfc7396 merge) (rfcOther : Rfc7396 other)
    (formedPatch : Formed patch) {target : Value} (formed : Formed target) :
      merge target patch = other target patch := by
  induction formedPatch generalizing target with
  | plain patch none => rw [rfc.plain target patch none, rfcOther.plain target patch none]
  | object patch ascends each ih =>
    obtain ⟨merged, same, sorted, names⟩ := rfc.object target patch formed (.object patch ascends each)
    obtain ⟨merged', same', sorted', names'⟩ := rfcOther.object target patch formed (.object patch ascends each)
    rw [same, same']
    refine congrArg Value.object (ascending_ext sorted sorted' fun name => ?_)
    rw [names, names']
    cases found : member patch name with
    | none => rfl
    | some value =>
      by_cases null : value = .null
      · rw [null]
        rfl
      · rw [rfc_value null, rfc_value null]
        exact congrArg some (ih _ ((mem_iff_member ascends name value).mpr found) (old_formed formed name))

theorem rfc_formed (rfc : Rfc7396 merge) (formedPatch : Formed patch) {target : Value} (formed : Formed target) :
    Formed (merge target patch) := by
  induction formedPatch generalizing target with
  | plain patch none =>
    rw [rfc.plain target patch none]
    exact .plain patch none
  | object patch ascends each ih =>
    obtain ⟨merged, same, sorted, names⟩ := rfc.object target patch formed (.object patch ascends each)
    rw [same]
    refine .object merged sorted fun entry listed => ?_
    have found := (mem_iff_member sorted entry.1 entry.2).mp listed
    rw [names] at found
    cases asked : member patch entry.1 with
    | none =>
      rw [asked] at found
      exact (formed_members formed).2 entry.1 entry.2 found
    | some value =>
      rw [asked] at found
      by_cases null : value = .null
      · rw [null] at found
        cases found
      · rw [rfc_value null] at found
        rw [← Option.some.inj found]
        exact ih _ ((mem_iff_member ascends entry.1 value).mpr asked) (old_formed formed entry.1)

theorem rfc_repeat (rfc : Rfc7396 merge) (formedPatch : Formed patch) {target : Value}
    (formed : Formed target) : merge (merge target patch) patch = merge target patch := by
  induction formedPatch generalizing target with
  | plain patch none => rw [rfc.plain _ patch none, rfc.plain _ patch none]
  | object patch ascends each ih =>
    have whole : Formed (.object patch) := .object patch ascends each
    obtain ⟨merged, same, sorted, names⟩ := rfc.object target patch formed whole
    obtain ⟨again, same', sorted', names'⟩ := rfc.object _ patch (rfc_formed rfc whole formed) whole
    rw [same', same]
    refine congrArg Value.object (ascending_ext sorted' sorted fun name => ?_)
    rw [names', same]
    change rfcMember merge (member patch name) (member merged name) = member merged name
    rw [names]
    cases asked : member patch name with
    | none => rfl
    | some value =>
      by_cases null : value = .null
      · rw [null]
        rfl
      · rw [rfc_value null, rfc_value null]
        exact congrArg some (ih _ ((mem_iff_member ascends name value).mpr asked) (old_formed formed name))

-- What lies at the end of a path of member names.
def memberAt : List Str → Value → Option Value
  | [], value => some value
  | name :: path, value => (value.get name).bind (memberAt path)

theorem rfc_removes (rfc : Rfc7396 merge) (path : List Str) (filled : path ≠ []) {target : Value}
    (formedPatch : Formed patch) (formed : Formed target) (null : memberAt path patch = some .null) :
      memberAt path (merge target patch) = none := by
  induction path generalizing patch target with
  | nil => exact absurd rfl filled
  | cons name path ih =>
    cases patch with
    | object patch =>
      obtain ⟨merged, same, sorted, names⟩ := rfc.object target patch formed formedPatch
      obtain ⟨value, asked, rest⟩ := Option.bind_eq_some_iff.mp null
      have asked : member patch name = some value := asked
      rw [same, memberAt]
      change (member merged name).bind (memberAt path) = none
      rw [names, asked]
      by_cases gone : value = .null
      · rw [gone]
        rfl
      · rw [rfc_value gone]
        refine ih (fun empty => gone ?_) ((formed_object formedPatch).2 name value asked) (old_formed formed name) rest
        rw [empty] at rest
        exact Option.some.inj rest
    | null | bool | natural | negative | float | string | array => cases null

/-- The patch function computes the merge of RFC 7396. -/
theorem merge_patch_is_rfc7396 : (Rfc7396 mergePatch ∧ ∀ merge, Rfc7396 merge → ∀ target patch, Formed target →
    Formed patch →
      mergePatch target patch = merge target patch) ∧ (∀ target patch, Formed target → Formed patch →
      mergePatch (mergePatch target patch) patch = mergePatch target patch) ∧
    (∀ target patch path, Formed (.object target) → Formed (.object patch) → path ≠ [] →
      memberAt path (.object patch) = some .null → memberAt path (mergePatch (.object target) (.object patch)) =
        none) := by
  refine ⟨⟨merge_patch_rfc, ?_⟩, ?_, ?_⟩
  · intro merge rfc target patch formed formedPatch
    exact rfc_unique merge_patch_rfc rfc formedPatch formed
  · intro target patch formed formedPatch
    exact rfc_repeat merge_patch_rfc formedPatch formed
  · intro target patch path formed formedPatch filled null
    exact rfc_removes merge_patch_rfc path filled formedPatch formed null

-- A null under an object that the target does not have yet.
theorem merge_patch_is_rfc7396_nested : memberAt [[97], [98]]
    (mergePatch (.object []) (.object [([97], .object [([98], .null)])])) = none :=
  merge_patch_is_rfc7396.2.2 [] [([97], .object [([98], .null)])] [[97], [98]]
    (.object [] .nil nofun)
    (.object _ (pairwise_singleton _ _) (by
      intro entry listed
      rw [mem_singleton.mp listed]
      refine .object _ (pairwise_singleton _ _) fun inner listed => ?_
      rw [mem_singleton.mp listed]
      exact .plain _ rfl))
    (by decide) rfl

end HeptaBao.Engines
