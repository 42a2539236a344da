import HeptaBao.Wire.Text

namespace Wire

open List

-- An object lists its members; a map has each name once and in order.
inductive Value where
  | null
  | bool (value : Bool)
  | natural (value : UInt64)
  | negative (magnitude : UInt64)
  | float (bits : UInt64)
  | string (text : Bytes)
  | array (items : List Value)
  | object (members : List (Bytes × Value))

namespace Value

def get (name : Bytes) : Value → Option Value
  | object members => (members.find? (·.1 == name)).map (·.2)
  | _ => none

def asStr : Value → Option Bytes
  | string text => some text
  | _ => none

def asU64 : Value → Option Nat
  | natural value => some value.toNat
  | _ => none

def asBool : Value → Option Bool
  | bool value => some value
  | _ => none

def asArray : Value → Option (List Value)
  | array items => some items
  | _ => none

def asObject : Value → Option (List (Bytes × Value))
  | object members => some members
  | _ => none

def ofNat (value : Nat) : Value := natural (UInt64.ofNat value)

def ofOption : Option Nat → Value
  | none => null
  | some value => ofNat value

def ofStrings (items : List Bytes) : Value := array (items.map string)

end Value

def insertMember (name : Bytes) (value : Value) : List (Bytes × Value) → Option (List (Bytes × Value))
  | [] => some [(name, value)]
  | (other, old) :: rest =>
    match compare name other with
    | .lt => some ((name, value) :: (other, old) :: rest)
    | .eq => none
    | .gt => (insertMember name value rest).map ((other, old) :: ·)

-- Sorts every object's members and refuses a name that stands twice.
mutual

def strict : Value → Option Value
  | .array items => (strictItems items).map .array
  | .object members => (strictMembers members).map .object
  | .null => some .null
  | .bool value => some (.bool value)
  | .natural value => some (.natural value)
  | .negative magnitude => some (.negative magnitude)
  | .float bits => some (.float bits)
  | .string text => some (.string text)

def strictItems : List Value → Option (List Value)
  | [] => some []
  | item :: items => do
    let first ← strict item
    let rest ← strictItems items
    some (first :: rest)

def strictMembers : List (Bytes × Value) → Option (List (Bytes × Value))
  | [] => some []
  | (name, value) :: members => do
    let first ← strict value
    let rest ← strictMembers members
    insertMember name first rest

end

theorem insert_member_perm {name : Bytes} {value : Value} {members : List (Bytes × Value)}
    (joined : List (Bytes × Value))
    (inserted : insertMember name value members = some joined) : joined.Perm ((name, value) :: members) := by
  induction members generalizing joined with
  | nil =>
    cases inserted
    exact .refl _
  | cons member members ih =>
    rw [insertMember] at inserted
    cases order : compare name member.1 with
    | lt =>
      rw [order] at inserted
      cases inserted
      exact .refl _
    | eq =>
      rw [order] at inserted
      cases inserted
    | gt =>
      rw [order] at inserted
      obtain ⟨rest, found, rfl⟩ := Option.map_eq_some_iff.mp inserted
      exact ((ih rest found).cons member).trans (.swap (name, value) member members)

theorem insert_member_fresh (name : Bytes) (value : Value) (members : List (Bytes × Value))
    (fresh : name ∉ members.map Prod.fst) : ∃ joined, insertMember name value members = some joined := by
  induction members with
  | nil => exact ⟨_, rfl⟩
  | cons member _ ih =>
    rw [map_cons, mem_cons, not_or] at fresh
    rw [insertMember]
    cases order : compare name member.1 with
    | lt => exact ⟨_, rfl⟩
    | eq => exact absurd (Std.LawfulEqCmp.eq_of_compare order) fresh.1
    | gt =>
      obtain ⟨_, found⟩ := ih fresh.2
      rw [found]
      exact ⟨_, rfl⟩

-- The names ascend, which is what makes a repeated name meet its first occurrence.
def Ascending (members : List (Bytes × Value)) : Prop := members.Pairwise fun left right => compare left.1 right.1 = .lt

theorem insert_member_ascends (name : Bytes) (value : Value) (members joined : List (Bytes × Value))
    (ascends : Ascending members)
    (inserted : insertMember name value members = some joined) : Ascending joined := by
  induction members generalizing joined with
  | nil =>
    cases inserted
    exact pairwise_singleton _ _
  | cons member members ih =>
    have tail := pairwise_cons.mp ascends
    rw [insertMember] at inserted
    cases order : compare name member.1 with
    | lt =>
      rw [order] at inserted
      cases inserted
      refine pairwise_cons.mpr ⟨fun other listed => ?_, ascends⟩
      cases mem_cons.mp listed with
      | inl same => rw [same]; exact order
      | inr later => exact Std.TransCmp.lt_trans order (tail.1 other later)
    | eq =>
      rw [order] at inserted
      cases inserted
    | gt =>
      rw [order] at inserted
      obtain ⟨rest, found, rfl⟩ := Option.map_eq_some_iff.mp inserted
      refine pairwise_cons.mpr ⟨fun other listed => ?_, ih rest tail.2 found⟩
      cases mem_cons.mp ((insert_member_perm rest found).mem_iff.mp listed) with
      | inl same => rw [same]; exact Std.OrientedCmp.gt_iff_lt.mp order
      | inr later => exact tail.1 other later

theorem strict_members_distinct (members sorted : List (Bytes × Value)) (read : strictMembers members = some sorted) :
    Ascending sorted ∧ (sorted.map Prod.fst).Perm (members.map Prod.fst) := by
  induction members generalizing sorted with
  | nil =>
    rw [strictMembers] at read
    cases read
    exact ⟨List.Pairwise.nil, .refl _⟩
  | cons member _ ih =>
    rw [strictMembers] at read
    obtain ⟨_, _, read⟩ := Option.bind_eq_some_iff.mp read
    obtain ⟨rest, later, read⟩ := Option.bind_eq_some_iff.mp read
    obtain ⟨ascends, same⟩ := ih rest later
    exact ⟨insert_member_ascends _ _ _ _ ascends read, ((insert_member_perm _ read).map Prod.fst).trans (same.cons member.1)⟩

theorem ascending_distinct (members : List (Bytes × Value)) (ascends : Ascending members) :
    (members.map Prod.fst).Nodup := by
  refine pairwise_map.mpr (ascends.imp ?_)
  intro left right order same
  have self : compare right.1 right.1 = .eq := Std.ReflCmp.compare_self
  rw [same, self] at order
  cases order

theorem strict_members_repeats (members : List (Bytes × Value)) (repeats : ¬ (members.map Prod.fst).Nodup) :
    strictMembers members = none := by
  cases read : strictMembers members with
  | none => rfl
  | some sorted =>
    obtain ⟨ascends, same⟩ := strict_members_distinct members sorted read
    exact absurd (same.nodup_iff.mp (ascending_distinct _ ascends)) repeats

theorem strict_members_refused (members : List (Bytes × Value)) (member : Bytes × Value) (listed : member ∈ members)
    (refused : strict member.2 = none) : strictMembers members = none := by
  induction members with
  | nil => cases listed
  | cons first _ ih =>
    rw [strictMembers]
    cases mem_cons.mp listed with
    | inl same =>
      rw [← same, refused]
      rfl
    | inr later =>
      rw [ih later]
      cases strict first.2 <;> rfl

theorem strict_members_perm (members : List (Bytes × Value))
    (fixed : ∀ member ∈ members, strict member.2 = some member.2)
    (distinct : (members.map Prod.fst).Nodup) : ∃ sorted, strictMembers members = some sorted ∧
      sorted.Perm members := by
  induction members with
  | nil => exact ⟨[], by rw [strictMembers], .refl _⟩
  | cons member _ ih =>
    obtain ⟨fresh, distinct⟩ := nodup_cons.mp distinct
    obtain ⟨rest, read, same⟩ := ih (fun other listed => fixed other (mem_cons_of_mem _ listed)) distinct
    have absent : member.1 ∉ rest.map Prod.fst := fun listed => fresh ((same.map Prod.fst).mem_iff.mp listed)
    obtain ⟨joined, inserted⟩ := insert_member_fresh member.1 member.2 rest absent
    refine ⟨joined, ?_, (insert_member_perm _ inserted).trans (same.cons member)⟩
    rw [strictMembers, fixed member mem_cons_self, read]
    exact inserted

theorem strict_strings (items : List Bytes) : strict (.ofStrings items) = some (.ofStrings items) := by
  have all : strictItems (items.map .string) = some (items.map .string) := by
    induction items with
    | nil => rw [map_nil, strictItems]
    | cons _ _ ih =>
      rw [map_cons, strictItems, ih, strict]
      rfl
  rw [Value.ofStrings, strict, all]
  rfl

end Wire
