import Mathlib
import HeptaBao.Wire.Reader

namespace Wire

open Std List ExtTreeMap

variable {κ β : Type} {cmp : κ → κ → Ordering} [TransCmp cmp] [LawfulEqCmp cmp] [DecidableEq κ]

theorem lookup_insert (map : ExtTreeMap κ β cmp) (key other : κ) (value : β) :
    (map.insert key value)[other]? = if key = other then some value else map[other]? := by
  rw [ExtTreeMap.getElem?_insert]
  simp only [LawfulEqCmp.compare_eq_iff_eq]

theorem mem_of_list (entries : List (κ × β)) (key : κ) : key ∈ ExtTreeMap.ofList entries cmp ↔
    ∃ value, (key, value) ∈ entries := by
  rw [mem_ofList, List.contains_iff_mem, List.mem_map]
  constructor
  · rintro ⟨⟨name, value⟩, listed, rfl⟩
    exact ⟨value, listed⟩
  · rintro ⟨value, listed⟩
    exact ⟨(key, value), listed, rfl⟩

theorem fold_insert_toList (map : ExtTreeMap κ β cmp) :
    map.toList.foldl (fun built entry => built.insert entry.1 entry.2) ∅ = map := by
  rw [← ofList_eq_foldl]
  apply ExtTreeMap.ext_getElem?
  intro key
  cases found : map[key]? with
  | some =>
    exact getElem?_ofList_of_mem ReflCmp.compare_self distinct_keys_toList
      (mem_toList_iff_getElem?_eq_some.mpr found)
  | none =>
    apply ExtTreeMap.getElem?_eq_none
    rw [mem_of_list]
    rintro ⟨value, listed⟩
    have present := mem_toList_iff_getElem?_eq_some.mp listed
    rw [found] at present
    cases present

theorem fold_insert_map {δ : Type} (map : ExtTreeMap κ β cmp) (f : κ → β → δ) :
    map.toList.foldl (fun built entry => built.insert entry.1 (f entry.1 entry.2)) ∅ = map.map f := by
  have rebuilt := fold_insert_toList (map.map f)
  rwa [toList_map, foldl_map] at rebuilt

omit [DecidableEq κ] in
theorem keys_covered {δ : Type} {a : ExtTreeMap κ β cmp} {b : ExtTreeMap κ δ cmp} (size : b.size ≤ a.size)
    (covers : ∀ key, key ∈ a → key ∈ b) (key : κ) (present : key ∈ b) : key ∈ a := by
  have inside : a.keys ⊆ b.keys := fun other member => ExtTreeMap.mem_keys.mpr (covers other (ExtTreeMap.mem_keys.mp member))
  have part : a.keys.Subperm b.keys := nodup_keys.subperm inside
  have same := part.perm_of_length_le (by rw [length_keys, length_keys]; exact size)
  exact ExtTreeMap.mem_keys.mp (same.symm.subset (ExtTreeMap.mem_keys.mpr present))

theorem lookup_fold_insert {ι : Type} (entries : List ι) (name : ι → κ) (content : ι → β) (start : ExtTreeMap κ β cmp)
    (key : κ)
    (value : β) (found : (entries.foldl (fun built entry => built.insert (name entry) (content entry)) start)[key]? =
      some value) :
    (∃ entry ∈ entries, name entry = key ∧ content entry = value) ∨
      (start[key]? = some value ∧ ∀ entry ∈ entries, name entry ≠ key) := by
  induction entries using reverseRecOn with
  | nil => exact .inr ⟨found, by simp⟩
  | append_singleton _ last ih =>
    rw [foldl_append, foldl_cons, foldl_nil, lookup_insert] at found
    by_cases here : name last = key
    · rw [if_pos here] at found
      exact .inl ⟨last, by simp, here, Option.some.inj found⟩
    · rw [if_neg here] at found
      rcases ih found with ⟨entry, member, same⟩ | ⟨older, apart⟩
      · exact .inl ⟨entry, by simp [member], same⟩
      · refine .inr ⟨older, ?_⟩
        intro entry member
        rcases mem_append.mp member with before | only
        · exact apart entry before
        · rw [mem_singleton.mp only]
          exact here

theorem lookup_fold_apart {ι : Type} (entries : List ι) (name : ι → κ) (content : ι → β) (start : ExtTreeMap κ β cmp)
    (key : κ)
    (apart : ∀ entry ∈ entries, name entry ≠ key) :
    (entries.foldl (fun built entry => built.insert (name entry) (content entry)) start)[key]? = start[key]? := by
  induction entries generalizing start with
  | nil => rfl
  | cons entry _ ih =>
    rw [foldl_cons, ih _ (fun other member => apart other (by simp [member])), lookup_insert, if_neg (apart entry (by simp))]

theorem fold_insert_fresh {map : ExtTreeMap κ β cmp} {done left : List (κ × β)} {entry : κ × β}
    (shape : map.toList = done ++ entry :: left) :
    (done.foldl (fun built item => built.insert item.1 item.2) (∅ : ExtTreeMap κ β cmp)).contains entry.1 = false := by
  have distinct := distinct_keys_toList (t := map)
  rw [shape, pairwise_append] at distinct
  rw [← ofList_eq_foldl, ← Bool.not_eq_true, ExtTreeMap.contains_iff_mem, mem_of_list]
  rintro ⟨value, listed⟩
  exact distinct.2.2 (entry.1, value) listed entry mem_cons_self ReflCmp.compare_self

theorem reads_sorted_map {ε : Type} {body : ExtTreeMap κ β cmp → Reader ε (ExtTreeMap κ β cmp)}
    {write : κ × β → Except ε Bytes} {map : ExtTreeMap κ β cmp} {bytes : Bytes}
    (written : Reader.writeEach write map.toList = .ok bytes)
    (round : ∀ (built : ExtTreeMap κ β cmp) (key : κ) (value : β) (chunk : Bytes), map[key]? = some value →
      built.contains key = false → write (key, value) = .ok chunk →
        Reader.Reads (body built) chunk (built.insert key value)) :
    Reader.Reads (Reader.repeatFold body map.size ∅) bytes map := by
  have reads := Reader.reads_repeat body write (fun built entry => built.insert entry.1 entry.2) map.toList ∅ bytes
    written (fun done left entry chunk shape wrote => by
      refine round _ entry.1 entry.2 chunk ?_ (fold_insert_fresh shape) wrote
      apply mem_toList_iff_getElem?_eq_some.mp
      rw [shape]
      simp)
  rwa [length_toList, fold_insert_toList] at reads

end Wire
