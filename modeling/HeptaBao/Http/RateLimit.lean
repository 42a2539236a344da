import HeptaBao.Exec.Runs
import Mathlib

namespace HeptaBao.Http

open Std Exec List ExtTreeMap

inductive IpAddr where
  | v4 (address : BitVec 32)
  | v6 (address : BitVec 128)
deriving DecidableEq

def IpAddr.rank : IpAddr → Nat
  | v4 address => address.toNat
  | v6 address => 2 ^ 32 + address.toNat

theorem rank_injective (left right : IpAddr) (same : left.rank = right.rank) : left = right := by
  cases left with
  | v4 first =>
    cases right with
    | v4 => exact congrArg IpAddr.v4 (BitVec.eq_of_toNat_eq same)
    | v6 =>
      have small := first.isLt
      simp only [IpAddr.rank] at same
      omega
  | v6 =>
    cases right with
    | v4 second =>
      have small := second.isLt
      simp only [IpAddr.rank] at same
      omega
    | v6 => exact congrArg IpAddr.v6 (BitVec.eq_of_toNat_eq (Nat.add_left_cancel same))

instance : Ord IpAddr := ⟨compareOn IpAddr.rank⟩

instance : TransOrd IpAddr := inferInstanceAs (TransCmp (compareOn IpAddr.rank))

instance : LawfulEqOrd IpAddr where
  compare_self := Nat.compare_eq_eq.mpr rfl
  eq_of_compare {left right} same := rank_injective left right (Nat.compare_eq_eq.mp same)

def tokenScale : Nat := 1000000000
def rateBucketIdleNanos : Nat := 60 * tokenScale
def u128Max : Nat := 2 ^ 128 - 1

def saturatingAdd (left right : Nat) : Nat := min (left + right) u128Max
def saturatingMul (left right : Nat) : Nat := min (left * right) u128Max

structure RateBucket where
  tokens : Nat
  lastNanos : Nat
deriving DecidableEq

structure RateLimiter where
  ratePerSecond : Nat
  burstTokens : Nat
  maxEntries : Nat
  buckets : ExtTreeMap IpAddr RateBucket

def RateLimiter.new (ratePerSecond burst maxEntries : Nat) : Option RateLimiter :=
  if ratePerSecond = 0 ∨ 100000 < ratePerSecond ∨ burst = 0 ∨ 1000000 < burst ∨ maxEntries < 64 ∨ 65536 < maxEntries then none
  else some ⟨ratePerSecond, burst * tokenScale, maxEntries, ∅⟩

variable (lim : RateLimiter)

def retainBusy (now : Nat) : RateLimiter :=
  { lim with buckets := lim.buckets.filter fun _ bucket => now - bucket.lastNanos < rateBucketIdleNanos }

def refilled (bucket : RateBucket) (now : Nat) : Nat :=
  min (saturatingAdd bucket.tokens (saturatingMul (now - bucket.lastNanos) lim.ratePerSecond)) lim.burstTokens

variable (peer : IpAddr)

def takeToken (now : Nat) : Bool × RateLimiter :=
  let bucket := (lim.buckets[peer]?).getD ⟨lim.burstTokens, now⟩
  let tokens := refilled lim bucket now
  if tokens < tokenScale then (false, { lim with buckets := lim.buckets.insert peer ⟨tokens, now⟩ })
  else (true, { lim with buckets := lim.buckets.insert peer ⟨tokens - tokenScale, now⟩ })

def allowAt (now : Nat) : Bool × RateLimiter :=
  if peer ∉ lim.buckets ∧ lim.maxEntries ≤ lim.buckets.size then
    if lim.maxEntries ≤ (retainBusy lim now).buckets.size then (false, retainBusy lim now)
    else takeToken (retainBusy lim now) peer now
  else takeToken lim peer now

structure Call where
  peer : IpAddr
  now : Nat
deriving DecidableEq

def NonDecreasing (calls : List Call) : Prop := calls.Pairwise fun earlier later => earlier.now ≤ later.now

instance (calls : List Call) : Decidable (NonDecreasing calls) := inferInstanceAs (Decidable (List.Pairwise _ _))

def after (calls : List Call) : RateLimiter := run (fun reached call => (allowAt reached call.peer call.now).2) lim calls

def allowedCalls (peer : IpAddr) (first last : Nat) : RateLimiter → List Call → Nat
  | _, [] => 0
  | lim, call :: calls =>
    let answer := allowAt lim call.peer call.now
    (if call.peer = peer ∧ first ≤ call.now ∧ call.now ≤ last ∧ answer.1 = true then 1 else 0) + allowedCalls peer first last answer.2 calls

-- b + r * (t2 - t1) / 10^9
def WithinBound (rate burst : Nat) (lim : RateLimiter) (peer : IpAddr) (first last : Nat) (calls : List Call) : Prop :=
  (allowedCalls peer first last lim calls : ℚ) ≤ burst + rate * ((last : ℚ) - first) / 10 ^ 9

section Level

variable (lim : RateLimiter) (peer other : IpAddr) (now later : Nat)

-- What a peer has at a time. Without a bucket it is given a full one.
def level : Nat :=
  match lim.buckets[peer]? with
  | none => lim.burstTokens
  | some bucket => min (bucket.tokens + (now - bucket.lastNanos) * lim.ratePerSecond) lim.burstTokens

theorem level_at_most_burst : level lim peer now ≤ lim.burstTokens := by
  rw [level]
  cases lim.buckets[peer]? with
  | none => exact Nat.le_refl _
  | some => exact min_le_right _ _

theorem level_grows (order : now ≤ later) :
    level lim peer later ≤ level lim peer now + (later - now) * lim.ratePerSecond := by
  rw [level, level]
  cases lim.buckets[peer]? with
  | none => exact Nat.le_add_right _ _
  | some bucket =>
    have spread : later - bucket.lastNanos ≤ (now - bucket.lastNanos) + (later - now) := by omega
    have scaled := Nat.mul_le_mul_right lim.ratePerSecond spread
    rw [Nat.add_mul] at scaled
    simp only
    omega

theorem refilled_level (bucket : RateBucket) (bounded : lim.burstTokens ≤ u128Max) :
    refilled lim bucket now = min (bucket.tokens + (now - bucket.lastNanos) * lim.ratePerSecond) lim.burstTokens := by
  rw [refilled, saturatingAdd, saturatingMul]
  omega

theorem insert_other (bucket : RateBucket) (apart : other ≠ peer) :
    (lim.buckets.insert other bucket)[peer]? = lim.buckets[peer]? := by
  rw [ExtTreeMap.getElem?_insert, if_neg fun same => apart (LawfulEqCmp.eq_of_compare same)]

theorem level_of_lookup (changed : RateLimiter) (rate : changed.ratePerSecond = lim.ratePerSecond)
    (burst : changed.burstTokens = lim.burstTokens) (same : changed.buckets[peer]? = lim.buckets[peer]?) :
    level changed peer now = level lim peer now := by
  rw [level, level, same, rate, burst]

theorem take_token_level (bounded : lim.burstTokens ≤ u128Max) :
    level (takeToken lim other now).2 peer now +
        (if other = peer ∧ (takeToken lim other now).1 = true then tokenScale else 0) ≤
      level lim peer now := by
  have tokens := refilled_level lim now ((lim.buckets[other]?).getD ⟨lim.burstTokens, now⟩) bounded
  by_cases same : other = peer
  · subst same
    have full : min (((lim.buckets[other]?).getD ⟨lim.burstTokens, now⟩).tokens +
        (now - ((lim.buckets[other]?).getD ⟨lim.burstTokens, now⟩).lastNanos) * lim.ratePerSecond) lim.burstTokens =
        level lim other now := by
      rw [level]
      cases lim.buckets[other]? with
      | none => simp
      | some => rfl
    rw [full] at tokens
    have capped := level_at_most_burst lim other now
    simp only [takeToken, tokens]
    by_cases short : level lim other now < tokenScale
    · rw [if_pos short, level]
      simp only [getElem?_insert_self, Nat.sub_self, Nat.zero_mul]
      simp
    · rw [if_neg short, level]
      simp only [getElem?_insert_self, Nat.sub_self, Nat.zero_mul]
      simp
      omega
  · have kept : ∀ bucket, level { lim with buckets := lim.buckets.insert other bucket } peer now = level lim peer now :=
      fun bucket => level_of_lookup lim peer now _ rfl rfl (insert_other lim peer other bucket same)
    simp only [takeToken, same, false_and, if_false, Nat.add_zero]
    by_cases short : refilled lim ((lim.buckets[other]?).getD ⟨lim.burstTokens, now⟩) now < tokenScale
    · rw [if_pos short, kept]
    · rw [if_neg short, kept]

theorem retained_lookup : (retainBusy lim now).buckets[peer]? =
    lim.buckets[peer]?.filter fun bucket => now - bucket.lastNanos < rateBucketIdleNanos := by
  rw [retainBusy, ExtTreeMap.getElem?_filter]
  cases lim.buckets[peer]? <;> simp [Option.pfilter, Option.filter]

theorem retain_level (refills : lim.burstTokens ≤ rateBucketIdleNanos * lim.ratePerSecond) :
    level (retainBusy lim now) peer now = level lim peer now := by
  have lookup := retained_lookup lim peer now
  cases held : lim.buckets[peer]? with
  | none =>
    rw [held] at lookup
    exact level_of_lookup lim peer now _ rfl rfl (lookup.trans held.symm)
  | some bucket =>
    rw [held, Option.filter_some] at lookup
    by_cases busy : now - bucket.lastNanos < rateBucketIdleNanos
    · rw [decide_eq_true busy, if_pos rfl] at lookup
      exact level_of_lookup lim peer now _ rfl rfl (lookup.trans held.symm)
    · rw [decide_eq_false busy, if_neg Bool.false_ne_true] at lookup
      rw [level, lookup, level, held]
      have idle := Nat.mul_le_mul_right lim.ratePerSecond (Nat.le_of_not_lt busy)
      simp only [retainBusy]
      omega

end Level

-- The configuration part of a limiter never changes.
def Configured (rate burst entries : Nat) (lim : RateLimiter) : Prop :=
  lim.ratePerSecond = rate ∧ lim.burstTokens = burst * tokenScale ∧ lim.maxEntries = entries

theorem take_token_configured {rate burst entries : Nat} {lim : RateLimiter} (now : Nat)
    (configured : Configured rate burst entries lim) : Configured rate burst entries (takeToken lim peer now).2 := by
  rw [takeToken]
  split
  · exact configured
  · exact configured

theorem allow_at_configured {rate burst entries : Nat} {lim : RateLimiter} (peer : IpAddr) (now : Nat)
    (configured : Configured rate burst entries lim) : Configured rate burst entries (allowAt lim peer now).2 := by
  have retained : Configured rate burst entries (retainBusy lim now) := configured
  rw [allowAt]
  split
  · split
    · exact retained
    · exact take_token_configured peer now retained
  · exact take_token_configured peer now configured

theorem allowed_beyond (first last : Nat) (lim : RateLimiter) (calls : List Call)
    (beyond : ∀ call ∈ calls, last < call.now) : allowedCalls peer first last lim calls = 0 := by
  induction calls generalizing lim with
  | nil => rfl
  | cons call _ ih =>
    have late := beyond call mem_cons_self
    rw [allowedCalls, ih _ fun other listed => beyond other (mem_cons_of_mem _ listed), if_neg (by omega)]

section Bound

variable (rate burst entries : Nat) (small : burst ≤ 1000000) (refills : burst ≤ 60 * rate)
include small refills

theorem allow_at_level (lim : RateLimiter) (peer other : IpAddr) (now : Nat)
    (configured : Configured rate burst entries lim) :
    level (allowAt lim other now).2 peer now +
        (if other = peer ∧ (allowAt lim other now).1 = true then tokenScale else 0) ≤
      level lim peer now := by
  have bounded : lim.burstTokens ≤ u128Max := by
    rw [configured.2.1, tokenScale, u128Max]
    omega
  have idle : lim.burstTokens ≤ rateBucketIdleNanos * lim.ratePerSecond := by
    rw [configured.1, configured.2.1, rateBucketIdleNanos, tokenScale]
    omega
  have retained := retain_level lim peer now idle
  rw [allowAt]
  split
  · split
    · simp [retained]
    · rw [← retained]
      exact take_token_level (retainBusy lim now) peer other now bounded
  · exact take_token_level lim peer other now bounded

theorem allowed_from (peer : IpAddr) (first : Nat) {last : Nat} (start : Nat) (lim : RateLimiter) {calls : List Call}
    (configured : Configured rate burst entries lim) (ordered : NonDecreasing calls)
    (from' : ∀ call ∈ calls, start ≤ call.now)
    (within : start ≤ last) : allowedCalls peer first last lim calls * tokenScale ≤ level lim peer start +
      (last - start) * rate := by
  induction calls generalizing lim start with
  | nil => simp [allowedCalls]
  | cons call calls ih =>
    obtain ⟨follow, ordered⟩ := pairwise_cons.mp ordered
    have begins := from' call mem_cons_self
    have spent := allow_at_level rate burst entries small refills lim peer call.peer call.now configured
    have grown := level_grows lim peer start call.now begins
    rw [configured.1] at grown
    have next := allow_at_configured call.peer call.now configured
    rw [allowedCalls]
    by_cases past : last < call.now
    · -- nothing from here on is counted
      rw [allowed_beyond peer first last _ calls fun later listed => Nat.lt_of_lt_of_le past (follow later listed), if_neg (by omega)]
      exact Nat.zero_le _
    · have rest := ih call.now (allowAt lim call.peer call.now).2 next ordered follow (by omega)
      have split : (last - start) * rate = (last - call.now) * rate + (call.now - start) * rate := by
        rw [← Nat.add_mul]
        congr 1
        omega
      rw [Nat.add_mul, split]
      by_cases granted : call.peer = peer ∧ (allowAt lim call.peer call.now).1 = true
      · rw [if_pos granted] at spent
        have counted : (if call.peer = peer ∧ first ≤ call.now ∧ call.now ≤ last ∧ (allowAt lim call.peer call.now).1 = true then 1 else 0) ≤ 1 := by
          split <;> omega
        have one := Nat.mul_le_mul_right tokenScale counted
        omega
      · rw [if_neg granted] at spent
        rw [if_neg fun counted => granted ⟨counted.1, counted.2.2.2⟩]
        omega

theorem allowed_bounded (peer : IpAddr) {first last : Nat} (lim : RateLimiter) {calls : List Call}
    (configured : Configured rate burst entries lim) (ordered : NonDecreasing calls) (within : first ≤ last) :
    allowedCalls peer first last lim calls * tokenScale ≤ burst * tokenScale + (last - first) * rate := by
  induction calls generalizing lim with
  | nil => simp [allowedCalls]
  | cons call calls ih =>
    by_cases early : call.now < first
    · have rest := ih (allowAt lim call.peer call.now).2 (allow_at_configured call.peer call.now configured)
        (pairwise_cons.mp ordered).2
      rw [allowedCalls, if_neg (by omega), Nat.zero_add]
      exact rest
    · have begins : ∀ later ∈ call :: calls, first ≤ later.now := by
        intro later listed
        cases mem_cons.mp listed with
        | inl same => rw [same]; omega
        | inr listed => exact Nat.le_trans (Nat.le_of_not_lt early) ((pairwise_cons.mp ordered).1 later listed)
      have total := allowed_from rate burst entries small refills peer first first lim configured ordered begins within
      have capped := level_at_most_burst lim peer first
      rw [configured.2.1] at capped
      omega

end Bound

theorem within_bound_scaled (rate burst : Nat) (lim : RateLimiter) (peer : IpAddr) {first last : Nat}
    (calls : List Call)
    (within : first ≤ last) : WithinBound rate burst lim peer first last calls ↔
      allowedCalls peer first last lim calls * tokenScale ≤ burst * tokenScale + (last - first) * rate := by
  have spread : ((last - first : Nat) : ℚ) = (last : ℚ) - first := Nat.cast_sub within
  have scaled : ((burst * tokenScale + (last - first) * rate : Nat) : ℚ) - ((allowedCalls peer first last lim calls * tokenScale : Nat) : ℚ) =
      10 ^ 9 * ((burst : ℚ) + rate * ((last - first : Nat) : ℚ) / 10 ^ 9 - allowedCalls peer first last lim calls) := by
    rw [tokenScale]
    push_cast
    ring
  rw [WithinBound, ← spread, ← sub_nonneg, ← @Nat.cast_le ℚ, ← sub_nonneg (a := ((burst * tokenScale + (last - first) * rate : Nat) : ℚ)), scaled]
  exact (mul_nonneg_iff_of_pos_left (by norm_num)).symm

section Exceeded

variable (rate burst entries : Nat)

variable (lim : RateLimiter)

theorem allowed_append (peer : IpAddr) (first last : Nat) (lim : RateLimiter) (early late : List Call) :
    allowedCalls peer first last lim (early ++ late) =
      allowedCalls peer first last lim early + allowedCalls peer first last (after lim early) late := by
  induction early generalizing lim with
  | nil => simp [allowedCalls, after, run]
  | cons _ _ ih =>
    rw [cons_append, allowedCalls, ih, allowedCalls, Nat.add_assoc]
    rfl

def HasRoom (peer : IpAddr) : Prop := peer ∈ lim.buckets ∨ lim.buckets.size < lim.maxEntries

theorem allow_at_room {lim : RateLimiter} {peer : IpAddr} (now : Nat) (room : HasRoom lim peer) :
    allowAt lim peer now = takeToken lim peer now := by
  rw [allowAt, if_neg]
  rintro ⟨absent, full⟩
  cases room with
  | inl present => exact absent present
  | inr => omega

theorem take_token_granted (peer : IpAddr) (now : Nat) (bounded : lim.burstTokens ≤ u128Max)
    (enough : tokenScale ≤ level lim peer now) :
    takeToken lim peer now = (true, { lim with
      buckets := lim.buckets.insert peer ⟨level lim peer now - tokenScale, now⟩ }) := by
  have tokens : refilled lim ((lim.buckets[peer]?).getD ⟨lim.burstTokens, now⟩) now = level lim peer now := by
    rw [refilled_level lim now _ bounded, level]
    cases lim.buckets[peer]? with
    | none => simp
    | some => rfl
  simp only [takeToken, tokens]
  rw [if_neg (Nat.not_lt.mpr enough)]

theorem burst_allowed (peer : IpAddr) (now first last count : Nat) (lim : RateLimiter)
    (bounded : lim.burstTokens ≤ u128Max)
    (within : first ≤ now ∧ now ≤ last) (room : HasRoom lim peer) (enough : count * tokenScale ≤ level lim peer now) :
    allowedCalls peer first last lim (replicate count ⟨peer, now⟩) = count := by
  induction count generalizing lim with
  | zero => rfl
  | succ count ih =>
    rw [Nat.succ_mul] at enough
    have granted := take_token_granted lim peer now bounded (by omega)
    have capped := level_at_most_burst lim peer now
    have rest := ih { lim with buckets := lim.buckets.insert peer ⟨level lim peer now - tokenScale, now⟩ } bounded
      (.inl ExtTreeMap.mem_insert_self)
    rw [level] at rest
    simp only [getElem?_insert_self, Nat.sub_self, Nat.zero_mul] at rest
    rw [replicate_succ, allowedCalls, allow_at_room now room, granted, if_pos ⟨rfl, within.1, within.2, rfl⟩]
    exact (congrArg (1 + ·) (rest (by omega))).trans (Nat.add_comm 1 count)

-- After calls at time zero the table holds the first addresses, unused since.
structure Filled (lim : RateLimiter) (count : Nat) : Prop where
  configured : Configured rate burst entries lim
  size : lim.buckets.size = count
  members : ∀ peer, peer ∈ lim.buckets ↔ peer.rank < count
  untouched : ∀ (peer : IpAddr) (bucket : RateBucket), lim.buckets[peer]? = some bucket → bucket.lastNanos = 0

theorem take_token_inserts (peer : IpAddr) (now : Nat) :
    ∃ tokens, (takeToken lim peer now).2.buckets = lim.buckets.insert peer ⟨tokens, now⟩ := by
  rw [takeToken]
  split
  · exact ⟨_, rfl⟩
  · exact ⟨_, rfl⟩

variable {rate burst entries} in
theorem filled_call {lim : RateLimiter} {count : Nat} (filled : Filled rate burst entries lim count) (peer : IpAddr)
    (rank : peer.rank ≤ count) (room : count < entries ∨ peer.rank < count) :
    Filled rate burst entries (allowAt lim peer 0).2 (max count (peer.rank + 1)) := by
  have open' : HasRoom lim peer := by
    cases room with
    | inl free => exact .inr (by rw [filled.size, filled.configured.2.2]; exact free)
    | inr known => exact .inl ((filled.members peer).mpr known)
  have configured := allow_at_configured peer 0 filled.configured
  rw [allow_at_room 0 open'] at configured ⊢
  obtain ⟨_, buckets⟩ := take_token_inserts lim peer 0
  refine ⟨configured, ?_, fun other => ?_, fun other bucket found => ?_⟩
  · simp only [buckets, size_insert, filled.size, ExtTreeMap.contains_iff_mem, filled.members peer]
    split <;> omega
  · rw [buckets, mem_insert, filled.members other]
    constructor
    · intro either
      cases either with
      | inl same =>
        have equal : peer = other := LawfulEqCmp.eq_of_compare same
        rw [equal]
        omega
      | inr => omega
    · intro below
      by_cases same : peer.rank = other.rank
      · have equal := rank_injective peer other same
        rw [equal]
        exact .inl ReflCmp.compare_self
      · exact .inr (by omega)
  · rw [buckets, ExtTreeMap.getElem?_insert] at found
    split at found
    · cases found
      rfl
    · exact filled.untouched other bucket found

def address (index : Nat) : IpAddr := .v4 (BitVec.ofNat 32 index)

theorem address_rank (index : Nat) (bounded : index < 2 ^ 32) : (address index).rank = index := by
  simp only [address, IpAddr.rank, BitVec.toNat_ofNat]
  exact Nat.mod_eq_of_lt bounded

theorem filled_repeats (count : Nat) (filled : Filled rate burst entries lim 1) :
    Filled rate burst entries (after lim (replicate count ⟨address 0, 0⟩)) 1 := by
  induction count generalizing lim with
  | zero => exact filled
  | succ _ ih =>
    rw [replicate_succ, after, run_cons]
    exact ih _ (filled_call filled (address 0) (by decide) (.inr (by decide)))

theorem filled_range (start count : Nat) (filled : Filled rate burst entries lim start)
    (bounded : start + count ≤ entries)
    (small : entries ≤ 65536) :
    Filled rate burst entries (after lim ((range' start count).map fun index => ⟨address index, 0⟩))
    (start + count) := by
  induction count generalizing lim start with
  | zero => exact filled
  | succ _ ih =>
    have rank := address_rank start (by omega)
    have next := filled_call filled (address start) (by omega) (.inl (by omega))
    rw [rank, Nat.max_eq_right (by omega)] at next
    rw [range'_succ, map_cons, after, run_cons]
    have rest := ih _ (start + 1) next (by omega)
    rwa [Nat.add_right_comm] at rest

-- A spent burst is back at once when a newcomer has every idle bucket dropped.
def opening : List Call := replicate burst ⟨address 0, 0⟩ ++ (range' 1 (entries - 1)).map fun index => ⟨address index, 0⟩

def doubled : List Call :=
  opening burst entries ++ (⟨address entries, rateBucketIdleNanos⟩ :: replicate burst ⟨address 0, rateBucketIdleNanos⟩)

theorem doubled_ordered : NonDecreasing (doubled burst entries) := by
  have first : ∀ call ∈ opening burst entries, call.now = 0 := by
    intro call listed
    rcases mem_append.mp listed with early | filling
    · rw [eq_of_mem_replicate early]
    · obtain ⟨_, _, rfl⟩ := List.mem_map.mp filling
      rfl
  have second : ∀ call ∈ ⟨address entries, rateBucketIdleNanos⟩ :: replicate burst (⟨address 0, rateBucketIdleNanos⟩ : Call),
      call.now = rateBucketIdleNanos := by
    intro call listed
    cases mem_cons.mp listed with
    | inl same => rw [same]
    | inr later => rw [eq_of_mem_replicate later]
  refine pairwise_append.mpr ⟨?_, ?_, fun early listed late follows => ?_⟩
  · exact List.Pairwise.imp_of_mem (fun left right _ => by rw [first _ left, first _ right]) (pairwise_of_forall (R := fun _ _ => True) fun _ _ => trivial)
  · exact List.Pairwise.imp_of_mem (fun left right _ => by rw [second _ left, second _ right]) (pairwise_of_forall (R := fun _ _ => True) fun _ _ => trivial)
  · rw [first early listed]
    exact Nat.zero_le _

theorem newcomer_resets (full : Filled rate burst entries lim entries) (several : 1 < entries) (small : entries ≤ 65536)
    (bounded : burst * tokenScale ≤ u128Max) : burst ≤ allowedCalls (address 0) 0 rateBucketIdleNanos lim
      (⟨address entries, rateBucketIdleNanos⟩ :: replicate burst ⟨address 0, rateBucketIdleNanos⟩) := by
  have rank := address_rank entries (by omega)
  have absent : address entries ∉ lim.buckets := by
    rw [full.members, rank]
    exact Nat.lt_irrefl _
  have dropped : (retainBusy lim rateBucketIdleNanos).buckets = ∅ := by
    refine eq_empty_iff_forall_not_mem.mpr fun peer => ?_
    rw [mem_iff_isSome_getElem?, retained_lookup]
    cases held : lim.buckets[peer]? with
    | none => simp
    | some bucket => simp [Option.filter, full.untouched peer bucket held]
  have admitted : allowAt lim (address entries) rateBucketIdleNanos =
      takeToken (retainBusy lim rateBucketIdleNanos) (address entries) rateBucketIdleNanos := by
    rw [allowAt, if_pos ⟨absent, by rw [full.size, full.configured.2.2]⟩, if_neg]
    rw [dropped, size_empty, full.configured.2.2]
    omega
  have configured := @allow_at_configured rate burst entries lim (address entries) rateBucketIdleNanos full.configured
  obtain ⟨_, buckets⟩ := take_token_inserts (retainBusy lim rateBucketIdleNanos) (address entries) rateBucketIdleNanos
  rw [dropped, ← admitted] at buckets
  have apart : address entries ≠ address 0 := by
    intro same
    rw [same, address_rank 0 (by decide)] at rank
    omega
  have unknown : (allowAt lim (address entries) rateBucketIdleNanos).2.buckets[address 0]? = none := by
    rw [buckets, ExtTreeMap.getElem?_insert, if_neg fun same => apart (LawfulEqCmp.eq_of_compare same)]
    simp
  have again := burst_allowed (address 0) rateBucketIdleNanos 0 rateBucketIdleNanos burst
    (allowAt lim (address entries) rateBucketIdleNanos).2 (by rw [configured.2.1]; exact bounded) (by simp)
    (.inr (by rw [buckets, size_insert]; simp [configured.2.2, several]))
    (by rw [level, unknown, configured.2.1])
  rw [allowedCalls, again]
  exact Nat.le_add_left _ _

theorem doubled_allowed (accepted : RateLimiter.new rate burst entries = some lim) :
    2 * burst ≤ allowedCalls (address 0) 0 rateBucketIdleNanos lim (doubled burst entries) := by
  rw [RateLimiter.new] at accepted
  by_cases refused : rate = 0 ∨ 100000 < rate ∨ burst = 0 ∨ 1000000 < burst ∨ entries < 64 ∨ 65536 < entries
  · rw [if_pos refused] at accepted
    cases accepted
  rw [if_neg refused] at accepted
  cases accepted
  simp only [not_or] at refused
  have bounded : burst * tokenScale ≤ u128Max := by
    rw [tokenScale, u128Max]
    omega
  have start : Filled rate burst entries ⟨rate, burst * tokenScale, entries, ∅⟩ 0 :=
    ⟨⟨rfl, rfl, rfl⟩, size_empty, fun peer => by simp, fun peer bucket found => by simp at found⟩
  have spent := burst_allowed (address 0) 0 0 rateBucketIdleNanos burst ⟨rate, burst * tokenScale, entries, ∅⟩ bounded (by simp)
    (.inr (by simp only [size_empty]; omega)) (by simp [level])
  have one : Filled rate burst entries (after ⟨rate, burst * tokenScale, entries, ∅⟩ (replicate burst ⟨address 0, 0⟩)) 1 := by
    obtain ⟨count, rfl⟩ : ∃ count, burst = count + 1 := ⟨burst - 1, by omega⟩
    rw [replicate_succ, after, run_cons]
    exact filled_repeats rate (count + 1) entries _ count
      (filled_call start (address 0) (by decide) (.inl (by omega)))
  have full := filled_range rate burst entries _ 1 (entries - 1) one (by omega) (by omega)
  have all : after ⟨rate, burst * tokenScale, entries, ∅⟩ (opening burst entries) =
      after (after ⟨rate, burst * tokenScale, entries, ∅⟩ (replicate burst ⟨address 0, 0⟩))
        ((range' 1 (entries - 1)).map fun index => ⟨address index, 0⟩) := run_append _ _ _ _
  rw [← all, show 1 + (entries - 1) = entries by omega] at full
  have again := newcomer_resets rate burst entries _ full (by omega) (by omega) bounded
  rw [doubled, allowed_append, opening, allowed_append, spent, ← opening]
  omega

end Exceeded

theorem new_configured {rate burst entries : Nat} {lim : RateLimiter}
    (accepted : RateLimiter.new rate burst entries = some lim) :
    Configured rate burst entries lim ∧ 0 < rate ∧ burst ≤ 1000000 := by
  rw [RateLimiter.new] at accepted
  split at accepted
  · cases accepted
  · cases accepted
    exact ⟨⟨rfl, rfl, rfl⟩, by omega, by omega⟩

/-- The bound holds exactly if a bucket refills within the minute it may stay idle. -/
theorem rate_limiter_bound (rate burst entries : Nat) (lim : RateLimiter)
    (accepted : RateLimiter.new rate burst entries = some lim) :
    (∀ (calls : List Call) (peer : IpAddr) (first last : Nat), NonDecreasing calls → first ≤ last →
      WithinBound rate burst lim peer first last calls) ↔ burst ≤ 60 * rate := by
  obtain ⟨configured, _, small⟩ := new_configured accepted
  constructor
  · intro bounded
    have twice := doubled_allowed rate burst entries lim accepted
    have within := bounded (doubled burst entries) (address 0) 0 rateBucketIdleNanos (doubled_ordered burst entries) (Nat.zero_le _)
    have scaled := (within_bound_scaled rate burst lim (address 0) _ (Nat.zero_le _)).mp within
    have doubles := Nat.mul_le_mul_right tokenScale twice
    simp only [rateBucketIdleNanos, tokenScale] at scaled doubles
    omega
  · intro refills calls peer first last ordered within
    exact (within_bound_scaled rate burst lim peer calls within).mpr
      (allowed_bounded rate burst entries small refills peer lim configured ordered within)

theorem rate_limiter_bound_default : ∃ lim, RateLimiter.new 200 400 4096 = some lim ∧
      ∀ (calls : List Call) (peer : IpAddr) (first last : Nat), NonDecreasing calls → first ≤ last →
        WithinBound 200 400 lim peer first last calls :=
  ⟨_, rfl, (rate_limiter_bound 200 400 4096 _ rfl).mpr (by decide)⟩

-- One request a second with a burst of a hundred: two hundred pass in a minute.
theorem burst_returns_early : ∃ lim calls, RateLimiter.new 1 100 64 = some lim ∧ NonDecreasing calls ∧
      ¬ WithinBound 1 100 lim (address 0) 0 rateBucketIdleNanos calls := by
  refine ⟨_, doubled 100 64, rfl, doubled_ordered 100 64, fun within => ?_⟩
  have twice := doubled_allowed 1 100 64 _ rfl
  have scaled := (within_bound_scaled 1 100 _ (address 0) _ (Nat.zero_le _)).mp within
  have doubles := Nat.mul_le_mul_right tokenScale twice
  simp only [rateBucketIdleNanos, tokenScale] at scaled doubles
  omega

end HeptaBao.Http
