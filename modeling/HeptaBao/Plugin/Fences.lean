import HeptaBao.Plugin.Intents

namespace HeptaBao.Plugin

open Wire Std Durable Domain Exec Action List ExtTreeMap

theorem decimal_length (value : UInt64) : (decimal value.toNat).length ≤ 20 := by
  rw [decimal, length_map]
  exact Nat.toDigits_length 10 _ 20 (by omega) (Nat.lt_trans value.toNat_lt (by decide))

theorem digit_id_byte (byte : UInt8) (digit : asciiDigit byte = true) : idByte byte = true := by
  unfold asciiDigit at digit
  simp [idByte, digit]

theorem id_byte_identifier (byte : UInt8) (valid : idByte byte = true) : identifierByte byte = true := by
  simp [identifierByte, (id_byte_segment valid).1]

theorem id_identifier (id : Id) : validateIdentifier id.text = .ok () := by
  obtain ⟨filled, _, bytes⟩ := id_text id
  have all : id.text.all identifierByte = true := all_eq_true.mpr fun byte listed => id_byte_identifier byte (all_eq_true.mp bytes byte listed)
  unfold validateIdentifier
  rw [if_neg]
  simp only [filled, all, false_or, Bool.true_eq_false, or_false]
  omega

variable (ctx : PluginMutationContext) (intent : DurablePluginIntent)

theorem storage_id_valid {phase : Str} (short : phase.length ≤ 16)
    (plain : phase.all identifierByte = true) : validateIdentifier (storageRequestId ctx phase intent) = .ok () := by
  obtain ⟨_, _, requestBytes⟩ := id_text ctx.requestId
  have generationShort := decimal_length intent.generation
  have op : intent.operation.asStr.length ≤ 6 ∧ intent.operation.asStr.all identifierByte = true := by
    cases intent.operation <;> decide
  have req : ctx.requestId.text.all identifierByte = true :=
    all_eq_true.mpr fun byte listed => id_byte_identifier byte (all_eq_true.mp requestBytes byte listed)
  have gen : (decimal intent.generation.toNat).all identifierByte = true :=
    all_eq_true.mpr fun byte listed => id_byte_identifier byte (digit_id_byte byte (decimal_digits byte listed))
  have colon : identifierByte 58 = true := by decide
  have size : (storageRequestId ctx phase intent).length ≤ 256 := by
    simp only [storageRequestId, length_append, length_cons]
    omega
  have bytes : (storageRequestId ctx phase intent).all identifierByte = true := by
    simp only [storageRequestId, all_append, all_cons, req, plain, op.2, gen, colon, Bool.and_self]
  have some : storageRequestId ctx phase intent ≠ [] := by simp [storageRequestId]
  unfold validateIdentifier
  rw [if_neg]
  simp only [some, bytes, false_or, Bool.true_eq_false, or_false]
  omega

theorem put_valid (phase resource : Str) (intent : DurablePluginIntent) (value : Secret)
    (short : phase.length ≤ 16) (plain : phase.all identifierByte = true)
    (resourceValid : validateResource resource = .ok ()) :
    (putRequest ctx phase resource intent value).validate = .ok () := by
  change PutRequest.validate _ = .ok ()
  unfold PutRequest.validate
  simp only [id_identifier ctx.principal, namespace_valid, storage_id_valid ctx intent short plain, resourceValid, if_neg ctx.authorized]
  rfl

theorem delete_valid (phase resource : Str) (intent : DurablePluginIntent)
    (short : phase.length ≤ 16) (plain : phase.all identifierByte = true)
    (resourceValid : validateResource resource = .ok ()) :
    (deleteRequest ctx phase resource intent).validate = .ok () := by
  change DeleteRequest.validate _ = .ok ()
  unfold DeleteRequest.validate
  simp only [id_identifier ctx.principal, namespace_valid, storage_id_valid ctx intent short plain, resourceValid, if_neg ctx.authorized]
  rfl

def numberId (value : UInt64) : Id := ⟨decimal value.toNat, by
  have short := decimal_length value
  have bytes : (decimal value.toNat).all idByte = true := all_eq_true.mpr fun byte listed => digit_id_byte byte (decimal_digits byte listed)
  have edge : ∀ byte : Option UInt8, (∀ b, byte = some b → asciiDigit b = true) → edgeByte byte = false := by
    intro byte digit
    cases byte with
    | none => rfl
    | some b =>
      have isDigit := digit b rfl
      have apart : ∀ b : UInt8, asciiDigit b = true → edgeByte (some b) = false := by decide +kernel
      exact apart b isDigit
  have first := edge (decimal value.toNat).head? fun b found => decimal_digits b (mem_of_mem_head? found)
  have last := edge (decimal value.toNat).getLast? fun b found => decimal_digits b (mem_of_getLast? found)
  unfold checkId
  rw [if_neg (decimal_nonempty _), if_neg (by unfold maxIdBytes; omega), if_neg (by simp [first, last]), if_neg (by simp [bytes])]⟩

def numberContext (value : UInt64) : PluginMutationContext :=
  ⟨numberId 0, numberId value, ⟨replicate 32 1, rfl⟩, by decide⟩

theorem number_context_injective (a b : UInt64) (phase phase' : Str) (intent intent' : DurablePluginIntent)
    (same : storageRequestKey (numberContext a) phase intent = storageRequestKey (numberContext b) phase' intent') :
      a = b := by
  have texts : storageRequestId (numberContext a) phase intent = storageRequestId (numberContext b) phase' intent' :=
    congrArg RequestKey.requestId same
  have cut : ∀ (value : UInt64) (rest : Str), (decimal value.toNat ++ 58 :: rest).takeWhile asciiDigit = decimal value.toNat := by
    intro value rest
    rw [takeWhile_append_of_pos (decimal_digits), takeWhile_cons_of_neg (by decide), append_nil]
  have firsts : decimal a.toNat = decimal b.toNat := by
    have leading := congrArg (List.takeWhile asciiDigit) texts
    change (decimal a.toNat ++ 58 :: _).takeWhile asciiDigit = (decimal b.toNat ++ 58 :: _).takeWhile asciiDigit at leading
    rwa [cut, cut] at leading
  have values := congrArg fromDecimal firsts
  rw [from_decimal, from_decimal] at values
  exact UInt64.toNat_inj.mp values

theorem fresh_context (ledger : Ledger) (bounded : ledger.size < 2 ^ 64) :
    ∃ ctx, ∀ phase intent, ledger[storageRequestKey ctx phase intent]? = none := by
  by_contra none
  push Not at none
  have used : ∀ value : UInt64, ∃ key, key ∈ ledger.keys.toFinset ∧ ∃ phase intent, key = storageRequestKey (numberContext value) phase intent := by
    intro value
    obtain ⟨phase, intent, found⟩ := none (numberContext value)
    refine ⟨_, mem_toFinset.mpr (ExtTreeMap.mem_keys.mpr ?_), phase, intent, rfl⟩
    by_contra absent
    exact found (ExtTreeMap.getElem?_eq_none absent)
  choose key listed shape using used
  have small : ledger.keys.toFinset.card < (Finset.range (ledger.size + 1)).card := by
    rw [Finset.card_range]
    have bound := toFinset_card_le ledger.keys
    rw [length_keys] at bound
    omega
  obtain ⟨a, inA, b, inB, differ, same⟩ := Finset.exists_ne_map_eq_of_card_lt_of_maps_to small
    (f := fun value => key (UInt64.ofNat value)) (fun value _ => listed (UInt64.ofNat value))
  obtain ⟨phase, intent, isA⟩ := shape (UInt64.ofNat a)
  obtain ⟨phase', intent', isB⟩ := shape (UInt64.ofNat b)
  have equal := number_context_injective _ _ phase phase' intent intent' (isA.symm.trans (same.trans isB))
  have values := congrArg UInt64.toNat equal
  rw [UInt64.toNat_ofNat', UInt64.toNat_ofNat'] at values
  rw [Finset.mem_range] at inA inB
  rw [Nat.mod_eq_of_lt (by omega), Nat.mod_eq_of_lt (by omega)] at values
  exact differ values

section

variable (env : Env) (cap : Nat)

def Calm (fates : List Fate) : Prop := ∀ fate ∈ fates, ∃ ref, fate = .committed ref

theorem submit_commits (req : Request) (m : Machine) (valid : req.validate = .ok ())
    (resolved : m.store.unresolved = false)
    (fresh : m.store.ledger[req.key]? = none) (room : m.store.ledger.size < cap) (calm : Calm m.fates) :
    Ends (submit env cap req) m fun res reached => res = .ok () ∧
      ∃ ref, reached = { m with store := m.store.applied env req ref, fates := m.fates.tail } := by
  have fate : ∃ ref, m.fates.headD (.committed []) = .committed ref := by
    cases fates : m.fates with
    | nil => exact ⟨[], rfl⟩
    | cons first => exact calm first (by rw [fates]; exact mem_cons_self)
  obtain ⟨ref, isFate⟩ := fate
  have executed : m.store.execute env cap req (.committed ref) =
      (.ok (.committed (m.store.state.snapshot.generation + 1) ref), m.store.applied env req ref) := by
    unfold Store.execute
    rw [resolved, fresh]
    simp only [if_neg (Nat.not_le.mpr room)]
    rfl
  unfold submit
  refine ends_lift _ () _ _ _ (by rw [valid]; rfl) ?_
  refine ⟨?_, ref, ?_⟩
  · change Except.map _ (inService (m.store.execute env cap req _).1) = _
    rw [isFate, executed]
    rfl
  · change { m with store := (m.store.execute env cap req _).2, fates := m.fates.tail } = _
    rw [isFate, executed]

structure Lifted (intent : DurablePluginIntent) (reached : Machine) : Prop where
  pending : reached.pending = none
  state : reached.broker.state = .active
  lease : reached.broker.leases[intent.leaseId]? = intent.previous
  storedLease : reached.store.entries[leaseKey intent.leaseId]? = intent.previous.map leaseBytes
  storedIntent : reached.store.entries[intentKey intent.leaseId]? = none
  resolved : reached.store.unresolved = false

theorem resolve_lease_lookup (broker : DynamicSecretBroker) (leaseId : Id) (resolved : Option DynamicLeaseView)
    (named : ∀ view, resolved = some view → view.leaseId = leaseId) :
      (resolveLease leaseId resolved broker).leases[leaseId]? = resolved := by
  cases resolved with
  | none =>
    change (broker.leases.erase leaseId)[leaseId]? = none
    rw [getElem?_erase, if_pos ReflCmp.compare_self]
  | some view =>
    change (broker.leases.insert view.leaseId view)[leaseId]? = some view
    rw [lookup_insert, if_pos (named view rfl)]

variable (ctx : PluginMutationContext) (runner : SandboxRunner) (intent : DurablePluginIntent) (m : Machine)

theorem reconcile_lifts (admits : runner.admits m.broker.manifest = .ok ()) (pending : m.pending = some intent)
    (named : ∀ view, intent.previous = some view → view.leaseId = intent.leaseId)
    (fresh : ∀ phase, m.store.ledger[storageRequestKey ctx phase intent]? = none)
    (resolved : m.store.unresolved = false) (room : m.store.ledger.size + 2 ≤ cap) (calm : Calm m.fates) :
    Ends (reconcile env cap ctx runner .provenNoEffect) m fun res reached => res = .ok intent.previous ∧
      Lifted intent reached := by
  -- Both ways of putting the lease back, followed by the clearing.
  have finish : ∀ (req : Request) (prev : Option DynamicLeaseView), intent.previous = prev → req.validate = .ok () →
      (∃ phase, phase ≠ str "clear" ∧ req.key = storageRequestKey ctx phase intent) →
      (∀ entries : Entries, (req.apply entries)[leaseKey intent.leaseId]? = prev.map leaseBytes) →
      Ends (submit env cap req >>= fun _ => clearIntent env cap ctx intent >>= fun _ =>
        Action.modify (fun m => { m with
          broker := { resolveLease intent.leaseId prev m.broker with state := .active }
          pending := none }) >>= fun _ => pure prev) m fun res reached => res = .ok prev ∧ Lifted intent reached := by
    rintro req prev rfl valid ⟨phase, other, isKey⟩ puts
    refine ends_bind _ (submit_commits env cap req m valid resolved (isKey ▸ fresh phase) (by omega) calm) ?_ ?_
    · rintro _ _ ⟨wrong, _⟩
      cases wrong
    rintro _ middle ⟨_, ref, rfl⟩
    have clearFresh : (m.store.applied env req ref).ledger[storageRequestKey ctx (str "clear") intent]? = none := by
      rw [Store.applied_ledger, isKey, if_neg (phases_apart ctx intent _ _ other)]
      exact fresh (str "clear")
    have grown := m.store.applied_size env req ref
    refine ends_bind _ (submit_commits env cap _ _
      (delete_valid ctx (str "clear") _ intent (by decide) (by decide) (intent_resource_valid intent.leaseId)) resolved clearFresh
      (Nat.lt_of_lt_of_le (Nat.lt_succ_of_le grown) room) (fun fate member => calm fate (mem_of_mem_tail member))) ?_ ?_
    · rintro _ _ ⟨wrong, _⟩
      cases wrong
    rintro _ reached ⟨_, other, rfl⟩
    apply ends_modify
    refine ⟨rfl, rfl, rfl, resolve_lease_lookup _ _ _ named, ?_, ?_, resolved⟩
    · change ((req.apply m.store.entries).erase (intentKey intent.leaseId))[leaseKey intent.leaseId]? = _
      rw [getElem?_erase, if_neg]
      · exact puts _
      · rw [LawfulEqCmp.compare_eq_iff_eq]
        exact fun same => keys_apart intent.leaseId intent.leaseId same.symm
    · change ((req.apply m.store.entries).erase (intentKey intent.leaseId))[intentKey intent.leaseId]? = none
      rw [getElem?_erase, if_pos ReflCmp.compare_self]
  unfold reconcile
  apply ends_read
  simp only [pending]
  refine ends_lift _ () _ _ _ (by rw [admits]; rfl) ?_
  refine ends_lift _ intent.previous _ _ _ rfl ?_
  cases prev : intent.previous with
  | some view =>
    have isName := named view prev
    simp only [publish_lease_eq, isName]
    refine finish (putRequest ctx (str "lease") (leaseResource intent.leaseId) intent (leaseSecret view)) _ prev
      (put_valid ctx _ _ intent _ (by decide) (by decide) (lease_resource_valid _)) ⟨str "lease", by decide, rfl⟩ fun entries => ?_
    change (entries.insert (leaseKey intent.leaseId) (leaseBytes view))[leaseKey intent.leaseId]? = _
    rw [lookup_insert, if_pos rfl]
    rfl
  | none =>
    refine finish (deleteRequest ctx (str "drop-lease") (leaseResource intent.leaseId) intent) _ prev
      (delete_valid ctx _ _ intent (by decide) (by decide) (lease_resource_valid _)) ⟨str "drop-lease", by decide, rfl⟩ fun entries => ?_
    change (entries.erase (leaseKey intent.leaseId))[leaseKey intent.leaseId]? = _
    rw [getElem?_erase, if_pos ReflCmp.compare_self]
    rfl

end

-- The leases as they were when nothing was under way.
def lastQuiet (world : World) (_ : Event) (ghost : Id → Option DynamicLeaseView) : Id → Option DynamicLeaseView :=
  match world.live with
  | none => ghost
  | some live => if live.pending.isNone = true ∧ world.store.unresolved = false then fun id => live.broker.leases[id]? else ghost

-- Every intent under way goes on from the lease as it was.
structure Rooted (ghost : Id → Option DynamicLeaseView) (m : Machine) : Prop where
  stored : ∀ intent, StoredIntent m.store intent → intent.previous = ghost intent.leaseId
  pending : ∀ intent, m.pending = some intent → intent.previous = ghost intent.leaseId

section

variable (env : Env) (cap : Nat) (ctx : PluginMutationContext) (plan : Store → DurablePluginIntent → Prop)
  (answers : Digest → Prop) (ghost : Id → Option DynamicLeaseView)

variable {intent other : DurablePluginIntent} {res : Except ServiceError MutationOutcome}

theorem put_intent_stored {value : Secret} (encoded : value.bytes = intentBytes intent) {store after : Store}
    (executed : Executed env cap (putRequest ctx (str "intent") (intentResource intent.leaseId) intent value) store
      res after)
    (stored : StoredIntent after other) : StoredIntent store other ∨ other = intent ∧ store.unresolved = false := by
  unfold StoredIntent at stored ⊢
  rcases executed_entries executed with same | ⟨applied, resolved⟩
  · rw [same] at stored
    exact .inl stored
  · have inserted : after.entries = store.entries.insert (intentKey intent.leaseId) value.bytes := applied
    rw [inserted, lookup_insert, encoded] at stored
    split at stored
    · exact .inr ⟨intent_bytes_injective _ _ (Option.some.inj stored).symm, resolved⟩
    · exact .inl stored

theorem clear_intent_stored {store after : Store}
    (executed : Executed env cap (deleteRequest ctx (str "clear") (intentResource intent.leaseId) intent) store res
      after)
    (stored : StoredIntent after other) : StoredIntent store other := by
  unfold StoredIntent at stored ⊢
  rcases executed_entries executed with same | ⟨applied, _⟩
  · rwa [same] at stored
  · have erased : after.entries = store.entries.erase (intentKey intent.leaseId) := applied
    rw [erased, getElem?_erase] at stored
    split at stored
    · cases stored
    · exact stored

theorem move_rooted (origins : ∀ store intent, plan store intent → store.unresolved = false →
    intent.previous = ghost intent.leaseId)
    (writes : Nat) (m reached : Machine) (move : Move env cap ctx plan answers writes m reached)
    (rooted : Rooted ghost m) :
    Rooted ghost reached := by
  cases move with
  | looks | enters | fences => exact ⟨rooted.stored, rooted.pending⟩
  | publishes m intent _ outcome _ _ planned _ encoded executed =>
    have resolved := (executed_resolved executed outcome rfl).1
    refine ⟨fun other stored => ?_, fun other same => ?_⟩
    · rcases put_intent_stored env cap ctx encoded executed stored with old | ⟨rfl, _⟩
      · exact rooted.stored other old
      · exact origins m.store other planned resolved
    · cases same
      exact origins m.store intent planned resolved
  | misses m _ _ _ _ _ planned _ encoded executed =>
    refine ⟨fun other stored => ?_, rooted.pending⟩
    rcases put_intent_stored env cap ctx encoded executed stored with old | ⟨rfl, resolved⟩
    · exact rooted.stored other old
    · exact origins m.store other planned resolved
  | leases _ intent view value _ _ _ _ _ _ executed =>
    refine ⟨fun other stored => rooted.stored other ?_, rooted.pending⟩
    unfold StoredIntent at stored ⊢
    rwa [executed_lease_intents other.leaseId (put_lease_intents ctx intent view.leaseId value) executed] at stored
  | drops _ intent _ _ _ _ executed =>
    refine ⟨fun other stored => rooted.stored other ?_, rooted.pending⟩
    unfold StoredIntent at stored ⊢
    rwa [executed_lease_intents other.leaseId (drop_lease_intents ctx intent intent.leaseId) executed] at stored
  | clears _ _ _ _ _ _ _ _ _ executed =>
    exact ⟨fun other stored => rooted.stored other (clear_intent_stored env cap ctx executed stored), nofun⟩
  | lingers _ _ _ _ _ _ executed =>
    exact ⟨fun other stored => rooted.stored other (clear_intent_stored env cap ctx executed stored), rooted.pending⟩

theorem move_size (writes : Nat) (m reached : Machine) (move : Move env cap ctx plan answers writes m reached) :
    reached.store.ledger.size ≤ m.store.ledger.size + writes := by
  cases move with
  | looks | enters | fences => exact Nat.le_refl _
  | publishes _ _ _ _ _ _ _ _ _ executed | misses _ _ _ _ _ _ _ _ _ executed | leases _ _ _ _ _ _ _ _ _ _ executed
  | drops _ _ _ _ _ _ executed | clears _ _ _ _ _ _ _ _ _ executed | lingers _ _ _ _ _ _ executed => exact executed_size executed

theorem moves_size (writes : Nat) (m reached : Machine) (moves : Moves env cap ctx plan answers writes m reached) :
    reached.store.ledger.size ≤ m.store.ledger.size + writes := by
  induction moves with
  | refl => exact Nat.le_add_right _ _
  | step now _ m middle _ move =>
    have first := move_size env cap ctx plan answers now m middle move
    omega

end

theorem planned_previous {env : Env} {broker : DynamicSecretBroker} {call : Call} {intent : DurablePluginIntent}
    (planned : Planned env broker call intent) : intent.previous = broker.leases[intent.leaseId]? := by
  cases planned with
  | issue _ _ _ _ _ absent => exact absent.symm
  | renew _ _ _ _ _ _ _ _ found => exact found.symm
  | revoke _ _ _ _ _ found => exact found.symm

-- Each call leaves room in the ledger for one reconciliation.
def Liftable (env : Env) (cap : Nat) (world : World) (event : Event) : Prop :=
  Restartable env world event ∧ match event with
    | .call _ call _ _ => ∀ live, world.live = some live → world.store.ledger.size + call.writes + 2 ≤ cap
    | _ => True

structure Recoverable (cap : Nat) (world : World) (ghost : Id → Option DynamicLeaseView) : Prop where
  tidy : Tidy world
  stored : ∀ intent, StoredIntent world.store intent → intent.previous = ghost intent.leaseId
  pending : ∀ live intent, world.live = some live → live.pending = some intent → intent.previous = ghost intent.leaseId
  room : world.store.ledger.size + 2 ≤ cap ∨ (∀ id, world.store.entries[intentKey id]? = none) ∧
    ∀ live, world.live = some live → live.pending = none

-- A quiet world has no intents.
theorem last_quiet_recoverable {cap : Nat} {world : World} (event : Event) {ghost : Id → Option DynamicLeaseView}
    (recoverable : Recoverable cap world ghost) : Recoverable cap world (lastQuiet world event ghost) := by
  unfold lastQuiet
  cases found : world.live with
  | none => exact recoverable
  | some live =>
    by_cases quiet : live.pending.isNone = true ∧ world.store.unresolved = false
    · simp only [if_pos quiet]
      have idle : live.pending = none := by simpa using quiet.1
      refine ⟨recoverable.tidy, fun intent stored => ?_, fun other intent same pending => ?_, recoverable.room⟩
      · have pending := (recoverable.tidy.live live found).stored quiet.2 intent stored
        change live.pending = some intent at pending
        rw [idle] at pending
        cases pending
      · rw [found] at same
        cases same
        rw [idle] at pending
        cases pending
    · simp only [if_neg quiet]
      exact recoverable

theorem step_recoverable {env : Env} {cap : Nat} (manifest : PluginManifest) {world : World} {event : Event}
    (ghost : Id → Option DynamicLeaseView) (careful : Liftable env cap world event)
    (before : Recoverable cap world ghost) :
    Recoverable cap (step env cap manifest world event) (lastQuiet world event ghost) := by
  have tidy := step_tidy cap manifest careful.1 before.tidy
  have noted := last_quiet_recoverable event before
  cases event with
  | crash => exact ⟨tidy, noted.stored, fun _ _ wrong => (nomatch wrong), noted.room.imp_right fun none => ⟨none.1, nofun⟩⟩
  | reopen =>
    obtain ⟨other, reopens⟩ := reopen_kept manifest (well_kept_same world.store.reopened (by rfl) before.tidy.kept) rfl
    have same : ∀ live, (step env cap manifest world .reopen).live = some live → live = other := by
      intro live found
      change (reopen manifest world.store.reopened).toOption = some live at found
      rw [reopens.opened] at found
      exact (Option.some.inj found).symm
    refine ⟨tidy, noted.stored, fun live intent found pending => ?_, noted.room.imp_right fun none => ⟨none.1, fun live found => ?_⟩⟩
    · rw [same live found] at pending
      exact noted.stored intent ((reopens.pending intent).mp pending)
    · rw [same live found]
      cases pending : other.pending with
      | none => rfl
      | some intent =>
        have stored : world.store.entries[intentKey intent.leaseId]? = _ := (reopens.pending intent).mp pending
        rw [none.1] at stored
        cases stored
  | view =>
    cases found : world.live with
    | none =>
      simp only [step, found] at tidy ⊢
      exact noted
    | some live =>
      simp only [step, found] at tidy ⊢
      refine ⟨tidy, noted.stored, fun other intent same pending => ?_, noted.room.imp_right fun none => ⟨none.1, fun other same => ?_⟩⟩
      · cases same
        exact noted.pending live intent found pending
      · cases same
        exact none.2 live found
  | call ctx call runner fates =>
    cases found : world.live with
    | none =>
      simp only [step, found] at tidy ⊢
      exact noted
    | some live =>
      obtain ⟨clears, _, _⟩ := careful.1 live found
      have fits := careful.2 live found
      have sane := sane_machine live world.store [] fates [] world.moments (before.tidy.live live found)
      have moves := perform_moves env cap ctx runner call (live.machine world.store fates world.moments)
        (fit_named _ sane.fit) sane.quiet clears
      have size := moves_size env cap ctx _ _ _ _ _ moves
      have origins : ∀ store intent, AtStart env (live.machine world.store fates world.moments) call store intent →
          store.unresolved = false → intent.previous = lastQuiet world (.call ctx call runner fates) ghost intent.leaseId := by
        rintro store intent ⟨rfl, idle, planned⟩ resolved
        have isNone : live.pending.isNone = true := by
          change live.pending = none at idle
          rw [idle]
          rfl
        have isResolved : world.store.unresolved = false := resolved
        unfold lastQuiet
        simp only [found, isNone, isResolved, and_self, if_true]
        exact planned_previous planned
      have reached := moves_invariant (Rooted _) (move_rooted env cap ctx _ _ _ origins) _ moves
        ⟨noted.stored, fun intent pending => noted.pending live intent found pending⟩
      simp only [step, found] at tidy ⊢
      refine ⟨tidy, reached.stored, fun other intent same pending => ?_, .inl (Nat.le_trans (Nat.add_le_add_right size 2) fits)⟩
      cases same
      exact reached.pending intent pending

theorem created_recoverable (cap : Nat) (manifest : PluginManifest) :
    Recoverable cap (created manifest) fun _ => none := by
  have nothing : ∀ (key : StorageKey), (created manifest).store.entries[key]? = none := fun key => by
    change (∅ : Entries)[key]? = none
    simp
  refine ⟨created_tidy manifest, fun intent stored => ?_, fun live intent same pending => ?_, .inr ⟨fun id => nothing _, fun live same => ?_⟩⟩
  · unfold StoredIntent at stored
    rw [nothing] at stored
    cases stored
  · cases same
    cases pending
  · cases same
    rfl

theorem sound_previous (sound : SoundIntent intent) (view : DynamicLeaseView)
    (prev : intent.previous = some view) : view.leaseId = intent.leaseId := by
  have fields := sound.fields
  unfold validateIntent at fields
  split at fields
  · cases fields
  · simp only [prev, check] at fields
    split at fields
    · rename_i continues
      simp only [continuesPrevious, Bool.and_eq_true, decide_eq_true_eq] at continues
      exact continues.1.1.1.1.1
    · cases fields

/-- Some caller can put the lease before a pending intent back and lift the fence. -/
theorem fence_lifts (env : Env) (cap : Nat) (manifest : PluginManifest) (events : List Event)
    (accepted : validateCapacity cap = .ok ())
    (careful : Along (step env cap manifest) (Liftable env cap) (created manifest) events) (live : Live)
    (alive : (run (step env cap manifest) (created manifest) events).live = some live)
    (resolved : (run (step env cap manifest) (created manifest) events).store.unresolved = false)
    (intent : DurablePluginIntent)
    (pending : live.pending = some intent) :
    intent.previous = history (step env cap manifest) lastQuiet (created manifest)
    (fun _ => none) events intent.leaseId ∧
      ∃ ctx, ∀ runner fates, runner.admits live.broker.manifest = .ok () → Calm fates →
        Ends (reconcile env cap ctx runner .provenNoEffect)
          (live.machine (run (step env cap manifest) (created manifest) events).store fates [])
          fun res reached => res = .ok intent.previous ∧ Lifted intent reached := by
  have reached := history_invariant
    (fun world event ghost allowed => step_recoverable manifest ghost allowed) _ _
    (created_recoverable cap manifest) careful
  have room := reached.room.resolve_right fun none => by
    have idle := none.2 live alive
    rw [pending] at idle
    cases idle
  have bounded : cap ≤ maxRecords := by
    unfold validateCapacity at accepted
    split at accepted
    · cases accepted
    · rename_i within
      omega
  obtain ⟨ctx, fresh⟩ := fresh_context (run (step env cap manifest) (created manifest) events).store.ledger
    (by unfold maxRecords at bounded; omega)
  refine ⟨reached.pending live intent alive pending, ctx, fun runner fates admits calm => ?_⟩
  have sound := (reached.tidy.live live alive).pending intent pending
  exact reconcile_lifts env cap ctx runner intent _ admits pending (sound_previous intent sound) (fun phase => fresh phase intent)
    resolved room calm

def unansweredIssue : List Event :=
  [.call (contextR requestA) (.issue (specL 100) (plainSecret 1) []) (answering (.error .outcomeUnknownAfterEntry)) []]

theorem pending_of_some (world : World) (waits : (world.live.bind Live.pending).isSome = true) :
    ∃ live intent, world.live = some live ∧ live.pending = some intent := by
  cases found : world.live with
  | none => simp [found] at waits
  | some live =>
    rw [found] at waits
    obtain ⟨intent, pending⟩ := Option.isSome_iff_exists.mp waits
    exact ⟨live, intent, rfl, pending⟩

set_option maxRecDepth 100000 in
theorem fence_lifts_unanswered : ∃ live intent, (worldAfter 8 unansweredIssue).live = some live ∧
    live.pending = some intent ∧
    intent.previous = history (step testEnv 8 plainManifest) lastQuiet (created plainManifest)
    (fun _ => none) unansweredIssue intent.leaseId ∧
      ∃ ctx, ∀ runner fates, runner.admits live.broker.manifest = .ok () → Calm fates →
        Ends (reconcile testEnv 8 ctx runner .provenNoEffect)
          (live.machine (worldAfter 8 unansweredIssue).store fates [])
          fun res reached => res = .ok intent.previous ∧ Lifted intent reached := by
  obtain ⟨live, intent, alive, pending⟩ := pending_of_some (worldAfter 8 unansweredIssue) (by decide +kernel)
  refine ⟨live, intent, alive, pending, fence_lifts testEnv 8 plainManifest unansweredIssue (by decide) ⟨⟨?_, ?_⟩, trivial⟩ live alive
    (by decide +kernel) intent pending⟩
  · intro live found
    cases found
    refine ⟨?_, trivial, ?_, ?_⟩
    · intro intent _
      change (∅ : Ledger)[_]? = none
      simp
    · intro intent planned
      cases planned
      exact (plain_digest 1 (by decide)).1
    · rintro digest ⟨_, _, _, _, response, answer, rfl⟩
      cases answer
  · intro live found
    change (∅ : Ledger).size + 3 + 2 ≤ 8
    decide

section

variable (env : Env) (cap : Nat) (ctx : PluginMutationContext) (runner : SandboxRunner) (intent : DurablePluginIntent) (m : Machine)

theorem submit_full (req : Request) (full : cap ≤ m.store.ledger.size) (unused : m.store.ledger[req.key]? = none) :
    Ends (submit env cap req) m fun res _ => ∃ flaw, res = .error flaw := by
  unfold submit
  refine ends_lift_cases (fun flaw _ => ⟨flaw, rfl⟩) fun _ _ => ?_
  have refused : ∃ flaw, (m.store.execute env cap req (m.fates.headD (.committed []))).1 = .error flaw := by
    unfold Store.execute
    by_cases waiting : m.store.unresolved = true
    · rw [if_pos waiting]
      exact ⟨_, rfl⟩
    · rw [if_neg waiting, unused]
      simp only [if_pos full]
      exact ⟨_, rfl⟩
  obtain ⟨flaw, isError⟩ := refused
  refine ⟨.durable flaw, ?_⟩
  change Except.map _ (inService (m.store.execute env cap req _).1) = _
  rw [isError]
  rfl

theorem reconcile_full (decision : DurableReconciliationDecision) (pending : m.pending = some intent)
    (full : cap ≤ m.store.ledger.size)
    (unused : ∀ phase ∈ [str "lease", str "drop-lease"], m.store.ledger[storageRequestKey ctx phase intent]? = none) :
    Ends (reconcile env cap ctx runner decision) m fun res _ => ∃ flaw, res = .error flaw := by
  unfold reconcile
  apply ends_read
  simp only [pending]
  refine ends_lift_cases (fun flaw _ => ⟨flaw, rfl⟩) fun _ _ => ?_
  refine ends_lift_cases (fun flaw _ => ⟨flaw, rfl⟩) fun resolved _ => ?_
  cases resolved with
  | some =>
    simp only [publish_lease_eq]
    refine ends_bind _ (submit_full env cap m _ full (unused (str "lease") (by simp))) ?_ ?_
    · rintro flaw _ _
      exact ⟨flaw, rfl⟩
    · rintro _ _ ⟨_, wrong⟩
      cases wrong
  | none =>
    refine ends_bind _ (submit_full env cap m _ full (unused (str "drop-lease") (by simp))) ?_ ?_
    · rintro flaw _ _
      exact ⟨flaw, rfl⟩
    · rintro _ _ ⟨_, wrong⟩
      cases wrong

end

theorem intent_id_apart (other : PluginMutationContext) (intent : DurablePluginIntent) (rest : Str) (phase : Str)
    (listed : phase ∈ [str "lease", str "drop-lease"]) :
    storageRequestId ctx phase intent ≠ other.requestId.text ++ (58 :: (str "intent" ++ rest)) := by
  intro same
  have cut : ∀ (id : Id) (tail : Str), (id.text ++ 58 :: tail).dropWhile idByte = 58 :: tail := by
    intro id tail
    rw [dropWhile_append_of_pos (all_eq_true.mp (id_text id).2.2), dropWhile_cons_of_neg (by decide)]
  have tails := congrArg (List.dropWhile idByte) same
  unfold storageRequestId at tails
  rw [cut, cut] at tails
  simp only [mem_cons, not_mem_nil, or_false] at listed
  rcases listed with rfl | rfl <;> simp [str] at tails

-- The intent takes the only place: no caller can reconcile it.
set_option maxRecDepth 100000 in
theorem full_ledger_fences : ∃ live intent, (worldAfter 1 unansweredIssue).live = some live ∧
    live.pending = some intent ∧
    (worldAfter 1 unansweredIssue).store.unresolved = false ∧ ∀ ctx runner fates, ∃ flaw,
      (reconcile testEnv 1 ctx runner .provenNoEffect
        (live.machine (worldAfter 1 unansweredIssue).store fates [])).1 = .error flaw := by
  obtain ⟨live, intent, alive, pending⟩ := pending_of_some (worldAfter 1 unansweredIssue) (by decide +kernel)
  have only : (worldAfter 1 unansweredIssue).store.ledger.keys.map RequestKey.requestId = [str "a:intent:issue:1"] := by decide +kernel
  have size : (worldAfter 1 unansweredIssue).store.ledger.size = 1 := by
    rw [← length_keys, ← length_map RequestKey.requestId, only]
    rfl
  refine ⟨live, intent, alive, pending, by decide +kernel, fun ctx runner fates => ?_⟩
  refine reconcile_full testEnv 1 ctx runner intent (live.machine (worldAfter 1 unansweredIssue).store fates []) .provenNoEffect pending
    (Nat.le_of_eq size.symm) fun phase listed => ?_
  by_contra present
  have member : storageRequestKey ctx phase intent ∈ (worldAfter 1 unansweredIssue).store.ledger.keys := by
    rw [ExtTreeMap.mem_keys]
    by_contra absent
    exact present (ExtTreeMap.getElem?_eq_none absent)
  have text := mem_map_of_mem member (f := RequestKey.requestId)
  rw [only, mem_singleton] at text
  exact intent_id_apart ctx (contextR requestA) intent (str ":issue:1") phase listed text

end HeptaBao.Plugin
