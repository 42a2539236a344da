import HeptaBao.Migration.Journal

namespace HeptaBao.Migration

open Wire Std Durable Exec Action List

section

variable (env : JournalEnv) (lawful : env.Lawful)

theorem hex_digest_valid (digest : Digest) : validateSha256 (hexBytes digest.bytes) = .ok () := by
  rw [validateSha256, require_ok, hex_bytes_length, digest.size]
  refine ⟨rfl, all_eq_true.mpr ?_⟩
  exact hex_bytes_all (fun byte => digestByte byte = true) (by decide) digest.bytes

theorem decode_tag_hex (digest : Digest) : decodeTag (hexBytes digest.bytes) = .ok digest.bytes := by
  rw [decodeTag, hex_digest_valid, hex_pairs_bytes]
  rfl

include lawful

theorem decode_encode (auth : JournalAuthentication) (record : JournalRecord) (valid : record.Valid) :
    auth.decode env (auth.encode env record) = .ok record := by
  have checked := (JournalRecord.validate_ok record).mpr valid
  cases auth with
  | legacyChecksum =>
    simp only [JournalAuthentication.decode, JournalAuthentication.encode, lawful.envelope _]
    simp only [JournalEnvelope.validate, JournalEnvelope.new, hex_digest_valid, checked, (require_ok).mpr]
    rfl
  | authenticated =>
    simp only [JournalAuthentication.decode, JournalAuthentication.encode, lawful.authenticated _]
    rw [(require_ok).mpr ⟨trivial, trivial⟩, decode_tag_hex]
    change (require _ _ >>= fun _ => _) = _
    rw [(require_ok).mpr rfl, hex_digest_valid, (require_ok).mpr trivial, checked]
    rfl

theorem encode_filled (auth : JournalAuthentication) (record : JournalRecord) : auth.encode env record ≠ [] := by
  cases auth with
  | legacyChecksum => exact lawful.filled _
  | authenticated => exact lawful.filledToo _

end

-- A record that can be stored for this migration.
structure Proper (env : JournalEnv) (binding : MigrationBinding) (inv : MigrationInventory) (auth : JournalAuthentication)
    (record : JournalRecord) : Prop where
  valid : record.Valid
  bound : record.binding = binding
  listed : validateRecordAgainstInventory record inv = .ok ()
  sized : (auth.encode env record).length ≤ maxJournalBytes

section

variable (env : JournalEnv) (binding : MigrationBinding) (inv : MigrationInventory) (auth : JournalAuthentication)

-- As the current generation, or as the previous one alone.
def Selects (folder : Folder) (record : JournalRecord) : Prop :=
  (folder.current = some (auth.encode env record) ∧ ∀ bytes, folder.previous = some bytes → ∃ older,
    bytes = auth.encode env older ∧ Proper env binding inv auth older ∧ older.generation < record.generation) ∨
  (folder.current = none ∧ folder.previous = some (auth.encode env record))

theorem selects_same {folder : Folder} (other : Folder) {record : JournalRecord}
    (current : other.current = folder.current)
    (prev : other.previous = folder.previous) (selects : Selects env binding inv auth folder record) :
    Selects env binding inv auth other record := by
  unfold Selects at selects ⊢
  rw [current, prev]
  exact selects

variable {env binding inv auth} in
theorem load_proper (lawful : env.Lawful) {record : JournalRecord} (proper : Proper env binding inv auth record) :
    loadOptional env auth (some (auth.encode env record)) = .ok (some record) := by
  have sized := (@require_ok (auth.encode env record ≠ [] ∧ (auth.encode env record).length ≤ maxJournalBytes)
    _ .unsafeRoot).mpr ⟨encode_filled env lawful auth record, proper.sized⟩
  simp only [loadOptional, sized, decode_encode env lawful auth record proper.valid]
  rfl

variable {env binding inv auth} in
theorem selects_opens (lawful : env.Lawful) (arguments : validateArguments env binding inv = .ok ()) {folder : Folder}
    {record : JournalRecord} (proper : Proper env binding inv auth record)
    (selects : Selects env binding inv auth folder record) :
    ∃ recovered, openWithAuthentication env binding inv auth folder = .ok ⟨inv, record, recovered, auth⟩ := by
  have loaded : ∃ current prev recovered, loadOptional env auth folder.current = .ok current ∧
      loadOptional env auth folder.previous = .ok prev ∧ selectGeneration current prev = .ok (record, recovered) := by
    rcases selects with ⟨current, behind⟩ | ⟨current, prev⟩
    · rw [current]
      cases found : folder.previous with
      | none => exact ⟨some record, none, false, load_proper lawful proper, rfl, rfl⟩
      | some bytes =>
        obtain ⟨older, rfl, olderProper, before⟩ := behind bytes found
        refine ⟨some record, some older, false, load_proper lawful proper, load_proper lawful olderProper, ?_⟩
        simp only [selectGeneration, if_pos before]
    · rw [current, prev]
      exact ⟨none, some record, true, rfl, load_proper lawful proper, rfl⟩
  obtain ⟨current, prev, recovered, loadedCurrent, loadedPrevious, selected⟩ := loaded
  refine ⟨recovered, ?_⟩
  unfold openWithAuthentication
  simp only [arguments, loadedCurrent, loadedPrevious]
  change (selectGeneration current prev >>= _) = _
  rw [selected]
  change (require (record.binding = binding) .bindingMismatch >>= _) = _
  rw [(require_ok).mpr proper.bound, (JournalRecord.validate_ok record).mpr proper.valid, proper.listed]
  rfl

end

section

variable (post : Except Stop Unit → Disk → Prop) (disk : Disk)

variable (fault : Option Fault)

theorem file_step_ends (partly : Nat → Folder → Folder) (wholly : Folder → Folder)
    (done : post (.ok ()) (disk.move wholly)) (undone : ∀ part flaw, post (.error flaw) (disk.move (partly part))) :
    Ends (fileStep fault partly wholly) disk post := by
  match fault with
  | none => exact done
  | some (.fails part) => exact undone part _
  | some (.dies part) => exact undone part _

theorem look_ends (passes : post (.ok ()) disk) (stops : ∀ flaw, post (.error flaw) disk) :
    Ends (look fault) disk post := by
  match fault with
  | none => exact passes
  | some (.fails part) => exact stops _
  | some (.dies part) => exact stops _

theorem sync_ends (synced : post (.ok ()) { disk with older := [] })
    (maybe : ∀ flaw, post (.error flaw) { disk with older := [] }) (stops : ∀ flaw, post (.error flaw) disk) :
    Ends (syncAll fault) disk post := by
  have either : ∀ part flaw, post (.error flaw) (if part = 0 then disk else { disk with older := [] }) := by
    intro part flaw
    split
    · exact stops flaw
    · exact maybe flaw
  match fault with
  | none => exact synced
  | some (.fails part) => exact either part _
  | some (.dies part) => exact either part _

theorem rename_ends (source : Folder → Option Bytes) (change : Bytes → Folder → Folder) (bytes : Bytes)
    (there : source disk.folder = some bytes) (done : post (.ok ()) (disk.move (change bytes)))
    (maybe : ∀ flaw, post (.error flaw) (disk.move (change bytes)))
    (undone : ∀ flaw, post (.error flaw) (disk.move id)) :
    Ends (rename fault source change) disk post := by
  unfold rename
  apply ends_read
  simp only [there]
  refine file_step_ends post disk fault _ _ done fun part flaw => ?_
  by_cases nothing : part = 0
  · have same : orNothing (change bytes) part = id := by
      funext folder
      simp [orNothing, nothing]
    rw [same]
    exact undone flaw
  · have whole : orNothing (change bytes) part = change bytes := by
      funext folder
      simp [orNothing, nothing]
    rw [whole]
    exact maybe flaw

end

theorem present_ends (fault : Option Fault) (file : Folder → Option Bytes) (disk : Disk)
    (post : Except Stop Bool → Disk → Prop)
    (yes : (file disk.folder).isSome = true → post (.ok true) disk)
    (no : (file disk.folder).isSome = false ∨ (∃ part, fault = some (.fails part)) → post (.ok false) disk)
    (stops : post (.error .crashed) disk) : Ends (present fault file) disk post := by
  match fault with
  | none =>
    change post (.ok (file disk.folder).isSome) disk
    cases answer : (file disk.folder).isSome with
    | true => exact yes answer
    | false => exact no (.inl answer)
  | some (.fails part) => exact no (.inr ⟨part, rfl⟩)
  | some (.dies part) => exact stops

variable (env : JournalEnv) (binding : MigrationBinding) (inv : MigrationInventory) (auth : JournalAuthentication)
  (record next : JournalRecord) (start : Disk)

-- While `next` replaces `record`: these two and what it could already fall back to.
def Between (disk : Disk) : Prop :=
  ∀ folder ∈ disk.folder :: disk.older, folder ∈ start.folder :: start.older ∨
    Selects env binding inv auth folder record ∨ Selects env binding inv auth folder next

variable (change : Folder → Folder)

variable {env binding inv auth record next start} in
theorem between_move {disk : Disk} (between : Between env binding inv auth record next start disk)
    (reached : Selects env binding inv auth (change disk.folder) record ∨
      Selects env binding inv auth (change disk.folder) next) :
    Between env binding inv auth record next start (disk.move change) := by
  intro folder listed
  rcases mem_cons.mp listed with rfl | older
  · exact .inr reached
  · exact between folder older

variable {env binding inv auth record next start} in
theorem between_sync {disk : Disk} (between : Between env binding inv auth record next start disk) :
    Between env binding inv auth record next start { disk with older := [] } := by
  intro folder listed
  rw [mem_singleton] at listed
  exact between folder (listed ▸ mem_cons_self)

structure Before (disk : Disk) : Prop where
  between : Between env binding inv auth record next start disk
  selects : Selects env binding inv auth disk.folder record

structure Staged (disk : Disk) : Prop where
  before : Before env binding inv auth record next start disk
  ready : disk.folder.temporary[next.generation]? = some (auth.encode env next)

variable {env binding inv auth record next start} in
theorem before_move {disk : Disk} (before : Before env binding inv auth record next start disk)
    (selects : Selects env binding inv auth (change disk.folder) record) :
      Before env binding inv auth record next start (disk.move change) :=
  ⟨between_move change before.between (.inl selects), selects⟩

variable {env binding inv auth record next start} in
theorem before_sync {disk : Disk} (before : Before env binding inv auth record next start disk) :
    Before env binding inv auth record next start { disk with older := [] } :=
  ⟨between_sync before.between, before.selects⟩

variable (faults : Faults)

theorem write_new_ends (disk : Disk) (before : Before env binding inv auth record next start disk) :
    Ends (writeNew faults next.generation (auth.encode env next)) disk fun res reached => Before env binding inv auth
      record next start reached ∧
        (res = .ok () → Staged env binding inv auth record next start reached ∧ (auth.encode env next).length ≤
          maxJournalBytes) := by
  have temporary : ∀ (disk : Disk) bytes, Before env binding inv auth record next start disk →
      Before env binding inv auth record next start (disk.move (withTemporary next.generation bytes)) := by
    intro disk bytes before
    exact before_move _ before
      (selects_same env binding inv auth _ rfl rfl before.selects)
  have nothing : ∀ disk : Disk, Before env binding inv auth record next start disk →
      Before env binding inv auth record next start (disk.move id) := by
    intro disk before
    exact before_move _ before before.selects
  unfold writeNew
  refine ends_lift_cases (fun flaw _ => ⟨before, nofun⟩) fun _ sized => ?_
  have bounded : (auth.encode env next).length ≤ maxJournalBytes := by
    by_contra larger
    have refused : require (auth.encode env next ≠ [] ∧ (auth.encode env next).length ≤ maxJournalBytes)
        .invalidJournal = .error .invalidJournal := if_neg fun both => larger both.2
    rw [refused] at sized
    cases sized
  have created : Ends (secureCreateNew faults next.generation) disk fun _ reached =>
      Before env binding inv auth record next start reached := by
    unfold secureCreateNew
    apply ends_read
    split
    · refine ends_bind (fun _ reached => Before env binding inv auth record next start reached)
        (look_ends _ _ _ before fun _ => before) (fun _ _ held => held) fun _ reached held => held
    · refine file_step_ends _ _ _ _ _ (temporary disk [] before) fun part flaw => ?_
      unfold orNothing
      by_cases none : part = 0
      · simp only [none, if_true]
        exact nothing disk before
      · simp only [none, if_false]
        exact temporary disk [] before
  refine ends_bind _ created (fun _ _ held => ⟨held, nofun⟩) fun _ opened held => ?_
  refine ends_bind (fun res reached => Before env binding inv auth record next start reached ∧
    (res = .ok () → Staged env binding inv auth record next start reached))
    (file_step_ends _ _ _ _ _ ⟨temporary opened _ held, fun _ => ⟨temporary opened _ held, ?_⟩⟩
      fun part flaw => ⟨temporary opened _ held, nofun⟩)
    (fun _ _ ended => ⟨ended.1, nofun⟩) fun _ written ended => ?_
  · exact (lookup_insert _ _ _ _).trans (if_pos rfl)
  · have staged := ended.2 rfl
    refine ends_bind (fun _ reached => Staged env binding inv auth record next start reached)
      (look_ends _ _ _ staged fun _ => staged) (fun _ _ held => ⟨held.before, nofun⟩) fun _ flushed held => ?_
    exact look_ends _ _ _ ⟨held.before, fun _ => ⟨held, bounded⟩⟩ fun _ => ⟨held.before, nofun⟩

theorem remove_previous_ends (disk : Disk) (staged : Staged env binding inv auth record next start disk)
    (current : disk.folder.current = some (auth.encode env record)) :
    Ends (removePrevious faults) disk fun _ reached => Staged env binding inv auth record next start reached ∧
      reached.folder.current = some (auth.encode env record) := by
  have removed : Staged env binding inv auth record next start
      (disk.move fun folder => { folder with previous := none }) :=
    ⟨before_move _ staged.before (.inl ⟨current, fun _ wrong => nomatch wrong⟩), staged.ready⟩
  have nothing : Staged env binding inv auth record next start (disk.move id) := ⟨before_move _ staged.before staged.before.selects, staged.ready⟩
  unfold removePrevious
  refine ends_bind (fun _ reached => reached = disk) (present_ends _ _ _ _ (fun _ => rfl) (fun _ => rfl) rfl) ?_ ?_
  · rintro _ _ rfl
    exact ⟨staged, current⟩
  rintro there _ rfl
  cases there with
  | false => exact ⟨staged, current⟩
  | true =>
    refine ends_bind (fun _ reached => Staged env binding inv auth record next start reached ∧ reached.folder.current = some (auth.encode env record))
      (file_step_ends _ _ _ _ _ ⟨removed, current⟩ fun part flaw => ?_) (fun _ _ held => held) fun _ reached held => ?_
    · unfold orNothing
      by_cases none : part = 0
      · simp only [none, if_true]
        exact ⟨nothing, current⟩
      · simp only [none, if_false]
        exact ⟨removed, current⟩
    · have synced : Staged env binding inv auth record next start { reached with older := [] } := ⟨before_sync held.1.before, held.1.ready⟩
      exact sync_ends _ _ _ ⟨synced, held.2⟩ (fun _ => ⟨synced, held.2⟩) fun _ => held

theorem keep_current_ends (disk : Disk) (staged : Staged env binding inv auth record next start disk) :
    Ends (keepCurrent faults) disk fun _ reached => Staged env binding inv auth record next start reached := by
  unfold keepCurrent
  refine ends_bind (fun res reached => reached = disk ∧ (res = .ok true → disk.folder.current.isSome = true))
    (present_ends _ _ _ _ (fun there => ⟨rfl, fun _ => there⟩) (fun _ => ⟨rfl, nofun⟩)
      ⟨rfl, nofun⟩) ?_ ?_
  · rintro _ _ ⟨rfl, _⟩
    exact staged
  rintro there _ ⟨rfl, answer⟩
  cases there with
  | false => exact staged
  | true =>
    rename_i reached
    have current : reached.folder.current = some (auth.encode env record) := by
      rcases staged.before.selects with ⟨current, _⟩ | ⟨none, _⟩
      · exact current
      · have some := answer rfl
        rw [none] at some
        cases some
    refine ends_bind _ (remove_previous_ends env binding inv auth record next start faults reached staged
      current) (fun _ _ held => held.1) fun _ cleared held => ?_
    have aside : Staged env binding inv auth record next start
        (cleared.move (setAside (auth.encode env record))) :=
      ⟨before_move _ held.1.before (.inr ⟨rfl, rfl⟩), held.1.ready⟩
    have nothing : Staged env binding inv auth record next start (cleared.move id) :=
      ⟨before_move _ held.1.before held.1.before.selects, held.1.ready⟩
    refine ends_bind (fun _ reached => Staged env binding inv auth record next start reached)
      (rename_ends _ _ _ _ _ _ held.2 aside (fun _ => aside) fun _ => nothing) (fun _ _ held => held) fun _ moved held => ?_
    have synced : Staged env binding inv auth record next start { moved with older := [] } := ⟨before_sync held.before, held.ready⟩
    exact sync_ends _ _ _ synced (fun _ => synced) fun _ => held

-- What a failed publication leaves: the old record, or already the new one.
structure Undecided (disk : Disk) : Prop where
  between : Between env binding inv auth record next start disk
  holds : Selects env binding inv auth disk.folder record ∨ disk.folder.current = some (auth.encode env next)

theorem ignoring_ends (action : DiskAction Unit) (disk : Disk) (holds : Disk → Prop)
    (ends : Ends action disk fun _ reached => holds reached) :
      Ends (ignoring action) disk fun _ reached => holds reached := by
  unfold ignoring
  refine ends_bind _ (ends_attempt ends) ?_ ?_
  · rintro _ _ ⟨_, wrong, _⟩
    cases wrong
  rintro res reached ⟨_, _, held⟩
  match res with
  | .ok _ | .error .crashed | .error (.failed _) => exact held

theorem restore_previous_ends (truthful : ∀ part, faults.currentRemains ≠ some (.fails part)) (disk : Disk)
    (undecided : Undecided env binding inv auth record next start disk) :
    Ends (restorePrevious faults) disk fun _ reached => Undecided env binding inv auth record next start reached := by
  -- The file is put back only where none is in its place.
  have asked : Ends (mayRestore faults) disk fun res reached => reached = disk ∧
      (res = .ok true → disk.folder.current = none ∧ disk.folder.previous.isSome = true) := by
    unfold mayRestore
    refine ends_bind (fun res reached => reached = disk ∧ (res = .ok true → disk.folder.previous.isSome = true))
      (present_ends _ _ _ _ (fun there => ⟨rfl, fun _ => there⟩) (fun _ => ⟨rfl, nofun⟩)
        ⟨rfl, nofun⟩) (fun _ _ held => ⟨held.1, nofun⟩) ?_
    rintro kept reached ⟨rfl, remains⟩
    cases kept with
    | false => exact ⟨rfl, nofun⟩
    | true =>
      refine ends_bind (fun res after => after = reached ∧ (res = .ok false → reached.folder.current = none))
        (present_ends _ _ _ _ (fun _ => ⟨rfl, nofun⟩) (fun absent => ⟨rfl, fun _ => ?_⟩)
          ⟨rfl, nofun⟩) (fun _ _ held => ⟨held.1, nofun⟩) ?_
      · rcases absent with gone | ⟨part, blind⟩
        · exact Option.isNone_iff_eq_none.mp (by rw [← Option.not_isSome, gone]; rfl)
        · exact absurd blind (truthful part)
      · rintro there after ⟨rfl, gone⟩
        cases there with
        | true => exact ⟨rfl, nofun⟩
        | false => exact ⟨rfl, fun _ => ⟨gone rfl, remains rfl⟩⟩
  unfold restorePrevious
  refine ends_bind _ asked (fun _ _ held => held.1 ▸ undecided) ?_
  rintro restoring reached ⟨rfl, shape⟩
  cases restoring with
  | false => exact undecided
  | true =>
    obtain ⟨gone, _⟩ := shape rfl
    have selects : Selects env binding inv auth reached.folder record := by
      rcases undecided.holds with selects | current
      · exact selects
      · rw [gone] at current
        cases current
    have prev : reached.folder.previous = some (auth.encode env record) := by
      rcases selects with ⟨current, _⟩ | ⟨_, prev⟩
      · rw [gone] at current
        cases current
      · exact prev
    have back : Selects env binding inv auth (putBack (auth.encode env record) reached.folder) record := .inl ⟨rfl, fun _ wrong => nomatch wrong⟩
    have restored : Undecided env binding inv auth record next start
        (reached.move (putBack (auth.encode env record))) :=
      ⟨between_move _ undecided.between (.inl back), .inl back⟩
    have nothing : Undecided env binding inv auth record next start (reached.move id) :=
      ⟨between_move _ undecided.between (.inl selects), .inl selects⟩
    refine ends_bind (fun _ after => Undecided env binding inv auth record next start after)
      (ignoring_ends _ _ _ (rename_ends _ _ _ _ _ _ prev restored (fun _ => restored) fun _ => nothing))
      (fun _ _ held => held) fun _ after held => ?_
    have synced : Undecided env binding inv auth record next start { after with older := [] } := ⟨between_sync held.between, held.holds⟩
    exact ignoring_ends _ _ _ (sync_ends _ _ _ synced (fun _ => synced) fun _ => held)

theorem publish_temporary_ends (truthful : ∀ part, faults.currentRemains ≠ some (.fails part))
    (proper : Proper env binding inv auth record) (later : record.generation < next.generation) (disk : Disk)
    (staged : Staged env binding inv auth record next start disk) :
      Ends (publishTemporary faults next.generation) disk fun res reached =>
      Undecided env binding inv auth record next start reached ∧
        (res = .ok () → Selects env binding inv auth reached.folder next ∧ reached.older = []) := by
  have selects : Selects env binding inv auth
      (published next.generation (auth.encode env next) disk.folder) next := by
    refine .inl ⟨rfl, fun bytes behind => ?_⟩
    change disk.folder.previous = some bytes at behind
    rcases staged.before.selects with ⟨_, older⟩ | ⟨_, prev⟩
    · obtain ⟨other, isOther, otherProper, before⟩ := older bytes behind
      exact ⟨other, isOther, otherProper, UInt64.lt_trans before later⟩
    · rw [behind] at prev
      cases prev
      exact ⟨record, rfl, proper, later⟩
  have done : Undecided env binding inv auth record next start
      (disk.move (published next.generation (auth.encode env next))) :=
    ⟨between_move _ staged.before.between (.inr selects), .inr rfl⟩
  have undone : Undecided env binding inv auth record next start (disk.move id) := ⟨between_move _ staged.before.between (.inl staged.before.selects),
      .inl staged.before.selects⟩
  unfold publishTemporary
  refine ends_bind _ (ends_attempt (rename_ends (fun res reached =>
    Undecided env binding inv auth record next start reached ∧
      (res = .ok () → Selects env binding inv auth reached.folder next)) disk faults.publish _ _ _ staged.ready
    ⟨done, fun _ => selects⟩ (fun _ => ⟨done, nofun⟩) fun _ => ⟨undone, nofun⟩)) ?_ ?_
  · rintro _ _ ⟨_, wrong, _⟩
    cases wrong
  rintro res reached ⟨_, same, held⟩
  cases same
  match res with
  | .ok () =>
    have synced : Undecided env binding inv auth record next start { reached with older := [] } := ⟨between_sync held.1.between, held.1.holds⟩
    exact sync_ends _ _ _ ⟨synced, fun _ => ⟨held.2 rfl, rfl⟩⟩ (fun _ => ⟨synced, nofun⟩)
      fun _ => ⟨held.1, nofun⟩
  | .error .crashed => exact ⟨held.1, nofun⟩
  | .error (.failed error) =>
    refine ends_bind _ (restore_previous_ends env binding inv auth record next start faults truthful reached
      held.1) (fun _ _ held => ⟨held, nofun⟩) fun _ after held => ?_
    exact ⟨held, nofun⟩

theorem persist_replace_ends (truthful : ∀ part, faults.currentRemains ≠ some (.fails part))
    (proper : Proper env binding inv auth record) (later : record.generation < next.generation)
    (selects : Selects env binding inv auth start.folder record) :
      Ends (persistReplace env faults next auth) start fun res reached =>
      Undecided env binding inv auth record next start reached ∧
        (res = .ok () → Selects env binding inv auth reached.folder next ∧ reached.older = [] ∧
          (auth.encode env next).length ≤ maxJournalBytes) := by
  have before : Before env binding inv auth record next start start := ⟨fun folder listed => .inl listed, selects⟩
  have still : ∀ disk, Before env binding inv auth record next start disk →
      Undecided env binding inv auth record next start disk := fun disk held => ⟨held.between, .inl held.selects⟩
  have looks : ∀ (fault : Option Fault) (rest : Unit → DiskAction Unit), Ends (rest ()) start (fun res reached =>
      Undecided env binding inv auth record next start reached ∧
        (res = .ok () → Selects env binding inv auth reached.folder next ∧ reached.older = [] ∧ (auth.encode env next).length ≤ maxJournalBytes)) →
      Ends (look fault >>= rest) start fun res reached =>
        Undecided env binding inv auth record next start reached ∧
          (res = .ok () → Selects env binding inv auth reached.folder next ∧ reached.older = [] ∧
            (auth.encode env next).length ≤ maxJournalBytes) := by
    intro fault rest ends
    refine ends_bind (fun _ reached => reached = start) (look_ends _ _ _ rfl fun _ => rfl) ?_ ?_
    · rintro _ _ rfl
      exact ⟨still _ before, nofun⟩
    · rintro _ _ rfl
      exact ends
  unfold persistReplace
  refine looks _ _ (looks _ _ (looks _ _ ?_))
  refine ends_bind _ (write_new_ends env binding inv auth record next start faults start before)
    (fun _ reached held => ⟨still reached held.1, nofun⟩) fun _ written held => ?_
  obtain ⟨staged, bounded⟩ := held.2 rfl
  refine ends_bind _ (keep_current_ends env binding inv auth record next start faults written staged)
    (fun _ reached held => ⟨still reached held.before, nofun⟩) fun _ kept held => ?_
  refine ends_weaken (publish_temporary_ends env binding inv auth record next start faults truthful proper later
    kept held) fun res reached ended => ⟨ended.1, fun done => ?_⟩
  exact ⟨(ended.2 done).1, (ended.2 done).2, bounded⟩

end HeptaBao.Migration
