import HeptaBao.Wire.Bytes

namespace Wire

open List

theorem bind_ok {ε α β : Type} {first : Except ε α} {next : α → Except ε β} {res : β}
    (succeeds : (first >>= next) = .ok res) : ∃ value, first = .ok value ∧ next value = .ok res := by
  cases first with
  | error => cases succeeds
  | ok value => exact ⟨value, rfl, succeeds⟩

theorem ok_bind {ε α β : Type} (value : α) (next : α → Except ε β) : (Except.ok value >>= next) = next value := rfl

theorem map_ok {ε α β : Type} {res : Except ε α} {f : α → β} {value : β} (mapped : res.map f = .ok value) :
    ∃ inner, res = .ok inner ∧ f inner = value := by
  cases res with
  | error => cases mapped
  | ok inner => exact ⟨inner, rfl, Except.ok.inj mapped⟩

-- A reader consumes bytes from the front and hands back what it left over.
def Reader (ε α : Type) := Bytes → Except ε (α × Bytes)

namespace Reader

variable {ε α β γ : Type}

instance : Monad (Reader ε) where
  pure value := fun input => .ok (value, input)
  bind first next := fun input =>
    match first input with
    | .error flaw => .error flaw
    | .ok (value, rest) => next value rest

theorem bind_apply (first : Reader ε α) (next : α → Reader ε β) (input : Bytes) : (first >>= next) input =
    match first input with
      | .error flaw => .error flaw
      | .ok (value, rest) => next value rest := rfl

def fail (flaw : ε) : Reader ε α := fun _ => .error flaw

def lift (res : Except ε α) : Reader ε α := fun input =>
  match res with
  | .error flaw => .error flaw
  | .ok value => .ok (value, input)

def exact (flaw : ε) (count : Nat) : Reader ε Bytes := fun input =>
  if count ≤ input.length then .ok (input.take count, input.drop count) else .error flaw

def complete (flaw : ε) (reader : Reader ε α) (input : Bytes) : Except ε α :=
  match reader input with
  | .error reason => .error reason
  | .ok (value, rest) => if rest = [] then .ok value else .error flaw

def repeatFold (body : β → Reader ε β) : Nat → β → Reader ε β
  | 0, state => pure state
  | count + 1, state => body state >>= repeatFold body count

-- On `bytes` and more, the reader yields `value` and leaves the rest.
def Reads (reader : Reader ε α) (bytes : Bytes) (value : α) : Prop :=
  ∀ rest, reader (bytes ++ rest) = .ok (value, rest)

theorem reads_pure (value : α) : Reads (pure value : Reader ε α) [] value := fun _ => rfl

theorem reads_peel {reader : Reader ε α} {a b s t : Bytes} {x y : α} (readsA : Reads reader a x)
    (readsB : Reads reader b y)
    (same : a ++ s = b ++ t) : x = y ∧ s = t := by
  have read := readsA s
  rw [same, readsB t] at read
  have pair := Prod.mk.inj (Except.ok.inj read)
  exact ⟨pair.1.symm, pair.2.symm⟩

theorem reads_bind {first : Reader ε α} {next : α → Reader ε β} {head tail : Bytes} {value : α} {res : β}
    (readsHead : Reads first head value) (readsTail : Reads (next value) tail res) : Reads (first >>= next)
    (head ++ tail) res := by
  intro rest
  rw [bind_apply, append_assoc, readsHead]
  exact readsTail rest

theorem reads_map (first : Reader ε α) (next : α → β) (bytes : Bytes) (value : α)
    (reads : Reads first bytes value) : Reads (first >>= fun a => pure (next a)) bytes (next value) := by
  intro rest
  rw [bind_apply, reads]
  rfl

theorem reads_lift (res : Except ε α) (value : α) (succeeds : res = .ok value) : Reads (lift res) [] value := by
  intro rest
  rw [succeeds]
  rfl

theorem reads_check {res : Except ε α} {next : α → Reader ε β} {bytes : Bytes} {value : α} {final : β}
    (succeeds : res = .ok value) (reads : Reads (next value) bytes final) : Reads (lift res >>= next) bytes final := by
  simpa using reads_bind (reads_lift res value succeeds) reads

theorem reads_exact (flaw : ε) (count : Nat) (bytes : Bytes) (length : bytes.length = count) :
    Reads (exact flaw count) bytes bytes := by
  intro rest
  simp [exact, ← length]

theorem complete_reads (flaw : ε) (reader : Reader ε α) (bytes : Bytes) (value : α)
    (reads : Reads reader bytes value) : complete flaw reader bytes = .ok value := by
  have read := reads []
  rw [append_nil] at read
  simp [complete, read]

def writeEach (write : γ → Except ε Bytes) : List γ → Except ε Bytes
  | [] => .ok []
  | item :: left => do
    let head ← write item
    let tail ← writeEach write left
    return head ++ tail

theorem write_each_bounded (write : γ → Except ε Bytes) (bound : Nat) (items : List γ)
    (each : ∀ item ∈ items, ∃ chunk, write item = .ok chunk ∧ chunk.length ≤ bound) :
    ∃ bytes, writeEach write items = .ok bytes ∧ bytes.length ≤ items.length * bound := by
  induction items with
  | nil => exact ⟨[], rfl, by simp⟩
  | cons item _ ih =>
    obtain ⟨head, wroteHead, _⟩ := each item mem_cons_self
    obtain ⟨tail, wroteTail, _⟩ := ih (fun other member => each other (mem_cons_of_mem _ member))
    refine ⟨head ++ tail, by simp only [writeEach, wroteHead, wroteTail]; rfl, ?_⟩
    rw [length_append, length_cons, Nat.succ_mul]
    omega

theorem reads_repeat (body : β → Reader ε β) (write : γ → Except ε Bytes) (apply : β → γ → β)
    (items : List γ) (state : β) (bytes : Bytes) (written : writeEach write items = .ok bytes)
    (round : ∀ (done left : List γ) (item : γ) (chunk : Bytes), items = done ++ item :: left →
      write item = .ok chunk → Reads (body (done.foldl apply state)) chunk (apply (done.foldl apply state) item)) :
    Reads (repeatFold body items.length state) bytes (items.foldl apply state) := by
  induction items generalizing state bytes with
  | nil =>
    cases written
    exact reads_pure state
  | cons item left ih =>
    obtain ⟨head, writtenHead, later⟩ := bind_ok written
    obtain ⟨tail, writtenTail, whole⟩ := bind_ok later
    cases whole
    have first := round [] left item head rfl writtenHead
    have rest := ih (apply state item) tail writtenTail (fun done more next chunk shape wrote => by
      have moved := round (item :: done) more next chunk (by simp [shape]) wrote
      simpa using moved)
    exact reads_bind first rest

end Reader

end Wire
