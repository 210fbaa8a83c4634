import AuthKit.Domain.Noninterference
import AuthKit.Domain.Poisoning

/-!
# Verifications leave no trace

`verify_state` evicts, so it changes the map. With a clock that does not go back, what it evicts
would never be looked at again: every later answer is the one that the bindings and revocations
alone would have led to. `len` does not even evict: it counts what is there, expired or not.
-/
namespace AuthKit.Domain

open Execution

/-- `bind_state` and `revoke_state`. -/
def StoreOp.writes : StoreOp → Bool
  | .bind _ _ _ _ => true
  | .verify _ _ _ => false
  | .revoke _ => true

def StoreEvent.writes : StoreEvent → Bool
  | .bound _ _ _ _ _ => true
  | .verified _ _ _ _ => false
  | .revoked _ _ => true

/-- The maps differ at most in entries that every reading still to come finds expired. -/
structure Agree (later : List DateTime) (store store' : InMemorySessionStore) : Prop where
  ttl_eq : store.ttl = store'.ttl
  maxEntries_eq : store.maxEntries = store'.maxEntries
  poisoned_eq : store.poisoned = store'.poisoned
  ordered : later.Pairwise (· ≤ ·)
  evicted_eq : ∀ now ∈ later, InMemorySessionStore.evictExpired now store.inner =
    InMemorySessionStore.evictExpired now store'.inner

/-- A later eviction finds what an earlier one has left. -/
theorem evictExpired_evictExpired (earlier later : DateTime) (ordered : earlier ≤ later)
    (map : AList fun _ : String => Entry) :
    InMemorySessionStore.evictExpired later (InMemorySessionStore.evictExpired earlier map) =
      InMemorySessionStore.evictExpired later map := by
  unfold InMemorySessionStore.evictExpired
  rw [AList.retain_retain]
  congr 1
  funext token entry
  by_cases fresh : later < entry.expiresAt
  · have fresh' : earlier < entry.expiresAt := DateTime.lt_of_le_of_lt ordered fresh
    simp [fresh, fresh']
  · simp [fresh]

theorem evictExpired_erase (now : DateTime) (token : String)
    (map : AList fun _ : String => Entry) :
    InMemorySessionStore.evictExpired now (map.erase token) =
      (InMemorySessionStore.evictExpired now map).erase token := AList.retain_erase _ _ _

section Steps

variable {later : List DateTime} {store store' : InMemorySessionStore}

theorem Agree.refl (store : InMemorySessionStore) (ordered : later.Pairwise (· ≤ ·)) :
    Agree later store store := ⟨rfl, rfl, rfl, ordered, fun _ _ => rfl⟩

private theorem Agree.tail (readings : List DateTime)
    (agree : Agree (readings ++ later) store store') : Agree later store store' where
  ttl_eq := agree.ttl_eq
  maxEntries_eq := agree.maxEntries_eq
  poisoned_eq := agree.poisoned_eq
  ordered := (List.pairwise_append.mp agree.ordered).2.1
  evicted_eq now member := agree.evicted_eq now (List.mem_append_right _ member)

/-- A verification that only one of the stores performs. -/
private theorem Agree.skip {token session : String} {now : DateTime}
    (agree : Agree (now :: later) store store') :
    Agree later (store.perform (.verify token session now)).1 store' := by
  have rest : Agree later store store' := Agree.tail [now] agree
  cases poisoned : store.poisoned with
  | true =>
    rw [(store.perform_of_poisoned poisoned _).1]
    exact rest
  | false =>
    change Agree later (store.verifyState token session now).1 store'
    rw [store.verifyState_healthy poisoned]
    refine ⟨rest.ttl_eq, rest.maxEntries_eq, rest.poisoned_eq, rest.ordered, ?_⟩
    intro reading member
    rw [evictExpired_evictExpired _ _ (List.rel_of_pairwise_cons agree.ordered member)]
    exact rest.evicted_eq reading member

/-- A healthy store answers from what its eviction leaves, and from its configuration. -/
private theorem Agree.bindState_eq {evictNow : DateTime}
    (agree : Agree (evictNow :: later) store store') (healthy : store.poisoned = false)
    (token session : String) (insertNow : DateTime) :
    store.bindState token session evictNow insertNow =
      store'.bindState token session evictNow insertNow := by
  have healthy' : store'.poisoned = false := agree.poisoned_eq ▸ healthy
  simp only [InMemorySessionStore.bindState, healthy, healthy', Bool.false_eq_true, if_false,
    agree.ttl_eq, agree.maxEntries_eq, agree.evicted_eq evictNow List.mem_cons_self]

private theorem Agree.verifyState_eq {now : DateTime} (agree : Agree (now :: later) store store')
    (healthy : store.poisoned = false) (token session : String) :
    store.verifyState token session now = store'.verifyState token session now := by
  have healthy' : store'.poisoned = false := agree.poisoned_eq ▸ healthy
  simp only [InMemorySessionStore.verifyState, healthy, healthy', Bool.false_eq_true, if_false,
    agree.ttl_eq, agree.maxEntries_eq, agree.evicted_eq now List.mem_cons_self]

/-- An operation that both stores perform. -/
private theorem Agree.step {op : StoreOp} (agree : Agree (op.readings ++ later) store store') :
    Agree later (store.perform op).1 (store'.perform op).1 ∧
      (store.perform op).2 = (store'.perform op).2 := by
  have rest : Agree later store store' := Agree.tail op.readings agree
  cases poisoned : store.poisoned with
  | true =>
    have poisoned' : store'.poisoned = true := agree.poisoned_eq ▸ poisoned
    rw [(store.perform_of_poisoned poisoned _).1, (store'.perform_of_poisoned poisoned' _).1]
    refine ⟨rest, ?_⟩
    cases op <;> simp [InMemorySessionStore.perform, InMemorySessionStore.bindState,
      InMemorySessionStore.verifyState, InMemorySessionStore.revokeState, poisoned, poisoned']
  | false =>
    cases op with
    | bind token session evictNow insertNow =>
      -- after the call the stores are one
      have both : Agree (evictNow :: insertNow :: later) store store' := agree
      simp only [InMemorySessionStore.perform, both.bindState_eq poisoned, and_true]
      exact .refl _ rest.ordered
    | verify token session now =>
      have both : Agree (now :: later) store store' := agree
      simp only [InMemorySessionStore.perform, both.verifyState_eq poisoned, and_true]
      exact .refl _ rest.ordered
    | revoke token =>
      have poisoned' : store'.poisoned = false := agree.poisoned_eq ▸ poisoned
      simp only [InMemorySessionStore.perform, store.revokeState_healthy poisoned,
        store'.revokeState_healthy poisoned', and_true]
      refine ⟨rest.ttl_eq, rest.maxEntries_eq, rest.poisoned_eq, rest.ordered, ?_⟩
      intro now member
      rw [evictExpired_erase, evictExpired_erase, rest.evicted_eq now member]

/-- Stores that agree at a reading answer a verification at that reading alike. -/
theorem Agree.verify_answer (now : DateTime) (agree : Agree [now] store store')
    (token session : String) :
    (store.verifyState token session now).2 = (store'.verifyState token session now).2 := by
  have both : Agree ((StoreOp.verify token session now).readings ++ []) store store' := agree
  have same := both.step.2
  simpa [InMemorySessionStore.perform] using same

end Steps

section Runs

variable (store : InMemorySessionStore) (ops : List StoreOp) (later : List DateTime)
  (ordered : (ops.flatMap StoreOp.readings ++ later).Pairwise (· ≤ ·))

include ordered

/-- After a run with ordered readings, the store agrees with the one that performed the bindings
and revocations only. -/
theorem exec_writes_agree :
    Agree later (InMemorySessionStore.machine.exec store ops).1
      (InMemorySessionStore.machine.exec store (ops.filter StoreOp.writes)).1 := by
  refine InMemorySessionStore.machine.exec_filter_related StoreOp.writes
    (fun rest => Agree (rest.flatMap StoreOp.readings ++ later)) ?_ ?_ ops store store
    (.refl store ordered)
  · intro op rest store store' reads agree
    cases op with
    | bind token session evictNow insertNow => cases reads
    | verify token session now => exact Agree.skip agree
    | revoke token => cases reads
  · intro op rest store store' _ agree
    rw [List.flatMap_cons, List.append_assoc] at agree
    exact agree.step.1

/-- The bindings and revocations of a run with ordered readings are answered as if there were no
verifications. -/
theorem exec_writes_answers :
    (InMemorySessionStore.machine.exec store ops).2.filter StoreEvent.writes =
      (InMemorySessionStore.machine.exec store (ops.filter StoreOp.writes)).2 := by
  refine InMemorySessionStore.machine.exec_filter_eq InMemorySessionStore.machine StoreOp.writes
    StoreEvent.writes (fun rest => Agree (rest.flatMap StoreOp.readings ++ later)) ?_ ?_ ops store
    store (.refl store ordered)
  · intro op rest store store' reads agree
    cases op with
    | bind token session evictNow insertNow => cases reads
    | verify token session now => exact ⟨Agree.skip agree, rfl⟩
    | revoke token => cases reads
  · intro op rest store store' writes agree
    rw [List.flatMap_cons, List.append_assoc] at agree
    obtain ⟨after, same⟩ := agree.step
    refine ⟨after, ?_⟩
    change (store.perform op).2.filter _ = _
    rw [same]
    cases op with
    | bind token session evictNow insertNow => rfl
    | verify token session now => cases writes
    | revoke token => rfl

end Runs

/-! ### What `len` reports -/

section Metrics

variable {ttl : Duration} {maxEntries : Nat} {store : InMemorySessionStore}
  {history : List StoreEvent}

/-- The map has an entry for each token that is bound, expired or not. -/
theorem Tracks.bound_eq (tracks : Tracks ttl maxEntries store history) :
    {token | ∃ session expires, BoundSince ttl token session expires history} =
      {token | token ∈ store.inner} := by
  ext token
  simp only [Set.mem_ofPred_eq, ← AList.lookup_isSome, Option.isSome_iff_exists]
  constructor
  · rintro ⟨session, expires, bound⟩
    exact ⟨_, (tracks.lookup_iff token session expires).mpr bound⟩
  · rintro ⟨⟨session, expires⟩, found⟩
    exact ⟨session, expires, (tracks.lookup_iff token session expires).mp found⟩

end Metrics

/-- In every run, with any ttl and any clock, `len` is the number of tokens that are bound and have
not been evicted, until a binding panics, and zero from then on; so `is_empty` says that nothing is
bound, or that the store is lost. -/
theorem len_counts_bindings (ttl : Duration) (maxEntries : Nat) (ops : List StoreOp) :
    let run := InMemorySessionStore.machine.exec (.withCapacity ttl maxEntries) ops
    let bound := {token | ∃ session expires, BoundSince ttl token session expires run.2}
    ((∃ event ∈ run.2, event.Panicked) → run.1.len = 0) ∧
    ((¬ ∃ event ∈ run.2, event.Panicked) → run.1.len = bound.ncard) ∧
    (run.1.isEmpty = true ↔ (∃ event ∈ run.2, event.Panicked) ∨ bound = ∅) := by
  intro run bound
  have poisoned : run.1.poisoned = true ↔ ∃ event ∈ run.2, event.Panicked :=
    InMemorySessionStore.exec_poisoned_iff _ rfl ops
  by_cases panicked : ∃ event ∈ run.2, event.Panicked
  · have zero : run.1.len = 0 := by simp [InMemorySessionStore.len, poisoned.mpr panicked]
    refine ⟨fun _ => zero, fun returns => absurd panicked returns, ?_⟩
    exact iff_of_true (by simp [InMemorySessionStore.isEmpty, zero]) (Or.inl panicked)
  · have tracks : Tracks ttl maxEntries run.1 run.2 :=
      exec_tracks_of_healthy ops (Bool.not_eq_true _ ▸ mt poisoned.mp panicked)
    have keys : bound = {token | token ∈ run.1.inner} := tracks.bound_eq
    have counts : run.1.len = bound.ncard := by
      rw [keys, AList.ncard_keys]
      simp [InMemorySessionStore.len, tracks.healthy]
    refine ⟨fun panics => absurd panics panicked, fun _ => counts, ?_⟩
    have finite : bound.Finite := keys ▸ AList.finite_keys run.1.inner
    rw [InMemorySessionStore.isEmpty, beq_iff_eq, counts, Set.ncard_eq_zero finite]
    exact (or_iff_right panicked).symm

end AuthKit.Domain
