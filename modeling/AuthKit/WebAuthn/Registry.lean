import AuthKit.WebAuthn.Types

/-!
# The credential registry

A map from user ids to lists of credentials. Lists only ever grow at their end, and of an
existing entry only the sign count changes; which entry `find` selects for a user and a
credential id is therefore settled by the first registration of that id.
-/
namespace AuthKit.WebAuthn

abbrev Registry := AList fun _ : String => List WebAuthnCredential

namespace Registry

variable (registry : Registry)

def listCredentials (userId : String) : List WebAuthnCredential :=
  (registry.lookup userId).getD []

/-- The loop over all users and all their credentials under the read lock. -/
def contains (credentialId : List UInt8) : Bool :=
  registry.entries.any fun entry =>
    entry.2.any fun c => decide (c.credentialId = credentialId)

/-- `entry(user_id).or_default().push(credential)`. -/
def push (userId : String) (credential : WebAuthnCredential) : Registry :=
  registry.insert userId (registry.listCredentials userId ++ [credential])

/-- Assign to the sign count of the first credential that `find` selects. -/
def setSignCount (credentialId : List UInt8) (signCount : UInt32) :
    List WebAuthnCredential → List WebAuthnCredential
  | [] => []
  | c :: rest =>
      if c.credentialId = credentialId then { c with signCount := signCount } :: rest
      else c :: setSignCount credentialId signCount rest

/-- The section of `verify_authentication` under the write lock. It returns the public key of
the credential, which the signature check reads next. -/
def raiseCount (userId : String) (credentialId : List UInt8) (signCount : UInt32) :
    Registry × Except WebAuthnError (List UInt8) :=
  match registry.lookup userId with
  | none => (registry, .error .credentialNotFound)
  | some creds =>
      match creds.find? fun c => decide (c.credentialId = credentialId) with
      | none => (registry, .error .credentialNotFound)
      | some cred =>
          -- an equal count is refused too
          if signCount ≤ cred.signCount then (registry, .error .credentialNotFound)
          else
            (registry.insert userId (setSignCount credentialId signCount creds),
              .ok cred.publicKey)

/-! ### What the registry holds -/

/-- The first credential of the id in the user's list. -/
def stored (userId : String) (credentialId : List UInt8) : Option WebAuthnCredential :=
  (registry.listCredentials userId).find? fun c => decide (c.credentialId = credentialId)

def credentialIds (userId : String) : List (List UInt8) :=
  (registry.listCredentials userId).map (·.credentialId)

@[simp] theorem listCredentials_empty (userId : String) :
    listCredentials ∅ userId = [] := by
  simp [listCredentials]

theorem listCredentials_insert (userId : String) (creds : List WebAuthnCredential)
    (other : String) :
    listCredentials (registry.insert userId creds) other =
      if other = userId then creds else registry.listCredentials other := by
  by_cases same : other = userId
  · subst same
    simp [listCredentials]
  · simp [listCredentials, AList.lookup_insert_ne same, same]

theorem listCredentials_push (userId : String) (credential : WebAuthnCredential)
    (other : String) :
    (registry.push userId credential).listCredentials other =
      registry.listCredentials other ++ if other = userId then [credential] else [] := by
  unfold push
  rw [listCredentials_insert]
  by_cases same : other = userId
  · rw [if_pos same, if_pos same, same]
  · rw [if_neg same, if_neg same, List.append_nil]

theorem contains_iff (credentialId : List UInt8) :
    registry.contains credentialId = true ↔
      ∃ userId, credentialId ∈ registry.credentialIds userId := by
  simp only [contains, List.any_eq_true, decide_eq_true_eq, credentialIds, List.mem_map]
  constructor
  · rintro ⟨⟨userId, creds⟩, entry, c, member, same⟩
    have found : registry.lookup userId = some creds := AList.mem_lookup_iff.mpr entry
    exact ⟨userId, c, by rw [listCredentials, found]; exact member, same⟩
  · rintro ⟨userId, c, member, same⟩
    cases found : registry.lookup userId with
    | none => simp [listCredentials, found] at member
    | some creds =>
      rw [listCredentials, found, Option.getD_some] at member
      exact ⟨⟨userId, creds⟩, AList.mem_lookup_iff.mp found, c, member, same⟩

/-! ### Pushing a credential -/

theorem credentialIds_push (userId : String) (credential : WebAuthnCredential) (other : String) :
    (registry.push userId credential).credentialIds other =
      registry.credentialIds other ++ if other = userId then [credential.credentialId] else [] := by
  rw [credentialIds, listCredentials_push, List.map_append, credentialIds]
  split <;> rfl

/-- A push is selected only where nothing of its id was registered before. -/
theorem stored_push (userId : String) (credential : WebAuthnCredential) (other : String)
    (credentialId : List UInt8) :
    (registry.push userId credential).stored other credentialId =
      (registry.stored other credentialId).or
        (if other = userId ∧ credential.credentialId = credentialId then some credential
        else none) := by
  -- `find` tries the entries that were there before
  rw [stored, listCredentials_push, List.find?_append, stored]
  congr 1
  by_cases user : other = userId
  · simp [user, List.find?_singleton]
  · simp [user]

/-! ### Raising a count -/

theorem map_credentialId_setSignCount (credentialId : List UInt8) (signCount : UInt32)
    (creds : List WebAuthnCredential) :
    (setSignCount credentialId signCount creds).map (·.credentialId) =
      creds.map (·.credentialId) := by
  induction creds with
  | nil => rfl
  | cons c rest ih =>
    unfold setSignCount
    split
    · rfl
    · simp only [List.map_cons, ih]

theorem find?_setSignCount (credentialId : List UInt8) (signCount : UInt32)
    (creds : List WebAuthnCredential) (other : List UInt8) :
    (setSignCount credentialId signCount creds).find? (fun c => decide (c.credentialId = other)) =
      (creds.find? fun c => decide (c.credentialId = other)).map fun c =>
        if other = credentialId then { c with signCount := signCount } else c := by
  induction creds with
  | nil => rfl
  | cons c rest ih =>
    unfold setSignCount
    by_cases assigned : c.credentialId = credentialId
    · -- the assignment is to this entry: it keeps its id
      by_cases wanted : credentialId = other
      · simp [assigned, wanted]
      · have other_ne : ¬ (other = credentialId) := fun same => wanted same.symm
        simp [assigned, wanted, other_ne]
    · by_cases wanted : c.credentialId = other
      · have other_ne : ¬ (other = credentialId) := fun same => assigned (wanted.trans same)
        simp [wanted, other_ne]
      · simp [assigned, wanted, ih]

/-- Everything the write-locked section can do: find no credential, refuse a count that is not
above the stored one, or store the count. -/
theorem raiseCount_cases (userId : String) (credentialId : List UInt8) (signCount : UInt32) :
    (registry.stored userId credentialId = none ∧
      registry.raiseCount userId credentialId signCount = (registry, .error .credentialNotFound)) ∨
    (∃ cred, registry.stored userId credentialId = some cred ∧ signCount ≤ cred.signCount ∧
      registry.raiseCount userId credentialId signCount = (registry, .error .credentialNotFound)) ∨
    (∃ cred, registry.stored userId credentialId = some cred ∧ cred.signCount < signCount ∧
      registry.raiseCount userId credentialId signCount =
        (registry.insert userId
          (setSignCount credentialId signCount (registry.listCredentials userId)),
          .ok cred.publicKey)) := by
  unfold raiseCount stored listCredentials
  cases user : registry.lookup userId with
  | none => exact Or.inl ⟨rfl, rfl⟩
  | some creds =>
    simp only [Option.getD_some]
    cases found : creds.find? fun c => decide (c.credentialId = credentialId) with
    | none => exact Or.inl ⟨rfl, rfl⟩
    | some cred =>
      refine Or.inr ?_
      -- a credential that is found is tested for nothing but its count
      by_cases low : signCount ≤ cred.signCount
      · exact Or.inl ⟨cred, rfl, low, by simp only [if_pos low]⟩
      · exact Or.inr ⟨cred, rfl, UInt32.not_le.mp low, by simp only [if_neg low]⟩

theorem stored_raised (userId : String) (credentialId : List UInt8) (signCount : UInt32)
    (other : String) (otherId : List UInt8) :
    stored (registry.insert userId
        (setSignCount credentialId signCount (registry.listCredentials userId))) other otherId =
      (registry.stored other otherId).map fun c =>
        if other = userId ∧ otherId = credentialId then { c with signCount := signCount } else c := by
  rw [stored, listCredentials_insert]
  by_cases user : other = userId
  · subst user
    simp only [if_true, find?_setSignCount, stored, true_and]
  · simp [user, stored]

/-- The section never lowers a stored count. -/
theorem stored_raiseCount_le (userId : String) (credentialId : List UInt8) (signCount : UInt32)
    (other : String) (otherId : List UInt8) :
    ((registry.raiseCount userId credentialId signCount).1.stored other otherId = none →
      registry.stored other otherId = none) ∧
    ∀ after, (registry.raiseCount userId credentialId signCount).1.stored other otherId =
        some after →
      ∃ before, registry.stored other otherId = some before ∧
        before.signCount ≤ after.signCount := by
  rcases registry.raiseCount_cases userId credentialId signCount with
    ⟨_, result⟩ | ⟨_, _, _, result⟩ | ⟨cred, found, higher, result⟩
  · rw [result]
    exact ⟨fun absent => absent, fun after found => ⟨after, found, UInt32.le_refl _⟩⟩
  · rw [result]
    exact ⟨fun absent => absent, fun after found => ⟨after, found, UInt32.le_refl _⟩⟩
  · rw [result, stored_raised]
    refine ⟨Option.map_eq_none_iff.mp, fun after moved => ?_⟩
    obtain ⟨before, there, rfl⟩ := Option.map_eq_some_iff.mp moved
    refine ⟨before, there, ?_⟩
    by_cases mine : other = userId ∧ otherId = credentialId
    · -- the entry that was raised is the one whose count was compared
      rw [mine.1, mine.2, found, Option.some.injEq] at there
      rw [if_pos mine, ← there]
      exact UInt32.le_of_lt higher
    · rw [if_neg mine]
      exact UInt32.le_refl _

theorem credentialIds_raiseCount (userId : String) (credentialId : List UInt8)
    (signCount : UInt32) (other : String) :
    (registry.raiseCount userId credentialId signCount).1.credentialIds other =
      registry.credentialIds other := by
  rcases registry.raiseCount_cases userId credentialId signCount with
    ⟨_, result⟩ | ⟨cred, _, _, result⟩ | ⟨cred, _, _, result⟩
  · rw [result]
  · rw [result]
  · rw [result, credentialIds, listCredentials_insert]
    by_cases user : other = userId
    · rw [if_pos user, map_credentialId_setSignCount, user, credentialIds]
    · rw [if_neg user, credentialIds]

end Registry

end AuthKit.WebAuthn
