import Mathlib.Data.List.AList
import Mathlib.Data.Set.Card

/-!
# Finite maps with a filter and a size

Association lists with distinct keys (`AList`) as a model of hash maps: keeping the
entries that pass a test, and counting entries.
-/
namespace AList

variable {α : Type*} {β : α → Type*}

/-- Keep the entries that pass the test. -/
def retain (keep : ∀ a, β a → Bool) (s : AList β) : AList β :=
  ⟨s.entries.filter fun entry => keep entry.1 entry.2,
    s.nodupKeys.sublist List.filter_sublist⟩

def size (s : AList β) : Nat := s.entries.length

@[simp] theorem size_empty : (∅ : AList β).size = 0 := rfl

theorem size_eq_length_keys (s : AList β) : s.size = s.keys.length := by
  simp [size, keys, List.keys]

theorem size_retain_le (keep : ∀ a, β a → Bool) (s : AList β) : (s.retain keep).size ≤ s.size :=
  List.length_filter_le _ _

theorem retain_retain (keep keep' : ∀ a, β a → Bool) (s : AList β) :
    (s.retain keep).retain keep' = s.retain fun a b => keep' a b && keep a b :=
  AList.ext List.filter_filter

variable [DecidableEq α]

theorem retain_erase (keep : ∀ a, β a → Bool) (a : α) (s : AList β) :
    (s.erase a).retain keep = (s.retain keep).erase a := by
  -- the entry that is erased is the only one of its key
  have erased : ∀ entries : List (Sigma β), entries.NodupKeys →
      entries.kerase a = entries.filter fun entry => !decide (a = entry.1) := by
    intro entries distinct
    induction entries with
    | nil => rfl
    | cons entry rest ih =>
      rw [List.nodupKeys_cons] at distinct
      by_cases same : a = entry.1
      · rw [List.kerase_cons_eq same, List.filter_cons_of_neg (by simp [same])]
        refine (List.filter_eq_self.mpr fun other member => ?_).symm
        have other_ne : a ≠ other.1 := by
          rintro rfl
          exact distinct.1 (same ▸ List.mem_map_of_mem member)
        simp [other_ne]
      · rw [List.kerase_cons_ne same, List.filter_cons_of_pos (by simp [same]), ih distinct.2]
  apply AList.ext
  change (s.entries.kerase a).filter _ = (s.retain keep).entries.kerase a
  rw [erased _ s.nodupKeys, erased _ (s.retain keep).nodupKeys]
  simp only [retain, List.filter_filter, Bool.and_comm]

@[simp] theorem lookup_retain (keep : ∀ a, β a → Bool) (s : AList β) (a : α) :
    (s.retain keep).lookup a = (s.lookup a).filter (keep a) := by
  ext b
  simp only [← Option.mem_def, mem_lookup_iff, Option.mem_filter_iff]
  simp [retain]

theorem mem_retain (keep : ∀ a, β a → Bool) (s : AList β) (a : α) :
    a ∈ s.retain keep ↔ ∃ b, s.lookup a = some b ∧ keep a b = true := by
  rw [← lookup_isSome, lookup_retain, Option.isSome_iff_exists]
  simp [Option.filter_eq_some_iff]

theorem size_insert_of_notMem {a : α} (b : β a) {s : AList β} (absent : a ∉ s) :
    (s.insert a b).size = s.size + 1 := by
  rw [size, entries_insert_of_notMem absent, List.length_cons, size]

theorem size_insert_of_mem {a : α} (b : β a) {s : AList β} (present : a ∈ s) :
    (s.insert a b).size = s.size := by
  have listed : a ∈ s.keys := mem_keys.mp present
  have nonempty : 0 < s.keys.length := List.length_pos_of_mem listed
  rw [size_eq_length_keys, size_eq_length_keys, keys_insert, List.length_cons,
    List.length_erase_of_mem listed]
  omega

theorem size_erase_le (a : α) (s : AList β) : (s.erase a).size ≤ s.size := by
  rw [size_eq_length_keys, size_eq_length_keys, keys_erase]
  exact List.length_erase_le

/-- The size is the number of keys that are present. -/
theorem ncard_keys (s : AList β) : {a | a ∈ s}.ncard = s.size := by
  have coe : {a | a ∈ s} = (s.keys.toFinset : Set α) := by
    ext a
    simp [mem_keys]
  rw [coe, Set.ncard_coe_finset, List.toFinset_card_of_nodup s.keys_nodup, size_eq_length_keys]

theorem finite_keys (s : AList β) : {a | a ∈ s}.Finite := by
  refine s.keys.toFinset.finite_toSet.subset ?_
  intro a present
  simpa [mem_keys] using present

end AList
