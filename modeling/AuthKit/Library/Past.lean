import Mathlib.Data.List.Induction
import Mathlib.Data.List.Nodup

/-!
# Statements about a history

`Since anchor keeps history` is the past-time operator of temporal logic: some event of
the history has `anchor`, and every later event has `keeps`. It is how "the most recent
event that ... and nothing since then that ..." is said of a history that grows at its end.
-/
namespace Execution

variable {Event : Type*}

def Since (anchor keeps : Event → Prop) (history : List Event) : Prop :=
  ∃ before event after, history = before ++ event :: after ∧ anchor event ∧
    ∀ later ∈ after, keeps later

namespace Since

variable {anchor keeps : Event → Prop} {history : List Event}

@[simp] theorem not_nil : ¬ Since anchor keeps ([] : List Event) := by
  rintro ⟨before, event, after, split, _⟩
  exact List.append_ne_nil_of_right_ne_nil before (List.cons_ne_nil event after) split.symm

/-- The recurrence of the operator: a new event either is an anchor itself or has to keep
what held before it. -/
theorem concat_iff (event : Event) :
    Since anchor keeps (history ++ [event]) ↔
      anchor event ∨ (Since anchor keeps history ∧ keeps event) := by
  constructor
  · rintro ⟨before, first, after, split, anchored, kept⟩
    rcases List.eq_nil_or_concat after with rfl | ⟨earlier, last, rfl⟩
    · have same := List.append_inj' split rfl
      exact Or.inl (by simpa [List.singleton_inj.mp same.2] using anchored)
    · rw [List.concat_eq_append, ← List.cons_append, ← List.append_assoc] at split
      have same := List.append_inj' split rfl
      have lastEq : event = last := List.singleton_inj.mp same.2
      subst lastEq
      exact Or.inr ⟨⟨before, first, earlier, same.1, anchored,
        fun later member => kept later (by simp [member])⟩, kept _ (by simp)⟩
  -- conversely the anchor is the new event itself, or the old one with one more event behind it
  · rintro (anchored | ⟨⟨before, first, after, rfl, anchored, kept⟩, last⟩)
    · exact ⟨history, event, [], rfl, anchored, by simp⟩
    · refine ⟨before, first, after ++ [event], by simp, anchored, ?_⟩
      intro later member
      rcases List.mem_append.mp member with member | member
      · exact kept later member
      · exact (List.mem_singleton.mp member) ▸ last

theorem exists_anchor (since : Since anchor keeps history) : ∃ event ∈ history, anchor event := by
  obtain ⟨before, event, after, rfl, anchored, _⟩ := since
  exact ⟨event, by simp, anchored⟩

/-- Only what the conditions say of the events of the history matters. -/
theorem congr {anchor' keeps' : Event → Prop}
    (anchors : ∀ event ∈ history, anchor event ↔ anchor' event)
    (kept : ∀ event ∈ history, keeps event ↔ keeps' event) :
    Since anchor keeps history ↔ Since anchor' keeps' history := by
  constructor
  · rintro ⟨before, event, after, rfl, anchored, keep⟩
    refine ⟨before, event, after, rfl, (anchors event (by simp)).mp anchored, ?_⟩
    exact fun later member => (kept later (by simp [member])).mp (keep later member)
  · rintro ⟨before, event, after, rfl, anchored, keep⟩
    refine ⟨before, event, after, rfl, (anchors event (by simp)).mpr anchored, ?_⟩
    exact fun later member => (kept later (by simp [member])).mpr (keep later member)

/-- A statement about what is seen of a history, as one about the history. -/
theorem filterMap_iff {Seen : Type*} (see : Event → Option Seen) {anchor keeps : Seen → Prop} :
    Since anchor keeps (history.filterMap see) ↔
      Since (fun event => ∃ seen, see event = some seen ∧ anchor seen)
        (fun event => ∀ seen, see event = some seen → keeps seen) history := by
  induction history using List.reverseRecOn with
  | nil => simp
  | append_singleton earlier last ih =>
    rw [List.filterMap_append, concat_iff]
    cases sees : see last with
    | none => simp [sees, ih]
    | some seen => simp [sees, concat_iff, ih]

/-- What is seen besides makes no difference where it is no anchor and keeps everything. -/
theorem filterMap_more {Seen : Type*} {see more : Event → Option Seen} {anchor keeps : Seen → Prop}
    (besides : ∀ event ∈ history, more event = see event ∨
      see event = none ∧ ∀ seen, more event = some seen → ¬ anchor seen ∧ keeps seen) :
    Since anchor keeps (history.filterMap more) ↔ Since anchor keeps (history.filterMap see) := by
  rw [filterMap_iff, filterMap_iff]
  apply congr
  · intro event member
    rcases besides event member with same | ⟨unseen, idle⟩
    · rw [same]
    · simp only [unseen, reduceCtorEq, false_and, exists_false, iff_false]
      rintro ⟨seen, sees, anchored⟩
      exact (idle seen sees).1 anchored
  · intro event member
    rcases besides event member with same | ⟨unseen, idle⟩
    · rw [same]
    · simp only [unseen, reduceCtorEq, false_implies, implies_true, iff_true]
      exact fun seen sees => (idle seen sees).2

/-- The place of the anchor is enough. -/
theorem of_getElem (n : Nat) (inside : n < history.length) (anchored : anchor history[n])
    (kept : ∀ later ∈ history.drop (n + 1), keeps later) : Since anchor keeps history :=
  ⟨history.take n, history[n], history.drop (n + 1), by simp, anchored, kept⟩

end Since

/-- What a history records never repeats iff no event records what an earlier one did. -/
theorem nodup_filterMap_iff {Record : Type*} (record : Event → Option Record)
    (history : List Event) :
    (history.filterMap record).Nodup ↔
      ∀ before event after value, history = before ++ event :: after →
        record event = some value → value ∉ before.filterMap record := by
  constructor
  · rintro distinct before event after value rfl recorded repeated
    rw [List.filterMap_append, List.filterMap_cons, recorded] at distinct
    exact (List.disjoint_of_nodup_append distinct) repeated List.mem_cons_self
  · intro fresh
    -- the history grows at its end, so only the last event has to be compared with the rest
    induction history using List.reverseRecOn with
    | nil => exact List.nodup_nil
    | append_singleton earlier last ih =>
      have distinct : (earlier.filterMap record).Nodup := by
        apply ih
        rintro before event after value rfl recorded
        exact fresh before event (after ++ [last]) value (by simp) recorded
      rw [List.filterMap_append, List.nodup_append']
      refine ⟨distinct, ?_, ?_⟩
      · cases recorded : record last <;> simp [recorded]
      · intro value old new
        obtain ⟨_, member, recorded⟩ := List.mem_filterMap.mp new
        rw [List.mem_singleton.mp member] at recorded
        exact fresh earlier last [] value rfl recorded old

/-- What a history records only once, it records at one place. -/
theorem split_unique {Record : Type*} {record : Event → Option Record} {history : List Event}
    (distinct : (history.filterMap record).Nodup) {before before' after after' : List Event}
    {event event' : Event} {value : Record} (split : history = before ++ event :: after)
    (split' : history = before' ++ event' :: after') (recorded : record event = some value)
    (recorded' : record event' = some value) :
    before = before' ∧ event = event' ∧ after = after' := by
  have fresh := (nodup_filterMap_iff record history).mp distinct
  -- if one split came after the other, the later event would repeat the earlier one's record
  rcases List.append_eq_append_iff.mp (split.symm.trans split') with
    ⟨between, beforeEq, rest⟩ | ⟨between, beforeEq, rest⟩
  · cases between with
    | nil =>
      obtain ⟨same, tail⟩ := List.cons.inj rest
      exact ⟨by simpa using beforeEq.symm, same, tail⟩
    | cons first between =>
      obtain ⟨rfl, _⟩ := List.cons.inj rest
      refine absurd ?_ (fresh before' event' after' value split' recorded')
      exact List.mem_filterMap.mpr ⟨event, by simp [beforeEq], recorded⟩
  · cases between with
    | nil =>
      obtain ⟨same, tail⟩ := List.cons.inj rest
      exact ⟨by simpa using beforeEq, same.symm, tail.symm⟩
    | cons first between =>
      obtain ⟨rfl, _⟩ := List.cons.inj rest
      refine absurd ?_ (fresh before event after value split recorded)
      exact List.mem_filterMap.mpr ⟨event', by simp [beforeEq], recorded'⟩

/-- What is asked of every item and the items before it can be checked place by place. -/
theorem forall_split_of_take {Item : Type*} {asked : List Item → Item → Prop} (items : List Item)
    (each : ∀ n, ∀ _ : n < items.length, asked (items.take n) items[n])
    (before : List Item) (item : Item) (after : List Item) (split : items = before ++ item :: after) :
    asked before item := by
  subst split
  simpa using each before.length (by simp)

/-- So many times that lie a gap apart from each other take so long. -/
theorem length_mul_gap_le (times : List Nat) (gap low high : Nat)
    (spaced : times.Pairwise fun earlier later => earlier + gap ≤ later)
    (bounds : ∀ time ∈ times, low ≤ time ∧ time ≤ high) :
    times.length * gap ≤ high - low + gap := by
  induction times generalizing low with
  | nil => simp
  | cons first rest ih =>
    obtain ⟨apart, spacedRest⟩ := List.pairwise_cons.mp spaced
    have bound := bounds first List.mem_cons_self
    have remaining := ih (first + gap) spacedRest fun time member =>
      ⟨apart time member, (bounds time (List.mem_cons_of_mem _ member)).2⟩
    rw [List.length_cons, Nat.succ_mul]
    cases rest with
    | nil => simp
    | cons second rest =>
      have next := apart second List.mem_cons_self
      have last := bounds second (by simp)
      omega

end Execution
