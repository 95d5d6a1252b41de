import Marking.Proofs.Harness.Registry

-- The names that a harness lists: their order, their spelling, and that none is lost.

namespace Marking.Harness

variable [TemplateEngine] {harness : Harness} {language source name place : Text} {done : Harness × Except Failure Unit}

-- The keys ascend, so that each has one name, and names come without white space around them.
structure Ordered (harness : Harness) : Prop where
  keyed : Keyed harness
  ascending : harness.languages.Pairwise fun a b => a.1 < b.1
  spelled : ∀ entry ∈ harness.languages, Text.trim entry.2 = entry.2 ∧ entry.2 ≠ []

theorem empty_ordered : Ordered empty := by
  refine ⟨?_,List.Pairwise.nil,?_⟩
  all_goals
    intro entry member
    cases member

theorem Registration.ordered (step : Registration harness language source done) (valid : Ordered harness) :
    Ordered done.1 := by
  refine ⟨step.keyed valid.keyed,?_,?_⟩
  · cases step with
    | blank _ => exact valid.ascending
    | unreadable _ _ => exact valid.ascending
    | entered _ _ => exact insert_ascending valid.ascending
  · cases step with
    | blank _ => exact valid.spelled
    | unreadable _ _ => exact valid.spelled
    | entered named _ =>
      intro entry member
      rcases mem_insert member with rfl | old
      · exact ⟨Text.trim_trim language,named⟩
      · exact valid.spelled entry old

theorem ordered_stable : Stable Ordered := fun harness language source valid =>
  (register_registration harness language source).ordered valid

theorem run_ordered (requests : List Request) : Ordered (initial.run requests) :=
  run_initial ordered_stable empty_ordered requests

theorem Ordered.key_name (valid : Ordered harness) {entry : Text × Text} (member : entry ∈ harness.languages) :
    entry.1 = Text.lowerAll entry.2 := by
  rw [valid.keyed entry member,key,(valid.spelled entry member).1]

theorem Ordered.names_ascending (valid : Ordered harness) :
    harness.names.Pairwise fun a b => Text.lowerAll a < Text.lowerAll b := by
  unfold names
  rw [List.pairwise_map]
  refine valid.ascending.imp_of_mem ?_
  intro a b first second before
  rwa [valid.key_name first,valid.key_name second] at before

theorem Ordered.names_spelled (valid : Ordered harness) :
    ∀ name ∈ harness.names, Text.trim name = name ∧ name ≠ [] := by
  intro name member
  obtain ⟨entry,inside,rfl⟩ := List.mem_map.mp member
  exact valid.spelled entry inside

theorem Registration.present (step : Registration harness language source done)
    (present : (harness.languages.lookup place).isSome = true) :
    (done.1.languages.lookup place).isSome = true := by
  cases step with
  | blank _ => exact present
  | unreadable _ _ => exact present
  | entered _ _ =>
    by_cases same : place = key (Text.trim language)
    · simp [same,lookup_insert_self]
    · simpa [lookup_insert_other same] using present

theorem present_stable (place : Text) :
    Stable fun harness => (harness.languages.lookup place).isSome = true :=
  fun harness language source present => (register_registration harness language source).present present

theorem Keyed.names_keep (valid : Keyed harness) (more : List Request) :
    ∀ name ∈ harness.names, ∃ later ∈ (harness.run more).names, key later = key name := by
  intro name member
  obtain ⟨entry,inside,rfl⟩ := List.mem_map.mp member
  have present : (harness.languages.lookup entry.1).isSome = true := by
    rw [List.lookup_isSome_iff]
    exact ⟨entry,inside,by simp⟩
  obtain ⟨later,found⟩ := Option.isSome_iff_exists.mp (run_keeps (present_stable entry.1) present more)
  obtain ⟨before,after,split,_⟩ := List.lookup_eq_some_iff.mp found
  have listed : (entry.1,later) ∈ (harness.run more).languages := by simp [split]
  refine ⟨later,List.mem_map.mpr ⟨_,listed,rfl⟩,?_⟩
  rw [← run_keeps keyed_stable valid more _ listed,← valid entry inside]

end Marking.Harness
