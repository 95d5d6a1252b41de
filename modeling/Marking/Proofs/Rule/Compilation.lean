import Marking.Rule.Static

-- What can go wrong while a static rule is compiled lies in the configuration of its case.

namespace Marking

variable {failure : Failure} {case : TestCase} {spec : RuleSpec} {input flags : Text}

theorem bind_failure {α β ε : Type} {first : Except ε α} {next : α → Except ε β} {error : ε}
    (failed : first >>= next = .error error) :
    first = .error error ∨ ∃ value, first = .ok value ∧ next value = .error error := by
  cases first with
  | error other => cases failed; exact .inl rfl
  | ok value => exact .inr ⟨value,rfl,failed⟩

theorem map_failure {α β ε : Type} {first : Except ε α} {change : α → β} {error : ε}
    (failed : first.map change = .error error) : first = .error error := by
  cases first with
  | error other => cases failed; rfl
  | ok value => cases failed

theorem foldlM_failure {α σ ε : Type} {step : σ → α → Except ε σ} {motive : ε → Prop}
    (each : ∀ state item error, step state item = .error error → motive error)
    {items : List α} {start : σ} {error : ε} (failed : items.foldlM step start = .error error) :
    motive error := by
  induction items generalizing start with
  | nil => cases failed
  | cons item rest ih =>
    rw [List.foldlM_cons] at failed
    rcases bind_failure failed with now | ⟨next,_,later⟩
    · exact each start item error now
    · exact ih later

theorem PatternFlags.read_failure (failed : PatternFlags.read flags = .error failure) :
    failure.kind = .configuration := by
  unfold PatternFlags.read at failed
  refine foldlM_failure (motive := fun failure => failure.kind = .configuration) ?_ failed
  intro read flag failure refused
  split at refused <;> cases refused
  rfl

theorem RuleSpec.read_failure (failed : RuleSpec.read input = .error failure) :
    failure.kind = .configuration := by
  unfold RuleSpec.read at failed
  split at failed
  · split at failed
    · cases failed; rfl
    · cases failed
  · split at failed
    · cases failed; rfl
    · split at failed
      · cases failed; rfl
      · rename_i body flags _
        cases read : PatternFlags.read flags with
        | ok flags => rw [read] at failed; cases failed
        | error other =>
          rw [read] at failed
          cases failed
          exact PatternFlags.read_failure read
    · cases failed

theorem Matcher.build_failure {pattern : Text} {flags : PatternFlags}
    (failed : Matcher.build pattern flags = .error failure) : failure.kind = .configuration := by
  unfold Matcher.build at failed
  split at failed
  · cases failed
  · cases failed; rfl

theorem Matcher.compile_failure (failed : Matcher.compile spec = .error failure) :
    failure.kind = .configuration := by
  have built : ∃ pattern flags, Matcher.build pattern flags = .error failure := by
    unfold Matcher.compile at failed
    split at failed
    all_goals exact ⟨_,_,map_failure failed⟩
  obtain ⟨pattern,flags,unbuilt⟩ := built
  exact Matcher.build_failure unbuilt

theorem StaticRule.compile_spec (read : RuleSpec.read case.input = .ok spec) :
    StaticRule.compile case = (Matcher.compile spec).map fun matcher =>
      ⟨spec,Requirement.read case.expectedOutput,matcher,
        case.authoredFeedback?.getD (defaultFeedback spec (Requirement.read case.expectedOutput) case.input)⟩ := by
  rw [StaticRule.compile,read]
  cases compiled : Matcher.compile spec <;> simp only [bind,Except.bind,compiled] <;> rfl

theorem StaticRule.compile_failure (failed : StaticRule.compile case = .error failure) :
    failure.kind = .configuration := by
  unfold StaticRule.compile at failed
  rcases bind_failure failed with unread | ⟨spec,_,failed⟩
  · exact RuleSpec.read_failure unread
  · rcases bind_failure failed with uncompiled | ⟨matcher,_,failed⟩
    · exact Matcher.compile_failure uncompiled
    · cases failed

end Marking
