import Marking.Proofs.Text.Cutting
import Marking.Record
import Mathlib.Data.List.Infix

-- What feedback makes of a message: a timeout is reworded, and the first character is raised. A
-- message in which there is something to read is never left without.

namespace Marking

namespace Text
open Case

-- The text with the first place replaced at which `part` stands, if it stands anywhere.
inductive FirstReplaced (part replacement text : Text) : Text → Prop where
  | absent (never : ¬ part <:+: text) : FirstReplaced part replacement text text
  | replaced {before after : Text} (place : text = before ++ (part ++ after))
      (first : ∀ front back, text = front ++ (part ++ back) → before.length ≤ front.length) :
      FirstReplaced part replacement text (before ++ (replacement ++ after))

inductive Capitalized : Text → Text → Prop where
  | raised {c : Char} (rest : Text) (begins : isAlphanumeric c = true ∨ c = '_') :
      Capitalized (c :: rest) (upperChar c ++ rest)
  | kept {text : Text} (other : ∀ c ∈ text.head?, isAlphanumeric c = false ∧ c ≠ '_') : Capitalized text text

variable {front part replacement text shown other : Text} {c : Char}

theorem isBlank_eq_false_iff : isBlank text = false ↔ ∃ c ∈ text, isSpace c = false := by
  simp [isBlank]

theorem FirstReplaced.start {rest : Text} (begins : text = part ++ rest) :
    FirstReplaced part replacement text (replacement ++ rest) :=
  @FirstReplaced.replaced part replacement text [] rest begins fun _ _ _ => Nat.zero_le _

theorem FirstReplaced.later (elsewhere : ¬ part <+: c :: text) (replaced : FirstReplaced part replacement text shown) :
    FirstReplaced part replacement (c :: text) (c :: shown) := by
  cases replaced with
  | absent never =>
    refine .absent ?_
    intro occurs
    rcases List.infix_cons_iff.mp occurs with begins | later
    · exact elsewhere begins
    · exact never later
  | @replaced before after place first =>
    refine @FirstReplaced.replaced part replacement (c :: text) (c :: before) after (congrArg (c :: ·) place) ?_
    intro front back split
    cases front with
    | nil => exact absurd ⟨back,split.symm⟩ elsewhere
    | cons d front => exact Nat.succ_le_succ (first front back (List.cons.inj split).2)

theorem firstReplaced_replaceFirst (part replacement text : Text) :
    FirstReplaced part replacement text (replaceFirst part replacement text) := by
  induction text with
  | nil =>
    cases part with
    | nil =>
      have empty : ([] : Text) = [] ++ [] := rfl
      simpa [replaceFirst] using FirstReplaced.start empty
    | cons p part => exact .absent (by simp)
  | cons c rest ih =>
    unfold replaceFirst
    split
    · rename_i tail here
      exact .start (after_eq_some_iff.mp here)
    · rename_i elsewhere
      refine .later ?_ ih
      intro begins
      obtain ⟨tail,split⟩ := begins
      rw [after_eq_some_iff.mpr split.symm] at elsewhere
      cases elsewhere

theorem FirstReplaced.unique (one : FirstReplaced part replacement text shown)
    (two : FirstReplaced part replacement text other) : shown = other := by
  cases one with
  | absent never =>
    cases two with
    | absent => rfl
    | replaced place _ => exact absurd ⟨_,_,by rw [place,List.append_assoc]⟩ never
  | @replaced before after place first =>
    cases two with
    | absent never => exact absurd ⟨_,_,by rw [place,List.append_assoc]⟩ never
    | @replaced front back again earliest =>
      have near := first front back again
      have far := earliest before after place
      have same : before ++ (part ++ after) = front ++ (part ++ back) := place.symm.trans again
      obtain ⟨rfl,rest⟩ := List.append_inj same (Nat.le_antisymm near far)
      rw [List.append_cancel_left rest]

theorem firstReplaced_iff : FirstReplaced part replacement text shown ↔ replaceFirst part replacement text = shown := by
  constructor
  · exact (firstReplaced_replaceFirst part replacement text).unique
  · intro same
    rw [← same]
    exact firstReplaced_replaceFirst part replacement text

theorem capitalized_iff : Capitalized text shown ↔ capitalizeFirst text = shown := by
  constructor
  · intro capitalized
    cases capitalized with
    | raised rest begins => rw [capitalizeFirst,if_pos (by simpa using begins)]
    | kept other =>
      cases text with
      | nil => rfl
      | cons c rest => rw [capitalizeFirst,if_neg (by simpa using other c rfl)]
  · intro same
    rw [← same]
    cases text with
    | nil => exact .kept (by simp)
    | cons c rest =>
      rw [capitalizeFirst]
      split
      · rename_i begins
        exact .raised rest (by simpa using begins)
      · rename_i other
        exact .kept (by simpa using other)

theorem expansions_solid : (upperExpansions.all fun entry => (entry.2.map Char.ofNat).any (!isSpace ·)) = true := by
  decide +kernel

theorem runs_solid : (upperRuns.all fun run => (List.range' run.target (run.last + 1 - run.first)).all fun code =>
    !isSpace (Char.ofNat code)) = true := by
  decide +kernel

theorem image_solid {run : Run} (listed : run ∈ upperRuns) {code image : Nat} (sent : run.image? code = some image) :
    isSpace (Char.ofNat image) = false := by
  unfold Run.image? at sent
  split at sent
  · rename_i within
    cases sent
    have member : run.target + (code - run.first) ∈ List.range' run.target (run.last + 1 - run.first) := by
      rw [List.mem_range'_1]
      omega
    simpa using List.all_eq_true.mp (List.all_eq_true.mp runs_solid run listed) _ member
  · cases sent

theorem upperChar_solid (solid : isSpace c = false) : ∃ d ∈ upperChar c, isSpace d = false := by
  unfold upperChar
  split
  · rename_i codes expanded
    obtain ⟨front,back,table,_⟩ := List.lookup_eq_some_iff.mp expanded
    have listed : (c.toNat,codes) ∈ upperExpansions := by
      rw [table]
      simp
    simpa using List.all_eq_true.mp expansions_solid (c.toNat,codes) listed
  · refine ⟨_,List.mem_singleton_self _,?_⟩
    cases sent : upperRuns.findSome? (·.image? c.toNat) with
    | none =>
      rw [Option.getD_none,Char.ofNat_toNat]
      exact solid
    | some image =>
      obtain ⟨run,listed,found⟩ := List.exists_of_findSome?_eq_some sent
      exact image_solid listed found

theorem FirstReplaced.head {p : Char} (replaced : FirstReplaced (p :: part) replacement (c :: text) shown) (other : p ≠ c) :
    ∃ rest, shown = c :: rest := by
  cases replaced with
  | absent never => exact ⟨text,rfl⟩
  | @replaced before after place _ =>
    cases before with
    | nil => exact absurd (List.cons.inj place).1.symm other
    | cons d before =>
      rw [(List.cons.inj place).1]
      exact ⟨_,rfl⟩

theorem Capitalized.solid (capitalized : Capitalized text shown) (some : ∃ c ∈ text, isSpace c = false) :
    ∃ c ∈ shown, isSpace c = false := by
  cases capitalized with
  | kept other => exact some
  | raised rest begins =>
    obtain ⟨d,member,solid⟩ := some
    rcases List.mem_cons.mp member with first | later
    · rw [first] at solid
      obtain ⟨raised,inside,visible⟩ := upperChar_solid solid
      exact ⟨raised,List.mem_append_left _ inside,visible⟩
    · exact ⟨d,List.mem_append_right _ later,solid⟩
end Text

namespace Record

variable {message shown : Text}

-- What a message says in feedback. A timeout loses its first word and whole seconds their zeros.
inductive Reworded : Text → Text → Prop where
  | timeout {rest shown : Text}
      (shortened : Text.FirstReplaced "000 milli".toList [' '] ("timed out".toList ++ rest) shown) :
      Reworded ("test timed out".toList ++ rest) shown
  | plain {message : Text} (other : ¬ "test timed out".toList <+: message) : Reworded message message

theorem rewordTimeout_timeout (rest : Text) : rewordTimeout ("test timed out".toList ++ rest) =
    Text.replaceFirst "000 milli".toList [' '] ("timed out".toList ++ rest) := by
  have opens : Text.startsWith timeoutOpening ("test timed out".toList ++ rest) = true :=
    Text.startsWith_iff.mpr (List.prefix_append ..)
  rw [rewordTimeout,if_pos opens]
  rfl

theorem rewordTimeout_plain (other : ¬ "test timed out".toList <+: message) : rewordTimeout message = message := by
  have closed : ¬ Text.startsWith timeoutOpening message = true := mt Text.startsWith_iff.mp other
  rw [rewordTimeout,if_neg closed]

theorem reworded_iff : Reworded message shown ↔ rewordTimeout message = shown := by
  constructor
  · intro reworded
    cases reworded with
    | timeout shortened =>
      rw [rewordTimeout_timeout]
      exact Text.firstReplaced_iff.mp shortened
    | plain other => exact rewordTimeout_plain other
  · intro same
    by_cases opens : "test timed out".toList <+: message
    · obtain ⟨rest,rfl⟩ := opens
      rw [rewordTimeout_timeout] at same
      exact .timeout (Text.firstReplaced_iff.mpr same)
    · rw [rewordTimeout_plain opens] at same
      rw [← same]
      exact .plain opens

theorem Reworded.solid (reworded : Reworded message shown) (visible : ∃ c ∈ message, Text.isSpace c = false) :
    ∃ c ∈ shown, Text.isSpace c = false := by
  cases reworded with
  | plain other => exact visible
  | timeout shortened =>
    obtain ⟨more,kept⟩ := shortened.head (by decide)
    exact ⟨'t',by rw [kept]; exact List.mem_cons_self ..,by decide⟩

end Record
end Marking
