import Marking.Proofs.Comment.Keeping
import Marking.Proofs.Rule.Listing
import Marking.Proofs.Rule.Words

-- Stripping comments uncovers no word: what a rule on keywords or classes finds in stripped code
-- stands in the source, between the same word boundaries.

namespace Marking.Matcher
open Comment

variable {style : Style} {names : List Text} {name run source input : Text} {kind : NameKind}
  {matcher : Matcher}

theorem isWordSide_outline (side : Option Char) :
    Pattern.isWordSide false (outline side) = Pattern.isWordSide false side := by
  cases side with
  | none => rfl
  | some c =>
    by_cases gap : isGap c = true
    · have wordless : Pattern.isWordChar c = false := by
        simp only [isGap,Bool.or_eq_true,beq_iff_eq] at gap
        rcases gap with ((rfl | rfl) | rfl) | rfl <;> decide +kernel
      rw [outline_gap gap]
      simp [Pattern.isWordSide,wordless]
    · have kept : outline (some c) = some c := by simpa [outline] using gap
      rw [kept]

theorem isWordSide_congr {side other : Option Char} (same : outline side = outline other) :
    Pattern.isWordSide false side = Pattern.isWordSide false other := by
  rw [← isWordSide_outline side,same,isWordSide_outline]

theorem HasWord.of_strip (found : HasWord name (strip style source)) (nonempty : name ≠ [])
    (solid : ∀ c ∈ name, Text.isSpace c = false) : HasWord name source := by
  obtain ⟨front,back,cut,delimited⟩ := found
  obtain ⟨lexemes,decomposed⟩ := exists_decomposition style source
  obtain ⟨before,after,rfl,_,first,last⟩ := decomposed.kept_part nonempty solid cut
  exact ⟨before,after,rfl,delimited.congr (isWordSide_congr first.symm) (isWordSide_congr last.symm)⟩

-- No two pieces of code become one word, and no word becomes two.
theorem IsRun.of_strip (whole : IsRun run (strip style source)) : IsRun run source := by
  have solid : ∀ c ∈ run, Text.isSpace c = false := by
    intro c member
    by_contra space
    have wordless := isWordChar_of_isSpace (by simpa using space)
    exact absurd ((whole.inner c member).symm.trans wordless) (by decide)
  have same : ∀ code, HasWord run code ↔ IsRun run code := fun code => hasWord_iff_isRun whole.nonempty whole.inner
  exact (same source).mp (((same _).mpr whole).of_strip whole.nonempty solid)

theorem found_before_stripping (accepted : RuleSpec.read input = .ok (.names kind names)) (worded : kind ≠ .method)
    (compiled : compile (.names kind names) = .ok matcher) (style : Style) (source : Text) :
    (matcher.found (strip style source) = true → matcher.found source = true) ∧
      ∀ run, IsRun run (strip style source) → IsRun run source := by
  obtain ⟨listed,tokens⟩ := RuleSpec.read_names accepted
  refine ⟨?_,fun run => IsRun.of_strip⟩
  intro found
  obtain ⟨name,member,found⟩ := (found_words worded listed compiled).mp found
  have token : IsToken name := tokens name member
  apply (found_words worded listed compiled).mpr
  exact ⟨name,member,found.of_strip token.nonempty token.unspaced⟩

theorem between_comments_found :
    let names := ["x/y".toList]
    let source := "a/*x*/x/y//z".toList
    (RuleSpec.read "keyword: x/y".toList = .ok (.names .keyword names) ∧ NameKind.keyword ≠ .method) ∧
      ∃ matcher, compile (.names .keyword names) = .ok matcher ∧
        matcher.found (strip .slash source) = true ∧ matcher.found source = true := by
  intro names source
  have accepted : RuleSpec.read "keyword: x/y".toList = .ok (.names .keyword names) := by decide
  have worded : NameKind.keyword ≠ .method := by decide
  have compiled := compile_words worded (RuleSpec.read_names accepted).1
  rw [if_pos (by decide +kernel)] at compiled
  have stripped : (Matcher.search (wordPart names).pattern).found (strip .slash source) = true := by decide +kernel
  exact ⟨⟨accepted,worded⟩,_,compiled,stripped,(found_before_stripping accepted worded compiled .slash source).1 stripped⟩

end Marking.Matcher
