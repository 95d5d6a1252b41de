import Marking.Pattern.CharSet
import Mathlib.Data.List.Basic

-- Which characters a set holds that was put together from spans or from other sets.

namespace Marking.Pattern
open Text

namespace CharSet

def Ascending (spans : List Span) : Prop := spans.Pairwise fun a b => a.first ≤ b.first

def Within (spans : List Span) (code : Nat) : Prop := ∃ span ∈ spans, span.first ≤ code ∧ code ≤ span.last

variable {spans : List Span} {span : Span} {sets : List CharSet} {code : Nat} {c d : Char}

theorem within_cons : Within (span :: spans) code ↔ (span.first ≤ code ∧ code ≤ span.last) ∨ Within spans code := by
  simp [Within]

-- In ascending spans a code that the first span to reach it does not hold lies before all others.
theorem anyHolds_iff (ascending : Ascending spans) : Span.anyHolds spans code = true ↔ Within spans code := by
  refine ⟨Span.of_anyHolds,?_⟩
  induction spans with
  | nil => simp [Within]
  | cons next rest ih =>
    obtain ⟨before,ascending⟩ := List.pairwise_cons.mp ascending
    rintro ⟨span,member,low,high⟩
    rw [Span.anyHolds]
    rcases List.mem_cons.mp member with rfl | later
    · simp [low,high]
    · split
      · exact decide_eq_true (Nat.le_trans (before span later) low)
      · exact ih ascending ⟨span,later,low,high⟩

theorem le_of_mem_push (least : ∀ other ∈ spans, span.first ≤ other.first) :
    ∀ other ∈ push span spans, span.first ≤ other.first := by
  induction spans generalizing span with
  | nil => simp [push]
  | cons next rest ih =>
    rw [push]
    split
    · exact ih fun other member => least other (List.mem_cons_of_mem _ member)
    · intro other member
      rcases List.mem_cons.mp member with rfl | later
      · exact Nat.le_refl _
      · exact least other later

theorem push_ascending (ascending : Ascending spans) (least : ∀ other ∈ spans, span.first ≤ other.first) :
    Ascending (push span spans) := by
  induction spans generalizing span with
  | nil => exact List.pairwise_singleton _ _
  | cons next rest ih =>
    rw [push]
    split
    · exact ih ascending.of_cons fun other member => least other (List.mem_cons_of_mem _ member)
    · exact List.pairwise_cons.mpr ⟨least,ascending⟩

-- Spans that are joined hold what they held apart, since no code lies between them.
theorem within_push (least : ∀ other ∈ spans, span.first ≤ other.first) :
    Within (push span spans) code ↔ Within (span :: spans) code := by
  induction spans generalizing span with
  | nil => rfl
  | cons next rest ih =>
    rw [push]
    split
    · rename_i reached
      have first : span.first ≤ next.first := least next (List.mem_cons_self ..)
      refine (ih ?_).trans ?_
      · exact fun other member => least other (List.mem_cons_of_mem _ member)
      · simp only [within_cons,← or_assoc]
        refine or_congr_left ?_
        omega
    · rfl

theorem foldr_push_ascending (ascending : Ascending spans) : Ascending (spans.foldr push []) ∧
    ∀ least, (∀ other ∈ spans, least ≤ other.first) → ∀ other ∈ spans.foldr push [], least ≤ other.first := by
  induction spans with
  | nil => exact ⟨List.Pairwise.nil,by simp⟩
  | cons span rest ih =>
    obtain ⟨before,ascending⟩ := List.pairwise_cons.mp ascending
    obtain ⟨pushed,bounded⟩ := ih ascending
    refine ⟨push_ascending pushed (bounded _ before),?_⟩
    intro least below other member
    exact Nat.le_trans (below span (List.mem_cons_self ..)) (le_of_mem_push (bounded _ before) other member)

theorem within_foldr_push (ascending : Ascending spans) : Within (spans.foldr push []) code ↔ Within spans code := by
  induction spans with
  | nil => rfl
  | cons span rest ih =>
    obtain ⟨before,ascending⟩ := List.pairwise_cons.mp ascending
    rw [List.foldr_cons,within_push ((foldr_push_ascending ascending).2 _ before),within_cons,within_cons,ih ascending]

theorem has_ofSpans : (ofSpans spans).has c = true ↔ Within spans c.toNat := by
  have sorted : Ascending (spans.mergeSort fun a b => a.first ≤ b.first) := by
    refine (List.pairwise_mergeSort ?_ ?_ spans).imp of_decide_eq_true
    · intro a b c low high
      exact decide_eq_true (Nat.le_trans (of_decide_eq_true low) (of_decide_eq_true high))
    · intro a b
      simpa using Nat.le_total a.first b.first
  have same : Within (spans.mergeSort fun a b => a.first ≤ b.first) c.toNat ↔ Within spans c.toNat := by
    simp [Within]
  rw [← same,← within_foldr_push sorted]
  exact anyHolds_iff (foldr_push_ascending sorted).1

theorem has_unions (ascending : ∀ set ∈ sets, Ascending set.spans) :
    (unions sets).has c = true ↔ ∃ set ∈ sets, set.has c = true := by
  rw [unions,has_ofSpans]
  constructor
  · rintro ⟨span,member,bounds⟩
    obtain ⟨set,listed,member⟩ := List.mem_flatMap.mp member
    exact ⟨set,listed,(anyHolds_iff (ascending set listed)).mpr ⟨span,member,bounds⟩⟩
  · rintro ⟨set,listed,holds⟩
    obtain ⟨span,member,bounds⟩ := Span.of_anyHolds holds
    exact ⟨span,List.mem_flatMap.mpr ⟨set,listed,member⟩,bounds⟩

theorem only_ascending : Ascending (only c).spans := List.pairwise_singleton _ _

theorem has_only : (only c).has d = true ↔ d = c := by
  refine (anyHolds_iff only_ascending).trans ?_
  simp only [only,CharSet.span,Within,List.mem_singleton,exists_eq_left]
  rw [← Char.toNat_inj]
  omega

theorem has_of_apart {left right : CharSet}
    (apart : ∀ one ∈ left.spans, ∀ other ∈ right.spans, one.last < other.first ∨ other.last < one.first)
    (member : left.has c = true) : right.has c = false := by
  apply Bool.eq_false_iff.mpr
  intro both
  obtain ⟨one,listed,low,high⟩ := Span.of_anyHolds member
  obtain ⟨other,also,above,below⟩ := Span.of_anyHolds both
  have away := apart one listed other also
  omega

end CharSet
end Marking.Pattern
