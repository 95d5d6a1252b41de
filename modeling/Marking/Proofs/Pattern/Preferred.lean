import Marking.Pattern.Preferred
import Marking.Proofs.Pattern.Search

-- The ends that a search tries at a position are those of the stretches that the pattern takes there.

namespace Marking.Pattern

def Ends.Finds (ends : Ends) (takes : Taking) : Prop := ∀ front text last,
  last ∈ ends ⟨front.getLast?,text⟩ ↔
    ∃ taken after, text = taken ++ after ∧ takes front taken after ∧ last = ⟨(front ++ taken).getLast?,after⟩

variable {first second ends : Ends} {takes also : Taking} {least limit n : Nat} {most : Option Nat}
  {pattern : Pattern} {front taken after text : Text} {set : CharSet} {last : Position}
  {assertion : Assertion}

namespace Ends.Finds

theorem congr (finds : ends.Finds takes) (same : ∀ before taken after, takes before taken after ↔ also before taken after) :
    ends.Finds also := by
  intro front text last
  simp only [finds front text last,same]

theorem nothing : Ends.nothing.Finds .nothing := by
  intro front text last
  constructor
  · intro here
    obtain rfl : last = ⟨front.getLast?,text⟩ := List.mem_singleton.mp here
    exact ⟨[],text,rfl,rfl,by rw [List.append_nil]⟩
  · intro given
    obtain ⟨taken,after,rfl,rfl,rfl⟩ := given
    rw [List.append_nil]
    exact List.mem_singleton_self _

theorem andThen (one : first.Finds takes) (two : second.Finds also) : (first.andThen second).Finds (takes.andThen also) := by
  intro front text last
  constructor
  · intro found
    obtain ⟨middle,here,later⟩ := List.mem_flatMap.mp found
    obtain ⟨start,rest,rfl,begun,rfl⟩ := (one front text middle).mp here
    obtain ⟨back,after,rfl,ended,rfl⟩ := (two (front ++ start) rest last).mp later
    exact ⟨start ++ back,after,by simp,⟨start,back,rfl,begun,ended⟩,by simp⟩
  · intro given
    obtain ⟨_,after,rfl,⟨start,back,rfl,begun,ended⟩,rfl⟩ := given
    apply List.mem_flatMap.mpr
    refine ⟨⟨(front ++ start).getLast?,back ++ after⟩,?_,?_⟩
    · exact (one front _ _).mpr ⟨start,back ++ after,by simp,begun,rfl⟩
    · exact (two (front ++ start) _ _).mpr ⟨back,after,rfl,ended,by simp⟩

theorem orElse (left : first.Finds takes) (right : second.Finds also) : (first.orElse second).Finds (takes.orElse also) := by
  intro front text last
  rw [Ends.orElse,List.mem_append,left front text last,right front text last]
  constructor
  · intro either
    rcases either with ⟨taken,after,split,here,same⟩ | ⟨taken,after,split,here,same⟩
    · exact ⟨taken,after,split,.inl here,same⟩
    · exact ⟨taken,after,split,.inr here,same⟩
  · intro given
    obtain ⟨taken,after,split,here,same⟩ := given
    rcases here with here | here
    · exact .inl ⟨taken,after,split,here,same⟩
    · exact .inr ⟨taken,after,split,here,same⟩

theorem times (finds : ends.Finds takes) : (ends.times n).Finds (takes.times n) := by
  induction n with
  | zero => exact nothing
  | succ n ih => exact finds.andThen ih

theorem upTo_sound (finds : ends.Finds takes) (found : last ∈ ends.upTo limit ⟨front.getLast?,text⟩) :
    ∃ n ≤ limit, ∃ taken after, text = taken ++ after ∧ takes.times n front taken after ∧
      last = ⟨(front ++ taken).getLast?,after⟩ := by
  induction limit generalizing front text with
  | zero => exact ⟨0,Nat.le_refl _,(nothing front text last).mp found⟩
  | succ limit ih =>
    rcases List.mem_append.mp found with further | here
    · obtain ⟨next,one,behind⟩ := List.mem_flatMap.mp further
      obtain ⟨start,rest,rfl,begun,rfl⟩ := (finds front text next).mp one
      split at behind
      · obtain ⟨n,few,back,after,rfl,row,rfl⟩ := ih behind
        exact ⟨n + 1,Nat.succ_le_succ few,start ++ back,after,by simp,⟨start,back,rfl,begun,row⟩,by simp⟩
      · obtain rfl := List.mem_singleton.mp behind
        exact ⟨1,Nat.succ_le_succ (Nat.zero_le _),start,rest,rfl,⟨start,[],by simp,by simpa using begun,rfl⟩,rfl⟩
    · exact ⟨0,Nat.zero_le _,(nothing front text last).mp here⟩

theorem upTo_complete (finds : ends.Finds takes) (row : takes.times n front taken after) (few : n ≤ limit) :
    ⟨(front ++ taken).getLast?,after⟩ ∈ ends.upTo limit ⟨front.getLast?,taken ++ after⟩ := by
  induction n generalizing limit front taken with
  | zero =>
    have here := (nothing front (taken ++ after) ⟨(front ++ taken).getLast?,after⟩).mpr ⟨taken,after,rfl,row,rfl⟩
    cases limit with
    | zero => exact here
    | succ limit => exact List.mem_append_right _ here
  | succ n ih =>
    obtain ⟨start,back,rfl,begun,row⟩ := row
    obtain ⟨limit,rfl⟩ : ∃ less, limit = less + 1 := ⟨limit - 1,by omega⟩
    cases start with
    | nil =>
      rw [List.append_nil] at row
      exact ih row (Nat.le_of_succ_le few)
    | cons c start =>
      have one := (finds front (c :: start ++ back ++ after) ⟨(front ++ c :: start).getLast?,back ++ after⟩).mpr
        ⟨c :: start,back ++ after,by simp,begun,rfl⟩
      have shorter : (back ++ after).length < (c :: start ++ back ++ after).length := by
        simp only [List.length_append,List.length_cons]
        omega
      apply List.mem_append_left
      apply List.mem_flatMap.mpr
      refine ⟨_,one,?_⟩
      rw [if_pos shorter,← List.append_assoc]
      exact ih row (Nat.le_of_succ_le_succ few)

theorem upTo (finds : ends.Finds takes) : last ∈ ends.upTo limit ⟨front.getLast?,text⟩ ↔
    ∃ n ≤ limit, ∃ taken after, text = taken ++ after ∧ takes.times n front taken after ∧
      last = ⟨(front ++ taken).getLast?,after⟩ := by
  constructor
  · exact finds.upTo_sound
  · intro given
    obtain ⟨n,few,taken,after,rfl,row,rfl⟩ := given
    exact finds.upTo_complete row few

theorem between (finds : ends.Finds takes) : (ends.between least most).Finds (takes.between least most) := by
  let further : Taking := fun before taken after =>
    ∃ more, (∀ limit, most = some limit → more ≤ limit - least) ∧ takes.times more before taken after
  have later : Ends.Finds (fun place => ends.upTo ((most.map (· - least)).getD place.rest.length) place) further := by
    intro front text last
    constructor
    · intro found
      obtain ⟨more,few,taken,after,rfl,row,same⟩ := finds.upTo.mp found
      refine ⟨taken,after,rfl,⟨more,?_,row⟩,same⟩
      intro limit given
      simpa [given] using few
    · intro given
      obtain ⟨taken,after,rfl,⟨more,bounded,row⟩,rfl⟩ := given
      cases most with
      | some limit => exact finds.upTo_complete row (bounded limit rfl)
      | none =>
        obtain ⟨n,short,row⟩ := times_short row
        have within : n ≤ (taken ++ after).length := by
          rw [List.length_append]
          omega
        exact finds.upTo_complete row within
  refine (finds.times.andThen later).congr ?_
  intro before taken after
  constructor
  · intro given
    obtain ⟨start,back,rfl,begun,more,bounded,row⟩ := given
    exact ⟨more,bounded,times_add ▸ ⟨start,back,rfl,begun,row⟩⟩
  · intro given
    obtain ⟨more,bounded,row⟩ := given
    rw [times_add] at row
    obtain ⟨start,back,rfl,begun,row⟩ := row
    exact ⟨start,back,rfl,begun,more,bounded,row⟩

theorem one : (Pattern.ends (.one set)).Finds (Takes (.one set)) := by
  intro front text last
  cases text with
  | nil => simp [Pattern.ends,Takes]
  | cons c rest =>
    constructor
    · intro found
      by_cases member : set.has c = true
      · obtain rfl : last = ⟨some c,rest⟩ := by simpa [Pattern.ends,member] using found
        exact ⟨[c],rest,rfl,⟨c,rfl,member⟩,by simp⟩
      · simp [Pattern.ends,member] at found
    · intro given
      obtain ⟨_,after,split,⟨d,rfl,member⟩,rfl⟩ := given
      obtain ⟨rfl,rfl⟩ := List.cons.inj split
      simp [Pattern.ends,member]

theorem assert : (Pattern.ends (.assert assertion)).Finds (Takes (.assert assertion)) := by
  intro front text last
  constructor
  · intro found
    by_cases holds : assertion.holds front.getLast? text.head? = true
    · obtain rfl : last = ⟨front.getLast?,text⟩ := by simpa [Pattern.ends,holds] using found
      exact ⟨[],text,rfl,⟨rfl,holds⟩,by rw [List.append_nil]⟩
    · simp [Pattern.ends,holds] at found
  · intro given
    obtain ⟨_,after,rfl,⟨rfl,holds⟩,rfl⟩ := given
    simp [Pattern.ends,holds]

end Ends.Finds

theorem ends_finds : pattern.ends.Finds (Takes pattern) := by
  induction pattern with
  | empty => exact .nothing
  | one set => exact .one
  | assert assertion => exact .assert
  | both first second one two => exact one.andThen two
  | either left right this that => exact this.orElse that
  | repeated body least most finds => exact finds.between
  | group body finds => exact finds

theorem ends_nonempty_iff : pattern.ends ⟨front.getLast?,text⟩ ≠ [] ↔
    ∃ taken after, text = taken ++ after ∧ Takes pattern front taken after := by
  constructor
  · intro found
    obtain ⟨last,member⟩ := List.exists_mem_of_ne_nil _ found
    obtain ⟨taken,after,split,here,_⟩ := (ends_finds front text last).mp member
    exact ⟨taken,after,split,here⟩
  · intro given
    obtain ⟨taken,after,split,here⟩ := given
    exact List.ne_nil_of_mem ((ends_finds front text _).mpr ⟨taken,after,split,here,rfl⟩)

theorem preferredLength_sound (found : pattern.preferredLength ⟨front.getLast?,text⟩ = n + 1) :
    ∃ taken after, text = taken ++ after ∧ Takes pattern front taken after ∧ taken.length = n + 1 := by
  unfold preferredLength at found
  split at found
  · cases found
  · rename_i last others listed
    have member : last ∈ pattern.ends ⟨front.getLast?,text⟩ := by simp [listed]
    obtain ⟨taken,after,rfl,here,rfl⟩ := (ends_finds front text last).mp member
    refine ⟨taken,after,rfl,here,?_⟩
    simpa using found

theorem preferredLength_complete (here : Takes pattern front taken after)
    (solid : ∀ taken after, Takes pattern front taken after → taken ≠ []) :
    ∃ n, pattern.preferredLength ⟨front.getLast?,taken ++ after⟩ = n + 1 := by
  have some := ends_nonempty_iff.mpr ⟨taken,after,rfl,here⟩
  obtain ⟨last,others,listed⟩ := List.exists_cons_of_ne_nil some
  have member : last ∈ pattern.ends ⟨front.getLast?,taken ++ after⟩ := by simp [listed]
  obtain ⟨other,rest,split,there,rfl⟩ := (ends_finds front _ last).mp member
  have longer : 0 < other.length := List.length_pos_iff.mpr (solid _ _ there)
  refine ⟨other.length - 1,?_⟩
  rw [preferredLength,listed]
  simp only [split,List.length_append]
  omega

end Marking.Pattern
