import Marking.Text.Basic
import Mathlib.Data.List.DropRight
import Mathlib.Data.List.Infix

-- Where a part stands in a text, where a text is cut in two at a character, and what is dropped from
-- its end.

namespace Marking.Text

variable {mark : Char} {text part front back : Text} {drop : Char → Bool}

theorem startsWith_iff : startsWith part text = true ↔ part <+: text := by
  rw [startsWith,Option.isSome_iff_exists]
  constructor
  · intro begins
    obtain ⟨rest,after⟩ := begins
    exact ⟨rest,(after_eq_some_iff.mp after).symm⟩
  · intro begins
    obtain ⟨rest,split⟩ := begins
    exact ⟨rest,after_eq_some_iff.mpr split.symm⟩

theorem hasPart_iff : hasPart part text = true ↔ part <:+: text := by
  induction text with
  | nil => simp [hasPart]
  | cons c text ih => rw [hasPart,Bool.or_eq_true,startsWith_iff,ih,List.infix_cons_iff]

theorem pair_infix_cons {a b c : Char} : [a,b] <:+: c :: text ↔ (c = a ∧ text.head? = some b) ∨ [a,b] <:+: text := by
  rw [List.infix_cons_iff,List.cons_prefix_cons]
  cases text with
  | nil => simp
  | cons d text => simp [List.cons_prefix_cons,eq_comm]

theorem pair_infix_append {a b m : Char} {rest : Text} (first : a ≠ m) (second : b ≠ m) :
    [a,b] <:+: text ++ m :: rest ↔ [a,b] <:+: text ∨ [a,b] <:+: rest := by
  induction text with
  | nil => simp [pair_infix_cons,first.symm]
  | cons c text ih =>
    rw [List.cons_append,pair_infix_cons,pair_infix_cons,ih,or_assoc]
    cases text with
    | nil => simp [second.symm]
    | cons d text => simp

theorem pair_infix_absent {a b : Char} (absent : a ∉ text) : ¬ [a,b] <:+: text :=
  fun inside => absent (inside.subset (List.mem_cons_self ..))

theorem pair_infix_behind {a b : Char} (absent : a ∉ front) : [a,b] <:+: front ++ text ↔ [a,b] <:+: text := by
  induction front with
  | nil => rfl
  | cons c front ih =>
    obtain ⟨different,absent⟩ : a ≠ c ∧ a ∉ front := by simpa using absent
    rw [List.cons_append,pair_infix_cons,ih absent]
    simp [different.symm]

theorem cutAtFirst_append (first : mark ∉ front) :
    cutAtFirst? mark (front ++ mark :: back) = some (front,back) := by
  induction front with
  | nil => simp [cutAtFirst?]
  | cons c front ih =>
    obtain ⟨different,first⟩ : mark ≠ c ∧ mark ∉ front := by simpa using first
    rw [List.cons_append,cutAtFirst?,if_neg (Ne.symm different),ih first]
    rfl

theorem cutAtFirst_eq_some_iff :
    cutAtFirst? mark text = some (front,back) ↔ text = front ++ mark :: back ∧ mark ∉ front := by
  constructor
  · intro cut
    induction text generalizing front with
    | nil => cases cut
    | cons c rest ih =>
      unfold cutAtFirst? at cut
      split at cut
      · rename_i here
        cases cut
        exact ⟨by rw [here]; rfl,List.not_mem_nil⟩
      · rename_i elsewhere
        obtain ⟨⟨inner,after⟩,later,same⟩ := Option.map_eq_some_iff.mp cut
        cases same
        obtain ⟨rfl,first⟩ := ih later
        exact ⟨rfl,by simp [first,Ne.symm elsewhere]⟩
  · rintro ⟨rfl,first⟩
    exact cutAtFirst_append first

section Last
variable {α : Type} [DecidableEq α] {mark : α} {items front back : List α}

theorem cutAtLast_eq_none_iff : cutAtLast? mark items = none ↔ mark ∉ items := by
  induction items with
  | nil => simp [cutAtLast?]
  | cons c rest ih =>
    cases cut : cutAtLast? mark rest with
    | some inner =>
      have later : mark ∈ rest := by
        by_contra absent
        rw [ih.mpr absent] at cut
        cases cut
      simp [cutAtLast?,cut,later]
    | none =>
      have absent : mark ∉ rest := ih.mp cut
      simp [cutAtLast?,cut,absent,eq_comm]

theorem cutAtLast_append (last : mark ∉ back) :
    cutAtLast? mark (front ++ mark :: back) = some (front,back) := by
  induction front with
  | nil =>
    rw [List.nil_append,cutAtLast?,cutAtLast_eq_none_iff.mpr last]
    exact if_pos rfl
  | cons c front ih => rw [List.cons_append,cutAtLast?,ih]

theorem cutAtLast_eq_some_iff :
    cutAtLast? mark items = some (front,back) ↔ items = front ++ mark :: back ∧ mark ∉ back := by
  constructor
  · intro cut
    induction items generalizing front with
    | nil => cases cut
    | cons c rest ih =>
      unfold cutAtLast? at cut
      split at cut
      · rename_i inner later
        cases cut
        obtain ⟨rfl,last⟩ := ih later
        exact ⟨rfl,last⟩
      · rename_i uncut
        split at cut
        · rename_i here
          cases cut
          exact ⟨by rw [here]; rfl,cutAtLast_eq_none_iff.mp uncut⟩
        · cases cut
  · intro given
    obtain ⟨rfl,last⟩ := given
    exact cutAtLast_append last

end Last

theorem not_cut_of_mem_splitOnP {piece : Text} (member : piece ∈ text.splitOnP drop) :
    ∀ c ∈ piece, drop c = false := by
  induction text generalizing piece with
  | nil =>
    rw [List.splitOnP_nil] at member
    simp [List.mem_singleton.mp member]
  | cons c rest ih =>
    rw [List.splitOnP_cons_eq_if_modifyHead] at member
    split at member
    · rcases List.mem_cons.mp member with rfl | later
      · simp
      · exact ih later
    · rename_i kept
      obtain ⟨piece,others,split⟩ := List.exists_cons_of_ne_nil (List.splitOnP_ne_nil drop rest)
      rw [split,List.modifyHead_cons] at member
      rw [split] at ih
      rcases List.mem_cons.mp member with rfl | later
      · have first : drop c = false := by simpa using kept
        simpa [first] using ih (List.mem_cons_self ..)
      · exact ih (List.mem_cons_of_mem _ later)

theorem not_mem_of_mem_splitOn {piece : Text} (member : piece ∈ text.splitOn mark) : mark ∉ piece := by
  intro inside
  have different : (mark == mark) = false := not_cut_of_mem_splitOnP member mark inside
  simp at different

theorem splitOn_front (free : mark ∉ front) :
    (front ++ text).splitOn mark = (text.splitOn mark).modifyHead (front ++ ·) := by
  induction front with
  | nil => exact (congrFun List.modifyHead_id (text.splitOn mark)).symm
  | cons c front ih =>
    obtain ⟨different,free⟩ : mark ≠ c ∧ mark ∉ front := by simpa using free
    rw [List.cons_append,List.splitOn_cons_eq_if_modifyHead,ih free]
    simp [Ne.symm different,Function.comp_def]

theorem length_splitOn : (text.splitOn mark).length = text.count mark + 1 := by
  induction text with
  | nil => simp
  | cons c text ih =>
    rw [List.splitOn_cons_eq_if_modifyHead]
    by_cases same : c = mark
    · simp [same,ih]
    · simp [same,ih]

theorem dropTrailing_prefix (drop : Char → Bool) (text : Text) : dropTrailing drop text <+: text :=
  List.rdropWhile_prefix drop text

theorem dropTrailing_eq_iff {kept : Text} :
    dropTrailing drop text = kept ↔
      ∃ dropped, text = kept ++ dropped ∧ (∀ c ∈ dropped, drop c = true) ∧ ∀ c ∈ kept.getLast?, drop c = false := by
  constructor
  · intro same
    rw [← same]
    refine ⟨text.rtakeWhile drop,List.rdropWhile_append_rtakeWhile.symm,fun _ => List.mem_rtakeWhile_imp,?_⟩
    intro c last
    obtain ⟨nonempty,same⟩ := List.mem_getLast?_eq_getLast last
    rw [same]
    exact Bool.eq_false_iff.mpr (List.rdropWhile_last_not drop text nonempty)
  · intro cut
    obtain ⟨dropped,rfl,out,last⟩ := cut
    have gone : dropTrailing drop (kept ++ dropped) = dropTrailing drop kept := by
      unfold dropTrailing
      rw [List.reverse_append,List.dropWhile_append_of_pos (by simpa using out)]
    rw [gone]
    refine List.rdropWhile_eq_self_iff.mpr ?_
    intro nonempty
    simp [last _ (List.getLast?_eq_some_getLast nonempty)]

theorem dropTrailing_append (nonempty : back ≠ []) (kept : ∀ c ∈ back, drop c = false) :
    dropTrailing drop (front ++ back) = front ++ back := by
  refine dropTrailing_eq_iff.mpr ⟨[],(List.append_nil _).symm,nofun,?_⟩
  intro c last
  rw [List.getLast?_append_of_ne_nil _ nonempty] at last
  exact kept c (List.mem_of_mem_getLast? last)

end Marking.Text
