import Marking.Proofs.Comment.Restripping
import Mathlib.Data.List.Basic

-- Stripping joins nothing and splits nothing: a part of stripped text without white space stands
-- in the source in one piece, and beside it is what was beside it, or the mark of a comment where
-- there is a gap now.

namespace Marking.Comment

-- What a gap begins or ends with, in a source or in stripped text.
def isGap (c : Char) : Bool := c == ' ' || c == '\n' || c == '/' || c == '#'

def outline (side : Option Char) : Option Char := side.filter (!isGap ·)

variable {style : Style} {c : Char} {part front back rest kept text : Text} {lexeme : Lexeme}
  {lexemes : List Lexeme}

theorem outline_gap (gap : isGap c = true) : outline (some c) = none := by simp [outline,gap]

theorem image_eq_spelling (code : ¬ lexeme.IsComment) : lexeme.image = lexeme.spelling style := by
  cases lexeme with
  | code c => rfl
  | literal quote body => rfl
  | line body => exact absurd trivial code
  | block body => exact absurd trivial code

theorem comment_head (comment : lexeme.IsComment) (fits : lexeme.Fits style rest)
    (head : c ∈ (lexeme.image ++ strip style rest).head?) : c = ' ' ∨ c = '\n' := by
  cases lexeme with
  | code c => cases comment
  | literal quote body => cases comment
  | block body => exact .inl (by simpa [Lexeme.image,eq_comm] using head)
  | line body =>
    rcases fits.2 with rfl | ⟨after,rfl⟩
    · cases head
    · rcases strip_head head with same | blank
      · exact .inr (by simpa [eq_comm] using same)
      · exact blank

theorem code_of_solid (fits : lexeme.Fits style rest) (head : c ∈ (lexeme.image ++ strip style rest).head?)
    (solid : Text.isSpace c = false) : ¬ lexeme.IsComment := by
  intro comment
  rcases comment_head comment fits head with rfl | rfl
  · exact absurd solid (by decide)
  · exact absurd solid (by decide)

theorem comment_opens (comment : lexeme.IsComment) : outline (lexeme.spelling style ++ rest).head? = none := by
  cases lexeme with
  | code c => cases comment
  | literal quote body => cases comment
  | block body => rfl
  | line body => cases style <;> rfl

theorem outline_strip_head (style : Style) (text : Text) :
    outline (strip style text).head? = outline text.head? := by
  obtain ⟨lexemes,found⟩ := exists_decomposition style text
  cases found with
  | nil => rfl
  | @cons lexeme rest lexemes fits tail =>
    rw [strip_cons fits]
    by_cases comment : lexeme.IsComment
    · rw [comment_opens comment]
      cases head : (lexeme.image ++ strip style rest).head? with
      | none => rfl
      | some c =>
        rcases comment_head comment fits head with rfl | rfl <;> rfl
    · rw [image_eq_spelling comment]
      have nonempty : lexeme.spelling style ≠ [] := spelling_ne_nil
      obtain ⟨c,spelled,same⟩ := List.exists_cons_of_ne_nil nonempty
      rw [same]
      rfl

theorem outline_append_head {one two : Text} (same : outline one.head? = outline two.head?) :
    outline (kept ++ one).head? = outline (kept ++ two).head? := by
  cases kept with
  | nil => exact same
  | cons c kept => rfl

theorem Decomposes.kept_prefix (found : Decomposes style text lexemes) (solid : ∀ c ∈ part, Text.isSpace c = false)
    (cut : kept ++ strip style text = part ++ back) :
    ∃ rest, kept ++ text = part ++ rest ∧ outline rest.head? = outline back.head? := by
  induction found generalizing kept part with
  | nil =>
    rw [show strip style [] = [] from rfl] at cut
    exact ⟨back,cut,rfl⟩
  | @cons lexeme rest lexemes fits tail ih =>
    rcases List.append_eq_append_iff.mp cut with ⟨more,rfl,left⟩ | ⟨more,rfl,rfl⟩
    · cases more with
      | nil =>
        refine ⟨lexeme.spelling style ++ rest,by simp,?_⟩
        rw [← outline_strip_head,left]
        rfl
      | cons c more =>
        rw [strip_cons fits] at left
        have code : ¬ lexeme.IsComment := code_of_solid fits (by rw [left]; rfl) (solid c (by simp))
        rw [image_eq_spelling code] at left
        obtain ⟨rest,split,same⟩ := ih (fun d member => solid d (by simp [member])) left
        exact ⟨rest,by rw [split,List.append_assoc],same⟩
    · refine ⟨more ++ (lexeme.spelling style ++ rest),by simp,?_⟩
      exact outline_append_head (outline_strip_head style _).symm

theorem image_gap (comment : lexeme.IsComment) : ∀ c ∈ lexeme.image, isGap c = true ∧ Text.isSpace c = true := by
  intro c member
  cases lexeme with
  | code c => cases comment
  | literal quote body => cases comment
  | line body => cases member
  | block body =>
    rcases List.mem_cons.mp member with rfl | lineEnd
    · exact ⟨rfl,by decide⟩
    · rw [List.eq_of_mem_replicate lineEnd]
      exact ⟨rfl,by decide⟩

theorem image_closes (comment : lexeme.IsComment) : outline lexeme.image.getLast? = none := by
  cases last : lexeme.image.getLast? with
  | none => rfl
  | some c => exact outline_gap (image_gap comment c (List.mem_of_getLast? last)).1

theorem comment_closes (comment : lexeme.IsComment) (fits : lexeme.Fits style (c :: rest))
    (solid : Text.isSpace c = false) : outline (lexeme.spelling style).getLast? = none := by
  cases lexeme with
  | code c => cases comment
  | literal quote body => cases comment
  | line body =>
    rcases fits.2 with empty | ⟨after,same⟩
    · cases empty
    · obtain ⟨rfl,_⟩ := List.cons.inj same
      exact absurd solid (by decide)
  | block body =>
    obtain ⟨front,rfl⟩ := fits.2.2.resolve_right (List.cons_ne_nil c rest)
    simp [Lexeme.spelling,blockEnd,outline,isGap]

-- A part without white space in stripped text was in the source, with the same beside it or a gap
-- on the same side.
theorem Decomposes.kept_part (found : Decomposes style text lexemes) (nonempty : part ≠ [])
    (solid : ∀ c ∈ part, Text.isSpace c = false) (cut : strip style text = front ++ (part ++ back)) :
    ∃ before after, text = before ++ (part ++ after) ∧ (before = [] → front = []) ∧
      outline before.getLast? = outline front.getLast? ∧ outline after.head? = outline back.head? := by
  induction found generalizing front with
  | nil => simp [strip,stripFrom,nonempty] at cut
  | @cons lexeme rest lexemes fits tail ih =>
    rw [strip_cons fits] at cut
    have place : (∃ more, more ≠ [] ∧ front = lexeme.image ++ more ∧ strip style rest = more ++ (part ++ back)) ∨
        ∃ more, lexeme.image = front ++ more ∧ part ++ back = more ++ strip style rest := by
      rcases List.append_eq_append_iff.mp cut with ⟨more,split,left⟩ | inside
      · cases more with
        | nil => exact .inr ⟨[],by simpa using split.symm,left.symm⟩
        | cons c more => exact .inl ⟨_,List.cons_ne_nil c more,split,left⟩
      · exact .inr inside
    rcases place with ⟨more,later,rfl,left⟩ | ⟨more,split,left⟩
    · obtain ⟨before,after,rfl,starts,first,last⟩ := ih left
      have passed : before ≠ [] := fun empty => later (starts empty)
      refine ⟨lexeme.spelling style ++ before,after,by simp,by simp [passed],?_,last⟩
      rw [List.getLast?_append_of_ne_nil _ passed,List.getLast?_append_of_ne_nil _ later,first]
    · obtain ⟨c,others,rfl⟩ := List.exists_cons_of_ne_nil nonempty
      have head : Text.isSpace c = false := solid c (List.mem_cons_self ..)
      by_cases comment : lexeme.IsComment
      · -- White space is all that a comment leaves, so the part begins behind it.
        obtain rfl : more = [] := by
          cases more with
          | nil => rfl
          | cons d more =>
            obtain ⟨rfl,_⟩ := List.cons.inj left
            have blank := (image_gap comment c (by simp [split])).2
            exact absurd (head.symm.trans blank) (by decide)
        have cut : [] ++ strip style rest = c :: others ++ back := left.symm
        obtain ⟨after,same,last⟩ := tail.kept_prefix solid cut
        obtain rfl : rest = c :: (others ++ after) := same
        obtain rfl : front = lexeme.image := by rw [split,List.append_nil]
        refine ⟨lexeme.spelling style,after,rfl,fun empty => absurd empty spelling_ne_nil,?_,last⟩
        rw [comment_closes comment fits head,image_closes comment]
      · rw [image_eq_spelling comment] at split
        obtain ⟨after,same,last⟩ := tail.kept_prefix solid left.symm
        exact ⟨front,after,by rw [split,List.append_assoc,same],id,rfl,last⟩

end Marking.Comment
