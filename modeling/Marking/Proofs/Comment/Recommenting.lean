import Marking.Proofs.Comment.Restripping
import Mathlib.Data.List.Forall2

-- Sources that differ in the bodies of their comments only. After each comment the scan is where
-- it would have been after any other body, so such sources strip to the same code.

namespace Marking.Comment

-- The same lexeme, or a comment of the same kind with another body and the same end: an
-- unclosed block comment stays unclosed.
inductive Lexeme.Recommented : Lexeme → Lexeme → Prop where
  | code (c : Char) : Recommented (.code c) (.code c)
  | line {body other : Text} (inner : '\n' ∉ body) (alike : '\n' ∉ other) :
      Recommented (.line body) (.line other)
  | block {body other ending : Text} (ends : ending = blockEnd ∨ ending = [])
      (inner : ¬ blockEnd <:+: body) (alike : ¬ blockEnd <:+: other)
      (lineEnds : body.count '\n' = other.count '\n') :
      Recommented (.block (body ++ ending)) (.block (other ++ ending))
  | literal (quote : Char) (body : Text) : Recommented (.literal quote body) (.literal quote body)

def DifferInComments (style : Style) (one two : Text) : Prop :=
  ∃ lexemes others, Decomposes style one lexemes ∧ List.Forall₂ Lexeme.Recommented lexemes others ∧
    two = others.flatMap (Lexeme.spelling style)

variable {style : Style} {body rest after text one two : Text} {lexeme other : Lexeme}
  {lexemes others : List Lexeme}

theorem Decomposes.source (found : Decomposes style text lexemes) :
    text = lexemes.flatMap (Lexeme.spelling style) := by
  induction found with
  | nil => rfl
  | cons fits tail ih => rw [List.flatMap_cons,← ih]

-- A lexeme sees no more of what follows it than the first character.
theorem Lexeme.Fits.of_head (fits : lexeme.Fits style rest) (same : rest.head? = after.head?) :
    lexeme.Fits style after := by
  have ended : rest = [] → after = [] := by
    rintro rfl
    exact List.head?_eq_none_iff.mp same.symm
  cases lexeme with
  | code c => exact code_fits_of_head fits fun d head => .inl (same ▸ head)
  | line body =>
    obtain ⟨inner,ends⟩ := fits
    refine ⟨inner,ends.imp ended ?_⟩
    rintro ⟨more,rfl⟩
    obtain ⟨more,rfl⟩ := List.head?_eq_some_iff.mp same.symm
    exact ⟨more,rfl⟩
  | block body =>
    obtain ⟨slash,early,ends⟩ := fits
    exact ⟨slash,early,ends.imp_right ended⟩
  | literal quote body =>
    obtain ⟨quoted,early,ends⟩ := fits
    exact ⟨quoted,early,ends.imp_right ended⟩

-- A body without star and slash in a row does not end before the star and slash behind it, not
-- even where it ends with a star itself.
theorem through_blockEnd (free : ¬ blockEnd <:+: body) : Through (blockEnd <:+ ·) (body ++ blockEnd) rest := by
  refine ⟨?_,.inl (List.suffix_append body blockEnd)⟩
  intro front back split nonempty ends
  obtain ⟨back,last,rfl⟩ := List.eq_nil_or_concat back |>.resolve_left nonempty
  have shorter : front ++ back = body ++ ['*'] := by
    have whole : (body ++ ['*']) ++ ['/'] = (front ++ back) ++ [last] := by
      simpa [blockEnd] using split
    exact (List.append_inj' whole rfl).1.symm
  have inside : blockEnd <:+: body ++ ['*'] := by
    rw [← shorter]
    exact ends.isInfix.trans (List.prefix_append front back).isInfix
  rcases List.infix_concat_iff.mp inside with atEnd | within
  · obtain ⟨initial,same⟩ := atEnd
    have last := congrArg List.getLast? same
    simp [blockEnd] at last
  · exact free within

theorem through_unclosed (free : ¬ blockEnd <:+: body) : Through (blockEnd <:+ ·) body [] := by
  refine ⟨?_,.inr rfl⟩
  intro front back split _ ends
  rw [split] at free
  exact free (ends.isInfix.trans (List.prefix_append front back).isInfix)

theorem Lexeme.Recommented.fits (alike : lexeme.Recommented other) (fits : lexeme.Fits style rest) :
    other.Fits style rest := by
  cases alike with
  | code c => exact fits
  | line inner alike => exact ⟨alike,fits.2⟩
  | block ends inner alike lineEnds =>
    obtain ⟨slash,through⟩ := fits
    refine ⟨slash,?_⟩
    rcases ends with rfl | rfl
    · exact through_blockEnd alike
    · rw [List.append_nil] at through ⊢
      obtain rfl := through.2.resolve_left fun ends => inner ends.isInfix
      exact through_unclosed alike
  | literal quote body => exact fits

theorem Lexeme.Recommented.image (alike : lexeme.Recommented other) : lexeme.image = other.image := by
  cases alike with
  | block ends inner alike lineEnds => simp [Lexeme.image,lineEnds]
  | _ => rfl

theorem recommented_head (alike : List.Forall₂ Lexeme.Recommented lexemes others) :
    (lexemes.flatMap (Lexeme.spelling style)).head? = (others.flatMap (Lexeme.spelling style)).head? := by
  cases alike with
  | nil => rfl
  | cons first _ => cases first <;> cases style <;> rfl

theorem Decomposes.recommented (found : Decomposes style text lexemes)
    (alike : List.Forall₂ Lexeme.Recommented lexemes others) :
    Decomposes style (others.flatMap (Lexeme.spelling style)) others := by
  induction alike generalizing text with
  | nil => exact .nil
  | @cons lexeme other lexemes others first tail ih =>
    cases found with
    | cons fits found =>
      rw [found.source] at fits
      exact .cons ((first.fits fits).of_head (recommented_head tail)) (ih found)

theorem recommented_image (alike : List.Forall₂ Lexeme.Recommented lexemes others) :
    lexemes.flatMap Lexeme.image = others.flatMap Lexeme.image := by
  induction alike with
  | nil => rfl
  | cons first tail ih => rw [List.flatMap_cons,List.flatMap_cons,first.image,ih]

theorem DifferInComments.strip_eq (differ : DifferInComments style one two) :
    strip style one = strip style two := by
  obtain ⟨lexemes,others,found,alike,rfl⟩ := differ
  rw [strip_eq_image found,strip_eq_image (found.recommented alike),recommented_image alike]

end Marking.Comment
