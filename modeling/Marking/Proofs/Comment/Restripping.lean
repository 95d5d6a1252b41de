import Marking.Proofs.Comment.Stripping

-- Stripped code falls into the code and the literals of its source, and into the blanks that
-- stand for block comments. No comment is among them, so stripping again changes nothing.

namespace Marking.Comment

def Lexeme.IsComment : Lexeme → Prop
  | .line _ | .block _ => True
  | .code _ | .literal .. => False

-- What the image of a lexeme falls into.
def Lexeme.residue : Lexeme → List Lexeme
  | .code c => [.code c]
  | .line _ => []
  | .block body => .code ' ' :: List.replicate (body.count '\n') (.code '\n')
  | .literal quote body => [.literal quote body]

variable {style : Style} {c first second : Char} {body rest other text : Text} {lexeme : Lexeme}
  {lexemes : List Lexeme}

theorem residue_image (lexeme : Lexeme) : lexeme.residue.flatMap Lexeme.image = lexeme.image := by
  cases lexeme with
  | block body =>
    simp only [Lexeme.residue,Lexeme.image,List.flatMap_cons,List.singleton_append]
    induction body.count '\n' with
    | zero => rfl
    | succ count ih => simpa [List.replicate_succ,Lexeme.image] using ih
  | _ => simp [Lexeme.residue,Lexeme.image]

theorem residue_no_comment (lexeme : Lexeme) : ∀ part ∈ lexeme.residue, ¬ part.IsComment := by
  intro part member
  cases lexeme with
  | code c => simp_all [Lexeme.residue,Lexeme.IsComment]
  | line body => cases member
  | block body =>
    rcases List.mem_cons.mp member with rfl | lineEnd
    · exact id
    · rw [List.eq_of_mem_replicate lineEnd]
      exact id
  | literal quote body => simp_all [Lexeme.residue,Lexeme.IsComment]

theorem stripFrom_line_head (head : c ∈ (stripFrom style .line body).head?) : c = '\n' := by
  induction body with
  | nil => cases head
  | cons d body ih =>
    rw [stripFrom] at head
    split at head
    · simpa [eq_comm] using head
    · exact ih head

theorem strip_head (head : c ∈ (strip style text).head?) : c ∈ text.head? ∨ c = ' ' ∨ c = '\n' := by
  cases text with
  | nil => cases head
  | cons d rest =>
    unfold strip at head
    unfold stripFrom at head
    split at head
    · exact .inr (.inr (stripFrom_line_head head))
    · exact .inr (.inl (by simpa [eq_comm] using head))
    · exact .inr (.inr (stripFrom_line_head head))
    · simp_all

theorem pair_prefix_iff : [first,second] <+: c :: rest ↔ first = c ∧ second ∈ rest.head? := by
  cases rest <;> simp [eq_comm]

-- Whether a character stands alone depends on the next one at most, and there on nothing but
-- whether it is a slash or a star.
theorem code_fits_of_head (fits : (Lexeme.code c).Fits style rest)
    (heads : ∀ d ∈ other.head?, d ∈ rest.head? ∨ d = ' ' ∨ d = '\n') : (Lexeme.code c).Fits style other := by
  obtain ⟨plain,noLine,noBlock⟩ := fits
  refine ⟨plain,?_,?_⟩
  · cases style with
    | hash => simpa [lineMark] using noLine
    | slash =>
      intro opens
      obtain ⟨same,next⟩ := pair_prefix_iff.mp opens
      rcases heads _ next with kept | blank
      · exact noLine (pair_prefix_iff.mpr ⟨same,kept⟩)
      · exact absurd blank (by decide)
  · rintro ⟨slash,opens⟩
    obtain ⟨same,next⟩ := pair_prefix_iff.mp opens
    rcases heads _ next with kept | blank
    · exact noBlock ⟨slash,pair_prefix_iff.mpr ⟨same,kept⟩⟩
    · exact absurd blank (by decide)

theorem blank_fits (blank : c = ' ' ∨ c = '\n') : (Lexeme.code c).Fits style rest := by
  rcases blank with rfl | rfl <;> cases style <;> simp [Lexeme.Fits,IsQuote,lineMark,blockMark]

theorem Decomposes.lineEnds (found : Decomposes style text lexemes) (count : Nat) :
    Decomposes style (List.replicate count '\n' ++ text)
      (List.replicate count (.code '\n') ++ lexemes) := by
  induction count with
  | zero => exact found
  | succ count ih => exact .cons (blank_fits (.inr rfl)) ih

theorem Decomposes.stripped (found : Decomposes style text lexemes) :
    Decomposes style (strip style text) (lexemes.flatMap Lexeme.residue) := by
  induction found with
  | nil => exact .nil
  | @cons lexeme rest lexemes fits tail ih =>
    rw [strip_cons fits,List.flatMap_cons]
    cases lexeme with
    | code c => exact .cons (code_fits_of_head fits fun d head => strip_head head) ih
    | line body => exact ih
    | block body => exact .cons (blank_fits (.inl rfl)) (ih.lineEnds _)
    | literal quote body =>
      obtain ⟨quoted,early,ends⟩ := fits
      have kept : (Lexeme.literal quote body).Fits style (strip style rest) := by
        refine ⟨quoted,early,ends.imp_right ?_⟩
        rintro rfl
        rfl
      exact .cons kept ih

theorem strip_strip (style : Style) (source : Text) : strip style (strip style source) = strip style source := by
  obtain ⟨lexemes,found⟩ := exists_decomposition style source
  calc strip style (strip style source)
    _ = (lexemes.flatMap Lexeme.residue).flatMap Lexeme.image := strip_eq_image found.stripped
    _ = lexemes.flatMap fun lexeme => lexeme.residue.flatMap Lexeme.image := List.flatMap_assoc
    _ = lexemes.flatMap Lexeme.image := by simp only [residue_image]
    _ = strip style source := (strip_eq_image found).symm

theorem strip_no_comment (style : Style) (source : Text) :
    ∃ lexemes, Decomposes style (strip style source) lexemes ∧ ∀ lexeme ∈ lexemes, ¬ lexeme.IsComment := by
  obtain ⟨lexemes,found⟩ := exists_decomposition style source
  refine ⟨_,found.stripped,?_⟩
  intro part member
  obtain ⟨lexeme,_,inside⟩ := List.mem_flatMap.mp member
  exact residue_no_comment lexeme part inside

end Marking.Comment
