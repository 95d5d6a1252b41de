import Marking.Proofs.Comment.Restripping
import Marking.Proofs.Text.Cutting
import Mathlib.Data.List.Forall2

-- Stripping works within lines. Each line of the source keeps its place, and what is left of it is
-- the line without its comments, with one space for each block comment that begins on it.

namespace Marking.Comment

-- What is left of a line that begins outside of comments: its own characters in order, a space
-- for a stretch that opens a block comment, and nothing for one that opens a line comment, which
-- takes the rest of the line.
inductive Thinned (style : Style) : Text → Text → Prop where
  | nil : Thinned style [] []
  | kept {left line : Text} (c : Char) (rest : Thinned style left line) : Thinned style (c :: left) (c :: line)
  | blanked {left line stretch : Text} (slash : style = .slash) (opens : blockMark <+: stretch)
      (rest : Thinned style left line) : Thinned style (' ' :: left) (stretch ++ line)
  | deleted {stretch : Text} (opens : lineMark style <+: stretch) : Thinned style [] stretch

-- A line can also begin inside of a block comment, of which nothing is left.
def Remains (style : Style) (left line : Text) : Prop :=
  ∃ inside rest, line = inside ++ rest ∧ (style = .hash → inside = []) ∧ Thinned style left rest

-- Two texts line by line. The first lines are related in a way of their own, so that what is put in
-- front of them need not begin a line.
def Aligned (first later : Text → Text → Prop) (one two : Text) : Prop :=
  ∃ left line lefts lines, one.splitOn '\n' = left :: lefts ∧ two.splitOn '\n' = line :: lines ∧
    first left line ∧ List.Forall₂ later lefts lines

variable {style : Style} {first second later : Text → Text → Prop} {one two text rest source : Text}
  {left line : Text} {lexeme : Lexeme} {lexemes : List Lexeme} {body : Text} {c : Char}

theorem Thinned.remains (thinned : Thinned style left line) : Remains style left line :=
  ⟨[],line,rfl,fun _ => rfl,thinned⟩

theorem aligned_nil (ends : first [] []) : Aligned first later [] [] :=
  ⟨[],[],[],[],rfl,rfl,ends,.nil⟩

theorem Aligned.lines (aligned : Aligned first later one two) (weaker : ∀ left line, first left line → later left line) :
    List.Forall₂ later (one.splitOn '\n') (two.splitOn '\n') := by
  obtain ⟨left,line,lefts,lines,ones,twos,head,tail⟩ := aligned
  rw [ones,twos]
  exact .cons (weaker left line head) tail

theorem Aligned.lineEnd (aligned : Aligned first later one two) (weaker : ∀ left line, first left line → later left line)
    (ends : second [] []) : Aligned second later ('\n' :: one) ('\n' :: two) :=
  ⟨[],[],_,_,by simp [List.splitOn_cons_eq_if_modifyHead],by simp [List.splitOn_cons_eq_if_modifyHead],ends,
    aligned.lines weaker⟩

theorem Aligned.append (aligned : Aligned first later one two) {front back : Text} (within : '\n' ∉ front) (behind : '\n' ∉ back)
    (joins : ∀ left line, first left line → second (front ++ left) (back ++ line)) :
    Aligned second later (front ++ one) (back ++ two) := by
  obtain ⟨left,line,lefts,lines,ones,twos,head,tail⟩ := aligned
  refine ⟨front ++ left,back ++ line,lefts,lines,?_,?_,joins left line head,tail⟩
  · rw [Text.splitOn_front within,ones,List.modifyHead_cons]
  · rw [Text.splitOn_front behind,twos,List.modifyHead_cons]

theorem Aligned.mono (aligned : Aligned first later one two) (weaker : ∀ left line, first left line → second left line) :
    Aligned second later one two := by
  obtain ⟨left,line,lefts,lines,ones,twos,head,tail⟩ := aligned
  exact ⟨left,line,lefts,lines,ones,twos,weaker left line head,tail⟩

theorem Aligned.ended (aligned : Aligned first later one two) (oneEnds : one = [] ∨ ['\n'] <+: one)
    (twoEnds : two = [] ∨ ['\n'] <+: two) : Aligned (fun left line => left = [] ∧ line = []) later one two := by
  have empty {text line : Text} {lines : List Text} (ends : text = [] ∨ ['\n'] <+: text)
      (split : text.splitOn '\n' = line :: lines) : line = [] := by
    rcases ends with rfl | ⟨after,rfl⟩
    · exact (List.cons.inj split).1.symm
    · rw [List.singleton_append,List.splitOn_cons_eq_if_modifyHead] at split
      exact (List.cons.inj split).1.symm
  obtain ⟨left,line,lefts,lines,ones,twos,_,tail⟩ := aligned
  exact ⟨left,line,lefts,lines,ones,twos,⟨empty oneEnds ones,empty twoEnds twos⟩,tail⟩

theorem Aligned.copied (aligned : Aligned (Thinned style) (Remains style) one two) (text : Text) :
    Aligned (Thinned style) (Remains style) (text ++ one) (text ++ two) := by
  induction text with
  | nil => exact aligned
  | cons c text ih =>
    by_cases lineEnd : c = '\n'
    · subst lineEnd
      exact ih.lineEnd (fun _ _ => Thinned.remains) .nil
    · have within : '\n' ∉ [c] := by simpa using Ne.symm lineEnd
      exact ih.append within within fun _ _ => .kept c

theorem Aligned.lineComment (aligned : Aligned (Thinned style) (Remains style) (strip style rest) rest)
    (inner : '\n' ∉ body) (ends : rest = [] ∨ ['\n'] <+: rest) :
    Aligned (Thinned style) (Remains style) (strip style rest) (lineMark style ++ body ++ rest) := by
  have stripped : strip style rest = [] ∨ ['\n'] <+: strip style rest := by
    rcases ends with rfl | ⟨after,rfl⟩
    · exact .inl rfl
    · exact .inr ⟨strip style after,(stripFrom_code (blank_fits (.inr rfl))).symm⟩
  have within : '\n' ∉ lineMark style ++ body := by cases style <;> simpa [lineMark] using inner
  refine (aligned.ended stripped ends).append List.not_mem_nil within ?_
  rintro _ _ ⟨rfl,rfl⟩
  exact .deleted ⟨body,by simp⟩

theorem Aligned.blockBody (aligned : Aligned (Remains .slash) (Remains .slash) one two) (body : Text) :
    Aligned (Remains .slash) (Remains .slash) (List.replicate (body.count '\n') '\n' ++ one) (body ++ two) := by
  induction body with
  | nil => exact aligned
  | cons c body ih =>
    by_cases lineEnd : c = '\n'
    · subst lineEnd
      rw [List.count_cons_self,List.replicate_succ]
      exact ih.lineEnd (fun _ _ => id) (Thinned.remains .nil)
    · rw [List.count_cons_of_ne lineEnd]
      have within : '\n' ∉ [c] := by simpa using Ne.symm lineEnd
      refine ih.append List.not_mem_nil within ?_
      rintro left _ ⟨inside,rest,rfl,_,thinned⟩
      exact ⟨c :: inside,rest,rfl,by simp,thinned⟩

theorem Aligned.blockComment (aligned : Aligned (Thinned .slash) (Remains .slash) one two) (body : Text) :
    Aligned (Thinned .slash) (Remains .slash) (' ' :: List.replicate (body.count '\n') '\n' ++ one)
      (blockMark ++ body ++ two) := by
  have inner := (aligned.mono fun _ _ => Thinned.remains).blockBody body
  rw [List.append_assoc]
  refine inner.append (by decide : '\n' ∉ [' ']) (by decide : '\n' ∉ blockMark) ?_
  rintro left _ ⟨inside,rest,rfl,_,thinned⟩
  rw [← List.append_assoc]
  exact .blanked rfl ⟨inside,rfl⟩ thinned

theorem Decomposes.aligned (found : Decomposes style source lexemes) :
    Aligned (Thinned style) (Remains style) (strip style source) source := by
  induction found with
  | nil => exact aligned_nil .nil
  | @cons lexeme rest lexemes fits tail ih =>
    rw [strip_cons fits]
    cases lexeme with
    | code c => exact ih.copied [c]
    | literal quote body => exact ih.copied (quote :: body)
    | line body =>
      obtain ⟨inner,ends⟩ := fits
      exact ih.lineComment inner ends
    | block body =>
      obtain ⟨rfl,_⟩ := fits
      exact ih.blockComment body

theorem strip_aligned (style : Style) (source : Text) :
    Aligned (Thinned style) (Remains style) (strip style source) source := by
  obtain ⟨lexemes,found⟩ := exists_decomposition style source
  exact found.aligned

theorem Thinned.cut (thinned : Thinned .hash left line) :
    ∃ cut, line = left ++ cut ∧ (cut = [] ∨ ['#'] <+: cut) := by
  induction thinned with
  | nil => exact ⟨[],rfl,.inl rfl⟩
  | kept c _ ih =>
    obtain ⟨cut,split,opens⟩ := ih
    exact ⟨cut,by rw [split,List.cons_append],opens⟩
  | blanked slash => cases slash
  | deleted opens => exact ⟨_,rfl,.inr opens⟩

theorem Remains.cut (remains : Remains .hash left line) :
    ∃ cut, line = left ++ cut ∧ (cut = [] ∨ ['#'] <+: cut) := by
  obtain ⟨inside,rest,rfl,outside,thinned⟩ := remains
  rw [outside rfl]
  exact thinned.cut

theorem lines_kept (source : Text) :
    (∀ style, (strip style source).count '\n' = source.count '\n') ∧
    List.Forall₂ (fun left line => ∃ cut, line = left ++ cut ∧ (cut = [] ∨ ['#'] <+: cut))
      ((strip .hash source).splitOn '\n') (source.splitOn '\n') ∧
    List.Forall₂ (Remains .slash) ((strip .slash source).splitOn '\n') (source.splitOn '\n') := by
  have remains (style : Style) : List.Forall₂ (Remains style) ((strip style source).splitOn '\n') (source.splitOn '\n') :=
    (strip_aligned style source).lines fun _ _ => Thinned.remains
  refine ⟨?_,(remains .hash).imp fun _ _ => Remains.cut,remains .slash⟩
  intro style
  have same := (remains style).length_eq
  rw [Text.length_splitOn,Text.length_splitOn] at same
  omega

example : (strip .slash "a /* one\ntwo\n*/ b // c".toList).splitOn '\n' = ["a  ".toList,[]," b ".toList] := by decide

end Marking.Comment
