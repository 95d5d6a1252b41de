import Marking.Proofs.Comment.Lexeme

-- Stripping leaves the image of the lexical decomposition: the scan takes one lexeme after
-- the other, and looks no further than the lexeme and what ends it.

namespace Marking.Comment

variable {style : Style} {stop : Text → Prop} {c quote last : Char} {body rest text inside : Text}
  {lexeme : Lexeme} {lexemes : List Lexeme}

attribute [local simp] stripFrom

theorem stripFrom_code (fits : (Lexeme.code c).Fits style rest) :
    stripFrom style .code (c :: rest) = c :: stripFrom style .code rest := by
  obtain ⟨plain,noLine,noBlock⟩ := fits
  have code : ¬ (c = '"' ∨ c = '\'') := plain
  rw [stripFrom]
  · rw [if_neg code]
  · rintro rfl rfl
    exact noLine ⟨rest,rfl⟩
  · rintro after rfl rfl rfl
    exact noLine ⟨after,rfl⟩
  · rintro after rfl rfl rfl
    exact noBlock ⟨rfl,after,rfl⟩

theorem stripFrom_line (inner : '\n' ∉ body) (ends : rest = [] ∨ ['\n'] <+: rest) :
    stripFrom style .line (body ++ rest) = stripFrom style .code rest := by
  induction body with
  | nil =>
    rcases ends with rfl | ⟨after,rfl⟩
    · rfl
    · cases style <;> simp
  | cons c body ih =>
    obtain ⟨different,inner⟩ : ¬ '\n' = c ∧ '\n' ∉ body := by simpa using inner
    rw [List.cons_append,stripFrom,if_neg (Ne.symm different),ih inner]

theorem Through.at_stop (through : Through stop (text ++ body) rest) (stopped : stop text) : body = [] :=
  Classical.byContradiction fun more => through.1 text body rfl more stopped

theorem Through.block_tail (through : Through (blockEnd <:+ ·) (c :: body) rest)
    (inner : ¬ (c = '*' ∧ ['/'] <+: body)) : Through (blockEnd <:+ ·) body rest := by
  refine ⟨?_,through.2.imp_left ?_⟩
  · intro front back split nonempty ends
    exact through.1 (c :: front) back (by rw [split,List.cons_append]) nonempty
      (ends.trans (List.suffix_cons c front))
  · intro ends
    rcases List.suffix_cons_iff.mp ends with whole | later
    · obtain ⟨rfl,rfl⟩ := List.cons.inj whole
      exact absurd ⟨rfl,List.prefix_rfl⟩ inner
    · exact later

theorem stripFrom_block (through : Through (blockEnd <:+ ·) body rest) :
    stripFrom style .block (body ++ rest) =
      List.replicate (body.count '\n') '\n' ++ stripFrom style .code rest := by
  induction body with
  | nil =>
    obtain rfl := through.2.resolve_left (by simp [blockEnd])
    simp
  | cons c body ih =>
    by_cases ends : c = '*' ∧ ['/'] <+: body
    · obtain ⟨rfl,after,rfl⟩ := ends
      have ended : blockEnd <:+ ['*','/'] := List.suffix_rfl
      obtain rfl : after = [] := Through.at_stop through ended
      simp
    · -- The scan looks one character ahead, which is the next one of the comment.
      have ahead : ∀ after, c = '*' → body ++ rest = '/' :: after → False := by
        rintro after rfl same
        cases body with
        | nil =>
          obtain rfl := through.2.resolve_left (by simp [blockEnd,List.suffix_cons_iff])
          cases same
        | cons d body =>
          obtain ⟨rfl,_⟩ := List.cons.inj same
          exact ends ⟨rfl,body,rfl⟩
      rw [List.cons_append,stripFrom]
      · rw [ih (through.block_tail ends)]
        by_cases lineEnd : c = '\n'
        · subst lineEnd
          simp [List.replicate_succ]
        · simp [lineEnd]
      · exact ahead

theorem closes_nil : ¬ Closes quote [] := by
  rintro ⟨inside,last,same,_⟩
  simp at same

theorem closes_concat :
    Closes quote (inside ++ [last]) ↔ (last = quote ∨ last = '\n') ∧ escapes inside = false := by
  constructor
  · rintro ⟨other,c,same,ends,free⟩
    obtain ⟨rfl,equal⟩ := List.append_inj' same rfl
    obtain rfl : last = c := by simpa using equal
    exact ⟨ends,free⟩
  · rintro ⟨ends,free⟩
    exact ⟨inside,last,rfl,ends,free⟩

theorem closes_single : Closes quote [c] ↔ c = quote ∨ c = '\n' := by
  have concat : Closes quote ([] ++ [c]) ↔ (c = quote ∨ c = '\n') ∧ escapes [] = false := closes_concat
  simpa [escapes] using concat

theorem not_closes_escape : ¬ Closes quote ['\\',c] := by
  have concat : Closes quote (['\\'] ++ [c]) ↔ (c = quote ∨ c = '\n') ∧ escapes ['\\'] = false :=
    closes_concat
  simpa [escapes] using concat

theorem escapes_plain (plain : c ≠ '\\') : escapes (c :: inside) = escapes inside := by
  have starts : (!false && c == '\\') = false := by simpa using plain
  rw [escapes,List.foldl_cons,starts]
  rfl

theorem Through.literal_tail (through : Through (Closes quote) (text ++ body) rest)
    (inner : ¬ Closes quote text) (same : ∀ inside, escapes (text ++ inside) = escapes inside) :
    Through (Closes quote) body rest := by
  have shift : ∀ front, Closes quote (text ++ front) ↔ Closes quote front := by
    intro front
    rcases List.eq_nil_or_concat front with rfl | ⟨inside,last,rfl⟩
    · simpa [closes_nil] using inner
    · rw [List.concat_eq_append,← List.append_assoc,closes_concat,closes_concat,same]
  refine ⟨?_,through.2.imp_left (shift body).mp⟩
  intro front back split nonempty closed
  exact through.1 (text ++ front) back (by rw [split,List.append_assoc]) nonempty ((shift front).mpr closed)

theorem stripFrom_plain (plain : c ≠ '\\') : stripFrom style (.literal quote) (c :: rest) =
    c :: stripFrom style (if c = quote ∨ c = '\n' then .code else .literal quote) rest := by
  rw [stripFrom]
  exact fun _ _ same _ => plain same

theorem stripFrom_literal (quoted : IsQuote quote) (through : Through (Closes quote) body rest) :
    stripFrom style (.literal quote) (body ++ rest) = body ++ stripFrom style .code rest := by
  have notEscape : quote ≠ '\\' := by rcases quoted with rfl | rfl <;> decide
  -- An escape takes two characters at once.
  induction size : body.length using Nat.strongRecOn generalizing body with
  | ind bound ih =>
    cases body with
    | nil =>
      obtain rfl := through.2.resolve_left closes_nil
      simp
    | cons c body =>
      by_cases escape : c = '\\'
      · subst escape
        cases body with
        | nil =>
          obtain rfl := through.2.resolve_left (by simp [closes_single,Ne.symm notEscape])
          simp
        | cons escaped body =>
          have tail : Through (Closes quote) body rest :=
            Through.literal_tail through not_closes_escape (fun _ => rfl)
          have shorter : body.length < bound := by rw [← size]; simp only [List.length_cons]; omega
          rw [List.cons_append,List.cons_append,stripFrom,ih body.length shorter tail rfl]
          rfl
      · rw [List.cons_append,stripFrom_plain escape]
        by_cases ends : c = quote ∨ c = '\n'
        · have closed : Closes quote [c] := closes_single.mpr ends
          obtain rfl : body = [] := Through.at_stop through closed
          rw [if_pos ends]
          rfl
        · have inner : ¬ Closes quote [c] := mt closes_single.mp ends
          have tail : Through (Closes quote) body rest :=
            Through.literal_tail through inner (fun _ => escapes_plain escape)
          have shorter : body.length < bound := by rw [← size]; simp only [List.length_cons]; omega
          rw [if_neg ends,ih body.length shorter tail rfl]
          rfl

theorem strip_lexeme (fits : lexeme.Fits style rest) :
    stripFrom style .code (lexeme.spelling style ++ rest) = lexeme.image ++ stripFrom style .code rest := by
  cases lexeme with
  | code c => exact stripFrom_code fits
  | line body =>
    obtain ⟨inner,ends⟩ := fits
    have scanned : stripFrom style .line (body ++ rest) = stripFrom style .code rest :=
      stripFrom_line inner ends
    cases style <;> simpa [Lexeme.spelling,Lexeme.image,lineMark] using scanned
  | block body =>
    obtain ⟨rfl,through⟩ := fits
    have scanned : stripFrom .slash .block (body ++ rest) =
        List.replicate (body.count '\n') '\n' ++ stripFrom .slash .code rest := stripFrom_block through
    simpa [Lexeme.spelling,Lexeme.image,blockMark] using scanned
  | literal quote body =>
    obtain ⟨quoted,through⟩ := fits
    have scanned : stripFrom style (.literal quote) (body ++ rest) = body ++ stripFrom style .code rest :=
      stripFrom_literal quoted through
    rw [Lexeme.spelling,Lexeme.image,List.cons_append,List.cons_append,← scanned]
    rcases quoted with rfl | rfl <;> cases style <;> simp

theorem strip_cons (fits : lexeme.Fits style rest) :
    strip style (lexeme.spelling style ++ rest) = lexeme.image ++ strip style rest := strip_lexeme fits

theorem strip_eq_image (found : Decomposes style text lexemes) :
    strip style text = lexemes.flatMap Lexeme.image := by
  induction found with
  | nil => simp [strip]
  | cons fits tail ih => rw [strip_cons fits,ih,List.flatMap_cons]

-- The star that opens a comment is no part of its end.
example : strip .slash "a/*/b\n*/c".toList = "a \nc".toList := by decide

theorem strip_slash_exact (source : Text) :
    ∃ lexemes, Decomposes .slash source lexemes ∧
      (∀ others, Decomposes .slash source others → others = lexemes) ∧
      strip .slash source = lexemes.flatMap Lexeme.image := by
  obtain ⟨lexemes,found⟩ := exists_decomposition .slash source
  exact ⟨lexemes,found,fun others again => again.unique found,strip_eq_image found⟩

end Marking.Comment
