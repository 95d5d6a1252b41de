import Marking.Proofs.Comment.Restripping

-- Literals between three quotes in the hash style. The scan knows one quote at a time: it takes the
-- opening for an empty literal and the begin of another, which ends with the line at the latest.
-- So a literal of one line is kept, and behind one of several lines the closing quotes open again.

namespace Marking.Comment

structure TripleQuoted where
  before : Text
  quote : Char
  body : Text
  comment : Text
  rest : Text
  code : ∀ c ∈ before, ¬ IsQuote c ∧ c ≠ '#'
  quoted : IsQuote quote
  plain : ∀ c ∈ body, ¬ IsQuote c ∧ c ≠ '\\'
  inner : '\n' ∉ comment
  ends : rest = [] ∨ ['\n'] <+: rest

namespace TripleQuoted

def literal (found : TripleQuoted) : Text :=
  [found.quote,found.quote,found.quote] ++ found.body ++ [found.quote,found.quote,found.quote]

def source (found : TripleQuoted) : Text :=
  found.before ++ (found.literal ++ ' ' :: '#' :: (found.comment ++ found.rest))

def Kept (found : TripleQuoted) : Prop :=
  strip .hash found.source = found.before ++ (found.literal ++ ' ' :: strip .hash found.rest)

end TripleQuoted

variable {style : Style} {front inside text rest comment : Text} {quote last : Char}

theorem strip_plain (plain : ∀ c ∈ front, ¬ IsQuote c ∧ c ≠ '#') (text : Text) :
    strip .hash (front ++ text) = front ++ strip .hash text := by
  induction front with
  | nil => rfl
  | cons c front ih =>
    obtain ⟨⟨unquoted,unmarked⟩,others⟩ := List.forall_mem_cons.mp plain
    have fits : (Lexeme.code c).Fits .hash (front ++ text) :=
      ⟨unquoted,by simpa [lineMark] using Ne.symm unmarked,by simp⟩
    have first := stripFrom_code fits
    rw [List.cons_append,strip,first]
    exact congrArg (c :: ·) (ih others)

theorem escapes_free (plain : ∀ c ∈ inside, c ≠ '\\') : escapes inside = false := by
  induction inside with
  | nil => rfl
  | cons c inside ih =>
    obtain ⟨first,others⟩ := List.forall_mem_cons.mp plain
    rw [escapes_plain first]
    exact ih others

theorem strip_quoted (quoted : IsQuote quote) (plain : ∀ c ∈ inside, c ≠ quote ∧ c ≠ '\n' ∧ c ≠ '\\')
    (ends : last = quote ∨ last = '\n') (rest : Text) :
    strip style (quote :: (inside ++ last :: rest)) = quote :: (inside ++ last :: strip style rest) := by
  have closes : Closes quote (inside ++ [last]) :=
    closes_concat.mpr ⟨ends,escapes_free fun c member => (plain c member).2.2⟩
  have early : ∀ front back, inside ++ [last] = front ++ back → back ≠ [] → ¬ Closes quote front := by
    rintro front back split nonempty ⟨taken,c,rfl,either,_⟩
    have shorter : taken ++ [c] <+: inside := by
      rcases List.prefix_concat_iff.mp ⟨back,split.symm⟩ with whole | shorter
      · rw [whole] at split
        exact absurd (List.self_eq_append_right.mp split) nonempty
      · exact shorter
    have member : c ∈ inside := shorter.subset (by simp)
    rcases either with same | lineEnd
    · exact (plain c member).1 same
    · exact (plain c member).2.1 lineEnd
  have fits : (Lexeme.literal quote (inside ++ [last])).Fits style rest := ⟨quoted,early,.inl closes⟩
  simpa [Lexeme.spelling,Lexeme.image] using strip_cons fits

theorem strip_empty_literal (quoted : IsQuote quote) (rest : Text) :
    strip style (quote :: quote :: rest) = quote :: quote :: strip style rest :=
  strip_quoted quoted (List.forall_mem_nil _) (.inl rfl) rest

theorem strip_comment (inner : '\n' ∉ comment) (ends : rest = [] ∨ ['\n'] <+: rest) :
    strip .hash (' ' :: '#' :: (comment ++ rest)) = ' ' :: strip .hash rest := by
  have blank : strip .hash (' ' :: '#' :: (comment ++ rest)) = ' ' :: strip .hash ('#' :: (comment ++ rest)) :=
    stripFrom_code (blank_fits (.inl rfl))
  have fits : (Lexeme.line comment).Fits .hash rest := ⟨inner,ends⟩
  rw [blank]
  exact congrArg (' ' :: ·) (strip_cons fits)

theorem not_hash_of_ends (ends : rest = [] ∨ ['\n'] <+: rest) : strip .hash rest ≠ '#' :: text := by
  intro same
  rcases ends with rfl | ⟨after,rfl⟩
  · cases same
  · have first : strip .hash ('\n' :: after) = '\n' :: strip .hash after := stripFrom_code (blank_fits (.inr rfl))
    rw [List.singleton_append,first] at same
    exact absurd (List.cons.inj same).1 (by decide)

namespace TripleQuoted

variable {found : TripleQuoted}

theorem plain_quote (found : TripleQuoted) : ∀ c ∈ found.body, c ≠ found.quote := by
  rintro c member rfl
  exact (found.plain _ member).1 found.quoted

theorem kept_of_line (line : '\n' ∉ found.body) : found.Kept := by
  have inside : ∀ c ∈ found.body, c ≠ found.quote ∧ c ≠ '\n' ∧ c ≠ '\\' := by
    intro c member
    exact ⟨found.plain_quote c member,fun same => line (same ▸ member),(found.plain c member).2⟩
  unfold Kept source
  rw [strip_plain found.code]
  simp only [literal,List.cons_append,List.nil_append,List.append_assoc]
  rw [strip_empty_literal found.quoted,strip_quoted found.quoted inside (.inl rfl),strip_empty_literal found.quoted,
    strip_comment found.inner found.ends]

-- Once the first line of the body has ended the literal, the rest of the body is read as code. A hash
-- sign in it opens a comment, and without one the closing quotes end in an open literal that keeps the
-- comment behind them.
theorem not_kept_code {later : Text} (plain : ∀ c ∈ later, ¬ IsQuote c ∧ c ≠ '\\') (found : TripleQuoted) :
    strip .hash (later ++ found.quote :: found.quote :: found.quote :: ' ' :: '#' :: (found.comment ++ found.rest)) ≠
      later ++ found.quote :: found.quote :: found.quote :: ' ' :: strip .hash found.rest := by
  intro same
  by_cases marked : '#' ∈ later
  · obtain ⟨code,more,rfl,free⟩ := List.eq_append_cons_of_mem marked
    have unmarked : ∀ c ∈ code, ¬ IsQuote c ∧ c ≠ '#' := by
      intro c member
      exact ⟨(plain c (by simp [member])).1,fun hash => free (hash ▸ member)⟩
    rw [List.append_assoc,strip_plain unmarked,List.append_assoc] at same
    have opened := List.append_cancel_left same
    rw [List.cons_append,List.cons_append,strip,stripFrom] at opened
    have head : '#' ∈ (stripFrom .hash .line (more ++ found.quote :: found.quote :: found.quote :: ' ' :: '#' ::
        (found.comment ++ found.rest))).head? := by rw [opened]; rfl
    exact absurd (stripFrom_line_head head) (by decide)
  · have unmarked : ∀ c ∈ later, ¬ IsQuote c ∧ c ≠ '#' := by
      intro c member
      exact ⟨(plain c member).1,fun hash => marked (hash ▸ member)⟩
    rw [strip_plain unmarked,strip_empty_literal found.quoted] at same
    have opened := (List.cons.inj (List.cons.inj (List.append_cancel_left same)).2).2
    have blank : strip .hash (found.quote :: ' ' :: '#' :: (found.comment ++ found.rest)) = found.quote :: ' ' :: '#' ::
        stripFrom .hash (.literal found.quote) (found.comment ++ found.rest) := by
      rcases found.quoted with quote | quote <;> rw [quote] <;> rfl
    rw [blank] at opened
    exact not_hash_of_ends found.ends (List.cons.inj (List.cons.inj opened).2).2.symm

theorem tripleQuoted_kept_iff (found : TripleQuoted) : found.Kept ↔ '\n' ∉ found.body := by
  refine ⟨?_,kept_of_line⟩
  intro kept lineEnd
  obtain ⟨first,later,split,line⟩ := List.eq_append_cons_of_mem lineEnd
  have inside : ∀ c ∈ first, c ≠ found.quote ∧ c ≠ '\n' ∧ c ≠ '\\' := by
    intro c member
    have inBody : c ∈ found.body := by rw [split]; exact List.mem_append_left _ member
    exact ⟨found.plain_quote c inBody,fun same => line (same ▸ member),(found.plain c inBody).2⟩
  have behind : ∀ c ∈ later, ¬ IsQuote c ∧ c ≠ '\\' := by
    intro c member
    exact found.plain c (by rw [split]; simp [member])
  unfold Kept source at kept
  rw [strip_plain found.code] at kept
  simp only [literal,split,List.cons_append,List.nil_append,List.append_assoc] at kept
  rw [strip_empty_literal found.quoted,strip_quoted found.quoted inside (.inr rfl)] at kept
  simp only [List.append_cancel_left_eq,List.cons.injEq,true_and] at kept
  exact not_kept_code behind found kept

def twoLines : TripleQuoted where
  before := []
  quote := '"'
  body := ['a','\n','b']
  comment := [' ','c']
  rest := []
  code := List.forall_mem_nil _
  quoted := .inl rfl
  plain := by simp [IsQuote]
  inner := by decide
  ends := .inl rfl

theorem comment_behind_lines_stays :
    ¬ twoLines.Kept ∧ twoLines.source = "\"\"\"a\nb\"\"\" # c".toList ∧
      strip .hash twoLines.source = "\"\"\"a\nb\"\"\" # c".toList := by
  unfold Kept
  decide

end TripleQuoted

end Marking.Comment
