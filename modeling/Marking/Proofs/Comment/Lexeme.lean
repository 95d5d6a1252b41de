import Marking.Comment
import Mathlib.Data.List.TakeWhile

-- The lexical grammar of a source text, beside the scan that strips it: a text falls into
-- single characters of code, comments and literals. Every text does so in exactly one way.

namespace Marking.Comment

-- A block comment and a literal hold their own end, a line comment leaves the line end to
-- the code after it.
inductive Lexeme where
  | code (c : Char)
  | line (body : Text)
  | block (body : Text)
  | literal (quote : Char) (body : Text)
  deriving DecidableEq,Repr

def lineMark : Style → Text
  | .slash => ['/','/']
  | .hash => ['#']

def blockMark : Text := ['/','*']

def blockEnd : Text := ['*','/']

def IsQuote (c : Char) : Prop := c = '"' ∨ c = '\''

instance : DecidablePred IsQuote := fun c => inferInstanceAs (Decidable (c = '"' ∨ c = '\''))

def Lexeme.spelling (style : Style) : Lexeme → Text
  | .code c => [c]
  | .line body => lineMark style ++ body
  | .block body => blockMark ++ body
  | .literal quote body => quote :: body

def Lexeme.image : Lexeme → Text
  | .code c => [c]
  | .line _ => []
  | .block body => ' ' :: List.replicate (body.count '\n') '\n'
  | .literal quote body => quote :: body

-- Whether the character after `inside` is escaped: one unescaped backslash before it does so.
def escapes (inside : Text) : Bool := inside.foldl (fun escaped c => !escaped && c == '\\') false

-- A literal ends with its own quote or with a line end, when neither is escaped.
def Closes (quote : Char) (body : Text) : Prop :=
  ∃ inside last, body = inside ++ [last] ∧ (last = quote ∨ last = '\n') ∧ escapes inside = false

-- `body` goes through the first place where `stop` holds of what was read, or to the end of
-- the text if there is no such place.
def Through (stop : Text → Prop) (body rest : Text) : Prop :=
  (∀ front back, body = front ++ back → back ≠ [] → ¬ stop front) ∧ (stop body ∨ rest = [])

def Lexeme.Fits (style : Style) : Lexeme → Text → Prop
  | .code c,rest =>
    ¬ IsQuote c ∧ ¬ lineMark style <+: c :: rest ∧ ¬ (style = .slash ∧ blockMark <+: c :: rest)
  | .line body,rest => '\n' ∉ body ∧ (rest = [] ∨ ['\n'] <+: rest)
  | .block body,rest => style = .slash ∧ Through (blockEnd <:+ ·) body rest
  | .literal quote body,rest => IsQuote quote ∧ Through (Closes quote) body rest

inductive Decomposes (style : Style) : Text → List Lexeme → Prop where
  | nil : Decomposes style [] []
  | cons {lexeme : Lexeme} {rest : Text} {lexemes : List Lexeme} (fits : lexeme.Fits style rest)
      (tail : Decomposes style rest lexemes) :
      Decomposes style (lexeme.spelling style ++ rest) (lexeme :: lexemes)

variable {style : Style} {stop : Text → Prop} {one two lexeme : Lexeme}
  {body other rest others text : Text} {lexemes : List Lexeme}

theorem exists_through (stop : Text → Prop) (text : Text) :
    ∃ body rest, text = body ++ rest ∧ Through stop body rest := by
  induction text generalizing stop with
  | nil => exact ⟨[],[],rfl,by simp,.inr rfl⟩
  | cons c text ih =>
    by_cases atOnce : stop []
    · refine ⟨[],c :: text,rfl,?_,.inl atOnce⟩
      intro front back split nonempty
      have empty := List.append_eq_nil_iff.mp split.symm
      exact absurd empty.2 nonempty
    · obtain ⟨body,rest,split,earlier,last⟩ := ih (fun front => stop (c :: front))
      refine ⟨c :: body,rest,by rw [split,List.cons_append],?_,last⟩
      intro front back same nonempty
      cases front with
      | nil => exact atOnce
      | cons d front =>
        obtain ⟨rfl,tail⟩ := List.cons.inj same
        exact earlier front back tail nonempty

theorem Through.of_prefix (one : Through stop body rest) (two : Through stop other others)
    (same : body ++ rest = other ++ others) (initial : body <+: other) : body = other := by
  obtain ⟨more,split⟩ := initial
  by_cases extra : more = []
  · simpa [extra] using split
  · -- A longer second stretch passes the end of the first, so that one ended with the text.
    have ended : rest = [] := one.2.resolve_left (two.1 body more split.symm extra)
    rw [ended,List.append_nil,← split,List.append_assoc] at same
    have empty := List.append_eq_nil_iff.mp (List.self_eq_append_right.mp same)
    exact absurd empty.1 extra

theorem Through.unique (one : Through stop body rest) (two : Through stop other others)
    (same : body ++ rest = other ++ others) : body = other := by
  have first : body <+: body ++ rest := List.prefix_append body rest
  have second : other <+: body ++ rest := same ▸ List.prefix_append other others
  rcases List.prefix_or_prefix_of_prefix first second with shorter | longer
  · exact one.of_prefix two same shorter
  · exact (two.of_prefix one same.symm longer).symm

theorem takeWhile_line (fits : (Lexeme.line body).Fits style rest) :
    (body ++ rest).takeWhile (· != '\n') = body := by
  obtain ⟨inner,ends⟩ := fits
  have kept : ∀ c ∈ body, (c != '\n') = true := by
    intro c member
    have different : c ≠ '\n' := fun same => inner (same ▸ member)
    simpa using different
  rw [List.takeWhile_append_of_pos kept]
  rcases ends with rfl | ⟨after,rfl⟩ <;> simp

inductive Kind where
  | code
  | line
  | block
  | literal
  deriving DecidableEq,Repr

def Lexeme.kind : Lexeme → Kind
  | .code _ => .code
  | .line _ => .line
  | .block _ => .block
  | .literal .. => .literal

def kindAt (style : Style) (text : Text) : Kind :=
  if lineMark style <+: text then .line
  else if style = .slash ∧ blockMark <+: text then .block
  else if text.head?.any (fun c => decide (IsQuote c)) then .literal
  else .code

theorem kindAt_spelling (fits : lexeme.Fits style rest) :
    kindAt style (lexeme.spelling style ++ rest) = lexeme.kind := by
  cases lexeme with
  | code c =>
    obtain ⟨plain,noLine,noBlock⟩ := fits
    simp [kindAt,Lexeme.spelling,Lexeme.kind,plain,noLine,noBlock]
  | line body => simp [kindAt,Lexeme.spelling,Lexeme.kind]
  | block body =>
    obtain ⟨rfl,_⟩ := fits
    simp [kindAt,Lexeme.spelling,Lexeme.kind,lineMark,blockMark]
  | literal quote body =>
    obtain ⟨rfl | rfl,_⟩ := fits <;> cases style <;>
      simp [kindAt,Lexeme.spelling,Lexeme.kind,lineMark,blockMark,IsQuote]

theorem Lexeme.fits_unique (first : one.Fits style rest) (second : two.Fits style others)
    (same : one.spelling style ++ rest = two.spelling style ++ others) : one = two ∧ rest = others := by
  have kinds : one.kind = two.kind := by
    rw [← kindAt_spelling first,same,kindAt_spelling second]
  have equal : one = two := by
    cases one <;> cases two <;> try cases kinds
    case code.code c d => simpa [spelling] using (List.cons.inj same).1
    case line.line body other =>
      have texts : body ++ rest = other ++ others := by simpa [spelling] using same
      rw [← takeWhile_line first,← takeWhile_line second,texts]
    case block.block body other =>
      have texts : body ++ rest = other ++ others := by simpa [spelling] using same
      rw [first.2.unique second.2 texts]
    case literal.literal quote body mark other =>
      obtain ⟨rfl,texts⟩ := List.cons.inj same
      rw [first.2.unique second.2 texts]
  subst equal
  exact ⟨rfl,List.append_cancel_left same⟩

theorem exists_lexeme (style : Style) (text : Text) (nonempty : text ≠ []) :
    ∃ lexeme rest, text = Lexeme.spelling style lexeme ++ rest ∧ lexeme.Fits style rest := by
  by_cases opensLine : lineMark style <+: text
  · obtain ⟨after,rfl⟩ := opensLine
    refine ⟨.line (after.takeWhile (· != '\n')),after.dropWhile (· != '\n'),?_,?_,?_⟩
    · simp [Lexeme.spelling,List.takeWhile_append_dropWhile]
    · intro member
      simpa using List.mem_takeWhile_imp member
    · cases left : after.dropWhile (· != '\n') with
      | nil => exact .inl rfl
      | cons c rest =>
        have stopped := List.head?_dropWhile_not (· != '\n') after
        right
        simp_all
  · by_cases opensBlock : style = .slash ∧ blockMark <+: text
    · obtain ⟨slash,after,rfl⟩ := opensBlock
      obtain ⟨body,rest,rfl,through⟩ := exists_through (blockEnd <:+ ·) after
      exact ⟨.block body,rest,by simp [Lexeme.spelling],slash,through⟩
    · cases text with
      | nil => exact absurd rfl nonempty
      | cons c after =>
        by_cases quoted : IsQuote c
        · obtain ⟨body,rest,rfl,through⟩ := exists_through (Closes c) after
          exact ⟨.literal c body,rest,rfl,quoted,through⟩
        · exact ⟨.code c,after,rfl,quoted,opensLine,opensBlock⟩

theorem spelling_ne_nil : lexeme.spelling style ≠ [] := by
  cases lexeme <;> cases style <;> simp [Lexeme.spelling,lineMark,blockMark]

theorem exists_decomposition (style : Style) (text : Text) : ∃ lexemes, Decomposes style text lexemes := by
  induction size : text.length using Nat.strongRecOn generalizing text with
  | ind bound ih =>
    by_cases empty : text = []
    · subst empty
      exact ⟨[],.nil⟩
    · obtain ⟨lexeme,rest,rfl,fits⟩ := exists_lexeme style text empty
      have positive : 0 < (lexeme.spelling style).length := List.length_pos_iff.mpr spelling_ne_nil
      have smaller : rest.length < bound := by rw [← size,List.length_append]; omega
      obtain ⟨lexemes,tail⟩ := ih rest.length smaller rest rfl
      exact ⟨lexeme :: lexemes,.cons fits tail⟩

theorem Decomposes.unique {one two : List Lexeme} (first : Decomposes style text one)
    (second : Decomposes style text two) : one = two := by
  induction first generalizing two with
  | nil =>
    generalize empty : ([] : Text) = source at second
    cases second with
    | nil => rfl
    | cons fits _ => exact absurd (List.append_eq_nil_iff.mp empty.symm).1 spelling_ne_nil
  | @cons lexeme rest lexemes fits tail ih =>
    generalize same : lexeme.spelling style ++ rest = source at second
    cases second with
    | nil => exact absurd (List.append_eq_nil_iff.mp same).1 spelling_ne_nil
    | cons others more =>
      obtain ⟨rfl,rfl⟩ := Lexeme.fits_unique fits others same
      rw [ih more]

end Marking.Comment
