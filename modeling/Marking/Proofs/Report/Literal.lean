import Marking.Report
import Mathlib.Data.List.Basic

-- A report line inside a double-quoted literal of generated code, read back by the rules that
-- such literals share.

namespace Marking

namespace Text

def replaced (mark : Char) (replacement text : Text) : Text :=
  text.flatMap fun c => if c = mark then replacement else [c]

end Text

namespace Literal

def escaped? : Char → Option Char
  | 'n' => some '\n'
  | '\\' => some '\\'
  | '"' => some '"'
  | _ => none

-- What may stand between the quotes of a literal, and what it denotes.
inductive Spells : Text → Text → Prop where
  | nil : Spells [] []
  | plain {c : Char} {body content : Text} (quote : c ≠ '"') (slash : c ≠ '\\') (more : Spells body content) :
      Spells (c :: body) (c :: content)
  | escape {c d : Char} {body content : Text} (given : escaped? c = some d) (more : Spells body content) :
      Spells ('\\' :: c :: body) (d :: content)

-- Reads a literal behind its opening quote, and gives its content and what stands behind its
-- closing quote.
def read? : Text → Option (Text × Text)
  | [] => none
  | '"' :: rest => some ([],rest)
  | '\\' :: c :: rest => do
    let d ← escaped? c
    let (content,behind) ← read? rest
    some (d :: content,behind)
  | c :: rest => if c = '\\' then none else (read? rest).map fun found => (c :: found.1,found.2)

variable {body content text rest behind more : Text} {c d : Char}

theorem Spells.append (first : Spells body content) (second : Spells rest more) :
    Spells (body ++ rest) (content ++ more) := by
  induction first with
  | nil => exact second
  | plain quote slash _ ih => exact .plain quote slash ih
  | escape given _ ih => exact .escape given ih

theorem read_plain (quote : c ≠ '"') (slash : c ≠ '\\') (rest : Text) :
    read? (c :: rest) = (read? rest).map fun found => (c :: found.1,found.2) := by
  rw [read?.eq_def]
  split <;> simp_all

theorem Spells.read (spelled : Spells body content) (behind : Text) :
    read? (body ++ '"' :: behind) = some (content,behind) := by
  induction spelled with
  | nil => rfl
  | plain quote slash _ ih =>
    rw [List.cons_append,read_plain quote slash,ih]
    rfl
  | escape given _ ih =>
    simp only [List.cons_append,read?,given,ih]
    rfl

theorem spells_of_read (read : read? text = some (content,behind)) :
    ∃ body, text = body ++ '"' :: behind ∧ Spells body content := by
  fun_induction read? text generalizing content with
  | case1 => cases read
  | case2 rest =>
    cases read
    exact ⟨[],rfl,.nil⟩
  | case3 c rest ih =>
    simp only [Option.bind_eq_bind,Option.bind_eq_some_iff] at read
    obtain ⟨d,given,⟨inner,after⟩,found,same⟩ := read
    cases same
    obtain ⟨body,split,spelled⟩ := ih found
    exact ⟨'\\' :: c :: body,by rw [split]; rfl,.escape given spelled⟩
  | case4 => cases read
  | case5 c rest quote _ slash ih =>
    obtain ⟨⟨inner,after⟩,found,same⟩ := Option.map_eq_some_iff.mp read
    cases same
    obtain ⟨body,split,spelled⟩ := ih found
    exact ⟨c :: body,by rw [split]; rfl,.plain quote slash spelled⟩

theorem read_iff : read? text = some (content,behind) ↔ ∃ body, text = body ++ '"' :: behind ∧ Spells body content := by
  refine ⟨spells_of_read,?_⟩
  intro spelled
  obtain ⟨body,split,spelled⟩ := spelled
  rw [split]
  exact spelled.read behind

theorem spells_escape (c : Char) : Spells (ReportLine.escape c) [c] := by
  unfold ReportLine.escape
  split
  · exact .escape rfl .nil
  · exact .escape rfl .nil
  · rename_i slash quote
    exact .plain quote slash .nil

theorem spells_escaped (text : Text) : Spells (text.flatMap ReportLine.escape) text := by
  induction text with
  | nil => exact .nil
  | cons c text ih => exact (spells_escape c).append ih

end Literal

namespace ReportLine

-- Backslashes first: the ones that are put before quotes stay single.
theorem literalBody_replaced (line : ReportLine) :
    line.literalBody = Text.replaced '"' ['\\','"'] (Text.replaced '\\' ['\\','\\'] line.written) := by
  unfold literalBody Text.replaced
  rw [List.flatMap_assoc]
  refine List.flatMap_congr fun c _ => ?_
  unfold escape
  split
  · rfl
  · rfl
  · rename_i slash quote
    have first : c ≠ '\\' := slash
    have second : c ≠ '"' := quote
    simp [first,second]

-- With an escaped line end and a closing quote behind it, the body of a line is read as the line and
-- a line end, whatever follows, and no other literal is found there.
theorem literal_body_exact (line : ReportLine) (rest : Text) :
    let source := line.literalBody ++ '\\' :: 'n' :: '"' :: rest
    line.literalBody = Text.replaced '"' ['\\','"'] (Text.replaced '\\' ['\\','\\'] line.written) ∧
    Literal.read? source = some (line.written ++ ['\n'],rest) ∧
    ∀ body content behind,
      source = body ++ '"' :: behind ∧ Literal.Spells body content ↔
        body = line.literalBody ++ ['\\','n'] ∧ content = line.written ++ ['\n'] ∧ behind = rest := by
  intro source
  have spelled : Literal.Spells (line.literalBody ++ ['\\','n']) (line.written ++ ['\n']) :=
    (Literal.spells_escaped line.written).append (.escape rfl .nil)
  have split : source = line.literalBody ++ ['\\','n'] ++ '"' :: rest := by simp [source]
  have read : Literal.read? source = some (line.written ++ ['\n'],rest) := by
    rw [split]
    exact spelled.read rest
  refine ⟨line.literalBody_replaced,read,?_⟩
  intro body content behind
  constructor
  · intro other
    obtain ⟨again,spelled⟩ := other
    have found := Literal.read_iff.mpr ⟨body,again,spelled⟩
    cases read.symm.trans found
    exact ⟨List.append_cancel_right (again.symm.trans split),rfl,rfl⟩
  · intro same
    obtain ⟨rfl,rfl,rfl⟩ := same
    exact ⟨split,spelled⟩

end ReportLine
end Marking
