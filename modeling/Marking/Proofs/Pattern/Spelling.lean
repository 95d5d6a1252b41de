import Marking.Proofs.Pattern.Assembly

-- How a plain text is spelled as a pattern, and how such a spelling is read.

namespace Marking.Pattern

-- Modes in which characters stand for themselves alone and none is skipped.
structure Modes.Literal (modes : Modes) : Prop where
  cased : modes.ignoreCase = false
  compact : modes.extended = false

-- Reading goes on from one place of a text to a later one, with enough fuel for the rest.
def Reads (reader : Reader) (text : Text) (next : Reader) (rest : Text) : Prop :=
  ∀ fuel, text.length < fuel → ∃ left, rest.length < left ∧ readAll fuel reader text = readAll left next rest

def charPart (c : Char) : Part := ⟨.one (.only c),0,true⟩

def textPart (text : Text) : Part := sequence (text.map charPart).reverse

def Reader.pushText (reader : Reader) (text : Text) : Reader :=
  {reader with level := {reader.level with parts := (text.map charPart).reverse ++ reader.level.parts}}

def Reader.pushParts (reader : Reader) (parts : List Part) : Reader :=
  {reader with level := {reader.level with parts := parts.reverse ++ reader.level.parts}}

variable {reader middle next : Reader} {modes : Modes} {text tail rest before taken after : Text} {c : Char}
  {names : List Text}

theorem Reads.refl : Reads reader text reader text := fun fuel enough => ⟨fuel,enough,rfl⟩

theorem Reads.trans (first : Reads reader text middle tail) (second : Reads middle tail next rest) :
    Reads reader text next rest := by
  intro fuel enough
  obtain ⟨left,enough,first⟩ := first fuel enough
  obtain ⟨remaining,enough,second⟩ := second left enough
  exact ⟨remaining,enough,first.trans second⟩

theorem Reads.step (compact : reader.modes.extended = false) (read : readNext? reader c tail = some (next,rest))
    (shorter : rest.length ≤ tail.length) : Reads reader (c :: tail) next rest := by
  intro fuel enough
  cases fuel with
  | zero => cases enough
  | succ fuel =>
    refine ⟨fuel,?_,?_⟩
    · simp only [List.length_cons] at enough
      omega
    · simp [readAll,Modes.skip,compact,read]

theorem Reads.finish (reads : Reads (.start modes) text next []) (compact : next.modes.extended = false)
    (closed : next.outer = []) (shallow : next.level.close.depth ≤ deepestNesting) :
    read? modes text = if next.level.close.pattern.fits then some next.level.close.pattern else none := by
  have read : readAll (text.length + 1) (.start modes) text = some next := by
    obtain ⟨left,enough,same⟩ := reads _ (Nat.lt_succ_self _)
    rw [same]
    cases left with
    | zero => cases enough
    | succ left => simp [readAll,Modes.skip,compact]
  simp [read?,read,closed,shallow]

theorem readNext_plain (plain : Escape.isMeta c = false) : readNext? reader c rest = some (reader.pushChar c,rest) := by
  unfold readNext?
  split
  all_goals first | rfl | exact absurd plain (by decide)

theorem readNext_escaped (special : Escape.isMeta c = true) :
    readNext? reader '\\' (c :: rest) = some (reader.pushChar c,rest) := by
  have read : Escape.read? reader.modes (c :: rest) = some (.char c false,rest) := by
    simp only [Escape.read?]
    split
    all_goals first | exact absurd special (by decide) | simp [special]
  simp [readNext?,read]

theorem reads_char (literal : reader.modes.Literal) :
    Reads reader (escaped [c] ++ rest) (reader.pushText [c]) rest := by
  have pushed : reader.pushChar c = reader.pushText [c] := by
    simp [Reader.pushChar,Reader.pushPattern,Reader.push,Reader.pushText,Modes.cased,literal.cased,charPart]
  cases special : Escape.isMeta c with
  | true =>
    have spelled : escaped [c] ++ rest = '\\' :: c :: rest := by simp [escaped,special]
    rw [spelled,← pushed]
    exact .step literal.compact (readNext_escaped special) (by simp)
  | false =>
    have spelled : escaped [c] ++ rest = c :: rest := by simp [escaped,special]
    rw [spelled,← pushed]
    exact .step literal.compact (readNext_plain special) (Nat.le_refl _)

theorem reads_escaped (literal : reader.modes.Literal) :
    Reads reader (escaped text ++ rest) (reader.pushText text) rest := by
  induction text generalizing reader with
  | nil => exact .refl
  | cons c text ih =>
    have spelled : escaped (c :: text) ++ rest = escaped [c] ++ (escaped text ++ rest) := by simp [escaped]
    have pushed : reader.pushText (c :: text) = (reader.pushText [c]).pushText text := by simp [Reader.pushText]
    rw [spelled,pushed]
    exact (reads_char literal).trans (ih literal)

theorem escaped_plain (plain : ∀ c ∈ text, Escape.isMeta c = false) : escaped text = text := by
  induction text with
  | nil => rfl
  | cons c text ih =>
    obtain ⟨first,later⟩ := List.forall_mem_cons.mp plain
    rw [escaped] at ih ⊢
    simp [first,ih later]

theorem reads_alternation (literal : reader.modes.Literal) (fresh : reader.level.parts = []) (named : names ≠ []) :
    ∃ parts branches,
      Reads reader (alternation names ++ rest) {reader with level := {reader.level with parts,branches}} rest ∧
        sequence parts :: branches = (names.map textPart).reverse ++ reader.level.branches := by
  induction names generalizing reader with
  | nil => contradiction
  | cons name others ih =>
    cases others with
    | nil =>
      refine ⟨(name.map charPart).reverse,reader.level.branches,?_,rfl⟩
      simpa [alternation,Reader.pushText,fresh] using reads_escaped literal
    | cons next others =>
      have opened : alternation (name :: next :: others) ++ rest =
          escaped name ++ ('|' :: (alternation (next :: others) ++ rest)) := by simp [alternation]
      have later : (reader.pushText name).branch.modes.Literal := literal
      obtain ⟨parts,branches,reads,same⟩ := ih later rfl (by simp)
      refine ⟨parts,branches,?_,?_⟩
      · rw [opened]
        exact (reads_escaped literal).trans (.trans (.step literal.compact rfl (Nat.le_refl _)) reads)
      · rw [same]
        simp [Reader.branch,Reader.pushText,fresh,textPart]

theorem takes_charPart : Takes (charPart c).pattern before taken after ↔ taken = [c] := by
  simp [charPart,Takes,CharSet.has_only]

theorem inOrder_chars : inOrder ((text.map charPart).map (·.pattern)) before taken after ↔ taken = text := by
  induction text generalizing before taken with
  | nil => rfl
  | cons c text ih =>
    constructor
    · rintro ⟨front,back,rfl,here,later⟩
      rw [takes_charPart.mp here,ih.mp later]
      rfl
    · rintro rfl
      exact ⟨[c],text,rfl,takes_charPart.mpr rfl,ih.mpr rfl⟩

theorem takes_textPart : Takes (textPart text).pattern before taken after ↔ taken = text := by
  unfold textPart
  rw [takes_sequence,List.reverse_reverse]
  exact inOrder_chars

theorem textPart_ascending {set : CharSet} (single : (textPart text).pattern = .one set) :
    CharSet.Ascending set.spans := by
  have here : Takes (textPart text).pattern [] text [] := takes_textPart.mpr rfl
  rw [single] at here
  obtain ⟨c,rfl,_⟩ := here
  cases single
  exact CharSet.only_ascending

theorem textPart_depth_le : (textPart text).depth ≤ 1 := by
  refine sequence_depth_le ?_
  simp [charPart]

end Marking.Pattern
