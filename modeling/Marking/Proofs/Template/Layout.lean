import Marking.Proofs.Template.Phrase

-- Templates laid out as plain text, placeholders and optional text: how they are read, and that
-- they render to their parts put together.

namespace Marking.Template

-- Text in which no tag opens, not even together with what follows.
def Unopened (text : Text) : Prop := (cutAtOpening text).2 = none ∧ text.getLast? ≠ some '\x7b'

instance (text : Text) : Decidable (Unopened text) :=
  inferInstanceAs (Decidable ((cutAtOpening text).2 = none ∧ text.getLast? ≠ some '\x7b'))

inductive Part where
  | fixed (text : Text)
  | output (phrase : Phrase)
  | optional (condition : Phrase) (text : Text)
  deriving DecidableEq,Repr

namespace Part

def tagged (words : List Word) : Text := '\x7b' :: '%' :: (Word.spaced words ++ ['%','\x7d'])

def source : Part → Text
  | fixed text => text
  | output phrase => '\x7b' :: '\x7b' :: (Word.spaced phrase.words ++ ['\x7d','\x7d'])
  | optional condition text =>
    tagged (.name ['i','f'] :: condition.words) ++ text ++ tagged [.name ['e','n','d','i','f']]

def Valid : Part → Prop
  | fixed text => Unopened text
  | output phrase => phrase.Valid
  | optional condition text => condition.Valid ∧ Unopened text

instance : (part : Part) → Decidable part.Valid
  | fixed text => inferInstanceAs (Decidable (Unopened text))
  | output phrase => inferInstanceAs (Decidable phrase.Valid)
  | optional condition text => inferInstanceAs (Decidable (condition.Valid ∧ Unopened text))

def filling? (bindings : Bindings) : Part → Option Text
  | fixed text => some text
  | output phrase => do (← phrase.meaning.value? bindings).written?
  | optional condition text => do
    let truth ← (← condition.meaning.value? bindings).truth?
    some (if truth then text else [])

@[simp] theorem fixed_filling (text : Text) (bindings : Bindings) :
    (fixed text).filling? bindings = some text := rfl

end Part

def source (parts : List Part) : Text := parts.flatMap Part.source

def filled? (bindings : Bindings) : List Part → Option Text
  | [] => some []
  | part :: rest => do
    let text ← part.filling? bindings
    let more ← filled? bindings rest
    some (text ++ more)

-- The segments and the template of a layout, with plain text before it.
def segmentsOf (data : Text) : List Part → List Segment
  | [] => [.data data]
  | .fixed text :: rest => segmentsOf (data ++ text) rest
  | .output phrase :: rest => .data data :: .output (phrase.words.map Word.token) :: segmentsOf [] rest
  | .optional condition text :: rest =>
    .data data :: .tag (.name ['i','f'] :: condition.words.map Word.token) :: .data text ::
      .tag [.name ['e','n','d','i','f']] :: segmentsOf [] rest

def templateOf (data : Text) : List Part → Template
  | [] => .data data .done
  | .fixed text :: rest => templateOf (data ++ text) rest
  | .output phrase :: rest => .data data (.output phrase.meaning (templateOf [] rest))
  | .optional condition text :: rest =>
    .data data (.branch condition.meaning (.data text .done) .done (templateOf [] rest))

-- A text is cut into the segments of parts, whatever plain text stands before it. Each tag is one round, so
-- that there are enough of them.
def CutInto (text : Text) (parts : List Part) : Prop :=
  ∀ data fuel, Unopened data → text.length < fuel → segments? fuel false (data ++ text) = some (segmentsOf data parts)

variable {data text rest close : Text} {words : List Word} {parts : List Part} {part : Part} {fuel room : Nat}
  {bindings : Bindings}

theorem cutAtOpening_append (unopened : Unopened text) (rest : Text) :
    cutAtOpening (text ++ rest) = (text ++ (cutAtOpening rest).1,(cutAtOpening rest).2) := by
  induction text with
  | nil => rfl
  | cons c text ih =>
    obtain ⟨closed,last⟩ := unopened
    cases text with
    | nil =>
      have brace : c ≠ '\x7b' := by simpa using last
      cases rest with
      | nil => rfl
      | cons d rest => simp [cutAtOpening,brace]
    | cons d text =>
      simp only [List.cons_append] at ih ⊢
      rw [cutAtOpening] at closed ⊢
      split at closed
      · cases closed
      · have later : Unopened (d :: text) := ⟨closed,by simpa using last⟩
        simp [ih later]

theorem Unopened.append (one : Unopened data) (two : Unopened text) : Unopened (data ++ text) := by
  refine ⟨by rw [cutAtOpening_append one]; exact two.1,?_⟩
  cases text with
  | nil => simpa using one.2
  | cons c text => simpa using two.2

theorem cutAtOpening_unopened (unopened : Unopened text) : cutAtOpening text = (text,none) := by
  have whole := cutAtOpening_append unopened []
  simpa [cutAtOpening] using whole

@[simp] theorem dropSign_spaced (words : List Word) (rest : Text) :
    dropSign (Word.spaced words ++ rest) = (false,Word.spaced words ++ rest) := by
  obtain ⟨tail,blank⟩ := Word.spaced_blank words
  rw [blank]
  rfl

theorem length_le_spaced (words : List Word) : words.length < (Word.spaced words).length := by
  induction words with
  | nil => simp [Word.spaced]
  | cons word words ih =>
    simp only [Word.spaced,List.flatMap_cons,List.length_append,List.length_cons] at ih ⊢
    omega

theorem segments_data (unopened : Unopened data) : segments? (fuel + 1) false data = some [.data data] := by
  simp [segments?,trimmedStart,cutAtOpening_unopened unopened]

theorem readTokens_tag (plain : ∀ word ∈ words, word.Plain) (ends : close ∈ closings) (rest : Text) :
    readTokens? close ((Word.spaced words ++ (close ++ rest)).length + 1) (Word.spaced words ++ (close ++ rest)) =
      some (words.map Word.token,false,rest) := by
  refine readTokens_spaced plain ends rest ?_
  have shorter := length_le_spaced words
  simp only [List.length_append]
  omega

theorem segments_opened {inside : Text} {tokens : List Token} (unopened : Unopened data)
    (unsigned : dropSign inside = (false,inside))
    (read : readTokens? ['\x7d','\x7d'] (inside.length + 1) inside = some (tokens,false,rest)) (fuel : Nat) :
    segments? (fuel + 1) false (data ++ ('\x7b' :: '\x7b' :: inside)) =
      (segments? fuel false rest).map fun others => .data data :: .output tokens :: others := by
  have cut : cutAtOpening (data ++ ('\x7b' :: '\x7b' :: inside)) = (data,some (.output,inside)) := by
    simp [cutAtOpening_append unopened,cutAtOpening,opening?]
  simp only [segments?,trimmedStart,trimmedEnd,Bool.false_eq_true,if_false,cut,unsigned]
  rw [show "\x7d\x7d".toList = ['\x7d','\x7d'] from rfl,read]
  cases others : segments? fuel false rest <;> simp [others]

-- A tag whose first word is none that opens raw text.
theorem wordTag_spaced {c : Char} {tail : Text} (plain : (Word.name (c :: tail)).Plain) (other : c ≠ 'r')
    (rest : Text) : wordTag? "raw".toList (Word.spaced (.name (c :: tail) :: words) ++ rest) = none := by
  obtain ⟨d,more,spelled,solid,_⟩ := plain.begins
  obtain ⟨rfl,rfl⟩ : c = d ∧ tail = more := by simpa [Word.spelling] using spelled
  have space : isTagSpace ' ' = true := by decide
  simp [wordTag?,Word.spaced,Word.spelling,space,solid,Text.after?,Ne.symm other]

theorem segments_tag {c : Char} {tail : Text} (unopened : Unopened data)
    (plain : ∀ word ∈ .name (c :: tail) :: words, word.Plain) (other : c ≠ 'r') (rest : Text) (fuel : Nat) :
    segments? (fuel + 1) false (data ++ (Part.tagged (.name (c :: tail) :: words) ++ rest)) =
      (segments? fuel false rest).map fun others =>
        .data data :: .tag (.name (c :: tail) :: words.map Word.token) :: others := by
  have first := plain _ (List.mem_cons_self ..)
  have percent : ['%','\x7d'] ∈ closings := by decide
  have read := readTokens_tag plain percent rest
  have raw := @wordTag_spaced words c tail first other (['%','\x7d'] ++ rest)
  have cut : cutAtOpening (data ++ (Part.tagged (.name (c :: tail) :: words) ++ rest)) =
      (data,some (.tag,Word.spaced (.name (c :: tail) :: words) ++ (['%','\x7d'] ++ rest))) := by
    simp [Part.tagged,cutAtOpening_append unopened,cutAtOpening,opening?]
  simp only [segments?,trimmedStart,trimmedEnd,Bool.false_eq_true,if_false,cut,dropSign_spaced,raw]
  rw [show "%\x7d".toList = ['%','\x7d'] from rfl,read]
  cases others : segments? fuel false rest <;> simp [others,Word.token]

theorem source_cons (part : Part) (parts : List Part) : source (part :: parts) = part.source ++ source parts :=
  List.flatMap_cons

theorem unopened_nil : Unopened [] := ⟨rfl,by simp⟩

theorem CutInto.nil : CutInto [] [] := by
  intro data fuel unopened enough
  obtain ⟨fuel,rfl⟩ := Nat.exists_eq_succ_of_ne_zero (Nat.ne_zero_of_lt enough)
  simpa [segmentsOf] using segments_data unopened

theorem CutInto.fixed (inert : Unopened text) (later : CutInto rest parts) : CutInto (text ++ rest) (.fixed text :: parts) := by
  intro data fuel unopened enough
  rw [List.length_append] at enough
  rw [← List.append_assoc]
  exact later (data ++ text) fuel (unopened.append inert) (by omega)

theorem CutInto.opened {inside : Text} {phrase : Phrase} (unsigned : dropSign inside = (false,inside))
    (read : readTokens? ['\x7d','\x7d'] (inside.length + 1) inside = some (phrase.words.map Word.token,false,rest))
    (shorter : rest.length ≤ inside.length) (later : CutInto rest parts) :
    CutInto ('\x7b' :: '\x7b' :: inside) (.output phrase :: parts) := by
  intro data fuel unopened enough
  simp only [List.length_cons] at enough
  obtain ⟨fuel,rfl⟩ := Nat.exists_eq_succ_of_ne_zero (Nat.ne_zero_of_lt enough)
  have others : segments? fuel false ([] ++ rest) = _ := later [] fuel unopened_nil (by omega)
  rw [List.nil_append] at others
  rw [segments_opened unopened unsigned read,others]
  rfl

theorem CutInto.optional {condition : Phrase} (valid : condition.Valid) (inert : Unopened text)
    (later : CutInto rest parts) :
    CutInto ((Part.optional condition text).source ++ rest) (.optional condition text :: parts) := by
  intro data fuel unopened enough
  simp only [Part.source,Part.tagged,List.length_append,List.length_cons] at enough
  obtain ⟨fuel,rfl⟩ : ∃ less, fuel = less + 2 := ⟨fuel - 2,by omega⟩
  have others : segments? fuel false ([] ++ rest) = _ := later [] fuel unopened_nil (by omega)
  have plainOpen : ∀ word ∈ .name ['i','f'] :: condition.words, word.Plain :=
    List.forall_mem_cons.mpr ⟨by decide,valid.plain⟩
  have plainClose : ∀ word ∈ [Word.name ['e','n','d','i','f']], word.Plain :=
    List.forall_mem_cons.mpr ⟨by decide,by simp⟩
  have opened := segments_tag unopened plainOpen (by decide)
    (text ++ (Part.tagged [.name ['e','n','d','i','f']] ++ rest)) (fuel + 1)
  have closed := segments_tag inert plainClose (by decide) rest fuel
  have joined : (Part.optional condition text).source ++ rest =
      Part.tagged (.name ['i','f'] :: condition.words) ++
        (text ++ (Part.tagged [.name ['e','n','d','i','f']] ++ rest)) := by simp [Part.source]
  rw [List.nil_append] at others
  rw [joined,opened,closed,others]
  simp [segmentsOf]

theorem cutInto_source (valid : ∀ part ∈ parts, part.Valid) : CutInto (source parts) parts := by
  induction parts with
  | nil => exact .nil
  | cons part parts ih =>
    obtain ⟨first,later⟩ := List.forall_mem_cons.mp valid
    rw [source_cons]
    cases part with
    | fixed text => exact .fixed first (ih later)
    | output phrase =>
      have split : (Part.output phrase).source ++ source parts =
          '\x7b' :: '\x7b' :: (Word.spaced phrase.words ++ (['\x7d','\x7d'] ++ source parts)) := by simp [Part.source]
      rw [split]
      exact .opened (dropSign_spaced ..) (readTokens_tag first.plain (List.mem_cons_self ..) _) (by simp; omega) (ih later)
    | optional condition text => exact .optional first.1 first.2 (ih later)

theorem valid_of_all (checked : (parts.all fun part => decide part.Valid) = true) :
    ∀ part ∈ parts, part.Valid :=
  fun part member => of_decide_eq_true (List.all_eq_true.mp checked part member)

theorem length_segments (data : Text) (parts : List Part) : 0 < (segmentsOf data parts).length := by
  induction parts generalizing data with
  | nil => simp [segmentsOf]
  | cons part parts ih =>
    cases part with
    | fixed text => exact ih (data ++ text)
    | output phrase => simp [segmentsOf]
    | optional condition text => simp [segmentsOf]

theorem section_layout (valid : ∀ part ∈ parts, part.Valid) (enough : (segmentsOf data parts).length < fuel) :
    readSection? fuel (room + 3) (segmentsOf data parts) = some (templateOf data parts,.text,[]) := by
  induction parts generalizing data fuel with
  | nil =>
    rw [segmentsOf,List.length_singleton] at enough
    obtain ⟨fuel,rfl⟩ : ∃ less, fuel = less + 2 := ⟨fuel - 2,by omega⟩
    rfl
  | cons part parts ih =>
    obtain ⟨first,later⟩ := List.forall_mem_cons.mp valid
    cases part with
    | fixed text => exact ih later enough
    | output phrase =>
      simp only [segmentsOf,List.length_cons] at enough
      obtain ⟨fuel,rfl⟩ : ∃ less, fuel = less + 2 := ⟨fuel - 2,by omega⟩
      have others : readSection? fuel (room + 3) (segmentsOf [] parts) = _ := ih later (by omega)
      simp [segmentsOf,templateOf,readSection?,readWhole_phrase first,others]
    | optional condition text =>
      simp only [segmentsOf,List.length_cons] at enough
      have some := length_segments [] parts
      obtain ⟨fuel,rfl⟩ : ∃ less, fuel = less + 5 := ⟨fuel - 5,by omega⟩
      have others : readSection? (fuel + 3) (room + 3) (segmentsOf [] parts) = _ := ih later (by omega)
      simp [segmentsOf,templateOf,readSection?,readBranches?,readWholeCondition_phrase first.1,others]

theorem CutInto.read (cut : CutInto text parts) (valid : ∀ part ∈ parts, part.Valid) :
    read? text = some (templateOf [] parts) := by
  have segmented := cut [] (text.length + 1) unopened_nil (Nat.lt_succ_self _)
  have whole : readSection? (2 * (segmentsOf [] parts).length + 2) deepestNesting (segmentsOf [] parts) = _ :=
    section_layout valid (by omega)
  rw [List.nil_append] at segmented
  simp [read?,segmented,whole]

theorem read_layout (valid : ∀ part ∈ parts, part.Valid) : read? (source parts) = some (templateOf [] parts) :=
  (cutInto_source valid).read valid

-- Placeholders do not bind, so that each part is filled in with the same values.
theorem run_layout (included : Inclusion) (data : Text) (parts : List Part) :
    (templateOf data parts).run? included bindings = (filled? bindings parts).map fun text => (data ++ text,bindings) := by
  induction parts generalizing data with
  | nil => simp [templateOf,filled?,run?]
  | cons part parts ih =>
    cases part with
    | fixed text =>
      simp only [templateOf,filled?,Part.filling?,ih]
      cases filled? bindings parts <;> simp
    | output phrase =>
      simp only [templateOf,filled?,Part.filling?,run?,ih]
      cases phrase.meaning.value? bindings with
      | none => rfl
      | some value =>
        cases written : value.written? with
        | none => simp [written]
        | some text => cases filled? bindings parts <;> simp [written]
    | optional condition text =>
      simp only [templateOf,filled?,Part.filling?,run?]
      cases condition.meaning.value? bindings with
      | none => rfl
      | some value =>
        cases decided : value.truth? with
        | none => simp [decided]
        | some truth => cases truth <;> cases more : filled? bindings parts <;> simp [decided,ih,more]

theorem render_layout (catalog : Text → Option Template) (parts : List Part) :
    render? catalog (templateOf [] parts) bindings = filled? bindings parts := by
  rw [render?,run_layout]
  cases filled? bindings parts <;> simp

def including (file : Phrase) : Text := Part.tagged (.name ['i','n','c','l','u','d','e'] :: file.words)

theorem read_including {file : Phrase} (valid : file.Valid) :
    read? (including file) = some (.data [] (.inclusion file.meaning (.data [] .done))) := by
  have plain : ∀ word ∈ Word.name ['i','n','c','l','u','d','e'] :: file.words, word.Plain :=
    List.forall_mem_cons.mpr ⟨by decide,valid.plain⟩
  have cut := segments_tag unopened_nil plain (by decide) [] (including file).length
  have last : segments? (including file).length false [] = some [.data []] := segments_data unopened_nil
  rw [List.nil_append,List.append_nil,last] at cut
  have whole : segments? ((including file).length + 1) false (including file) = _ := cut
  simp [read?,whole,readSection?,readWhole_phrase valid,deepestNesting]

theorem render_including {file : Phrase} {name : Text} {catalog : Text → Option Template}
    (named : file.meaning.value? bindings = some (.text name)) (found : catalog name = some (templateOf [] parts)) :
    render? catalog (.data [] (.inclusion file.meaning (.data [] .done))) bindings = filled? bindings parts := by
  have included : include? catalog deepestInclusion name bindings =
      (filled? bindings parts).map fun text => ([] ++ text,bindings) := by
    rw [deepestInclusion,include?,found]
    exact run_layout _ [] parts
  cases filled : filled? bindings parts <;> simp [render?,run?,named,Value.text?,included,filled]

end Marking.Template
