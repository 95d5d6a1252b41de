import Marking.Proofs.Template.Word
import Marking.Template.Reading

-- Names and texts joined by tildes, with alternatives after `or`, and how they are read.

namespace Marking.Template

inductive Operand where
  | name (text : Text)
  | quoted (value : Text)
  deriving DecidableEq,Repr

namespace Operand

def word : Operand → Word
  | name text => .name text
  | quoted value => .quoted value

def meaning : Operand → Expression
  | name text => .variable text
  | quoted value => .constant (.text value)

-- Names that stand for constants, and the word of a negation.
def keywords : List Text := [
  "true".toList,"True".toList,"false".toList,"False".toList,"none".toList,"None".toList,"not".toList]

def Valid (operand : Operand) : Prop := operand.word.Plain ∧ operand ∉ keywords.map name

instance (operand : Operand) : Decidable operand.Valid :=
  decidable_of_iff ((decide operand.word.Plain && !(keywords.map name).contains operand) = true) (by simp [Valid])

end Operand

structure Joined where
  first : Operand
  further : List Operand
  deriving DecidableEq,Repr

namespace Joined

def words (joined : Joined) : List Word :=
  joined.first.word :: joined.further.flatMap fun operand => [.join,operand.word]

def meaning (joined : Joined) : Expression :=
  joined.further.foldl (fun left operand => left.combine .join operand.meaning) joined.first.meaning

def Valid (joined : Joined) : Prop := ∀ operand ∈ joined.first :: joined.further, operand.Valid

instance (joined : Joined) : Decidable joined.Valid :=
  decidable_of_iff (((joined.first :: joined.further).all fun operand => decide operand.Valid) = true)
    (by simp [Valid])

end Joined

structure Phrase where
  first : Joined
  others : List Joined
  deriving DecidableEq,Repr

namespace Phrase

def words (phrase : Phrase) : List Word :=
  phrase.first.words ++ phrase.others.flatMap fun joined => .name "or".toList :: joined.words

def meaning (phrase : Phrase) : Expression :=
  phrase.others.foldl (fun left joined => left.combine .or joined.meaning) phrase.first.meaning

def Valid (phrase : Phrase) : Prop := ∀ joined ∈ phrase.first :: phrase.others, joined.Valid

instance (phrase : Phrase) : Decidable phrase.Valid :=
  decidable_of_iff (((phrase.first :: phrase.others).all fun joined => decide joined.Valid) = true)
    (by simp [Valid])

def named (text : Text) : Phrase := ⟨⟨.name text,[]⟩,[]⟩

def orElse (text : Text) (default : Joined) : Phrase := ⟨⟨.name text,[]⟩,[default]⟩

end Phrase

inductive Stops : List Token → Prop where
  | finished : Stops []
  | join (rest : List Token) : Stops (.symbol .tilde :: rest)
  | or (rest : List Token) : Stops (.name "or".toList :: rest)

inductive Ends : List Token → Prop where
  | finished : Ends []
  | or (rest : List Token) : Ends (.name "or".toList :: rest)

variable {operand : Operand} {operands : List Operand} {joined : Joined} {others : List Joined} {phrase : Phrase}
  {rest tokens : List Token} {left : Expression} {fuel room : Nat}

theorem Ends.stops (ends : Ends rest) : Stops rest := by
  cases ends with
  | finished => exact .finished
  | or rest => exact .or rest

theorem nameExpression_operand {text : Text} (valid : (Operand.name text).Valid) :
    nameExpression text = .variable text := by
  have free := valid.2
  simp only [Operand.keywords,List.map_cons,List.mem_cons,Operand.name.injEq,not_or] at free
  simp only [nameExpression,List.mem_cons,List.not_mem_nil,free,or_self,if_false]

theorem readFilters_stops (stops : Stops rest) : readFilters? (fuel + 1) room left rest = some (left,rest) := by
  cases stops <;> simp [readFilters?,symbol?,word?,isWord]

theorem readSuffixes_stops (stops : Stops rest) : readSuffixes? (fuel + 1) room left rest = some (left,rest) := by
  cases stops <;> simp [readSuffixes?]

theorem readPrimary_operand (valid : operand.Valid) (stops : Stops rest) :
    readPrimary? (fuel + 1) (room + 1) (operand.word.token :: rest) = some (operand.meaning,rest) := by
  cases operand with
  | name text => simp [Operand.word,Operand.meaning,Word.token,readPrimary?,nameExpression_operand valid]
  | quoted value => cases stops <;> simp [Operand.word,Operand.meaning,Word.token,readPrimary?,adjacentTexts]

theorem readOperand_operand (valid : operand.Valid) (stops : Stops rest) :
    readOperand? (fuel + 3) (room + 1) (operand.word.token :: rest) = some (operand.meaning,rest) := by
  simp [readOperand?,readSimple?,readPrimary_operand valid stops,readSuffixes_stops stops,readFilters_stops stops]

theorem readJoinTail_ends (ends : Ends rest) : readJoinTail? (fuel + 1) room left rest = some (left,rest) := by
  cases ends <;> simp [readJoinTail?,symbol?]

theorem readSumTail_ends (ends : Ends rest) : readSumTail? (fuel + 1) room left rest = some (left,rest) := by
  cases ends <;> simp [readSumTail?,symbol?]

theorem readLinks_ends (ends : Ends rest) : readLinks? (fuel + 1) room rest = some (.done,rest) := by
  cases ends <;> simp [readLinks?,comparison?,isWord]

theorem readAndTail_ends (ends : Ends rest) : readAndTail? (fuel + 1) room left rest = some (left,rest) := by
  cases ends <;> simp [readAndTail?,word?,isWord]

def joins (operands : List Operand) : List Token :=
  (operands.flatMap fun operand => [Word.join,operand.word]).map Word.token

theorem joins_cons (operand : Operand) (operands : List Operand) :
    joins (operand :: operands) = .symbol .tilde :: operand.word.token :: joins operands := rfl

theorem joins_stop (ends : Ends rest) (operands : List Operand) : Stops (joins operands ++ rest) := by
  cases operands with
  | nil => exact ends.stops
  | cons operand operands => exact .join _

theorem readJoinTail_joins (valid : ∀ operand ∈ operands, operand.Valid) (ends : Ends rest)
    (enough : operands.length + 3 < fuel) :
    readJoinTail? fuel (room + 1) left (joins operands ++ rest) =
      some (operands.foldl (fun left operand => left.combine .join operand.meaning) left,rest) := by
  induction operands generalizing left fuel with
  | nil =>
    obtain ⟨fuel,rfl⟩ : ∃ less, fuel = less + 1 := ⟨fuel - 1,by omega⟩
    exact readJoinTail_ends ends
  | cons operand operands ih =>
    obtain ⟨first,later⟩ := List.forall_mem_cons.mp valid
    rw [List.length_cons] at enough
    obtain ⟨fuel,rfl⟩ : ∃ less, fuel = less + 4 := ⟨fuel - 4,by omega⟩
    have read := @readOperand_operand operand (joins operands ++ rest) fuel room first (joins_stop ends operands)
    rw [joins_cons,List.cons_append,List.cons_append,readJoinTail?]
    simp [symbol?,read,ih later (show operands.length + 3 < fuel + 3 by omega)]

theorem readJoin_joined (valid : joined.Valid) (ends : Ends rest)
    (enough : joined.further.length + 4 < fuel) :
    readJoin? fuel (room + 1) (joined.words.map Word.token ++ rest) = some (joined.meaning,rest) := by
  obtain ⟨fuel,rfl⟩ : ∃ less, fuel = less + 4 := ⟨fuel - 4,by omega⟩
  obtain ⟨first,later⟩ := List.forall_mem_cons.mp valid
  have read := @readOperand_operand _ (joins joined.further ++ rest) fuel room first (joins_stop ends _)
  have split : joined.words.map Word.token ++ rest =
      joined.first.word.token :: (joins joined.further ++ rest) := rfl
  rw [split,readJoin?]
  simp [read,readJoinTail_joins later ends (show joined.further.length + 3 < fuel + 3 by omega),Joined.meaning]

theorem word_not_operand (valid : operand.Valid) : word? "not" (operand.word.token :: rest) = none := by
  cases operand with
  | name text =>
    have other : text ≠ "not".toList := by
      rintro rfl
      exact valid.2 (by decide)
    simpa [word?,isWord,Operand.word,Word.token] using other
  | quoted value => simp [word?,Operand.word,Word.token,isWord]

theorem readAnd_joined (valid : joined.Valid) (ends : Ends rest)
    (enough : joined.further.length + 7 < fuel) :
    readAnd? fuel (room + 1) (joined.words.map Word.token ++ rest) = some (joined.meaning,rest) := by
  obtain ⟨fuel,rfl⟩ : ∃ less, fuel = less + 4 := ⟨fuel - 4,by omega⟩
  have join := @readJoin_joined _ rest (fuel + 1) room valid ends (by omega)
  have denial : word? "not" (joined.words.map Word.token ++ rest) = none :=
    word_not_operand (valid _ (List.mem_cons_self ..))
  rw [readAnd?,readNot?,readSum?]
  simp [join,denial,readSumTail_ends ends,readLinks_ends ends,readAndTail_ends ends,Expression.comparison]

def alternatives (others : List Joined) : List Token :=
  (others.flatMap fun joined => Word.name "or".toList :: joined.words).map Word.token

theorem alternatives_cons (joined : Joined) (others : List Joined) :
    alternatives (joined :: others) =
      .name "or".toList :: (joined.words.map Word.token ++ alternatives others) := by
  simp [alternatives,Word.token]

theorem alternatives_end (others : List Joined) : Ends (alternatives others) := by
  cases others with
  | nil => exact .finished
  | cons joined others => exact .or _

theorem further_length (joined : Joined) : joined.further.length < joined.words.length := by
  have doubled : (joined.further.flatMap fun operand => [Word.join,operand.word]).length =
      2 * joined.further.length := by
    induction joined.further with
    | nil => rfl
    | cons operand operands ih =>
      simp only [List.flatMap_cons,List.length_append,List.length_cons,List.length_nil,ih]
      omega
  rw [Joined.words,List.length_cons,doubled]
  omega

theorem readOrTail_alternatives (valid : ∀ joined ∈ others, joined.Valid)
    (enough : (alternatives others).length + 8 < fuel) :
    readOrTail? fuel (room + 1) left (alternatives others) =
      some (others.foldl (fun left joined => left.combine .or joined.meaning) left,[]) := by
  induction others generalizing left fuel with
  | nil =>
    obtain ⟨fuel,rfl⟩ : ∃ less, fuel = less + 1 := ⟨fuel - 1,by omega⟩
    simp [alternatives,readOrTail?,word?]
  | cons joined others ih =>
    obtain ⟨first,later⟩ := List.forall_mem_cons.mp valid
    have small := further_length joined
    rw [alternatives_cons,List.length_cons,List.length_append,List.length_map] at enough
    obtain ⟨fuel,rfl⟩ : ∃ less, fuel = less + 1 := ⟨fuel - 1,by omega⟩
    have read := @readAnd_joined _ _ fuel room first (alternatives_end others) (by omega)
    rw [alternatives_cons,readOrTail?]
    simp [word?,isWord,read,ih later (show (alternatives others).length + 8 < fuel by omega)]

theorem readOr_phrase (valid : phrase.Valid) (enough : phrase.words.length + 9 < fuel) :
    readOr? fuel (room + 1) (phrase.words.map Word.token) = some (phrase.meaning,[]) := by
  obtain ⟨fuel,rfl⟩ : ∃ less, fuel = less + 1 := ⟨fuel - 1,by omega⟩
  obtain ⟨first,later⟩ := List.forall_mem_cons.mp valid
  have small := further_length phrase.first
  have split : phrase.words.map Word.token =
      phrase.first.words.map Word.token ++ alternatives phrase.others := List.map_append
  have total := congrArg List.length split
  simp only [List.length_map,List.length_append] at total
  have read := @readAnd_joined _ _ fuel room first (alternatives_end phrase.others) (by omega)
  have tail : readOrTail? fuel (room + 1) phrase.first.meaning _ = _ :=
    readOrTail_alternatives later (by omega)
  rw [split,readOr?]
  simp [read,tail,Phrase.meaning]

theorem Joined.Valid.plain (valid : joined.Valid) : ∀ word ∈ joined.words, word.Plain := by
  obtain ⟨first,later⟩ := List.forall_mem_cons.mp valid
  intro word member
  rcases List.mem_cons.mp member with rfl | member
  · exact first.1
  · obtain ⟨operand,among,member⟩ := List.mem_flatMap.mp member
    simp only [List.mem_cons,List.not_mem_nil,or_false] at member
    rcases member with rfl | rfl
    · trivial
    · exact (later operand among).1

theorem Phrase.Valid.plain (valid : phrase.Valid) : ∀ word ∈ phrase.words, word.Plain := by
  obtain ⟨first,later⟩ := List.forall_mem_cons.mp valid
  intro word member
  rcases List.mem_append.mp member with member | member
  · exact first.plain word member
  · obtain ⟨joined,among,member⟩ := List.mem_flatMap.mp member
    rcases List.mem_cons.mp member with rfl | member
    · decide
    · exact (later joined among).plain word member

theorem Phrase.named_valid {text : Text} (valid : (Operand.name text).Valid) : (Phrase.named text).Valid :=
  List.forall_mem_singleton.mpr (List.forall_mem_singleton.mpr valid)

theorem readWholeCondition_phrase (valid : phrase.Valid) :
    readWholeCondition? (room + 2) (phrase.words.map Word.token) = some phrase.meaning := by
  obtain ⟨fuel,enough,expected⟩ : ∃ fuel, phrase.words.length + 9 < fuel ∧
      expressionFuel (phrase.words.map Word.token) = fuel + 1 := by
    refine ⟨30 * (phrase.words.length + 1) - 1,by omega,?_⟩
    rw [expressionFuel,List.length_map]
    omega
  simp [readWholeCondition?,expected,readCondition?,readOr_phrase valid enough]

theorem readWhole_phrase (valid : phrase.Valid) :
    readWhole? (room + 2) (phrase.words.map Word.token) = some phrase.meaning := by
  obtain ⟨fuel,enough,expected⟩ : ∃ fuel, phrase.words.length + 9 < fuel ∧
      expressionFuel (phrase.words.map Word.token) = fuel + 2 := by
    refine ⟨30 * (phrase.words.length + 1) - 2,by omega,?_⟩
    rw [expressionFuel,List.length_map]
    omega
  have tail : readChoiceTail? fuel (room + 1) phrase.meaning [] = some (phrase.meaning,[]) := by
    obtain ⟨fuel,rfl⟩ : ∃ less, fuel = less + 1 := ⟨fuel - 1,by omega⟩
    simp [readChoiceTail?,word?]
  simp [readWhole?,expected,readExpression?,readChoice?,readOr_phrase valid enough,tail]

end Marking.Template
