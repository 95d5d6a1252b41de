import Marking.Proofs.Rule.NamePattern
import Mathlib.Data.List.Basic

-- What a rule on keywords or classes finds: one of its names, written between two word
-- boundaries. A name made of word characters is found exactly where it is a whole word.

namespace Marking

-- Whether `part` stands somewhere in a text with nothing beside it, on either side, but the edge
-- of the text or a character that sets it apart.
def StandsApart (apart : Char → Bool) (part text : Text) : Prop :=
  ∃ before after, text = before ++ (part ++ after) ∧
    before.getLast?.all apart = true ∧ after.head?.all apart = true

namespace Matcher
open Pattern

def isEdge (before after : Option Char) : Bool := isWordSide false before != isWordSide false after

structure Delimited (before name after : Text) : Prop where
  starts : isEdge before.getLast? (name ++ after).head? = true
  ends : isEdge (before ++ name).getLast? after.head? = true

def HasWord (name code : Text) : Prop :=
  ∃ before after, code = before ++ (name ++ after) ∧ Delimited before name after

structure IsRun (run code : Text) : Prop where
  nonempty : run ≠ []
  inner : ∀ c ∈ run, Pattern.isWordChar c = true
  alone : StandsApart (!Pattern.isWordChar ·) run code

variable {names : List Text} {name part code text before taken after front back : Text} {kind : NameKind}
  {matcher : Matcher} {apart : Char → Bool} {c : Char}

theorem takes_wordPart (named : names ≠ []) :
    Takes (wordPart names).pattern before taken after ↔ taken ∈ names ∧ Delimited before taken after := by
  unfold wordPart
  rw [takes_sequence]
  constructor
  · intro row
    obtain ⟨_,_,rfl,⟨rfl,starts⟩,_,_,rfl,here,_,_,rfl,⟨rfl,ends⟩,rfl⟩ := row
    simp only [List.append_nil,List.nil_append] at *
    exact ⟨(takes_group named).mp here,starts,ends⟩
  · intro given
    obtain ⟨listed,starts,ends⟩ := given
    have here : Takes (groupPart names).pattern (before ++ []) taken ([] ++ after) := (takes_group named).mpr listed
    refine ⟨[],taken,rfl,⟨rfl,starts⟩,taken,[],(List.append_nil _).symm,here,[],[],rfl,⟨rfl,?_⟩,rfl⟩
    rw [List.append_nil]
    exact ends

theorem isMatch_wordPart (named : names ≠ []) :
    (wordPart names).pattern.isMatch code = true ↔ ∃ name ∈ names, HasWord name code := by
  rw [isMatch_iff]
  constructor
  · intro found
    obtain ⟨before,name,after,split,here⟩ := found
    obtain ⟨listed,delimited⟩ := (takes_wordPart named).mp here
    exact ⟨name,listed,before,after,split,delimited⟩
  · intro found
    obtain ⟨name,listed,before,after,split,delimited⟩ := found
    exact ⟨before,name,after,split,(takes_wordPart named).mpr ⟨listed,delimited⟩⟩

theorem found_words (worded : kind ≠ .method) (named : names ≠ []) (compiled : compile (.names kind names) = .ok matcher) :
    matcher.found code = true ↔ ∃ name ∈ names, HasWord name code := by
  rw [eq_of_compile_words worded named compiled]
  exact isMatch_wordPart named

theorem Delimited.congr (delimited : Delimited before name after)
    (starts : Pattern.isWordSide false before.getLast? = Pattern.isWordSide false front.getLast?)
    (ends : Pattern.isWordSide false after.head? = Pattern.isWordSide false back.head?) :
    Delimited front name back := by
  have first : Pattern.isWordSide false (name ++ after).head? = Pattern.isWordSide false (name ++ back).head? := by
    cases name with
    | nil => exact ends
    | cons c name => rfl
  have last : Pattern.isWordSide false (before ++ name).getLast? = Pattern.isWordSide false (front ++ name).getLast? := by
    rcases List.eq_nil_or_concat name with rfl | ⟨initial,c,rfl⟩
    · simpa using starts
    · simp
  obtain ⟨edge,other⟩ := delimited
  unfold isEdge at edge other
  rw [starts,first] at edge
  rw [last,ends] at other
  exact ⟨edge,other⟩

theorem isWordSide_eq_false {side : Option Char} :
    Pattern.isWordSide false side = false ↔ side.all (!Pattern.isWordChar ·) = true := by
  cases side <;> simp [Pattern.isWordSide]

theorem isWordChar_of_isSpace (space : Text.isSpace c = true) : Pattern.isWordChar c = false := by
  have none : ∀ span ∈ Text.spaceSpans, ∀ code ∈ List.range' span.first (span.last + 1 - span.first),
      Pattern.isWordChar (Char.ofNat code) = false := by
    decide +kernel
  obtain ⟨span,listed,low,high⟩ := Text.Span.of_anyHolds space
  have within : c.toNat ∈ List.range' span.first (span.last + 1 - span.first) := by
    rw [List.mem_range'_1]
    omega
  have free := none span listed c.toNat within
  rwa [Char.ofNat_toNat] at free

theorem HasWord.of_apart (found : HasWord name part) (alone : StandsApart apart part code)
    (wordless : ∀ c, apart c = true → Pattern.isWordChar c = false) : HasWord name code := by
  obtain ⟨before,after,rfl,delimited⟩ := found
  obtain ⟨front,back,rfl,starts,ends⟩ := alone
  have quiet : ∀ side : Option Char, side.all apart = true → Pattern.isWordSide false side = false := by
    rintro (_ | c) clear
    · rfl
    · simpa [Pattern.isWordSide] using wordless c clear
  refine ⟨front ++ before,after ++ back,by simp,delimited.congr ?_ ?_⟩
  · by_cases empty : before = []
    · rw [empty,List.append_nil,quiet _ starts]
      rfl
    · rw [List.getLast?_append_of_ne_nil _ empty]
  · by_cases empty : after = []
    · rw [empty,List.nil_append,quiet _ ends]
      rfl
    · rw [List.head?_append_of_ne_nil _ empty]

theorem hasWord_iff_isRun (nonempty : name ≠ []) (word : ∀ c ∈ name, Pattern.isWordChar c = true) :
    HasWord name code ↔ IsRun name code := by
  have inside : ∀ c ∈ name, Pattern.isWordSide false (some c) = true := by
    intro c member
    simp [Pattern.isWordSide,word c member]
  have first : ∀ after : Text, Pattern.isWordSide false (name ++ after).head? = true := by
    intro after
    rw [List.head?_append_of_ne_nil _ nonempty,List.head?_eq_some_head nonempty]
    exact inside _ (List.head_mem nonempty)
  have last : ∀ before : Text, Pattern.isWordSide false (before ++ name).getLast? = true := by
    intro before
    rw [List.getLast?_append_of_ne_nil _ nonempty,List.getLast?_eq_some_getLast nonempty]
    exact inside _ (List.getLast_mem nonempty)
  constructor
  · rintro ⟨before,after,split,starts,ends⟩
    rw [isEdge,first] at starts
    rw [isEdge,last] at ends
    exact ⟨nonempty,word,before,after,split,isWordSide_eq_false.mp (by simpa using starts),
      isWordSide_eq_false.mp (by simpa using ends)⟩
  · rintro ⟨_,_,before,after,split,starts,ends⟩
    refine ⟨before,after,split,?_,?_⟩
    · rw [isEdge,first,isWordSide_eq_false.mpr starts]
      rfl
    · rw [isEdge,last,isWordSide_eq_false.mpr ends]
      rfl

end Matcher
end Marking
