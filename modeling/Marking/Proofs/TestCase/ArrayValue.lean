import Marking.Proofs.Harness.Message
import Marking.Proofs.Pattern.Assembly
import Marking.Proofs.Pattern.Preferred
import Marking.Proofs.TestCase.ArrayConstruction
import Marking.Proofs.Text.Cutting

-- Expected values that begin with an array construction, and for which spellings of it a harness compares
-- element by element.

namespace Marking

namespace Pattern

variable {takes : Taking} {before taken : Text} {n : Nat}

theorem times_list {α : Type} {text : α → Text} (same : ∀ before taken after, takes before taken after ↔ ∃ item, taken = text item) :
    takes.times n before taken after ↔ ∃ items : List α, items.length = n ∧ taken = items.flatMap text := by
  induction n generalizing before taken with
  | zero => simp [Taking.times,Taking.nothing]
  | succ n ih =>
    constructor
    · intro row
      obtain ⟨front,back,rfl,one,row⟩ := row
      obtain ⟨item,rfl⟩ := (same _ _ _).mp one
      obtain ⟨items,rfl,rfl⟩ := ih.mp row
      exact ⟨item :: items,rfl,rfl⟩
    · intro given
      obtain ⟨items,length,rfl⟩ := given
      obtain ⟨item,items,rfl⟩ := List.exists_cons_of_length_eq_add_one length
      exact ⟨text item,items.flatMap text,rfl,(same _ _ _).mpr ⟨item,rfl⟩,ih.mpr ⟨items,Nat.succ.inj length,rfl⟩⟩

end Pattern

namespace ArrayConstruction
open Pattern

structure Brackets where
  before : Text
  within : Text
  blank : ∀ c ∈ before ++ within, Text.isSpace c = true

def Brackets.text (pair : Brackets) : Text := pair.before ++ '[' :: pair.within ++ [']']

end ArrayConstruction

structure ArrayConstruction where
  gap : Text
  name : Text
  pairs : List ArrayConstruction.Brackets
  spaced : gap ≠ [] ∧ ∀ c ∈ gap, Text.isSpace c = true
  named : name ≠ [] ∧ ∀ c ∈ name, ArrayConstruction.isTypeNameChar c = true
  paired : pairs ≠ []

namespace ArrayConstruction
open Pattern

def text (construction : ArrayConstruction) : Text :=
  "new".toList ++ (construction.gap ++ (construction.name ++ construction.pairs.flatMap Brackets.text))

-- Whether a plain blank stands behind the word new, and a pair of brackets without white space in it in
-- the construction or somewhere behind.
def PlainlyWritten (construction : ArrayConstruction) (rest : Text) : Prop :=
  construction.gap.head? = some ' ' ∧ ((∃ pair ∈ construction.pairs, pair.within = []) ∨ ['[',']'] <:+: rest)

variable {before taken after rest : Text} {construction : ArrayConstruction}

theorem takes_char {c : Char} : Takes (char c) before taken after ↔ taken = [c] := by
  simp [char,Takes,CharSet.has_only]

theorem takes_bracketPair : Takes bracketPair before taken after ↔ ∃ pair : Brackets, taken = pair.text := by
  constructor
  · intro given
    obtain ⟨first,_,rfl,one,_,_,rfl,opened,within,_,rfl,two,closed⟩ := given
    obtain rfl := takes_char.mp opened
    obtain rfl := takes_char.mp closed
    have blank : ∀ c ∈ first ++ within, Text.isSpace c = true :=
      List.forall_mem_append.mpr ⟨(takes_run.mp one).2,(takes_run.mp two).2⟩
    exact ⟨⟨first,within,blank⟩,by simp [Brackets.text]⟩
  · intro given
    obtain ⟨⟨first,within,blank⟩,rfl⟩ := given
    obtain ⟨one,two⟩ := List.forall_mem_append.mp blank
    refine ⟨first,'[' :: within ++ [']'],by simp [Brackets.text],takes_run.mpr ⟨Nat.zero_le _,one⟩,?_⟩
    exact ⟨['['],within ++ [']'],rfl,takes_char.mpr rfl,within,[']'],rfl,takes_run.mpr ⟨Nat.zero_le _,two⟩,takes_char.mpr rfl⟩

theorem takes_bracketPairs : Takes (.repeated (.group bracketPair) 1 none) before taken after ↔
    ∃ pairs : List Brackets, pairs ≠ [] ∧ taken = pairs.flatMap Brackets.text := by
  constructor
  · intro row
    obtain ⟨more,_,row⟩ := row
    obtain ⟨pairs,length,rfl⟩ := (times_list fun _ _ _ => takes_bracketPair).mp row
    exact ⟨pairs,List.length_pos_iff.mp (by omega),rfl⟩
  · intro given
    obtain ⟨pairs,some,rfl⟩ := given
    have length : pairs.length = 1 + (pairs.length - 1) := by
      have := List.length_pos_iff.mpr some
      omega
    exact ⟨pairs.length - 1,nofun,(times_list fun _ _ _ => takes_bracketPair).mpr ⟨pairs,length,rfl⟩⟩

theorem takes_pattern : Takes pattern before taken after ↔
    ∃ (construction : ArrayConstruction) (spaces : Text), (∀ c ∈ spaces, Text.isSpace c = true) ∧
      taken = construction.text ++ spaces := by
  constructor
  · intro given
    obtain ⟨_,_,rfl,n,_,_,rfl,e,_,_,rfl,w,gap,_,rfl,spaced,name,_,rfl,named,_,spaces,rfl,paired,behind⟩ := given
    obtain rfl := takes_char.mp n
    obtain rfl := takes_char.mp e
    obtain rfl := takes_char.mp w
    obtain ⟨pairs,some,rfl⟩ := takes_bracketPairs.mp paired
    obtain ⟨long,blank⟩ := takes_run.mp spaced
    obtain ⟨enough,chars⟩ := takes_run.mp named
    rw [has_nameChars] at chars
    refine ⟨⟨gap,name,pairs,⟨List.length_pos_iff.mp long,blank⟩,⟨List.length_pos_iff.mp enough,chars⟩,some⟩,spaces,
      (takes_run.mp behind).2,?_⟩
    simp [text]
  · intro given
    obtain ⟨⟨gap,name,pairs,⟨long,blank⟩,⟨enough,chars⟩,some⟩,spaces,behind,rfl⟩ := given
    rw [← has_nameChars] at chars
    refine ⟨['n'],_,by simp [text]; rfl,takes_char.mpr rfl,['e'],_,rfl,takes_char.mpr rfl,['w'],_,rfl,takes_char.mpr rfl,
      gap,_,rfl,takes_run.mpr ⟨List.length_pos_iff.mpr long,blank⟩,name,_,rfl,takes_run.mpr ⟨List.length_pos_iff.mpr enough,chars⟩,
      pairs.flatMap Brackets.text,spaces,?_,takes_bracketPairs.mpr ⟨pairs,some,rfl⟩,takes_run.mpr ⟨Nat.zero_le _,behind⟩⟩
    rfl

theorem begins_iff {text : Text} : pattern.ends ⟨none,text⟩ ≠ [] ↔
    ∃ (construction : ArrayConstruction) (rest : Text), text = construction.text ++ rest := by
  refine (@ends_nonempty_iff _ [] _).trans ?_
  constructor
  · intro given
    obtain ⟨_,after,rfl,taken⟩ := given
    obtain ⟨construction,spaces,_,rfl⟩ := takes_pattern.mp taken
    exact ⟨construction,spaces ++ after,List.append_assoc ..⟩
  · intro given
    obtain ⟨construction,rest,rfl⟩ := given
    exact ⟨construction.text,rest,rfl,takes_pattern.mpr ⟨construction,[],nofun,(List.append_nil _).symm⟩⟩

theorem opening_not_mem_spaces {spaces : Text} (blank : ∀ c ∈ spaces, Text.isSpace c = true) : '[' ∉ spaces := by
  intro member
  cases blank _ member

theorem pair_infix_brackets (pair : Brackets) : ['[',']'] <:+: pair.text ++ rest ↔ pair.within = [] ∨ ['[',']'] <:+: rest := by
  obtain ⟨first,within,blank⟩ := pair
  obtain ⟨one,two⟩ := List.forall_mem_append.mp blank
  have text : Brackets.text ⟨first,within,blank⟩ ++ rest = first ++ '[' :: (within ++ ']' :: rest) := by
    simp [Brackets.text]
  rw [text,Text.pair_infix_behind (opening_not_mem_spaces one),Text.pair_infix_cons,
    Text.pair_infix_behind (opening_not_mem_spaces two),Text.pair_infix_cons]
  cases within with
  | nil => simp
  | cons c within =>
    have other : c ≠ ']' := by
      intro same
      cases same
      cases two _ (List.mem_cons_self ..)
    simp [other]

theorem pair_infix_pairs {pairs : List Brackets} : ['[',']'] <:+: pairs.flatMap Brackets.text ++ rest ↔
    (∃ pair ∈ pairs, pair.within = []) ∨ ['[',']'] <:+: rest := by
  induction pairs with
  | nil => simp
  | cons pair pairs ih =>
    rw [List.flatMap_cons,List.append_assoc,pair_infix_brackets,ih]
    simp [or_assoc]

theorem pair_infix_construction : ['[',']'] <:+: construction.text ++ rest ↔
    (∃ pair ∈ construction.pairs, pair.within = []) ∨ ['[',']'] <:+: rest := by
  have name : '[' ∉ construction.name := by
    intro member
    cases construction.named.2 _ member
  have text : construction.text ++ rest =
      "new".toList ++ (construction.gap ++ (construction.name ++ (construction.pairs.flatMap Brackets.text ++ rest))) := by
    simp [ArrayConstruction.text]
  rw [text,Text.pair_infix_behind (by decide),Text.pair_infix_behind (opening_not_mem_spaces construction.spaced.2),
    Text.pair_infix_behind name,pair_infix_pairs]

theorem new_prefix_iff : "new ".toList <+: construction.text ++ rest ↔ construction.gap.head? = some ' ' := by
  obtain ⟨gap,name,pairs,⟨some,blank⟩,named,paired⟩ := construction
  obtain ⟨c,gap,rfl⟩ := List.exists_cons_of_ne_nil some
  simp [text,List.cons_prefix_cons,eq_comm]

end ArrayConstruction

namespace TestCase
open ArrayConstruction

variable {case : TestCase} {construction : ArrayConstruction} {rest : Text}

theorem expectsArray_construction (begins : case.expectedOutput = construction.text ++ rest) :
    case.expectsArray = true ↔ construction.PlainlyWritten rest := by
  have other : ¬ "array(".toList <+: construction.text ++ rest := by
    simp [ArrayConstruction.text,List.cons_prefix_cons]
  rw [expectsArray,begins,Bool.or_eq_true,Bool.and_eq_true,Text.startsWith_iff,Text.startsWith_iff,Text.hasPart_iff,
    new_prefix_iff]
  simp only [other,or_false]
  exact and_congr_right' pair_infix_construction

end TestCase

namespace Harness

def beforeAssertion (case : TestCase) : Text :=
  "    @Test\n".toList ++
  "    public void test_".toList ++ Text.ofInt case.id.toInt ++ "()\n".toList ++
  "    \x7b\n".toList ++
  "        ".toList

def behindAssertion (case : TestCase) : Text :=
  "(\n".toList ++
  "          \"".toList ++ case.negativeFeedback.getD [] ++ "\"".toList ++ behindMessage case

def Asserts (case : TestCase) (assertion : Text) : Prop :=
  ∀ sink, initial.render "Java".toList case sink = .ok (beforeAssertion case ++ (assertion ++ behindAssertion case))

variable {case : TestCase} {assertion : Text}

theorem javaCode_assertion (case : TestCase) : javaCode case = beforeAssertion case ++
    ((if case.expectsArray then "assertArrayEquals".toList else "assertEquals".toList) ++ behindAssertion case) := by
  unfold javaCode beforeAssertion behindAssertion behindMessage
  cases case.expectsArray <;> simp

theorem asserts_iff : Asserts case assertion ↔
    assertion = if case.expectsArray then "assertArrayEquals".toList else "assertEquals".toList := by
  constructor
  · intro asserts
    have code := asserts none
    rw [render_java spelled_java.2,javaCode_assertion,Except.ok.injEq,List.append_cancel_left_eq,
      List.append_cancel_right_eq] at code
    exact code.symm
  · intro same sink
    rw [render_java spelled_java.2,javaCode_assertion,same]

theorem asserts_array_iff : Asserts case "assertArrayEquals".toList ↔ case.expectsArray = true := by
  rw [asserts_iff]
  cases case.expectsArray <;> simp

theorem asserts_equals_iff : Asserts case "assertEquals".toList ↔ ¬ case.expectsArray = true := by
  rw [asserts_iff]
  cases case.expectsArray <;> simp

end Harness

namespace TestCase
open ArrayConstruction

-- The pattern of the displays finds a construction at the beginning of the expected value exactly if there is one. It is
-- an array for the harness, and the Java code compares element by element, exactly if it is written plainly.
theorem array_construction_expected (case : TestCase) :
    (pattern.ends ⟨none,case.expectedOutput⟩ ≠ [] ↔
      ∃ (construction : ArrayConstruction) (rest : Text), case.expectedOutput = construction.text ++ rest) ∧
    ∀ (construction : ArrayConstruction) (rest : Text), case.expectedOutput = construction.text ++ rest →
      (case.expectsArray = true ↔ construction.PlainlyWritten rest) ∧
      (Harness.Asserts case "assertArrayEquals".toList ↔ construction.PlainlyWritten rest) ∧
      (Harness.Asserts case "assertEquals".toList ↔ ¬ construction.PlainlyWritten rest) := by
  refine ⟨begins_iff,?_⟩
  intro construction rest begins
  have plain := expectsArray_construction begins
  exact ⟨plain,Harness.asserts_array_iff.trans plain,Harness.asserts_equals_iff.trans (not_congr plain)⟩

def nested : ArrayConstruction where
  gap := [' ']
  name := "int".toList
  pairs := [⟨[' '],[' '],List.all_eq_true.mp rfl⟩,⟨[' '],[],List.all_eq_true.mp rfl⟩]
  spaced := ⟨List.cons_ne_nil _ _,List.all_eq_true.mp rfl⟩
  named := ⟨by decide,List.all_eq_true.mp rfl⟩
  paired := List.cons_ne_nil _ _

theorem nested_construction_expected :
    let rest := " \x7b\x7b1\x7d\x7d".toList
    let expectedOutput := "new int [ ] [] \x7b\x7b1\x7d\x7d".toList
    let case : TestCase := {id := 1,prompt := ⟨1,"A".toList,"f".toList⟩,expectedOutput,weight := .zero}
    case.expectedOutput = nested.text ++ rest ∧ nested.PlainlyWritten rest ∧
      Harness.Asserts case "assertArrayEquals".toList := by
  intro rest expectedOutput case
  have begins : case.expectedOutput = nested.text ++ rest := by decide +kernel
  have plain : nested.PlainlyWritten rest := by
    refine ⟨rfl,.inl ⟨_,List.mem_cons_of_mem _ (List.mem_cons_self ..),?_⟩⟩
    rfl
  exact ⟨begins,plain,((array_construction_expected case).2 nested rest begins).2.1.mpr plain⟩

def valued (expectedOutput : String) : TestCase where
  id := 1
  prompt := ⟨1,"A".toList,"f".toList⟩
  input := "1".toList
  expectedOutput := expectedOutput.toList
  weight := .zero

theorem spaced_construction_unexpected :
    let bracketed := valued "new int[ ] \x7b1\x7d"
    let tabbed := valued "new\tint[] \x7b1\x7d"
    (pattern.ends ⟨none,bracketed.expectedOutput⟩ ≠ [] ∧ bracketed.display true = "f(1) -> \x7b1\x7d".toList ∧
      bracketed.expectsArray = false ∧ Harness.Asserts bracketed "assertEquals".toList) ∧
    (pattern.ends ⟨none,tabbed.expectedOutput⟩ ≠ [] ∧ tabbed.display true = "f(1) -> \x7b1\x7d".toList ∧
      tabbed.expectsArray = false ∧ Harness.Asserts tabbed "assertEquals".toList) := by
  simp only [Harness.asserts_equals_iff]
  decide +kernel

end TestCase

end Marking
