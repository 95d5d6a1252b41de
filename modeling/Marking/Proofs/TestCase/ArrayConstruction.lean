import Marking.Pattern.Reading
import Marking.Proofs.Pattern.CharSet
import Marking.Proofs.Pattern.Eager
import Marking.TestCase.Display
import Mathlib

-- Array constructions as a scanner finds them in one pass, and that the pattern of the displays leaves
-- out just these.

namespace Marking

namespace ArrayConstruction
open Pattern

def written : Text := "new\\s+[a-zA-Z0-9]+(\\s*\\[\\s*\\])+\\s*".toList

set_option maxRecDepth 20000 in
theorem parts_read : ((Pattern.readAll (written.length + 1) (.start {}) written).map fun reader =>
    (reader.outer,reader.level.close)) = some ([],⟨pattern,5,true⟩) := by
  cbv

theorem pattern_read : Pattern.read? {} written = some pattern := by
  obtain ⟨reader,parts,same⟩ := Option.map_eq_some_iff.mp parts_read
  obtain ⟨closed,whole⟩ := Prod.mk.inj same
  have small : pattern.fits = true := by decide +kernel
  simp [Pattern.read?,parts,closed,whole,small,deepestNesting]

-- What follows a pair of brackets with optional white space before and between them.
def bracketPair? (text : Text) : Option Text :=
  (Text.after? ['['] (text.dropWhile Text.isSpace)).bind fun inner =>
    Text.after? [']'] (inner.dropWhile Text.isSpace)

theorem bracketPair_eq_some {text rest : Text} (found : bracketPair? text = some rest) :
    ∃ front, text = front ++ ']' :: rest := by
  obtain ⟨inner,opened,closed⟩ := Option.bind_eq_some_iff.mp found
  have outer : text.dropWhile Text.isSpace = '[' :: inner := Text.after_eq_some_iff.mp opened
  have within : inner.dropWhile Text.isSpace = ']' :: rest := Text.after_eq_some_iff.mp closed
  refine ⟨text.takeWhile Text.isSpace ++ '[' :: inner.takeWhile Text.isSpace,?_⟩
  rw [List.append_assoc,List.cons_append,← within,List.takeWhile_append_dropWhile,← outer,
    List.takeWhile_append_dropWhile]

theorem bracketPair_shorter {text rest : Text} (found : bracketPair? text = some rest) :
    rest.length < text.length := by
  obtain ⟨front,rfl⟩ := bracketPair_eq_some found
  rw [List.length_append,List.length_cons]
  omega

def dropBracketPairs (text : Text) : Text :=
  match _found : bracketPair? text with
  | some rest => dropBracketPairs rest
  | none => text
termination_by text.length
decreasing_by exact bracketPair_shorter _found

def isTypeNameChar (c : Char) : Bool :=
  Text.isAsciiDigit c || ('a' ≤ c && c ≤ 'z') || ('A' ≤ c && c ≤ 'Z')

-- What follows a construction and the white space behind it. The construction is the word new, white
-- space, as many letters and digits as there are, and bracket pairs, one at least of each.
def after? (text : Text) : Option Text :=
  (Text.after? "new".toList text).bind fun spaced =>
    let named := spaced.dropWhile Text.isSpace
    let bracketed := named.dropWhile isTypeNameChar
    if named.length < spaced.length ∧ bracketed.length < named.length then
      (bracketPair? bracketed).map fun rest => (dropBracketPairs rest).dropWhile Text.isSpace
    else none

theorem dropBracketPairs_suffix (text : Text) : dropBracketPairs text <:+ text := by
  fun_induction dropBracketPairs text with
  | case1 text rest found ih =>
    obtain ⟨front,rfl⟩ := bracketPair_eq_some found
    exact ih.trans ((List.suffix_cons ..).trans (List.suffix_append ..))
  | case2 => exact List.suffix_refl _

theorem after_suffix {text rest : Text} (found : after? text = some rest) : ∃ c tail, text = c :: tail ∧ rest <:+ tail := by
  obtain ⟨spaced,word,found⟩ := Option.bind_eq_some_iff.mp found
  rw [Text.after_eq_some_iff.mp word]
  dsimp only at found
  split at found
  · obtain ⟨behind,pair,rfl⟩ := Option.map_eq_some_iff.mp found
    obtain ⟨front,split⟩ := bracketPair_eq_some pair
    have further : behind <:+ front ++ ']' :: behind := (List.suffix_cons ..).trans (List.suffix_append ..)
    rw [← split] at further
    refine ⟨'n',"ew".toList ++ spaced,rfl,?_⟩
    exact ((((List.dropWhile_suffix _).trans (dropBracketPairs_suffix behind)).trans further).trans
      ((List.dropWhile_suffix _).trans (List.dropWhile_suffix _))).trans (List.suffix_append ..)
  · cases found

-- The text without its array constructions: each one is passed over where it begins, and every other
-- character is copied.
def scan (text : Text) : Text :=
  match text with
  | [] => []
  | c :: tail =>
    match _found : after? (c :: tail) with
    | some rest => scan rest
    | none => c :: scan tail
termination_by text.length
decreasing_by
  · obtain ⟨_,_,same,shorter⟩ := after_suffix _found
    cases same
    exact Nat.lt_succ_of_le shorter.length_le
  · exact Nat.lt_succ_self _

variable {text : Text} {go : Text → Option Text} {before : Option Char} {limit : Nat} {c : Char}

theorem has_nameChars : nameChars.has = isTypeNameChar := by
  funext c
  rw [Bool.eq_iff_iff]
  simp only [nameChars,CharSet.has,Text.inSpans,Text.Span.anyHolds,isTypeNameChar,Text.isAsciiDigit,Char.le_def,
    UInt32.le_iff_toNat_le,Char.toNat_val,Bool.or_eq_true,Bool.and_eq_true,decide_eq_true_eq]
  have codes : '0'.toNat = 48 ∧ '9'.toNat = 57 ∧ 'A'.toNat = 65 ∧ 'Z'.toNat = 90 ∧ 'a'.toNat = 97 ∧ 'z'.toNat = 122 := by
    decide
  split
  · rw [decide_eq_true_eq]
    omega
  · split
    · rw [decide_eq_true_eq]
      omega
    · split
      · rw [decide_eq_true_eq]
        omega
      · simp only [Bool.false_eq_true,false_iff]
        omega

theorem space_apart (space : CharSet.space.has c = true) :
    nameChars.has c = false ∧ (CharSet.only '[').has c = false ∧ (CharSet.only ']').has c = false :=
  ⟨CharSet.has_of_apart (by decide) space,CharSet.has_of_apart (by decide) space,CharSet.has_of_apart (by decide) space⟩

theorem name_apart (name : nameChars.has c = true) :
    CharSet.space.has c = false ∧ (CharSet.only '[').has c = false :=
  ⟨CharSet.has_of_apart (by decide) name,CharSet.has_of_apart (by decide) name⟩

theorem after_single {d : Char} : Text.after? [d] (c :: text) = if (CharSet.only d).has c then some text else none := by
  have same : (CharSet.only d).has c = true ↔ d = c := CharSet.has_only.trans eq_comm
  simp [Text.after?,same]

theorem tried_char {d : Char} : (char d).ends.tried ⟨before,text⟩ go = (Text.after? [d] text).bind go := by
  cases text with
  | nil => rfl
  | cons c text =>
    rw [char,tried_cons,after_single]
    split <;> rfl

theorem tried_bracketPair : bracketPair.ends.tried ⟨before,text⟩ go = (bracketPair? text).bind go := by
  let closing : Text → Option Text := fun rest => (Text.after? [']'] rest).bind go
  let opening : Text → Option Text := fun rest => (Text.after? ['['] rest).bind fun inner => closing (inner.dropWhile Text.isSpace)
  have closes : Settled .space closing := by
    intro c rest space
    exact .inl (by simp [closing,after_single,space_apart space])
  have opens : Settled .space opening := by
    intro c rest space
    exact .inl (by simp [opening,after_single,space_apart space])
  have whole : bracketPair.ends.tried ⟨before,text⟩ go = opening (text.dropWhile Text.isSpace) := by
    refine (tried_both fun next => ?_).trans (tried_run opens)
    refine (tried_both fun next => ?_).trans tried_char
    exact (tried_both fun next => tried_char).trans (tried_run closes)
  rw [whole]
  simp only [opening,closing,bracketPair?,Option.bind_assoc]

theorem dropBracketPairs_some {rest : Text} (found : bracketPair? text = some rest) :
    dropBracketPairs text = dropBracketPairs rest := by
  rw [dropBracketPairs]
  split
  · rename_i other same
    cases found.symm.trans same
    rfl
  · rename_i none
    cases found.symm.trans none

theorem dropBracketPairs_none (absent : bracketPair? text = none) : dropBracketPairs text = text := by
  rw [dropBracketPairs]
  split
  · rename_i rest some
    cases absent.symm.trans some
  · rfl

-- As many pairs are taken as there are, where the search can always go on behind them.
theorem tried_bracketPairs (always : ∀ text, (go text).isSome) (enough : text.length ≤ limit) :
    (bracketPair.ends.upTo limit).tried ⟨before,text⟩ go = go (dropBracketPairs text) := by
  induction limit generalizing before text with
  | zero =>
    obtain rfl := List.length_eq_zero_iff.mp (Nat.le_zero.mp enough)
    rw [dropBracketPairs_none rfl]
    exact List.findSome?_singleton
  | succ limit ih =>
    -- What happens behind an end depends on the text there only.
    let further : Text → Option Text := fun rest => if rest.length < text.length then go (dropBracketPairs rest) else go rest
    have one : ((bracketPair.ends ⟨before,text⟩).findSome? fun next =>
        if next.rest.length < text.length then (bracketPair.ends.upTo limit).tried next go else go next.rest) =
        (bracketPair? text).bind further := by
      rw [← tried_bracketPair,Ends.tried]
      congr 1
      funext next
      by_cases shorter : next.rest.length < text.length
      · simp only [further,if_pos shorter]
        exact ih (by omega)
      · simp only [further,if_neg shorter]
    rw [tried_upTo_succ,one]
    cases found : bracketPair? text with
    | none => rw [dropBracketPairs_none found,Option.bind_none,Option.none_or]
    | some rest =>
      have shorter : rest.length < text.length := bracketPair_shorter found
      rw [dropBracketPairs_some found,Option.bind_some]
      simp only [further,if_pos shorter]
      exact Option.or_of_isSome (always _)

theorem after_cons {d e : Char} {head : Text} :
    Text.after? (d :: e :: head) text = (Text.after? [d] text).bind (Text.after? (e :: head)) := by
  cases text with
  | nil => rfl
  | cons c text => by_cases same : d = c <;> simp [Text.after?,same]

-- The preferred match is the construction that the scanner finds. No part of the pattern can begin with
-- a character that the part before it takes.
theorem tried_pattern : pattern.ends.tried ⟨before,text⟩ some = after? text := by
  let spaced : Text → Option Text := fun rest => some (rest.dropWhile Text.isSpace)
  let paired : Text → Option Text := fun rest => (bracketPair? rest).bind fun rest => spaced (dropBracketPairs rest)
  let named : Text → Option Text := fun rest =>
    if (rest.dropWhile isTypeNameChar).length < rest.length then paired (rest.dropWhile isTypeNameChar) else none
  let opened : Text → Option Text := fun rest =>
    if (rest.dropWhile Text.isSpace).length < rest.length then named (rest.dropWhile Text.isSpace) else none
  have names : Settled nameChars paired := by
    intro c rest name
    have solid : Text.isSpace c = false := (name_apart name).1
    exact .inl (by simp [paired,bracketPair?,solid,after_single,name_apart name])
  have gaps : Settled .space named := by
    intro c rest space
    have other : isTypeNameChar c = false := has_nameChars ▸ (space_apart space).1
    exact .inl (by simp [named,other])
  have trailing (next : Position) : (spaces 0).ends.tried next some = spaced next.rest :=
    tried_run fun _ _ _ => .inr rfl
  have pairs (next : Position) :
      (Pattern.both (.repeated (.group bracketPair) 1 none) (spaces 0)).ends.tried next some = paired next.rest := by
    refine (tried_both trailing).trans ?_
    exact (tried_between_one fun next => tried_bracketPairs (fun _ => rfl) (Nat.le_refl _)).trans tried_bracketPair
  have name (next : Position) := (tried_both pairs).trans (@tried_someRun nameChars paired next.before next.rest names)
  rw [has_nameChars] at name
  have gap (next : Position) := (tried_both name).trans (@tried_someRun .space named next.before next.rest gaps)
  have word : pattern.ends.tried ⟨before,text⟩ some = (Text.after? "new".toList text).bind opened := by
    simp only [String.reduceToList,after_cons,Option.bind_assoc]
    exact (tried_both fun next => (tried_both fun next => (tried_both gap).trans tried_char).trans tried_char).trans tried_char
  rw [word,after?]
  congr 1
  funext rest
  have mapped (rest : Text) : (bracketPair? rest).map (fun rest => (dropBracketPairs rest).dropWhile Text.isSpace) =
      paired rest := Option.map_eq_bind
  by_cases some : (rest.dropWhile Text.isSpace).length < rest.length <;> simp [opened,named,mapped,some]

theorem preferredLength_pattern : pattern.preferredLength ⟨before,text⟩ =
    ((after? text).map (text.length - ·.length)).getD 0 := by
  rw [preferredLength_eq,tried_pattern]

theorem withoutFrom_scan : withoutFrom pattern before 0 text = scan text := by
  fun_induction scan text generalizing before with
  | case1 => rfl
  | case2 c tail rest found ih =>
    obtain ⟨_,_,same,suffix⟩ := after_suffix found
    cases same
    have shorter : rest.length ≤ tail.length := suffix.length_le
    have length : (c :: tail).length - rest.length = tail.length - rest.length + 1 := by
      rw [List.length_cons]
      omega
    have passed : tail.drop (tail.length - rest.length) = rest := (List.suffix_iff_eq_drop.mp suffix).symm
    obtain ⟨side,later⟩ := @withoutFrom_held pattern (some c) tail (tail.length - rest.length)
    rw [withoutFrom,if_pos rfl,preferredLength_pattern,found,Option.map_some,Option.getD_some,length]
    exact (later.trans (congrArg _ passed)).trans ih
  | case3 c tail absent ih =>
    rw [withoutFrom,if_pos rfl,preferredLength_pattern,absent]
    exact congrArg (c :: ·) ih

theorem strip_eq_scan : strip text = scan text := withoutFrom_scan

end ArrayConstruction

namespace TestCase
open ArrayConstruction

theorem display_scanned : (∀ text, strip text = scan text) ∧
    ∀ (case : TestCase) (showExpected : Bool), case.isHidden = false →
      (∀ description ∈ case.description, Text.isBlank description = true) →
      case.display showExpected = case.prompt.methodName ++ '(' :: scan case.input ++ ')' ::
        (if showExpected then " -> ".toList ++ scan case.expectedOutput else []) := by
  refine ⟨fun text => strip_eq_scan,?_⟩
  intro case showExpected shown undescribed
  have silent : case.authoredDescription? = none := by
    rw [authoredDescription?,Text.nonBlank?,Option.filter_eq_none_iff]
    intro description given
    simp [undescribed description given]
  unfold display
  simp only [shown,silent,strip_eq_scan]
  cases showExpected with
  | false => simp
  | true => simp

theorem constructions_left_out :
    let input := "new int[] new a1 [\t] [ ]\n2, new b, new int[3]".toList
    let expectedOutput := "new\nint[ ] {1}".toList
    let case : TestCase := {id := 1,prompt := ⟨1,"A".toList,"f".toList⟩,input,expectedOutput,weight := .zero}
    (case.isHidden = false ∧ ∀ description ∈ case.description, Text.isBlank description = true) ∧
      case.display true = "f(2, new b, new int[3]) -> {1}".toList := by
  intro input expectedOutput case
  refine ⟨⟨rfl,nofun⟩,?_⟩
  refine (display_scanned.2 case true rfl nofun).trans ?_
  rw [← strip_eq_scan,← strip_eq_scan]
  decide +kernel

end TestCase

end Marking
