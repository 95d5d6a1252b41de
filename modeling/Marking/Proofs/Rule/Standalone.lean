import Marking.Proofs.Rule.Listing
import Marking.Proofs.Rule.Words

-- Whether a rule on keywords or classes finds a token of its list wherever the token stands alone.
-- A token that begins or ends with anything but a word character has no word boundary there.

namespace Marking.Matcher

variable {names : List Text} {name token code input : Text} {kind : NameKind} {matcher : Matcher}

def WordEdged (token : Text) : Prop :=
  token.head?.any Pattern.isWordChar = true ∧ token.getLast?.any Pattern.isWordChar = true

theorem delimited_alone : Delimited [] token [] ↔ WordEdged token := by
  have side : ∀ side : Option Char, Pattern.isWordSide false side = side.any Pattern.isWordChar := by
    simp [Pattern.isWordSide]
  constructor
  · rintro ⟨starts,ends⟩
    simp only [isEdge,side,List.append_nil,List.nil_append] at starts ends
    exact ⟨by simpa using starts,by simpa using ends⟩
  · rintro ⟨first,last⟩
    refine ⟨?_,?_⟩
    · simp only [isEdge,side,List.append_nil,first]
      rfl
    · simp only [isEdge,side,List.nil_append,last]
      rfl

theorem hasWord_self : HasWord token token ↔ WordEdged token := by
  rw [← delimited_alone]
  constructor
  · rintro ⟨before,after,split,delimited⟩
    have lengths := congrArg List.length split
    simp only [List.length_append] at lengths
    obtain rfl : before = [] := List.eq_nil_of_length_eq_zero (by omega)
    obtain rfl : after = [] := List.eq_nil_of_length_eq_zero (by omega)
    exact delimited
  · intro delimited
    exact ⟨[],[],by simp,delimited⟩

theorem standsApart_self (apart : Char → Bool) (token : Text) : StandsApart apart token token :=
  ⟨[],[],by simp,rfl,rfl⟩

theorem standalone_iff (listed : token ∈ names) :
    (∀ code, StandsApart Text.isSpace token code → ∃ name ∈ names, HasWord name code) ↔
      WordEdged token ∨ ∃ name ∈ names, name ≠ token ∧ HasWord name token := by
  constructor
  · intro all
    obtain ⟨name,member,found⟩ := all token (standsApart_self Text.isSpace token)
    by_cases same : name = token
    · subst same
      exact .inl (hasWord_self.mp found)
    · exact .inr ⟨name,member,same,found⟩
  · rintro (edged | ⟨name,member,_,found⟩) code alone
    · exact ⟨token,listed,(hasWord_self.mpr edged).of_apart alone fun _ => isWordChar_of_isSpace⟩
    · exact ⟨name,member,found.of_apart alone fun _ => isWordChar_of_isSpace⟩

theorem standalone_found_iff (accepted : RuleSpec.read input = .ok (.names kind names)) (worded : kind ≠ .method)
    (listed : token ∈ names) (compiled : compile (.names kind names) = .ok matcher) :
    (∀ code, StandsApart Text.isSpace token code → matcher.found code = true) ↔
      WordEdged token ∨ ∃ name ∈ names, name ≠ token ∧ HasWord name token := by
  simp only [found_words worded (RuleSpec.read_names accepted).1 compiled]
  exact standalone_iff listed

theorem parameterized_type_found :
    let input := "classes: List<String>, String".toList
    let token := "List<String>".toList
    let names := [token,"String".toList]
    (RuleSpec.read input = .ok (.names .className names) ∧ NameKind.className ≠ .method ∧ token ∈ names) ∧
      ∃ matcher, compile (.names .className names) = .ok matcher ∧
        ∀ code, StandsApart Text.isSpace token code → matcher.found code = true := by
  intro input token names
  have accepted : RuleSpec.read input = .ok (.names .className names) := by decide
  have worded : NameKind.className ≠ .method := by decide
  have listed : token ∈ names := by decide
  have inner : HasWord "String".toList token := ⟨"List<".toList,">".toList,rfl,by decide +kernel,by decide +kernel⟩
  have compiled := compile_words worded (RuleSpec.read_names accepted).1
  rw [if_pos (by decide +kernel)] at compiled
  refine ⟨⟨accepted,worded,listed⟩,_,compiled,?_⟩
  apply (standalone_found_iff accepted worded listed compiled).mpr
  exact .inr ⟨_,by decide,by decide,inner⟩

-- There is no word boundary between the white space, or the edge of the text, and the sign.
theorem annotation_missed :
    let names := ["@Override".toList]
    let code := "@Override\nint size()".toList
    RuleSpec.read "keyword: @Override".toList = .ok (.names .keyword names) ∧
      StandsApart Text.isSpace "@Override".toList code ∧
      (compile (.names .keyword names)).map (·.found code) = .ok false := by
  intro names code
  have listed : names ≠ [] := by decide
  have worded : NameKind.keyword ≠ .method := by decide
  have compiled := compile_words worded listed
  rw [if_pos (by decide +kernel)] at compiled
  rw [compiled]
  exact ⟨by decide,⟨[],"\nint size()".toList,rfl,rfl,by decide⟩,by decide +kernel⟩

end Marking.Matcher
