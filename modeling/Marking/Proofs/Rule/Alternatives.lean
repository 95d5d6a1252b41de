import Marking.Proofs.Rule.Calls
import Marking.Proofs.Rule.Words
import Marking.Proofs.Text.Trimming
import Marking.Rule.Reading

-- A rule with several names means any of them, whatever their order. Called methods are searched
-- for all at once, though, and then a call of one name on this can hide a call of another.

namespace Marking.Matcher

variable {one two names : List Text} {text after code : Text} {kind : NameKind} {joined left right : Matcher}

theorem Continues.of_subset (continues : Continues one text after) (subset : one ⊆ names) :
    Continues names text after := by
  obtain ⟨gap,name,pause,split,listed,blanks⟩ := continues
  exact ⟨gap,name,pause,split,subset listed,blanks⟩

theorem Continues.append_iff : Continues (one ++ two) text after ↔ Continues one text after ∨ Continues two text after := by
  constructor
  · rintro ⟨gap,name,pause,split,listed,blanks⟩
    rcases List.mem_append.mp listed with first | second
    · exact .inl ⟨gap,name,pause,split,first,blanks⟩
    · exact .inr ⟨gap,name,pause,split,second,blanks⟩
  · rintro (first | second)
    · exact first.of_subset (List.subset_append_left one two)
    · exact second.of_subset (List.subset_append_right one two)

theorem Hides.of_subset (hides : Hides one code) (subset : one ⊆ names) : Hides names code := by
  obtain ⟨before,inner,within,after,rest,split,this,taking,other,continues⟩ := hides
  exact ⟨before,inner,within,after,rest,split,this,taking.of_subset subset,other,continues.of_subset subset⟩

theorem callsOther_append : CallsOther (one ++ two) code ↔ CallsOther one code ∨ CallsOther two code := by
  constructor
  · rintro ⟨before,text,after,split,continues,other⟩
    exact (Continues.append_iff.mp continues).imp (⟨before,text,after,split,·,other⟩) (⟨before,text,after,split,·,other⟩)
  · rintro (⟨before,text,after,split,continues,other⟩ | ⟨before,text,after,split,continues,other⟩)
    · exact ⟨before,text,after,split,Continues.append_iff.mpr (.inl continues),other⟩
    · exact ⟨before,text,after,split,Continues.append_iff.mpr (.inr continues),other⟩

theorem words_joined (worded : kind ≠ .method) (first : one ≠ []) (second : two ≠ [])
    (whole : compile (.names kind (one ++ two)) = .ok joined) (front : compile (.names kind one) = .ok left)
    (back : compile (.names kind two) = .ok right) : joined.found code = (left.found code || right.found code) := by
  have listed : one ++ two ≠ [] := List.append_ne_nil_of_left_ne_nil first two
  rw [Bool.eq_iff_iff,Bool.or_eq_true,found_words worded listed whole,found_words worded first front,
    found_words worded second back]
  simp only [List.mem_append,or_and_right,exists_or]

theorem calls_joined (first : one ≠ []) (second : two ≠ []) (seen : ¬ Hides (one ++ two) code)
    (whole : compile (.names .method (one ++ two)) = .ok joined) (front : compile (.names .method one) = .ok left)
    (back : compile (.names .method two) = .ok right) : joined.found code = (left.found code || right.found code) := by
  have listed : one ++ two ≠ [] := List.append_ne_nil_of_left_ne_nil first two
  have seenLeft : ¬ Hides one code := fun hides => seen (hides.of_subset (List.subset_append_left one two))
  have seenRight : ¬ Hides two code := fun hides => seen (hides.of_subset (List.subset_append_right one two))
  rw [Bool.eq_iff_iff,Bool.or_eq_true,found_calls listed whole seen,found_calls first front seenLeft,
    found_calls second back seenRight,callsOther_append]

-- Two lists of names together find what either of them finds, where all three compile. For methods
-- this takes code in which no call on this hides another call.
theorem joined_found (first : one ≠ []) (second : two ≠ [])
    (whole : compile (.names kind (one ++ two)) = .ok joined) (front : compile (.names kind one) = .ok left)
    (back : compile (.names kind two) = .ok right) (seen : kind = .method → ¬ Hides (one ++ two) code) :
    joined.found code = (left.found code || right.found code) := by
  by_cases called : kind = .method
  · subst called
    exact calls_joined first second (seen rfl) whole front back
  · exact words_joined called first second whole front back

theorem dotted_names_joined :
    let one := ["f.g".toList]
    let two := ["g".toList]
    let code := "x.f.g()".toList
    (one ≠ [] ∧ two ≠ [] ∧ (NameKind.method = .method → ¬ Hides (one ++ two) code)) ∧
      ∃ joined left right, compile (.names .method (one ++ two)) = .ok joined ∧
        compile (.names .method one) = .ok left ∧ compile (.names .method two) = .ok right ∧
        joined.found code = (left.found code || right.found code) := by
  intro one two code
  have first : one ≠ [] := by decide
  have second : two ≠ [] := by decide
  have listed : one ++ two ≠ [] := by decide
  have seen : NameKind.method = .method → ¬ Hides (one ++ two) code := by
    intro _ hides
    obtain ⟨before,inner,within,after,rest,split,⟨front,spelled,_⟩,_⟩ := hides
    have last : 's' ∈ Text.trimEnd before := by simp [spelled]
    have inside : 's' ∈ code := by
      rw [split]
      exact List.mem_append_left _ ((Text.trimEnd_prefix before).subset last)
    exact absurd inside (by decide)
  have whole := compile_calls listed
  have front := compile_calls first
  have back := compile_calls second
  rw [if_pos (by decide +kernel)] at whole front back
  exact ⟨⟨first,second,seen⟩,_,_,_,whole,front,back,joined_found first second whole front back seen⟩

-- Called on this, the longer name takes up the call of the shorter one, which is found without it.
theorem added_name_hides_call :
    let one := ["f.g".toList]
    let two := ["g".toList]
    let code := "this.f.g()".toList
    RuleSpec.read "method: f.g".toList = .ok (.names .method one) ∧
      RuleSpec.read "method: g".toList = .ok (.names .method two) ∧
      (compile (.names .method two)).map (·.found code) = .ok true ∧
      (compile (.names .method (one ++ two))).map (·.found code) = .ok false := by
  intro one two code
  have second : two ≠ [] := by decide
  have listed : one ++ two ≠ [] := by decide
  have back := compile_calls second
  have whole := compile_calls listed
  rw [if_pos (by decide +kernel)] at whole back
  rw [whole,back]
  exact ⟨by decide,by decide,by decide +kernel,by decide +kernel⟩

end Marking.Matcher
