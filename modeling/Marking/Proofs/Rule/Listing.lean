import Marking.Proofs.Text.Cutting
import Marking.Rule.Reading

-- Lists of names: every way of separating names is read back as these names.

namespace Marking

structure IsToken (name : Text) : Prop where
  nonempty : name ≠ []
  whole : ∀ c ∈ name, isSeparator c = false

-- What stands between names. Between two of them there is at least one separator.
def IsGap (gap : Text) : Prop := ∀ c ∈ gap, isSeparator c = true

inductive Listed : List Text → Text → Prop where
  | last {name gap : Text} (token : IsToken name) (separators : IsGap gap) : Listed [name] (name ++ gap)
  | next {name gap rest : Text} {names : List Text} (token : IsToken name) (separators : IsGap gap)
      (apart : gap ≠ []) (more : Listed names rest) : Listed (name :: names) (name ++ (gap ++ rest))

variable {gap text list input name : Text} {kind : NameKind} {listed : List Text} {c : Char}

theorem isToken_of_mem_names (member : name ∈ names list) : IsToken name := by
  obtain ⟨piece,kept⟩ := List.mem_filter.mp member
  exact ⟨by simpa using kept,Text.not_cut_of_mem_splitOnP piece⟩

theorem IsToken.unspaced (token : IsToken name) : ∀ c ∈ name, Text.isSpace c = false := by
  intro c member
  have whole := token.whole c member
  simp only [isSeparator,Bool.or_eq_false_iff] at whole
  exact whole.2

theorem RuleSpec.read_names (accepted : RuleSpec.read input = .ok (.names kind listed)) :
    listed ≠ [] ∧ ∀ name ∈ listed, IsToken name := by
  unfold RuleSpec.read at accepted
  split at accepted
  · split at accepted
    · cases accepted
    · rename_i nonempty
      cases accepted
      exact ⟨by simpa using nonempty,fun name member => isToken_of_mem_names member⟩
  · split at accepted
    · cases accepted
    · split at accepted
      · cases accepted
      · rename_i body flags _
        cases read : PatternFlags.read flags with
        | ok flags => rw [read] at accepted; cases accepted
        | error failure => rw [read] at accepted; cases accepted
    · cases accepted

@[simp] theorem isGap_nil : IsGap [] := by simp [IsGap]

@[simp] theorem isGap_cons : IsGap (c :: gap) ↔ isSeparator c = true ∧ IsGap gap := by simp [IsGap]

theorem names_append_cons (separator : isSeparator c = true) (front back : Text) :
    names (front ++ c :: back) = names front ++ names back := by
  simp [names,List.splitOnP_append_cons front back separator]

theorem names_token (token : IsToken text) : names text = [text] := by
  simp [names,List.splitOnP_eq_singleton token.whole,token.nonempty]

theorem names_gap_append (separators : IsGap gap) (rest : Text) : names (gap ++ rest) = names rest := by
  induction gap with
  | nil => rfl
  | cons c gap ih =>
    obtain ⟨first,later⟩ := isGap_cons.mp separators
    have dropped := names_append_cons first [] (gap ++ rest)
    rw [List.cons_append,← List.nil_append (c :: _),dropped,ih later]
    simp [names]

theorem names_gap (separators : IsGap gap) : names gap = [] := by
  have emptied := names_gap_append separators []
  simpa [names] using emptied

theorem Listed.roundtrip (written : Listed listed list) : names list = listed := by
  induction written with
  | @last name gap token separators =>
    cases gap with
    | nil => simpa using names_token token
    | cons c gap =>
      obtain ⟨first,later⟩ := isGap_cons.mp separators
      rw [names_append_cons first,names_token token,names_gap later]
      rfl
  | @next name gap rest names token separators apart more ih =>
    cases gap with
    | nil => contradiction
    | cons c gap =>
      obtain ⟨first,later⟩ := isGap_cons.mp separators
      rw [List.cons_append,names_append_cons first,names_token token,names_gap_append later,ih]
      rfl

theorem Listed.nonempty (written : Listed listed list) : listed ≠ [] := by
  cases written <;> simp

theorem Listed.grow (written : Listed listed list) (plain : isSeparator c = false) :
    ∃ grown, Listed grown (c :: list) := by
  cases written with
  | @last name gap token separators =>
    have longer : IsToken (c :: name) := ⟨by simp,by simpa [plain] using token.whole⟩
    exact ⟨_,.last longer separators⟩
  | @next name gap rest names token separators apart more =>
    have longer : IsToken (c :: name) := ⟨by simp,by simpa [plain] using token.whole⟩
    exact ⟨_,.next longer separators apart more⟩

theorem gap_or_listed (text : Text) :
    IsGap text ∨ ∃ lead listed list, IsGap lead ∧ Listed listed list ∧ text = lead ++ list := by
  induction text with
  | nil => exact .inl isGap_nil
  | cons c rest ih =>
    cases plain : isSeparator c with
    | true =>
      rcases ih with separators | ⟨lead,listed,list,separators,written,rfl⟩
      · exact .inl (isGap_cons.mpr ⟨plain,separators⟩)
      · exact .inr ⟨c :: lead,listed,list,isGap_cons.mpr ⟨plain,separators⟩,written,rfl⟩
    | false =>
      have single : IsToken [c] := ⟨by simp,by simpa using plain⟩
      rcases ih with separators | ⟨lead,listed,list,separators,written,rfl⟩
      · exact .inr ⟨[],[[c]],c :: rest,isGap_nil,.last single separators,rfl⟩
      · cases lead with
        | nil =>
          obtain ⟨grown,longer⟩ := written.grow plain
          exact .inr ⟨[],grown,c :: list,isGap_nil,longer,rfl⟩
        | cons d lead =>
          exact .inr ⟨[],[c] :: listed,_,isGap_nil,.next single separators (by simp) written,rfl⟩

theorem names_exact (nonempty : listed ≠ []) :
    names text = listed ↔ ∃ lead list, IsGap lead ∧ Listed listed list ∧ text = lead ++ list := by
  constructor
  · intro read
    rcases gap_or_listed text with separators | ⟨lead,others,list,separators,written,rfl⟩
    · exact absurd (read.symm.trans (names_gap separators)) nonempty
    · have same : others = listed := by rw [← written.roundtrip,← names_gap_append separators,read]
      exact ⟨lead,list,separators,same ▸ written,rfl⟩
  · rintro ⟨lead,list,separators,written,rfl⟩
    rw [names_gap_append separators,written.roundtrip]

end Marking
