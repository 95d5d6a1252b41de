import Marking.Proofs.Rule.NamePattern
import Marking.Proofs.Rule.Writing
import Marking.Proofs.Text.Trimming

-- What the message of a rule speaks of is what was read of the rule: the same list of names, or the
-- whole text of a pattern.

namespace Marking

def Lists (listed : List Text) (text : Text) : Prop :=
  ∃ lead list, IsGap lead ∧ Listed listed list ∧ text = lead ++ list

variable {input list inner text gap : Text} {listed : List Text} {kind : NameKind} {case : TestCase}
  {spec : RuleSpec}

theorem names_append_gap (text : Text) (separators : IsGap gap) : names (text ++ gap) = names text := by
  cases gap with
  | nil => rw [List.append_nil]
  | cons c gap =>
    obtain ⟨first,later⟩ := isGap_cons.mp separators
    rw [names_append_cons first,names_gap later,List.append_nil]

theorem isGap_of_isSpace (blank : ∀ c ∈ gap, Text.isSpace c = true) : IsGap gap := by
  intro c member
  rw [isSeparator,blank c member,Bool.or_true]

-- White space separates names, so that trimming takes nothing from them.
theorem names_padded (padded : Text.Padded inner text) : names text = names inner := by
  obtain ⟨left,right,rfl,before,behind⟩ := padded
  rw [names_gap_append (isGap_of_isSpace before),names_append_gap inner (isGap_of_isSpace behind)]

namespace RuleSpec

theorem subject_opening (input : Text) :
    subject input = ((opening? input).map fun opened => Text.trim opened.2).getD input := by
  have found : NameKind.all.findSome? (·.after? input) = (opening? input).map (·.2) := by
    rw [opening?,List.map_findSome?]
    congr 1
    funext kind
    cases after : kind.after? input <;> simp [after]
  rw [subject,found]
  cases opening? input <;> rfl

theorem subject_opened (opened : opening? input = some (kind,list)) : subject input = Text.trim list := by
  rw [subject_opening,opened]
  rfl

theorem subject_unopened (closed : opening? input = none) : subject input = input := by
  rw [subject_opening,closed]
  rfl

theorem opening_pattern (rest : Text) : opening? ('/' :: rest) = none := by
  rw [opening_none]
  rintro kind head opens ⟨tail,split⟩
  have first := opens.no_slash tail
  simp [split] at first

-- The text behind the marker, trimmed, which lists the names that were read.
structure ListSubject (kind : NameKind) (listed : List Text) (input subject : Text) : Prop where
  placed : ∃ head rest, kind.Opens head ∧ input = head ++ rest ∧ Text.Padded subject rest
  trimmed : Text.trim subject = subject
  names : Marking.names subject = listed
  lists : Lists listed subject

theorem listSubject_of_read (read : RuleSpec.read input = .ok (.names kind listed)) :
    ListSubject kind listed input (subject input) := by
  cases read_canonical read with
  | @names kind head lead list listed opens separators written =>
    have opened : opening? (head ++ (lead ++ list)) = some (kind,lead ++ list) := opening_exact.mpr ⟨head,opens,rfl⟩
    have padded : Text.Padded (Text.trim (lead ++ list)) (lead ++ list) := (Text.trim_eq_iff.mp rfl).1
    have same : Marking.names (Text.trim (lead ++ list)) = listed := by
      rw [← names_padded padded,names_gap_append separators,written.roundtrip]
    rw [subject_opened opened]
    exact ⟨⟨head,_,opens,rfl,padded⟩,Text.trim_trim _,same,(names_exact written.nonempty).mp same⟩

theorem subject_of_pattern {body : Text} {flags : PatternFlags} (read : RuleSpec.read input = .ok (.pattern body flags)) :
    subject input = input := by
  cases read_canonical read with
  | pattern body known => exact subject_unopened (opening_pattern _)

theorem subject_of_literal (read : RuleSpec.read input = .ok (.literal text)) : subject input = input := by
  cases read_canonical read with
  | literal nonempty slash free => exact subject_unopened (opening_none.mpr free)

-- How a message begins that nobody wrote.
def messageOpening (requirement : Requirement) (spec : RuleSpec) : Text :=
  "Answer ".toList ++ (if requirement.required then "must ".toList else "cannot ".toList) ++ spec.verb ++ [' ']

theorem defaultFeedback_eq (spec : RuleSpec) (requirement : Requirement) (input : Text) :
    StaticRule.defaultFeedback spec requirement input = messageOpening requirement spec ++ subject input := by
  unfold StaticRule.defaultFeedback messageOpening
  cases requirement.required <;> simp

structure SubjectAgrees (input : Text) : Prop where
  names : ∀ kind listed, RuleSpec.read input = .ok (.names kind listed) → ListSubject kind listed input (subject input)
  message : ∀ kind listed, RuleSpec.read input = .ok (.names kind listed) →
    ∀ (case : TestCase) (rule : StaticRule), case.input = input → case.authoredFeedback? = none →
      StaticRule.compile case = .ok rule → rule.spec = .names kind listed ∧
        rule.feedback = messageOpening rule.requirement rule.spec ++ subject input ∧ Lists listed (subject input)
  pattern : ∀ body flags, RuleSpec.read input = .ok (.pattern body flags) → subject input = input
  literal : ∀ text, RuleSpec.read input = .ok (.literal text) → subject input = input

theorem subject_agrees (input : Text) : SubjectAgrees input := by
  refine ⟨fun _ _ => listSubject_of_read,?_,fun _ _ => subject_of_pattern,fun _ => subject_of_literal⟩
  intro kind listed read case rule given silent compiled
  subst given
  rw [StaticRule.compile_spec read] at compiled
  cases matched : Matcher.compile (.names kind listed) with
  | error failure =>
    rw [matched] at compiled
    cases compiled
  | ok matcher =>
    rw [matched,silent,defaultFeedback_eq] at compiled
    cases compiled
    exact ⟨rfl,rfl,(listSubject_of_read read).lists⟩

theorem spaced_list_agrees :
    let input := "METHODS: size,,get \n".toList
    let case : TestCase := {id := 1,prompt := ⟨1,[],[]⟩,input,weight := .zero}
    let listed := ["size".toList,"get".toList]
    (RuleSpec.read input = .ok (.names .method listed) ∧ case.authoredFeedback? = none) ∧
      subject input = "size,,get".toList ∧
      ∃ rule, StaticRule.compile case = .ok rule ∧ rule.spec = .names .method listed ∧
        rule.feedback = messageOpening rule.requirement rule.spec ++ subject input ∧ Lists listed (subject input) := by
  intro input case listed
  have read : RuleSpec.read case.input = .ok (.names .method listed) := by decide
  have silent : case.authoredFeedback? = none := by decide
  have named : listed ≠ [] := by decide
  have matched := Matcher.compile_calls named
  rw [if_pos (by decide +kernel)] at matched
  have compiled := StaticRule.compile_spec read
  rw [matched] at compiled
  exact ⟨⟨read,silent⟩,by decide +kernel,_,compiled,(subject_agrees input).message .method listed read case _ rfl silent compiled⟩

end RuleSpec
end Marking
