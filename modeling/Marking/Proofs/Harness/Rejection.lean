import Marking.Proofs.Harness.Builtin

-- Registrations that fail. They leave the harness as it was, unless the language is registered
-- under another spelling: the template under that spelling is gone, while its name stays.

namespace Marking.Harness

section Engines
variable [TemplateEngine] {harness next : Harness} {language source other name previous : Text}
  {template : TemplateEngine.Compiled} {failure : Failure} {case : TestCase} {sink : Option Text}
  {done : Harness × Except Failure Unit}

def SameAnswers (before after : Harness) : Prop :=
  after.names = before.names ∧
    ∀ language case sink, after.render language case sink = before.render language case sink

-- A language is registered under a spelling other than the one that is given, and has its
-- template there.
def Displaces (harness : Harness) (language previous : Text) : Prop :=
  Text.trim language ≠ [] ∧ harness.languages.lookup (key language) = some previous ∧
    previous ≠ Text.trim language ∧ (harness.template? previous).isSome = true

structure Rejected (harness next : Harness) (language : Text) : Prop where
  names : next.names = harness.names
  others : ∀ other case sink, key other ≠ key language →
    (∀ previous, harness.Displaces language previous → ¬ harness.Asks other previous) →
    next.render other case sink = harness.render other case sink
  kept : (∀ previous, ¬ harness.Displaces language previous) → next = harness
  lost : ∀ previous, harness.Displaces language previous → ∀ other case sink, key other = key language →
    next.render other case sink = .error (.templateMissing (Text.quoted previous))

theorem render_missing (found : harness.languages.lookup (key language) = some name)
    (missing : harness.template? name = none) :
    harness.render language case sink = .error (.templateMissing (Text.quoted name)) := by
  simp only [render,found,missing]

theorem render_present {reason : Text} (found : harness.languages.lookup (key language) = some name)
    (present : harness.template? name = some template) :
    harness.render language case sink ≠ .error (.templateMissing reason) := by
  simp only [render,found,present]
  cases TemplateEngine.render? harness.template? template (bindings case sink) with
  | some code => rintro ⟨⟩
  | none => rintro ⟨⟩

theorem cleared_displaced (displaced : harness.Displaces language previous) :
    harness.cleared (Text.trim language) = harness.templates.filter (·.1 != previous) := by
  obtain ⟨_,found,different,_⟩ := displaced
  rw [cleared,key_trim,found]
  exact if_neg different

theorem cleared_kept (named : Text.trim language ≠ [])
    (kept : ∀ previous, ¬ harness.Displaces language previous) :
    harness.cleared (Text.trim language) = harness.templates := by
  rw [cleared,key_trim]
  cases found : harness.languages.lookup (key language) with
  | none => rfl
  | some previous =>
    by_cases same : previous = Text.trim language
    · exact if_pos same
    · have absent : harness.template? previous = none := by
        cases present : harness.template? previous with
        | none => rfl
        | some template => exact absurd ⟨named,found,same,by rw [present]; rfl⟩ (kept previous)
      simp only [if_neg same]
      exact without_absent absent

theorem Registration.displaced (step : Registration harness language source done) (failed : done.2 = .error failure)
    (changed : done.1.template? name ≠ harness.template? name) : harness.Displaces language name := by
  cases step with
  | blank _ => exact absurd rfl changed
  | entered _ _ => cases failed
  | unreadable named _ =>
    have found : harness.languages.lookup (key language) = some name := by
      by_contra kept
      exact changed (cleared_lookup kept)
    have different : name ≠ Text.trim language := by
      intro same
      refine changed ?_
      simp only [template?,cleared,key_trim,found,if_pos same]
    have gone : (harness.cleared (Text.trim language)).lookup name = none := by
      simp only [cleared,key_trim,found,if_neg different]
      exact lookup_without_self name harness.templates
    refine ⟨named,found,different,?_⟩
    rw [Option.isSome_iff_ne_none]
    intro absent
    exact changed (gone.trans absent.symm)

theorem Registration.rejected (lawful : TemplateEngine.Lawful) (step : Registration harness language source done)
    (valid : Keyed harness) (failed : done.2 = .error failure) : Rejected harness done.1 language := by
  have others : ∀ other case sink, key other ≠ key language →
      (∀ previous, harness.Displaces language previous → ¬ harness.Asks other previous) →
      done.1.render other case sink = harness.render other case sink := by
    intro other case sink different unasked
    refine render_kept lawful (step.held_other valid different) ?_
    intro touched asked
    by_contra changed
    exact unasked touched (step.displaced failed changed) asked
  cases step with
  | blank blank =>
    refine ⟨rfl,others,fun _ => rfl,?_⟩
    intro previous displaced
    exact absurd blank displaced.1
  | unreadable named _ =>
    refine ⟨rfl,others,?_,?_⟩
    · intro kept
      simp only [cleared_kept named kept]
    · intro previous displaced other case sink same
      have missing : (harness.cleared (Text.trim language)).lookup previous = none := by
        rw [cleared_displaced displaced]
        exact lookup_without_self previous harness.templates
      exact render_missing (same ▸ displaced.2.1) missing
  | entered _ _ => cases failed

theorem Rejected.sameAnswers_iff (rejected : Rejected harness next language) :
    SameAnswers harness next ↔ ∀ previous, ¬ harness.Displaces language previous := by
  constructor
  · intro same previous displaced
    obtain ⟨template,present⟩ := Option.isSome_iff_exists.mp displaced.2.2.2
    have lost := rejected.lost previous displaced language
      {id := 0,prompt := ⟨0,[],[]⟩,weight := .zero} none rfl
    rw [same.2] at lost
    exact render_present displaced.2.1 present lost
  · intro kept
    rw [rejected.kept kept]
    exact ⟨rfl,fun _ _ _ => rfl⟩

theorem register_unreadable (named : Text.trim language ≠ []) (unread : TemplateEngine.read? (Text.trim language) source = none) :
    (harness.register language source).2 = .error (.invalidTemplate (Text.trim language)) := by
  have nonempty : (Text.trim language).isEmpty = false := by simpa using named
  simp only [register,nonempty,unread]
  rfl

theorem register_displaces (named : Text.trim language ≠ []) (read : TemplateEngine.read? (Text.trim language) source = some template)
    (respelled : key other = key language) (different : Text.trim language ≠ Text.trim other)
    (renamed : Text.trim other ≠ []) :
    (harness.register language source).1.Displaces other (Text.trim language) := by
  have nonempty : (Text.trim language).isEmpty = false := by simpa using named
  refine ⟨renamed,?_,different,?_⟩
  · simp only [register,nonempty,read,key_trim,respelled]
    exact lookup_insert_self (key language) (Text.trim language) harness.languages
  · simp only [template?,register,nonempty,read]
    simp

-- The names stay as they are, and so does all that is rendered for other languages without the template
-- that goes. For its own language, a failed registration is seen exactly when it displaces another spelling.
theorem register_failure_exact (lawful : TemplateEngine.Lawful) (requests : List Request)
    (failed : ((initial.run requests).register language source).2 = .error failure) :
    let harness := initial.run requests
    let next := (harness.register language source).1
    Rejected harness next language ∧
      (SameAnswers harness next ↔ ∀ previous, ¬ harness.Displaces language previous) := by
  intro harness next
  have step : Registration harness language source (harness.register language source) :=
    register_registration harness language source
  have rejected : Rejected harness next language := step.rejected lawful (run_keyed requests) failed
  exact ⟨rejected,rejected.sameAnswers_iff⟩

end Engines

-- Such a failure: a template for Go is registered, and then a broken one for go.
def broken : Text := "\x7b% if %\x7d".toList

theorem broken_rejected (harness : Harness) :
    (harness.register "go".toList broken).2 = .error (.invalidTemplate "go".toList) := by
  have named : Text.trim "go".toList ≠ [] := by decide
  have unread : Template.read? broken = none := by decide +kernel
  exact register_unreadable named unread

theorem respelled_failure_exact :
    let harness := initial.run [.register "Go".toList "x".toList]
    let next := (harness.register "go".toList broken).1
    (harness.register "go".toList broken).2 = .error (.invalidTemplate "go".toList) ∧
      Rejected harness next "go".toList ∧
      (SameAnswers harness next ↔ ∀ previous, ¬ harness.Displaces "go".toList previous) :=
  ⟨broken_rejected _,register_failure_exact engine_lawful [.register "Go".toList "x".toList] (broken_rejected _)⟩

theorem respelled_failure_seen :
    let harness := initial.run [.register "Go".toList "x".toList]
    let next := (harness.register "go".toList broken).1
    (harness.register "go".toList broken).2 = .error (.invalidTemplate "go".toList) ∧
      ¬ SameAnswers harness next := by
  intro harness next
  have failed : (harness.register "go".toList broken).2 = .error (.invalidTemplate "go".toList) :=
    broken_rejected harness
  have readable : (Template.read? "x".toList).isSome = true := by decide +kernel
  obtain ⟨template,read⟩ := Option.isSome_iff_exists.mp readable
  have displaced : harness.Displaces "go".toList "Go".toList :=
    register_displaces (by decide) read (by decide) (by decide) (by decide)
  have rejected : Rejected harness next "go".toList :=
    (register_registration harness "go".toList broken).rejected engine_lawful (run_keyed _) failed
  refine ⟨failed,?_⟩
  intro same
  exact rejected.sameAnswers_iff.mp same "Go".toList displaced

end Marking.Harness
