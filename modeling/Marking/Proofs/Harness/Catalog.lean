import Marking.Proofs.Harness.Builtin

-- The languages of a harness after any requests, which registration decides what is rendered, and
-- which registrations can change it.

namespace Marking.Harness

section Engines
variable [TemplateEngine] {harness : Harness} {requests : List Request} {language source other name : Text}
  {earlier later : List (Text × Text)} {last : Text × Text} {case : TestCase} {sink : Option Text}
  {template : TemplateEngine.Compiled} {done : Harness × Except Failure Unit}

def history (requests : List Request) : List (Text × Text) := builtin ++ requests.flatMap Request.attempts

-- A language stands apart from a registration where it has another key and asks neither for the template
-- of the registered name nor for the one under the spelling that the name has so far.
structure Apart (harness : Harness) (language other : Text) : Prop where
  keys : key other ≠ key language
  registered : ¬ harness.Asks other (Text.trim language)
  previous : ∀ name, harness.languages.lookup (key language) = some name → ¬ harness.Asks other name

structure Catalogued (requests : List Request) (harness : Harness) : Prop where
  entered : harness = (history requests).foldl enter empty
  ascending : harness.names.Pairwise fun a b => Text.lowerAll a < Text.lowerAll b
  spelled : ∀ name ∈ harness.names, Text.trim name = name ∧ name ≠ []
  kept : ∀ more, ∀ name ∈ harness.names, ∃ later ∈ (harness.run more).names, key later = key name
  others : ∀ language source other case sink, harness.Apart language other →
    (harness.register language source).1.render other case sink = harness.render other case sink
  -- The last attempt under a key is `last`, and it succeeded.
  latest : ∀ language earlier last later, history requests = earlier ++ last :: later →
    key last.1 = key language → ((earlier.foldl enter empty).register last.1 last.2).2 = .ok () →
    (∀ attempt ∈ later, key attempt.1 ≠ key language) →
    ∃ template, TemplateEngine.read? (Text.trim last.1) last.2 = some template ∧ Text.trim last.1 ∈ harness.names ∧
      ∀ case sink, harness.render language case sink = harness.codeOf (Text.trim last.1) template case sink

theorem run_history (lawful : TemplateEngine.Lawful) (requests : List Request) :
    initial.run requests = (history requests).foldl enter empty := by
  rw [run_attempts,history,List.foldl_append,initial_entered lawful]

theorem run_latest (lawful : TemplateEngine.Lawful) (split : history requests = earlier ++ last :: later)
    (same : key last.1 = key language) (accepted : ((earlier.foldl enter empty).register last.1 last.2).2 = .ok ())
    (quiet : ∀ attempt ∈ later, key attempt.1 ≠ key language) :
    ∃ template, TemplateEngine.read? (Text.trim last.1) last.2 = some template ∧ Text.trim last.1 ∈ (initial.run requests).names ∧
      ∀ case sink, (initial.run requests).render language case sink =
        (initial.run requests).codeOf (Text.trim last.1) template case sink := by
  obtain ⟨template,read,found⟩ := foldl_held_last empty_ordered.keyed same (register_ok_iff.mp accepted) quiet
  rw [← split,← run_history lawful] at found
  refine ⟨template,read,name_of_held found,?_⟩
  intro case sink
  simp only [render_held,found]

theorem Registration.render_apart (lawful : TemplateEngine.Lawful) (step : Registration harness language source done)
    (valid : Keyed harness) (apart : harness.Apart language other) :
    done.1.render other case sink = harness.render other case sink := by
  refine render_kept lawful (step.held_other valid apart.keys) ?_
  intro touched asked
  refine step.template_kept ?_ ?_
  · intro same
    exact apart.registered (same ▸ asked)
  · intro found
    exact apart.previous touched found asked

theorem catalog_exact (lawful : TemplateEngine.Lawful) (requests : List Request) :
    Catalogued requests (initial.run requests) := by
  have valid := run_ordered requests
  refine ⟨run_history lawful requests,valid.names_ascending,valid.names_spelled,valid.keyed.names_keep,?_,?_⟩
  · intro language source other case sink apart
    exact (register_registration (initial.run requests) language source).render_apart lawful valid.keyed apart
  · intro language earlier last later split same accepted quiet
    exact run_latest lawful split same accepted quiet

end Engines

theorem respelled_language_replaced :
    "GO".toList ∈ (initial.run [.register "Go".toList "x".toList,.register " GO ".toList "y".toList]).names ∧
      ∀ case sink, (initial.run [.register "Go".toList "x".toList,.register " GO ".toList "y".toList]).render
        "\tgo".toList case sink = .ok "y".toList := by
  have accepted : ((((builtin ++ [("Go".toList,"x".toList)]).foldl enter empty)).register " GO ".toList
      "y".toList).2 = .ok () := register_ok_iff.mpr (by decide +kernel)
  have same : key " GO ".toList = key "\tgo".toList := by decide +kernel
  obtain ⟨template,read,listed,code⟩ := (catalog_exact engine_lawful
    [.register "Go".toList "x".toList,.register " GO ".toList "y".toList]).latest "\tgo".toList
      (builtin ++ [("Go".toList,"x".toList)]) (" GO ".toList,"y".toList) [] (by simp [history,Request.attempts])
      same accepted (by simp)
  have spelled : Text.trim " GO ".toList = "GO".toList := by decide +kernel
  have whole : Template.read? "y".toList = some (.data "y".toList .done) := rfl
  cases read.symm.trans whole
  rw [spelled] at listed
  exact ⟨listed,code⟩

def taking : Text := "\x7b% include \"B\" %\x7d".toList

def partner : Template.Phrase := ⟨⟨.quoted "B".toList,[]⟩,[]⟩

def taken : Template := .data [] (.inclusion partner.meaning (.data [] .done))

theorem read_taking : Template.read? taking = some taken := by
  have spelled : taking = Template.including partner := by decide
  rw [spelled]
  exact Template.read_including (by decide)

theorem render_taking {harness : Harness} {text : Text} {case : TestCase} {sink : Option Text}
    (outer : harness.held (key "A".toList) = some ("A".toList,some taken))
    (inner : harness.template? "B".toList = some (.data text .done)) :
    harness.render "A".toList case sink = .ok text := by
  have named : partner.meaning.value? (bindings case sink) = some (.text "B".toList) := rfl
  have plain : harness.template? "B".toList = some (Template.templateOf [] [.fixed text]) := inner
  have filled : Template.filled? (bindings case sink) [.fixed text] = some text := by simp [Template.filled?]
  have rendered : TemplateEngine.render? harness.template? taken (bindings case sink) = some text :=
    (Template.render_including named plain).trans filled
  simp only [render_held,outer,codeOf,rendered]

-- Registering B anew is seen in A, which has another key.
theorem inclusion_followed :
    let harness := initial.run [.register "B".toList "x".toList,.register "A".toList taking]
    let case : TestCase := {id := 1,prompt := ⟨1,"Answer".toList,"f".toList⟩,weight := .zero}
    key "A".toList ≠ key "B".toList ∧ harness.render "A".toList case none = .ok "x".toList ∧
      (harness.register "B".toList "y".toList).1.render "A".toList case none = .ok "y".toList := by
  intro harness case
  let first := initial.run [.register "B".toList "x".toList]
  have different : key "A".toList ≠ key "B".toList := by decide
  have second := register_registration first "A".toList taking
  have outer : harness.held (key "A".toList) = some ("A".toList,some taken) := by
    have entered := second.held_self
    rw [replaced_read (by decide) read_taking] at entered
    exact entered
  have inner : harness.template? "B".toList = some (.data "x".toList .done) := by
    have unlisted : first.languages.lookup (key "A".toList) ≠ some "B".toList := by
      intro found
      exact different (key_of_lookup (run_keyed _) found).symm
    exact (second.template_kept (by decide) unlisted).trans (Registration.template_self (by decide) rfl)
  refine ⟨different,render_taking outer inner,render_taking ?_ ?_⟩
  · exact ((register_registration harness "B".toList "y".toList).held_other (run_keyed _) different).trans outer
  · exact Registration.template_self (by decide) rfl

end Marking.Harness
