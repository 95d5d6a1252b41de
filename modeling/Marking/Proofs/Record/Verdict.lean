import Marking.Proofs.Record.Feedback

-- Whether a failure is explained. A name of white space is taken for the name of an exception, and
-- without a message the student is shown nothing else.

namespace Marking

def Result.Explained (result : Result) : Prop :=
  result.pass = false → ∃ feedback, result.feedback = some feedback ∧ ∃ c ∈ feedback, Text.isSpace c = false

namespace Record

-- No message, and an exception of whose name there is nothing but white space behind the last dot.
structure Illegible (record : Record) : Prop where
  silent : ¬ record.HasMessage
  blankName : ∃ name, record.Named name ∧ name ≠ [] ∧ Text.isBlank name = true

variable {record : Record}

theorem isBlank_feedback_iff : Text.isBlank record.feedback = true ↔ record.Illegible := by
  have composed := feedback_composed record
  generalize record.feedback = text at composed ⊢
  cases composed with
  | both named spoken =>
    constructor
    · intro blank
      have colon : Text.isSpace ':' = true := List.all_eq_true.mp blank ':' (by simp)
      exact absurd colon (by decide)
    · intro illegible
      exact absurd spoken.said illegible.silent
  | messageAlone nameless spoken =>
    constructor
    · intro blank
      rw [Text.isBlank_eq_false_iff.mpr spoken.solid] at blank
      cases blank
    · intro illegible
      exact absurd spoken.said illegible.silent
  | nameAlone named silent =>
    constructor
    · intro blank
      exact ⟨silent,_,named.named,named.nonempty,blank⟩
    · intro illegible
      obtain ⟨other,again,_,blank⟩ := illegible.blankName
      rw [named.named.unique again]
      exact blank
  | neither nameless silent =>
    constructor
    · intro blank
      exact absurd blank (by decide)
    · intro illegible
      obtain ⟨name,named,nonempty,_⟩ := illegible.blankName
      exact absurd ⟨named,nonempty,fun hidden => silent hidden.1⟩ (nameless name)

end Record

theorem explained_iff (case : TestCase) (submission : Submission) (record : Record) :
    ((interpret case submission record).pass = false → (interpret case submission record).feedback.isSome = true) ∧
    ((interpret case submission record).Explained ↔
      ¬ (record.passed = false ∧ case.authoredFeedback? = none ∧ record.Illegible)) := by
  unfold Result.Explained interpret Result.of
  dsimp only
  cases record.passed with
  | true => simp
  | false =>
    refine ⟨fun _ => rfl,?_⟩
    cases authored : case.authoredFeedback? with
    | some feedback =>
      have given := (Text.nonBlank_eq_some_iff.mp authored).2
      simpa using Text.isBlank_eq_false_iff.mp given
    | none =>
      rw [← Record.isBlank_feedback_iff]
      simp [← Text.isBlank_eq_false_iff]

theorem blank_name_unexplained :
    let result := interpret {id := 3,prompt := ⟨1,"Answer".toList,"max".toList⟩,weight := .zero} ⟨9,42,[],none⟩
      ⟨["Answer".toList,"test_3".toList,[],[],[],"Error. ".toList,[],"0".toList]⟩
    result.pass = false ∧ result.feedback = some [' '] ∧ ¬ result.Explained := by
  have failed : (Record.mk ["Answer".toList,"test_3".toList,[],[],[],"Error. ".toList,[],"0".toList]).passed = false := by
    decide
  intro result
  have blank : result.feedback = some [' '] := by decide
  refine ⟨failed,blank,?_⟩
  intro explained
  obtain ⟨feedback,given,c,member,solid⟩ := explained failed
  rw [blank] at given
  cases given
  rw [List.mem_singleton.mp member] at solid
  exact absurd solid (by decide)

end Marking
