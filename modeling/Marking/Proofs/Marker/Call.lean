import Marking.Marker
import Marking.Proofs.Rule.Compilation

-- Calls on a marker, and all that one call can do: hand no result over, or hand over the
-- result that belongs to it, which is accepted or refused.

namespace Marking

inductive Call where
  | checkStatic (case : TestCase) (submission : Submission)
  | recordResult (case : TestCase) (submission : Submission) (record : Record)
  | save (result : Result)
  deriving DecidableEq,Repr

inductive Answer where
  | outcome (outcome : StaticOutcome)
  | score (score : Binary64)
  | saved
  deriving DecidableEq,Repr

namespace Marker

def perform (marker : Marker) : Call → Marker × Except Failure Answer
  | .checkStatic case submission =>
    let (next,outcome) := marker.checkStatic case submission
    (next,outcome.map .outcome)
  | .recordResult case submission record =>
    let (next,outcome) := marker.recordResult case submission record
    (next,outcome.map .score)
  | .save result =>
    let (next,outcome) := marker.save result
    (next,outcome.map fun _ => .saved)

def run (marker : Marker) : List Call → Marker
  | [] => marker
  | call :: rest => run (marker.perform call).1 rest

end Marker

namespace Call

def attempts : Call → Bool
  | .checkStatic case _ =>
    case.isStatic && !case.isScreening && (StaticRule.compile case).toOption.isSome
  | .recordResult .. => true
  | .save _ => true

-- The result that a call hands over, if it comes to that. It depends on the way comments are
-- removed, and on nothing that was called before.
def result? (strip : Text → Text) (call : Call) : Option Result :=
  match call with
  | .checkStatic case submission =>
    if case.isStatic && !case.isScreening then
      (StaticRule.compile case).toOption.map fun rule =>
        let verdict := rule.evaluate (Marker.code strip submission)
        .of case submission verdict.satisfied verdict.feedback
    else none
  | .recordResult case submission record => some (interpret case submission record)
  | .save result => some result

-- A result that the marker makes names its case, its user and its answer, and has feedback
-- unless it is a pass. One that is saved directly is handed over as it is.
def Attributed : Call → Result → Prop
  | .checkStatic case submission,result | .recordResult case submission _,result =>
    result.testCaseId = case.id ∧ result.userId = submission.userId ∧
      result.answerId = submission.answerId ∧ (result.feedback = none ↔ result.pass = true)
  | .save given,result => result = given

def reward : Call → Result → Answer
  | .checkStatic .. ,result => .outcome (.graded result)
  | .recordResult case .. ,result => .score (if result.pass then case.weight else .zero)
  | .save _,_ => .saved

-- Which result is handed over: a static check that grades gives the verdict of its rule, a record is
-- interpreted, and what is saved is given.
inductive Makes (strip : Text → Text) : Call → Result → Prop where
  | checked {case : TestCase} {submission : Submission} {rule : StaticRule} (static : case.isStatic = true)
      (graded : case.isScreening = false) (compiled : StaticRule.compile case = .ok rule) :
      Makes strip (.checkStatic case submission)
        (.of case submission (rule.evaluate (Marker.code strip submission)).satisfied
          (rule.evaluate (Marker.code strip submission)).feedback)
  | interpreted {case : TestCase} {submission : Submission} {record : Record} :
      Makes strip (.recordResult case submission record) (interpret case submission record)
  | given {result : Result} : Makes strip (.save result) result

variable {strip : Text → Text} {call : Call} {case : TestCase} {submission : Submission}
  {rule : StaticRule} {result : Result}

theorem result_eq_some_iff : call.result? strip = some result ↔ call.Makes strip result := by
  constructor
  · intro handed
    cases call with
    | checkStatic case submission =>
      obtain ⟨allowed,handed⟩ := Option.ite_none_right_eq_some.mp handed
      obtain ⟨static,graded⟩ : case.isStatic = true ∧ case.isScreening = false := by simpa using allowed
      cases compiled : StaticRule.compile case with
      | error failure => simp [compiled,Except.toOption] at handed
      | ok rule =>
        obtain rfl : _ = result := by simpa [compiled,Except.toOption] using handed
        exact .checked static graded compiled
    | recordResult case submission record =>
      cases handed
      exact .interpreted
    | save given =>
      cases handed
      exact .given
  · intro makes
    cases makes with
    | checked static graded compiled => simp [result?,static,graded,compiled,Except.toOption]
    | interpreted => rfl
    | given => rfl

theorem isSome_result (strip : Text → Text) (call : Call) :
    (call.result? strip).isSome = call.attempts := by
  cases call with
  | checkStatic case submission =>
    by_cases graded : (case.isStatic && !case.isScreening) = true
    · simp [result?,attempts,graded]
    · simp [result?,attempts,graded]
  | recordResult case submission record => rfl
  | save result => rfl

theorem attempts_of_result (handed : call.result? strip = some result) : call.attempts = true := by
  rw [← isSome_result strip call,handed]
  rfl

theorem quiet_of_result (quiet : call.result? strip = none) : call.attempts = false := by
  rw [← isSome_result strip call,quiet]
  rfl

theorem evaluate_attributed (rule : StaticRule) (code : Text) :
    (checkStatic case submission).Attributed
      (.of case submission (rule.evaluate code).satisfied (rule.evaluate code).feedback) := by
  refine ⟨rfl,rfl,rfl,?_⟩
  simp only [Result.of,StaticRule.evaluate]
  split <;> simp_all

theorem interpret_attributed (case : TestCase) (submission : Submission) (record : Record) :
    (recordResult case submission record).Attributed (interpret case submission record) := by
  refine ⟨rfl,rfl,rfl,?_⟩
  simp only [interpret,Result.of]
  split <;> simp_all

theorem attributed_of_result (handed : call.result? strip = some result) : call.Attributed result := by
  cases result_eq_some_iff.mp handed with
  | checked static graded compiled => exact evaluate_attributed _ _
  | interpreted => exact interpret_attributed _ _ _
  | given => rfl

end Call

inductive Marker.Step (marker : Marker) (call : Call) : Marker × Except Failure Answer → Prop where
  | idle (quiet : call.result? marker.strip = none) {answer : Except Failure Answer}
      (unrelated : ∀ reason, answer ≠ .error (.refused reason)) : Step marker call (marker,answer)
  | accepted {result : Result} (handed : call.result? marker.strip = some result)
      (free : marker.store.refusal marker.store.attempts = none) :
      Step marker call ((marker.save result).1,.ok (call.reward result))
  | refused {result : Result} (handed : call.result? marker.strip = some result) {reason : Text}
      (refusal : marker.store.refusal marker.store.attempts = some reason) :
      Step marker call ((marker.save result).1,.error (.refused reason))

namespace Marker

variable {marker : Marker} {call : Call} {result : Result} {case : TestCase} {rule : StaticRule}

@[simp] theorem save_strip (marker : Marker) (result : Result) :
    (marker.save result).1.strip = marker.strip := rfl

@[simp] theorem save_store (marker : Marker) (result : Result) :
    (marker.save result).1.store = (marker.store.save result).1 := rfl

theorem Step.of_save (handed : call.result? marker.strip = some result) :
    Step marker call ((marker.save result).1,(marker.save result).2.map fun _ => call.reward result) := by
  cases refusal : marker.store.refusal marker.store.attempts with
  | none =>
    have outcome : (marker.save result).2 = .ok () := (Store.save_free refusal).2
    rw [outcome]
    exact .accepted handed refusal
  | some reason =>
    have outcome : (marker.save result).2 = .error (.refused reason) := (Store.save_refused refusal).2
    rw [outcome]
    exact .refused handed refusal

theorem checkStatic_graded (static : case.isStatic = true) (graded : case.isScreening = false)
    (compiled : StaticRule.compile case = .ok rule) (submission : Submission) :
    Step marker (.checkStatic case submission) (marker.perform (.checkStatic case submission)) := by
  have makes : Call.Makes marker.strip (.checkStatic case submission) _ := .checked static graded compiled
  have step := Step.of_save (Call.result_eq_some_iff.mpr makes)
  simp only [perform,checkStatic,static,graded,compiled]
  generalize marker.save _ = saved at step ⊢
  obtain ⟨next,outcome⟩ := saved
  cases outcome <;> exact step

theorem checkStatic_step (marker : Marker) (case : TestCase) (submission : Submission) :
    Step marker (.checkStatic case submission) (marker.perform (.checkStatic case submission)) := by
  by_cases static : case.isStatic = true
  · cases compiled : StaticRule.compile case with
    | error failure =>
      have configuration := StaticRule.compile_failure compiled
      simp only [perform,checkStatic,static,compiled]
      refine .idle (by simp [Call.result?,compiled,Except.toOption]) ?_
      rintro reason same
      cases same
      cases configuration
    | ok rule =>
      cases screening : case.isScreening with
      | true =>
        simp only [perform,checkStatic,static,compiled,screening]
        exact .idle (by simp [Call.result?,screening]) (by rintro reason ⟨⟩)
      | false => exact checkStatic_graded static screening compiled submission
  · simp only [perform,checkStatic,static]
    exact .idle (by simp [Call.result?,static]) (by rintro reason ⟨⟩)

theorem recordResult_step (marker : Marker) (case : TestCase) (submission : Submission)
    (record : Record) : Step marker (.recordResult case submission record)
      (marker.perform (.recordResult case submission record)) := by
  have handed : (Call.recordResult case submission record).result? marker.strip =
      some (interpret case submission record) := rfl
  have step := Step.of_save handed
  simp only [perform,recordResult]
  generalize marker.save _ = saved at step ⊢
  obtain ⟨next,outcome⟩ := saved
  cases outcome <;> exact step

theorem perform_step (marker : Marker) (call : Call) : Step marker call (marker.perform call) := by
  cases call with
  | checkStatic case submission => exact checkStatic_step marker case submission
  | recordResult case submission record => exact recordResult_step marker case submission record
  | save result =>
    have handed : (Call.save result).result? marker.strip = some result := rfl
    exact Step.of_save handed

end Marker
end Marking
