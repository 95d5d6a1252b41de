import Marking.Proofs.Marker.Call

-- The marking of a whole list of cases: screening cases come first and leave the marker as it
-- was, then each graded case comes to one stored result, in the order of the cases.

namespace Marking

namespace Call

def marking (submission : Submission) (case : TestCase) (record : Record) : Call :=
  if case.isStatic then .checkStatic case submission else .recordResult case submission record

def screenings (submission : Submission) (cases : List TestCase) : List Call :=
  (TestCase.screening cases).map (.checkStatic · submission)

-- Records belong to positions, so that equal cases can have different ones.
def markings (submission : Submission) (records : Nat → Record) (cases : List TestCase) : List Call :=
  (TestCase.graded cases).mapIdx fun position case => marking submission case (records position)

end Call

def TestCase.reward (case : TestCase) (result : Result) : Answer :=
  if case.isStatic then .outcome (.graded result) else .score (scoreContribution case result)

structure TestCase.Gradable (case : TestCase) : Prop where
  graded : case.isScreening = false
  compiles : case.isStatic = true → (StaticRule.compile case).toOption.isSome = true

namespace Marker

def answers (marker : Marker) : List Call → List (Except Failure Answer)
  | [] => []
  | call :: rest => (marker.perform call).2 :: answers (marker.perform call).1 rest

variable {marker : Marker} {submission : Submission} {case : TestCase} {cases : List TestCase}
  {record : Record} {records : Nat → Record} {call : Call}

theorem perform_idle (quiet : call.result? marker.strip = none) : (marker.perform call).1 = marker := by
  have step := perform_step marker call
  generalize marker.perform call = done at step ⊢
  cases step with
  | idle quiet unrelated => rfl
  | accepted handed free => simp [quiet] at handed
  | refused handed refusal => simp [quiet] at handed

theorem perform_accepted (accepts : marker.store.refusal = Store.accepting) {result : Result}
    (handed : call.result? marker.strip = some result) :
    marker.perform call = ((marker.save result).1,.ok (call.reward result)) := by
  have step := perform_step marker call
  generalize marker.perform call = done at step ⊢
  cases step with
  | idle quiet unrelated => simp [quiet] at handed
  | accepted other free =>
    cases handed.symm.trans other
    rfl
  | refused other refusal => simp [accepts,Store.accepting] at refusal

theorem run_screenings (marker : Marker) (submission : Submission) (cases : List TestCase) :
    marker.run (Call.screenings submission cases) = marker := by
  induction cases with
  | nil => rfl
  | cons case cases ih =>
    cases screening : case.isScreening with
    | false => simpa [Call.screenings,TestCase.screening,screening] using ih
    | true =>
      have quiet : (Call.checkStatic case submission).result? marker.strip = none := by
        simp [Call.result?,screening]
      have first : marker.run (Call.screenings submission (case :: cases)) =
          (marker.perform (.checkStatic case submission)).1.run (Call.screenings submission cases) := by
        simp [Call.screenings,TestCase.screening,screening,run]
      rw [first,perform_idle quiet,ih]

theorem marking_attempts (gradable : case.Gradable) (submission : Submission) (record : Record) :
    (Call.marking submission case record).attempts = true := by
  cases static : case.isStatic with
  | true => simp [Call.marking,Call.attempts,static,gradable.graded,gradable.compiles static]
  | false => simp [Call.marking,Call.attempts,static]

theorem marking_reward (submission : Submission) (case : TestCase) (record : Record) (result : Result) :
    (Call.marking submission case record).reward result = case.reward result := by
  cases static : case.isStatic with
  | true => simp [Call.marking,TestCase.reward,Call.reward,static]
  | false => simp [Call.marking,TestCase.reward,Call.reward,static,scoreContribution]

theorem marking_attributed {result : Result} {strip : Text → Text}
    (handed : (Call.marking submission case record).result? strip = some result) :
    result.testCaseId = case.id ∧ result.userId = submission.userId ∧ result.answerId = submission.answerId := by
  have attributed := Call.attributed_of_result handed
  cases static : case.isStatic with
  | true =>
    simp only [Call.marking,static,if_true] at attributed
    exact ⟨attributed.1,attributed.2.1,attributed.2.2.1⟩
  | false =>
    simp only [Call.marking,static,Bool.false_eq_true,if_false] at attributed
    exact ⟨attributed.1,attributed.2.1,attributed.2.2.1⟩

structure Marked (marker : Marker) (submission : Submission) (cases : List TestCase) (calls : List Call)
    (results : List Result) : Prop where
  stored : (marker.run calls).store.results = marker.store.results ++ results
  own : results.map some = calls.map (Call.result? marker.strip)
  attributed : results.map (·.testCaseId) = cases.map (·.id)
  submitted : ∀ result ∈ results, result.userId = submission.userId ∧ result.answerId = submission.answerId
  answered : marker.answers calls = List.zipWith (fun case result => .ok (case.reward result)) cases results

theorem Marked.cons {calls : List Call} {results : List Result} {result : Result}
    (accepts : marker.store.refusal = Store.accepting)
    (handed : (Call.marking submission case record).result? marker.strip = some result)
    (rest : (marker.save result).1.Marked submission cases calls results) :
    marker.Marked submission (case :: cases) (Call.marking submission case record :: calls) (result :: results) := by
  have performed := perform_accepted accepts handed
  have saved : (marker.store.save result).1.results = marker.store.results ++ [result] :=
    (Store.save_free (by rw [accepts]; rfl)).1
  obtain ⟨testCase,user,answer⟩ := marking_attributed handed
  refine ⟨?_,?_,?_,?_,?_⟩
  · rw [run,performed,rest.stored,save_store,saved,List.append_assoc]
    rfl
  · simpa [handed] using rest.own
  · simpa [testCase] using rest.attributed
  · simpa [user,answer] using rest.submitted
  · rw [answers,performed,rest.answered,marking_reward]
    rfl

theorem run_markings (accepts : marker.store.refusal = Store.accepting)
    (gradable : ∀ case ∈ cases, case.Gradable) (submission : Submission) (records : Nat → Record) :
    ∃ results, marker.Marked submission cases
      (cases.mapIdx fun position case => .marking submission case (records position)) results := by
  induction cases generalizing marker records with
  | nil => exact ⟨[],by simp [run],rfl,rfl,by simp,rfl⟩
  | cons case cases ih =>
    obtain ⟨first,others⟩ := List.forall_mem_cons.mp gradable
    have attempt := marking_attempts first submission (records 0)
    rw [← Call.isSome_result marker.strip] at attempt
    obtain ⟨result,handed⟩ := Option.isSome_iff_exists.mp attempt
    have free : (marker.save result).1.store.refusal = Store.accepting := by simpa using accepts
    obtain ⟨results,rest⟩ := ih free others fun position => records (position + 1)
    refine ⟨result :: results,?_⟩
    rw [List.mapIdx_cons]
    exact .cons accepts handed rest

-- Screening leaves the marker as it was. Then the store takes one result for each graded case, in
-- their order, and each case is answered with its own.
theorem session_stores_graded (marker : Marker) (accepts : marker.store.refusal = Store.accepting)
    (submission : Submission) (records : Nat → Record) (cases : List TestCase)
    (compiles : ∀ case ∈ cases, case.isStatic = true → (StaticRule.compile case).toOption.isSome = true) :
    marker.run (Call.screenings submission cases) = marker ∧
    ∃ results,
      (marker.run (Call.screenings submission cases)).Marked submission (cases.filter (!·.isScreening))
        (Call.markings submission records cases) results := by
  have gradable : ∀ case ∈ TestCase.graded cases, case.Gradable := by
    intro case member
    obtain ⟨inside,graded⟩ := List.mem_filter.mp member
    exact ⟨by simpa using graded,compiles case inside⟩
  rw [run_screenings]
  exact ⟨rfl,run_markings accepts gradable submission records⟩

theorem looping_answer_stored :
    let prompt : CodingPrompt := ⟨3,"Answer".toList,"f".toList⟩
    let screening : TestCase :=
      {id := 1,prompt,input := "keyword: for".toList,weight := .zero,isStatic := true,isScreening := true}
    let static : TestCase := {id := 2,prompt,input := "method: f".toList,weight := .zero,isStatic := true}
    let dynamic : TestCase := {id := 3,prompt,input := ['1'],expectedOutput := ['2'],weight := .finite false (Nat.pow 2 52) (-52)}
    let cases := [static,screening,dynamic,dynamic]
    let records : Nat → Record := fun position => ⟨List.replicate position []⟩
    let marker : Marker := ⟨Comment.strip .slash,.empty Store.accepting⟩
    let submission : Submission := ⟨7,70,"for(;;)".toList,none⟩
    marker.store.refusal = Store.accepting ∧
    (∀ case ∈ cases, case.isStatic = true → (StaticRule.compile case).toOption.isSome = true) ∧
    ∃ results, results.map (·.testCaseId) = [2,3,3] ∧
      (marker.run (Call.screenings submission cases)).Marked submission (cases.filter (!·.isScreening))
        (Call.markings submission records cases) results := by
  intro prompt screening static dynamic cases records marker submission
  have compiles : ∀ case ∈ cases, case.isStatic = true → (StaticRule.compile case).toOption.isSome = true := by
    simp only [cases,List.forall_mem_cons]
    decide +kernel
  obtain ⟨_,results,marked⟩ := session_stores_graded marker rfl submission records cases compiles
  exact ⟨rfl,compiles,results,marked.attributed,marked⟩

end Marker
end Marking
