import Marking.Proofs.Marker.Call
import Mathlib.Data.List.Forall2

-- Runs of calls on a marker whose store refuses every attempt from a number on, or none: what
-- is handed over, what is refused, and what is kept in the end. And which runs of any marker hand over a
-- verdict on a screening case.

namespace Marking

namespace Store

def refusals (first : Option Nat) (reason : Text) : Nat → Option Text :=
  first.elim accepting (refusingFrom · reason)

def Refuses (first : Option Nat) (number : Nat) : Prop := ∃ limit, first = some limit ∧ limit ≤ number

def kept {α : Type} (first : Option Nat) (items : List α) : List α := first.elim items items.take

variable {first : Option Nat} {reason other : Text} {number : Nat} {α β : Type} {items : List α}
  {item : α} {store : Store}

theorem refusals_none : refusals first reason number = none ↔ ¬ Refuses first number := by
  cases first with
  | none => simp [refusals,accepting,Refuses]
  | some limit => simp [refusals,refusingFrom,Refuses]

theorem refusals_some :
    refusals first reason number = some other ↔ Refuses first number ∧ other = reason := by
  cases first with
  | none => simp [refusals,accepting,Refuses]
  | some limit => simp [refusals,refusingFrom,Refuses,eq_comm]

theorem kept_accepted (free : ¬ Refuses first items.length) :
    kept first (items ++ [item]) = kept first items ++ [item] := by
  cases first with
  | none => rfl
  | some limit =>
    have room : items.length < limit := by simpa [Refuses] using free
    have shorter : items.length ≤ limit := Nat.le_of_lt room
    have whole : (items ++ [item]).length ≤ limit := by simpa using Nat.succ_le_of_lt room
    simp only [kept,Option.elim,List.take_of_length_le shorter,List.take_of_length_le whole]

theorem kept_refused (refused : Refuses first items.length) :
    kept first (items ++ [item]) = kept first items := by
  obtain ⟨limit,rfl,reached⟩ := refused
  simp only [kept,Option.elim]
  exact List.take_append_of_le_length reached

theorem forall₂_kept {related : α → β → Prop} {others : List β} (all : List.Forall₂ related items others) :
    List.Forall₂ related (kept first items) (kept first others) := by
  cases first with
  | none => exact all
  | some limit => exact List.forall₂_take limit all

theorem save_kept (pattern : store.refusal = refusals first reason)
    (results : store.results = kept first store.handed) (result : Result) :
    (store.save result).1.results = kept first (store.handed ++ [result]) := by
  cases refusal : store.refusal store.attempts with
  | none =>
    rw [(save_free refusal).1,results]
    rw [pattern,refusals_none] at refusal
    exact (kept_accepted refusal).symm
  | some other =>
    rw [(save_refused refusal).1,results]
    rw [pattern,refusals_some] at refusal
    exact (kept_refused refusal.1).symm

end Store

def Call.case? : Call → Option TestCase
  | .checkStatic case _ | .recordResult case .. => some case
  | .save _ => none

structure Call.Recorded (call : Call) (strip : Text → Text) (first : Option Nat) (reason : Text)
    (before after : Store) (answer : Except Failure Answer) : Prop where
  attempted : after.attempts = before.attempts + if call.attempts then 1 else 0
  idle : call.attempts = false → after = before
  refused : answer = .error (.refused reason) ↔
    call.attempts = true ∧ Store.Refuses first before.attempts
  unchanged : answer = .error (.refused reason) → after.results = before.results
  accepted : call.attempts = true → ¬ Store.Refuses first before.attempts →
    ∃ result, call.result? strip = some result ∧ call.Attributed result ∧
      after.results = before.results ++ [result] ∧ answer = .ok (call.reward result)

namespace Marker

variable {marker : Marker} {call : Call} {calls : List Call} {strip : Text → Text} {first : Option Nat}
  {reason : Text} {result : Result} {done : Marker × Except Failure Answer}

theorem Step.recorded (step : Step marker call done)
    (pattern : marker.store.refusal = Store.refusals first reason) :
    call.Recorded marker.strip first reason marker.store done.1.store done.2 := by
  cases step with
  | idle quiet unrelated =>
    have still : call.attempts = false := Call.quiet_of_result quiet
    refine ⟨by simp [still],fun _ => rfl,?_,fun same => absurd same (unrelated reason),by simp [still]⟩
    simp [still,unrelated]
  | @accepted result handed free =>
    have attempt : call.attempts = true := Call.attempts_of_result handed
    have results : (marker.store.save result).1.results = marker.store.results ++ [result] :=
      (Store.save_free free).1
    rw [pattern,Store.refusals_none] at free
    refine ⟨by simp [attempt],by simp [attempt],by simp [free],by simp,?_⟩
    intro _ _
    exact ⟨result,handed,Call.attributed_of_result handed,results,rfl⟩
  | @refused result handed other refusal =>
    have attempt : call.attempts = true := Call.attempts_of_result handed
    have results : (marker.store.save result).1.results = marker.store.results :=
      (Store.save_refused refusal).1
    rw [pattern,Store.refusals_some] at refusal
    obtain ⟨refuses,rfl⟩ := refusal
    refine ⟨by simp [attempt],by simp [attempt],by simp [attempt,refuses],fun _ => results,?_⟩
    intro _ free
    exact absurd refuses free

-- What holds of a marker all along a run of calls: their results were handed over in order, and
-- those before the first refusal are kept.
structure Balanced (strip : Text → Text) (first : Option Nat) (reason : Text) (calls : List Call)
    (marker : Marker) : Prop where
  strips : marker.strip = strip
  pattern : marker.store.refusal = Store.refusals first reason
  handed : marker.store.handed = calls.filterMap (Call.result? strip)
  results : marker.store.results = Store.kept first marker.store.handed

theorem empty_balanced : Balanced strip first reason [] ⟨strip,.empty (Store.refusals first reason)⟩ := by
  refine ⟨rfl,rfl,rfl,?_⟩
  cases first <;> simp [Store.kept,Store.empty]

theorem Balanced.save (valid : Balanced strip first reason calls marker)
    (handed : call.result? strip = some result) :
    Balanced strip first reason (calls ++ [call]) (marker.save result).1 := by
  refine ⟨valid.strips,?_,?_,?_⟩
  · simpa using valid.pattern
  · simp [handed,valid.handed]
  · simpa using Store.save_kept valid.pattern valid.results result

theorem Step.balanced (step : Step marker call done) (valid : Balanced strip first reason calls marker) :
    Balanced strip first reason (calls ++ [call]) done.1 := by
  cases step with
  | idle quiet unrelated =>
    rw [valid.strips] at quiet
    exact ⟨valid.strips,valid.pattern,by simp [quiet,valid.handed],valid.results⟩
  | accepted handed free => exact valid.save (valid.strips ▸ handed)
  | refused handed refusal => exact valid.save (valid.strips ▸ handed)

theorem run_balanced (valid : Balanced strip first reason calls marker) (more : List Call) :
    Balanced strip first reason (calls ++ more) (marker.run more) := by
  induction more generalizing marker calls with
  | nil => simpa [run] using valid
  | cons call more ih =>
    have next := ih ((perform_step marker call).balanced valid)
    simpa only [run,List.append_assoc,List.singleton_append] using next

theorem results_attributed (strip : Text → Text) (calls : List Call) :
    List.Forall₂ Call.Attributed (calls.filter Call.attempts) (calls.filterMap (Call.result? strip)) := by
  induction calls with
  | nil => exact .nil
  | cons call calls ih =>
    cases handed : call.result? strip with
    | none => simpa [handed,Call.quiet_of_result handed] using ih
    | some result =>
      have attributed := Call.attributed_of_result handed
      simpa [handed,Call.attempts_of_result handed] using And.intro attributed ih

-- After any run the store holds the results of the accepted attempts, in the order of their
-- calls, and the next call does to it what it should.
theorem run_keeps_accepted (strip : Text → Text) (first : Option Nat) (reason : Text) (calls : List Call) :
    let marker := run ⟨strip,.empty (Store.refusals first reason)⟩ calls
    marker.store.results = Store.kept first (calls.filterMap (Call.result? strip)) ∧
    List.Forall₂ Call.Attributed (Store.kept first (calls.filter Call.attempts)) marker.store.results ∧
    ∀ call : Call, call.Recorded strip first reason marker.store (marker.perform call).1.store
      (marker.perform call).2 := by
  intro marker
  have balanced : Balanced strip first reason calls marker := run_balanced empty_balanced calls
  have results : marker.store.results = Store.kept first (calls.filterMap (Call.result? strip)) := by
    rw [balanced.results,balanced.handed]
  refine ⟨results,?_,?_⟩
  · rw [results]
    exact Store.forall₂_kept (results_attributed strip calls)
  · intro call
    have recorded := (perform_step marker call).recorded balanced.pattern
    rwa [balanced.strips] at recorded

-- The first call attempts nothing, the next two are accepted, and the other two are refused.
example :
    let prompt : CodingPrompt := ⟨3,"Answer".toList,"f".toList⟩
    let dynamic : TestCase := {id := 2,prompt,weight := .zero}
    let static : TestCase := {id := 5,prompt,input := "keyword: for".toList,weight := .zero,isStatic := true}
    let submission : Submission := ⟨7,70,"for(;;)".toList,none⟩
    let given : Result := ⟨9,1,10,false,none⟩
    let marker : Marker := ⟨Comment.strip .slash,.empty (Store.refusals (some 2) "full".toList)⟩
    let calls : List Call := [.checkStatic dynamic submission,.save given,.checkStatic static submission,
      .recordResult dynamic submission ⟨[]⟩,.save given]
    (marker.run calls).store.results = [given,⟨5,7,70,true,none⟩] ∧ (marker.run calls).store.attempts = 4 := by
  decide +kernel

-- Somewhere in a run, a call on a screening case hands a result to the store, accepted or not.
def HandsScreened (marker : Marker) (calls : List Call) : Prop :=
  ∃ before call after case, calls = before ++ call :: after ∧ call.case? = some case ∧
    case.isScreening = true ∧
    ((marker.run before).perform call).1.store.handed ≠ (marker.run before).store.handed

theorem Step.hands_iff (step : Step marker call done) :
    done.1.store.handed ≠ marker.store.handed ↔ call.attempts = true := by
  cases step with
  | idle quiet unrelated => simp [Call.quiet_of_result quiet]
  | accepted handed free => simp [Call.attempts_of_result handed]
  | refused handed refusal => simp [Call.attempts_of_result handed]

theorem perform_hands_iff (marker : Marker) (call : Call) :
    (marker.perform call).1.store.handed ≠ marker.store.handed ↔ call.attempts = true :=
  (perform_step marker call).hands_iff

theorem hands_screened_iff (marker : Marker) (calls : List Call) :
    marker.HandsScreened calls ↔
      ∃ case submission record, .recordResult case submission record ∈ calls ∧ case.isScreening = true := by
  constructor
  · rintro ⟨before,call,after,case,rfl,concerns,screening,handed⟩
    have attempt := (perform_hands_iff _ call).mp handed
    cases call with
    | checkStatic checked submission =>
      obtain rfl := Option.some.inj concerns
      simp [Call.attempts,screening] at attempt
    | recordResult recorded submission record =>
      obtain rfl := Option.some.inj concerns
      exact ⟨recorded,submission,record,by simp,screening⟩
    | save result => cases concerns
  · rintro ⟨case,submission,record,member,screening⟩
    obtain ⟨before,after,rfl⟩ := List.append_of_mem member
    exact ⟨before,_,after,case,rfl,rfl,screening,(perform_hands_iff _ _).mpr rfl⟩

theorem screening_record_handed :
    HandsScreened ⟨Comment.strip .slash,.empty Store.accepting⟩
      [.recordResult {id := 1,prompt := ⟨1,[],[]⟩,weight := .zero,isScreening := true}
        ⟨1,1,[],none⟩ ⟨[]⟩] :=
  ⟨[],_,[],_,rfl,rfl,rfl,(perform_hands_iff _ _).mpr rfl⟩

end Marker
end Marking
