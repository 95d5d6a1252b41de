import Marking.Failure

-- Where verdicts go.

namespace Marking

-- A store keeps what it accepts, in order. Attempts to save are counted from zero, and
-- `refusal` tells which of them are refused, and why. What was handed over is every result
-- that came with an attempt, refused ones included.
structure Store where
  refusal : Nat → Option Text
  handed : List Result
  results : List Result

namespace Store

def empty (refusal : Nat → Option Text) : Store := ⟨refusal,[],[]⟩

def attempts (store : Store) : Nat := store.handed.length

-- Refuses every attempt from a number on.
def refusingFrom (first : Nat) (reason : Text) : Nat → Option Text :=
  fun attempt => if first ≤ attempt then some reason else none

def accepting : Nat → Option Text := fun _ => none

def save (store : Store) (result : Result) : Store × Except Failure Unit :=
  let attempted := {store with handed := store.handed ++ [result]}
  match store.refusal store.attempts with
  | some reason => (attempted,.error (.refused reason))
  | none => ({attempted with results := store.results ++ [result]},.ok ())

variable {store : Store} {result : Result} {reason : Text}

@[simp] theorem save_refusal : (store.save result).1.refusal = store.refusal := by
  unfold save
  split <;> rfl

@[simp] theorem save_handed : (store.save result).1.handed = store.handed ++ [result] := by
  unfold save
  split <;> rfl

@[simp] theorem save_attempts : (store.save result).1.attempts = store.attempts + 1 := by
  simp [attempts]

theorem save_free (free : store.refusal store.attempts = none) :
    (store.save result).1.results = store.results ++ [result] ∧ (store.save result).2 = .ok () := by
  simp [save,free]

theorem save_refused (refused : store.refusal store.attempts = some reason) :
    (store.save result).1.results = store.results ∧
      (store.save result).2 = .error (.refused reason) := by
  simp [save,refused]

end Store
end Marking
