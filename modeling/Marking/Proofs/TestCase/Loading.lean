import Marking.Proofs.TestCase.Reading

-- What loading gives for every text: the cases if all of them can be read and are valid, and otherwise one
-- failure, which stands for the first thing that is wrong.

namespace Marking

variable {α ε : Type}

def FirstIn (holds : α → Prop) (items : List α) (item : α) : Prop :=
  ∃ before after, items = before ++ item :: after ∧ (∀ other ∈ before, ¬ holds other) ∧ holds item

section FirstIn

variable {holds : α → Prop} {items : List α} {item found : α}

theorem firstIn_nil : ¬ FirstIn holds [] found := by
  intro given
  obtain ⟨before,after,split,_⟩ := given
  cases before <;> cases split

theorem firstIn_cons : FirstIn holds (item :: items) found ↔
    (holds item ∧ found = item) ∨ (¬ holds item ∧ FirstIn holds items found) := by
  constructor
  · intro given
    obtain ⟨before,after,split,free,held⟩ := given
    cases before with
    | nil =>
      cases split
      exact .inl ⟨held,rfl⟩
    | cons first before =>
      cases split
      obtain ⟨one,others⟩ := List.forall_mem_cons.mp free
      exact .inr ⟨one,before,after,rfl,others,held⟩
  · intro given
    rcases given with ⟨held,rfl⟩ | ⟨free,before,after,rfl,others,held⟩
    · exact ⟨[],items,rfl,List.forall_mem_nil _,held⟩
    · exact ⟨item :: before,after,rfl,List.forall_mem_cons.mpr ⟨free,others⟩,held⟩

end FirstIn

theorem forM_eq_ok_iff {check : α → Except ε Unit} {items : List α} :
    items.forM check = .ok () ↔ ∀ item ∈ items, check item = .ok () := by
  induction items with
  | nil => exact ⟨fun _ => List.forall_mem_nil _,fun _ => rfl⟩
  | cons item items ih =>
    change (check item >>= fun _ => items.forM check) = .ok () ↔ _
    rw [List.forall_mem_cons]
    cases one : check item with
    | error failure => exact ⟨nofun,fun given => nomatch given.1⟩
    | ok => exact ih.trans (and_iff_right rfl).symm

theorem forM_eq_error_iff {check : α → Except ε Unit} {items : List α} {failure : ε} :
    items.forM check = .error failure ↔
      ∃ item, FirstIn (fun item => check item ≠ .ok ()) items item ∧ check item = .error failure := by
  induction items with
  | nil =>
    constructor
    · nofun
    · intro given
      obtain ⟨_,first,_⟩ := given
      exact absurd first firstIn_nil
  | cons item items ih =>
    change (check item >>= fun _ => items.forM check) = .error failure ↔ _
    cases one : check item with
    | error other =>
      constructor
      · intro same
        exact ⟨item,firstIn_cons.mpr (.inl ⟨by simp [one],rfl⟩),one.trans same⟩
      · intro given
        obtain ⟨found,first,failed⟩ := given
        rcases firstIn_cons.mp first with ⟨_,rfl⟩ | ⟨passed,_⟩
        · exact one.symm.trans failed
        · exact absurd (by simp [one]) passed
    | ok =>
      refine ih.trans (exists_congr fun found => and_congr_left fun _ => ?_)
      rw [firstIn_cons]
      simp [one]

theorem map_ok_iff {result : Except ε Unit} {value found : α} :
    (result.map fun _ => value) = .ok found ↔ value = found ∧ result = .ok () := by
  cases result <;> simp [Except.map]

theorem map_error_iff {result : Except ε Unit} {value : α} {failure : ε} :
    (result.map fun _ => value) = .error failure ↔ result = .error failure := by
  cases result <;> simp [Except.map]

-- A finite number that is not below zero. Negative zero is not below it.
def Binary64.IsAmount (weight : Binary64) : Prop :=
  ∃ negative significand exponent, weight = .finite negative significand exponent ∧ (negative = true → significand = 0)

namespace TestCase

def Described (case : TestCase) : Prop := ∃ description, case.description = some description ∧ Text.isBlank description = false

structure Valid (case : TestCase) : Prop where
  weight : case.weight.IsAmount
  shown : case.Described ∨ Text.isBlank case.input = false ∧ Text.isBlank case.expectedOutput = false

inductive Condition where
  | weight
  | input
  | expectedOutput
  deriving DecidableEq,Repr

namespace Condition

def inOrder : List Condition := [.weight,.input,.expectedOutput]

def Broken (case : TestCase) : Condition → Prop
  | .weight => ¬ case.weight.IsAmount
  | .input => ¬ case.Described ∧ Text.isBlank case.input = true
  | .expectedOutput => ¬ case.Described ∧ Text.isBlank case.expectedOutput = true

def failure (case : TestCase) : Condition → Failure
  | .weight => .invalidWeight case.id case.weight
  | .input => .inputMissing case.id
  | .expectedOutput => .expectedOutputMissing case.id

def complaint (case : TestCase) : Condition → Text
  | .weight => " has invalid weight ".toList ++ case.weight.text
  | .input => " needs an input when it has no description".toList
  | .expectedOutput => " needs an expected output when it has no description".toList

end Condition

-- The failure of the first case that is not valid, for the first condition that it breaks.
def FirstFault (cases : List TestCase) (failure : Failure) : Prop :=
  ∃ case condition, FirstIn (fun case => ¬ case.Valid) cases case ∧
    FirstIn (Condition.Broken case) Condition.inOrder condition ∧ failure = condition.failure case

variable {case : TestCase} {condition : Condition} {failure : Failure} {text : Text} {cases : List TestCase}

theorem failure_detail : (condition.failure case).detail =
    "Test case ".toList ++ (Text.ofInt case.id.toInt ++ condition.complaint case) := by
  cases condition with
  | weight => exact (List.append_assoc ..).trans (List.append_assoc ..)
  | input => exact List.append_assoc ..
  | expectedOutput => exact List.append_assoc ..

theorem failure_message : (condition.failure case).message =
    "Configuration error: ".toList ++ ("Test case ".toList ++ (Text.ofInt case.id.toInt ++ condition.complaint case)) := by
  rw [← failure_detail]
  cases condition <;> rfl

theorem amount_iff {weight : Binary64} : (!weight.isFinite || weight.isBelowZero) = false ↔ weight.IsAmount := by
  unfold Binary64.IsAmount
  cases weight with
  | nan => simp [Binary64.isFinite]
  | infinite negative => simp [Binary64.isFinite]
  | finite negative significand exponent =>
    cases negative <;> simp [Binary64.isFinite,Binary64.isBelowZero]

theorem described_iff : case.authoredDescription?.isSome = true ↔ case.Described := by
  unfold authoredDescription? Text.nonBlank? Described
  cases case.description <;> simp

instance (weight : Binary64) : Decidable weight.IsAmount := decidable_of_iff _ amount_iff

instance (case : TestCase) : Decidable case.Described := decidable_of_iff _ described_iff

instance (case : TestCase) : (condition : Condition) → Decidable (condition.Broken case)
  | .weight => inferInstanceAs (Decidable (¬ case.weight.IsAmount))
  | .input => inferInstanceAs (Decidable (¬ case.Described ∧ Text.isBlank case.input = true))
  | .expectedOutput => inferInstanceAs (Decidable (¬ case.Described ∧ Text.isBlank case.expectedOutput = true))

theorem valid_iff : case.Valid ↔ ∀ condition ∈ Condition.inOrder, ¬ condition.Broken case := by
  simp only [Condition.inOrder,List.forall_mem_cons,Condition.Broken]
  constructor
  · intro valid
    obtain ⟨weight,shown⟩ := valid
    refine ⟨not_not_intro weight,?_,?_,List.forall_mem_nil _⟩ <;>
      rcases shown with described | ⟨input,expectedOutput⟩ <;> simp_all
  · intro given
    obtain ⟨weight,input,expectedOutput,_⟩ := given
    refine ⟨Decidable.not_not.mp weight,?_⟩
    by_cases described : case.Described
    · exact Or.inl described
    · exact Or.inr (by simp_all)

def Condition.check (case : TestCase) (condition : Condition) : Except Failure Unit :=
  if condition.Broken case then .error (condition.failure case) else .ok ()

theorem Condition.check_ok_iff : condition.check case = .ok () ↔ ¬ condition.Broken case := by
  unfold Condition.check
  split <;> simp_all

theorem Condition.check_error_iff : condition.check case = .error failure ↔
    condition.Broken case ∧ failure = condition.failure case := by
  unfold Condition.check
  split <;> simp_all [eq_comm]

theorem check_conditions : case.check = Condition.inOrder.forM (Condition.check case) := by
  have weight := @amount_iff case.weight
  have described := @described_iff case
  change case.check = (Condition.check case .weight >>= fun _ => Condition.check case .input >>= fun _ =>
    Condition.check case .expectedOutput >>= fun _ => pure ())
  unfold TestCase.check Condition.check
  by_cases amount : case.weight.IsAmount
  · rw [if_neg (by simp [weight.mpr amount])]
    by_cases shown : case.Described
    · simp [Condition.Broken,amount,shown,described.mpr shown]
      rfl
    · have silent : ¬ case.authoredDescription?.isSome = true := fun given => shown (described.mp given)
      cases input : Text.isBlank case.input <;> cases output : Text.isBlank case.expectedOutput <;>
        simp [Condition.Broken,amount,shown,silent,input,output] <;> rfl
  · rw [if_pos (Bool.eq_true_of_not_eq_false fun fine => amount (weight.mp fine))]
    simp [Condition.Broken,amount]
    rfl

theorem check_eq_ok_iff : case.check = .ok () ↔ case.Valid := by
  rw [check_conditions,forM_eq_ok_iff,valid_iff]
  exact forall₂_congr fun _ _ => Condition.check_ok_iff

theorem check_eq_error_iff : case.check = .error failure ↔
    ∃ condition, FirstIn (Condition.Broken case) Condition.inOrder condition ∧ failure = condition.failure case := by
  rw [check_conditions,forM_eq_error_iff]
  simp only [ne_eq,Condition.check_ok_iff,not_not,Condition.check_error_iff]
  refine exists_congr fun condition => and_congr_right fun first => ?_
  obtain ⟨_,_,_,_,broken⟩ := first
  exact and_iff_right broken

theorem checkAll_ok_iff : cases.forM check = .ok () ↔ ∀ case ∈ cases, case.Valid :=
  forM_eq_ok_iff.trans (forall₂_congr fun _ _ => check_eq_ok_iff)

theorem checkAll_error_iff : cases.forM check = .error failure ↔ FirstFault cases failure := by
  rw [forM_eq_error_iff]
  simp only [FirstFault,ne_eq,check_eq_ok_iff,check_eq_error_iff,exists_and_left]

theorem load_read (read : (Json.read? text).bind listOfJson? = some cases) :
    load text = (cases.forM check).map fun _ => cases := by
  rw [load,read]
  exact (map_eq_pure_bind (fun _ => cases) (cases.forM check)).symm

theorem load_ok_iff : load text = .ok cases ↔ ReadsAll cases text ∧ ∀ case ∈ cases, case.Valid := by
  rw [← readCases_iff,← checkAll_ok_iff]
  cases read : (Json.read? text).bind listOfJson? with
  | none => simp [load,read]
  | some found =>
    rw [load_read read,map_ok_iff,Option.some_inj]
    exact and_congr_right fun same => by rw [same]

theorem load_error_iff : load text = .error failure ↔
    (failure = .unreadableCases ∧ ∀ cases, ¬ ReadsAll cases text) ∨ ∃ cases, ReadsAll cases text ∧ FirstFault cases failure := by
  simp only [← readCases_iff]
  cases read : (Json.read? text).bind listOfJson? with
  | none => simp [load,read,eq_comm]
  | some found =>
    rw [load_read read,map_error_iff,checkAll_error_iff]
    constructor
    · intro fault
      exact .inr ⟨found,rfl,fault⟩
    · intro given
      rcases given with ⟨_,unread⟩ | ⟨_,same,fault⟩
      · exact absurd rfl (unread found)
      · cases same
        exact fault

theorem load_exact (text : Text) :
    (∀ cases, load text = .ok cases ↔ ReadsAll cases text ∧ ∀ case ∈ cases, case.Valid) ∧
    (∀ failure, load text = .error failure ↔
      (failure = .unreadableCases ∧ ∀ cases, ¬ ReadsAll cases text) ∨ ∃ cases, ReadsAll cases text ∧ FirstFault cases failure) ∧
    Failure.unreadableCases.message = "Configuration error: Invalid test case JSON:".toList ∧
    ∀ (case : TestCase) (condition : Condition), (condition.failure case).message =
      "Configuration error: ".toList ++ ("Test case ".toList ++ (Text.ofInt case.id.toInt ++ condition.complaint case)) := by
  refine ⟨fun _ => load_ok_iff,fun _ => load_error_iff,?_,fun _ _ => failure_message⟩
  rfl

-- The second case breaks every condition, and the third one is not reached.
example : load (String.toList <| "[[1,[2,\"A\",\"f\"],\"\",\"\",\"d\",null,0]," ++
    "[5,[2,\"A\",\"f\"],\" \",\"\",null,null,-1],[6,[2,\"A\",\"f\"],\"\",\"\",null,null,1]]") =
    .error (.invalidWeight 5 (.finite true (Nat.pow 2 52) (-52))) := by
  decide +kernel

end TestCase

end Marking
