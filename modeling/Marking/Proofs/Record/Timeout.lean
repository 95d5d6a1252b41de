import Marking.Proofs.Record.Feedback
import Marking.Proofs.Text.Integer

-- Feedback on a timeout. Milliseconds are rewritten as seconds by their last three digits alone, which
-- keeps the duration because these are zeros exactly for whole seconds.

namespace Marking

inductive TimeUnit where
  | millisecond
  | second
  deriving DecidableEq,Repr

def TimeUnit.name : TimeUnit → Text
  | millisecond => "milliseconds".toList
  | second => "seconds".toList

structure Duration where
  count : Nat
  unit : TimeUnit
  deriving DecidableEq,Repr

namespace Duration

def milliseconds (duration : Duration) : Nat :=
  match duration.unit with
  | .millisecond => duration.count
  | .second => 1000 * duration.count

def written (duration : Duration) : Text := Text.ofNat duration.count ++ ' ' :: duration.unit.name

-- Seconds where these come out even, unless there is nothing to count.
def shortened (milliseconds : Nat) : Duration :=
  if 0 < milliseconds ∧ 1000 ∣ milliseconds then ⟨milliseconds / 1000,.second⟩ else ⟨milliseconds,.millisecond⟩

theorem milliseconds_shortened (n : Nat) : (shortened n).milliseconds = n := by
  unfold shortened
  split
  · rename_i whole
    exact Nat.mul_div_cancel' whole.2
  · rfl

end Duration

namespace Text

variable {digits front back part replacement text shown : Text} {p : Char} {n : Nat}

theorem FirstReplaced.behind (replaced : FirstReplaced (p :: part) replacement text shown) (absent : p ∉ front) :
    FirstReplaced (p :: part) replacement (front ++ text) (front ++ shown) := by
  induction front with
  | nil => exact replaced
  | cons c front ih =>
    obtain ⟨different,absent⟩ : p ≠ c ∧ p ∉ front := by simpa using absent
    refine .later ?_ (ih absent)
    intro begins
    exact different (List.cons_prefix_cons.mp begins).1

theorem ofNat_thousands (positive : 0 < n) : ofNat (1000 * n) = ofNat n ++ ['0','0','0'] := by
  have factors : 1000 * n = 10 * (10 * (10 * n)) := by omega
  rw [factors,ofNat_ten_mul (by omega),ofNat_ten_mul (by omega),ofNat_ten_mul positive]
  simp

theorem whole_of_zeros (zeros : ofNat n = front ++ ['0','0','0']) : 0 < n ∧ 1000 ∣ n := by
  have split : front ++ ['0','0','0'] = front ++ ['0'] ++ ['0'] ++ ['0'] := by simp
  have value := digitsValue_ofNat n
  rw [zeros,split,digitsValue_concat,digitsValue_concat,digitsValue_concat,Nat.sub_self] at value
  constructor
  · by_contra none
    obtain rfl : n = 0 := by omega
    have size := congrArg List.length zeros
    rw [List.length_append] at size
    change 1 = front.length + 3 at size
    omega
  · exact ⟨digitsValue front,by omega⟩

theorem milliseconds_split : "milliseconds".toList = "milli".toList ++ "seconds".toList := by
  simp only [String.reduceToList,List.cons_append,List.nil_append]

theorem zeros_unit : "000 milli".toList = ['0','0','0'] ++ ' ' :: "milli".toList := by
  simp only [String.reduceToList,List.cons_append,List.nil_append]

-- There is one blank, and it tells which zeros can be meant.
theorem zeros_end_digits (valid : ∀ c ∈ digits, isAsciiDigit c = true)
    (occurs : digits ++ ' ' :: "milliseconds".toList = front ++ ("000 milli".toList ++ back)) :
    digits = front ++ ['0','0','0'] := by
  have unspaced : ' ' ∉ digits := by
    intro member
    exact absurd (valid ' ' member) (by decide)
  have cut : cutAtFirst? ' ' (digits ++ ' ' :: "milliseconds".toList) = some (digits,"milliseconds".toList) :=
    cutAtFirst_append unspaced
  have counts := congrArg (List.count ' ') occurs
  have inside : "milliseconds".toList.count ' ' = 0 ∧ "000 milli".toList.count ' ' = 1 := by decide
  rw [List.count_append,List.count_append,List.count_append,List.count_cons_self,
    List.count_eq_zero.mpr unspaced,inside.1,inside.2] at counts
  have before : front.count ' ' = 0 := by omega
  have clear : ' ' ∉ front ++ ['0','0','0'] := by simpa using List.count_eq_zero.mp before
  have place : front ++ ("000 milli".toList ++ back) = front ++ ['0','0','0'] ++ ' ' :: ("milli".toList ++ back) := by
    rw [zeros_unit]
    simp only [List.append_assoc,List.cons_append]
  rw [occurs,place,cutAtFirst_append clear] at cut
  exact (Prod.mk.inj (Option.some.inj cut)).1.symm

theorem firstReplaced_milliseconds (n : Nat) :
    FirstReplaced "000 milli".toList [' '] (Duration.mk n .millisecond).written (Duration.shortened n).written := by
  unfold Duration.shortened
  split
  · rename_i whole
    obtain ⟨positive,k,rfl⟩ := whole
    have digits : ofNat (1000 * k) = ofNat k ++ ['0','0','0'] := ofNat_thousands (by omega)
    rw [Nat.mul_div_cancel_left k (by decide)]
    refine @FirstReplaced.replaced _ _ _ (ofNat k) "seconds".toList ?_ ?_
    · unfold Duration.written TimeUnit.name
      rw [digits,zeros_unit,milliseconds_split]
      simp only [List.append_assoc,List.cons_append]
    · intro front back occurs
      have same := zeros_end_digits (digits_ofNat _) occurs
      rw [digits] at same
      rw [List.append_cancel_right same]
  · rename_i uneven
    refine .absent ?_
    intro occurs
    obtain ⟨front,back,place⟩ := occurs
    rw [List.append_assoc] at place
    exact uneven (whole_of_zeros (zeros_end_digits (digits_ofNat n) place.symm))

end Text

namespace Record

variable {record : Record} {n : Nat}

def timeoutMessage (n : Nat) : Text := "test timed out after ".toList ++ (Duration.mk n .millisecond).written

theorem timeoutMessage_eq (n : Nat) :
    timeoutMessage n = "test timed out".toList ++ (" after ".toList ++ (Duration.mk n .millisecond).written) := by
  have opening : "test timed out after ".toList = "test timed out".toList ++ " after ".toList := by
    simp only [String.reduceToList,List.cons_append,List.nil_append]
  unfold timeoutMessage
  rw [opening,List.append_assoc]

theorem timeout_opens (n : Nat) : "test timed out".toList <+: timeoutMessage n := by
  rw [timeoutMessage_eq]
  exact List.prefix_append _ _

theorem reworded_timeout (n : Nat) :
    Reworded (timeoutMessage n) ("timed out after ".toList ++ (Duration.shortened n).written) := by
  have absent : '0' ∉ "timed out after ".toList := by decide
  have kept : "timed out".toList ++ " after ".toList = "timed out after ".toList := by
    simp only [String.reduceToList,List.cons_append,List.nil_append]
  rw [timeoutMessage_eq]
  refine .timeout ?_
  rw [← List.append_assoc,kept,Text.zeros_unit]
  have shortened := Text.firstReplaced_milliseconds n
  rw [Text.zeros_unit] at shortened
  exact shortened.behind absent

theorem capitalized_timeout (text : Text) :
    Text.Capitalized ("timed out after ".toList ++ text) ("Timed out after ".toList ++ text) := by
  have raised : Text.upperChar 't' = ['T'] := by decide
  have begins : Text.isAlphanumeric 't' = true := by decide
  have capitalized := Text.Capitalized.raised ("imed out after ".toList ++ text) (.inl begins)
  simpa only [raised,String.reduceToList,List.cons_append,List.nil_append] using capitalized

theorem hasMessage_timeout (timeout : record.rawMessage = timeoutMessage n) : record.HasMessage := by
  have opens := timeout_opens n
  rw [← timeout] at opens
  constructor
  · exact Text.isBlank_eq_false_iff.mpr ⟨'t',opens.subset (by decide),by decide⟩
  · intro null
    rw [null] at opens
    exact absurd opens.length_le (by decide)

theorem timeout_shown (timeout : record.rawMessage = timeoutMessage n) :
    record.MessageShown ("Timed out after ".toList ++ (Duration.shortened n).written) := by
  refine ⟨hasMessage_timeout timeout,_,?_,capitalized_timeout _⟩
  rw [timeout]
  exact reworded_timeout n

theorem timeout_feedback (record : Record) (n : Nat)
    (unnamed : Text.isBlank record.exceptionType = true ∨ record.Named "Exception".toList)
    (timeout : record.rawMessage = timeoutMessage n) :
    record.feedback = "Timed out after ".toList ++ (Duration.shortened n).written ∧
      (Duration.shortened n).milliseconds = n := by
  have nameless : ∀ name, ¬ record.NameShown name := by
    intro name shown
    rcases unnamed with blank | named
    · rw [shown.named.given] at blank
      cases blank
    · have opens : "test timed out".toList <+: record.rawMessage := by
        rw [timeout]
        exact timeout_opens n
      exact shown.telling ⟨hasMessage_timeout timeout,.inr ⟨shown.named.unique named,opens⟩⟩
  exact ⟨(Composed.messageAlone nameless (timeout_shown timeout)).eq,Duration.milliseconds_shortened n⟩

theorem two_seconds_feedback :
    let record : Record := ⟨[[],[],[],[],[],"java.lang.Exception".toList,
      "test timed out after 2000 milliseconds".toList,"0".toList]⟩
    record.Named "Exception".toList ∧ record.rawMessage = timeoutMessage 2000 ∧
      record.feedback = "Timed out after 2 seconds".toList := by
  intro record
  have named : record.Named "Exception".toList := exceptionName_eq_some_iff.mp (by decide)
  have digits : Text.ofNat 2000 = ['2','0','0','0'] := Text.ofNat_thousands (n := 2) (by decide)
  have timeout : record.rawMessage = timeoutMessage 2000 := by
    unfold timeoutMessage Duration.written TimeUnit.name
    rw [digits]
    decide
  have shown : "Timed out after ".toList ++ (Duration.shortened 2000).written = "Timed out after 2 seconds".toList := by
    decide
  exact ⟨named,timeout,(timeout_feedback record 2000 (.inr named) timeout).1.trans shown⟩

end Record
end Marking
