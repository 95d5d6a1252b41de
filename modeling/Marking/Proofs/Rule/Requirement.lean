import Marking.Proofs.Rule.Writing
import Marking.Proofs.Text.Integer
import Marking.Rule.Static

-- What an expected output asks of a rule. Its digits are looked at one by one and its count is read up
-- to a bound, and both agree with the number that is written, however long it is.

namespace Marking.Requirement

def SaysTrue (text : Text) : Prop := ∃ word, Cased "true".toList word ∧ word <:+: text

-- A number demands unless it is zero. Other texts demand when they are blank or say so.
inductive Meant : Text → Requirement → Prop where
  | number {text : Text} {n : Nat} (spelled : Text.SpellsNat text n) :
      Meant text ⟨decide (0 < n),if n < 18446744073709551616 then some n else none⟩
  | words {text : Text} {required : Bool} (other : ∀ n, ¬ Text.SpellsNat text n)
      (demands : required = true ↔ (∀ c ∈ text, Text.isSpace c = true) ∨ SaysTrue text) :
      Meant text ⟨required,none⟩

variable {text : Text} {requirement : Requirement} {n : Nat}

theorem exists_spellsNat_iff :
    (∃ n, Text.SpellsNat text n) ↔ text ≠ [] ∧ ∀ c ∈ text, Text.isAsciiDigit c = true := by
  simp [Text.spellsNat_iff]

theorem hasPart_true_iff : Text.hasPart "true".toList (text.map Char.toLower) = true ↔ SaysTrue text := by
  have checked : ("true".toList.all fun m => m.toLower == m) = true := by decide
  have small : ∀ m ∈ "true".toList, m.toLower = m := by simpa only [List.all_eq_true,beq_iff_eq] using checked
  simp only [SaysTrue,Text.hasPart_iff,List.infix_map_iff,cased_iff small,and_comm]

theorem read_number (spelled : Text.SpellsNat text n) :
    read text = ⟨decide (0 < n),if n < 18446744073709551616 then some n else none⟩ := by
  obtain ⟨some,digits,value⟩ := Text.spellsNat_iff.mp spelled
  have plain : (!text.isEmpty && text.all Text.isAsciiDigit) = true := by simpa [some] using digits
  have sign : text.any (· != '0') = decide (0 < n) := by
    rw [Bool.eq_iff_iff,decide_eq_true_iff,← value,Nat.pos_iff_ne_zero,ne_eq,Text.digitsValue_eq_zero_iff digits]
    simp
  have limit : Nat.pow 2 64 = 18446744073709551616 := by decide
  rw [read,if_pos plain,sign,Text.boundedValue_eq (by decide),value,limit]

theorem read_words (other : ∀ n, ¬ Text.SpellsNat text n) :
    ∃ required, read text = ⟨required,none⟩ ∧
      (required = true ↔ (∀ c ∈ text, Text.isSpace c = true) ∨ SaysTrue text) := by
  have plain : ¬ (!text.isEmpty && text.all Text.isAsciiDigit) = true := by
    intro digits
    exact not_exists.mpr other (exists_spellsNat_iff.mpr (by simpa using digits))
  refine ⟨_,if_neg plain,?_⟩
  rw [Bool.or_eq_true,hasPart_true_iff,Text.isBlank,List.all_eq_true]

theorem requirement_read_exact (text : Text) :
    (∀ requirement, read text = requirement ↔ Meant text requirement) ∧
    ((∃ n, Text.SpellsNat text n) ↔ text ≠ [] ∧ ∀ c ∈ text, Text.isAsciiDigit c = true) := by
  refine ⟨?_,exists_spellsNat_iff⟩
  intro requirement
  constructor
  · intro same
    rw [← same]
    by_cases number : ∃ n, Text.SpellsNat text n
    · obtain ⟨n,spelled⟩ := number
      rw [read_number spelled]
      exact .number spelled
    · have other := not_exists.mp number
      obtain ⟨required,same,demands⟩ := read_words other
      rw [same]
      exact .words other demands
  · intro meant
    cases meant with
    | number spelled => exact read_number spelled
    | words other demands =>
      obtain ⟨found,same,asked⟩ := read_words other
      rw [same,Bool.eq_iff_iff.mpr (asked.trans demands.symm)]

end Marking.Requirement
