import Marking.Proofs.Template.Layout

-- Plain text without an opening brace, and placeholders that hold a name alone: however the white space
-- around the name is laid out, they are cut into this text and this name.

namespace Marking.Template

variable {text name before behind rest : Text} {parts : List Part}

theorem unopened_of_closed (closed : '\x7b' ∉ text) : Unopened text := by
  induction text with
  | nil => exact unopened_nil
  | cons c text ih =>
    obtain ⟨other,closed⟩ : '\x7b' ≠ c ∧ '\x7b' ∉ text := by simpa using closed
    obtain ⟨open?,last⟩ := ih closed
    cases text with
    | nil => exact ⟨rfl,by simpa using Ne.symm other⟩
    | cons d text => exact ⟨by simp [cutAtOpening,Ne.symm other,open?],by simpa using last⟩

theorem dropWhile_blank (blank : ∀ c ∈ before, isTagSpace c = true) (solid : ∀ c ∈ rest.head?, isTagSpace c = false) :
    (before ++ rest).dropWhile isTagSpace = rest := by
  rw [List.dropWhile_append_of_pos blank]
  cases rest with
  | nil => rfl
  | cons c rest => simp [solid c rfl]

theorem not_nameChar_behind (last : ∀ c ∈ behind, isTagSpace c = true) (rest : Text) :
    ∀ c ∈ (behind ++ (['\x7d','\x7d'] ++ rest)).head?, isNameChar c = false := by
  intro c first
  cases behind with
  | nil =>
    cases first
    rfl
  | cons d behind =>
    cases first
    have space := last c (List.mem_cons_self ..)
    simp only [isTagSpace,Bool.or_eq_true,beq_iff_eq] at space
    rcases space with (((rfl | rfl) | rfl) | rfl) | rfl <;> rfl

theorem readTokens_named (valid : (Operand.name name).Valid) (first : ∀ c ∈ before, isTagSpace c = true)
    (last : ∀ c ∈ behind, isTagSpace c = true) (rest : Text) (fuel : Nat) :
    readTokens? ['\x7d','\x7d'] (fuel + 2) (before ++ (name ++ (behind ++ (['\x7d','\x7d'] ++ rest)))) =
      some ([.name name],false,rest) := by
  have plain : (Word.name name).Plain := valid.1
  have closing : ['\x7d','\x7d'] ∈ closings := List.mem_cons_self ..
  obtain ⟨c,tail,spelled,solid,_⟩ := plain.begins
  obtain rfl : name = c :: tail := spelled
  have start : (before ++ (c :: tail ++ (behind ++ (['\x7d','\x7d'] ++ rest)))).dropWhile isTagSpace = _ :=
    dropWhile_blank first (by simpa using solid)
  have open? : tagEnd? ['\x7d','\x7d'] (c :: tail ++ (behind ++ (['\x7d','\x7d'] ++ rest))) = none :=
    tagEnd_word plain closing _
  have read : readToken? (c :: tail ++ (behind ++ (['\x7d','\x7d'] ++ rest))) = some (.name (c :: tail),_) :=
    readToken_name plain.1 plain.2 (not_nameChar_behind last rest)
  have stop : (behind ++ (['\x7d','\x7d'] ++ rest)).dropWhile isTagSpace = _ := dropWhile_blank last (by simp [isTagSpace])
  have closed : tagEnd? ['\x7d','\x7d'] (['\x7d','\x7d'] ++ rest) = some (false,rest) := rfl
  simp only [readTokens?,start,open?,read,stop,closed,bind,Option.bind]

-- The reader has a round for each character and one more.
theorem readTokens_placeholder (valid : (Operand.name name).Valid) (first : ∀ c ∈ before, isTagSpace c = true)
    (last : ∀ c ∈ behind, isTagSpace c = true) (rest : Text) :
    readTokens? ['\x7d','\x7d'] ((before ++ (name ++ (behind ++ (['\x7d','\x7d'] ++ rest)))).length + 1)
      (before ++ (name ++ (behind ++ (['\x7d','\x7d'] ++ rest)))) = some ([.name name],false,rest) := by
  obtain ⟨fuel,rounds⟩ : ∃ fuel, (before ++ (name ++ (behind ++ (['\x7d','\x7d'] ++ rest)))).length + 1 = fuel + 2 :=
    ⟨before.length + name.length + behind.length + rest.length + 1,by simp +arith⟩
  rw [rounds]
  exact readTokens_named valid first last rest fuel

-- A sign in front would take white space away, but there is none.
theorem dropSign_named (valid : (Operand.name name).Valid) (first : ∀ c ∈ before, isTagSpace c = true) (rest : Text) :
    dropSign (before ++ (name ++ rest)) = (false,before ++ (name ++ rest)) := by
  obtain ⟨c,tail,spelled,solid,sign⟩ := Word.Plain.begins valid.1
  obtain rfl : name = c :: tail := spelled
  simp only [List.mem_cons,List.not_mem_nil,or_false,not_or] at sign
  cases before with
  | nil => simp [dropSign,sign.1,sign.2.1]
  | cons d before =>
    have space := first d (List.mem_cons_self ..)
    have minus : d ≠ '-' := by
      rintro rfl
      exact absurd space (by decide)
    have plus : d ≠ '+' := by
      rintro rfl
      exact absurd space (by decide)
    simp [dropSign,minus,plus]

theorem CutInto.named (valid : (Operand.name name).Valid) (first : ∀ c ∈ before, isTagSpace c = true)
    (last : ∀ c ∈ behind, isTagSpace c = true) (later : CutInto rest parts) :
    CutInto ('\x7b' :: '\x7b' :: (before ++ (name ++ (behind ++ (['\x7d','\x7d'] ++ rest)))))
      (.output (.named name) :: parts) :=
  .opened (dropSign_named valid first _) (readTokens_placeholder valid first last rest) (by simp; omega) later

end Marking.Template
