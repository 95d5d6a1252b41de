import Marking.Proofs.Text.Cutting

-- Trimming takes off the white space on both sides. Twice is once, and a text without white space
-- stays as it is.

namespace Marking.Text

def Padded (inner text : Text) : Prop :=
  ∃ left right, text = left ++ (inner ++ right) ∧ (∀ c ∈ left, isSpace c = true) ∧ ∀ c ∈ right, isSpace c = true

theorem trimEnd_prefix (text : Text) : trimEnd text <+: text := List.rdropWhile_prefix isSpace text

theorem trimEnd_trim (text : Text) : trimEnd (trim text) = trim text :=
  List.rdropWhile_idempotent isSpace (trimStart text)

theorem trimStart_eq_self_iff {text : Text} : trimStart text = text ↔ ∀ c ∈ text.head?, isSpace c = false := by
  cases text with
  | nil => simp [trimStart]
  | cons c rest =>
    rw [trimStart,List.dropWhile_eq_self_iff]
    simp

theorem trimStart_trim (text : Text) : trimStart (trim text) = trim text := by
  rw [trimStart_eq_self_iff]
  intro c first
  have uncovered : trimStart (trimStart text) = trimStart text := List.dropWhile_idempotent isSpace text
  refine trimStart_eq_self_iff.mp uncovered c ?_
  obtain ⟨rest,split⟩ := trimEnd_prefix (trimStart text)
  rw [← split,List.head?_append,show trimEnd (trimStart text) = trim text from rfl,first]
  rfl

theorem trim_trim (text : Text) : trim (trim text) = trim text := by
  rw [trim,trimStart_trim,trimEnd_trim]

theorem trim_eq_iff {text inner : Text} :
    trim text = inner ↔
      Padded inner text ∧ (∀ c ∈ inner.head?, isSpace c = false) ∧ ∀ c ∈ inner.getLast?, isSpace c = false := by
  constructor
  · intro same
    rw [← same]
    have kept : dropTrailing isSpace (trimStart text) = trim text := rfl
    obtain ⟨right,split,blank,last⟩ := dropTrailing_eq_iff.mp kept
    refine ⟨⟨text.takeWhile isSpace,right,?_,fun _ => List.mem_takeWhile_imp,blank⟩,?_,last⟩
    · exact List.takeWhile_append_dropWhile.symm.trans (congrArg (text.takeWhile isSpace ++ ·) split)
    · exact trimStart_eq_self_iff.mp (trimStart_trim text)
  · intro padded
    obtain ⟨⟨left,right,rfl,before,behind⟩,first,last⟩ := padded
    have start : trimStart (left ++ (inner ++ right)) = trimStart (inner ++ right) :=
      List.dropWhile_append_of_pos before
    rw [trim,start]
    cases inner with
    | nil =>
      have none : trimStart right = [] := by simpa [trimStart] using behind
      rw [List.nil_append,none]
      rfl
    | cons c inner =>
      have solid : trimStart (c :: inner ++ right) = c :: inner ++ right := trimStart_eq_self_iff.mpr first
      rw [solid]
      exact dropTrailing_eq_iff.mpr ⟨right,rfl,behind,last⟩

theorem trim_eq_nil_iff {text : Text} : trim text = [] ↔ isBlank text = true := by
  rw [trim_eq_iff,isBlank,List.all_eq_true]
  constructor
  · rintro ⟨⟨left,right,rfl,before,behind⟩,_⟩ c member
    rcases List.mem_append.mp member with member | member
    · exact before c member
    · exact behind c member
  · exact fun blank => ⟨⟨text,[],by simp,blank,nofun⟩,nofun,nofun⟩

theorem trim_eq_self {text : Text} (free : ∀ c ∈ text, isSpace c = false) : trim text = text := by
  have bare : Padded text text := ⟨[],[],(List.append_nil _).symm,nofun,nofun⟩
  refine trim_eq_iff.mpr ⟨bare,?_,?_⟩
  · exact fun c first => free c (List.mem_of_mem_head? first)
  · exact fun c last => free c (List.mem_of_mem_getLast? last)

end Marking.Text
