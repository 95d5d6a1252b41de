import Marking.Template.Segment

-- Words between blanks, as they stand in a tag, and how they are read back.

namespace Marking.Template

inductive Word where
  | name (text : Text)
  | quoted (value : Text)
  | join
  deriving DecidableEq,Repr

namespace Word

def spelling : Word → Text
  | name text => text
  | quoted value => '"' :: (value ++ ['"'])
  | join => ['~']

def token : Word → Token
  | name text => .name text
  | quoted value => .text value
  | join => .symbol .tilde

-- A name is an identifier, and nothing in a quoted text needs an escape.
def Plain : Word → Prop
  | name [] => False
  | name (c :: rest) => isNameStart c = true ∧ ∀ d ∈ rest, isNameChar d = true
  | quoted value => ∀ c ∈ value, c ≠ '"' ∧ c ≠ '\\'
  | join => True

instance : (word : Word) → Decidable word.Plain
  | name [] => isFalse id
  | name (c :: rest) => decidable_of_iff ((isNameStart c && rest.all isNameChar) = true) (by simp [Plain])
  | quoted value =>
    decidable_of_iff ((value.all fun c => c != '"' && c != '\\') = true) (by simp [Plain])
  | join => isTrue trivial

-- Each word with a blank before it, and one before the end of the tag.
def spaced (words : List Word) : Text := words.flatMap (fun word => ' ' :: word.spelling) ++ [' ']

end Word

variable {word : Word} {words : List Word} {value rest close : Text} {c : Char}

theorem cutAtQuote_plain (plain : (Word.quoted value).Plain) (rest : Text) :
    cutAtQuote? '"' (value ++ '"' :: rest) = some (value,rest) := by
  induction value with
  | nil => simp [cutAtQuote?]
  | cons c value ih =>
    obtain ⟨⟨quote,escape⟩,later⟩ := List.forall_mem_cons.mp plain
    rw [List.cons_append,cutAtQuote?]
    · simp [quote,ih later]
    · rintro d tail rfl
      exact absurd rfl escape

theorem unescape_plain (plain : (Word.quoted value).Plain) {fuel : Nat} (enough : value.length < fuel) :
    unescape? fuel value = some (value.map .char) := by
  induction value generalizing fuel with
  | nil =>
    cases fuel with
    | zero => cases enough
    | succ fuel => rfl
  | cons c value ih =>
    obtain ⟨⟨_,escape⟩,later⟩ := List.forall_mem_cons.mp plain
    cases fuel with
    | zero => cases enough
    | succ fuel =>
      have enough : value.length < fuel := by simpa using enough
      rw [unescape?]
      · simp [ih later enough]
      · exact escape

theorem textOf_chars (value : Text) : Json.textOf? (value.map .char) = some value := by
  induction value with
  | nil => rfl
  | cons c value ih => simp [Json.textOf?,ih]

theorem readText_plain (plain : (Word.quoted value).Plain) (rest : Text) :
    readText? '"' (value ++ '"' :: rest) = some (.text value,rest) := by
  simp [readText?,cutAtQuote_plain plain,unescape_plain plain (Nat.lt_succ_self _),textOf_chars]

theorem isAsciiDigit_start (start : isNameStart c = true) : Text.isAsciiDigit c = false := by
  cases digit : Text.isAsciiDigit c with
  | false => rfl
  | true =>
    have bounds : '0' ≤ c ∧ c ≤ '9' := by simpa [Text.isAsciiDigit] using digit
    have high : c.val ≤ 57 := bounds.2
    rcases Bool.or_eq_true_iff.mp start with letter | underscore
    · rcases Bool.or_eq_true_iff.mp letter with upper | lower
      · have above : 65 ≤ c.val := (of_decide_eq_true upper).1
        exact absurd (UInt32.le_trans above high) (by decide)
      · have above : 97 ≤ c.val := of_decide_eq_true (Bool.and_eq_true_iff.mp lower).1
        exact absurd (UInt32.le_trans above high) (by decide)
    · cases beq_iff_eq.mp underscore
      cases digit

theorem readToken_name (start : isNameStart c = true) {tail : Text} (chars : ∀ d ∈ tail, isNameChar d = true)
    (ends : ∀ d ∈ rest.head?, isNameChar d = false) :
    readToken? (c :: (tail ++ rest)) = some (.name (c :: tail),rest) := by
  have nothing : rest.takeWhile isNameChar = [] ∧ rest.dropWhile isNameChar = rest := by
    cases rest with
    | nil => exact ⟨rfl,rfl⟩
    | cons d rest => simp [ends d rfl]
  have taken : (tail ++ rest).takeWhile isNameChar = tail := by
    rw [List.takeWhile_append_of_pos chars,nothing.1,List.append_nil]
  have left : (tail ++ rest).dropWhile isNameChar = rest := by
    rw [List.dropWhile_append_of_pos chars,nothing.2]
  rw [readToken?]
  · simp [isAsciiDigit_start start,start,taken,left]
  all_goals
    intros
    subst_vars
    exact absurd start (by decide)

theorem readToken_word (plain : word.Plain) (rest : Text) :
    readToken? (word.spelling ++ ' ' :: rest) = some (word.token,' ' :: rest) := by
  cases word with
  | name text =>
    cases text with
    | nil => cases plain
    | cons c tail => exact readToken_name plain.1 plain.2 (by simp [isNameChar])
  | quoted value =>
    have read := readText_plain plain (' ' :: rest)
    simpa [Word.spelling,Word.token,readToken?] using read
  | join => rfl

theorem Word.Plain.begins (plain : word.Plain) :
    ∃ c tail, word.spelling = c :: tail ∧ isTagSpace c = false ∧ c ∉ ['-','+','\x7d','%'] := by
  cases word with
  | name text =>
    cases text with
    | nil => cases plain
    | cons c tail =>
      obtain ⟨start,_⟩ := plain
      refine ⟨c,tail,rfl,?_,?_⟩
      · cases space : isTagSpace c with
        | false => rfl
        | true =>
          simp only [isTagSpace,Bool.or_eq_true,beq_iff_eq] at space
          rcases space with (((rfl | rfl) | rfl) | rfl) | rfl <;> exact absurd start (by decide)
      · intro sign
        simp only [List.mem_cons,List.not_mem_nil,or_false] at sign
        rcases sign with rfl | rfl | rfl | rfl <;> exact absurd start (by decide)
  | quoted value => exact ⟨'"',value ++ ['"'],rfl,by decide,by decide⟩
  | join => exact ⟨'~',[],rfl,by decide,by decide⟩

def closings : List Text := [['\x7d','\x7d'],['%','\x7d']]

theorem tagEnd_word (plain : word.Plain) (ends : close ∈ closings) (rest : Text) :
    tagEnd? close (word.spelling ++ rest) = none := by
  obtain ⟨c,tail,spelled,_,sign⟩ := plain.begins
  simp only [List.mem_cons,List.not_mem_nil,or_false,not_or] at sign
  obtain ⟨minus,plus,brace,percent⟩ := sign
  have unclosed : Text.after? close (c :: (tail ++ rest)) = none := by
    simp only [closings,List.mem_cons,List.not_mem_nil,or_false] at ends
    rcases ends with rfl | rfl
    · simp [Text.after?,Ne.symm brace]
    · simp [Text.after?,Ne.symm percent]
  rw [spelled,List.cons_append,tagEnd?]
  · simp [unclosed]
  · intro after same
    exact minus (List.cons.inj same).1
  · intro after same
    exact plus (List.cons.inj same).1

theorem tagEnd_close (ends : close ∈ closings) (rest : Text) :
    tagEnd? close ((' ' :: (close ++ rest)).dropWhile isTagSpace) = some (false,rest) := by
  simp only [closings,List.mem_cons,List.not_mem_nil,or_false] at ends
  rcases ends with rfl | rfl <;> rfl

theorem Word.spaced_blank (words : List Word) : ∃ tail, Word.spaced words = ' ' :: tail := by
  cases words with
  | nil => exact ⟨[],rfl⟩
  | cons word words => exact ⟨_,rfl⟩

theorem readTokens_spaced (plain : ∀ word ∈ words, word.Plain) (ends : close ∈ closings) (rest : Text)
    {fuel : Nat} (enough : words.length < fuel) :
    readTokens? close fuel (Word.spaced words ++ (close ++ rest)) = some (words.map Word.token,false,rest) := by
  induction words generalizing fuel with
  | nil =>
    cases fuel with
    | zero => cases enough
    | succ fuel =>
      have closed := tagEnd_close ends rest
      simp [Word.spaced,readTokens?,closed]
  | cons word words ih =>
    obtain ⟨first,later⟩ := List.forall_mem_cons.mp plain
    cases fuel with
    | zero => cases enough
    | succ fuel =>
      have enough : words.length < fuel := by simpa using enough
      obtain ⟨c,head,spelled,solid,_⟩ := first.begins
      obtain ⟨tail,blank⟩ := Word.spaced_blank words
      have split : Word.spaced (word :: words) ++ (close ++ rest) =
          ' ' :: (word.spelling ++ (Word.spaced words ++ (close ++ rest))) := by simp [Word.spaced]
      have start : (' ' :: (word.spelling ++ (Word.spaced words ++ (close ++ rest)))).dropWhile isTagSpace =
          word.spelling ++ (Word.spaced words ++ (close ++ rest)) := by
        have space : isTagSpace ' ' = true := by decide
        simp [spelled,space,solid]
      have read : readToken? (word.spelling ++ (Word.spaced words ++ (close ++ rest))) =
          some (word.token,Word.spaced words ++ (close ++ rest)) := by
        rw [blank]
        exact readToken_word first _
      rw [split,readTokens?,start]
      simp [tagEnd_word first ends,read,ih later enough]

end Marking.Template
