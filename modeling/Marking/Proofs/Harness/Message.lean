import Marking.Json.Reading
import Marking.Proofs.Harness.Builtin
import Marking.Proofs.Text.Integer

-- The message of the Java assertion. The feedback of a case stands there as it is, between two
-- quotes, so it is a literal for itself only where nothing in it has a meaning to Java.

namespace Marking.Harness

open Template

namespace Java

open Json (Piece)

variable {α β : Type} {next? : List α → Option (List β × Nat)} {copy : α → β} {plain : β → Prop}
  {items : List α} {found : List β} {held more : Nat}

-- Reads from left to right. Each step gives what is written at the head of the items, and how many
-- items belong to it beside the first; `held` is how many still belong to the step before.
def scan? (next? : List α → Option (List β × Nat)) (held : Nat) : List α → Option (List β)
  | [] => some []
  | item :: rest =>
    match held with
    | held + 1 => scan? next? held rest
    | 0 => do
      let (found,more) ← next? (item :: rest)
      let others ← scan? next? more rest
      some (found ++ others)

-- A step that leaves the items as they are, if they are plain, or gives less than it takes.
def Shortens (next? : List α → Option (List β × Nat)) (copy : α → β) (plain : β → Prop) : Prop :=
  ∀ items found more, next? items = some (found,more) → more < items.length ∧
    (found.length ≤ more ∨ found = (items.take (more + 1)).map copy ∧ ∀ item ∈ found, plain item)

theorem scan_shortens (shortens : Shortens next? copy plain) (read : scan? next? held items = some found) :
    found.length ≤ items.length - held ∧
      (found.length = items.length - held →
        found = (items.drop held).map copy ∧ ∀ item ∈ found, plain item) := by
  induction items generalizing held found with
  | nil =>
    cases Option.some.inj read
    simp
  | cons item rest ih =>
    cases held with
    | succ held => simpa using ih read
    | zero =>
      simp only [scan?,Option.bind_eq_bind,Option.bind_eq_some_iff] at read
      obtain ⟨⟨first,more⟩,step,others,later,whole⟩ := read
      cases Option.some.inj whole
      obtain ⟨inside,shape⟩ := shortens _ _ _ step
      obtain ⟨bound,same⟩ := ih later
      simp only [List.length_cons] at inside
      rcases shape with short | ⟨copied,fine⟩
      · refine ⟨?_,?_⟩
        · simp only [List.length_append,List.length_cons]
          omega
        · intro equal
          simp only [List.length_append,List.length_cons] at equal
          omega
      · have size : first.length = more + 1 := by
          rw [copied,List.length_map,List.length_take,List.length_cons]
          omega
        refine ⟨?_,?_⟩
        · simp only [List.length_append,List.length_cons]
          omega
        · intro equal
          simp only [List.length_append,List.length_cons] at equal
          obtain ⟨kept,plainer⟩ := same (by omega)
          refine ⟨?_,?_⟩
          · rw [copied,kept,← List.map_append,List.take_succ_cons,List.cons_append,List.take_append_drop,
              List.drop_zero]
          · intro item member
            rcases List.mem_append.mp member with here | there
            · exact fine item here
            · exact plainer item there

theorem scan_copies (copies : ∀ item ∈ items, ∀ rest, next? (item :: rest) = some ([copy item],0)) :
    scan? next? 0 items = some (items.map copy) := by
  induction items with
  | nil => rfl
  | cons item rest ih =>
    obtain ⟨first,others⟩ := List.forall_mem_cons.mp copies
    simp [scan?,first,ih others]

-- Half of a pair of surrogates is no character.
def character (code : Nat) : Piece :=
  if 0xD800 ≤ code ∧ code < 0xE000 then .unit code else .char (Char.ofNat code)

-- One input character. A backslash with marks and four digits behind it is the character with that
-- code, unless the backslash belongs to the one before it.
def input? : Text → Option (List Piece × Nat)
  | '\\' :: 'u' :: rest =>
    match rest.dropWhile (· == 'u') with
    | a :: b :: c :: d :: _ =>
      (Json.hexUnit? a b c d).map fun code =>
        ([character code],1 + (rest.takeWhile (· == 'u')).length + 4)
    | _ => none
  | '\\' :: '\\' :: _ => some ([.char '\\',.char '\\'],1)
  | c :: _ => some ([.char c],0)
  | [] => none

def letter? : Char → Option Char
  | 'b' => some '\x08'
  | 's' => some ' '
  | 't' => some '\t'
  | 'n' => some '\n'
  | 'f' => some '\x0c'
  | 'r' => some '\r'
  | '"' => some '"'
  | '\'' => some '\''
  | '\\' => some '\\'
  | _ => none

def octal? : Piece → Option Nat
  | .char c => if '0' ≤ c ∧ c ≤ '7' then some (c.toNat - '0'.toNat) else none
  | .unit _ => none

-- The digits of an octal escape: up to three, or two if the first is above three.
def octalDigits (pieces : List Piece) : List Nat :=
  match pieces.map octal? with
  | some a :: some b :: some c :: _ => if a ≤ 3 then [a,b,c] else [a,b]
  | some a :: some b :: _ => [a,b]
  | some a :: _ => [a]
  | _ => []

def escape? (pieces : List Piece) : Option (Char × Nat) :=
  match octalDigits pieces with
  | [] =>
    match pieces with
    | .char c :: _ => (letter? c).map (·,1)
    | _ => none
  | digits => some (Char.ofNat (digits.foldl (fun value digit => 8 * value + digit) 0),digits.length)

def element? : List Piece → Option (List Piece × Nat)
  | .char '\\' :: rest => (escape? rest).map fun (c,length) => ([.char c],length)
  | piece :: _ => if piece ∈ [.char '"',.char '\n',.char '\r'] then none else some ([piece],0)
  | [] => none

-- The text that a literal denotes whose source between its quotes is given. There is none where
-- this source does not make up the literal: it ends before, is not closed by the quote behind it,
-- runs over the end of a line, or has an escape that is none.
def denoted? (source : Text) : Option Text := do
  let pieces ← scan? input? 0 source
  let content ← scan? element? 0 pieces
  Json.textOf? content

def IsPlain (c : Char) : Prop := c ≠ '"' ∧ c ≠ '\\' ∧ c ≠ '\n' ∧ c ≠ '\r'

variable {source : Text} {c : Char} {pieces : List Piece} {text : Text}

theorem input_shortens : Shortens input? Piece.char fun _ => True := by
  intro items found more step
  unfold input? at step
  split at step
  · rename_i rest
    split at step
    · rename_i a b c d after digits
      obtain ⟨code,_,same⟩ := Option.map_eq_some_iff.mp step
      cases same
      have size := congrArg List.length (List.takeWhile_append_dropWhile (p := (· == 'u')) (l := rest))
      rw [List.length_append,digits] at size
      simp only [List.length_cons] at size ⊢
      refine ⟨by omega,.inl ?_⟩
      simp
    · cases step
  · cases step
    exact ⟨by simp,.inr ⟨rfl,by simp⟩⟩
  · cases step
    exact ⟨by simp,.inr ⟨rfl,by simp⟩⟩
  · cases step

theorem octalDigits_length (pieces : List Piece) : (octalDigits pieces).length ≤ pieces.length := by
  have size : (pieces.map octal?).length = pieces.length := List.length_map ..
  unfold octalDigits
  generalize pieces.map octal? = digits at size ⊢
  rw [← size]
  split
  · split <;> simp
  · simp
  · simp
  · simp

theorem escape_size {length : Nat} (read : escape? pieces = some (c,length)) :
    1 ≤ length ∧ length ≤ pieces.length := by
  have bound := octalDigits_length pieces
  unfold escape? at read
  split at read
  · split at read
    · obtain ⟨_,_,same⟩ := Option.map_eq_some_iff.mp read
      cases same
      simp
    · cases read
  · rename_i digits
    cases read
    exact ⟨List.length_pos_iff.mpr digits,bound⟩

theorem element_shortens :
    Shortens element? id fun piece => piece ∉ [.char '\\',.char '"',.char '\n',.char '\r'] := by
  intro items found more step
  unfold element? at step
  split at step
  · rename_i rest
    obtain ⟨⟨c,length⟩,read,same⟩ := Option.map_eq_some_iff.mp step
    cases same
    obtain ⟨some,bound⟩ := escape_size read
    exact ⟨by simpa using Nat.lt_succ_of_le bound,.inl (by simpa using some)⟩
  · rename_i piece rest other
    split at step
    · cases step
    · rename_i absent
      cases step
      have slash : piece ≠ .char '\\' := other
      refine ⟨by simp,.inr ⟨rfl,?_⟩⟩
      simpa [slash] using absent
  · cases step

theorem textOf_length (read : Json.textOf? pieces = some text) : text.length ≤ pieces.length := by
  fun_induction Json.textOf? pieces generalizing text with
  | case1 =>
    cases read
    exact Nat.le_refl _
  | case2 c rest ih =>
    obtain ⟨others,later,rfl⟩ := Option.map_eq_some_iff.mp read
    simpa using ih later
  | case3 code _ low after _ ih =>
    obtain ⟨others,later,rfl⟩ := Option.map_eq_some_iff.mp read
    have size := ih later
    simp only [List.length_cons]
    omega
  | case4 => cases read
  | case5 => cases read
  | case6 => cases read
  | case7 code rest _ _ ih =>
    obtain ⟨others,later,rfl⟩ := Option.map_eq_some_iff.mp read
    simpa using ih later

theorem denoted_plain (plain : ∀ c ∈ source, IsPlain c) : denoted? source = some source := by
  have first : scan? input? 0 source = some (source.map .char) := by
    refine scan_copies ?_
    intro c member rest
    have slash : c ≠ '\\' := (plain c member).2.1
    unfold input?
    split <;> simp_all
  have second : scan? element? 0 (source.map .char) = some (source.map .char) := by
    have copies : ∀ piece ∈ source.map .char, ∀ rest, element? (piece :: rest) = some ([id piece],0) := by
      intro piece member rest
      obtain ⟨c,inside,rfl⟩ := List.mem_map.mp member
      obtain ⟨quote,slash,line,feed⟩ := plain c inside
      simp [element?,quote,slash,line,feed]
    simpa using scan_copies copies
  simp [denoted?,first,second,textOf_chars]

theorem plain_of_denoted (self : denoted? source = some source) : ∀ c ∈ source, IsPlain c := by
  simp only [denoted?,Option.bind_eq_bind,Option.bind_eq_some_iff] at self
  obtain ⟨pieces,first,content,second,third⟩ := self
  obtain ⟨fewer,copied⟩ := scan_shortens input_shortens first
  obtain ⟨shorter,kept⟩ := scan_shortens element_shortens second
  have bound := textOf_length third
  simp only [Nat.sub_zero,List.drop_zero] at fewer copied shorter kept
  obtain ⟨rfl,_⟩ := copied (by omega)
  obtain ⟨rfl,plain⟩ := kept (by omega)
  intro c member
  have absent := plain (.char c) (by simpa using member)
  simpa [IsPlain,and_comm,and_assoc,and_left_comm] using absent

theorem denoted_self_iff : denoted? source = some source ↔ ∀ c ∈ source, IsPlain c :=
  ⟨plain_of_denoted,denoted_plain⟩

end Java

def beforeMessage (case : TestCase) : Text :=
  "    @Test\n".toList ++
  "    public void test_".toList ++ Text.ofInt case.id.toInt ++ "()\n".toList ++
  "    \x7b\n".toList ++
  "        assert".toList ++ (if case.expectsArray then "Array".toList else []) ++ "Equals(\n".toList ++
  "          ".toList

def behindMessage (case : TestCase) : Text :=
  ",\n".toList ++
  "          ".toList ++ case.expectedOutput ++ ",\n".toList ++
  "          subject.".toList ++ case.prompt.methodName ++ "(".toList ++ case.input ++ "));\n".toList ++
  "    \x7d\n".toList

variable {language : Text} {case : TestCase} {sink : Option Text}

theorem javaCode_message (case : TestCase) :
    javaCode case =
      beforeMessage case ++ '"' :: (case.negativeFeedback.getD [] ++ '"' :: behindMessage case) := by
  unfold javaCode beforeMessage behindMessage
  simp only [List.append_assoc]
  rfl

theorem quote_not_mem_beforeMessage (case : TestCase) : '"' ∉ beforeMessage case := by
  have number : '"' ∉ Text.ofInt case.id.toInt := Text.not_mem_ofInt (by decide) (by decide)
  unfold beforeMessage
  simp [number]

theorem render_message (java : key language = "java".toList) :
    initial.render language case sink = .ok
      (beforeMessage case ++ '"' :: (case.negativeFeedback.getD [] ++ '"' :: behindMessage case)) := by
  rw [render_java java,javaCode_message]

-- The first quote of the code opens the message. What follows up to the quote of the template
-- denotes the feedback exactly when the feedback holds no quote, no backslash and no line end.
theorem message_denotes_feedback_iff (case : TestCase) (sink : Option Text) :
    initial.render "Java".toList case sink = .ok
      (beforeMessage case ++ '"' :: (case.negativeFeedback.getD [] ++ '"' :: behindMessage case)) ∧
    '"' ∉ beforeMessage case ∧
    (Java.denoted? (case.negativeFeedback.getD []) = some (case.negativeFeedback.getD []) ↔
      ∀ c ∈ case.negativeFeedback.getD [], Java.IsPlain c) :=
  ⟨render_message spelled_java.2,quote_not_mem_beforeMessage case,Java.denoted_self_iff⟩

theorem spoken_feedback_cut :
    let case : TestCase :=
      {id := 1,prompt := ⟨1,"Answer".toList,"f".toList⟩,negativeFeedback := some "say \"hi\"".toList,weight := .zero}
    initial.render "Java".toList case none = .ok
      (beforeMessage case ++ '"' :: ("say \"hi\"".toList ++ '"' :: behindMessage case)) ∧
    Java.denoted? "say \"hi\"".toList = none ∧
    Java.denoted? "C:\\new".toList = some "C:\new".toList :=
  ⟨render_message spelled_java.2,by decide,by decide⟩

end Marking.Harness
