import Marking.Proofs.Pattern.Room
import Marking.Proofs.Pattern.Spelling
import Marking.Proofs.Rule.Line
import Marking.Proofs.Rule.NamePattern
import Marking.Proofs.Rule.Subject

-- Rules that look for a plain text, anywhere in code or at the edges of its lines: how they are written,
-- what they find, and how long a text they can look for. A rule with one word has as much room.

namespace Marking
open Pattern

-- A text within a line that means nothing but itself in a pattern.
structure PlainText (text : Text) : Prop where
  nonempty : text ≠ []
  single : '\n' ∉ text
  plain : ∀ c ∈ text, Escape.isMeta c = false

def signed (anchored : Bool) (sign : Char) : Text := if anchored then [sign] else []

def anchorParts (anchored : Bool) (assertion : Assertion) : List Part :=
  if anchored then [⟨.assert assertion,0,true⟩] else []

namespace Anchoring

def pattern (anchoring : Anchoring) (text : Text) : Text :=
  signed anchoring.starts '^' ++ (text ++ signed anchoring.ends '$')

def parts (anchoring : Anchoring) (text : Text) : List Part :=
  anchorParts anchoring.starts .lineStart ++ (text.map charPart ++ anchorParts anchoring.ends .lineEnd)

def whole (anchoring : Anchoring) (text : Text) : Part := sequence (anchoring.parts text).reverse

-- Bytes and anchors take as much room.
def amount (anchoring : Anchoring) (text : Text) : Nat :=
  (Text.encoded text).length + (anchoring.starts.toNat + anchoring.ends.toNat)

-- How a rule is written. Only a text that opens no other kind of rule can stand by itself.
inductive Written (text : Text) : Anchoring → Text → Prop where
  | slashes {anchoring : Anchoring} : Written text anchoring ('/' :: (anchoring.pattern text ++ ['/']))
  | bare (slash : text.head? ≠ some '/') (free : ∀ kind head, NameKind.Opens kind head → ¬ head <+: text) :
      Written text .anywhere text

end Anchoring

variable {reader : Reader} {text rest before taken after input code : Text} {anchoring : Anchoring} {anchored : Bool}
  {assertion : Assertion} {sign : Char} {direction : Direction} {case : TestCase}

theorem reads_signed (compact : reader.modes.extended = false)
    (read : readNext? reader sign rest = some (reader.pushPattern (.assert assertion),rest)) :
    Reads reader (signed anchored sign ++ rest) (reader.pushParts (anchorParts anchored assertion)) rest := by
  cases anchored with
  | false => exact .refl
  | true => exact .step compact read (Nat.le_refl _)

theorem reads_pattern (plain : PlainText text) : Reads (.start (Matcher.modes {})) (anchoring.pattern text)
    ((Reader.start (Matcher.modes {})).pushParts (anchoring.parts text)) [] := by
  let start := Reader.start (Matcher.modes {})
  let front := start.pushParts (anchorParts anchoring.starts .lineStart)
  have first : Reads start (signed anchoring.starts '^' ++ (text ++ signed anchoring.ends '$')) front
      (text ++ signed anchoring.ends '$') := reads_signed rfl rfl
  have inner : Reads front (text ++ signed anchoring.ends '$') (front.pushText text) (signed anchoring.ends '$') := by
    have read : Reads front (escaped text ++ signed anchoring.ends '$') _ _ := reads_escaped ⟨rfl,rfl⟩
    rwa [escaped_plain plain.plain] at read
  have last : Reads (front.pushText text) (signed anchoring.ends '$' ++ [])
      ((front.pushText text).pushParts (anchorParts anchoring.ends .lineEnd)) [] := reads_signed rfl rfl
  have pushed : start.pushParts (anchoring.parts text) =
      (front.pushText text).pushParts (anchorParts anchoring.ends .lineEnd) := by
    simp [front,start,Reader.pushParts,Reader.pushText,Anchoring.parts]
  rw [List.append_nil] at last
  rw [pushed]
  exact first.trans (inner.trans last)

theorem mem_parts {part : Part} (member : part ∈ anchoring.parts text) :
    (∃ c, part = charPart c) ∨ ∃ assertion, part = ⟨.assert assertion,0,true⟩ := by
  have anchor {anchored assertion} (member : part ∈ anchorParts anchored assertion) :
      ∃ assertion, part = ⟨.assert assertion,0,true⟩ := by
    cases anchored with
    | false => cases member
    | true => exact ⟨assertion,List.mem_singleton.mp member⟩
  simp only [Anchoring.parts,List.mem_append,List.mem_map] at member
  rcases member with first | ⟨c,_,rfl⟩ | last
  · exact .inr (anchor first)
  · exact .inl ⟨c,rfl⟩
  · exact .inr (anchor last)

theorem parts_solid : ∀ part ∈ anchoring.parts text, Solid direction part.pattern := by
  intro part member
  rcases mem_parts member with ⟨c,rfl⟩ | ⟨assertion,rfl⟩
  · exact .only c
  · exact .assert assertion

theorem whole_shallow : (anchoring.whole text).depth ≤ deepestNesting := by
  have flat : ∀ part ∈ (anchoring.parts text).reverse, part.depth ≤ 0 := by
    intro part member
    rcases mem_parts (List.mem_reverse.mp member) with ⟨c,rfl⟩ | ⟨assertion,rfl⟩
    · exact Nat.le_refl _
    · exact Nat.le_refl _
  exact Nat.le_trans (sequence_depth_le flat) (by decide)

theorem room_chars (text : Text) : ((text.map charPart).map fun part => part.pattern.room direction .part).sum =
    stateSize * (Text.encoded text).length := by
  induction text with
  | nil => rfl
  | cons c text ih =>
    have first : (charPart c).pattern.room direction .part = stateSize * (String.utf8EncodeChar c).length :=
      (Nat.zero_add _).trans (size_only c)
    have more : (Text.encoded (c :: text)).length = (String.utf8EncodeChar c).length + (Text.encoded text).length := by
      simp [Text.encoded]
    rw [List.map_cons,List.map_cons,List.sum_cons,ih,first,more,Nat.mul_add]

theorem parts_amount : ((anchoring.parts text).map fun part => part.pattern.room direction .part).sum =
    stateSize * anchoring.amount text := by
  have anchor (anchored : Bool) (assertion : Assertion) :
      ((anchorParts anchored assertion).map fun part => part.pattern.room direction .part).sum =
        stateSize * anchored.toNat := by
    cases anchored <;> rfl
  simp only [Anchoring.parts,List.map_append,List.sum_append,anchor,room_chars,Anchoring.amount,Nat.mul_add]
  omega

theorem read_pattern (plain : PlainText text) : Pattern.read? (Matcher.modes {}) (anchoring.pattern text) =
    if anchoring.amount text ≤ mostStates then some (anchoring.whole text).pattern else none := by
  have some : (anchoring.parts text).reverse ≠ [] := by simp [Anchoring.parts,plain.nonempty]
  have fits : (anchoring.whole text).pattern.fits = true ↔ anchoring.amount text ≤ mostStates := by
    refine fits_sequence some (fun _ part member => parts_solid part (List.mem_reverse.mp member)) fun _ => ?_
    rw [List.map_reverse,List.sum_reverse]
    exact parts_amount
  have closed : ((Reader.start (Matcher.modes {})).pushParts (anchoring.parts text)).level.close = anchoring.whole text := by
    simp [Level.close,Reader.pushParts,Reader.start,alternatives,Anchoring.whole]
  have read := (reads_pattern plain).finish rfl rfl (closed ▸ whole_shallow)
  rw [read,closed]
  simp only [fits]

theorem inOrder_anchorParts : inOrder ((anchorParts anchored assertion).map (·.pattern)) before taken after ↔
    taken = [] ∧ (anchored = true → assertion.holds before.getLast? after.head? = true) := by
  cases anchored with
  | false => simp [anchorParts,inOrder,Taking.nothing]
  | true =>
    have single : inOrder ((anchorParts true assertion).map (·.pattern)) = Takes (.assert assertion) := inOrder_single
    rw [single]
    simp [Takes]

-- Neither anchor takes anything, so that each looks at what stands beside the text.
theorem takes_whole : Takes (anchoring.whole text).pattern before taken after ↔ taken = text ∧
    (anchoring.starts = true → before.getLast?.all (· == '\n') = true) ∧
    (anchoring.ends = true → after.head?.all (· == '\n') = true) := by
  have start (next : Option Char) : Assertion.lineStart.holds before.getLast? next = before.getLast?.all (· == '\n') := by
    cases before.getLast? <;> simp [Assertion.holds]
  have stop (side : Option Char) : Assertion.lineEnd.holds side after.head? = after.head?.all (· == '\n') := by
    cases after.head? <;> simp [Assertion.holds]
  unfold Anchoring.whole
  rw [takes_sequence,List.reverse_reverse,Anchoring.parts,List.map_append,List.map_append,inOrder_append,inOrder_append]
  constructor
  · rintro ⟨_,_,rfl,first,_,_,rfl,inner,last⟩
    obtain ⟨rfl,starts⟩ := inOrder_anchorParts.mp first
    obtain rfl := inOrder_chars.mp inner
    obtain ⟨rfl,ends⟩ := inOrder_anchorParts.mp last
    refine ⟨by simp,fun anchored => ?_,fun anchored => ?_⟩
    · rw [← start]
      exact starts anchored
    · rw [← stop]
      exact ends anchored
  · rintro ⟨rfl,starts,ends⟩
    refine ⟨[],taken,rfl,inOrder_anchorParts.mpr ⟨rfl,fun anchored => ?_⟩,taken,[],by simp,inOrder_chars.mpr rfl,
      inOrder_anchorParts.mpr ⟨rfl,fun anchored => ?_⟩⟩
    · rw [start]
      exact starts anchored
    · rw [stop]
      exact ends anchored

theorem isMatch_whole : (anchoring.whole text).pattern.isMatch code = true ↔ anchoring.HoldsBeside text code := by
  rw [isMatch_iff]
  constructor
  · rintro ⟨before,_,after,split,here⟩
    obtain ⟨rfl,starts,ends⟩ := takes_whole.mp here
    exact ⟨before,after,split,starts,ends⟩
  · rintro ⟨before,after,split,starts,ends⟩
    exact ⟨before,text,after,split,takes_whole.mpr ⟨rfl,starts,ends⟩⟩

theorem compile_pattern (plain : PlainText text) : Matcher.compile (.pattern (anchoring.pattern text) {}) =
    if anchoring.amount text ≤ mostStates then .ok (.search (anchoring.whole text).pattern) else .error .invalidPattern := by
  rw [Matcher.compile,Matcher.build,read_pattern plain]
  by_cases short : anchoring.amount text ≤ mostStates <;> simp only [short,if_true,if_false] <;> rfl

theorem pattern_anywhere (text : Text) : Anchoring.anywhere.pattern text = text := List.append_nil text

theorem Anchoring.Written.compile (written : Written text anchoring input) (plain : PlainText text) :
    ∃ spec, RuleSpec.read input = .ok spec ∧
      Matcher.compile spec = Matcher.compile (.pattern (anchoring.pattern text) {}) := by
  cases written with
  | slashes =>
    have read : RuleSpec.Written ('/' :: (anchoring.pattern text ++ '/' :: [])) (.pattern _ (.named [])) :=
      .pattern (anchoring.pattern text) nofun
    exact ⟨_,read.roundtrip,rfl⟩
  | bare slash free =>
    refine ⟨_,(RuleSpec.Written.literal plain.nonempty slash free).roundtrip,?_⟩
    rw [pattern_anywhere]
    rfl

theorem compile_plain (plain : PlainText text) (written : anchoring.Written text case.input) :
    ∃ rule : StaticRule, rule.matcher = .search (anchoring.whole text).pattern ∧
      StaticRule.compile case = if anchoring.amount text ≤ mostStates then .ok rule else .error .invalidPattern := by
  obtain ⟨spec,read,same⟩ := written.compile plain
  have compiled := StaticRule.compile_spec read
  rw [same,compile_pattern plain] at compiled
  refine ⟨⟨spec,Requirement.read case.expectedOutput,.search (anchoring.whole text).pattern,
    case.authoredFeedback?.getD (StaticRule.defaultFeedback spec (Requirement.read case.expectedOutput) case.input)⟩,rfl,?_⟩
  rw [compiled]
  by_cases short : anchoring.amount text ≤ mostStates <;> simp only [short,if_true,if_false] <;> rfl

-- A rule for a plain text finds the text where its anchors put it. It cannot be compiled where the text is
-- too long, and then only.
theorem plain_text_found (plain : PlainText text) (written : anchoring.Written text case.input) :
    (anchoring.amount text ≤ mostStates → ∃ rule, StaticRule.compile case = .ok rule ∧
      ∀ code, rule.matcher.found code = true ↔ anchoring.Holds text code) ∧
    (mostStates < anchoring.amount text → StaticRule.compile case = .error .invalidPattern) := by
  obtain ⟨rule,searches,compiled⟩ := compile_plain plain written
  refine ⟨fun short => ?_,fun long => ?_⟩
  · rw [if_pos short] at compiled
    refine ⟨rule,compiled,fun code => ?_⟩
    rw [searches]
    exact isMatch_whole.trans (holdsBeside_iff plain.single)
  · rwa [if_neg (Nat.not_le_of_lt long)] at compiled

theorem path_line_found :
    let text := "a/b".toList
    let case : TestCase := {id := 1,prompt := ⟨1,[],[]⟩,input := "/^a/b$/".toList,weight := .zero}
    (PlainText text ∧ Anchoring.wholeLine.Written text case.input ∧ Anchoring.wholeLine.amount text ≤ mostStates) ∧
      ∃ rule, StaticRule.compile case = .ok rule ∧ rule.matcher.found "x\na/b".toList = true ∧
        rule.matcher.found "a/b\r\na/b/c".toList = false := by
  intro text case
  have free : text.all (!Escape.isMeta ·) = true := by decide
  have plain : PlainText text := ⟨by decide,by decide,by simpa using List.all_eq_true.mp free⟩
  have written : Anchoring.wholeLine.Written text case.input := .slashes
  have short : Anchoring.wholeLine.amount text ≤ mostStates := by decide
  have listed : text ∈ "x\na/b".toList.splitOn '\n' := by decide
  have unlisted : text ∉ "a/b\r\na/b/c".toList.splitOn '\n' := by decide
  obtain ⟨rule,compiled,found_iff⟩ := (plain_text_found plain written).1 short
  refine ⟨⟨plain,written,short⟩,rule,compiled,(found_iff _).mpr listed,?_⟩
  rw [← Bool.not_eq_true,found_iff]
  exact unlisted

theorem plainText_replicate {n : Nat} (some : 0 < n) : PlainText (List.replicate n 'a') where
  nonempty := by simpa using Nat.ne_of_gt some
  single := by simp
  plain := by
    intro c member
    rw [List.eq_of_mem_replicate member]
    decide

theorem amount_replicate (n : Nat) : Anchoring.anywhere.amount (List.replicate n 'a') = n := by
  have byte : 'a'.utf8Size = 1 := by decide
  simp [Anchoring.amount,Anchoring.starts,Anchoring.ends,Text.encoded,List.length_flatMap,byte]

theorem replicate_refused {n : Nat} (long : mostStates < n) (given : case.input = '/' :: (List.replicate n 'a' ++ ['/'])) :
    StaticRule.compile case = .error .invalidPattern := by
  have plain : PlainText (List.replicate n 'a') := plainText_replicate (Nat.zero_lt_of_lt long)
  have written : Anchoring.anywhere.Written (List.replicate n 'a') case.input := by
    have slashes : Anchoring.anywhere.Written (List.replicate n 'a') _ := .slashes
    rwa [pattern_anywhere,← given] at slashes
  obtain ⟨_,_,refused⟩ := compile_plain plain written
  rwa [amount_replicate,if_neg (Nat.not_le_of_lt long)] at refused

theorem long_text_refused :
    let text : Text := List.replicate 330000 'a'
    let case : TestCase := {id := 1,prompt := ⟨1,[],[]⟩,input := '/' :: (text ++ ['/']),weight := .zero}
    PlainText text ∧ StaticRule.compile case = .error .invalidPattern ∧
      ¬ ∃ rule, StaticRule.compile case = .ok rule ∧ ∀ code, rule.matcher.found code = true ↔ text <:+: code := by
  intro text case
  have refused : StaticRule.compile case = .error .invalidPattern := replicate_refused (by decide) rfl
  refine ⟨plainText_replicate (Nat.zero_lt_succ _),refused,?_⟩
  rintro ⟨rule,compiled,_⟩
  rw [refused] at compiled
  cases compiled

namespace Matcher

variable {name : Text} {kind : NameKind}

theorem solid_textPart (nonempty : name ≠ []) : Solid direction (textPart name).pattern := by
  rw [textPart,sequence_pattern]
  refine Solid.inSequence (by simpa using nonempty) ?_
  intro pattern member
  obtain ⟨part,listed,rfl⟩ := List.mem_map.mp member
  obtain ⟨c,_,rfl⟩ := List.mem_map.mp (List.mem_reverse.mp listed)
  exact .only c

theorem room_textPart (name : Text) : (textPart name).pattern.room direction .part = stateSize * (Text.encoded name).length := by
  rw [textPart,sequence_pattern,room_inSequence,List.map_map,List.map_reverse,List.sum_reverse]
  exact room_chars name

-- The name and the boundaries on both sides of it.
theorem single_word_fits (nonempty : name ≠ []) :
    (wordPart [name]).pattern.fits = true ↔ (Text.encoded name).length + 2 ≤ mostStates := by
  refine fits_sequence (List.cons_ne_nil _ _) ?_ ?_
  · intro direction part member
    simp only [List.mem_cons,List.not_mem_nil,or_false] at member
    rcases member with rfl | rfl | rfl
    · exact .assert _
    · exact solid_textPart nonempty
    · exact .assert _
  · intro direction
    have inner : (groupPart [name]).pattern.room direction .part = stateSize * (Text.encoded name).length := room_textPart name
    have outer : edge.room direction .part = stateSize := rfl
    simp only [List.map_cons,List.map_nil,List.sum_cons,List.sum_nil,inner,outer,Nat.mul_add]
    omega

theorem single_word_compiled (worded : kind ≠ .method) (nonempty : name ≠ []) : compile (.names kind [name]) =
    if (Text.encoded name).length + 2 ≤ mostStates then .ok (.search (wordPart [name]).pattern)
    else .error .invalidPattern := by
  rw [compile_words worded (List.cons_ne_nil _ _)]
  simp only [single_word_fits nonempty]

end Matcher

end Marking
