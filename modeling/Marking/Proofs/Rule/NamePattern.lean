import Marking.Proofs.Pattern.Spelling
import Marking.Rule.Matcher

-- How a rule with names is spelled as a pattern, what is read of the pattern, and what it takes.
-- Only its size is left to be checked when it is compiled.

namespace Marking.Matcher
open Pattern

def edge : Pattern := .assert (.boundary .edge false)

def blanks : Pattern := .repeated (.one .space) 0 none

def choicePart (names : List Text) : Part := Pattern.alternatives (names.map textPart).reverse

def groupPart (names : List Text) : Part := ⟨(choicePart names).pattern,(choicePart names).depth + 1,true⟩

def wordPart (names : List Text) : Part := sequence [⟨edge,0,true⟩,groupPart names,⟨edge,0,true⟩]

def callPart (names : List Text) : Part :=
  sequence [charPart '(',⟨blanks,1,true⟩,groupPart names,⟨blanks,1,true⟩,charPart '.']

variable {names : List Text} {reader : Reader} {matcher : Matcher} {kind : NameKind} {name before taken after rest : Text}

theorem reads_group (named : names ≠ []) (literal : reader.modes.Literal) :
    Reads reader ("(?:".toList ++ (alternation names ++ ')' :: rest)) (reader.push (groupPart names)) rest := by
  have opened : Reads reader ('(' :: '?' :: ':' :: (alternation names ++ ')' :: rest))
      (reader.openGroup reader.modes false) (alternation names ++ ')' :: rest) := by
    refine .step literal.compact ?_ (Nat.le_add_right _ 2)
    simp [readNext?,readGroup?,Modes.skip,literal.compact,readFlags?]
  have inside : (reader.openGroup reader.modes false).modes.Literal := literal
  obtain ⟨parts,branches,chosen,same⟩ := reads_alternation inside rfl named
  have choice : Pattern.alternatives (sequence parts :: branches) = choicePart names :=
    congrArg Pattern.alternatives (same.trans (List.append_nil _))
  refine opened.trans (chosen.trans (.step literal.compact ?_ (Nat.le_refl _)))
  rw [groupPart,← choice]
  rfl

theorem groupPart_depth_le : (groupPart names).depth ≤ 3 := by
  have choice : (choicePart names).depth ≤ 2 := by
    refine alternatives_depth_le ?_
    intro part member
    obtain ⟨name,_,rfl⟩ := List.mem_map.mp (List.mem_reverse.mp member)
    exact textPart_depth_le
  exact Nat.succ_le_succ choice

theorem wordPart_shallow : (wordPart names).depth ≤ deepestNesting := by
  have deep : (wordPart names).depth ≤ 4 := by
    refine sequence_depth_le ?_
    simp [groupPart_depth_le]
  exact Nat.le_trans deep (by decide)

theorem callPart_shallow : (callPart names).depth ≤ deepestNesting := by
  have deep : (callPart names).depth ≤ 4 := by
    refine sequence_depth_le ?_
    simp [charPart,groupPart_depth_le]
  exact Nat.le_trans deep (by decide)

theorem read_wordPattern (named : names ≠ []) : Pattern.read? (modes {}) (wordPattern names) =
    if (wordPart names).pattern.fits then some (wordPart names).pattern else none := by
  let start := Reader.start (modes {})
  let behind := (start.pushPattern edge).push (groupPart names)
  have first : Reads start (wordPattern names) (start.pushPattern edge)
      ("(?:".toList ++ (alternation names ++ ')' :: "\\b".toList)) := .step rfl rfl (Nat.le_succ _)
  have last : Reads behind "\\b".toList (behind.pushPattern edge) [] := .step rfl rfl (Nat.zero_le _)
  have reads := first.trans ((reads_group named ⟨rfl,rfl⟩).trans last)
  exact reads.finish rfl rfl wordPart_shallow

-- The star takes a question mark behind it along, so there must be none.
theorem reads_blanks (literal : reader.modes.Literal) (unicode : reader.modes.unicode = true) (greedy : dropLazy rest = rest) :
    Reads reader ("\\s*".toList ++ rest) (reader.push ⟨blanks,1,true⟩) rest := by
  have set : Reads reader ('\\' :: 's' :: '*' :: rest) (reader.pushPattern (.one .space)) ('*' :: rest) := by
    refine .step literal.compact ?_ (Nat.le_succ _)
    simp [readNext?,Escape.read?,Escape.classSet?,Modes.complement?,Modes.spaces,unicode]
  have star : Reads (reader.pushPattern (.one .space)) ('*' :: rest) (reader.push ⟨blanks,1,true⟩) rest := by
    refine .step literal.compact ?_ (Nat.le_refl _)
    simp [readNext?,Reader.repeatLast?,Reader.pushPattern,Reader.push,inRepetition,matchesOnlyEmpty,blanks,greedy]
  exact set.trans star

theorem read_callPattern (named : names ≠ []) : Pattern.read? (modes {}) (callPattern names) =
    if (callPart names).pattern.fits then some (callPart names).pattern else none := by
  let start := Reader.start (modes {})
  let opened := (start.push (charPart '.')).push ⟨blanks,1,true⟩
  let behind := (opened.push (groupPart names)).push ⟨blanks,1,true⟩
  have dot : Reads start (callPattern names) (start.push (charPart '.'))
      ("\\s*".toList ++ ("(?:".toList ++ (alternation names ++ ')' :: "\\s*\\(".toList))) := .step rfl rfl (Nat.le_succ _)
  have gap : Reads (start.push (charPart '.')) _ opened ("(?:".toList ++ (alternation names ++ ')' :: "\\s*\\(".toList)) :=
    reads_blanks ⟨rfl,rfl⟩ rfl rfl
  have pause : Reads (opened.push (groupPart names)) ("\\s*".toList ++ "\\(".toList) behind "\\(".toList :=
    reads_blanks ⟨rfl,rfl⟩ rfl rfl
  have last : Reads behind "\\(".toList (behind.push (charPart '(')) [] := .step rfl rfl (Nat.zero_le _)
  have reads := dot.trans (gap.trans ((reads_group named ⟨rfl,rfl⟩).trans (pause.trans last)))
  exact reads.finish rfl rfl callPart_shallow

theorem takes_group (named : names ≠ []) : Takes (groupPart names).pattern before taken after ↔ taken ∈ names := by
  have branched : (names.map textPart).reverse ≠ [] := by simpa using named
  refine (takes_alternatives branched ?_).trans ?_
  · intro part member set single
    obtain ⟨name,_,rfl⟩ := List.mem_map.mp (List.mem_reverse.mp member)
    exact textPart_ascending single
  · simp [takes_textPart]

theorem takes_blanks : Takes blanks before taken after ↔ Text.isBlank taken = true := by
  refine takes_run.trans ?_
  simp only [Nat.zero_le,true_and,Text.isBlank,List.all_eq_true]
  rfl

theorem compile_words (worded : kind ≠ .method) (named : names ≠ []) : compile (.names kind names) =
    if (wordPart names).pattern.fits then .ok (.search (wordPart names).pattern) else .error .invalidPattern := by
  have built : compile (.names kind names) = (build (wordPattern names) {}).map .search := by
    cases kind with
    | method => exact absurd rfl worded
    | keyword => rfl
    | className => rfl
  rw [built,build,read_wordPattern named]
  by_cases small : (wordPart names).pattern.fits = true <;> simp only [small] <;> rfl

theorem compile_calls (named : names ≠ []) : compile (.names .method names) =
    if (callPart names).pattern.fits then .ok (.calls (callPart names).pattern) else .error .invalidPattern := by
  rw [compile,build,read_callPattern named]
  by_cases small : (callPart names).pattern.fits = true <;> simp only [small] <;> rfl

theorem eq_of_compile_words (worded : kind ≠ .method) (named : names ≠ []) (compiled : compile (.names kind names) = .ok matcher) :
    matcher = .search (wordPart names).pattern := by
  rw [compile_words worded named] at compiled
  split at compiled
  · exact (Except.ok.inj compiled).symm
  · cases compiled

theorem eq_of_compile_calls (named : names ≠ []) (compiled : compile (.names .method names) = .ok matcher) :
    matcher = .calls (callPart names).pattern := by
  rw [compile_calls named] at compiled
  split at compiled
  · exact (Except.ok.inj compiled).symm
  · cases compiled

end Marking.Matcher
