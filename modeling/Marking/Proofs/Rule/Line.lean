import Marking.Proofs.Rule.Words
import Marking.Proofs.Text.Cutting

-- The lines of a code, as stretches that stand apart between line ends, and where a text without line
-- ends stands in them.

namespace Marking

inductive Anchoring where
  | anywhere
  | lineStart
  | lineEnd
  | wholeLine
  deriving DecidableEq,Repr

namespace Anchoring

def starts : Anchoring → Bool
  | lineStart | wholeLine => true
  | anywhere | lineEnd => false

def ends : Anchoring → Bool
  | lineEnd | wholeLine => true
  | anywhere | lineStart => false

def Holds (anchoring : Anchoring) (text code : Text) : Prop :=
  match anchoring with
  | .anywhere => text <:+: code
  | .lineStart => ∃ line ∈ code.splitOn '\n', text <+: line
  | .lineEnd => ∃ line ∈ code.splitOn '\n', text <:+ line
  | .wholeLine => text ∈ code.splitOn '\n'

-- The same without lines: only what stands beside the text counts.
def HoldsBeside (anchoring : Anchoring) (text code : Text) : Prop :=
  ∃ before after, code = before ++ (text ++ after) ∧
    (anchoring.starts = true → before.getLast?.all (· == '\n') = true) ∧
    (anchoring.ends = true → after.head?.all (· == '\n') = true)

end Anchoring

variable {text code line before after : Text} {pieces : List Text} {mark : Char} {anchoring : Anchoring}

theorem standsApart_intercalate (member : line ∈ pieces) :
    StandsApart (· == mark) line ([mark].intercalate pieces) := by
  induction pieces with
  | nil => cases member
  | cons piece pieces ih =>
    cases pieces with
    | nil =>
      obtain rfl := List.mem_singleton.mp member
      exact ⟨[],[],by simp,rfl,rfl⟩
    | cons next pieces =>
      have joined : [mark].intercalate (piece :: next :: pieces) = piece ++ mark :: [mark].intercalate (next :: pieces) := by
        simp [List.intercalate]
      rw [joined]
      rcases List.mem_cons.mp member with rfl | later
      · exact ⟨[],mark :: _,rfl,rfl,by simp⟩
      · obtain ⟨before,after,split,starts,ends⟩ := ih later
        refine ⟨piece ++ mark :: before,after,by simp [split],?_,ends⟩
        cases before with
        | nil => simp
        | cons c before =>
          rw [List.getLast?_append_of_ne_nil _ (by simp),List.getLast?_cons_cons]
          exact starts

theorem mem_splitOn_iff : line ∈ text.splitOn mark ↔ mark ∉ line ∧ StandsApart (· == mark) line text := by
  constructor
  · intro member
    refine ⟨Text.not_mem_of_mem_splitOn member,?_⟩
    have apart : StandsApart (· == mark) line ([mark].intercalate (text.splitOn mark)) := standsApart_intercalate member
    rwa [List.intercalate_splitOn] at apart
  · rintro ⟨free,before,after,rfl,starts,ends⟩
    have front : line ∈ (line ++ after).splitOn mark := by
      cases after with
      | nil => simp [List.splitOn_eq_singleton free]
      | cons c after =>
        obtain rfl : c = mark := by simpa using ends
        rw [List.splitOn_append_cons_self_of_not_mem free]
        exact List.mem_cons_self ..
    rcases List.eq_nil_or_concat' before with rfl | ⟨initial,c,rfl⟩
    · exact front
    · obtain rfl : c = mark := by simpa using starts
      rw [List.append_assoc,List.singleton_append,List.splitOn_append_cons_self]
      exact List.mem_append_right _ front

theorem rest_of_line (after : Text) : ∃ right behind, after = right ++ behind ∧ '\n' ∉ right ∧
    behind.head?.all (· == '\n') = true ∧ (after.head?.all (· == '\n') = true → right = []) := by
  refine ⟨after.takeWhile (· != '\n'),after.dropWhile (· != '\n'),List.takeWhile_append_dropWhile.symm,?_,?_,?_⟩
  · intro member
    exact absurd (List.mem_takeWhile_imp member) (by decide)
  · have first := List.head?_dropWhile_not (· != '\n') after
    cases found : (after.dropWhile (· != '\n')).head? with
    | none => rfl
    | some c => simpa [found] using first
  · cases after with
    | nil => exact fun _ => rfl
    | cons c after =>
      intro ends
      obtain rfl : c = '\n' := by simpa using ends
      rfl

theorem start_of_line (before : Text) : ∃ ahead left, before = ahead ++ left ∧ '\n' ∉ left ∧
    ahead.getLast?.all (· == '\n') = true ∧ (before.getLast?.all (· == '\n') = true → left = []) := by
  obtain ⟨right,behind,split,free,last,rest⟩ := rest_of_line before.reverse
  refine ⟨behind.reverse,right.reverse,?_,by simpa using free,by simpa using last,?_⟩
  · rw [← List.reverse_append,← split,List.reverse_reverse]
  · simpa using rest

theorem within_line_iff (single : '\n' ∉ text) : anchoring.HoldsBeside text code ↔
    ∃ line ∈ code.splitOn '\n', ∃ left right, line = left ++ (text ++ right) ∧
      (anchoring.starts = true → left = []) ∧ (anchoring.ends = true → right = []) := by
  constructor
  · rintro ⟨before,after,rfl,starts,ends⟩
    obtain ⟨ahead,left,rfl,leftFree,first,leftmost⟩ := start_of_line before
    obtain ⟨right,behind,rfl,rightFree,last,rightmost⟩ := rest_of_line after
    refine ⟨left ++ (text ++ right),mem_splitOn_iff.mpr ⟨by simp [leftFree,single,rightFree],?_⟩,left,right,rfl,?_,?_⟩
    · exact ⟨ahead,behind,by simp,first,last⟩
    · exact fun start => leftmost (starts start)
    · exact fun stop => rightmost (ends stop)
  · rintro ⟨line,member,left,right,rfl,leftmost,rightmost⟩
    obtain ⟨_,ahead,behind,rfl,first,last⟩ := mem_splitOn_iff.mp member
    refine ⟨ahead ++ left,right ++ behind,by simp,?_,?_⟩
    · intro start
      simpa [leftmost start] using first
    · intro stop
      simpa [rightmost stop] using last

theorem holdsBeside_iff (single : '\n' ∉ text) : anchoring.HoldsBeside text code ↔ anchoring.Holds text code := by
  cases anchoring with
  | anywhere =>
    constructor
    · rintro ⟨before,after,rfl,_⟩
      exact ⟨before,after,List.append_assoc ..⟩
    · rintro ⟨before,after,rfl⟩
      exact ⟨before,after,List.append_assoc ..,nofun,nofun⟩
  | lineStart =>
    rw [within_line_iff single]
    simp [Anchoring.Holds,Anchoring.starts,Anchoring.ends,List.IsPrefix,eq_comm]
  | lineEnd =>
    rw [within_line_iff single]
    simp [Anchoring.Holds,Anchoring.starts,Anchoring.ends,List.IsSuffix,eq_comm]
  | wholeLine =>
    rw [within_line_iff single]
    simp [Anchoring.Holds,Anchoring.starts,Anchoring.ends]

end Marking
