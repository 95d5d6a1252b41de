import Marking.Pattern.Reading
import Marking.Proofs.Pattern.CharSet
import Marking.Proofs.Pattern.Search

-- What a pattern takes that was put together from parts and branches while it was read.

namespace Marking.Pattern

def inOrder (parts : List Pattern) : Taking := (parts.map Takes).foldr .andThen .nothing

variable {parts others branches : List Pattern} {part last : Pattern} {takes : Taking} {before taken after : Text}
  {sets : List CharSet} {set : CharSet} {read : List Part} {limit least n : Nat}

theorem inOrder_cons : inOrder (part :: parts) = part.Takes.andThen (inOrder parts) := rfl

theorem inOrder_append : inOrder (parts ++ others) = (inOrder parts).andThen (inOrder others) := by
  induction parts with
  | nil => exact nothing_andThen.symm
  | cons part parts ih =>
    rw [List.cons_append,inOrder_cons,inOrder_cons,ih,andThen_assoc]

theorem inOrder_single : inOrder [part] = Takes part := andThen_nothing

theorem inOrder_filter : inOrder (parts.filter (· != .empty)) = inOrder parts := by
  induction parts with
  | nil => rfl
  | cons part parts ih =>
    by_cases empty : part = .empty
    · subst empty
      rw [inOrder_cons,List.filter_cons_of_neg (by simp),ih]
      exact nothing_andThen.symm
    · rw [List.filter_cons_of_pos (by simpa using empty),inOrder_cons,inOrder_cons,ih]

theorem takes_foldl : Takes (others.foldl (fun tail part => .both part tail) last) =
    inOrder (others.reverse ++ [last]) := by
  induction others generalizing last with
  | nil => exact inOrder_single.symm
  | cons part others ih =>
    have pair : inOrder ([part] ++ [last]) = inOrder [.both part last] := by
      rw [inOrder_append,inOrder_single,inOrder_single,inOrder_single]
      rfl
    rw [List.foldl_cons,ih,List.reverse_cons,List.append_assoc,inOrder_append,inOrder_append,pair]

-- The parts of a sequence are given last first.
theorem takes_inSequence : Takes (inSequence parts) = inOrder parts.reverse := by
  rw [← inOrder_filter,List.filter_reverse]
  unfold inSequence
  split
  · rename_i nothing
    rw [nothing]
    rfl
  · rename_i last others spelled
    rw [spelled,takes_foldl,List.reverse_cons]

theorem branchSets_some (found : branchSets? branches = some sets) : branches = sets.map .one := by
  unfold branchSets? at found
  obtain ⟨all,sorted,chosen⟩ := Option.bind_eq_some_iff.mp found
  obtain rfl : all = sets := by
    split at chosen
    · exact Option.some.inj chosen
    · cases chosen
  clear found chosen
  induction branches generalizing all with
  | nil =>
    cases sorted
    rfl
  | cons branch branches ih =>
    rw [List.mapM_cons] at sorted
    obtain ⟨set,single,others⟩ := Option.bind_eq_some_iff.mp sorted
    obtain ⟨rest,later,joined⟩ := Option.bind_eq_some_iff.mp others
    cases joined
    rw [ih rest later]
    cases branch with
    | one set =>
      cases single
      rfl
    | _ => cases single

theorem takes_either : Takes (others.foldl (fun tail branch => .either branch tail) last) before taken after ↔
    ∃ branch ∈ last :: others, Takes branch before taken after := by
  induction others generalizing last with
  | nil => simp
  | cons branch others ih =>
    rw [List.foldl_cons,ih]
    simp only [List.mem_cons,exists_eq_or_imp,Takes,Taking.orElse]
    rw [or_assoc,or_left_comm]

theorem takes_inChoice (ascending : ∀ set, .one set ∈ branches → CharSet.Ascending set.spans) :
    Takes (inChoice branches) before taken after ↔ ∃ branch ∈ branches, Takes branch before taken after := by
  unfold inChoice
  split
  · rename_i sets found
    obtain rfl := branchSets_some found
    have sorted : ∀ set ∈ sets, CharSet.Ascending set.spans :=
      fun set listed => ascending set (List.mem_map.mpr ⟨set,listed,rfl⟩)
    constructor
    · rintro ⟨c,rfl,member⟩
      obtain ⟨set,listed,member⟩ := (CharSet.has_unions sorted).mp member
      exact ⟨.one set,List.mem_map.mpr ⟨set,listed,rfl⟩,c,rfl,member⟩
    · rintro ⟨_,listed,here⟩
      obtain ⟨set,chosen,rfl⟩ := List.mem_map.mp listed
      obtain ⟨c,rfl,member⟩ := here
      exact ⟨c,rfl,(CharSet.has_unions sorted).mpr ⟨set,chosen,member⟩⟩
  · rename_i mixed
    cases branches with
    | nil => cases mixed
    | cons last others => exact takes_either

theorem times_one : (Takes (.one set)).times n before taken after ↔ taken.length = n ∧ ∀ c ∈ taken, set.has c = true := by
  induction n generalizing before taken with
  | zero => simp only [Taking.times,Taking.nothing,List.length_eq_zero_iff]; grind
  | succ n ih =>
    constructor
    · intro row
      obtain ⟨_,back,rfl,⟨c,rfl,member⟩,row⟩ := row
      obtain ⟨rfl,others⟩ := ih.mp row
      exact ⟨rfl,List.forall_mem_cons.mpr ⟨member,others⟩⟩
    · intro given
      obtain ⟨length,members⟩ := given
      obtain ⟨c,back,rfl⟩ := List.exists_cons_of_length_eq_add_one length
      obtain ⟨member,others⟩ := List.forall_mem_cons.mp members
      exact ⟨[c],back,rfl,⟨c,rfl,member⟩,ih.mpr ⟨Nat.succ.inj length,others⟩⟩

theorem takes_run : Takes (.repeated (.one set) least none) before taken after ↔
    least ≤ taken.length ∧ ∀ c ∈ taken, set.has c = true := by
  constructor
  · intro row
    obtain ⟨more,_,row⟩ := row
    obtain ⟨length,members⟩ := times_one.mp row
    exact ⟨by omega,members⟩
  · intro given
    obtain ⟨enough,members⟩ := given
    exact ⟨taken.length - least,nofun,times_one.mpr ⟨by omega,members⟩⟩

theorem takes_sequence : Takes (sequence read).pattern = inOrder (read.reverse.map (·.pattern)) := by
  unfold sequence
  split
  · rfl
  · exact inOrder_single.symm
  · rw [takes_inSequence,List.map_reverse]

theorem takes_alternatives (branched : read ≠ [])
    (ascending : ∀ part ∈ read, ∀ set, part.pattern = .one set → CharSet.Ascending set.spans) :
    Takes (alternatives read).pattern before taken after ↔ ∃ part ∈ read, Takes part.pattern before taken after := by
  unfold alternatives
  split
  · contradiction
  · simp
  · refine (takes_inChoice ?_).trans (by simp)
    intro set listed
    obtain ⟨part,member,spelled⟩ := List.mem_map.mp listed
    exact ascending part member set spelled

theorem deepest_le (within : ∀ part ∈ read, part.depth ≤ limit) : deepest read ≤ limit :=
  read.foldlRecOn (motive := (· ≤ limit)) _ (Nat.zero_le _)
    fun _ small part member => Nat.max_le.mpr ⟨small,within part member⟩

theorem sequence_depth_le (within : ∀ part ∈ read, part.depth ≤ limit) : (sequence read).depth ≤ limit + 1 := by
  unfold sequence
  split
  · exact Nat.zero_le _
  · exact Nat.le_succ_of_le (within _ (List.mem_singleton_self _))
  · exact Nat.succ_le_succ (deepest_le within)

theorem alternatives_depth_le (within : ∀ part ∈ read, part.depth ≤ limit) :
    (alternatives read).depth ≤ limit + 1 := by
  unfold alternatives
  split
  · exact Nat.zero_le _
  · exact Nat.le_succ_of_le (within _ (List.mem_singleton_self _))
  · exact Nat.succ_le_succ (deepest_le within)

end Marking.Pattern
