import Marking.Proofs.Pattern.Assembly
import Mathlib

-- How much room a sequence takes: what its parts take together. A character takes a state for each byte
-- of its encoding, and an assertion takes one state.

namespace Marking.Pattern

-- How many states there is room for beside those around a pattern.
def mostStates : Nat := 327673

variable {direction : Direction} {parts others : List Pattern} {pattern last : Pattern} {read : List Part}

theorem bytes_length (c : Char) : (ByteSpans.bytes c.toNat).length = (String.utf8EncodeChar c).length := by
  rw [String.length_utf8EncodeChar,Char.utf8Size]
  unfold ByteSpans.bytes
  have same : c.val.toNat = c.toNat := rfl
  simp only [UInt32.le_iff_toNat_le,same]
  split_ifs <;> simp_all <;> omega

theorem size_only (c : Char) : (CharSet.only c).size direction = stateSize * (String.utf8EncodeChar c).length := by
  have single : (CharSet.only c).single? = some c.toNat := by simp [CharSet.single?,CharSet.only,CharSet.span]
  simp only [CharSet.size,single,bytes_length]

-- A part that takes some room, and by itself no more than in a sequence.
structure Solid (direction : Direction) (pattern : Pattern) : Prop where
  alone : pattern.room direction .alone = pattern.room direction .part
  least : stateSize ≤ pattern.room direction .part

theorem Solid.only (c : Char) : Solid direction (.one (.only c)) := by
  have some : 0 < (String.utf8EncodeChar c).length := by
    rw [String.length_utf8EncodeChar]
    exact c.utf8Size_pos
  refine ⟨rfl,?_⟩
  rw [room,size_only]
  exact Nat.le_trans (Nat.le_mul_of_pos_right _ some) (Nat.le_add_left ..)

theorem Solid.assert (assertion : Assertion) : Solid direction (.assert assertion) := ⟨rfl,Nat.le_refl _⟩

theorem Solid.both (first : Solid direction pattern) : Solid direction (.both pattern last) := by
  have least : stateSize ≤ (Pattern.both pattern last).room direction .part :=
    Nat.le_trans first.least (Nat.le_add_right ..)
  refine ⟨?_,least⟩
  exact (Nat.zero_add _).trans (Nat.max_eq_right least)

theorem room_foldl : (others.foldl (fun tail part => .both part tail) last).room direction .part =
    ((last :: others).map (room direction .part)).sum := by
  induction others generalizing last with
  | nil => simp
  | cons part others ih =>
    rw [List.foldl_cons,ih]
    simp [room]
    omega

theorem room_inSequence : (inSequence parts).room direction .part = (parts.map (room direction .part)).sum := by
  have kept : ((parts.filter (· != .empty)).map (room direction .part)).sum = (parts.map (room direction .part)).sum := by
    induction parts with
    | nil => rfl
    | cons part parts ih =>
      by_cases empty : part = .empty
      · subst empty
        simpa [room] using ih
      · simp [empty,ih]
  rw [← kept]
  unfold inSequence
  split
  · rename_i nothing
    rw [nothing]
    rfl
  · rename_i last others spelled
    rw [spelled,room_foldl]

theorem Solid.foldl (solid : ∀ part ∈ last :: others, Solid direction part) :
    Solid direction (others.foldl (fun tail part => .both part tail) last) := by
  induction others generalizing last with
  | nil => exact solid last (List.mem_singleton_self _)
  | cons part others ih =>
    refine ih (List.forall_mem_cons.mpr ⟨Solid.both (solid part (by simp)),?_⟩)
    exact fun other member => solid other (by simp [member])

theorem Solid.inSequence (some : parts ≠ []) (solid : ∀ part ∈ parts, Solid direction part) :
    Solid direction (Pattern.inSequence parts) := by
  have kept : parts.filter (· != .empty) = parts := by
    rw [List.filter_eq_self]
    intro part member
    refine bne_iff_ne.mpr ?_
    rintro rfl
    exact Nat.not_succ_le_zero _ (solid .empty member).least
  obtain ⟨last,others,rfl⟩ := List.exists_cons_of_ne_nil some
  rw [Pattern.inSequence,kept]
  exact Solid.foldl solid

theorem sequence_pattern : (sequence read).pattern = inSequence (read.map (·.pattern)) := by
  unfold sequence
  split
  · rfl
  · rename_i single
    obtain ⟨pattern,depth,repeatable⟩ := single
    cases pattern <;> rfl
  · rfl

theorem fits_sequence {states : Nat} (some : read ≠ [])
    (solid : ∀ direction, ∀ part ∈ read, Solid direction part.pattern)
    (amount : ∀ direction, (read.map fun part => part.pattern.room direction .part).sum = stateSize * states) :
    (sequence read).pattern.fits = true ↔ states ≤ mostStates := by
  have whole (direction : Direction) : (sequence read).pattern.room direction .alone = stateSize * states := by
    have solid : Solid direction (inSequence (read.map (·.pattern))) :=
      Solid.inSequence (by simpa using some) (by simpa using solid direction)
    rw [sequence_pattern,solid.alone,room_inSequence,List.map_map]
    exact amount direction
  have limit : sizeLimit = 10485760 := rfl
  simp only [fits,size,whole,stateSize,limit,mostStates,Bool.and_eq_true,decide_eq_true_eq]
  omega

end Marking.Pattern
