import Marking.Proofs.Pattern.Preferred
import Marking.Proofs.Rule.NamePattern

-- Which calls a rule on methods finds. Calls are searched from left to right and those on this
-- are passed over. Another call is missed only if its dot was passed with them, which takes a
-- name that holds a dot.

namespace Marking.Matcher
open Pattern

-- Whether a call of one of `names`, whose dot has been read, goes on with `text` and leaves
-- `after` behind its parenthesis.
def Continues (names : List Text) (text after : Text) : Prop :=
  ∃ gap name pause, text = gap ++ (name ++ (pause ++ '(' :: after)) ∧ name ∈ names ∧
    Text.isBlank gap = true ∧ Text.isBlank pause = true

def EndsInThis (before : Text) : Prop :=
  ∃ front, Text.trimEnd before = front ++ "this".toList ∧
    ∀ c, front.getLast? = some c → Text.isAlphanumeric c = false ∧ c ≠ '_'

def CallsOther (names : List Text) (code : Text) : Prop :=
  ∃ before text after, code = before ++ '.' :: text ∧ Continues names text after ∧ ¬ EndsInThis before

-- Whether a call on this takes up the dot of a call on something other than this. Whoever passes
-- over the first may miss the second.
def Hides (names : List Text) (code : Text) : Prop :=
  ∃ before inner within after rest, code = before ++ '.' :: (inner ++ '.' :: (within ++ after)) ∧
    EndsInThis before ∧ Continues names (inner ++ '.' :: (within ++ after)) after ∧
    ¬ EndsInThis (before ++ '.' :: inner) ∧ Continues names (within ++ after) rest

variable {names : List Text} {text before front back taken after rest code : Text} {held more : Nat} {c : Char}
  {matcher : Matcher}

theorem takes_callPart (named : names ≠ []) (before text after : Text) :
    (∃ taken, '.' :: text = taken ++ after ∧ Takes (callPart names).pattern before taken after) ↔
      Continues names text after := by
  unfold callPart
  rw [takes_sequence]
  constructor
  · intro found
    obtain ⟨_,split,_,_,rfl,dot,gap,_,rfl,blank,name,_,rfl,listed,pause,_,rfl,paused,_,_,rfl,opened,rfl⟩ := found
    rw [takes_charPart.mp dot,takes_charPart.mp opened] at split
    exact ⟨gap,name,pause,by simpa using split,(takes_group named).mp listed,takes_blanks.mp blank,takes_blanks.mp paused⟩
  · intro continues
    obtain ⟨gap,name,pause,rfl,listed,blank,paused⟩ := continues
    refine ⟨'.' :: (gap ++ (name ++ (pause ++ ['(']))),by simp,['.'],_,rfl,takes_charPart.mpr rfl,gap,_,rfl,
      takes_blanks.mpr blank,name,_,rfl,(takes_group named).mpr listed,pause,_,rfl,takes_blanks.mpr paused,['('],[],rfl,
      takes_charPart.mpr rfl,rfl⟩

theorem takes_dot (here : Takes (callPart names).pattern before taken after) : ∃ inner, taken = '.' :: inner := by
  unfold callPart at here
  rw [takes_sequence] at here
  obtain ⟨_,_,rfl,dot,_⟩ := here
  rw [takes_charPart.mp dot]
  exact ⟨_,rfl⟩

-- The search stops at the dots of calls alone, and passes over all that it takes there.
theorem callLength_sound (named : names ≠ [])
    (found : (callPart names).pattern.preferredLength ⟨before.getLast?,c :: rest⟩ = more + 1) :
    ∃ after, c = '.' ∧ Continues names rest after ∧ more = rest.length - after.length := by
  obtain ⟨taken,after,split,here,length⟩ := preferredLength_sound found
  obtain ⟨inner,rfl⟩ := takes_dot here
  obtain ⟨rfl,rest_eq⟩ := List.cons.inj split
  refine ⟨after,rfl,(takes_callPart named before rest after).mp ⟨_,split,here⟩,?_⟩
  have total : rest.length = inner.length + after.length := by
    rw [rest_eq]
    exact List.length_append
  rw [List.length_cons] at length
  omega

theorem callLength_complete (named : names ≠ []) (continues : Continues names rest after) (before : Text) :
    ∃ more, (callPart names).pattern.preferredLength ⟨before.getLast?,'.' :: rest⟩ = more + 1 := by
  obtain ⟨taken,split,here⟩ := (takes_callPart named before rest after).mpr continues
  rw [split]
  refine preferredLength_complete here ?_
  intro other behind there
  obtain ⟨inner,rfl⟩ := takes_dot there
  exact List.cons_ne_nil _ _

theorem Continues.suffix (continues : Continues names text after) : after <:+ text := by
  obtain ⟨gap,name,pause,rfl,_⟩ := continues
  exact ⟨gap ++ name ++ pause ++ ['('],by simp⟩

theorem endsWithThis_reverse : endsWithThis before.reverse = true ↔ EndsInThis before := by
  have trimmed : before.reverse.dropWhile Text.isSpace = (Text.trimEnd before).reverse := by
    simp [Text.trimEnd,Text.dropTrailing]
  unfold endsWithThis
  rw [trimmed]
  constructor
  · intro ends
    split at ends
    · rename_i rest found
      have spelled : (Text.trimEnd before).reverse = "siht".toList ++ rest := Text.after_eq_some_iff.mp found
      refine ⟨rest.reverse,?_,?_⟩
      · rw [← List.reverse_reverse (Text.trimEnd before),spelled,List.reverse_append]
        rfl
      · intro c last
        rw [List.getLast?_reverse] at last
        simpa [last] using ends
    · cases ends
  · rintro ⟨front,spelled,alone⟩
    have found : Text.after? "siht".toList (Text.trimEnd before).reverse = some front.reverse := by
      rw [Text.after_eq_some_iff,spelled,List.reverse_append]
      rfl
    rw [found]
    cases last : front.getLast? with
    | none => simp [List.head?_reverse,last]
    | some c => simpa [List.head?_reverse,last] using alone c last

-- A call on this that reaches over the dot of another call hides it.
theorem hides_of_reach (this : EndsInThis before) (taking : Continues names (front ++ '.' :: back) rest)
    (reach : front.length < (front ++ '.' :: back).length - rest.length)
    (other : ¬ EndsInThis (before ++ '.' :: front)) (continues : Continues names back after) :
    Hides names (before ++ '.' :: (front ++ '.' :: back)) := by
  have shorter : rest.length ≤ back.length := by
    simp only [List.length_append,List.length_cons] at reach
    omega
  have last : back <:+ front ++ '.' :: back := ⟨front ++ ['.'],by simp⟩
  obtain ⟨within,rfl⟩ := List.suffix_of_suffix_length_le taking.suffix last shorter
  exact ⟨before,front,within,rest,after,rfl,this,taking,other,continues⟩

-- The search goes through the text character by character; `before` is what it has passed.
theorem hasCallFrom_sound (named : names ≠ []) (found : hasCallFrom (callPart names).pattern before.reverse held text = true) :
    ∃ front back after, text = front ++ '.' :: back ∧ Continues names back after ∧ ¬ EndsInThis (before ++ front) := by
  induction text generalizing before held with
  | nil => cases found
  | cons c rest ih =>
    have passed : c :: before.reverse = (before ++ [c]).reverse := by simp
    have later : ∀ held, hasCallFrom (callPart names).pattern (c :: before.reverse) held rest = true → ∃ front back after,
        c :: rest = front ++ '.' :: back ∧ Continues names back after ∧ ¬ EndsInThis (before ++ front) := by
      intro held found
      rw [passed] at found
      obtain ⟨front,back,after,rfl,continues,other⟩ := ih found
      exact ⟨c :: front,back,after,rfl,continues,by simpa using other⟩
    cases held with
    | succ held => exact later held found
    | zero =>
      rw [hasCallFrom,List.head?_reverse] at found
      split at found
      · exact later 0 found
      · rename_i more here
        obtain ⟨after,rfl,continues,_⟩ := callLength_sound named here
        rcases Bool.or_eq_true _ _ |>.mp found with other | found
        · refine ⟨[],rest,after,rfl,continues,?_⟩
          rw [List.append_nil,← endsWithThis_reverse]
          simpa using other
        · exact later _ found

theorem hasCallFrom_complete (named : names ≠ []) (seen : ¬ Hides names (before ++ text)) (split : text = front ++ '.' :: back)
    (continues : Continues names back after) (other : ¬ EndsInThis (before ++ front))
    (ahead : held ≤ front.length) : hasCallFrom (callPart names).pattern before.reverse held text = true := by
  induction text generalizing before held front with
  | nil => simp at split
  | cons c rest ih =>
    have passed : c :: before.reverse = (before ++ [c]).reverse := by simp
    have later : ∀ tail held, front = c :: tail → held ≤ tail.length →
        hasCallFrom (callPart names).pattern (c :: before.reverse) held rest = true := by
      intro tail held same short
      subst same
      rw [passed]
      exact ih (by simpa using seen) (List.cons.inj split).2 (by simpa using other) short
    cases held with
    | succ held =>
      cases front with
      | nil => cases ahead
      | cons d tail =>
        obtain ⟨rfl,_⟩ := List.cons.inj split
        exact later tail held rfl (Nat.le_of_succ_le_succ ahead)
    | zero =>
      rw [hasCallFrom,List.head?_reverse]
      split
      · rename_i missing
        cases front with
        | nil =>
          obtain ⟨rfl,rfl⟩ := List.cons.inj split
          obtain ⟨more,here⟩ := callLength_complete named continues before
          rw [missing] at here
          cases here
        | cons d tail =>
          obtain ⟨rfl,_⟩ := List.cons.inj split
          exact later tail 0 rfl (Nat.zero_le _)
      · rename_i more here
        obtain ⟨reached,rfl,taking,rfl⟩ := callLength_sound named here
        by_cases this : endsWithThis before.reverse = true
        · cases front with
          | nil => exact absurd (endsWithThis_reverse.mp this) (by simpa using other)
          | cons d tail =>
            obtain ⟨rfl,rfl⟩ := List.cons.inj split
            have short : (tail ++ '.' :: back).length - reached.length ≤ tail.length := by
              by_contra long
              exact seen (hides_of_reach (endsWithThis_reverse.mp this) taking (Nat.lt_of_not_le long) other continues)
            exact (Bool.or_eq_true _ _).mpr (.inr (later tail _ rfl short))
        · simp [this]

theorem hasCall_iff_of_seen (named : names ≠ []) (seen : ¬ Hides names code) :
    (calls (callPart names).pattern).found code = true ↔ CallsOther names code := by
  have start : ([] : Text) = ([] : Text).reverse := rfl
  rw [found,start]
  constructor
  · exact hasCallFrom_sound named
  · intro called
    obtain ⟨front,back,after,split,continues,other⟩ := called
    exact hasCallFrom_complete named seen split continues other (Nat.zero_le _)

theorem found_calls (named : names ≠ []) (compiled : compile (.names .method names) = .ok matcher)
    (seen : ¬ Hides names code) : matcher.found code = true ↔ CallsOther names code := by
  rw [eq_of_compile_calls named compiled]
  exact hasCall_iff_of_seen named seen

end Marking.Matcher
