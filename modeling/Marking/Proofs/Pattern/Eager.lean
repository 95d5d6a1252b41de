import Marking.Pattern.Preferred

-- A search that never gives a character back: where what follows a run cannot go on inside it, the
-- preferred match takes the whole run. What is left of a text without its matches.

namespace Marking.Pattern

-- What a search comes to that goes on behind the ends in turn, and gives up where it cannot.
def Ends.tried (ends : Ends) (position : Position) (go : Text → Option Text) : Option Text :=
  (ends position).findSome? fun last => go last.rest

-- Whether nothing is gained by giving a character of a run back: what follows cannot go on there, or
-- goes on behind the whole run as well.
def Settled (set : CharSet) (go : Text → Option Text) : Prop :=
  ∀ c rest, set.has c = true → go (c :: rest) = none ∨ (go (rest.dropWhile set.has)).isSome

variable {ends first second : Ends} {pattern left right : Pattern} {set : CharSet} {go later : Text → Option Text}
  {before : Option Char} {position : Position} {text : Text} {c : Char} {limit : Nat}

theorem findSome_flatMap {α β γ : Type} {items : List α} {f : α → List β} {g : β → Option γ} :
    (items.flatMap f).findSome? g = items.findSome? fun item => (f item).findSome? g := by
  induction items with
  | nil => rfl
  | cons item items ih =>
    rw [List.flatMap_cons,List.findSome?_append,ih,List.findSome?_cons]
    cases (f item).findSome? g with
    | none => rfl
    | some result => rfl

theorem tried_andThen (same : ∀ next, second.tried next go = later next.rest) :
    (first.andThen second).tried position go = first.tried position later := by
  simp only [Ends.tried] at same ⊢
  simp only [Ends.andThen,findSome_flatMap,same]

theorem tried_both (same : ∀ next, right.ends.tried next go = later next.rest) :
    (Pattern.both left right).ends.tried position go = left.ends.tried position later :=
  tried_andThen same

theorem tried_between_none : (ends.between 0 none).tried position go =
    (ends.upTo position.rest.length).tried position go := by
  simp [Ends.tried,Ends.between,Ends.times,Ends.andThen,Ends.nothing]

theorem tried_between_one (same : ∀ next, (ends.upTo next.rest.length).tried next go = later next.rest) :
    (ends.between 1 none).tried position go = ends.tried position later := by
  have once : ends.times 1 = ends := by
    funext position
    exact List.flatMap_singleton' (ends position)
  unfold Ends.between
  rw [once]
  exact tried_andThen same

theorem tried_upTo_succ : (ends.upTo (limit + 1)).tried position go =
    ((ends position).findSome? fun next =>
      if next.rest.length < position.rest.length then (ends.upTo limit).tried next go else go next.rest).or
      (go position.rest) := by
  unfold Ends.tried
  rw [Ends.upTo,List.findSome?_append,findSome_flatMap,List.findSome?_singleton]
  congr 2
  funext next
  split
  · rfl
  · exact List.findSome?_singleton

theorem ends_one_cons : (Pattern.one set).ends ⟨before,c :: text⟩ = if set.has c then [⟨some c,text⟩] else [] := rfl

theorem tried_cons : (Pattern.one set).ends.tried ⟨before,c :: text⟩ go = if set.has c then go text else none := by
  rw [Ends.tried,ends_one_cons]
  by_cases member : set.has c = true <;> simp [member]

theorem tried_upTo (settled : Settled set go) (enough : text.length ≤ limit) :
    ((Pattern.one set).ends.upTo limit).tried ⟨before,text⟩ go = go (text.dropWhile set.has) := by
  induction text generalizing before limit with
  | nil =>
    cases limit with
    | zero => exact List.findSome?_singleton
    | succ limit => exact tried_upTo_succ
  | cons c rest ih =>
    obtain ⟨limit,rfl⟩ : ∃ less, limit = less + 1 := ⟨limit - 1,by rw [List.length_cons] at enough; omega⟩
    rw [tried_upTo_succ,ends_one_cons]
    by_cases member : set.has c = true
    · have whole := @ih (some c) limit (Nat.le_of_succ_le_succ enough)
      have eager : (go (rest.dropWhile set.has)).or (go (c :: rest)) = go (rest.dropWhile set.has) := by
        rcases settled c rest member with never | always
        · rw [never,Option.or_none]
        · exact Option.or_of_isSome always
      simp [member,whole,eager]
    · simp [member]

theorem tried_run (settled : Settled set go) :
    (Pattern.repeated (.one set) 0 none).ends.tried ⟨before,text⟩ go = go (text.dropWhile set.has) :=
  tried_between_none.trans (tried_upTo settled (Nat.le_refl _))

theorem tried_someRun (settled : Settled set go) :
    (Pattern.repeated (.one set) 1 none).ends.tried ⟨before,text⟩ go =
      if (text.dropWhile set.has).length < text.length then go (text.dropWhile set.has) else none := by
  have further : (Pattern.repeated (.one set) 1 none).ends.tried ⟨before,text⟩ go =
      (Pattern.one set).ends.tried ⟨before,text⟩ fun rest => go (rest.dropWhile set.has) :=
    tried_between_one fun next => tried_upTo settled (Nat.le_refl _)
  rw [further]
  cases text with
  | nil => rfl
  | cons c rest =>
    rw [tried_cons]
    by_cases member : set.has c = true
    · have shorter : (rest.dropWhile set.has).length < rest.length + 1 :=
        Nat.lt_succ_of_le (List.dropWhile_sublist _).length_le
      simp [member,shorter]
    · simp [member]

-- The characters of the preferred match are those up to where a search ends that goes no further.
theorem preferredLength_eq : pattern.preferredLength position =
    ((pattern.ends.tried position some).map (position.rest.length - ·.length)).getD 0 := by
  unfold preferredLength Ends.tried
  cases pattern.ends position with
  | nil => rfl
  | cons last others => rfl

theorem withoutFrom_held (held : Nat) :
    ∃ side, withoutFrom pattern before held text = withoutFrom pattern side 0 (text.drop held) := by
  induction held generalizing before text with
  | zero => exact ⟨before,rfl⟩
  | succ held ih =>
    cases text with
    | nil => exact ⟨none,rfl⟩
    | cons c rest => exact @ih (some c) rest

end Marking.Pattern
