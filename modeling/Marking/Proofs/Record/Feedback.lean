import Marking.Proofs.Record.Message

-- What the feedback on a record is made of: the name of the exception where it adds something, and
-- the message where there is one.

namespace Marking

namespace Text

-- What stands behind the last occurrence of a character, which is everything where there is none.
def FollowsLast (mark : Char) (text tail : Text) : Prop :=
  mark ∉ tail ∧ (text = tail ∨ ∃ front, text = front ++ mark :: tail)

theorem followsLast_iff {mark : Char} {text tail : Text} : FollowsLast mark text tail ↔
    (match cutAtLast? mark text with
    | some cut => cut.2
    | none => text) = tail := by
  cases cut : cutAtLast? mark text with
  | none =>
    have absent := cutAtLast_eq_none_iff.mp cut
    constructor
    · intro follows
      rcases follows.2 with whole | ⟨front,split⟩
      · exact whole
      · exact absurd (by rw [split]; simp) absent
    · intro whole
      exact ⟨whole ▸ absent,.inl whole⟩
  | some pair =>
    obtain ⟨front,back⟩ := pair
    obtain ⟨split,last⟩ := cutAtLast_eq_some_iff.mp cut
    constructor
    · intro follows
      rcases follows.2 with whole | ⟨other,again⟩
      · exact absurd (by rw [← whole,split]; simp) follows.1
      · rw [again,cutAtLast_append follows.1] at cut
        cases cut
        rfl
    · intro same
      rw [← same]
      exact ⟨last,.inr ⟨front,split⟩⟩

theorem nonBlank_eq_some_iff {given : Option Text} {text : Text} :
    nonBlank? given = some text ↔ given = some text ∧ isBlank text = false := by
  rw [nonBlank?,Option.filter_eq_some_iff,Bool.not_eq_true']

end Text

namespace Record

structure Named (record : Record) (name : Text) : Prop where
  given : Text.isBlank record.exceptionType = false
  simple : Text.FollowsLast '.' record.exceptionType name

structure HasMessage (record : Record) : Prop where
  given : Text.isBlank record.rawMessage = false
  set : record.rawMessage ≠ "null".toList

-- Exceptions whose name is left out beside a message: those that a failed assertion throws, and the
-- one that a runner throws on a timeout.
def Expected (record : Record) (name : Text) : Prop :=
  name ∈ assertionNames ∨ name = "Exception".toList ∧ "test timed out".toList <+: record.rawMessage

structure NameShown (record : Record) (name : Text) : Prop where
  named : record.Named name
  nonempty : name ≠ []
  telling : ¬ (record.HasMessage ∧ record.Expected name)

structure MessageShown (record : Record) (shown : Text) : Prop where
  said : record.HasMessage
  spelled : ∃ reworded, Reworded record.rawMessage reworded ∧ Text.Capitalized reworded shown

-- Feedback has two parts at most, and is a text of its own where it has none.
inductive Composed (record : Record) : Text → Prop where
  | both {name message : Text} (named : record.NameShown name) (said : record.MessageShown message) :
      Composed record (name ++ ": ".toList ++ message)
  | nameAlone {name : Text} (named : record.NameShown name) (silent : ¬ record.HasMessage) : Composed record name
  | messageAlone {message : Text} (nameless : ∀ name, ¬ record.NameShown name) (said : record.MessageShown message) :
      Composed record message
  | neither (nameless : ∀ name, ¬ record.NameShown name) (silent : ¬ record.HasMessage) :
      Composed record "did not meet expectations".toList

variable {record : Record} {name other shown text : Text}

theorem exceptionName_eq_some_iff : record.exceptionName? = some name ↔ record.Named name := by
  rw [exceptionName?,Option.map_eq_some_iff]
  constructor
  · intro found
    obtain ⟨raw,filled,simple⟩ := found
    obtain ⟨same,given⟩ := Text.nonBlank_eq_some_iff.mp filled
    cases same
    exact ⟨given,Text.followsLast_iff.mpr simple⟩
  · intro named
    exact ⟨_,Text.nonBlank_eq_some_iff.mpr ⟨rfl,named.given⟩,Text.followsLast_iff.mp named.simple⟩

theorem Named.unique (named : record.Named name) (again : record.Named other) : name = other := by
  rw [← exceptionName_eq_some_iff] at named again
  rw [named] at again
  exact Option.some.inj again

theorem message_eq_some_iff : record.message? = some text ↔ record.HasMessage ∧ record.rawMessage = text := by
  rw [message?,Option.filter_eq_some_iff,Text.nonBlank_eq_some_iff,bne_iff_ne,Option.some_inj]
  constructor
  · intro found
    obtain ⟨⟨same,given⟩,set⟩ := found
    rw [← same] at given set
    exact ⟨⟨given,set⟩,same⟩
  · intro found
    obtain ⟨said,same⟩ := found
    rw [← same]
    exact ⟨⟨rfl,said.given⟩,said.set⟩

theorem message_isSome_iff : record.message?.isSome = true ↔ record.HasMessage := by
  rw [Option.isSome_iff_exists]
  constructor
  · intro found
    obtain ⟨text,found⟩ := found
    exact (message_eq_some_iff.mp found).1
  · intro said
    exact ⟨_,message_eq_some_iff.mpr ⟨said,rfl⟩⟩

theorem isExpectedFailure_iff : record.isExpectedFailure name = true ↔ record.Expected name := by
  rw [isExpectedFailure,Bool.or_eq_true,Bool.and_eq_true,beq_iff_eq,Text.startsWith_iff,List.contains_iff_mem]
  rfl

theorem nameShown_iff : record.NameShown name ↔ record.namePart = name ∧ name ≠ [] := by
  unfold namePart
  constructor
  · intro shown
    obtain ⟨named,nonempty,telling⟩ := shown
    rw [exceptionName_eq_some_iff.mpr named]
    dsimp only
    rw [if_neg]
    · exact ⟨rfl,nonempty⟩
    · rw [Bool.and_eq_true,isExpectedFailure_iff,message_isSome_iff]
      exact fun hidden => telling hidden.symm
  · intro part
    obtain ⟨same,nonempty⟩ := part
    split at same
    · exact absurd same.symm nonempty
    · rename_i exception found
      split at same
      · exact absurd same.symm nonempty
      · rename_i telling
        rw [Bool.and_eq_true,isExpectedFailure_iff,message_isSome_iff] at telling
        rw [← same] at nonempty ⊢
        exact ⟨exceptionName_eq_some_iff.mp found,nonempty,fun hidden => telling hidden.symm⟩

theorem messageShown_iff : record.MessageShown shown ↔ record.HasMessage ∧ record.messagePart = shown := by
  constructor
  · intro spoken
    obtain ⟨said,reworded,rewording,raised⟩ := spoken
    refine ⟨said,?_⟩
    rw [messagePart,message_eq_some_iff.mpr ⟨said,rfl⟩]
    dsimp only
    rw [reworded_iff.mp rewording]
    exact Text.capitalized_iff.mp raised
  · intro part
    obtain ⟨said,same⟩ := part
    rw [messagePart,message_eq_some_iff.mpr ⟨said,rfl⟩] at same
    exact ⟨said,_,reworded_iff.mpr rfl,Text.capitalized_iff.mpr same⟩

theorem MessageShown.solid (spoken : record.MessageShown shown) : ∃ c ∈ shown, Text.isSpace c = false := by
  obtain ⟨said,reworded,rewording,raised⟩ := spoken
  exact raised.solid (rewording.solid (Text.isBlank_eq_false_iff.mp said.given))

theorem messagePart_silent (silent : ¬ record.HasMessage) : record.messagePart = [] ∧ record.message?.isNone = true := by
  have absent : record.message? = none := by
    rw [← Option.not_isSome_iff_eq_none,message_isSome_iff]
    exact silent
  rw [messagePart,absent]
  exact ⟨rfl,rfl⟩

theorem namePart_nil_iff : record.namePart = [] ↔ ∀ name, ¬ record.NameShown name := by
  constructor
  · intro empty name named
    obtain ⟨same,nonempty⟩ := nameShown_iff.mp named
    exact nonempty (same.symm.trans empty)
  · intro nameless
    by_contra nonempty
    exact nameless _ (nameShown_iff.mpr ⟨rfl,nonempty⟩)

theorem MessageShown.feedback (spoken : record.MessageShown shown) :
    record.feedback = if record.namePart = [] then shown else record.namePart ++ ": ".toList ++ shown := by
  obtain ⟨said,same⟩ := messageShown_iff.mp spoken
  have present : record.message?.isNone = false := by
    rw [Option.isNone_eq_false_iff,message_isSome_iff]
    exact said
  obtain ⟨c,member,_⟩ := spoken.solid
  have nonempty : shown ≠ [] := List.ne_nil_of_mem member
  unfold Record.feedback
  rw [same,present]
  cases record.namePart with
  | nil => simp [nonempty]
  | cons d name => simp

theorem feedback_silent (silent : ¬ record.HasMessage) :
    record.feedback = if record.namePart = [] then "did not meet expectations".toList else record.namePart := by
  obtain ⟨empty,absent⟩ := messagePart_silent silent
  unfold Record.feedback
  rw [empty,absent]
  cases record.namePart with
  | nil => rfl
  | cons d name => simp

theorem Composed.eq (composed : record.Composed text) : record.feedback = text := by
  cases composed with
  | both named said =>
    obtain ⟨same,nonempty⟩ := nameShown_iff.mp named
    rw [said.feedback,same,if_neg nonempty]
  | nameAlone named silent =>
    obtain ⟨same,nonempty⟩ := nameShown_iff.mp named
    rw [feedback_silent silent,same,if_neg nonempty]
  | messageAlone nameless said => rw [said.feedback,if_pos (namePart_nil_iff.mpr nameless)]
  | neither nameless silent => rw [feedback_silent silent,if_pos (namePart_nil_iff.mpr nameless)]

theorem feedback_composed (record : Record) : record.Composed record.feedback := by
  by_cases said : record.HasMessage
  · have spoken : record.MessageShown record.messagePart := messageShown_iff.mpr ⟨said,rfl⟩
    rw [spoken.feedback]
    split
    · rename_i empty
      exact .messageAlone (namePart_nil_iff.mp empty) spoken
    · rename_i nonempty
      exact .both (nameShown_iff.mpr ⟨rfl,nonempty⟩) spoken
  · rw [feedback_silent said]
    split
    · rename_i empty
      exact .neither (namePart_nil_iff.mp empty) said
    · rename_i nonempty
      exact .nameAlone (nameShown_iff.mpr ⟨rfl,nonempty⟩) said

theorem feedback_exact (record : Record) (text : Text) : record.feedback = text ↔ record.Composed text := by
  constructor
  · intro same
    rw [← same]
    exact feedback_composed record
  · exact Composed.eq

end Record
end Marking
