import Marking.Marker
import Marking.Proofs.Comment.Recommenting

-- Comments have no say in a static check: neither their removal beforehand nor what is written
-- in them changes the outcome or what is stored.

namespace Marking.Marker

variable {marker : Marker} {case : TestCase} {one two : Submission}

theorem checkStatic_congr (user : one.userId = two.userId) (answer : one.answerId = two.answerId)
    (same : code marker.strip one = code marker.strip two) :
    marker.checkStatic case one = marker.checkStatic case two := by
  simp only [checkStatic,Result.of,user,answer,same]

theorem restripping_unseen (style : Comment.Style) (source : Text) :
    Comment.strip style (Comment.strip style source) = Comment.strip style source ∧
    (∃ lexemes, Comment.Decomposes style (Comment.strip style source) lexemes ∧
      ∀ lexeme ∈ lexemes, ¬ lexeme.IsComment) ∧
    ∀ (store : Store) (case : TestCase) (user answer : Int64),
      let marker : Marker := ⟨Comment.strip style,store⟩
      marker.checkStatic case ⟨user,answer,Comment.strip style source,none⟩ =
        marker.checkStatic case ⟨user,answer,source,none⟩ ∧
      marker.checkStatic case ⟨user,answer,source,some (Comment.strip style source)⟩ =
        marker.checkStatic case ⟨user,answer,source,none⟩ := by
  have again := Comment.strip_strip style source
  refine ⟨again,Comment.strip_no_comment style source,?_⟩
  intro store case user answer marker
  exact ⟨checkStatic_congr rfl rfl again,checkStatic_congr rfl rfl rfl⟩

theorem commentary_unseen {style : Comment.Style} {one two : Text}
    (differ : Comment.DifferInComments style one two) (store : Store) (case : TestCase)
    (user answer : Int64) :
    checkStatic ⟨Comment.strip style,store⟩ case ⟨user,answer,one,none⟩ =
      checkStatic ⟨Comment.strip style,store⟩ case ⟨user,answer,two,none⟩ :=
  checkStatic_congr rfl rfl differ.strip_eq

theorem quoted_commentary_unseen :
    let one := "f/*\"\n//*/;//'".toList
    let two := "f/*\n**/;//*/\"".toList
    let case : TestCase :=
      {id := 1,prompt := ⟨1,[],[]⟩,input := "keyword: f".toList,weight := .zero,isStatic := true}
    Comment.DifferInComments .slash one two ∧
      checkStatic ⟨Comment.strip .slash,.empty Store.accepting⟩ case ⟨1,1,one,none⟩ =
        checkStatic ⟨Comment.strip .slash,.empty Store.accepting⟩ case ⟨1,1,two,none⟩ := by
  intro one two case
  have line : (Comment.Lexeme.line ['\'']).Fits .slash [] := ⟨by decide,.inl rfl⟩
  have stop : (Comment.Lexeme.code ';').Fits .slash "//'".toList := by
    simp [Comment.Lexeme.Fits,Comment.IsQuote,Comment.lineMark,Comment.blockMark]
  have block : (Comment.Lexeme.block ("\"\n//".toList ++ Comment.blockEnd)).Fits .slash ";//'".toList :=
    ⟨rfl,Comment.through_blockEnd (by decide)⟩
  have name : (Comment.Lexeme.code 'f').Fits .slash "/*\"\n//*/;//'".toList := by
    simp [Comment.Lexeme.Fits,Comment.IsQuote,Comment.lineMark,Comment.blockMark]
  have differ : Comment.DifferInComments .slash one two := by
    refine ⟨_,[.code 'f',.block ("\n*".toList ++ Comment.blockEnd),.code ';',.line "*/\"".toList],
      .cons name (.cons block (.cons stop (.cons line .nil))),?_,rfl⟩
    refine .cons (.code 'f') (.cons (.block (.inl rfl) ?_ ?_ ?_) (.cons (.code ';') (.cons (.line ?_ ?_) .nil)))
    all_goals decide
  exact ⟨differ,commentary_unseen differ _ _ _ _⟩

end Marking.Marker
