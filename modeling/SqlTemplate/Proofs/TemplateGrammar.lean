import SqlTemplate.Proofs.BlockReading
import SqlTemplate.Proofs.LexemeSteps
import SqlTemplate.Proofs.Success

namespace SqlTemplate

namespace Lexemes

def WellFormed (ls : Lexemes) : Prop :=
  ls.2 = none ∧ ∀ l ∈ ls.1, ∀ body, l.item ≠ .directive body (.next none)

theorem toNode_eq {ls : Lexemes} (h : ls.2 = none) :
    ls.toNode = (Outline.empty.run ls.1).bind Outline.finish := by
  rw [toNode, h]
  rfl

theorem toNode_eq_ok_iff {ls : Lexemes} (h : ls.WellFormed) {root : Node} :
    ls.toNode = .ok root ↔ ∃ ns, root = .root ns ∧ Blocks false ls.1 ns := by
  rw [toNode_eq h.1, Outline.bind_finish_eq_ok_iff]
  simp only [Outline.run_iff_blocks]

theorem toNode_eq_error_iff {ls : Lexemes} (h : ls.WellFormed) {e : Placed Fault} :
    ls.toNode = .error e ↔
      (∃ front l behind ns frames f, ls.1 = front ++ l :: behind ∧ Partial front ns frames ∧
        Offends frames l f ∧ e = ⟨l.here, f⟩) ∨
      ∃ ns f frames, Partial ls.1 ns (f :: frames) ∧
        e = ⟨f.directive.here, .unterminatedBlock (String.ofList f.directive.item)⟩ := by
  rw [toNode_eq h.1]
  constructor
  · intro hr
    cases ho : Outline.empty.run ls.1 with
    | error e' =>
      rw [ho] at hr
      cases hr
      obtain ⟨front, l, behind, p, f, hls, hp, hf, he⟩ := Outline.run_eq_error_iff.mp ho
      have hl := h.2 l (by rw [hls]; simp)
      exact .inl ⟨front, l, behind, p.nodes, p.frames, f, hls, Partial.run_iff.mp hp,
        (Outline.read_eq_error_iff hl).mp hf, he⟩
    | ok o =>
      obtain ⟨ns, frames⟩ := o
      rw [ho] at hr
      cases frames with
      | nil => cases hr
      | cons f frames =>
        cases hr
        exact .inr ⟨ns, f, frames, Partial.run_iff.mp ho, rfl⟩
  · rintro (⟨front, l, behind, ns, frames, f, hls, hp, hf, rfl⟩ | ⟨ns, f, frames, hp, rfl⟩)
    · have hl := h.2 l (by rw [hls]; simp)
      have ho : Outline.empty.run ls.1 = .error ⟨l.here, f⟩ :=
        Outline.run_eq_error_iff.mpr ⟨front, l, behind, ⟨ns, frames⟩, f, hls, hp.run,
          (Outline.read_eq_error_iff hl).mpr hf, rfl⟩
      rw [ho]
      rfl
    · rw [hp.run]
      rfl

end Lexemes

/-- A template whose parts are well-formed has a tree if its lexemes derive from the grammar. The
first lexeme that no derivation goes on with is the fault, or else the innermost block that is open
at the end. -/
theorem Node.parse_iff_blocks (text : String) (h : (Lexemes.ofText text.toList).WellFormed) :
    (∀ root, Node.parse text = .ok root ↔
      ∃ ns, root = .root ns ∧ Blocks false (Lexemes.ofText text.toList).1 ns) ∧
    ∀ e, Node.parse text = .error e ↔
      (∃ front l behind ns frames f,
        (Lexemes.ofText text.toList).1 = front ++ l :: behind ∧ Partial front ns frames ∧
          Offends frames l f ∧ e = ⟨f, Position.before text.toList l.here⟩) ∨
      ∃ ns f frames, Partial (Lexemes.ofText text.toList).1 ns (f :: frames) ∧
        e = ⟨.unterminatedBlock (String.ofList f.directive.item),
          Position.before text.toList f.directive.here⟩ := by
  constructor
  · intro root
    rw [← Lexemes.toNode_eq_ok_iff h, Node.parse, mapError_eq_ok]
  · intro e
    rw [Node.parse]
    constructor
    · intro hr
      cases hn : (Lexemes.ofText text.toList).toNode with
      | ok root => rw [hn] at hr; cases hr
      | error f =>
        rw [hn] at hr
        cases hr
        rcases (Lexemes.toNode_eq_error_iff h).mp hn with
          ⟨front, l, behind, ns, frames, f, hls, hp, hf, rfl⟩ | ⟨ns, f, frames, hp, rfl⟩
        · exact .inl ⟨front, l, behind, ns, frames, f, hls, hp, hf, rfl⟩
        · exact .inr ⟨ns, f, frames, hp, rfl⟩
    · rintro (⟨front, l, behind, ns, frames, f, hls, hp, hf, rfl⟩ | ⟨ns, f, frames, hp, rfl⟩)
      · rw [(Lexemes.toNode_eq_error_iff h).mpr
          (.inl ⟨front, l, behind, ns, frames, f, hls, hp, hf, rfl⟩)]
        rfl
      · rw [(Lexemes.toNode_eq_error_iff h).mpr (.inr ⟨ns, f, frames, hp, rfl⟩)]
        rfl

theorem Node.parse_iff_blocks_begin :
    (Lexemes.ofText "/*BEGIN*/A/*END*/".toList).WellFormed ∧
      Node.parse "/*BEGIN*/A/*END*/" = .ok (.root [.optional [.text "A"]]) := by
  have hbegin : Verbatim.span (.code true) "/*BEGIN*/A/*END*/".toList =
      ([], .marker "/*BEGIN*/A/*END*/".toList "BEGIN".toList "A/*END*/".toList) := rfl
  have hend : Verbatim.span (.code false) "A/*END*/".toList =
      (['A'], .marker "/*END*/".toList "END".toList []) := rfl
  have hlexemes : Lexemes.ofText "/*BEGIN*/A/*END*/".toList =
      ([⟨"/*BEGIN*/A/*END*/".toList, .directive "BEGIN".toList (.opens .optional)⟩,
        ⟨"A/*END*/".toList, .sql ['A']⟩,
        ⟨"/*END*/".toList, .directive "END".toList .closes⟩], none) := by
    rw [Lexemes.ofText, Lexemes.scan_directive hbegin rfl, Lexemes.scan_directive hend rfl,
      Lexemes.scan_nil]
    rfl
  have hw : (Lexemes.ofText "/*BEGIN*/A/*END*/".toList).WellFormed := by
    rw [hlexemes]
    exact ⟨rfl, by simp⟩
  refine ⟨hw, ((Node.parse_iff_blocks _ hw).1 _).mpr ⟨_, rfl, ?_⟩⟩
  rw [hlexemes]
  have hblocks : Blocks false
      (⟨"/*BEGIN*/A/*END*/".toList, .directive "BEGIN".toList (.opens .optional)⟩ ::
        ([⟨"A/*END*/".toList, .sql ['A']⟩] ++
          [⟨"/*END*/".toList, .directive "END".toList .closes⟩]))
      [Block.optional.node [.text "A"]] := .block rfl (.sql .nil) rfl .nil
  exact hblocks

end SqlTemplate
