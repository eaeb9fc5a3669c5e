import Mathlib.Data.List.Forall2
import SqlTemplate.Proofs.Piece
import SqlTemplate.Proofs.TemplateTexts

namespace SqlTemplate

namespace Node

def slot? : Node → Option (Bool × Variable)
  | bind v => some (false, v)
  | embed v => some (true, v)
  | _ => none

def slots (n : Node) : List (Bool × Variable) := n.leaves.filterMap slot?

end Node

namespace Lexemes

def pieces (ls : List (Placed Lexeme)) : List Piece := ls.flatMap fun l => l.item.pieces

theorem source_pieces (ls : List (Placed Lexeme)) :
    Piece.source (pieces ls) = ls.flatMap fun l => l.item.source := by
  rw [Piece.source, pieces, List.flatMap_assoc]
  exact List.flatMap_congr fun l _ => l.item.source_pieces

theorem texts_pieces (ls : List (Placed Lexeme)) :
    Piece.texts (pieces ls) = (ls.filterMap fun l => l.item.leaf?).filterMap Node.text? := by
  induction ls with
  | nil => rfl
  | cons l ls ih =>
    obtain ⟨here, item⟩ := l
    cases item with
    | sql text => exact congrArg (String.ofList text :: ·) ih
    | lineElse comment => exact ih
    | directive body d =>
      cases d with
      | next text => cases text <;> exact ih
      | _ => exact ih
    | slot body embedded v => cases embedded <;> exact ih

theorem slots_pieces {ls : List (Placed Lexeme)} (h : ∀ l ∈ ls, l.item.Valid) :
    ∃ slots, Piece.slots? (pieces ls) = some slots ∧
      List.Forall₂ Piece.Spells slots
        ((ls.filterMap fun l => l.item.leaf?).filterMap Node.slot?) := by
  induction ls with
  | nil => exact ⟨[], rfl, .nil⟩
  | cons l ls ih =>
    obtain ⟨hl, hls⟩ := List.forall_mem_cons.mp h
    obtain ⟨slots, heq, hslots⟩ := ih hls
    obtain ⟨here, item⟩ := l
    cases item with
    | slot body embedded v =>
      refine ⟨_ :: slots, congrArg (Option.map _) heq, ?_⟩
      cases embedded <;> exact .cons hl.2.1 hslots
    | directive body d =>
      refine ⟨slots, heq, ?_⟩
      cases d with
      | next text => cases text <;> exact hslots
      | _ => exact hslots
    | _ => exact ⟨slots, heq, hslots⟩

end Lexemes

/-- Nothing of the text of a template is lost, doubled or moved on the way into its tree. -/
theorem Node.parse_pieces {text : String} {root : Node} (h : Node.parse text = .ok root) :
    ∃ pieces : List Piece, Piece.source pieces = text.toList ∧ (∀ p ∈ pieces, p.Valid) ∧
      Piece.texts pieces = root.texts ∧
      ∃ slots, Piece.slots? pieces = some slots ∧ List.Forall₂ Piece.Spells slots root.slots := by
  obtain ⟨ns, rfl, hnone, hblocks⟩ := Node.blocks_of_parse h
  obtain ⟨hsource, hvalid⟩ := Lexemes.scan_covers true text.toList
  refine ⟨Lexemes.pieces (Lexemes.ofText text.toList).1, ?_, ?_, ?_, ?_⟩
  · rw [Lexemes.source_pieces]
    exact hsource hnone
  · intro p hp
    obtain ⟨l, hl, hp⟩ := List.mem_flatMap.mp hp
    exact (hvalid l hl).pieces p hp
  · rw [Lexemes.texts_pieces, Node.texts, Node.leaves, hblocks.leaves_eq]
  · rw [Node.slots, Node.leaves, hblocks.leaves_eq]
    exact Lexemes.slots_pieces hvalid

theorem Node.parse_pieces_choice :
    Node.parse choiceText = .ok choice ∧
      ∃ pieces : List Piece, Piece.source pieces = choiceText.toList ∧
        (∀ p ∈ pieces, p.Valid) ∧ Piece.texts pieces = ["'?'", "A\n", "\n"] ∧
        ∃ body, Piece.slots? pieces = some [(body, "(1)".toList)] := by
  obtain ⟨pieces, hsource, hvalid, htexts, slots, hslots, hspells⟩ :=
    Node.parse_pieces parse_choiceText
  rw [Node.slots, leaves_choice] at hspells
  obtain ⟨⟨body, value⟩, _, hslot, hnil, rfl⟩ := List.forall₂_cons_right_iff.mp hspells
  have hvalue : value = "(1)".toList := hslot.testValue.symm
  rw [List.forall₂_nil_right_iff.mp hnil, hvalue] at hslots
  exact ⟨parse_choiceText, pieces, hsource, hvalid, htexts.trans texts_choice, body, hslots⟩

end SqlTemplate
