import SqlTemplate.Proofs.KeywordMarkers
import SqlTemplate.Proofs.TestValueGrammar

namespace SqlTemplate

open Sql (doubleQuotes quote)

namespace Marker

theorem singleQuotes_doubleQuotes (cs : List Char) : singleQuotes (doubleQuotes cs) = cs := by
  induction cs with
  | nil => rfl
  | cons c cs ih =>
    by_cases hc : c = '\''
    · subst hc
      rw [doubleQuotes, if_pos rfl, singleQuotes, ih]
    · rw [doubleQuotes, if_neg hc, singleQuotes, ih]
      intro ds hquote
      exact absurd hquote hc

theorem unquote?_eq_some_iff {word : List Char} {sql : String} :
    unquote? word = some sql ↔
      ∃ inner, word = '\'' :: (inner ++ ['\'']) ∧ sql = String.ofList (singleQuotes inner) := by
  constructor
  · intro h
    rw [unquote?.eq_def] at h
    split at h
    · next cs =>
      split at h
      · next hlast =>
        cases h
        obtain ⟨inner, rfl⟩ := List.getLast?_eq_some_iff.mp hlast
        exact ⟨inner, rfl, by rw [List.dropLast_concat]⟩
      · cases h
    · cases h
  · rintro ⟨inner, rfl, rfl⟩
    simp [unquote?]

theorem unquote?_quote (s : String) : unquote? (quote s).toList = some s := by
  apply unquote?_eq_some_iff.mpr
  refine ⟨doubleQuotes s.toList, TestValue.quote_eq s, ?_⟩
  rw [singleQuotes_doubleQuotes, String.ofList_toList]

theorem parse_nextArgument (argument : List Char) : parse ("NEXT ".toList ++ argument) =
    .ok (.directive (.next (unquote? (Text.trim argument)))) :=
  parse_argument (k := "NEXT") (by decide) argument

end Marker

namespace Outline

theorem read_unquoted {frames : List Frame} (h : Frame.inLoop frames = true)
    (here body : List Char) (before : List Node) :
    (Outline.mk before frames).read ⟨here, .directive body (.next none)⟩ =
      .error (.malformedMarker (String.ofList body) .unquotedNext) := by
  have hi : (Outline.mk before frames).inLoop = true := h
  simp [Outline.read, Outline.next, hi]

end Outline

theorem Partial.append_singleton_iff {front : List (Placed Lexeme)} {nodes : List Node}
    {frames : List Frame} (h : Partial front nodes frames) (l : Placed Lexeme) (ns : List Node)
    (fs : List Frame) :
    Partial (front ++ [l]) ns fs ↔ (Outline.mk nodes frames).read l = .ok ⟨ns, fs⟩ := by
  constructor
  · intro hmore
    obtain ⟨o, ho, hl⟩ := Outline.run_append_singleton hmore.run
    rw [h.run] at ho
    cases ho
    exact hl
  · intro hl
    exact Partial.read h hl

section Argument
variable {front : List (Placed Lexeme)} {nodes : List Node} {frames : List Frame}
  (hfront : Partial front nodes frames) (hloop : Frame.inLoop frames = true)
include hfront hloop

theorem Partial.next_iff (here body : List Char) (sql : Option String) (ns : List Node)
    (fs : List Frame) :
    Partial (front ++ [⟨here, .directive body (.next sql)⟩]) ns fs ↔
      fs = frames ∧ ∃ t, sql = some t ∧ ns = nodes ++ [.next t] := by
  rw [hfront.append_singleton_iff]
  cases sql with
  | none =>
    rw [Outline.read_unquoted hloop]
    constructor
    · intro h
      cases h
    · rintro ⟨-, t, h, -⟩
      cases h
  | some sql =>
    rw [Outline.read_next hloop]
    constructor
    · intro h
      cases h
      exact ⟨rfl, sql, rfl, rfl⟩
    · rintro ⟨rfl, t, ⟨⟩, rfl⟩
      rfl

end Argument

theorem Lexemes.eq_next {cs argument : List Char} {l : Placed Lexeme} {d : Directive}
    (hl : l ∈ (ofText cs).1) (hitem : l.item = .directive ("NEXT ".toList ++ argument) d) :
    d = .next (Marker.unquote? (Text.trim argument)) := by
  have hvalid := (scan_covers true cs).2 l hl
  rw [hitem] at hvalid
  have hparse := hvalid.2
  rw [Marker.parse_nextArgument] at hparse
  cases hparse
  rfl

theorem Node.parse_of_offends {text : String} {front behind : List (Placed Lexeme)}
    {l : Placed Lexeme} {nodes : List Node} {frames : List Frame} {f : Fault}
    (htext : (Lexemes.ofText text.toList).1 = front ++ l :: behind)
    (hfront : Partial front nodes frames) (hl : (Outline.mk nodes frames).read l = .error f) :
    Node.parse text = .error ⟨f, Position.before text.toList l.here⟩ := by
  have houtline : (Lexemes.ofText text.toList).outline = .error ⟨l.here, f⟩ :=
    Outline.run_eq_error_iff.mpr ⟨front, l, behind, ⟨nodes, frames⟩, f, htext, hfront.run, hl, rfl⟩
  rw [Node.parse, Lexemes.toNode, houtline]
  rfl

/-- In a loop the marker takes what starts with a quote and ends with another one, a literal or not,
and else it is the fault of the template. Of a literal it takes what the literal says. -/
theorem Node.parse_next {text : String} {front behind : List (Placed Lexeme)} {l : Placed Lexeme}
    {argument : List Char} {d : Directive} {nodes : List Node} {frames : List Frame}
    (htext : (Lexemes.ofText text.toList).1 = front ++ l :: behind)
    (hl : l.item = .directive ("NEXT ".toList ++ argument) d)
    (hfront : Partial front nodes frames) (hloop : Frame.inLoop frames = true) :
    (∀ ns fs, Partial (front ++ [l]) ns fs ↔ fs = frames ∧ ∃ inner,
      Text.trim argument = '\'' :: (inner ++ ['\'']) ∧
        ns = nodes ++ [.next (String.ofList (Marker.singleQuotes inner))]) ∧
    ((∀ inner, Text.trim argument ≠ '\'' :: (inner ++ ['\''])) → Node.parse text =
      .error ⟨.malformedMarker (String.ofList ("NEXT ".toList ++ argument)) .unquotedNext,
        Position.before text.toList l.here⟩) ∧
    ∀ t, Text.trim argument = (quote t).toList → ∀ ns fs,
      Partial (front ++ [l]) ns fs ↔ fs = frames ∧ ns = nodes ++ [.next t] := by
  have hmem : l ∈ (Lexemes.ofText text.toList).1 := by simp [htext]
  obtain rfl := Lexemes.eq_next hmem hl
  obtain ⟨here, item⟩ := l
  subst hl
  have hread := hfront.next_iff hloop here ("NEXT ".toList ++ argument)
    (Marker.unquote? (Text.trim argument))
  refine ⟨?_, ?_, ?_⟩
  · intro ns fs
    rw [hread]
    simp only [Marker.unquote?_eq_some_iff]
    constructor
    · rintro ⟨hfs, t, ⟨inner, hinner, rfl⟩, hns⟩
      exact ⟨hfs, inner, hinner, hns⟩
    · rintro ⟨hfs, inner, hinner, hns⟩
      exact ⟨hfs, _, ⟨inner, hinner, rfl⟩, hns⟩
  · intro hinner
    have hnone : Marker.unquote? (Text.trim argument) = none := by
      rw [Option.eq_none_iff_forall_ne_some]
      intro t ht
      obtain ⟨inner, heq, -⟩ := Marker.unquote?_eq_some_iff.mp ht
      exact hinner inner heq
    apply Node.parse_of_offends htext hfront
    rw [hnone]
    exact Outline.read_unquoted hloop here _ nodes
  · intro t ht ns fs
    rw [hread, ht, Marker.unquote?_quote]
    simp

def choiceLoopText : String := "/*FOR pmb.ids*//*NEXT 'a' OR 'b'*/X/*END*/"

def choiceLoop : Block := .loop "#current" ⟨"pmb", [.property "ids"]⟩

def choiceLoopOpens : Placed Lexeme :=
  ⟨choiceLoopText.toList, .directive "FOR pmb.ids".toList (.opens choiceLoop)⟩

def choiceLoopNext : Placed Lexeme :=
  ⟨"/*NEXT 'a' OR 'b'*/X/*END*/".toList,
    .directive "NEXT 'a' OR 'b'".toList (.next (some "a' OR 'b"))⟩

def choiceLoopFrame : Frame :=
  ⟨.block choiceLoop, ⟨choiceLoopText.toList, "FOR pmb.ids".toList⟩, []⟩

theorem ofText_choiceLoopText : Lexemes.ofText choiceLoopText.toList =
    ([choiceLoopOpens, choiceLoopNext, ⟨"X/*END*/".toList, .sql ['X']⟩,
      ⟨"/*END*/".toList, .directive "END".toList .closes⟩], none) := by
  have hloop : Verbatim.span (.code true) choiceLoopText.toList =
      ([], .marker choiceLoopText.toList "FOR pmb.ids".toList
        "/*NEXT 'a' OR 'b'*/X/*END*/".toList) := rfl
  have hnext : Verbatim.span (.code false) "/*NEXT 'a' OR 'b'*/X/*END*/".toList =
      ([], .marker "/*NEXT 'a' OR 'b'*/X/*END*/".toList "NEXT 'a' OR 'b'".toList
        "X/*END*/".toList) := rfl
  have hend : Verbatim.span (.code false) "X/*END*/".toList =
      (['X'], .marker "/*END*/".toList "END".toList []) := rfl
  have hmarker : Marker.parse "FOR pmb.ids".toList = .ok (.directive (.opens choiceLoop)) := rfl
  have hargument : Marker.parse "NEXT 'a' OR 'b'".toList =
      .ok (.directive (.next (some "a' OR 'b"))) := rfl
  rw [Lexemes.ofText, Lexemes.scan_directive hloop hmarker, Lexemes.scan_directive hnext hargument,
    Lexemes.scan_directive hend rfl, Lexemes.scan_nil]
  rfl

theorem Node.parse_next_choice :
    (Partial [choiceLoopOpens] [] [choiceLoopFrame] ∧ Frame.inLoop [choiceLoopFrame] = true) ∧
      Partial [choiceLoopOpens, choiceLoopNext] [.next "a' OR 'b"] [choiceLoopFrame] := by
  have hfront : Partial [choiceLoopOpens] [] [choiceLoopFrame] :=
    Partial.block (.top .nil) rfl .nil
  have htext : (Lexemes.ofText choiceLoopText.toList).1 = [choiceLoopOpens] ++ choiceLoopNext ::
      [⟨"X/*END*/".toList, .sql ['X']⟩, ⟨"/*END*/".toList, .directive "END".toList .closes⟩] := by
    rw [ofText_choiceLoopText]
    rfl
  have hitem : choiceLoopNext.item = .directive ("NEXT ".toList ++ "'a' OR 'b'".toList)
      (.next (some "a' OR 'b")) := rfl
  refine ⟨⟨hfront, rfl⟩, ?_⟩
  have hread := (Node.parse_next htext hitem hfront rfl).1
  exact (hread [.next "a' OR 'b"] [choiceLoopFrame]).mpr ⟨rfl, "a' OR 'b".toList, rfl, rfl⟩

theorem Node.parse_next_notLiteral :
    Node.parse choiceLoopText = .ok (.root [choiceLoop.node [.next "a' OR 'b", .text "X"]]) ∧
      ¬TestValue.IsLiteral (Text.trim "'a' OR 'b'".toList) := by
  constructor
  · rw [Node.parse, ofText_choiceLoopText]
    rfl
  · rw [TestValue.isLiteral_iff]
    rintro ⟨-, hread⟩
    have hfirst : TestValue.read (Text.trim "'a' OR 'b'".toList) =
        .ok ("'a'".toList, " OR 'b'".toList) := rfl
    rw [hfirst] at hread
    cases hread

end SqlTemplate
