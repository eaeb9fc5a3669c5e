import SqlTemplate.Proofs.BlockReading
import SqlTemplate.Proofs.KeywordMarkers
import SqlTemplate.Proofs.Lookahead
import SqlTemplate.Proofs.TextPosition

namespace SqlTemplate

def IsElseLine (here : List Char) : Prop :=
  ∃ rest, here = '-' :: '-' :: rest ∧
    Text.trim (rest.takeWhile (!Verbatim.isLineEnd ·)) = "ELSE".toList

def Fault.At (here : List Char) : Fault → Prop
  | unterminatedComment => ['/', '*'] <+: here
  | unterminatedLiteral fragment => (here.head? = some '\'' ∨ here.head? = some '(') ∧
    fragment = String.ofList (here.take 20)
  | unterminatedBlock directive | outsideLoop directive => Lexeme.comment directive.toList <+: here
  | unexpectedEnd => Lexeme.comment "END".toList <+: here
  | misplacedElse | repeatedElse => Lexeme.comment "ELSE".toList <+: here ∨ IsElseLine here
  | malformedMarker body _ => Lexeme.comment body.toList <+: here
  | placeholderInText => ['?'] <+: here
  | placeholderInTestValue value => value.toList <+: here
  | invalidCondition source _ => ∃ argument, Piece.IsBody ("IF ".toList ++ argument) ∧
    Lexeme.comment ("IF ".toList ++ argument) <+: here ∧ Text.trim argument = source.toList

structure Fault.Found (text : List Char) (f : Placed Fault) : Prop where
  suffix : f.here <:+ text
  inside : f.here ≠ []
  at_here : f.item.At f.here

theorem map_eq_error {ε α β : Type} {f : α → β} {x : Except ε α} {e : ε} :
    x.map f = .error e ↔ x = .error e := by
  cases x <;> simp [Except.map]

theorem exists_of_mapError_eq_error {ε δ α : Type} {f : ε → δ} {x : Except ε α} {e : δ}
    (h : x.mapError f = .error e) : ∃ e', x = .error e' ∧ f e' = e := by
  cases x with
  | ok a => cases h
  | error e' =>
    cases h
    exact ⟨e', rfl, rfl⟩

namespace TestValue

def Opens (text here : List Char) : Prop :=
  here <:+ text ∧ (here.head? = some '\'' ∨ here.head? = some '(')

theorem Opens.found {text here : List Char} (h : Opens text here) :
    Fault.Found text (unterminated here) where
  suffix := h.1
  inside := by
    rintro rfl
    rcases h.2 with h | h <;> cases h
  at_here := ⟨h.2, rfl⟩

variable {text cs : List Char} (hcs : cs <:+ text)
include hcs

theorem opens_of_groupRest {start q : List Char} {depth : Nat} {quote : Option (List Char)}
    (hstart : Opens text start) (hquote : ∀ p, quote = some p → Opens text p)
    (h : groupRest start depth quote cs = .error q) : Opens text q := by
  -- What is blamed is where the group starts, or an open literal inside it.
  fun_induction groupRest start depth quote cs with
  | case1 depth quote =>
    cases h
    cases quote with
    | none => exact hstart
    | some p => exact hquote p rfl
  | case7 => cases h
  | case5 depth cs ih =>
    have hopened : Opens text ('\'' :: cs) := ⟨hcs, .inl rfl⟩
    apply ih ((List.suffix_cons _ _).trans hcs) _ (map_eq_error.mp h)
    rintro p hp
    cases hp
    exact hopened
  | case2 depth quote cs ih =>
    exact ih ((List.suffix_append [_, _] _).trans hcs) hquote (map_eq_error.mp h)
  | case4 depth quote c cs _ _ ih =>
    exact ih ((List.suffix_cons _ _).trans hcs) hquote (map_eq_error.mp h)
  | _ =>
    rename_i ih
    refine ih ((List.suffix_cons _ _).trans hcs) ?_ (map_eq_error.mp h)
    intro p hp
    cases hp

theorem found_of_span {f : Placed Fault} (h : span cs = .error f) : Fault.Found text f := by
  unfold span at h
  split at h
  · split at h
    · cases h
    · cases h
      exact Opens.found ⟨hcs, .inl rfl⟩
  · next rest =>
    obtain ⟨q, hq, rfl⟩ := exists_of_mapError_eq_error h
    have hopened : Opens text q := by
      apply opens_of_groupRest ((List.suffix_cons _ _).trans hcs) ⟨hcs, .inr rfl⟩ _
        (map_eq_error.mp hq)
      intro p hp
      cases hp
    exact hopened.found
  · cases h

theorem found_of_read {f : Placed Fault} (h : read cs = .error f) : Fault.Found text f := by
  rw [read] at h
  cases hs : span cs with
  | error e =>
    rw [hs] at h
    cases h
    exact found_of_span hcs hs
  | ok r =>
    obtain ⟨value, rest⟩ := r
    simp only [hs, bind, Except.bind] at h
    split at h
    · next hmark =>
      cases h
      obtain ⟨rfl, -⟩ := span_eq_ok hs
      refine ⟨hcs, ?_, ?_⟩
      · intro hnil
        obtain ⟨rfl, -⟩ := List.append_eq_nil_iff.mp hnil
        cases hmark
      · simp [Fault.At]
    · cases h

end TestValue

namespace Verbatim

def Mode.StartsIn (text : List Char) : Mode → Prop
  | literal start => TestValue.Opens text start
  | comment start => start <:+ text ∧ ['/', '*'] <+: start
  | _ => True

def Stop.FoundIn (text : List Char) : Stop → Prop
  | failed f => Fault.Found text f
  | lineElse here _ _ => here <:+ text ∧ IsElseLine here
  | _ => True

theorem span_found {text : List Char} {mode : Mode} {cs : List Char} (hcs : cs <:+ text)
    (hmode : mode.StartsIn text) : (span mode cs).2.FoundIn text := by
  -- The text behind each character read is a suffix too, and so is what the mode remembers.
  fun_induction span mode cs with
  | case1 blank cs here hp ih =>
    exact ih ((List.suffix_append [_, _] _).trans hcs) ⟨hcs, cs, rfl⟩
  | case2 => trivial
  | case3 blank cs here =>
    exact ⟨hcs, by simp [here], cs, rfl⟩
  | case4 blank cs ih => exact ih ((List.suffix_cons _ _).trans hcs) ⟨hcs, .inl rfl⟩
  | case5 blank cs comment helse =>
    refine ⟨hcs, cs, rfl, ?_⟩
    simpa [saysElse] using (Bool.and_eq_true_iff.mp helse).2
  | case6 blank cs comment _ ih => exact ih ((List.suffix_append [_, _] _).trans hcs) trivial
  | case7 blank cs => exact ⟨hcs, by simp, cs, rfl⟩
  | case8 blank c cs _ _ _ _ ih => exact ih ((List.suffix_cons _ _).trans hcs) trivial
  | case9 start cs ih => exact ih ((List.suffix_append [_, _] _).trans hcs) hmode
  | case10 start cs _ ih => exact ih ((List.suffix_cons _ _).trans hcs) trivial
  | case11 start c cs _ _ ih => exact ih ((List.suffix_cons _ _).trans hcs) hmode
  | case12 start => exact hmode.found
  | case13 start cs ih => exact ih ((List.suffix_append [_, _] _).trans hcs) trivial
  | case14 start c cs _ ih => exact ih ((List.suffix_cons _ _).trans hcs) hmode
  | case15 start =>
    obtain ⟨hstart, hopens⟩ := hmode
    refine ⟨hstart, ?_, hopens⟩
    rintro rfl
    cases List.prefix_nil.mp hopens
  | case16 c cs ih =>
    apply ih ((List.suffix_cons _ _).trans hcs)
    split <;> trivial
  | case17 => trivial

end Verbatim

namespace Marker

/-- What can come of a comment. Only a keyword alone is a directive that opens no block and gives
no text between the turns of a loop, and only a test can have a condition that cannot be read. -/
inductive Says (body : List Char) : Except MarkerError Marker → Prop
  | keyword {d} (h : keyword? (String.ofList body) = some d) : Says body (.ok (.directive d))
  | opens (b : Block) : Says body (.ok (.directive (.opens b)))
  | next (sql : Option String) : Says body (.ok (.directive (.next sql)))
  | slot (embedded : Bool) (path : Path) (options : Options) :
    Says body (.ok (.slot embedded path options))
  | malformed (reason : Malformed) : Says body (.error (.malformed reason))
  | condition {argument source e} (hbody : body = "IF ".toList ++ argument)
    (hsource : Text.trim argument = source.toList) : Says body (.error (.condition source e))

theorem says_parseTest {body rest : List Char} (h : body = "IF ".toList ++ rest) :
    Says body ((parseTest (Text.trim rest)).map .directive) := by
  rw [parseTest]
  cases Condition.parse (String.ofList (Text.trim rest)) with
  | ok expr => exact .opens _
  | error e => exact .condition h String.toList_ofList.symm

theorem says_parseLoop (body argument : List Char) :
    Says body ((parseLoop argument).map .directive) := by
  rw [parseLoop.eq_def]
  split
  split
  · exact .malformed _
  · split
    · exact .opens _
    · exact .malformed _

theorem says_parseVariable (body : List Char) (embedded : Bool) (text : List Char) :
    Says body (parseVariable embedded text) := by
  rw [parseVariable.eq_def]
  split
  split
  · exact .malformed _
  · split
    · exact .malformed _
    · split
      · exact .malformed _
      · exact .slot _ _ _

theorem says_parse (body : List Char) : Says body (parse body) := by
  rw [parse.eq_def]
  dsimp only
  split
  · next d hd => exact .keyword hd
  · split
    · exact .malformed _
    · split
      · next hargument =>
        obtain ⟨rest, hbody, rfl⟩ := argument?_eq_some_iff.mp hargument
        exact says_parseTest hbody
      · exact says_parseLoop body _
      · exact .next _
      · split <;> exact says_parseVariable _ _ _

theorem eq_of_keyword? {d : Directive} {text : String} (h : keyword? text = some d) :
    (d = .closes → text = "END") ∧ (d = .otherwise → text = "ELSE") := by
  have hmem := mem_of_lookup h
  simp only [List.mem_cons, List.not_mem_nil, or_false, Prod.mk.injEq] at hmem
  rcases hmem with ⟨rfl, rfl⟩ | ⟨rfl, rfl⟩ | ⟨rfl, rfl⟩ | ⟨rfl, rfl⟩ | ⟨rfl, rfl⟩ <;> simp

theorem body_of_parse {body : List Char} {d : Directive} (h : parse body = .ok (.directive d)) :
    (d = .closes → body = "END".toList) ∧ (d = .otherwise → body = "ELSE".toList) := by
  have hsays := says_parse body
  rw [h] at hsays
  cases hsays with
  | keyword hd =>
    obtain ⟨hcloses, hotherwise⟩ := eq_of_keyword? hd
    exact ⟨fun he => by rw [← hcloses he, String.toList_ofList],
      fun he => by rw [← hotherwise he, String.toList_ofList]⟩
  | opens b => simp
  | next sql => simp

theorem at_of_parse_error {body here : List Char} (hbody : Piece.IsBody body)
    (hhere : Lexeme.comment body <+: here) {e : MarkerError} (h : parse body = .error e) :
    (e.fault body).At here := by
  have hsays := says_parse body
  rw [h] at hsays
  cases hsays with
  | malformed reason => simpa [MarkerError.fault, Fault.At] using hhere
  | condition hif hsource =>
    subst hif
    exact ⟨_, hbody, hhere, hsource⟩

end Marker

def Lexeme.At (here : List Char) : Lexeme → Prop
  | lineElse _ => IsElseLine here
  | directive body d => Marker.parse body = .ok (.directive d) ∧ comment body <+: here
  | _ => True

namespace Lexemes

structure FoundIn (text : List Char) (ls : Lexemes) : Prop where
  lexeme : ∀ l ∈ ls.1, l.here <:+ text ∧ l.item.At l.here
  fault : ∀ f, ls.2 = some f → Fault.Found text f

namespace FoundIn

variable {text : List Char}

theorem ended : FoundIn text ([], none) := ⟨by simp, by simp⟩

theorem fail {f : Placed Fault} (h : Fault.Found text f) : FoundIn text (fail f) := by
  refine ⟨by simp [Lexemes.fail], ?_⟩
  rintro f' hf
  cases hf
  exact h

theorem push {here : List Char} {l : Lexeme} {ls : Lexemes} (hhere : here <:+ text)
    (hl : l.At here) (h : FoundIn text ls) : FoundIn text (push here l ls) :=
  ⟨List.forall_mem_cons.mpr ⟨⟨hhere, hl⟩, h.lexeme⟩, h.fault⟩

theorem pushSql {here sql : List Char} {ls : Lexemes} (hhere : here <:+ text)
    (h : FoundIn text ls) : FoundIn text (pushSql here sql ls) := by
  rw [Lexemes.pushSql]
  split
  · exact h
  · exact push (l := .sql sql) hhere trivial h

end FoundIn

theorem scan_found {text : List Char} {blank : Bool} {cs : List Char} (hcs : cs <:+ text) :
    FoundIn text (scan blank cs) := by
  have hstop : ∀ {blank cs sql stop}, cs <:+ text → Verbatim.span (.code blank) cs = (sql, stop) →
      stop.FoundIn text := by
    intro blank cs sql stop hcs hs
    have hfound : (Verbatim.span (.code blank) cs).2.FoundIn text :=
      Verbatim.span_found hcs trivial
    rwa [hs] at hfound
  fun_induction scan blank cs with
  | case1 => exact .ended
  | case2 blank cs _ sql hs => exact .pushSql hcs .ended
  | case3 blank cs _ sql f hs => exact .fail (hstop hcs hs)
  | case4 blank cs _ sql here comment rest hs ih =>
    obtain ⟨hhere, helse⟩ := hstop hcs hs
    have hrest : rest <:+ cs := by
      rw [(Verbatim.reads_of_span hs).1, ← List.append_assoc]
      exact List.suffix_append _ _
    exact .pushSql hcs (.push (l := .lineElse comment) hhere helse (ih (hrest.trans hcs)))
  | case5 blank cs _ sql here body rest hs ihd ihs =>
    obtain ⟨heq, hbody⟩ := Verbatim.reads_of_span hs
    have hstart := Verbatim.eq_comment_of_marker (congrArg Prod.snd hs)
    have hhere : here <:+ text := by
      rw [← hstart] at heq
      exact List.IsSuffix.trans ⟨sql, heq.symm⟩ hcs
    have hcomment : Lexeme.comment body <+: here := ⟨rest, hstart.symm⟩
    have hrest : rest <:+ text := List.IsSuffix.trans ⟨_, hstart.symm⟩ hhere
    apply FoundIn.pushSql hcs
    split
    · next e hm =>
      refine .fail ⟨hhere, ?_, Marker.at_of_parse_error hbody hcomment hm⟩
      rintro rfl
      cases hstart
    · next d hm => exact .push (l := .directive body d) hhere ⟨hm, hcomment⟩ (ihd hrest)
    · next embedded path options hm =>
      split
      · next f hr => exact .fail (TestValue.found_of_read hrest hr)
      · next value behind hr =>
        obtain ⟨hspan, -⟩ := TestValue.read_eq_ok hr
        obtain ⟨rfl, -⟩ := TestValue.span_eq_ok hspan
        have hbehind : behind <:+ text := (List.suffix_append _ _).trans hrest
        exact .push (l := .slot body embedded _) hhere trivial (ihs _ _ hr hbehind)

end Lexemes

namespace Outline

theorem fault_of_otherwise {o : Outline} {f : Fault} (h : o.otherwise = .error f) :
    f = .misplacedElse ∨ f = .repeatedElse := by
  rw [otherwise] at h
  split at h
  · cases h
  · cases h
    exact .inr rfl
  · cases h
    exact .inl rfl

theorem fault_of_close {o : Outline} {f : Fault} (h : o.close = .error f) : f = .unexpectedEnd := by
  rw [close] at h
  split at h
  · cases h
  · cases h
    rfl

theorem at_of_next {o : Outline} {here body : List Char} (hhere : Lexeme.comment body <+: here)
    {sql : Option String} {f : Fault} (h : o.next body sql = .error f) : f.At here := by
  rw [Outline.next.eq_def] at h
  split at h
  · cases h
    simpa [Fault.At] using hhere
  · split at h
    · cases h
    · cases h
      simpa [Fault.At] using hhere

theorem at_of_otherwise {o : Outline} {here : List Char}
    (hhere : Lexeme.comment "ELSE".toList <+: here ∨ IsElseLine here) {f : Fault}
    (h : o.otherwise = .error f) : f.At here := by
  rcases fault_of_otherwise h with rfl | rfl <;> exact hhere

theorem at_of_read {o : Outline} {l : Placed Lexeme} {f : Fault} (h : o.read l = .error f)
    (hl : l.item.At l.here) : f.At l.here := by
  obtain ⟨here, item⟩ := l
  cases item with
  | sql text => cases h
  | lineElse comment => exact at_of_otherwise (.inr hl) h
  | slot body embedded v => cases embedded <;> cases h
  | directive body d =>
    obtain ⟨hm, hhere⟩ := hl
    obtain ⟨hcloses, hotherwise⟩ := Marker.body_of_parse hm
    cases d with
    | closes =>
      rw [hcloses rfl] at hhere
      rw [fault_of_close h]
      exact hhere
    | otherwise =>
      rw [hotherwise rfl] at hhere
      exact at_of_otherwise (.inl hhere) h
    | next sql => exact at_of_next hhere h
    | opens b =>
      rw [Outline.read] at h
      dsimp only at h
      split at h
      · cases h
        simpa [Fault.At] using hhere
      · cases h

end Outline

theorem Partial.mem_of_mem_frames {ls : List (Placed Lexeme)} {ns : List Node} {frames : List Frame}
    (h : Partial ls ns frames) : ∀ f ∈ frames,
      ∃ b, ⟨f.directive.here, .directive f.directive.item (.opens b)⟩ ∈ ls := by
  induction h with
  | top blocks => simp
  | @block ls before frames here body b content ns front allowed inner ih =>
    intro f hf
    rcases List.mem_cons.mp hf with rfl | hf
    · exact ⟨b, by simp⟩
    · obtain ⟨b, hb⟩ := ih f hf
      exact ⟨b, List.mem_append_left _ hb⟩
  | @elsePart ls children t d before frames l content ns front helse inner ih =>
    have hframes : ∀ f ∈ (⟨.elsePart t children, d, before⟩ :: frames : List Frame),
        ∃ b, ⟨f.directive.here, .directive f.directive.item (.opens b)⟩ ∈ ls := by
      rw [List.forall_mem_cons] at ih ⊢
      exact ih
    intro f hf
    obtain ⟨b, hb⟩ := hframes f hf
    exact ⟨b, List.mem_append_left _ hb⟩

theorem Lexeme.At.ne_nil {l : Lexeme} {here : List Char} (h : l.At here) {o : Outline} {f : Fault}
    (hf : o.read ⟨here, l⟩ = .error f) : here ≠ [] := by
  rintro rfl
  cases l with
  | sql text => cases hf
  | lineElse comment =>
    obtain ⟨rest, hrest, -⟩ := h
    cases hrest
  | directive body d => cases List.prefix_nil.mp h.2
  | slot body embedded v => cases embedded <;> cases hf

namespace Lexemes

theorem FoundIn.outline {text : List Char} {ls : Lexemes} (h : ls.FoundIn text) {f : Placed Fault}
    (he : ls.outline = .error f) : Fault.Found text f := by
  obtain ⟨front, l, behind, o, fault, hls, -, hread, rfl⟩ := Outline.run_eq_error_iff.mp he
  obtain ⟨hhere, hl⟩ := h.lexeme l (by simp [hls])
  exact ⟨hhere, hl.ne_nil hread, Outline.at_of_read hread hl⟩

theorem FoundIn.finish {text : List Char} {ls : Lexemes} (h : ls.FoundIn text) {o : Outline}
    (ho : ls.outline = .ok o) {f : Placed Fault} (he : o.finish = .error f) :
    Fault.Found text f := by
  obtain ⟨ns, frames⟩ := o
  cases frames with
  | nil => cases he
  | cons frame frames =>
    cases he
    obtain ⟨b, hmem⟩ := (Partial.run_iff.mp ho).mem_of_mem_frames frame List.mem_cons_self
    obtain ⟨hhere, -, hprefix⟩ := h.lexeme _ hmem
    refine ⟨hhere, ?_, by simpa [Fault.At] using hprefix⟩
    intro hnil
    rw [hnil] at hprefix
    cases List.prefix_nil.mp hprefix

theorem FoundIn.toNode {text : List Char} {ls : Lexemes} (h : ls.FoundIn text) {f : Placed Fault}
    (he : ls.toNode = .error f) : Fault.Found text f := by
  rw [Lexemes.toNode] at he
  cases ho : ls.outline with
  | error e =>
    rw [ho] at he
    cases he
    exact h.outline ho
  | ok o =>
    simp only [ho, bind, Except.bind] at he
    split at he
    · next hfault =>
      cases he
      exact h.fault _ hfault
    · exact h.finish ho he

end Lexemes

theorem Node.parse_error_at {text : String} {e : SyntaxError} (h : Node.parse text = .error e) :
    ∃ front here : String, text = front ++ here ∧ here ≠ "" ∧
      e.position.offset = front.utf8ByteSize ∧
      e.position = Position.locate text front.utf8ByteSize ∧ e.fault.At here.toList := by
  obtain ⟨f, hn, rfl⟩ := exists_of_mapError_eq_error h
  have hls : (Lexemes.ofText text.toList).FoundIn text.toList :=
    Lexemes.scan_found (List.suffix_refl _)
  obtain ⟨⟨front, hfront⟩, hinside, hat⟩ := hls.toNode hn
  have htext : text = String.ofList front ++ String.ofList f.here := by
    rw [← String.ofList_append, hfront, String.ofList_toList]
  refine ⟨String.ofList front, String.ofList f.here, htext, by simpa using hinside, ?_, ?_, ?_⟩
  · dsimp only
    rw [← hfront, Position.before_append, Position.offset_foldl_advance]
    simp [Position.start]
  · dsimp only
    rw [htext, Position.locate_append, String.toList_ofList]
  · rw [String.toList_ofList]
    exact hat

theorem Node.parse_error_at_umlaut :
    Node.parse "Ü/*IF*/" = .error ⟨.malformedMarker "IF" .missingArgument, ⟨2, 1, 2⟩⟩ ∧
      ∃ front here : String, "Ü/*IF*/" = front ++ here ∧ here ≠ "" ∧ 2 = front.utf8ByteSize ∧
        ⟨2, 1, 2⟩ = Position.locate "Ü/*IF*/" front.utf8ByteSize ∧
        (Fault.malformedMarker "IF" .missingArgument).At here.toList := by
  have hspan : Verbatim.span (.code true) "Ü/*IF*/".toList =
      (['Ü'], .marker "/*IF*/".toList "IF".toList []) := rfl
  have hmissing : Marker.parse "IF".toList = .error (.malformed .missingArgument) := rfl
  have h : Node.parse "Ü/*IF*/" =
      .error ⟨.malformedMarker "IF" .missingArgument, ⟨2, 1, 2⟩⟩ := by
    rw [Node.parse, Lexemes.ofText, Lexemes.scan_marker hspan, hmissing]
    rfl
  exact ⟨h, Node.parse_error_at h⟩

end SqlTemplate
