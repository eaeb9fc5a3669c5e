import Mathlib.Data.List.DropRight
import SqlTemplate.Proofs.BlockGrammar
import SqlTemplate.Proofs.Lookahead
import SqlTemplate.Proofs.TemplateTexts
import SqlTemplate.Proofs.TestValueGrammar

namespace SqlTemplate

namespace Verbatim

/-- Whether the line that the text ends in is blank, if `blank` says so of what stands in front. -/
def endsBlank (blank : Bool) (cs : List Char) : Bool :=
  cs.foldl (fun blank c => isLineEnd c || (blank && Text.isBlank c)) blank

theorem endsBlank_append (blank : Bool) (cs ds : List Char) :
    endsBlank blank (cs ++ ds) = endsBlank (endsBlank blank cs) ds := by
  rw [endsBlank, List.foldl_append, endsBlank, endsBlank]

theorem isLineEnd_of_not_isBlank {c : Char} (h : Text.isBlank c = false) : isLineEnd c = false := by
  rw [isLineEnd, decide_eq_false_iff_not]
  rintro rfl
  revert h
  decide

theorem endsBlank_cons {c : Char} (h : Text.isBlank c = false) (blank : Bool) (cs : List Char) :
    endsBlank blank (c :: cs) = endsBlank false cs := by
  have hflag : (isLineEnd c || (blank && Text.isBlank c)) = false := by
    rw [isLineEnd_of_not_isBlank h, h, Bool.and_false, Bool.or_false]
  rw [endsBlank, List.foldl_cons, hflag, endsBlank]

theorem endsBlank_concat {c : Char} (h : Text.isBlank c = false) (blank : Bool) (cs : List Char) :
    endsBlank blank (cs ++ [c]) = false := by
  rw [endsBlank_append, endsBlank_cons h]
  rfl

theorem endsBlank_line {cs : List Char} (h : '\n' ∉ cs) : endsBlank false cs = false := by
  induction cs with
  | nil => rfl
  | cons c cs ih =>
    rw [List.mem_cons, not_or] at h
    have hc : isLineEnd c = false := by simpa [isLineEnd] using Ne.symm h.1
    have hflag : (isLineEnd c || (false && Text.isBlank c)) = false := by
      rw [hc, Bool.false_and, Bool.or_false]
    rw [endsBlank, List.foldl_cons, hflag]
    exact ih h.2

theorem mem_of_endsBlank {cs : List Char} (h : endsBlank false cs = true) : '\n' ∈ cs := by
  apply Decidable.byContradiction
  intro hmem
  rw [endsBlank_line hmem] at h
  cases h

theorem isBlank_of_endsBlank {blank : Bool} {c : Char} (h : endsBlank blank [c] = true) :
    Text.isBlank c = true := by
  rw [← Bool.not_eq_false]
  intro hc
  rw [endsBlank_cons hc] at h
  cases h

theorem endsBlank_of_rtakeWhile {cs : List Char}
    (h : ∀ c ∈ cs.rtakeWhile (!isLineEnd ·), Text.isBlank c = true) : endsBlank true cs = true := by
  induction cs using List.reverseRecOn with
  | nil => rfl
  | append_singleton cs c ih =>
    rw [endsBlank_append]
    by_cases hc : isLineEnd c = true
    · simp [endsBlank, hc]
    · rw [List.rtakeWhile_concat_pos _ _ _ (by simpa using hc)] at h
      have hcs := ih fun d hd => h d (List.mem_append_left _ hd)
      have hblank := h c (List.mem_append_right _ (List.mem_singleton_self c))
      rw [hcs]
      simp [endsBlank, hblank]

def Mode.Fits (blank : Bool) : Mode → Prop
  | code b => b = blank
  | line => blank = false
  | _ => True

theorem span_blank {mode : Mode} {cs : List Char} (hended : (span mode cs).2 = .ended)
    {blank : Bool} (hmode : mode.Fits blank) (hblank : endsBlank blank cs = true)
    (more : List Char) :
    span (mode.more more) (cs ++ more) = keep cs (span (.code true) more) := by
  fun_induction span mode cs generalizing blank with
  | case1 b cs here hp ih =>
    have hcs : cs ≠ [] := by
      rintro rfl
      cases hp
    have hplain : isPlain (cs ++ more) = true := by rw [isPlain_more hcs, hp]
    rw [endsBlank_cons (by decide), endsBlank_cons (by decide)] at hblank
    exact (span.eq_1 b _).trans ((if_pos hplain).trans (congrArg (keep _) (ih hended trivial hblank)))
  | case4 b cs ih =>
    rw [endsBlank_cons (by decide)] at hblank
    exact (span.eq_2 b _).trans (congrArg (keep _) (ih hended trivial hblank))
  | case6 b cs comment helse ih =>
    rw [endsBlank_cons (by decide), endsBlank_cons (by decide)] at hblank
    have hline : (cs ++ more).takeWhile (!isLineEnd ·) = comment :=
      takeWhile_more (mem_of_endsBlank hblank) more
    refine (span.eq_3 b (cs ++ more)).trans ?_
    rw [hline, if_neg helse]
    exact congrArg (keep _) (ih hended rfl hblank)
  | case8 b c cs hslash hquote hminus hmark ih =>
    -- The last character is white space, so that it starts no comment with what comes behind it.
    have hvisible : ∀ {d : Char} {ds : List Char}, Text.isBlank c = false → cs ++ more = d :: ds →
        ∃ es, cs = d :: es := by
      intro d ds hc heq
      apply eq_cons_of_append _ heq
      rintro rfl
      rw [isBlank_of_endsBlank hblank] at hc
      cases hc
    obtain rfl : b = blank := hmode
    refine (span.eq_5 b c _ ?_ hquote ?_ hmark).trans (congrArg (keep _) (ih hended rfl hblank))
    · rintro ds rfl hds
      obtain ⟨es, hes⟩ := hvisible (by decide) hds
      exact hslash es rfl hes
    · rintro ds rfl hds
      obtain ⟨es, hes⟩ := hvisible (by decide) hds
      exact hminus es rfl hes
  | case9 start cs ih =>
    rw [endsBlank_cons (by decide), endsBlank_cons (by decide)] at hblank
    exact (span.eq_6 _ _).trans (congrArg (keep _) (ih hended trivial hblank))
  | case10 start cs hsecond ih =>
    rw [endsBlank_cons (by decide)] at hblank
    have hcs : cs ≠ [] := by
      rintro rfl
      cases hblank
    refine (span.eq_7 _ _ ?_).trans (congrArg (keep _) (ih hended rfl hblank))
    intro ds hds
    obtain ⟨es, hes⟩ := eq_cons_of_append hcs hds
    exact hsecond es hes
  | case11 start c cs _ hquote ih =>
    exact (span.eq_8 _ c _ (fun _ hc => absurd hc hquote) hquote).trans
      (congrArg (keep _) (ih hended trivial hblank))
  | case13 start cs ih =>
    rw [endsBlank_cons (by decide), endsBlank_cons (by decide)] at hblank
    exact (span.eq_10 _ _).trans (congrArg (keep _) (ih hended rfl hblank))
  | case14 start c cs hend ih =>
    have hcs : cs ≠ [] := by
      rintro rfl
      cases hended
    refine (span.eq_11 _ c _ ?_).trans (congrArg (keep _) (ih hended trivial hblank))
    intro ds hc hds
    obtain ⟨es, hes⟩ := eq_cons_of_append hcs hds
    exact hend es hc hes
  | case16 c cs ih =>
    obtain rfl : blank = false := hmode
    have hflag : endsBlank (isLineEnd c) cs = true := by
      simpa only [endsBlank, List.foldl_cons, Bool.false_and, Bool.or_false] using hblank
    have hfits : Mode.Fits (isLineEnd c) (if isLineEnd c then .code true else .line) := by
      cases isLineEnd c <;> rfl
    have hmode : (if isLineEnd c then Mode.code true else .line).more more =
        if isLineEnd c then .code true else .line := by
      split <;> rfl
    have hread := ih hended hfits hflag
    rw [hmode] at hread
    exact (span.eq_13 c _).trans (congrArg (keep _) hread)
  | case17 mode hliteral hcomment =>
    obtain rfl : blank = true := hblank
    cases mode with
    | code b =>
      obtain rfl : b = true := hmode
      rfl
    | line => cases hmode
    | literal start => exact absurd rfl (hliteral start)
    | comment start => exact absurd rfl (hcomment start)
  | _ => cases hended

end Verbatim

theorem Lexeme.endsBlank_comment (blank : Bool) (body : List Char) :
    Verbatim.endsBlank blank (comment body) = false := by
  have hcomment : comment body = '/' :: '*' :: (body ++ ['*']) ++ ['/'] := by simp [comment]
  rw [hcomment]
  exact Verbatim.endsBlank_concat (by decide) _ _

namespace TestValue

theorem not_mem_bare (cs : List Char) : '\n' ∉ (bare cs).1 := by
  fun_induction bare cs with
  | case1 => exact List.not_mem_nil
  | case2 => exact List.not_mem_nil
  | case3 c cs hends ih =>
    intro hmem
    rcases List.mem_cons.mp hmem with rfl | hmem
    · exact hends rfl
    · exact ih hmem

theorem endsBlank_value {cs value behind : List Char} (h : span cs = .ok (value, behind)) :
    Verbatim.endsBlank false value = false := by
  rcases span_kinds h with ⟨s, rfl⟩ | ⟨content, -, rfl⟩ | ⟨-, -, hbare⟩
  · rw [quote_eq, ← List.cons_append]
    exact Verbatim.endsBlank_concat (by decide) _ _
  · rw [← List.cons_append]
    exact Verbatim.endsBlank_concat (by decide) _ _
  · have hline := not_mem_bare cs
    rw [hbare] at hline
    exact Verbatim.endsBlank_line hline

end TestValue

namespace Lexemes

theorem pushSql_snd (here text : List Char) (ls : Lexemes) : (pushSql here text ls).2 = ls.2 := by
  rw [pushSql]
  split <;> rfl

theorem resume_pushSql (more here text : List Char) (ls behind : Lexemes) :
    resume more (pushSql here text ls).1 behind =
      pushSql (here ++ more) text (resume more ls.1 behind) := by
  rw [pushSql, pushSql]
  split <;> rfl

theorem scan_border {blank b : Bool} {cs sql more : List Char} {stop : Verbatim.Stop}
    (hs : Verbatim.span (.code blank) cs = (sql, stop))
    (hmore : Verbatim.span (.code b) more = ([], stop)) (hstop : stop.isBorder = true) :
    scan blank cs = pushSql cs sql (scan b more) := by
  cases stop with
  | lineElse here comment rest =>
    rw [scan_lineElse hs, scan_lineElse hmore]
    rfl
  | marker here body rest =>
    rw [scan_marker hs, scan_marker hmore]
    rfl
  | _ => cases hstop

theorem scan_blank {blank : Bool} {cs : List Char} (hnone : (scan blank cs).2 = none)
    (hblank : Verbatim.endsBlank blank cs = true) {more : List Char} {stop : Verbatim.Stop}
    (hmore : Verbatim.span (.code true) more = ([], stop)) (hstop : stop.isBorder = true) :
    scan blank (cs ++ more) = resume more (scan blank cs).1 (scan true more) := by
  fun_induction scan blank cs with
  | case1 blank =>
    obtain rfl : blank = true := hblank
    rfl
  | case2 blank cs _ sql hs =>
    have hended : (Verbatim.span (.code blank) cs).2 = .ended := by rw [hs]
    obtain rfl : cs = sql := Verbatim.reads_of_span hs
    have hspan := Verbatim.span_blank hended rfl hblank more
    rw [hmore, Verbatim.keep, List.append_nil] at hspan
    rw [scan_border hspan hmore hstop, resume_pushSql]
    rfl
  | case3 => cases hnone
  | case4 blank cs _ sql here comment rest hs ih =>
    obtain ⟨hcs, text, rfl, htext, -⟩ := Verbatim.reads_of_span hs
    have hline : Verbatim.endsBlank (Verbatim.endsBlank blank sql) ('-' :: '-' :: text) = false := by
      rw [Verbatim.endsBlank_cons (by decide), Verbatim.endsBlank_cons (by decide)]
      exact Verbatim.endsBlank_line htext
    rw [hcs, Verbatim.endsBlank_append, Verbatim.endsBlank_append, hline] at hblank
    have hfixed : (Verbatim.Stop.lineElse here ('-' :: '-' :: text) rest).isFixed = true := by
      have hrest : rest ≠ [] := List.ne_nil_of_mem (Verbatim.mem_of_endsBlank hblank)
      simpa [Verbatim.Stop.isFixed] using hrest
    rw [pushSql_snd] at hnone
    rw [scan_lineElse (Verbatim.span_code_more hs hfixed more), ih hnone hblank, resume_pushSql]
    rfl
  | case5 blank cs _ sql here body rest hs ihd ihs =>
    obtain ⟨hcs, -⟩ := Verbatim.reads_of_span hs
    have hspan := Verbatim.span_code_more hs rfl more
    rw [hcs, Verbatim.endsBlank_append, Verbatim.endsBlank_append,
      Lexeme.endsBlank_comment] at hblank
    rw [pushSql_snd] at hnone
    split at hnone
    · cases hnone
    · next d hm =>
      rw [scan_directive hspan hm, ihd hnone hblank, resume_pushSql]
      rfl
    · next embedded path options hm =>
      split at hnone
      · cases hnone
      · next value behind hr =>
        obtain ⟨hvalue, -⟩ := TestValue.read_eq_ok hr
        obtain ⟨hrest, -⟩ := TestValue.span_eq_ok hvalue
        rw [hrest, Verbatim.endsBlank_append, TestValue.endsBlank_value hvalue] at hblank
        have hends := TestValue.showsEnd_of_mem (Verbatim.mem_of_endsBlank hblank)
        rw [scan_slot hspan hm (TestValue.read_more hr hends more), ihs _ _ hr hnone hblank,
          resume_pushSql]
        rfl

end Lexemes

theorem cases_of_mapError_eq {ε δ α : Type} {f : ε → δ} {x y : Except ε α}
    (h : x.mapError f = y.mapError f) :
    (∃ a, x = .ok a ∧ y = .ok a) ∨ ∃ e e', x = .error e ∧ y = .error e' ∧ f e = f e' := by
  cases x with
  | ok a => exact .inl ⟨a, rfl, mapError_eq_ok.mp h.symm⟩
  | error e =>
    cases y with
    | ok a => cases h
    | error e' => exact .inr ⟨e, e', rfl, rfl, Except.error.inj h⟩

def Lexeme.respelled : Lexeme → Lexeme
  | lineElse _ => directive "ELSE".toList .otherwise
  | l => l

def Lexeme.meaning (l : Placed Lexeme) : Placed Lexeme := ⟨[], l.item.respelled⟩

namespace Outline

def unplaced (o : Outline) : Outline :=
  ⟨o.nodes, o.frames.map fun f => { f with directive := ⟨[], f.directive.item⟩ }⟩

theorem inLoop_unplaced (o : Outline) : o.unplaced.inLoop = o.inLoop := by
  rw [inLoop, unplaced, List.any_map, inLoop]
  rfl

theorem otherwise_unplaced (o : Outline) : o.unplaced.otherwise = o.otherwise.map unplaced := by
  obtain ⟨nodes, frames⟩ := o
  cases frames with
  | nil => rfl
  | cons f frames =>
    obtain ⟨opened, directive, before⟩ := f
    cases opened with
    | block b => cases b <;> rfl
    | elsePart t children => rfl

theorem close_unplaced (o : Outline) : o.unplaced.close = o.close.map unplaced := by
  obtain ⟨nodes, frames⟩ := o
  cases frames <;> rfl

theorem next_unplaced (body : List Char) (sql : Option String) (o : Outline) :
    o.unplaced.next body sql = (o.next body sql).map unplaced := by
  rw [next.eq_def, next.eq_def, inLoop_unplaced]
  split
  · rfl
  · cases sql <;> rfl

theorem read_meaning (o : Outline) (l : Placed Lexeme) :
    o.unplaced.read (Lexeme.meaning l) = (o.read l).map unplaced := by
  obtain ⟨here, item⟩ := l
  cases item with
  | sql text => rfl
  | lineElse comment => exact otherwise_unplaced o
  | slot body embedded v => cases embedded <;> rfl
  | directive body d =>
    cases d with
    | otherwise => exact otherwise_unplaced o
    | closes => exact close_unplaced o
    | next sql => exact next_unplaced body sql o
    | opens b =>
      have hmeaning : Lexeme.meaning ⟨here, .directive body (.opens b)⟩ =
          ⟨[], .directive body (.opens b)⟩ := rfl
      rw [hmeaning, read, read]
      dsimp only
      rw [inLoop_unplaced]
      split <;> rfl

theorem run_meaning (o : Outline) (ls : List (Placed Lexeme)) :
    (o.unplaced.run (ls.map Lexeme.meaning)).mapError Placed.item =
      ((o.run ls).map unplaced).mapError Placed.item := by
  induction ls generalizing o with
  | nil => rfl
  | cons l ls ih =>
    have hread := read_meaning o l
    rw [List.map_cons]
    cases h : o.read l with
    | ok p =>
      rw [h] at hread
      rw [run_cons hread, run_cons h, ih]
    | error f =>
      rw [h] at hread
      rw [run_cons_error hread, run_cons_error h]
      rfl

theorem finish_unplaced (o : Outline) :
    o.unplaced.finish.mapError Placed.item = o.finish.mapError Placed.item := by
  obtain ⟨nodes, frames⟩ := o
  cases frames <;> rfl

end Outline

namespace Lexemes

theorem toNode_meaning (ls : Lexemes) : ls.toNode.mapError Placed.item =
    ((Outline.empty.run (ls.1.map Lexeme.meaning)).mapError Placed.item).bind fun o =>
      match ls.2.map Placed.item with
      | some f => .error f
      | none => o.finish.mapError Placed.item := by
  have hrun := Outline.run_meaning .empty ls.1
  have hempty : Outline.empty.unplaced = .empty := rfl
  rw [hempty] at hrun
  rw [hrun, toNode, outline, ← Outline.run]
  cases Outline.empty.run ls.1 with
  | error e => rfl
  | ok o =>
    cases ls.2 with
    | some f => rfl
    | none => exact (Outline.finish_unplaced o).symm

theorem toNode_resume {ks ls : Lexemes} (h : ks.1.map Lexeme.meaning = ls.1.map Lexeme.meaning)
    (hfault : ks.2 = ls.2) (more other : List Char) (front : List (Placed Lexeme)) :
    (resume more front ks).toNode.mapError Placed.item =
      (resume other front ls).toNode.mapError Placed.item := by
  have hlexemes : (resume more front ks).1.map Lexeme.meaning =
      (resume other front ls).1.map Lexeme.meaning := by
    rw [resume, resume, List.map_append, List.map_append, List.map_map, List.map_map, h]
    rfl
  have hfaults : (resume more front ks).2 = (resume other front ls).2 := hfault
  rw [toNode_meaning, toNode_meaning, hlexemes, hfaults]

end Lexemes

section Spelling
variable {front : String} (hread : (Lexemes.ofText front.toList).2 = none)
  (hline : ∀ c ∈ front.toList.rtakeWhile (!Verbatim.isLineEnd ·), Text.isBlank c = true)
include hread hline

theorem Lexemes.ofText_blank {more : List Char} {stop : Verbatim.Stop}
    (hmore : Verbatim.span (.code true) more = ([], stop)) (hstop : stop.isBorder = true) :
    ofText (front.toList ++ more) = resume more (ofText front.toList).1 (scan true more) :=
  scan_blank hread (Verbatim.endsBlank_of_rtakeWhile hline) hmore hstop

theorem Node.parse_lineElse (text : List Char) (htext : '\n' ∉ text)
    (helse : Verbatim.saysElse text = true) (behind : List Char) :
    (Lexemes.ofText (front.toList ++ '-' :: '-' :: (text ++ '\n' :: behind))).toNode.mapError
        Placed.item =
      (Lexemes.ofText (front.toList ++
        (Lexeme.comment "ELSE".toList ++ '\n' :: behind))).toNode.mapError Placed.item := by
  have hkeeps : ∀ c ∈ text, (!Verbatim.isLineEnd c) = true := by
    intro c hc
    have hne : c ≠ '\n' := fun h => htext (h ▸ hc)
    simpa [Verbatim.isLineEnd] using hne
  have hends : ∀ c ∈ ('\n' :: behind).head?, (!Verbatim.isLineEnd c) = false := by
    rintro c ⟨⟩
    rfl
  have hspan : Verbatim.span (.code true) ('-' :: '-' :: (text ++ '\n' :: behind)) =
      ([], .lineElse ('-' :: '-' :: (text ++ '\n' :: behind)) ('-' :: '-' :: text)
        ('\n' :: behind)) := by
    rw [Verbatim.span, Text.takeWhile_append_eq hkeeps hends, Text.dropWhile_append_eq hkeeps hends,
      if_pos (by simpa using helse)]
  have hspan' : Verbatim.span (.code true) (Lexeme.comment "ELSE".toList ++ '\n' :: behind) =
      ([], .marker (Lexeme.comment "ELSE".toList ++ '\n' :: behind) "ELSE".toList
        ('\n' :: behind)) := rfl
  rw [Lexemes.ofText_blank hread hline hspan rfl, Lexemes.ofText_blank hread hline hspan' rfl,
    Lexemes.scan_lineElse hspan, Lexemes.scan_directive hspan' rfl]
  apply Lexemes.toNode_resume
  · rfl
  · rfl

/-- Where the text in front has no fault in itself and ends in a blank line, it ends in SQL, and an
`ELSE` is the same as a line and as a comment: in both spellings the rest of the template gives the
same tree, or the same fault. -/
theorem Node.parse_elseSpelling (behind : String) :
    (∃ root, Node.parse (front ++ "-- ELSE\n" ++ behind) = .ok root ∧
      Node.parse (front ++ "/*ELSE*/\n" ++ behind) = .ok root) ∨
    ∃ e e', Node.parse (front ++ "-- ELSE\n" ++ behind) = .error e ∧
      Node.parse (front ++ "/*ELSE*/\n" ++ behind) = .error e' ∧ e.fault = e'.fault := by
  have hlineText : (front ++ "-- ELSE\n" ++ behind).toList =
      front.toList ++ '-' :: '-' :: (" ELSE".toList ++ '\n' :: behind.toList) := by
    rw [String.toList_append, String.toList_append, List.append_assoc]
    rfl
  have hcommentText : (front ++ "/*ELSE*/\n" ++ behind).toList =
      front.toList ++ (Lexeme.comment "ELSE".toList ++ '\n' :: behind.toList) := by
    rw [String.toList_append, String.toList_append, List.append_assoc]
    rfl
  have hsame := Node.parse_lineElse hread hline " ELSE".toList (by decide) (by decide)
    behind.toList
  rw [Node.parse, Node.parse, hlineText, hcommentText]
  rcases cases_of_mapError_eq hsame with ⟨root, hleft, hright⟩ | ⟨f, f', hleft, hright, hfault⟩
  · left
    rw [hleft, hright]
    exact ⟨root, rfl, rfl⟩
  · right
    rw [hleft, hright]
    exact ⟨_, _, rfl, rfl, hfault⟩

end Spelling

def blankLineText : String := "/*IF true*/A\n  "

def blankLine : Node :=
  .root [.ifElse ⟨"true", .boolean true⟩ [.text "A\n  "] (some [.text "\nB"])]

theorem Node.parse_elseSpelling_indented :
    (Lexemes.ofText blankLineText.toList).2 = none ∧
      (∀ c ∈ blankLineText.toList.rtakeWhile (!Verbatim.isLineEnd ·), Text.isBlank c = true) ∧
      Node.parse (blankLineText ++ "-- ELSE\n" ++ "B/*END*/") = .ok blankLine ∧
      Node.parse (blankLineText ++ "/*ELSE*/\n" ++ "B/*END*/") = .ok blankLine := by
  have hif : Verbatim.span (.code true) blankLineText.toList =
      ([], .marker blankLineText.toList "IF true".toList "A\n  ".toList) := rfl
  have hended : Verbatim.span (.code false) "A\n  ".toList = ("A\n  ".toList, .ended) := rfl
  have hread : (Lexemes.ofText blankLineText.toList).2 = none := by
    rw [Lexemes.ofText, Lexemes.scan_directive hif Marker.parse_ifTrue,
      Lexemes.scan_ended hended]
    rfl
  have hline : ∀ c ∈ blankLineText.toList.rtakeWhile (!Verbatim.isLineEnd ·),
      Text.isBlank c = true := List.all_eq_true.mp rfl
  have hparse : Node.parse (blankLineText ++ "-- ELSE\n" ++ "B/*END*/") = .ok blankLine := by
    have htext : (blankLineText ++ "-- ELSE\n" ++ "B/*END*/").toList =
        "/*IF true*/A\n  -- ELSE\nB/*END*/".toList := by
      rw [String.toList_append, String.toList_append]
      rfl
    have hopens : Verbatim.span (.code true) "/*IF true*/A\n  -- ELSE\nB/*END*/".toList =
        ([], .marker "/*IF true*/A\n  -- ELSE\nB/*END*/".toList "IF true".toList
          "A\n  -- ELSE\nB/*END*/".toList) := rfl
    have helse : Verbatim.span (.code false) "A\n  -- ELSE\nB/*END*/".toList = ("A\n  ".toList,
        .lineElse "-- ELSE\nB/*END*/".toList "-- ELSE".toList "\nB/*END*/".toList) := rfl
    have hcloses : Verbatim.span (.code false) "\nB/*END*/".toList =
        ("\nB".toList, .marker "/*END*/".toList "END".toList []) := rfl
    rw [Node.parse, htext, Lexemes.ofText, Lexemes.scan_directive hopens Marker.parse_ifTrue,
      Lexemes.scan_lineElse helse, Lexemes.scan_directive hcloses rfl, Lexemes.scan_nil]
    rfl
  refine ⟨hread, hline, hparse, ?_⟩
  rcases Node.parse_elseSpelling hread hline "B/*END*/" with ⟨root, hleft, hright⟩ | ⟨e, -, he, -⟩
  · rw [hparse] at hleft
    cases hleft
    exact hright
  · rw [hparse] at he
    cases he

end SqlTemplate
