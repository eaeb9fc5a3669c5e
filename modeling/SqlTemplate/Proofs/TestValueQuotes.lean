import SqlTemplate.Proofs.KeywordMarkers
import SqlTemplate.Proofs.Lookahead
import SqlTemplate.Proofs.QuoteParity

namespace SqlTemplate

namespace Sql.Zone

theorem after_body {z : Zone} {body : List Char} (h : ¬['*', '/'] <:+: body)
    (hz : Verbatim.Mode.Agrees z (body ++ ['*', '/']) (.comment [])) :
    z.after (body ++ ['*', '/']) = .code := by
  induction body generalizing z with
  | nil =>
    have hstar : z.next '*' = .afterStar := hz.close_comment
    rw [List.nil_append, after, List.foldl_cons, hstar]
    rfl
  | cons c body ih =>
    have hend : ∀ ds, c = '*' → body ++ ['*', '/'] = '/' :: ds → False := by
      rintro ds rfl hslash
      cases body with
      | nil => cases hslash
      | cons d body =>
        rw [List.cons_append, List.cons.injEq] at hslash
        exact h ⟨[], body, by simp [hslash.1]⟩
    have hrest : ¬['*', '/'] <:+: body := fun hinfix => h (List.infix_cons hinfix)
    exact ih hrest (hz.comment hend)

theorem after_comment {z : Zone} (hz : z.isCode = true) {body : List Char}
    (h : Piece.IsBody body) (hslash : body.head? ≠ some '/') :
    z.after (Lexeme.comment body) = .code := by
  have hopen : (z.next '/').next '*' = .afterStar := by
    cases z <;> first | rfl | cases hz
  have hbody : Verbatim.Mode.Agrees .afterStar (body ++ ['*', '/']) (.comment []) := by
    refine .inr ⟨rfl, ?_⟩
    cases body with
    | nil => simp
    | cons c body => exact hslash
  have hcomment : z.after (Lexeme.comment body) =
      ((z.next '/').next '*').after (body ++ ['*', '/']) := rfl
  rw [hcomment, hopen]
  exact after_body h.1 hbody

theorem after_line {z : Zone} (hz : z.isCode = true) {text : List Char} (h : '\n' ∉ text) :
    z.after ('-' :: '-' :: text) = .lineComment := by
  have hopen : (z.next '-').next '-' = .lineComment := by
    cases z <;> first | rfl | cases hz
  have hinside : Zone.lineComment.after text = .lineComment := by
    induction text with
    | nil => rfl
    | cons c text ih =>
      rw [List.mem_cons, not_or] at h
      have hc : Zone.lineComment.next c = .lineComment := if_neg (Ne.symm h.1)
      rw [after, List.foldl_cons, hc]
      exact ih h.2
  have hline : z.after ('-' :: '-' :: text) = ((z.next '-').next '-').after text := rfl
  rw [hline, hopen, hinside]

end Sql.Zone

namespace Marker

theorem path_slash (cs : List Char) :
    ∃ e, Path.parse (String.ofList (Text.trim ('/' :: cs))) = .error e := by
  have hslash : ∀ c ∈ ('/' :: cs).head?, Text.isBlank c = false := by
    rintro c ⟨⟩
    decide
  obtain ⟨blank, htext, -⟩ := Text.exists_blank_of_trim rfl hslash
  cases hp : Path.parse (String.ofList (Text.trim ('/' :: cs))) with
  | error e => exact ⟨e, rfl⟩
  | ok p =>
    exfalso
    obtain ⟨hhead, parts, -, hparts⟩ := Path.parse_eq_ok_iff.mp hp
    rw [String.toList_ofList] at hparts
    rw [hparts, List.append_assoc] at htext
    -- The name at the start of the path starts with the slash.
    rcases hhead with hname | hname
    · rw [hname] at htext
      cases htext
    · cases hlist : p.head.toList with
      | nil => rw [hlist] at hname; cases hname
      | cons c name =>
        rw [hlist] at hname htext
        cases htext
        revert hname
        simp [isIdentifier, isIdentifierStart]

theorem parseVariable_slash (cs : List Char) : ∃ e, parseVariable false ('/' :: cs) = .error e := by
  obtain ⟨path, options, hcut⟩ : ∃ path options,
      ((Text.cutAt? ':' ('/' :: cs)).map (fun r => (r.1, some r.2)) |>.getD ('/' :: cs, none)) =
        ('/' :: path, options) := by
    rw [Text.cutAt?, if_neg (by decide)]
    cases Text.cutAt? ':' cs with
    | none => exact ⟨cs, none, rfl⟩
    | some r => exact ⟨r.1, some r.2, rfl⟩
  obtain ⟨e, he⟩ := path_slash path
  exact ⟨.malformed (.path e), by simp only [parseVariable, hcut, he]⟩

theorem head?_of_parse {body : List Char} {m : Marker} (h : parse body = .ok m) :
    body.head? ≠ some '/' := by
  intro hhead
  obtain ⟨cs, rfl⟩ := List.head?_eq_some_iff.mp hhead
  have hwords : ∀ k ∈ keywords, k.toList.head? ≠ some '/' := by decide
  have hword : ∀ k ∈ keywords, '/' :: cs ≠ k.toList := by
    intro k hk heq
    apply hwords k hk
    rw [← heq]
    rfl
  have hargument : ∀ k ∈ takesArgument, argument? k ('/' :: cs) = none := by
    have hspaced : ∀ k ∈ takesArgument, ¬['/'] <+: (k ++ " ").toList ∧ (k ++ " ").toList ≠ [] := by
      decide
    intro k hk
    rw [argument?_eq_none_iff]
    intro hprefix
    obtain ⟨hslash, hne⟩ := hspaced k hk
    obtain ⟨c, word, hcons⟩ := List.exists_cons_of_ne_nil hne
    rw [hcons] at hprefix hslash
    obtain ⟨rfl, -⟩ := List.cons_prefix_cons.mp hprefix
    exact hslash ⟨word, rfl⟩
  obtain ⟨e, he⟩ := parseVariable_slash cs
  rw [parse_of_no_keyword hword hargument (by simp), he] at h
  cases h

end Marker

namespace Verbatim

theorem head?_of_lineElse {mode : Mode} {cs here comment rest : List Char}
    (h : (span mode cs).2 = .lineElse here comment rest) : ∀ c ∈ rest.head?, c = '\n' := by
  fun_induction span mode cs with
  | case5 blank cs other =>
    rw [Stop.lineElse.injEq] at h
    obtain ⟨-, -, rfl⟩ := h
    intro c hc
    simpa [isLineEnd] using isLineEnd_of_dropWhile cs c hc
  | case2 | case3 | case7 | case12 | case15 | case17 => cases h
  | _ =>
    rename_i ih
    exact ih h

def Resumes (z : Sql.Zone) (cs : List Char) : Prop :=
  Mode.Agrees z cs (.code false) ∨ z = .lineComment ∧ ∀ c ∈ cs.head?, c = '\n'

theorem Resumes.sound {z : Sql.Zone} {cs : List Char} (h : Resumes z cs) (blank : Bool) :
    Sound z (span (.code blank) cs) := by
  rcases h with h | ⟨rfl, h⟩
  · exact span_sound h
  · cases cs with
    | nil => exact .nil (by simp [Stop.isBorder])
    | cons c cs =>
      obtain rfl := h c rfl
      have hnext : Mode.Agrees (Sql.Zone.lineComment.next '\n') cs (.code true) := .closed true cs
      have hsound := (span_sound hnext).keep (c := '\n') (fun _ => by decide)
      have hspan : span (.code blank) ('\n' :: cs) = keep ['\n'] (span (.code true) cs) := rfl
      rwa [hspan]

theorem Resumes.isCode {z : Sql.Zone} {cs sql : List Char} {stop : Stop} {blank : Bool}
    (h : Resumes z cs) (hs : span (.code blank) cs = (sql, stop)) (hstop : stop.isBorder = true) :
    (z.after sql).isCode = true := by
  have hsound := (h.sound blank).2
  rw [hs] at hsound
  exact hsound hstop

end Verbatim

def Lexeme.IsNeutral : Lexeme → Prop
  | slot _ _ v => TestValue.IsNeutral v.testValue.toList
  | _ => True

namespace Lexemes

def Tracks : Sql.Zone → List (Placed Lexeme) → Prop
  | _, [] => True
  | z, l :: ls => (∀ body embedded v, l.item = .slot body embedded v →
      z.after (Lexeme.comment body) = .code) ∧
    (l.item.IsNeutral → Tracks (z.after l.item.source) ls)

namespace Tracks

theorem pushSql {z : Sql.Zone} {here text : List Char} {ls : Lexemes}
    (h : Tracks (z.after text) ls.1) : Tracks z (pushSql here text ls).1 := by
  rw [Lexemes.pushSql]
  split
  · next hempty =>
    rw [List.isEmpty_iff.mp hempty] at h
    exact h
  · refine ⟨?_, fun _ => h⟩
    rintro body embedded v ⟨⟩

theorem split {z : Sql.Zone} {front behind : List (Placed Lexeme)} {l : Placed Lexeme}
    (h : Tracks z (front ++ l :: behind)) (hfront : ∀ m ∈ front, m.item.IsNeutral) :
    Tracks (z.after (front.flatMap fun m => m.item.source)) (l :: behind) := by
  induction front generalizing z with
  | nil => exact h
  | cons m front ih =>
    rw [List.forall_mem_cons] at hfront
    rw [List.flatMap_cons, Sql.Zone.after_append]
    exact ih (h.2 hfront.1) hfront.2

end Tracks

theorem scan_tracks {blank : Bool} {cs : List Char} {z : Sql.Zone} (h : Verbatim.Resumes z cs) :
    Tracks z (scan blank cs).1 := by
  fun_induction scan blank cs generalizing z with
  | case1 => trivial
  | case2 => exact .pushSql trivial
  | case3 => trivial
  | case4 blank cs _ sql here comment rest hs ih =>
    obtain ⟨-, text, rfl, hline, -⟩ := Verbatim.reads_of_span hs
    apply Tracks.pushSql
    refine ⟨by simp, fun _ => ?_⟩
    rw [Lexeme.source, Sql.Zone.after_line (h.isCode hs rfl) hline]
    exact ih (.inr ⟨rfl, Verbatim.head?_of_lineElse (congrArg Prod.snd hs)⟩)
  | case5 blank cs _ sql here body rest hs ihd ihs =>
    obtain ⟨-, hbody⟩ := Verbatim.reads_of_span hs
    apply Tracks.pushSql
    split
    · trivial
    · next d hm =>
      have hcode := Sql.Zone.after_comment (h.isCode hs rfl) hbody (Marker.head?_of_parse hm)
      refine ⟨by simp, fun _ => ?_⟩
      rw [Lexeme.source, hcode]
      exact ihd (.inl (.closed false rest))
    · next embedded path options hm =>
      have hcode := Sql.Zone.after_comment (h.isCode hs rfl) hbody (Marker.head?_of_parse hm)
      split
      · trivial
      · next value behind hr =>
        constructor
        · rintro other embedded v heq
          cases heq
          exact hcode
        · intro hneutral
          rw [Lexeme.IsNeutral, String.toList_ofList] at hneutral
          rw [Lexeme.source, Sql.Zone.after_append, hcode, String.toList_ofList]
          exact ihs _ _ hr (.inl (hneutral.follows (TestValue.read_eq_ok hr).1))

end Lexemes

/-- A test value has an even number of quotes, and so is made of literals and unquoted text, unless
it is a bare word that ends inside a literal. As long as those in front are such and hold no
comments, the next one starts in code, and behind it the SQL is in a literal if its quotes are odd,
though the template goes on in code. -/
theorem Node.parse_quotes {text : String} {root : Node} (h : Node.parse text = .ok root) :
    (∀ w ∈ root.slots,
      (TestValue.Whole w.2.testValue.toList ↔ Even (Sql.quotes w.2.testValue.toList)) ∧
      (¬Even (Sql.quotes w.2.testValue.toList) ↔
        w.2.testValue.toList.head? ≠ some '\'' ∧ w.2.testValue.toList.head? ≠ some '(' ∧
          Sql.Zone.code.after w.2.testValue.toList = .literal) ∧
      (w.2.grouped = false → Sql.Zone.code.Uncommented w.2.testValue.toList)) ∧
    ∀ front l behind body embedded v, (Lexemes.ofText text.toList).1 = front ++ l :: behind →
      l.item = .slot body embedded v → (∀ m ∈ front, m.item.IsNeutral) →
        Sql.Zone.code.after (front.flatMap (fun m => m.item.source) ++ Lexeme.comment body) = .code ∧
        (Sql.Zone.code.Uncommented v.testValue.toList →
          (Sql.Zone.code.after ((front ++ [l]).flatMap fun m => m.item.source) = .literal ↔
            ¬Even (Sql.quotes v.testValue.toList))) := by
  constructor
  · intro w hw
    obtain ⟨l, hl, body, hslot⟩ := (Node.mem_slots_iff h w).mp hw
    have hvalid := (Lexemes.scan_covers true text.toList).2 l hl
    rw [hslot] at hvalid
    obtain ⟨-, hspells, hspan⟩ := hvalid
    refine ⟨TestValue.whole_iff_even _, TestValue.not_even_quotes_iff hspan, ?_⟩
    intro hgroup
    apply TestValue.uncommented_of_span hspan
    rw [← hgroup, hspells.grouped]
  · intro front l behind body embedded v htext hl hfront
    have hstart : Verbatim.Resumes .code text.toList := .inl (.closed false text.toList)
    have htracks : Lexemes.Tracks .code (Lexemes.ofText text.toList).1 :=
      Lexemes.scan_tracks hstart
    rw [htext] at htracks
    have hcode := (htracks.split hfront).1 body embedded v hl
    rw [← Sql.Zone.after_append] at hcode
    refine ⟨hcode, ?_⟩
    intro huncommented
    have hsource : (front ++ [l]).flatMap (fun m => m.item.source) =
        front.flatMap (fun m => m.item.source) ++ Lexeme.comment body ++ v.testValue.toList := by
      simp [hl, Lexeme.source]
    rw [hsource, Sql.Zone.after_append, hcode, huncommented.after_eq_literal_iff]
    simp

def dateText : String := "SELECT /*pmb.d*/N'a /*pmb.x*/b'"

def dateVariable : Variable := ⟨⟨"pmb", [.property "d"]⟩, "N'a", false, {}⟩

def dateBehind : Variable := ⟨⟨"pmb", [.property "x"]⟩, "b'", false, {}⟩

def dateSlot : Placed Lexeme :=
  ⟨"/*pmb.d*/N'a /*pmb.x*/b'".toList, .slot "pmb.d".toList false dateVariable⟩

theorem ofText_dateText : Lexemes.ofText dateText.toList =
    ([⟨dateText.toList, .sql "SELECT ".toList⟩, dateSlot, ⟨" /*pmb.x*/b'".toList, .sql [' ']⟩,
      ⟨"/*pmb.x*/b'".toList, .slot "pmb.x".toList false dateBehind⟩], none) := by
  have hfirst : Verbatim.span (.code true) dateText.toList = ("SELECT ".toList,
      .marker "/*pmb.d*/N'a /*pmb.x*/b'".toList "pmb.d".toList "N'a /*pmb.x*/b'".toList) := rfl
  have hd : Marker.parse "pmb.d".toList = .ok (.slot false ⟨"pmb", [.property "d"]⟩ {}) := rfl
  have hvalue : TestValue.read "N'a /*pmb.x*/b'".toList =
      .ok ("N'a".toList, " /*pmb.x*/b'".toList) := rfl
  have hsecond : Verbatim.span (.code false) " /*pmb.x*/b'".toList =
      ([' '], .marker "/*pmb.x*/b'".toList "pmb.x".toList "b'".toList) := rfl
  have hx : Marker.parse "pmb.x".toList = .ok (.slot false ⟨"pmb", [.property "x"]⟩ {}) := rfl
  have hrest : TestValue.read "b'".toList = .ok ("b'".toList, []) := rfl
  rw [Lexemes.ofText, Lexemes.scan_slot hfirst hd hvalue, Lexemes.scan_slot hsecond hx hrest,
    Lexemes.scan_nil]
  rfl

def date : Node := .root [.text "SELECT ", .bind dateVariable, .text " ", .bind dateBehind]

theorem parse_dateText : Node.parse dateText = .ok date := by
  rw [Node.parse, ofText_dateText]
  rfl

theorem Node.parse_quotes_date : Node.parse dateText = .ok date ∧
    Sql.Zone.code.after "SELECT /*pmb.d*/N'a".toList = .literal := by
  refine ⟨parse_dateText, ?_⟩
  have hlexemes : (Lexemes.ofText dateText.toList).1 =
      [⟨dateText.toList, .sql "SELECT ".toList⟩] ++ dateSlot ::
        [⟨" /*pmb.x*/b'".toList, .sql [' ']⟩,
          ⟨"/*pmb.x*/b'".toList, .slot "pmb.x".toList false dateBehind⟩] := by
    rw [ofText_dateText]
    rfl
  have hslot : (false, dateVariable) ∈ date.slots := by
    simp [date, Node.slots, Node.leaves, leavesAll, Node.slot?]
  obtain ⟨hslots, hplaces⟩ := Node.parse_quotes parse_dateText
  have huncommented := (hslots _ hslot).2.2 rfl
  have hplace := hplaces _ _ _ "pmb.d".toList false dateVariable hlexemes rfl
    (by simp [Lexeme.IsNeutral])
  exact (hplace.2 huncommented).mpr (by decide)

theorem Node.parse_quotes_cut : Node.parse dateText = .ok date ∧
    (∃ w ∈ date.slots, ¬Even (Sql.quotes w.2.testValue.toList) ∧
      ¬TestValue.Whole w.2.testValue.toList) ∧
    Sql.Zone.code.after "SELECT /*pmb.d*/N'a".toList = .literal := by
  have hslot : (false, dateVariable) ∈ date.slots := by
    simp [date, Node.slots, Node.leaves, leavesAll, Node.slot?]
  have hodd : ¬Even (Sql.quotes dateVariable.testValue.toList) := by decide
  refine ⟨parse_dateText, ⟨_, hslot, hodd, ?_⟩, by decide⟩
  rwa [TestValue.whole_iff_even]

end SqlTemplate
