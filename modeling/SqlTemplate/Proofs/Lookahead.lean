import Mathlib.Data.List.TakeWhile
import SqlTemplate.Proofs.LexemeSteps
import SqlTemplate.Proofs.Piece
import SqlTemplate.Proofs.TestValueGrammar

/-!
How far reading looks ahead. What has been read of a text up to a border stays when more text comes
behind it, as long as the border is not the very end.
-/
namespace SqlTemplate

theorem eq_cons_of_append {cs more ds : List Char} {c : Char} (hcs : cs ≠ [])
    (h : cs ++ more = c :: ds) : ∃ es, cs = c :: es := by
  obtain ⟨d, es, rfl⟩ := List.exists_cons_of_ne_nil hcs
  rw [List.cons_append, List.cons.injEq] at h
  exact ⟨es, by rw [h.1]⟩

namespace TestValue

theorem literalRest?_more {cs : List Char} {r : List Char × List Char}
    (h : literalRest? cs = some r) (hbehind : r.2 ≠ []) (more : List Char) :
    literalRest? (cs ++ more) = some (r.1, r.2 ++ more) := by
  fun_induction literalRest? cs generalizing r with
  | case1 cs ih =>
    obtain ⟨u, hu, rfl⟩ := Option.map_eq_some_iff.1 h
    exact (literalRest?.eq_1 (cs ++ more)).trans (congrArg _ (ih hu hbehind))
  | case2 cs hsecond =>
    cases h
    apply literalRest?.eq_2
    intro ds hds
    obtain ⟨es, hes⟩ := eq_cons_of_append hbehind hds
    exact hsecond es hes
  | case3 c cs _ hc ih =>
    obtain ⟨u, hu, rfl⟩ := Option.map_eq_some_iff.1 h
    exact (literalRest?.eq_3 c _ (fun _ h => absurd h hc) hc).trans
      (congrArg _ (ih hu hbehind))
  | case4 => cases h

theorem endsBare_more (c d : Char) (cs more : List Char) :
    endsBare (c :: d :: (cs ++ more)) = endsBare (c :: d :: cs) := by
  by_cases hblock : c = '/' ∧ d = '*'
  · obtain ⟨rfl, rfl⟩ := hblock
    rfl
  by_cases hline : c = '-' ∧ d = '-'
  · obtain ⟨rfl, rfl⟩ := hline
    rfl
  have hnone : ∀ ds, (∀ es, c = '/' → d :: ds = '*' :: es → False) ∧
      ∀ es, c = '-' → d :: ds = '-' :: es → False := by
    intro ds
    constructor
    · rintro es hc heq
      cases heq
      exact hblock ⟨hc, rfl⟩
    · rintro es hc heq
      cases heq
      exact hline ⟨hc, rfl⟩
  rw [endsBare.eq_3 c _ (hnone (cs ++ more)).1 (hnone (cs ++ more)).2,
    endsBare.eq_3 c _ (hnone cs).1 (hnone cs).2]

def ShowsEnd (behind : List Char) : Prop :=
  behind ≠ [] ∧ ∀ more, endsBare (behind ++ more) = endsBare behind

theorem showsEnd_of_length {behind : List Char} (h : 2 ≤ behind.length) : ShowsEnd behind := by
  cases behind with
  | nil => simp at h
  | cons c cs =>
    cases cs with
    | nil => simp at h
    | cons d cs => exact ⟨List.cons_ne_nil _ _, endsBare_more c d cs⟩

theorem showsEnd_of_mem {behind : List Char} (h : '\n' ∈ behind) : ShowsEnd behind := by
  cases behind with
  | nil => cases h
  | cons c cs =>
    cases cs with
    | nil =>
      obtain rfl := List.mem_singleton.mp h
      exact ⟨List.cons_ne_nil _ _, fun _ => rfl⟩
    | cons d cs => exact ⟨List.cons_ne_nil _ _, endsBare_more c d cs⟩

theorem bare_more {cs : List Char} (hbehind : ShowsEnd (bare cs).2) (more : List Char) :
    bare (cs ++ more) = ((bare cs).1, (bare cs).2 ++ more) := by
  obtain ⟨hne, hsame⟩ := hbehind
  fun_induction bare cs with
  | case1 => exact absurd rfl hne
  | case2 c cs hends =>
    rw [← hsame more] at hends
    exact (bare.eq_2 c _).trans (if_pos hends)
  | case3 c cs hends ih =>
    cases cs with
    | nil => exact absurd rfl hne
    | cons d cs =>
      rw [← endsBare_more c d cs more] at hends
      exact (bare.eq_2 c _).trans ((if_neg hends).trans (congrArg _ (ih hne hsame)))

theorem span_more {cs : List Char} {r : List Char × List Char} (h : span cs = .ok r)
    (hbehind : ShowsEnd r.2) (more : List Char) : span (cs ++ more) = .ok (r.1, r.2 ++ more) := by
  unfold span at h
  split at h
  · next text =>
    split at h
    · next u hu =>
      cases h
      have hne : u.2 ≠ [] := hbehind.1
      have hrest := literalRest?_more hu hne more
      simp [span, keep, hrest]
    · cases h
  · next text =>
    obtain ⟨u, hu, rfl⟩ := exists_of_map_eq_ok (mapError_eq_ok.mp h)
    obtain ⟨htext, hrest⟩ := groupRest_append hu
    have hspan : span ('(' :: text ++ more) =
        ((groupRest ('(' :: text ++ more) 0 none (text ++ more)).map (keep ['('])).mapError
          unterminated := rfl
    rw [hspan, htext, List.append_assoc, hrest _ none _ rfl]
    rfl
  · next hquote hopen =>
    cases h
    have hne : cs ≠ [] := by
      rintro rfl
      exact hbehind.1 rfl
    rw [span.eq_3, bare_more hbehind]
    · intro ds hds
      obtain ⟨es, hes⟩ := eq_cons_of_append hne hds
      exact hquote es hes
    · intro ds hds
      obtain ⟨es, hes⟩ := eq_cons_of_append hne hds
      exact hopen es hes

theorem read_more {cs value behind : List Char} (h : read cs = .ok (value, behind))
    (hbehind : ShowsEnd behind) (more : List Char) :
    read (cs ++ more) = .ok (value, behind ++ more) := by
  obtain ⟨hspan, hmark⟩ := read_eq_ok h
  exact read_of_span (span_more hspan hbehind more) hmark

end TestValue

namespace Verbatim

theorem closeComment?_more {cs : List Char} {r : List Char × List Char}
    (h : closeComment? cs = some r) (more : List Char) :
    closeComment? (cs ++ more) = some (r.1, r.2 ++ more) := by
  fun_induction closeComment? cs generalizing r with
  | case1 cs =>
    cases h
    rfl
  | case2 c cs hend ih =>
    obtain ⟨u, hu, rfl⟩ := Option.map_eq_some_iff.1 h
    have hcs : cs ≠ [] := by
      rintro rfl
      cases hu
    rw [List.cons_append, closeComment?.eq_2, ih hu]
    · rfl
    · intro ds hc hds
      obtain ⟨es, hes⟩ := eq_cons_of_append hcs hds
      exact hend es hc hes
  | case3 => cases h

theorem isPlain_more {cs : List Char} (h : cs ≠ []) (more : List Char) :
    isPlain (cs ++ more) = isPlain cs := by
  obtain ⟨c, cs, rfl⟩ := List.exists_cons_of_ne_nil h
  rfl

def Mode.more (text : List Char) : Mode → Mode
  | literal start => literal (start ++ text)
  | comment start => comment (start ++ text)
  | mode => mode

namespace Stop

def more (text : List Char) : Stop → Stop
  | lineElse here comment rest => lineElse (here ++ text) comment (rest ++ text)
  | marker here body rest => marker (here ++ text) body (rest ++ text)
  | stop => stop

def isFixed : Stop → Bool
  | lineElse _ _ rest => !rest.isEmpty
  | marker _ _ _ => true
  | _ => false

end Stop

theorem ne_nil_of_isFixed {mode : Mode} {cs : List Char} (h : (span mode cs).2.isFixed = true) :
    cs ≠ [] := by
  rintro rfl
  cases mode <;> cases h

theorem mem_of_isFixed_line {cs : List Char} (h : (span .line cs).2.isFixed = true) :
    '\n' ∈ cs := by
  induction cs with
  | nil => cases h
  | cons c cs ih =>
    by_cases hc : c = '\n'
    · exact hc ▸ List.mem_cons_self
    · rw [span, if_neg (by simpa [isLineEnd] using hc)] at h
      exact List.mem_cons_of_mem _ (ih h)

theorem mem_of_dropWhile {cs : List Char} (h : (cs.dropWhile (!isLineEnd ·)).isEmpty = false) :
    '\n' ∈ cs := by
  apply Decidable.byContradiction
  intro hmem
  have hnil : cs.dropWhile (!isLineEnd ·) = [] := by
    apply List.dropWhile_eq_nil_iff.mpr
    intro c hc
    have hne : c ≠ '\n' := fun hn => hmem (hn ▸ hc)
    simp [isLineEnd, hne]
  rw [hnil] at h
  cases h

theorem isLineEnd_of_dropWhile (cs : List Char) :
    ∀ c ∈ (cs.dropWhile (!isLineEnd ·)).head?, isLineEnd c = true := by
  intro c hc
  have hnot := List.head?_dropWhile_not (!isLineEnd ·) cs
  rw [Option.mem_def.mp hc] at hnot
  simpa using hnot

theorem takeWhile_more {cs : List Char} (h : '\n' ∈ cs) (more : List Char) :
    (cs ++ more).takeWhile (!isLineEnd ·) = cs.takeWhile (!isLineEnd ·) := by
  rw [List.takeWhile_append, if_neg]
  intro hlength
  have hall := (List.takeWhile_prefix (!isLineEnd ·) (l := cs)).eq_of_length hlength
  rw [← hall] at h
  have hend := List.all_eq_true.mp List.all_takeWhile _ h
  cases hend

theorem span_more {mode : Mode} {cs : List Char} (h : (span mode cs).2.isFixed = true)
    (more : List Char) :
    span (mode.more more) (cs ++ more) = ((span mode cs).1, (span mode cs).2.more more) := by
  -- The text behind a character read is not empty, so that the next character is the same.
  have next : ∀ {mode : Mode} {cs ds : List Char} {c : Char}, (span mode cs).2.isFixed = true →
      cs ++ more = c :: ds → ∃ es, cs = c :: es :=
    fun h => eq_cons_of_append (ne_nil_of_isFixed h)
  fun_induction span mode cs with
  | case1 blank cs here hp ih =>
    have hplain : isPlain (cs ++ more) = true := by
      rw [isPlain_more (ne_nil_of_isFixed h), hp]
    exact (span.eq_1 blank _).trans ((if_pos hplain).trans (congrArg (keep _) (ih h)))
  | case2 blank cs here hp body rest hclose =>
    have hcs : cs ≠ [] := by
      rintro rfl
      cases hclose
    have hplain : ¬isPlain (cs ++ more) = true := by rwa [isPlain_more hcs]
    refine (span.eq_1 blank (cs ++ more)).trans ((if_neg hplain).trans ?_)
    rw [closeComment?_more hclose]
    rfl
  | case3 => cases h
  | case4 blank cs ih => exact (span.eq_2 blank _).trans (congrArg (keep _) (ih h))
  | case5 blank cs comment helse =>
    have hrest : (cs.dropWhile (!isLineEnd ·)).isEmpty = false := (Bool.not_eq_true' _).mp h
    have hline : (cs ++ more).takeWhile (!isLineEnd ·) = comment := 
      takeWhile_more (mem_of_dropWhile hrest) more
    have hdrop : (cs ++ more).dropWhile (!isLineEnd ·) = cs.dropWhile (!isLineEnd ·) ++ more := by
      rw [List.dropWhile_append, if_neg (by rw [hrest]; exact Bool.false_ne_true)]
    refine (span.eq_3 blank (cs ++ more)).trans ?_
    rw [hline, hdrop, if_pos helse]
    rfl
  | case6 blank cs comment helse ih =>
    have hline : (cs ++ more).takeWhile (!isLineEnd ·) = comment :=
      takeWhile_more (mem_of_isFixed_line h) more
    refine (span.eq_3 blank (cs ++ more)).trans ?_
    rw [hline, if_neg helse]
    exact congrArg (keep _) (ih h)
  | case7 => cases h
  | case8 blank c cs hslash hquote hminus hmark ih =>
    refine (span.eq_5 blank c _ ?_ hquote ?_ hmark).trans (congrArg (keep _) (ih h))
    · intro ds hc hds
      obtain ⟨es, hes⟩ := next h hds
      exact hslash es hc hes
    · intro ds hc hds
      obtain ⟨es, hes⟩ := next h hds
      exact hminus es hc hes
  | case9 start cs ih => exact (span.eq_6 _ _).trans (congrArg (keep _) (ih h))
  | case10 start cs hsecond ih =>
    refine (span.eq_7 _ _ ?_).trans (congrArg (keep _) (ih h))
    intro ds hds
    obtain ⟨es, hes⟩ := next h hds
    exact hsecond es hes
  | case11 start c cs _ hquote ih =>
    exact (span.eq_8 _ c _ (fun _ hc => absurd hc hquote) hquote).trans (congrArg (keep _) (ih h))
  | case12 => cases h
  | case13 start cs ih => exact (span.eq_10 _ _).trans (congrArg (keep _) (ih h))
  | case14 start c cs hend ih =>
    refine (span.eq_11 _ c _ ?_).trans (congrArg (keep _) (ih h))
    intro ds hc hds
    obtain ⟨es, hes⟩ := next h hds
    exact hend es hc hes
  | case15 => cases h
  | case16 c cs ih =>
    have hmode : (if isLineEnd c then Mode.code true else .line).more more =
        if isLineEnd c then .code true else .line := by
      split <;> rfl
    have hread := ih h
    rw [hmode] at hread
    exact (span.eq_13 c _).trans (congrArg (keep _) hread)
  | case17 => cases h

theorem span_code_more {blank : Bool} {cs sql : List Char} {stop : Stop}
    (hs : span (.code blank) cs = (sql, stop)) (h : stop.isFixed = true) (more : List Char) :
    span (.code blank) (cs ++ more) = (sql, stop.more more) := by
  have hfixed : (span (.code blank) cs).2.isFixed = true := by rwa [hs]
  have hmore := span_more hfixed more
  rwa [hs] at hmore

theorem reads_of_span {mode : Mode} {cs : List Char} {r : List Char × Stop}
    (hs : span mode cs = r) : Reads cs r := hs ▸ span_reads mode cs

theorem eq_comment_of_marker {mode : Mode} {cs here body rest : List Char}
    (h : (span mode cs).2 = .marker here body rest) : here = Lexeme.comment body ++ rest := by
  fun_induction span mode cs with
  | case2 blank cs start hp other behind hclose =>
    have htext := (closeComment?_eq_some hclose).1
    injection h with hstart hbody hrest
    rw [← hstart, ← hbody, ← hrest, Lexeme.comment]
    simp only [start, htext, List.cons_append, List.append_assoc, List.nil_append]
  | case3 | case5 | case7 | case12 | case15 | case17 => cases h
  | _ =>
    rename_i ih
    exact ih h

end Verbatim

def Variable.withTestValue (v : Variable) (value : List Char) : Variable :=
  { v with testValue := String.ofList value, grouped := TestValue.isGroup value }

namespace Lexemes

def resume (more : List Char) (front : List (Placed Lexeme)) (behind : Lexemes) : Lexemes :=
  (front.map (fun l => ⟨l.here ++ more, l.item⟩) ++ behind.1, behind.2)

theorem push_concat {here : List Char} {l : Lexeme} {ls : Lexemes} {front : List (Placed Lexeme)}
    {last : Placed Lexeme} (h : (push here l ls).1 = front ++ [last]) (hl : last.item ≠ l) :
    ∃ before, front = ⟨here, l⟩ :: before ∧ ls.1 = before ++ [last] := by
  rcases List.cons_eq_append_iff.mp h with ⟨-, hlast⟩ | hfront
  · rw [List.cons.injEq] at hlast
    exact absurd (congrArg Placed.item hlast.1) hl
  · exact hfront

theorem pushSql_concat {here text : List Char} {ls : Lexemes} {front : List (Placed Lexeme)}
    {last : Placed Lexeme} (h : (pushSql here text ls).1 = front ++ [last])
    (hl : ∀ sql, last.item ≠ .sql sql) :
    ∃ before, ls.1 = before ++ [last] ∧ ∀ more behind,
      pushSql (here ++ more) text (resume more before behind) = resume more front behind := by
  rw [pushSql] at h
  split at h
  · next hempty =>
    refine ⟨front, h, ?_⟩
    intro more behind
    rw [pushSql, if_pos hempty]
  · next hempty =>
    obtain ⟨before, rfl, hls⟩ := push_concat h (hl text)
    refine ⟨before, hls, ?_⟩
    intro more behind
    rw [pushSql, if_neg hempty]
    rfl

theorem scan_more {blank : Bool} {cs body : List Char} {embedded : Bool} {v : Variable}
    {front : List (Placed Lexeme)}
    (h : (scan blank cs).1 = front ++ [⟨Lexeme.comment body, .slot body embedded v⟩])
    {more value behind : List Char} (hr : TestValue.read more = .ok (value, behind)) :
    Lexeme.comment body <:+ cs ∧
      scan blank (cs ++ more) = resume more front
        (push (Lexeme.comment body ++ more) (.slot body embedded (v.withTestValue value))
          (scan false behind)) := by
  -- What is behind a lexeme in front of the marker ends in the marker, so it is not too short.
  fun_induction scan blank cs generalizing front with
  | case1 => simp at h
  | case2 blank cs _ sql hs =>
    obtain ⟨before, hls, -⟩ := pushSql_concat h (by simp)
    simp at hls
  | case3 => simp [fail] at h
  | case4 blank cs _ sql here comment rest hs ih =>
    obtain ⟨before, hls, hsql⟩ := pushSql_concat h (by simp)
    obtain ⟨before, rfl, hrest⟩ := push_concat hls (by simp)
    obtain ⟨hends, hscan⟩ := ih hrest
    have hfixed : (Verbatim.Stop.lineElse here comment rest).isFixed = true := by
      obtain ⟨text, rfl⟩ := hends
      cases text <;> rfl
    constructor
    · rw [(Verbatim.reads_of_span hs).1, ← List.append_assoc]
      exact hends.trans (List.suffix_append _ _)
    · rw [scan_lineElse (Verbatim.span_code_more hs hfixed more), hscan]
      exact hsql more _
  | case5 blank cs _ sql here other rest hs ihd ihs =>
    obtain ⟨before, hls, hsql⟩ := pushSql_concat h (by simp)
    have hmore := Verbatim.span_code_more hs rfl more
    have hrest : rest <:+ cs := by
      rw [(Verbatim.reads_of_span hs).1, ← List.append_assoc]
      exact List.suffix_append _ _
    split at hls
    · simp [fail] at hls
    · next d hm =>
      obtain ⟨before, rfl, hpast⟩ := push_concat hls (by simp)
      obtain ⟨hends, hscan⟩ := ihd hpast
      refine ⟨hends.trans hrest, ?_⟩
      rw [scan_directive hmore hm, hscan]
      exact hsql more _
    · next e path options hm =>
      split at hls
      · simp [fail] at hls
      · next word past hword =>
        rcases List.cons_eq_append_iff.mp hls with ⟨rfl, hlast⟩ | ⟨before, rfl, hpast⟩
        · -- The marker is this one, and nothing stands behind it.
          rw [List.cons.injEq, Placed.mk.injEq, Lexeme.slot.injEq] at hlast
          obtain ⟨⟨rfl, rfl, rfl, rfl⟩, -⟩ := hlast
          have hstart := Verbatim.eq_comment_of_marker (congrArg Prod.snd hs)
          rw [List.self_eq_append_right] at hstart
          subst hstart
          constructor
          · rw [(Verbatim.reads_of_span hs).1, List.append_nil]
            exact List.suffix_append _ _
          · rw [scan_slot hmore hm hr]
            exact hsql more (push _ _ _)
        · obtain ⟨hends, hscan⟩ := ihs _ _ hword hpast
          have hlong : 2 ≤ past.length := by
            have hle := hends.length_le
            simp only [Lexeme.comment, List.length_cons] at hle
            omega
          obtain ⟨hspan, -⟩ := TestValue.read_eq_ok hword
          obtain ⟨rfl, -⟩ := TestValue.span_eq_ok hspan
          refine ⟨(hends.trans (List.suffix_append _ _)).trans hrest, ?_⟩
          rw [scan_slot hmore hm
            (TestValue.read_more hword (TestValue.showsEnd_of_length hlong) more), hscan]
          exact hsql more _

end Lexemes
end SqlTemplate
