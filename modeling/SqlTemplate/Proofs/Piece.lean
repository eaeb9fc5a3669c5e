import SqlTemplate.Proofs.Stretch
import SqlTemplate.Proofs.TestValueText

namespace SqlTemplate

inductive Piece where
  | sql (text : List Char)
  | directive (body : List Char)
  | lineElse (comment : List Char)
  | marker (body : List Char)
  | testValue (value : List Char)

namespace Piece

def chars : Piece → List Char
  | sql text | lineElse text | testValue text => text
  | directive body | marker body => Lexeme.comment body

def source (pieces : List Piece) : List Char := pieces.flatMap chars

def text? : Piece → Option String
  | sql text => some (String.ofList text)
  | _ => none

def texts (pieces : List Piece) : List String := pieces.filterMap text?

def slots? : List Piece → Option (List (List Char × List Char))
  | [] => some []
  | marker body :: testValue value :: pieces => (slots? pieces).map ((body, value) :: ·)
  | marker _ :: _ | testValue _ :: _ => none
  | _ :: pieces => slots? pieces

def IsBody (body : List Char) : Prop :=
  ¬['*', '/'] <:+: body ∧ Verbatim.isPlain (body ++ ['*', '/']) = false

def OnlyPlain (z : Sql.Zone) (text : List Char) : Prop :=
  ∀ front behind, text = front ++ '/' :: '*' :: behind → (z.after front).isCode = true →
    Verbatim.isPlain behind = true

def Valid : Piece → Prop
  | sql text => text ≠ [] ∧ OnlyPlain .code text
  | directive body => IsBody body ∧ ∃ d, Marker.parse body = .ok (.directive d)
  | lineElse comment =>
    ∃ text, comment = '-' :: '-' :: text ∧ '\n' ∉ text ∧ Verbatim.saysElse text = true
  | marker body => IsBody body
  | testValue value => TestValue.span value = .ok (value, [])

structure Spells (slot : List Char × List Char) (w : Bool × Variable) : Prop where
  marker : Marker.parse slot.1 = .ok (.slot w.1 w.2.path w.2.options)
  testValue : w.2.testValue.toList = slot.2
  grouped : w.2.grouped = TestValue.isGroup slot.2

theorem onlyPlain_nil (z : Sql.Zone) : OnlyPlain z [] := by
  intro front behind h
  cases front <;> cases h

theorem OnlyPlain.cons {z : Sql.Zone} {c : Char} {text : List Char}
    (hc : z.isCode = true → c = '/' → ∀ behind, text = '*' :: behind →
      Verbatim.isPlain behind = true) (h : OnlyPlain (z.next c) text) :
    OnlyPlain z (c :: text) := by
  rintro front behind heq hz
  cases front with
  | nil =>
    cases heq
    exact hc hz rfl _ rfl
  | cons d front =>
    cases heq
    exact h front behind rfl hz

end Piece

namespace Verbatim

theorem closeComment?_eq_some {cs : List Char} {r : List Char × List Char}
    (h : closeComment? cs = some r) :
    cs = r.1 ++ '*' :: '/' :: r.2 ∧ ¬['*', '/'] <:+: r.1 := by
  fun_induction closeComment? cs generalizing r with
  | case1 cs =>
    cases h
    exact ⟨rfl, by simp⟩
  | case2 c cs hend ih =>
    obtain ⟨u, hu, rfl⟩ := Option.map_eq_some_iff.1 h
    obtain ⟨rfl, hbody⟩ := ih hu
    refine ⟨rfl, ?_⟩
    intro hinfix
    rcases List.infix_cons_iff.mp hinfix with hprefix | hinfix
    · obtain ⟨hc, text, htext⟩ := List.cons_prefix_cons.mp hprefix
      have hu1 : u.1 = '/' :: text := htext.symm
      exact hend (text ++ '*' :: '/' :: u.2) hc.symm (by rw [hu1]; rfl)
    · exact hbody hinfix
  | case3 => cases h

def Reads (cs : List Char) (r : List Char × Stop) : Prop :=
  match r.2 with
  | .ended => cs = r.1
  | .failed _ => True
  | .lineElse _ comment rest => cs = r.1 ++ (comment ++ rest) ∧ (Piece.lineElse comment).Valid
  | .marker _ body rest => cs = r.1 ++ (Lexeme.comment body ++ rest) ∧ Piece.IsBody body

theorem Reads.keep {cs : List Char} {r : List Char × Stop} (h : Reads cs r) (front : List Char) :
    Reads (front ++ cs) (keep front r) := by
  obtain ⟨sql, stop⟩ := r
  cases stop with
  | ended => exact congrArg (front ++ ·) h
  | failed f => trivial
  | lineElse here comment rest => exact ⟨by rw [h.1, Verbatim.keep, List.append_assoc], h.2⟩
  | marker here body rest => exact ⟨by rw [h.1, Verbatim.keep, List.append_assoc], h.2⟩

theorem span_reads (mode : Mode) (cs : List Char) : Reads cs (span mode cs) := by
  fun_induction span mode cs with
  | case2 blank cs here hp body rest hclose =>
    obtain ⟨rfl, hbody⟩ := closeComment?_eq_some hclose
    refine ⟨by simp [Lexeme.comment], hbody, ?_⟩
    rw [← Bool.not_eq_true]
    intro hplain
    apply hp
    cases body <;> exact hplain
  | case5 blank cs comment helse =>
    have htext : cs = comment ++ cs.dropWhile (!isLineEnd ·) :=
      List.takeWhile_append_dropWhile.symm
    refine ⟨congrArg (['-', '-'] ++ ·) htext, comment, rfl, ?_, ?_⟩
    · intro hmem
      have hend := List.all_eq_true.mp List.all_takeWhile _ hmem
      cases hend
    · exact (Bool.and_eq_true_iff.mp helse).2
  | case3 | case7 | case12 | case15 => trivial
  | case17 => rfl
  | _ =>
    rename_i ih
    exact ih.keep _

theorem span_onlyPlain (blank : Bool) (cs : List Char) :
    Piece.OnlyPlain .code (span (.code blank) cs).1 := by
  apply span_induction (P := fun z r => Piece.OnlyPlain z r.1) _ _ (.closed blank cs)
  · intro z stop _
    exact Piece.onlyPlain_nil z
  · intro z c r _ hplain hr
    exact hr.cons hplain

end Verbatim

namespace Lexeme

def pieces : Lexeme → List Piece
  | sql text => [.sql text]
  | lineElse comment => [.lineElse comment]
  | directive body _ => [.directive body]
  | slot body _ v => [.marker body, .testValue v.testValue.toList]

def Valid : Lexeme → Prop
  | sql text => (Piece.sql text).Valid
  | lineElse comment => (Piece.lineElse comment).Valid
  | directive body d => Piece.IsBody body ∧ Marker.parse body = .ok (.directive d)
  | slot body embedded v => Piece.IsBody body ∧
    Piece.Spells (body, v.testValue.toList) (embedded, v) ∧
    (Piece.testValue v.testValue.toList).Valid

theorem source_pieces (l : Lexeme) : Piece.source l.pieces = l.source := by
  cases l <;> simp [pieces, Piece.source, Piece.chars, source]

theorem Valid.pieces {l : Lexeme} (h : l.Valid) : ∀ p ∈ l.pieces, p.Valid := by
  cases l with
  | sql text => exact List.forall_mem_singleton.mpr h
  | lineElse comment => exact List.forall_mem_singleton.mpr h
  | directive body d => exact List.forall_mem_singleton.mpr ⟨h.1, d, h.2⟩
  | slot body embedded v =>
    obtain ⟨hbody, -, hvalue⟩ := h
    exact List.forall_mem_cons.mpr ⟨hbody, List.forall_mem_singleton.mpr hvalue⟩

end Lexeme

namespace Lexemes

def Covers (cs : List Char) (ls : Lexemes) : Prop :=
  (ls.2 = none → ls.1.flatMap (fun l => l.item.source) = cs) ∧ ∀ l ∈ ls.1, l.item.Valid

namespace Covers

theorem fail (cs : List Char) (f : Placed Fault) : Covers cs (fail f) :=
  ⟨nofun, by simp [Lexemes.fail]⟩

theorem push {l : Lexeme} {cs : List Char} {ls : Lexemes} (hl : l.Valid) (h : Covers cs ls)
    (here : List Char) : Covers (l.source ++ cs) (push here l ls) := by
  refine ⟨fun hnone => congrArg (l.source ++ ·) (h.1 hnone), ?_⟩
  intro m hm
  rcases List.mem_cons.mp hm with rfl | hm
  · exact hl
  · exact h.2 m hm

theorem pushSql {text cs : List Char} {ls : Lexemes} (ht : Piece.OnlyPlain .code text)
    (h : Covers cs ls) (here : List Char) : Covers (text ++ cs) (pushSql here text ls) := by
  rw [Lexemes.pushSql]
  split
  · next hempty =>
    rw [List.isEmpty_iff.mp hempty]
    exact h
  · next hne =>
    have hsql : (Lexeme.sql text).Valid := ⟨fun he => hne (List.isEmpty_iff.mpr he), ht⟩
    exact push hsql h here

end Covers

theorem scan_covers (blank : Bool) (cs : List Char) : Covers cs (scan blank cs) := by
  have hstretch : ∀ {blank cs sql stop}, Verbatim.span (.code blank) cs = (sql, stop) →
      Verbatim.Reads cs (sql, stop) ∧ Piece.OnlyPlain .code sql := by
    intro blank cs sql stop hs
    have hreads := Verbatim.span_reads (.code blank) cs
    have hplain := Verbatim.span_onlyPlain blank cs
    rw [hs] at hreads hplain
    exact ⟨hreads, hplain⟩
  fun_induction scan blank cs with
  | case1 => exact ⟨fun _ => rfl, by simp⟩
  | case2 blank cs _ sql hs =>
    obtain ⟨hcs, ht⟩ := hstretch hs
    have heq : cs = sql ++ [] := by rw [List.append_nil]; exact hcs
    rw [heq]
    exact .pushSql ht ⟨fun _ => rfl, by simp⟩ _
  | case3 => exact .fail _ _
  | case4 blank cs _ sql here comment rest hs ih =>
    obtain ⟨⟨heq, helse⟩, ht⟩ := hstretch hs
    rw [heq]
    exact .pushSql ht (.push (l := .lineElse comment) helse ih here) _
  | case5 blank cs _ sql here body rest hs ihd ihs =>
    obtain ⟨⟨heq, hbody⟩, ht⟩ := hstretch hs
    rw [heq]
    apply Covers.pushSql ht
    split
    · exact .fail _ _
    · next d hm => exact .push (l := .directive body d) ⟨hbody, hm⟩ ihd here
    · next embedded path options hm =>
      split
      · exact .fail _ _
      · next value behind hr =>
        obtain ⟨hspan, -⟩ := TestValue.read_eq_ok hr
        obtain ⟨hrest, hwhole⟩ := TestValue.span_eq_ok hspan
        let v : Variable := ⟨path, String.ofList value, TestValue.isGroup value, options⟩
        have hvalue : v.testValue.toList = value := String.toList_ofList
        have hv : (Lexeme.slot body embedded v).Valid := by
          rw [Lexeme.Valid, hvalue]
          exact ⟨hbody, ⟨hm, hvalue, rfl⟩, hwhole⟩
        have hsource : (Lexeme.slot body embedded v).source ++ behind =
            Lexeme.comment body ++ rest := by
          rw [Lexeme.source, hvalue, hrest, List.append_assoc]
        rw [← hsource]
        exact .push hv (ihs _ _ hr) here

end Lexemes
end SqlTemplate
