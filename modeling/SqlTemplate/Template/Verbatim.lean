import SqlTemplate.Template.TestValue
import SqlTemplate.Text.Blank

namespace SqlTemplate.Verbatim

inductive Mode where
  /-- The line holds only white space so far if `blank`. -/
  | code (blank : Bool)
  | literal (start : List Char)
  | comment (start : List Char)
  | line

inductive Stop where
  | ended
  | failed (error : Placed Fault)
  | lineElse (here comment rest : List Char)
  | marker (here body rest : List Char)

def closeComment? : List Char → Option (List Char × List Char)
  | '*' :: '/' :: cs => some ([], cs)
  | c :: cs => (closeComment? cs).map (TestValue.keep [c])
  | [] => none

/-- Comments that start with white space, a plus sign or a star, as empty ones do with that of
their end, are part of the SQL. -/
def isPlain : List Char → Bool
  | c :: _ => Text.isBlank c || c = '+' || c = '*'
  | [] => false

def saysElse (comment : List Char) : Bool := Text.trim comment = "ELSE".toList

def isLineEnd (c : Char) : Bool := c = '\n'

def keep (front : List Char) (r : List Char × Stop) : List Char × Stop := (front ++ r.1, r.2)

def span : Mode → List Char → List Char × Stop
  | .code _, '/' :: '*' :: cs =>
    let here := '/' :: '*' :: cs
    if isPlain cs then keep ['/', '*'] (span (.comment here) cs)
    else
      match closeComment? cs with
      | some (body, rest) => ([], .marker here body rest)
      | none => ([], .failed ⟨here, .unterminatedComment⟩)
  | .code _, '\'' :: cs => keep ['\''] (span (.literal ('\'' :: cs)) cs)
  | .code blank, '-' :: '-' :: cs =>
    let comment := cs.takeWhile (!isLineEnd ·)
    if blank && saysElse comment then
      let here := '-' :: '-' :: cs
      ([], .lineElse here ('-' :: '-' :: comment) (cs.dropWhile (!isLineEnd ·)))
    else keep ['-', '-'] (span .line cs)
  | .code _, '?' :: cs => ([], .failed ⟨'?' :: cs, .placeholderInText⟩)
  | .code blank, c :: cs =>
    keep [c] (span (.code (isLineEnd c || (blank && Text.isBlank c))) cs)
  | .literal start, '\'' :: '\'' :: cs => keep ['\'', '\''] (span (.literal start) cs)
  | .literal _, '\'' :: cs => keep ['\''] (span (.code false) cs)
  | .literal start, c :: cs => keep [c] (span (.literal start) cs)
  | .literal start, [] => ([], .failed (TestValue.unterminated start))
  | .comment _, '*' :: '/' :: cs => keep ['*', '/'] (span (.code false) cs)
  | .comment start, c :: cs => keep [c] (span (.comment start) cs)
  | .comment start, [] => ([], .failed ⟨start, .unterminatedComment⟩)
  | .line, c :: cs => keep [c] (span (if isLineEnd c then .code true else .line) cs)
  | _, [] => ([], .ended)

theorem length_closeComment? {cs : List Char} {r : List Char × List Char}
    (h : closeComment? cs = some r) : r.2.length < cs.length := by
  fun_induction closeComment? cs generalizing r with
  | case1 cs => cases h; simp only [List.length_cons]; omega
  | case2 c cs _ ih =>
    obtain ⟨u, hu, rfl⟩ := Option.map_eq_some_iff.1 h
    have := ih hu
    simp only [TestValue.keep, List.length_cons]
    omega
  | case3 => cases h

def Stop.rest : Stop → List Char
  | lineElse _ _ rest => rest
  | marker _ _ rest => rest
  | _ => []

theorem length_span_lt (mode : Mode) (cs : List Char) (h : cs ≠ []) :
    (span mode cs).2.rest.length < cs.length := by
  have hle : ∀ mode (cs : List Char),
      (span mode cs).2.rest.length < cs.length ∨ (span mode cs).2.rest = [] := by
    intro mode cs
    fun_induction span mode cs with
    | case2 _ cs here _ body rest hc =>
      left
      have := length_closeComment? hc
      simp only [Stop.rest, List.length_cons] at *
      omega
    | case5 blank cs comment =>
      left
      simp only [Stop.rest, List.length_cons]
      have := (List.dropWhile_suffix (!isLineEnd ·) (l := cs)).length_le
      omega
    | _ =>
      first
      | exact .inr rfl
      | (rename_i ih
         simp only [keep, List.length_cons] at ih ⊢
         rcases ih with ih | ih
         · left; omega
         · right; exact ih)
  rcases hle mode cs with hl | hl
  · exact hl
  · rw [hl]; exact List.length_pos_iff.mpr h

end SqlTemplate.Verbatim
