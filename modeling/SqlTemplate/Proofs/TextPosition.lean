import Mathlib.Data.List.DropRight
import Mathlib.Data.Prod.Lex
import Mathlib.Order.Bounds.Defs
import SqlTemplate.Text.Position

namespace SqlTemplate.Position

theorem offset_advance (p : Position) (c : Char) :
    (p.advance c).offset = p.offset + c.utf8Size := by
  rw [advance]
  split <;> rfl

theorem utf8ByteSize_cons (c : Char) (cs : List Char) :
    (String.ofList (c :: cs)).utf8ByteSize = c.utf8Size + (String.ofList cs).utf8ByteSize := by
  rw [String.ofList_cons, String.utf8ByteSize_append, String.utf8ByteSize_singleton]

theorem offset_foldl_advance (front : List Char) (p : Position) :
    (front.foldl advance p).offset = p.offset + (String.ofList front).utf8ByteSize := by
  induction front generalizing p with
  | nil => simp
  | cons c front ih =>
    rw [List.foldl_cons, ih, offset_advance, utf8ByteSize_cons, Nat.add_assoc]

theorem before_append (front here : List Char) :
    before (front ++ here) here = front.foldl advance start := by
  simp [before]

theorem advanceTo_append (front here : List Char) (p : Position) :
    advanceTo (p.offset + (String.ofList front).utf8ByteSize) p (front ++ here) =
      front.foldl advance p := by
  induction front generalizing p with
  | nil =>
    cases here with
    | nil => rfl
    | cons c cs =>
      have hsize := c.utf8Size_pos
      have hempty : (String.ofList []).utf8ByteSize = 0 := rfl
      rw [List.nil_append, advanceTo, hempty, if_neg (by omega)]
      rfl
  | cons c front ih =>
    rw [List.cons_append, advanceTo, utf8ByteSize_cons, if_pos (by omega), ← Nat.add_assoc,
      ← offset_advance, ih, List.foldl_cons]

theorem locate_append (front here : String) :
    locate (front ++ here) front.utf8ByteSize = before (front ++ here).toList here.toList := by
  have happend := advanceTo_append front.toList here.toList start
  rw [String.ofList_toList] at happend
  rw [String.toList_append, before_append, ← happend, locate, String.toList_append]
  simp [start]

def lineColumn (p : Position) : ℕ ×ₗ ℕ := toLex (p.line, p.column)

theorem lineColumn_advance (p : Position) (c : Char) :
    p.lineColumn < (p.advance c).lineColumn := by
  rw [lineColumn, lineColumn, Prod.Lex.toLex_lt_toLex, advance]
  split
  · exact .inl (Nat.lt_succ_self _)
  · exact .inr ⟨rfl, Nat.lt_succ_self _⟩

theorem lineColumn_foldl_advance {cs : List Char} (h : cs ≠ []) (p : Position) :
    p.lineColumn < (cs.foldl advance p).lineColumn := by
  induction cs generalizing p with
  | nil => exact absurd rfl h
  | cons c cs ih =>
    rw [List.foldl_cons]
    cases cs with
    | nil => exact lineColumn_advance p c
    | cons d cs => exact (lineColumn_advance p c).trans (ih (by simp) _)

theorem foldl_advance_start (front : List Char) :
    front.foldl advance start = ⟨(String.ofList front).utf8ByteSize, 1 + front.count '\n',
      1 + (front.rtakeWhile (· ≠ '\n')).length⟩ := by
  induction front using List.reverseRecOn with
  | nil => rfl
  | append_singleton front c ih =>
    have hsize : (String.ofList (front ++ [c])).utf8ByteSize =
        (String.ofList front).utf8ByteSize + c.utf8Size := by
      rw [String.ofList_append, String.utf8ByteSize_append, ← String.singleton_eq_ofList,
        String.utf8ByteSize_singleton]
    rw [List.foldl_append, ih, List.foldl_cons, List.foldl_nil, advance, hsize, List.count_append,
      List.count_singleton, List.rtakeWhile_concat, ← Nat.add_assoc]
    by_cases hc : c = '\n'
    · simp only [hc, if_true, beq_self_eq_true, ne_eq, not_true_eq_false, decide_false,
        Bool.false_eq_true, if_false, List.length_nil, Nat.add_zero]
    · simp [hc, Nat.add_assoc]

theorem exists_advanceTo_eq (offset : Nat) (p : Position) (cs : List Char) :
    ∃ front here, cs = front ++ here ∧ advanceTo offset p cs = front.foldl advance p ∧
      (p.offset ≤ offset → (front.foldl advance p).offset ≤ offset) ∧
      ∀ c ∈ here.head?, offset < (front.foldl advance p).offset + c.utf8Size := by
  induction cs generalizing p with
  | nil => exact ⟨[], [], rfl, rfl, id, by simp⟩
  | cons c cs ih =>
    rw [advanceTo]
    split
    · next hc =>
      obtain ⟨front, here, rfl, hadvance, hle, hnext⟩ := ih (p.advance c)
      rw [offset_advance] at hle
      exact ⟨c :: front, here, rfl, hadvance, fun _ => hle hc, hnext⟩
    · next hc =>
      refine ⟨[], c :: cs, rfl, rfl, id, ?_⟩
      rintro d ⟨⟩
      exact Nat.not_le.mp hc

theorem isValid_iff {text : String} {o : Nat} : String.Pos.Raw.IsValid text ⟨o⟩ ↔
    ∃ front here : String, text = front ++ here ∧ front.utf8ByteSize = o := by
  rw [String.Pos.Raw.isValid_iff_exists_append]
  constructor
  · rintro ⟨front, here, rfl, ho⟩
    exact ⟨front, here, rfl, (congrArg String.Pos.Raw.byteIdx ho).symm⟩
  · rintro ⟨front, here, rfl, rfl⟩
    exact ⟨front, here, rfl, rfl⟩

theorem exists_between {front here front' here' : String} (h : front ++ here = front' ++ here')
    (hlt : front.utf8ByteSize < front'.utf8ByteSize) :
    ∃ between, between ≠ "" ∧ front' = front ++ between ∧ here = between ++ here' := by
  have hlists : front.toList ++ here.toList = front'.toList ++ here'.toList := by
    rw [← String.toList_append, h, String.toList_append]
  rcases List.append_eq_append_iff.mp hlists with ⟨between, hfront, hhere⟩ | ⟨between, hfront, -⟩
  · have hfront' : front' = front ++ String.ofList between := by
      rw [← String.toList_inj, hfront, String.toList_append, String.toList_ofList]
    refine ⟨String.ofList between, ?_, hfront', ?_⟩
    · intro hempty
      rw [hfront', hempty, String.append_empty] at hlt
      exact Nat.lt_irrefl _ hlt
    · rw [← String.toList_inj, hhere, String.toList_append, String.toList_ofList]
  · have hsize : front.utf8ByteSize = front'.utf8ByteSize + (String.ofList between).utf8ByteSize := by
      rw [← String.utf8ByteSize_append, ← @String.ofList_toList front, hfront,
        String.ofList_append, String.ofList_toList]
    omega

theorem exists_head {s : String} (h : s ≠ "") :
    ∃ c ∈ s.toList.head?, c.utf8Size ≤ s.utf8ByteSize := by
  obtain ⟨c, cs, hs⟩ := List.exists_cons_of_ne_nil (String.toList_eq_nil_iff.not.mpr h)
  have hsize := utf8ByteSize_cons c cs
  rw [← hs, String.ofList_toList] at hsize
  exact ⟨c, by rw [hs]; rfl, by omega⟩

theorem locate_front (front here : String) :
    locate (front ++ here) front.utf8ByteSize = ⟨front.utf8ByteSize, 1 + front.toList.count '\n',
      1 + (front.toList.rtakeWhile (· ≠ '\n')).length⟩ := by
  rw [locate_append, String.toList_append, before_append, foldl_advance_start, String.ofList_toList]

theorem lineColumn_locate_lt (front between here : String) (h : between ≠ "") :
    (locate (front ++ between ++ here) front.utf8ByteSize).lineColumn <
      (locate (front ++ between ++ here) (front ++ between).utf8ByteSize).lineColumn := by
  have hbetween : between.toList ≠ [] := by simpa using h
  rw [locate_append (front ++ between), String.toList_append, before_append, String.append_assoc,
    locate_append front, String.toList_append, before_append, String.toList_append,
    List.foldl_append]
  exact lineColumn_foldl_advance hbetween _

theorem exists_locate_eq (text : String) (offset : Nat) : ∃ front here : String,
    text = front ++ here ∧ locate text offset = locate text front.utf8ByteSize ∧
      front.utf8ByteSize ≤ offset ∧
      ∀ c ∈ here.toList.head?, offset < front.utf8ByteSize + c.utf8Size := by
  obtain ⟨front, here, htext, hadvance, hle, hnext⟩ := exists_advanceTo_eq offset start text.toList
  have happend : text = String.ofList front ++ String.ofList here := by
    rw [← String.ofList_append, ← htext, String.ofList_toList]
  have hoffset : (front.foldl advance start).offset = (String.ofList front).utf8ByteSize := by
    rw [offset_foldl_advance]
    exact Nat.zero_add _
  have hlocate : locate text offset = locate text (String.ofList front).utf8ByteSize := by
    have hfront := locate_append (String.ofList front) (String.ofList here)
    rw [← happend, String.toList_ofList, htext, before_append] at hfront
    rw [locate, hadvance, hfront]
  rw [hoffset] at hle hnext
  refine ⟨String.ofList front, String.ofList here, happend, hlocate, hle (Nat.zero_le _), ?_⟩
  rwa [String.toList_ofList]

/-- A place lies as many lines down as there are line ends in front of it, and as many columns to
the right as there are characters behind the last of them. Places increase with their offsets. An
offset inside a character, or beyond the text, counts as the greatest one below that is neither. -/
theorem locate_strictMono (text : String) :
    (∀ front here : String, text = front ++ here →
      locate text front.utf8ByteSize = ⟨front.utf8ByteSize, 1 + front.toList.count '\n',
        1 + (front.toList.rtakeWhile (· ≠ '\n')).length⟩) ∧
      (∀ o o' : Nat, String.Pos.Raw.IsValid text ⟨o⟩ → String.Pos.Raw.IsValid text ⟨o'⟩ → o < o' →
        (locate text o).lineColumn < (locate text o').lineColumn) ∧
      ∀ offset, IsGreatest {o | String.Pos.Raw.IsValid text ⟨o⟩ ∧ o ≤ min offset text.utf8ByteSize}
          (locate text offset).offset ∧
        locate text offset = locate text (locate text offset).offset := by
  refine ⟨?_, ?_, ?_⟩
  · rintro front here rfl
    exact locate_front front here
  · intro o o' ho ho' hlt
    obtain ⟨front, here, rfl, rfl⟩ := isValid_iff.mp ho
    obtain ⟨front', here', htext, rfl⟩ := isValid_iff.mp ho'
    obtain ⟨between, hbetween, rfl, rfl⟩ := exists_between htext hlt
    rw [← String.append_assoc]
    exact lineColumn_locate_lt front between here' hbetween
  · intro offset
    obtain ⟨front, here, rfl, hlocate, hle, hnext⟩ := exists_locate_eq text offset
    have hoffset : (locate (front ++ here) offset).offset = front.utf8ByteSize := by
      rw [hlocate, locate_front]
    rw [hoffset]
    refine ⟨⟨⟨isValid_iff.mpr ⟨front, here, rfl, rfl⟩, ?_⟩, ?_⟩, hlocate⟩
    · rw [String.utf8ByteSize_append]
      omega
    · rintro o ⟨ho, hmin⟩
      obtain ⟨front', here', htext, rfl⟩ := isValid_iff.mp ho
      by_contra hlt
      -- A longer front has the next character in it, which ends beyond the offset.
      obtain ⟨between, hbetween, rfl, rfl⟩ := exists_between htext (Nat.not_le.mp hlt)
      obtain ⟨c, hc, hsize⟩ := exists_head hbetween
      have hbeyond : offset < front.utf8ByteSize + c.utf8Size :=
        hnext c (by rw [String.toList_append, List.head?_append, hc]; rfl)
      rw [@String.utf8ByteSize_append front between] at hmin
      omega

theorem locate_strictMono_umlaut :
    locate "Ü\nx" 3 = ⟨3, 2, 1⟩ ∧ String.Pos.Raw.IsValid "Ü\nx" ⟨2⟩ ∧
      String.Pos.Raw.IsValid "Ü\nx" ⟨3⟩ ∧
      (locate "Ü\nx" 2).lineColumn < (locate "Ü\nx" 3).lineColumn ∧
      IsGreatest {o | String.Pos.Raw.IsValid "Ü\nx" ⟨o⟩ ∧ o ≤ min 1 "Ü\nx".utf8ByteSize}
        (locate "Ü\nx" 1).offset := by
  obtain ⟨hplace, hlt, hgreatest⟩ := locate_strictMono "Ü\nx"
  have htwo : String.Pos.Raw.IsValid "Ü\nx" ⟨2⟩ := isValid_iff.mpr ⟨"Ü", "\nx", rfl, rfl⟩
  have hthree : String.Pos.Raw.IsValid "Ü\nx" ⟨3⟩ := isValid_iff.mpr ⟨"Ü\n", "x", rfl, rfl⟩
  exact ⟨hplace "Ü\n" "x" rfl, htwo, hthree, hlt 2 3 htwo hthree (by decide), (hgreatest 1).1⟩

end SqlTemplate.Position
