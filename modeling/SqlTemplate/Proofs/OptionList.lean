import Mathlib.Data.List.Forall2
import SqlTemplate.Proofs.TrimmedText
import SqlTemplate.Template.Options

namespace SqlTemplate

def LikeMode.name : LikeMode → String
  | atStart => "likePrefix"
  | atEnd => "likeSuffix"
  | anywhere => "likeContain"

theorem LikeMode.name_inj {mode mode' : LikeMode} : mode.name = mode'.name ↔ mode = mode' := by
  cases mode <;> cases mode' <;> decide

namespace Options

def likeNames : List String := ["likePrefix", "likeSuffix", "likeContain"]

def allNames : List String := "nullable" :: "notEscape" :: likeNames

theorem mem_likeNames {name : String} : name ∈ likeNames ↔ ∃ mode : LikeMode, name = mode.name := by
  constructor
  · intro h
    simp only [likeNames, List.mem_cons, List.not_mem_nil, or_false] at h
    rcases h with rfl | rfl | rfl
    · exact ⟨.atStart, rfl⟩
    · exact ⟨.atEnd, rfl⟩
    · exact ⟨.anywhere, rfl⟩
  · rintro ⟨mode, rfl⟩
    cases mode <;> decide

theorem likeMode?_eq_some_iff {name : String} {mode : LikeMode} :
    likeMode? name = some mode ↔ name = mode.name := by
  constructor
  · intro h
    have hmem := mem_of_lookup h
    simp only [List.mem_cons, List.not_mem_nil, or_false, Prod.mk.injEq] at hmem
    rcases hmem with ⟨rfl, rfl⟩ | ⟨rfl, rfl⟩ | ⟨rfl, rfl⟩ <;> rfl
  · rintro rfl
    cases mode <;> rfl

theorem add_eq_ok_iff {o o' : Options} {name : String} :
    add o name = .ok o' ↔
      name = "nullable" ∧ o' = { o with nullable := true } ∨
      name = "notEscape" ∧ o' = { o with notEscape := true } ∨
      ∃ mode : LikeMode, name = mode.name ∧ o.like = none ∧ o' = { o with like := some mode } := by
  constructor
  · intro h
    unfold add at h
    split at h
    · next hname =>
      cases h
      exact .inl ⟨hname, rfl⟩
    split at h
    · next hname =>
      cases h
      exact .inr (.inl ⟨hname, rfl⟩)
    cases hmode : likeMode? name with
    | none =>
      rw [hmode] at h
      cases h
    | some mode =>
      rw [hmode] at h
      dsimp only at h
      split at h
      · cases h
      · next hlike =>
        cases h
        exact .inr (.inr ⟨mode, likeMode?_eq_some_iff.mp hmode, by simpa using hlike, rfl⟩)
  · rintro (⟨rfl, rfl⟩ | ⟨rfl, rfl⟩ | ⟨mode, rfl, hlike, rfl⟩)
    · rfl
    · rfl
    · have hnone : ¬o.like.isSome = true := by simp [hlike]
      cases mode <;> exact if_neg hnone

structure Extends (o : Options) (names : List String) (o' : Options) : Prop where
  nullable : o'.nullable = true ↔ o.nullable = true ∨ "nullable" ∈ names
  notEscape : o'.notEscape = true ↔ o.notEscape = true ∨ "notEscape" ∈ names
  like : ∀ mode : LikeMode, o'.like = some mode ↔ o.like = some mode ∨ mode.name ∈ names

def likeCount (o : Options) : Nat := o.like.toList.length

theorem extends_add {o o' : Options} {name : String} (h : add o name = .ok o') :
    o.Extends [name] o' := by
  have hnullable (mode : LikeMode) : mode.name ≠ "nullable" := by cases mode <;> decide
  have hnotEscape (mode : LikeMode) : mode.name ≠ "notEscape" := by cases mode <;> decide
  rcases add_eq_ok_iff.mp h with ⟨rfl, rfl⟩ | ⟨rfl, rfl⟩ | ⟨mode, rfl, hlike, rfl⟩
  · exact ⟨by simp, by simp, by simp [hnullable]⟩
  · exact ⟨by simp, by simp, by simp [hnotEscape]⟩
  · refine ⟨by simp [(hnullable mode).symm], by simp [(hnotEscape mode).symm], ?_⟩
    intro mode'
    rw [hlike, List.mem_singleton, LikeMode.name_inj]
    simp [eq_comm]

theorem Extends.trans {o o' o'' : Options} {names names' : List String} (h : o.Extends names o')
    (h' : o'.Extends names' o'') : o.Extends (names ++ names') o'' where
  nullable := by rw [h'.nullable, h.nullable, List.mem_append, or_assoc]
  notEscape := by rw [h'.notEscape, h.notEscape, List.mem_append, or_assoc]
  like mode := by rw [h'.like, h.like, List.mem_append, or_assoc]

theorem extends_foldlM_add {o o' : Options} {names : List String}
    (h : names.foldlM add o = .ok o') : o.Extends names o' := by
  induction names generalizing o with
  | nil =>
    cases h
    exact ⟨by simp, by simp, by simp⟩
  | cons name names ih =>
    rw [List.foldlM_cons] at h
    obtain ⟨m, hm, h⟩ := bind_eq_ok.mp h
    exact (extends_add hm).trans (ih h)

theorem exists_add_iff {o : Options} {name : String} {n : Nat} :
    (∃ o', add o name = .ok o' ∧ o'.likeCount + n ≤ 1) ↔
      name ∈ allNames ∧ o.likeCount + (n + [name].countP (· ∈ likeNames)) ≤ 1 := by
  have hone (mode : LikeMode) : [mode.name].countP (· ∈ likeNames) = 1 := by cases mode <;> decide
  constructor
  · rintro ⟨o', h, hle⟩
    rcases add_eq_ok_iff.mp h with ⟨rfl, rfl⟩ | ⟨rfl, rfl⟩ | ⟨mode, rfl, hlike, rfl⟩
    · exact ⟨by decide, hle⟩
    · exact ⟨by decide, hle⟩
    · have hknown : mode.name ∈ allNames := by cases mode <;> decide
      have hcount : o.likeCount = 0 := by rw [likeCount, hlike]; rfl
      have hcount' : likeCount { o with like := some mode } = 1 := rfl
      exact ⟨hknown, by rw [hone]; omega⟩
  · rintro ⟨hknown, hle⟩
    rcases List.mem_cons.mp hknown with rfl | hknown
    · exact ⟨_, add_eq_ok_iff.mpr (.inl ⟨rfl, rfl⟩), hle⟩
    rcases List.mem_cons.mp hknown with rfl | hlike
    · exact ⟨_, add_eq_ok_iff.mpr (.inr (.inl ⟨rfl, rfl⟩)), hle⟩
    · obtain ⟨mode, rfl⟩ := mem_likeNames.mp hlike
      rw [hone] at hle
      have hnone : o.like = none := by
        cases ho : o.like with
        | none => rfl
        | some other =>
          have hcount : o.likeCount = 1 := by rw [likeCount, ho]; rfl
          omega
      have hcount' : likeCount { o with like := some mode } = 1 := rfl
      exact ⟨_, add_eq_ok_iff.mpr (.inr (.inr ⟨mode, rfl, hnone, rfl⟩)), by omega⟩

theorem exists_foldlM_add_iff {o : Options} {names : List String} :
    (∃ o', names.foldlM add o = .ok o') ↔
      (∀ name ∈ names, name ∈ allNames) ∧ o.likeCount + names.countP (· ∈ likeNames) ≤ 1 := by
  induction names generalizing o with
  | nil =>
    have hlike : o.likeCount ≤ 1 := by
      rw [likeCount]
      cases o.like <;> simp
    exact ⟨fun _ => ⟨by simp, hlike⟩, fun _ => ⟨o, rfl⟩⟩
  | cons name names ih =>
    have hstep := @exists_add_iff o name (names.countP (· ∈ likeNames))
    rw [List.foldlM_cons, List.forall_mem_cons, ← List.singleton_append, List.countP_append,
      Nat.add_comm (List.countP _ [name]), and_right_comm, ← hstep]
    constructor
    · rintro ⟨o', h⟩
      obtain ⟨m, hm, h⟩ := bind_eq_ok.mp h
      obtain ⟨hknown, hle⟩ := ih.mp ⟨o', h⟩
      exact ⟨⟨m, hm, hle⟩, hknown⟩
    · rintro ⟨⟨m, hm, hle⟩, hknown⟩
      obtain ⟨o', h⟩ := ih.mpr ⟨hknown, hle⟩
      exact ⟨o', bind_eq_ok.mpr ⟨m, hm, h⟩⟩

section Permuted
variable {names others : List String} (hperm : names.Perm others) {o : Options}
include hperm

theorem Extends.eq_of_perm {m m' : Options} (h : o.Extends names m) (h' : o.Extends others m') :
    m = m' := by
  have hnullable : m.nullable = m'.nullable := by
    rw [Bool.eq_iff_iff, h.nullable, h'.nullable, hperm.mem_iff]
  have hnotEscape : m.notEscape = m'.notEscape := by
    rw [Bool.eq_iff_iff, h.notEscape, h'.notEscape, hperm.mem_iff]
  have hlike : m.like = m'.like := by
    apply Option.ext
    intro mode
    rw [h.like, h'.like, hperm.mem_iff]
  cases m
  cases m'
  cases hnullable
  cases hnotEscape
  cases hlike
  rfl

theorem foldlM_add_of_perm {m : Options} (h : names.foldlM add o = .ok m) :
    others.foldlM add o = .ok m := by
  obtain ⟨hknown, hle⟩ := exists_foldlM_add_iff.mp ⟨m, h⟩
  have hothers : ∃ m', others.foldlM add o = .ok m' := by
    apply exists_foldlM_add_iff.mpr
    rw [← hperm.countP_eq]
    exact ⟨fun name hname => hknown name (hperm.mem_iff.mpr hname), hle⟩
  obtain ⟨m', h'⟩ := hothers
  rw [h', (extends_foldlM_add h).eq_of_perm hperm (extends_foldlM_add h')]

theorem toOption_foldlM_add_of_perm :
    (names.foldlM add o).toOption = (others.foldlM add o).toOption := by
  cases h : names.foldlM add o with
  | ok m => rw [foldlM_add_of_perm hperm h]
  | error e =>
    cases h' : others.foldlM add o with
    | ok m =>
      rw [foldlM_add_of_perm hperm.symm h'] at h
      cases h
    | error e' => rfl

end Permuted

def Lists (text : List Char) (names : List String) : Prop :=
  ∃ token tokens, text = token ++ Text.ledBy '|' tokens ∧ (∀ t ∈ token :: tokens, '|' ∉ t) ∧
    List.Forall₂ (fun t name => Text.Surrounds t name.toList) (token :: tokens) names

theorem Lists.parse_eq {text : List Char} {names : List String} (h : Lists text names) :
    parse text = names.foldlM add {} := by
  obtain ⟨token, tokens, rfl, hbars, hnames⟩ := h
  have htrim {tokens : List (List Char)} {names : List String}
      (h : List.Forall₂ (fun t name => Text.Surrounds t name.toList) tokens names) :
      tokens.map (fun t => String.ofList (Text.trim t)) = names := by
    induction h with
    | nil => rfl
    | cons hname _ ih => rw [List.map_cons, hname.trim, String.ofList_toList, ih]
  rw [List.forall_mem_cons] at hbars
  rw [parse, Text.pieces_ledBy hbars.1 hbars.2, htrim hnames]

theorem exists_lists (text : List Char) : ∃ names, Lists text names := by
  obtain ⟨token, tokens, -, hbars, htext⟩ := Text.exists_pieces '|' text
  refine ⟨(token :: tokens).map fun t => String.ofList (Text.trim t), token, tokens, htext, hbars, ?_⟩
  rw [List.forall₂_map_right_iff]
  apply List.forall₂_same.mpr
  intro t _
  rw [String.toList_ofList]
  exact Text.surrounds_trim t

/-- A text lists names. It is accepted if all of them are known and at most one of them is a LIKE
mode, repetitions counted; it then sets the options named, and no others. In another order, and with
other white space around them, the names give the same options or are refused as well. -/
theorem parse_lists (text : List Char) :
    (∃ names, Lists text names) ∧ ∀ names, Lists text names →
      ((∃ o, parse text = .ok o) ↔
        (∀ name ∈ names, name ∈ allNames) ∧ names.countP (· ∈ likeNames) ≤ 1) ∧
      (∀ o, parse text = .ok o →
        (o.nullable = true ↔ "nullable" ∈ names) ∧ (o.notEscape = true ↔ "notEscape" ∈ names) ∧
          ∀ mode : LikeMode, o.like = some mode ↔ mode.name ∈ names) ∧
      ∀ other others, Lists other others → others.Perm names →
        (parse other).toOption = (parse text).toOption := by
  refine ⟨exists_lists text, ?_⟩
  intro names hnames
  rw [hnames.parse_eq]
  refine ⟨?_, ?_, ?_⟩
  · have hnone : likeCount {} = 0 := rfl
    rw [exists_foldlM_add_iff, hnone, Nat.zero_add]
  · intro o h
    have hextends := extends_foldlM_add h
    exact ⟨by simpa using hextends.nullable, by simpa using hextends.notEscape,
      by simpa using hextends.like⟩
  · intro other others hothers hperm
    rw [hothers.parse_eq]
    exact toOption_foldlM_add_of_perm hperm

theorem parse_lists_spaced :
    Lists " likePrefix |nullable".toList ["likePrefix", "nullable"] ∧
      Lists "nullable|likePrefix".toList ["nullable", "likePrefix"] ∧
      (∃ o, parse " likePrefix |nullable".toList = .ok o) ∧
      (∀ o, parse " likePrefix |nullable".toList = .ok o → o.like = some .atStart) ∧
      (parse "nullable|likePrefix".toList).toOption =
        (parse " likePrefix |nullable".toList).toOption := by
  have hspaced : Lists " likePrefix |nullable".toList ["likePrefix", "nullable"] :=
    ⟨" likePrefix ".toList, ["nullable".toList], rfl, by simp,
      .cons (Text.surrounds_trim _) (.cons (Text.surrounds_trim _) .nil)⟩
  have hswapped : Lists "nullable|likePrefix".toList ["nullable", "likePrefix"] :=
    ⟨"nullable".toList, ["likePrefix".toList], rfl, by simp,
      .cons (Text.surrounds_trim _) (.cons (Text.surrounds_trim _) .nil)⟩
  obtain ⟨-, hlists⟩ := parse_lists " likePrefix |nullable".toList
  obtain ⟨hok, hnamed, hperm⟩ := hlists _ hspaced
  refine ⟨hspaced, hswapped, hok.mpr ⟨by simp [allNames, likeNames], by decide⟩, ?_, ?_⟩
  · intro o h
    exact ((hnamed o h).2.2 .atStart).mpr (by simp [LikeMode.name])
  · exact hperm _ _ hswapped (.swap ..)

end Options
end SqlTemplate
