import SqlTemplate.Proofs.Success
import SqlTemplate.Render.Tree
import SqlTemplate.Template.TestValue

namespace SqlTemplate

namespace Value

def isScalar (v : Value) : Bool := v.sqlText?.isSome

def parts : Value → List Value
  | list items => items.filter fun item => !item.isNull
  | value => [value]

end Value

def Value.bind (v : Value) : Bind := ⟨v, v.type?.getD .object⟩

structure Variable.Searches (s : Settings) (v : Variable) (mode : LikeMode) (value : Value)
    (sql : String) (binds : List Bind) : Prop where
  patterns : ∃ texts : List String, value.parts = texts.map Value.string ∧
    binds.map Bind.value = texts.map fun text =>
      .string (Like.pattern s.likeEscape mode (!v.options.notEscape) text)
  clause : (Like.escapeClause s.likeEscape).toList <:+: sql.toList ↔ v.options.notEscape = false

namespace Like

theorem pattern_ne (e : Char) (mode : LikeMode) (escaped : Bool) (text : String) :
    pattern e mode escaped text ≠ text := by
  have hescape : ∀ cs : List Char, cs.length ≤ (escape e cs).length := by
    intro cs
    induction cs with
    | nil => simp
    | cons c cs ih =>
      rw [escape]
      split <;> (simp only [List.length_cons]; omega)
  intro h
  have hlength := congrArg (fun t : String => t.toList.length) h
  have hle : text.toList.length ≤
      (if escaped then escape e text.toList else text.toList).length := by
    cases escaped
    · exact Nat.le_refl _
    · exact hescape text.toList
  cases mode <;>
    simp only [pattern, surround, String.toList_ofList, List.length_append, List.length_cons,
      List.length_nil] at hlength <;>
    omega

end Like

namespace Variable

theorem bindElement_eq_ok_iff {v : Variable} {element : Value} (h : element.isNull = false)
    (b : Bind) : v.bindElement element = .ok b ↔ element.isScalar = true ∧ b = element.bind := by
  cases element with
  | null => cases h
  | list items => simp [bindElement, fail, Value.isScalar, Value.sqlText?]
  | map entries => simp [bindElement, fail, Value.isScalar, Value.sqlText?]
  | bean typeName properties => simp [bindElement, fail, Value.isScalar, Value.sqlText?]
  | _ => simp [bindElement, Value.isScalar, Value.sqlText?, Value.bind, eq_comm]

theorem elements_eq_ok_iff {v : Variable} {items present : List Value} :
    v.elements items = .ok present ↔ present = (Value.list items).parts ∧ present ≠ [] := by
  rw [elements, Value.parts]
  split
  · next h =>
    simp only [List.isEmpty_iff] at h
    simp [h]
  · next h =>
    simp only [List.isEmpty_iff] at h
    constructor
    · intro hp
      cases hp
      exact ⟨rfl, h⟩
    · rintro ⟨rfl, -⟩
      rfl

theorem bindElements_eq_ok_iff {v : Variable} {items : List Value} {f : Filling} :
    v.bindElements items = .ok f ↔
      (Value.list items).parts ≠ [] ∧ (∀ part ∈ (Value.list items).parts, part.isScalar = true) ∧
        f = ⟨Sql.tuple ((Value.list items).parts.map fun _ => "?"),
          (Value.list items).parts.map Value.bind, true, true⟩ := by
  have hmap : ∀ binds, (Value.list items).parts.mapM v.bindElement = .ok binds ↔
      (∀ part ∈ (Value.list items).parts, part.isScalar = true) ∧
        binds = (Value.list items).parts.map Value.bind := by
    intro binds
    apply mapM_eq_ok_iff
    intro part hpart b
    exact bindElement_eq_ok_iff (by simpa using (List.mem_filter.mp hpart).2) b
  rw [bindElements]
  constructor
  · intro h
    obtain ⟨present, hpresent, h⟩ := bind_eq_ok.mp h
    obtain ⟨rfl, hne⟩ := elements_eq_ok_iff.mp hpresent
    obtain ⟨binds, hbinds, h⟩ := bind_eq_ok.mp h
    obtain ⟨hall, rfl⟩ := (hmap binds).mp hbinds
    cases h
    refine ⟨hne, hall, ?_⟩
    rw [List.map_map]
    rfl
  · rintro ⟨hne, hall, rfl⟩
    have hpresent := elements_eq_ok_iff (v := v).mpr ⟨rfl, hne⟩
    have hbinds := (hmap _).mpr ⟨hall, rfl⟩
    simp only [Bind.bind, Except.bind, hpresent, hbinds, List.map_map]
    rfl

def BindsApart (v : Variable) (value : Value) : Prop :=
  v.grouped = true ∧ (∃ items, value = .list items) ∧ value.parts ≠ [] ∧
    ∀ part ∈ value.parts, part.isScalar = true

section Like
variable {s : Settings} {v : Variable} {mode : LikeMode} (hlike : v.options.like = some mode)
include hlike

theorem searches_string (text : String) (type : ValueType) :
    v.Searches s mode (.string text) (v.placeholder ++ v.escapeClause s)
      [⟨.string (Like.pattern s.likeEscape mode (!v.options.notEscape) text), type⟩] := by
  refine ⟨⟨[text], rfl, rfl⟩, ?_⟩
  cases hescape : v.options.notEscape with
  | false =>
    have hclause : v.escapeClause s = Like.escapeClause s.likeEscape := by
      simp [escapeClause, hlike, hescape]
    rw [hclause, String.toList_append]
    exact iff_of_true (List.suffix_append _ _).isInfix rfl
  | true =>
    have hclause : v.escapeClause s = "" := by simp [escapeClause, hescape]
    refine iff_of_false ?_ (by simp)
    intro hinfix
    have hle := hinfix.length_le
    have hlong : 11 ≤ (Like.escapeClause s.likeEscape).toList.length := by
      simp [Like.escapeClause]
    have hshort : v.placeholder.toList.length ≤ 3 := by
      rw [placeholder]
      split <;> decide
    rw [hclause, String.append_empty] at hle
    omega

theorem bindWhole_eq_ok_iff {r : Resolved} {f : Filling} :
    v.bindWhole s r = .ok f ↔ ∃ text, r.value = .string text ∧
      f = ⟨v.placeholder ++ v.escapeClause s,
        [⟨.string (Like.pattern s.likeEscape mode (!v.options.notEscape) text), r.type⟩],
        true, true⟩ := by
  rw [bindWhole, searchValue.eq_def, hlike]
  cases r.value with
  | string text => simp [bind, Except.bind, pure, Except.pure, eq_comm]
  | _ => simp [bind, Except.bind, fail]

omit hlike in
theorem not_searches_of_bindsApart {value : Value} (h : v.BindsApart value) (sql : String) :
    ¬v.Searches s mode value sql (value.parts.map Value.bind) := by
  obtain ⟨-, -, hne, -⟩ := h
  rintro ⟨⟨texts, hparts, hbinds⟩, -⟩
  have hvalue : Bind.value ∘ Value.bind = id := rfl
  rw [List.map_map, hvalue, List.map_id, hparts] at hbinds
  cases texts with
  | nil => exact hne hparts
  | cons text texts =>
    rw [List.map_cons, List.map_cons, List.cons.injEq, Value.string.injEq] at hbinds
    exact Like.pattern_ne _ _ _ _ hbinds.1.symm

theorem searches_iff {r : Resolved} {f : Filling} (hnull : r.value.isNull = false)
    (hf : v.bindFilling s r = .ok f) :
    v.Searches s mode r.value f.sql f.binds ↔ ¬v.BindsApart r.value := by
  rw [bindFilling] at hf
  split at hf
  · next hv => rw [hv] at hnull; cases hnull
  · cases hf
  · cases hf
  · next items hv =>
    split at hf
    · next hgrouped =>
      obtain ⟨hne, hall, rfl⟩ := bindElements_eq_ok_iff.mp hf
      rw [← hv] at hne hall
      have hapart : v.BindsApart r.value := ⟨hgrouped, ⟨items, hv⟩, hne, hall⟩
      rw [← hv]
      exact iff_of_false (not_searches_of_bindsApart hapart _) (not_not_intro hapart)
    · obtain ⟨text, htext, -⟩ := (bindWhole_eq_ok_iff hlike).mp hf
      rw [hv] at htext
      cases htext
  · obtain ⟨text, htext, rfl⟩ := (bindWhole_eq_ok_iff hlike).mp hf
    rw [htext]
    refine iff_of_true (searches_string hlike text r.type) ?_
    rintro ⟨-, ⟨items, hitems⟩, -⟩
    cases hitems

end Like

theorem exists_bindFilling_of_bindsApart {v : Variable} {r : Resolved} (h : v.BindsApart r.value)
    (s : Settings) : ∃ f, v.bindFilling s r = .ok f := by
  obtain ⟨hgrouped, ⟨items, hitems⟩, hne, hall⟩ := h
  rw [hitems] at hne hall
  rw [bindFilling, hitems]
  exact ⟨_, (if_pos hgrouped).trans (bindElements_eq_ok_iff.mpr ⟨hne, hall, rfl⟩)⟩

end Variable

theorem Node.render_bind {params : Params} {loops : Loops} {v : Variable} {r : Resolved}
    (hr : Scope.resolveVariable ⟨params, loops⟩ v = .ok r) (s : Settings) (d : Draft) :
    (Node.bind v).render s params loops d =
      (v.bindFilling s r).map fun f => ((d.fill f).beginIf f.keeps, f.keeps) := by
  simp only [Node.render, Step.settled, Bind.bind, Except.bind, hr]
  cases v.bindFilling s r with
  | error e => rfl
  | ok f => rfl

/-- A LIKE search for a value that is not null is done or refused, and passed over exactly when the
value is a list that is bound element by element. -/
theorem Node.render_like_iff {s : Settings} {params : Params} {loops : Loops} {v : Variable}
    {mode : LikeMode} (hlike : v.options.like = some mode) {r : Resolved}
    (hr : Scope.resolveVariable ⟨params, loops⟩ v = .ok r) (hnull : r.value.isNull = false)
    (d : Draft) :
    (∀ d' keeps, (Node.bind v).render s params loops d = .ok (d', keeps) →
      ∃ sql binds, d'.sql = d.sql ++ sql ∧ d'.binds = d.binds ++ binds ∧
        v.Searches s mode r.value sql binds) ↔ ¬v.BindsApart r.value := by
  rw [Node.render_bind hr]
  constructor
  · intro h hapart
    obtain ⟨f, hf⟩ := Variable.exists_bindFilling_of_bindsApart hapart s
    obtain ⟨sql, binds, hsql, hbinds, hsearch⟩ := h _ _ (by rw [hf]; rfl)
    have hs : f.sql = sql := String.append_right_inj d.sql |>.mp hsql
    have hb : f.binds = binds := List.append_cancel_left hbinds
    rw [← hs, ← hb] at hsearch
    exact (Variable.searches_iff hlike hnull hf).mp hsearch hapart
  · intro hapart d' keeps h
    obtain ⟨f, hf, heq⟩ := TestValue.exists_of_map_eq_ok h
    cases heq
    exact ⟨f.sql, f.binds, rfl, rfl, (Variable.searches_iff hlike hnull hf).mpr hapart⟩

def prefixSearch (grouped : Bool) : Variable :=
  ⟨⟨"pmb", [.property "names"]⟩, "", grouped, { like := some .atStart }⟩

def namesParams (names : Value) : Params := ⟨"pmb", .map [("names", names)], fun _ => none⟩

theorem Node.render_like_iff_names :
    (prefixSearch true).options.like = some .atStart ∧
      Scope.resolveVariable ⟨namesParams (.string "10%"), []⟩ (prefixSearch true) =
        .ok ⟨.string "10%", .string⟩ ∧
      (Value.string "10%").isNull = false ∧
      ∀ d' keeps, (Node.bind (prefixSearch true)).render {} (namesParams (.string "10%")) [] {} =
          .ok (d', keeps) →
        ∃ sql binds, d'.sql = "" ++ sql ∧ d'.binds = [] ++ binds ∧
          (prefixSearch true).Searches {} .atStart (.string "10%") sql binds := by
  have hr : Scope.resolveVariable ⟨namesParams (.string "10%"), []⟩ (prefixSearch true) =
      .ok ⟨.string "10%", .string⟩ := rfl
  refine ⟨rfl, hr, rfl, (Node.render_like_iff (s := {}) rfl hr rfl {}).mpr ?_⟩
  rintro ⟨-, ⟨items, hitems⟩, -⟩
  cases hitems

theorem Node.render_like_elements :
    (Node.bind (prefixSearch true)).render {} (namesParams (.list [.string "10%"])) [] {} =
        .ok (⟨"(?)", [⟨.string "10%", .string⟩], false, true⟩, true) ∧
      ¬(prefixSearch true).Searches {} .atStart (.list [.string "10%"]) "(?)"
        [⟨.string "10%", .string⟩] := by
  refine ⟨rfl, ?_⟩
  rintro ⟨-, hclause⟩
  have hle := (hclause.mpr rfl).length_le
  revert hle
  decide

end SqlTemplate
