import SqlTemplate.Proofs.EmbeddedText
import SqlTemplate.Proofs.LikeOption

namespace SqlTemplate

namespace Sql

inductive Part where
  | code (c : Char)
  | literal (content : String)
deriving DecidableEq

namespace Part

/-- The content so far of the literal that is being read is `opened`. Two quotes in a literal are
one; a literal that is never closed cannot be read. -/
def read : (opened : Option (List Char)) → List Char → Option (List Part)
  | none, [] => some []
  | none, '\'' :: cs => read (some []) cs
  | none, c :: cs => (read none cs).map (code c :: ·)
  | some _, [] => none
  | some content, '\'' :: '\'' :: cs => read (some (content ++ ['\''])) cs
  | some content, '\'' :: cs => (read none cs).map (literal (String.ofList content) :: ·)
  | some content, c :: cs => read (some (content ++ [c])) cs

def literals (contents : List String) : List Part :=
  [code ',', code ' '].intercalate (contents.map fun content => [literal content])

def row (contents : List String) : List Part := code '(' :: (literals contents ++ [code ')'])

theorem read_code {c : Char} (hc : c ≠ '\'') (cs : List Char) :
    read none (c :: cs) = (read none cs).map (code c :: ·) := by
  rw [read]
  exact hc

theorem read_doubleQuotes (content cs rest : List Char) (hrest : rest.head? ≠ some '\'') :
    read (some content) (doubleQuotes cs ++ '\'' :: rest) =
      (read none rest).map (literal (String.ofList (content ++ cs)) :: ·) := by
  induction cs generalizing content with
  | nil =>
    rw [doubleQuotes, List.nil_append, List.append_nil, read]
    rintro ds rfl
    exact hrest rfl
  | cons c cs ih =>
    have hcontent := ih (content ++ [c])
    rw [List.append_assoc, List.singleton_append] at hcontent
    by_cases hc : c = '\''
    · subst hc
      rw [doubleQuotes, if_pos rfl, List.cons_append, List.cons_append, read, hcontent]
    · rw [doubleQuotes, if_neg hc, List.cons_append, read, hcontent]
      · intro ds heq
        exact absurd heq hc
      · exact hc

theorem read_quote (s : String) {rest : List Char} (hrest : rest.head? ≠ some '\'') :
    read none ((quote s).toList ++ rest) = (read none rest).map (literal s :: ·) := by
  have hread := read_doubleQuotes [] s.toList rest hrest
  rw [List.nil_append, String.ofList_toList] at hread
  rw [quote, String.toList_ofList, List.cons_append, List.append_assoc, List.singleton_append, read,
    hread]

theorem read_intercalate (contents : List String) {rest : List Char}
    (hrest : rest.head? ≠ some '\'') :
    read none ((", ".intercalate (contents.map quote)).toList ++ rest) =
      (read none rest).map (literals contents ++ ·) := by
  induction contents with
  | nil => simp [literals]
  | cons content contents ih =>
    by_cases hne : contents = []
    · subst hne
      have hone := read_quote content hrest
      simpa [literals] using hone
    · have hmap : contents.map quote ≠ [] := by simpa using hne
      have hliterals : literals (content :: contents) =
          literal content :: code ',' :: code ' ' :: literals contents := by
        obtain ⟨next, more, rfl⟩ := List.exists_cons_of_ne_nil hne
        simp [literals, List.intercalate]
      have hcomma : (", ".toList) = [',', ' '] := rfl
      rw [List.map_cons, String.intercalate_cons_of_ne_nil hmap, String.toList_append,
        String.toList_append, List.append_assoc, List.append_assoc, hcomma, hliterals]
      rw [read_quote content (by simp), List.cons_append, List.cons_append, List.nil_append,
        read_code (by decide), read_code (by decide), ih]
      cases read none rest <;> rfl

theorem read_tuple (contents : List String) :
    read none (tuple (contents.map quote)).toList = some (row contents) := by
  have hclose : read none ([')'] : List Char) = some [code ')'] := rfl
  have hend : [')'].head? ≠ some '\'' := by decide
  have hinner := read_intercalate contents hend
  have htext : (tuple (contents.map quote)).toList =
      '(' :: ((", ".intercalate (contents.map quote)).toList ++ [')']) := by
    simp [tuple]
  rw [htext, read_code (by decide), hinner, hclose]
  rfl

end Part
end Sql

namespace Value

def isComposite (v : Value) : Bool := [some .list, some .map, some .bean].contains v.type?

def scalarText (v : Value) : String := v.sqlText?.getD ""

def embedded (quoted : Bool) (v : Value) : String :=
  if quoted then Sql.quote v.scalarText else v.scalarText

theorem isScalar_iff (v : Value) : v.isScalar = true ↔ v.isNull = false ∧ v.isComposite = false := by
  cases v <;> simp [isScalar, sqlText?, isNull, type?, isComposite]

theorem sqlText?_eq_some {v : Value} (h : v.isScalar = true) : v.sqlText? = some v.scalarText := by
  obtain ⟨text, htext⟩ := Option.isSome_iff_exists.mp h
  rw [scalarText, htext, Option.getD_some]

theorem map_embedded (quoted : Bool) (elements : List Value) :
    elements.map (embedded quoted) =
      (elements.map scalarText).map (if quoted then Sql.quote else id) := by
  rw [List.map_map]
  cases quoted <;> rfl

end Value

namespace Variable

theorem embedElement_eq_ok_iff (v : Variable) (quoted : Bool) (e : Value) (text : String) :
    v.embedElement quoted e = .ok text ↔ e.isScalar = true ∧ text = e.embedded quoted := by
  rw [embedElement, Value.isScalar, Value.embedded, Value.scalarText]
  cases e.sqlText? with
  | none => simp [fail]
  | some sql => simp [eq_comm]

def written (items : List Value) : List String :=
  (Value.list items).parts.map (Value.embedded !((Value.list items).parts.all Value.isNumeric))

section List
variable {v : Variable} {items : List Value} (hne : (Value.list items).parts ≠ [])
  (hall : ∀ e ∈ (Value.list items).parts, e.isScalar = true)
include hne hall

theorem embedElements_eq_ok : v.embedElements items = .ok (Sql.tuple (written items)) := by
  have helements := elements_eq_ok_iff (v := v).mpr ⟨rfl, hne⟩
  have hmap : (Value.list items).parts.mapM
      (v.embedElement !((Value.list items).parts.all Value.isNumeric)) = .ok (written items) :=
    (mapM_eq_ok_iff fun e _ text => v.embedElement_eq_ok_iff _ e text).mpr ⟨hall, rfl⟩
  simp only [embedElements, bind, Except.bind, helements, hmap]
  rfl

theorem placeholderCount_written :
    Sql.placeholderCount (Sql.tuple (written items)).toList = 0 := by
  have hv := embedElements_eq_ok (v := ⟨⟨"", []⟩, "", false, {}⟩) hne hall
  exact (closed_embedElements hv).2

theorem embedFilling_list (type : ValueType) :
    v.embedFilling ⟨.list items, type⟩ = .ok ⟨Sql.tuple (written items), [], true, true⟩ := by
  have hcount := placeholderCount_written hne hall
  have hempty : (Sql.tuple (written items)).isEmpty = false := by
    rw [← Bool.not_eq_true, String.isEmpty_iff, ← String.toList_inj]
    simp [Sql.tuple]
  have htext : v.embedText (Sql.tuple (written items)) =
      .ok ⟨Sql.tuple (written items), [], true, true⟩ := by
    simp [embedText, Sql.hasPlaceholder, hcount, hempty]
  simp only [embedFilling, bind, Except.bind, embedElements_eq_ok hne hall, htext]

end List
end Variable

theorem Node.render_embed {params : Params} {loops : Loops} {v : Variable} {r : Resolved}
    (hr : Scope.resolveVariable ⟨params, loops⟩ v = .ok r) (s : Settings) (d : Draft) :
    (Node.embed v).render s params loops d =
      (v.embedFilling r).map fun f => ((d.fill f).beginIf f.keeps, f.keeps) := by
  simp only [Node.render, Step.settled, Bind.bind, Except.bind, hr]
  cases v.embedFilling r with
  | error e => rfl
  | ok f => rfl

/-- A list whose elements are scalars, not all of them null, is embedded as the row of their texts,
in order: numbers as they are and otherwise literals that read as the texts. -/
theorem Node.render_embed_list {params : Params} {loops : Loops} {v : Variable}
    {items : List Value} {type : ValueType}
    (hr : Scope.resolveVariable ⟨params, loops⟩ v = .ok ⟨.list items, type⟩)
    (hscalar : ∀ item ∈ items, item.isComposite = false)
    (hsome : ∃ item ∈ items, item.isNull = false) (s : Settings) (d : Draft) :
    ∃ texts written : List String,
      (Value.list items).parts.map Value.sqlText? = texts.map some ∧
      (Node.embed v).render s params loops d =
        .ok ({ d with sql := d.sql ++ Sql.tuple written, begun := true }, true) ∧
      (if (Value.list items).parts.all Value.isNumeric then written = texts
        else written = texts.map Sql.quote ∧
          Sql.Part.read none (Sql.tuple written).toList = some (Sql.Part.row texts)) ∧
      Sql.placeholderCount (Sql.tuple written).toList = 0 := by
  have hne : (Value.list items).parts ≠ [] := by
    obtain ⟨item, hmem, hnull⟩ := hsome
    exact List.ne_nil_of_mem (List.mem_filter.mpr ⟨hmem, by simp [hnull]⟩)
  have hall : ∀ e ∈ (Value.list items).parts, e.isScalar = true := by
    intro e he
    obtain ⟨hmem, hnull⟩ := List.mem_filter.mp he
    exact e.isScalar_iff.mpr ⟨by simpa using hnull, hscalar e hmem⟩
  have htexts : (Value.list items).parts.map Value.sqlText? =
      ((Value.list items).parts.map Value.scalarText).map some := by
    rw [List.map_map]
    exact List.map_congr_left fun e he => Value.sqlText?_eq_some (hall e he)
  refine ⟨_, Variable.written items, htexts, ?_, ?_, Variable.placeholderCount_written hne hall⟩
  · rw [Node.render_embed hr, Variable.embedFilling_list hne hall]
    simp [Except.map, Draft.fill, Draft.append, Draft.beginIf]
  · rw [Variable.written, Value.map_embedded]
    cases (Value.list items).parts.all Value.isNumeric with
    | true => simp
    | false =>
      have hread := Sql.Part.read_tuple ((Value.list items).parts.map Value.scalarText)
      simpa using hread

def everyName : Variable := ⟨⟨"pmb", [.property "names"]⟩, "", true, {}⟩

def quotedNames : Value := .list [.string "it's", .null, .string "'), --?/*", .integer 3]

theorem Node.render_embed_list_quotes :
    Scope.resolveVariable ⟨namesParams quotedNames, []⟩ everyName =
        .ok ⟨quotedNames, .list⟩ ∧
      (∀ item ∈ [Value.string "it's", .null, .string "'), --?/*", .integer 3],
        item.isComposite = false) ∧
      (Node.embed everyName).render {} (namesParams quotedNames) [] {} =
        .ok (⟨"('it''s', '''), --?/*', '3')", [], false, true⟩, true) ∧
      Sql.Part.read none "('it''s', '''), --?/*', '3')".toList =
        some (Sql.Part.row ["it's", "'), --?/*", "3"]) := by
  have hr : Scope.resolveVariable ⟨namesParams quotedNames, []⟩ everyName =
      .ok ⟨quotedNames, .list⟩ := rfl
  have hscalar : ∀ item ∈ [Value.string "it's", .null, .string "'), --?/*", .integer 3],
      item.isComposite = false := by simp [Value.isComposite, Value.type?]
  obtain ⟨texts, written, htexts, hrender, hread, -⟩ :=
    Node.render_embed_list hr hscalar ⟨_, List.mem_cons_self, rfl⟩ {} {}
  have heq : texts = ["it's", "'), --?/*", "3"] := by
    have hsome : texts.map some = ["it's", "'), --?/*", "3"].map some := htexts.symm
    exact (List.map_inj_right fun _ _ h => Option.some.inj h).mp hsome
  subst heq
  obtain ⟨rfl, hread⟩ := hread
  exact ⟨hr, hscalar, hrender, hread⟩

end SqlTemplate
