import SqlTemplate.Condition.Parser

namespace SqlTemplate.Condition

namespace Stream

def tokens? : Stream → Option (List Token)
  | ended _ => some []
  | broken _ => none
  | token t _ rest => rest.tokens?.map (t :: ·)

inductive Leads : List Token → Stream → Stream → Prop
  | nil (s : Stream) : Leads [] s s
  | cons (t : Token) (position : Nat) {ts : List Token} {s rest : Stream}
      (h : Leads ts s rest) : Leads (t :: ts) (token t position s) rest

theorem Leads.length_eq {ts : List Token} {s rest : Stream} (h : Leads ts s rest) :
    s.length = ts.length + rest.length := by
  induction h with
  | nil => simp
  | cons t position h ih =>
    rw [length, ih, List.length_cons]
    omega

theorem Leads.append {ts us : List Token} {s mid rest : Stream} (h : Leads ts s mid)
    (h' : Leads us mid rest) : Leads (ts ++ us) s rest := by
  induction h with
  | nil => exact h'
  | cons t position _ ih => exact .cons t position (ih h')

theorem Leads.split {ts us : List Token} {s rest : Stream} (h : Leads (ts ++ us) s rest) :
    ∃ mid, Leads ts s mid ∧ Leads us mid rest := by
  induction ts generalizing s with
  | nil => exact ⟨s, .nil s, h⟩
  | cons t ts ih =>
    obtain ⟨⟩ | ⟨t, position, h⟩ := h
    obtain ⟨mid, hts, hus⟩ := ih h
    exact ⟨mid, .cons t position hts, hus⟩

theorem leads_ended_iff {s : Stream} {ts : List Token} :
    (∃ position, Leads ts s (ended position)) ↔ s.tokens? = some ts := by
  induction s generalizing ts with
  | ended position =>
    constructor
    · rintro ⟨p, h⟩
      cases h
      rfl
    · intro h
      cases h
      exact ⟨position, .nil _⟩
  | broken e =>
    constructor
    · rintro ⟨p, h⟩
      cases h
    · intro h
      cases h
  | token t position rest ih =>
    rw [tokens?, Option.map_eq_some_iff]
    constructor
    · rintro ⟨p, h⟩
      cases h with
      | cons t position h => exact ⟨_, ih.mp ⟨p, h⟩, rfl⟩
    · rintro ⟨us, hus, rfl⟩
      obtain ⟨p, h⟩ := ih.mpr hus
      exact ⟨p, .cons t position h⟩

theorem Leads.tokens?_eq {ts : List Token} {s rest : Stream} (h : Leads ts s rest) :
    s.tokens? = rest.tokens?.map (ts ++ ·) := by
  induction h with
  | nil s => simp
  | cons t position h ih =>
    rw [tokens?, ih, Option.map_map]
    rfl

def ofTokens (ts : List Token) : Stream := ts.foldr (token · 0) (ended 0)

theorem tokens?_ofTokens (ts : List Token) : (ofTokens ts).tokens? = some ts := by
  induction ts with
  | nil => rfl
  | cons t ts ih =>
    have hts : (ts.foldr (token · 0) (ended 0)).tokens? = some ts := ih
    rw [ofTokens, List.foldr_cons, tokens?, hts]
    rfl

end Stream

inductive PathSteps : List Token → List String → Prop
  | nil : PathSteps [] []
  | property (name : String) {ts : List Token} {names : List String} (h : PathSteps ts names) :
      PathSteps (.dot :: .identifier name :: ts) (name :: names)
  | index {n : Int64} (hn : 0 ≤ n) {ts : List Token} {names : List String}
      (h : PathSteps ts names) :
      PathSteps (.dot :: .integer n :: ts) (Number.integerText n.toInt :: names)

theorem PathSteps.append {ts us : List Token} {before behind : List String}
    (h : PathSteps ts before) (h' : PathSteps us behind) :
    PathSteps (ts ++ us) (before ++ behind) := by
  induction h with
  | nil => exact h'
  | property name _ ih => exact .property name ih
  | index hn _ ih => exact .index hn ih

inductive Level where
  | disjunction
  | conjunction
  | negation
  | comparison
  | primary
deriving DecidableEq, Repr

inductive Derives : Level → List Token → Expr → Prop
  | or {ls rs : List Token} {l r : Expr} (hl : Derives .disjunction ls l)
      (hr : Derives .conjunction rs r) : Derives .disjunction (ls ++ .or :: rs) (.or l r)
  | ofConjunction {ts : List Token} {e : Expr} (h : Derives .conjunction ts e) :
      Derives .disjunction ts e
  | and {ls rs : List Token} {l r : Expr} (hl : Derives .conjunction ls l)
      (hr : Derives .negation rs r) : Derives .conjunction (ls ++ .and :: rs) (.and l r)
  | ofNegation {ts : List Token} {e : Expr} (h : Derives .negation ts e) :
      Derives .conjunction ts e
  | not {ts : List Token} {e : Expr} (h : Derives .negation ts e) :
      Derives .negation (.not :: ts) (.not e)
  | ofComparison {ts : List Token} {e : Expr} (h : Derives .comparison ts e) :
      Derives .negation ts e
  | compare {t : Token} {op : Comparison} (ht : Comparison.ofToken? t = some op)
      {ls rs : List Token} {l r : Expr} (hl : Derives .primary ls l)
      (hr : Derives .primary rs r) : Derives .comparison (ls ++ t :: rs) (.compare op l r)
  | ofPrimary {ts : List Token} {e : Expr} (h : Derives .primary ts e) :
      Derives .comparison ts e
  | float (x : Float) : Derives .primary [.float x] (.float x)
  | integer (n : Int64) : Derives .primary [.integer n] (.integer n)
  | string (text : String) : Derives .primary [.string text] (.string text)
  | boolean (b : Bool) : Derives .primary [.boolean b] (.boolean b)
  | null : Derives .primary [.null] .null
  | parentheses {ts : List Token} {e : Expr} (h : Derives .disjunction ts e) :
      Derives .primary (.openParen :: (ts ++ [.closeParen])) e
  | path {head : String} {ts : List Token} {names : List String} {p : Path}
      (h : PathSteps ts names) (hp : Path.parse (".".intercalate (head :: names)) = .ok p) :
      Derives .primary (.identifier head :: ts) (.path p)
  | call {head : String} {ts : List Token} {names : List String} {p : Path} (method : String)
      (h : PathSteps ts names) (hp : Path.parse (".".intercalate (head :: names)) = .ok p) :
      Derives .primary
        (.identifier head :: (ts ++ [.dot, .identifier method, .openParen, .closeParen]))
        (.call p method)

end SqlTemplate.Condition
