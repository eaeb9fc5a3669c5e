import SqlTemplate.Proofs.ConditionGrammar
import SqlTemplate.Proofs.ConditionTokens
import SqlTemplate.Proofs.Success

namespace SqlTemplate.Condition

theorem pathOf_eq_ok_iff {names : List String} {p : Path} :
    pathOf names = .ok p ↔ Path.parse (".".intercalate names) = .ok p :=
  mapError_eq_ok

theorem endPath_eq_ok {names : List String} {build : Path → Expr} {s rest : Stream} {e : Expr}
    (h : endPath names build s = .ok (e, rest)) :
    rest = s ∧ ∃ p, Path.parse (".".intercalate names) = .ok p ∧ e = build p := by
  have hpath : (pathOf names).map (fun p => (build p, s)) = .ok (e, rest) := by
    cases s with
    | broken error => cases h
    | ended position => exact h
    | token t position s => exact h
  cases hp : pathOf names with
  | error error =>
    rw [hp] at hpath
    cases hpath
  | ok p =>
    rw [hp] at hpath
    cases hpath
    exact ⟨rfl, p, pathOf_eq_ok_iff.mp hp, rfl⟩

section Soundness

def Sound (level : Level) (parser : Parser) : Prop :=
  ∀ s rest e, parser s = .ok (e, rest) → ∃ ts, Stream.Leads ts s rest ∧ Derives level ts e

variable {s rest : Stream} {e : Expr}

theorem pathTail_sound {head : String} {us : List Token} {before : List String}
    (hbefore : PathSteps us before) (h : pathTail (head :: before) s = .ok (e, rest)) :
    ∃ ts, Stream.Leads ts s rest ∧ Derives .primary (.identifier head :: (us ++ ts)) e := by
  -- The steps read so far are an invariant: each turn of the loop adds one at their end.
  generalize hnames : head :: before = names at h
  fun_induction pathTail names s generalizing us before with
  | case1 names p name q p' q' s =>
    subst hnames
    obtain ⟨rfl, path, hp, rfl⟩ := endPath_eq_ok h
    refine ⟨_, .cons _ _ (.cons _ _ (.cons _ _ (.cons _ _ (.nil _)))), ?_⟩
    exact .call name hbefore hp
  | case2 => cases h
  | case3 names p name q s hopen hcall ih =>
    subst hnames
    have hsnoc : PathSteps (us ++ [.dot, .identifier name]) (before ++ [name]) :=
      hbefore.append (.property name .nil)
    obtain ⟨ts, hts, hd⟩ := ih hsnoc rfl h
    refine ⟨_, .cons _ _ (.cons _ _ hts), ?_⟩
    simpa using hd
  | case4 names p n q s hn ih =>
    subst hnames
    have hsnoc : PathSteps (us ++ [.dot, .integer n]) (before ++ [Number.integerText n.toInt]) :=
      hbefore.append (.index hn .nil)
    obtain ⟨ts, hts, hd⟩ := ih hsnoc rfl h
    refine ⟨_, .cons _ _ (.cons _ _ hts), ?_⟩
    simpa using hd
  | case5 => cases h
  | case6 => cases h
  | case7 names s =>
    subst hnames
    obtain ⟨rfl, path, hp, rfl⟩ := endPath_eq_ok h
    refine ⟨[], .nil _, ?_⟩
    rw [List.append_nil]
    exact .path hbefore hp

theorem primary_sound {inner : Parser} (hinner : Sound .disjunction inner) :
    Sound .primary (primary inner) := by
  intro s rest e h
  unfold primary at h
  split at h
  · cases h
    exact ⟨_, .cons _ _ (.nil _), .float _⟩
  · cases h
    exact ⟨_, .cons _ _ (.nil _), .integer _⟩
  · cases h
    exact ⟨_, .cons _ _ (.nil _), .string _⟩
  · cases h
    exact ⟨_, .cons _ _ (.nil _), .boolean _⟩
  · cases h
    exact ⟨_, .cons _ _ (.nil _), .null⟩
  · obtain ⟨⟨e', s'⟩, he, h⟩ := bind_eq_ok.mp h
    obtain ⟨ts, hts, hd⟩ := hinner _ _ _ he
    dsimp only at h
    split at h
    · cases h
      exact ⟨_, .cons _ _ (hts.append (.cons _ _ (.nil _))), .parentheses hd⟩
    · cases h
  · obtain ⟨ts, hts, hd⟩ := pathTail_sound .nil h
    exact ⟨_, .cons _ _ hts, hd⟩
  · cases h

theorem comparison_sound {operand : Parser} (hop : Sound .primary operand) :
    Sound .comparison (comparison operand) := by
  intro s rest e h
  obtain ⟨⟨l, s'⟩, hl, h⟩ := bind_eq_ok.mp h
  obtain ⟨ls, hls, hdl⟩ := hop _ _ _ hl
  dsimp only at h
  split at h
  · split at h
    · next op ht =>
      obtain ⟨⟨r, s''⟩, hr, h⟩ := bind_eq_ok.mp h
      obtain ⟨rs, hrs, hdr⟩ := hop _ _ _ hr
      cases h
      exact ⟨_, hls.append (.cons _ _ hrs), .compare ht hdl hdr⟩
    · cases h
      exact ⟨ls, hls, .ofPrimary hdl⟩
  · cases h
    exact ⟨ls, hls, .ofPrimary hdl⟩

theorem negation_sound {operand : Parser} (hop : Sound .comparison operand) :
    Sound .negation (negation operand) := by
  intro s rest e h
  fun_induction negation operand s generalizing e with
  | case1 position s ih =>
    obtain ⟨⟨e', s'⟩, he, h⟩ := bind_eq_ok.mp h
    cases h
    obtain ⟨ts, hts, hd⟩ := ih _ he
    exact ⟨_, .cons _ _ hts, .not hd⟩
  | case2 s =>
    obtain ⟨ts, hts, hd⟩ := hop _ _ _ h
    exact ⟨ts, hts, .ofComparison hd⟩

variable {t : Token} {join : Expr → Expr → Expr} {operand : Parser} {level operandLevel : Level}

theorem operandsAfter_next (bound position : Nat) (l : Expr) :
    operandsAfter t join operand (bound + 1) l (.token t position s) =
      operand s >>= fun r => operandsAfter t join operand bound (join l r.1) r.2 := by
  rw [operandsAfter, if_pos rfl]

theorem operandsAfter_stop (h : ∀ position behind, s ≠ .token t position behind) (bound : Nat)
    (l : Expr) : operandsAfter t join operand bound l s = .ok (l, s) := by
  cases bound with
  | zero => rfl
  | succ bound =>
    cases s with
    | ended position => rfl
    | broken error => rfl
    | token u position behind =>
      have hu : u ≠ t := fun hu => h position behind (by rw [hu])
      rw [operandsAfter, if_neg hu]

theorem operandsAfter_sound (hop : Sound operandLevel operand)
    (hjoin : ∀ {ls rs l r}, Derives level ls l → Derives operandLevel rs r →
      Derives level (ls ++ t :: rs) (join l r))
    {bound : Nat} {ls : List Token} {l : Expr} (hl : Derives level ls l)
    (h : operandsAfter t join operand bound l s = .ok (e, rest)) :
    ∃ ts, Stream.Leads ts s rest ∧ Derives level (ls ++ ts) e := by
  induction bound generalizing ls l s with
  | zero =>
    cases h
    exact ⟨[], .nil _, by rwa [List.append_nil]⟩
  | succ bound ih =>
    by_cases hnext : ∃ position behind, s = .token t position behind
    · obtain ⟨position, behind, rfl⟩ := hnext
      rw [operandsAfter_next] at h
      obtain ⟨⟨r, s'⟩, hr, h⟩ := bind_eq_ok.mp h
      obtain ⟨rs, hrs, hdr⟩ := hop _ _ _ hr
      obtain ⟨ts, hts, hd⟩ := ih (hjoin hl hdr) h
      refine ⟨_, .cons _ _ (hrs.append hts), ?_⟩
      simpa using hd
    · rw [operandsAfter_stop (fun position behind hs => hnext ⟨position, behind, hs⟩)] at h
      cases h
      exact ⟨[], .nil _, by rwa [List.append_nil]⟩

theorem chain_sound (hop : Sound operandLevel operand)
    (hone : ∀ {ts e}, Derives operandLevel ts e → Derives level ts e)
    (hjoin : ∀ {ls rs l r}, Derives level ls l → Derives operandLevel rs r →
      Derives level (ls ++ t :: rs) (join l r)) :
    Sound level (chain t join operand) := by
  intro s rest e h
  obtain ⟨⟨l, s'⟩, hl, h⟩ := bind_eq_ok.mp h
  obtain ⟨ls, hls, hdl⟩ := hop _ _ _ hl
  obtain ⟨ts, hts, hd⟩ := operandsAfter_sound hop hjoin (hone hdl) h
  exact ⟨_, hls.append hts, hd⟩

end Soundness

def Level.parser (inner : Parser) : Level → Parser
  | primary => Condition.primary inner
  | comparison => Condition.comparison (Condition.primary inner)
  | negation => Condition.negation (Condition.comparison (Condition.primary inner))
  | conjunction =>
    chain .and .and (Condition.negation (Condition.comparison (Condition.primary inner)))
  | disjunction => chain .or .or <|
    chain .and .and (Condition.negation (Condition.comparison (Condition.primary inner)))

theorem Level.parser_sound {inner : Parser} (hinner : Sound .disjunction inner) (level : Level) :
    Sound level (level.parser inner) := by
  have hprimary := primary_sound hinner
  have hcomparison := comparison_sound hprimary
  have hnegation := negation_sound hcomparison
  have hconjunction := chain_sound hnegation .ofNegation .and
  cases level with
  | primary => exact hprimary
  | comparison => exact hcomparison
  | negation => exact hnegation
  | conjunction => exact hconjunction
  | disjunction => exact chain_sound hconjunction .ofConjunction .or

theorem expression_sound (depth : Nat) : Sound .disjunction (expression depth) := by
  induction depth with
  | zero =>
    intro s rest e h
    cases h
  | succ depth ih => exact Level.parser_sound ih .disjunction

section Completeness

variable {s mid rest : Stream} {e l r : Expr} {t : Token} {join : Expr → Expr → Expr}
  {operand : Parser} {operandLevel : Level}

theorem Sound.length_le {level : Level} {parser : Parser} (h : Sound level parser)
    (he : parser s = .ok (e, rest)) : rest.length ≤ s.length := by
  obtain ⟨ts, hts, -⟩ := h _ _ _ he
  have hlength := hts.length_eq
  omega

theorem operandsAfter_bound (hop : Sound operandLevel operand) {bound bound' : Nat}
    (h : s.length ≤ bound) (h' : s.length ≤ bound') :
    operandsAfter t join operand bound e s = operandsAfter t join operand bound' e s := by
  induction bound generalizing bound' s e with
  | zero =>
    have hstop : ∀ position behind, s ≠ .token t position behind := by
      rintro position behind rfl
      simp [Stream.length] at h
    rw [operandsAfter_stop hstop, operandsAfter_stop hstop]
  | succ bound ih =>
    by_cases hnext : ∃ position behind, s = .token t position behind
    · obtain ⟨position, behind, rfl⟩ := hnext
      rw [Stream.length] at h h'
      obtain ⟨bound', rfl⟩ : ∃ b, bound' = b + 1 := ⟨bound' - 1, by omega⟩
      rw [operandsAfter_next, operandsAfter_next]
      cases hr : operand behind with
      | error error => rfl
      | ok r =>
        have hle := hop.length_le hr
        exact ih (by omega) (by omega)
    · have hstop : ∀ position behind, s ≠ .token t position behind :=
        fun position behind hs => hnext ⟨position, behind, hs⟩
      rw [operandsAfter_stop hstop, operandsAfter_stop hstop]

theorem chain_one (h : operand s = .ok (e, rest)) :
    chain t join operand s = operandsAfter t join operand rest.length e rest := by
  rw [chain, h]
  rfl

theorem chain_join (hop : Sound operandLevel operand) (position : Nat)
    (hl : chain t join operand s =
      operandsAfter t join operand (mid.length + 1) l (.token t position mid))
    (hr : operand mid = .ok (r, rest)) :
    chain t join operand s = operandsAfter t join operand rest.length (join l r) rest := by
  rw [hl, operandsAfter_next, hr]
  exact operandsAfter_bound hop (hop.length_le hr) (Nat.le_refl _)

theorem comparison_join {op : Comparison} (ht : Comparison.ofToken? t = some op) {position : Nat}
    (hl : operand s = .ok (l, .token t position mid)) (hr : operand mid = .ok (r, rest)) :
    comparison operand s = .ok (.compare op l r, rest) := by
  rw [comparison, hl]
  dsimp only [Bind.bind, Except.bind]
  rw [ht, hr]
  rfl

theorem comparison_one (h : operand s = .ok (e, rest))
    (hrest : ∀ t position behind, rest = .token t position behind →
      Comparison.ofToken? t = none) : comparison operand s = .ok (e, rest) := by
  rw [comparison, h]
  cases rest with
  | ended position => rfl
  | broken error => rfl
  | token t position behind =>
    have ht := hrest t position behind rfl
    dsimp only [Bind.bind, Except.bind]
    rw [ht]
    rfl

def Level.Stops (level : Level) : Stream → Prop
  | .ended _ => True
  | .broken _ => False
  | .token t _ _ => t = .closeParen ∨ t = .or ∨ level ≠ .disjunction ∧ t = .and ∨
    level = .primary ∧ (Comparison.ofToken? t).isSome

theorem Level.Stops.tighter {level level' : Level} (h : level.Stops s)
    (hd : level ≠ .disjunction → level' ≠ .disjunction)
    (hp : level = .primary → level' = .primary) : level'.Stops s := by
  cases s with
  | ended position => trivial
  | broken error => exact h
  | token t position rest =>
    rcases h with h | h | ⟨hl, h⟩ | ⟨hl, h⟩
    · exact .inl h
    · exact .inr (.inl h)
    · exact .inr (.inr (.inl ⟨hd hl, h⟩))
    · exact .inr (.inr (.inr ⟨hp hl, h⟩))

def Level.resume (inner : Parser) : Level → Expr → Parser
  | disjunction, e, s => operandsAfter .or .or (conjunction.parser inner) s.length e s
  | conjunction, e, s => operandsAfter .and .and (negation.parser inner) s.length e s
  | _, e, s => .ok (e, s)

theorem Level.resume_of_stops {inner : Parser} (h : Stops .disjunction s) :
    resume inner .conjunction e s = .ok (e, s) := by
  apply operandsAfter_stop
  rintro position behind rfl
  simp [Stops] at h

theorem pathTail_property {names : List String} {name : String} {position position' : Nat}
    (h : ∀ p behind, s ≠ .token .openParen p behind) :
    pathTail names (.token .dot position (.token (.identifier name) position' s)) =
      pathTail (names ++ [name]) s := by
  rw [pathTail]
  · exact fun p p' behind hs => h p _ hs
  · exact h

theorem PathSteps.not_openParen {ts : List Token} {names : List String} (h : PathSteps ts names)
    (hts : Stream.Leads ts s mid) (hmid : ∀ p behind, mid ≠ .token .openParen p behind) :
    ∀ p behind, s ≠ .token .openParen p behind := by
  cases h with
  | nil =>
    cases hts
    exact hmid
  | property =>
    cases hts
    simp
  | index =>
    cases hts
    simp

theorem pathTail_steps {ts : List Token} {more : List String} (hsteps : PathSteps ts more)
    (hts : Stream.Leads ts s mid) (hmid : ∀ p behind, mid ≠ .token .openParen p behind)
    (names : List String) : pathTail names s = pathTail (names ++ more) mid := by
  induction hsteps generalizing s names with
  | nil =>
    cases hts
    rw [List.append_nil]
  | property name hsteps ih =>
    obtain _ | ⟨_, _, _ | ⟨_, _, hts⟩⟩ := hts
    rw [pathTail_property (hsteps.not_openParen hts hmid), ih hts, List.append_assoc,
      List.singleton_append]
  | index hn hsteps ih =>
    obtain _ | ⟨_, _, _ | ⟨_, _, hts⟩⟩ := hts
    rw [pathTail, if_pos hn, ih hts, List.append_assoc, List.singleton_append]

theorem endPath_eq {level : Level} (h : level.Stops s) {names : List String} {p : Path}
    (hp : Path.parse (".".intercalate names) = .ok p) (build : Path → Expr) :
    endPath names build s = .ok (build p, s) := by
  have hpath : pathOf names = .ok p := pathOf_eq_ok_iff.mpr hp
  cases s with
  | broken error => exact absurd h id
  | ended position =>
    rw [endPath, hpath]
    · rfl
    · nofun
  | token t position rest =>
    rw [endPath, hpath]
    · rfl
    · nofun

theorem Level.Stops.not_openParen {level : Level} (h : level.Stops s) :
    ∀ p behind, s ≠ .token .openParen p behind := by
  rintro p behind rfl
  simp [Level.Stops, Comparison.ofToken?] at h

theorem pathTail_of_stops {level : Level} (h : level.Stops s) (names : List String) :
    pathTail names s = endPath names .path s := by
  cases s with
  | ended position => rfl
  | broken error => rfl
  | token t position behind =>
    have ht : t ≠ .dot := by
      rintro rfl
      simp [Level.Stops, Comparison.ofToken?] at h
    rw [pathTail]
    all_goals simp [ht]

theorem Derives.reads {level : Level} {ts : List Token} (h : Derives level ts e) {depth : Nat}
    (hdepth : ts.length ≤ depth) (hts : Stream.Leads ts s rest) (hrest : level.Stops rest) :
    level.parser (expression depth) s = level.resume (expression depth) e rest := by
  -- The left operand of a chain is a chain itself: its parser does not stop in front of `t`, and
  -- what it resumes with is the rest of the whole chain.
  induction h generalizing depth s rest with
  | @or ls rs l r _ _ ihl ihr =>
    rw [List.length_append, List.length_cons] at hdepth
    have hld : ls.length ≤ depth := by omega
    have hrd : rs.length ≤ depth := by omega
    obtain ⟨m, hls, _ | ⟨_, position, hrs⟩⟩ := hts.split
    have hl := ihl hld hls (.inr (.inl rfl))
    have hr := ihr hrd hrs (hrest.tighter (by decide) (by decide))
    rw [Level.resume_of_stops hrest] at hr
    exact chain_join (Level.parser_sound (expression_sound depth) .conjunction) position hl hr
  | ofConjunction _ ih =>
    have h := ih hdepth hts (hrest.tighter (by decide) (by decide))
    rw [Level.resume_of_stops hrest] at h
    exact chain_one h
  | @and ls rs l r _ _ ihl ihr =>
    rw [List.length_append, List.length_cons] at hdepth
    have hld : ls.length ≤ depth := by omega
    have hrd : rs.length ≤ depth := by omega
    obtain ⟨m, hls, _ | ⟨_, position, hrs⟩⟩ := hts.split
    have hl := ihl hld hls (.inr (.inr (.inl ⟨by decide, rfl⟩)))
    have hr := ihr hrd hrs (hrest.tighter (by decide) (by decide))
    exact chain_join (Level.parser_sound (expression_sound depth) .negation) position hl hr
  | ofNegation _ ih =>
    have h := ih hdepth hts (hrest.tighter (by decide) (by decide))
    exact chain_one h
  | @not ts e _ ih =>
    rw [List.length_cons] at hdepth
    obtain _ | ⟨_, position, hts⟩ := hts
    have h := ih (Nat.le_of_succ_le hdepth) hts hrest
    rw [Level.parser] at h ⊢
    rw [negation, h]
    rfl
  | ofComparison _ ih =>
    have h := ih hdepth hts (hrest.tighter (by decide) (by decide))
    -- In front of a negation the parser of comparisons fails.
    have hnot : ∀ position behind, s ≠ .token .not position behind := by
      rintro position behind rfl
      cases h
    rw [Level.parser, negation]
    · exact h
    · exact hnot
  | @compare t op ht ls rs l r _ _ ihl ihr =>
    rw [List.length_append, List.length_cons] at hdepth
    have hld : ls.length ≤ depth := by omega
    have hrd : rs.length ≤ depth := by omega
    obtain ⟨m, hls, _ | ⟨_, position, hrs⟩⟩ := hts.split
    have hl := ihl hld hls (.inr (.inr (.inr ⟨rfl, by rw [ht]; rfl⟩)))
    have hr := ihr hrd hrs (hrest.tighter (by decide) (by decide))
    exact comparison_join ht hl hr
  | ofPrimary _ ih =>
    have h := ih hdepth hts (hrest.tighter (by decide) (by decide))
    refine comparison_one h ?_
    rintro t position behind rfl
    rcases hrest with rfl | rfl | ⟨-, rfl⟩ | ⟨⟨⟩, -⟩
    all_goals rfl
  | float x =>
    obtain _ | ⟨_, position, ⟨⟩⟩ := hts
    rfl
  | integer n =>
    obtain _ | ⟨_, position, ⟨⟩⟩ := hts
    rfl
  | string text =>
    obtain _ | ⟨_, position, ⟨⟩⟩ := hts
    rfl
  | boolean b =>
    obtain _ | ⟨_, position, ⟨⟩⟩ := hts
    rfl
  | null =>
    obtain _ | ⟨_, position, ⟨⟩⟩ := hts
    rfl
  | @parentheses ts e _ ih =>
    obtain _ | ⟨_, position, hts⟩ := hts
    obtain ⟨m, hts, _ | ⟨_, position', ⟨⟩⟩⟩ := hts.split
    rw [List.length_cons, List.length_append, List.length_singleton] at hdepth
    obtain ⟨d, rfl⟩ : ∃ d, depth = d + 1 := ⟨depth - 1, by omega⟩
    have hd : ts.length ≤ d := by omega
    have h := ih hd hts (.inl rfl)
    have hexpression : expression (d + 1) _ = .ok (e, .token .closeParen position' rest) :=
      h.trans (operandsAfter_stop (by simp) _ _)
    rw [Level.parser, primary, parenthesised, hexpression]
    rfl
  | path h hp =>
    obtain _ | ⟨_, position, hts⟩ := hts
    rw [Level.parser, primary, pathTail_steps h hts hrest.not_openParen, pathTail_of_stops hrest]
    exact endPath_eq hrest hp .path
  | call method h hp =>
    obtain _ | ⟨_, position, hts⟩ := hts
    obtain ⟨m, hts, _ | ⟨_, _, _ | ⟨_, _, _ | ⟨_, _, _ | ⟨_, _, ⟨⟩⟩⟩⟩⟩⟩ := hts.split
    rw [Level.parser, primary, pathTail_steps h hts (by simp), pathTail]
    exact endPath_eq hrest hp (.call · method)

end Completeness

theorem Stream.exists_tokens_of_parse {s : Stream} {e : Expr} (h : s.parse = .ok e) :
    ∃ ts, s.tokens? = some ts ∧ Derives .disjunction ts e := by
  obtain ⟨⟨e', rest⟩, he, h⟩ := bind_eq_ok.mp h
  obtain ⟨ts, hts, hd⟩ := expression_sound _ _ _ _ he
  dsimp only at h
  split at h
  · next position =>
    cases h
    exact ⟨ts, leads_ended_iff.mp ⟨position, hts⟩, hd⟩
  · cases h

theorem Stream.parse_eq_ok_iff {s : Stream} {ts : List Token} (hs : s.tokens? = some ts)
    {e : Expr} : s.parse = .ok e ↔ Derives .disjunction ts e := by
  constructor
  · intro h
    obtain ⟨us, hus, hd⟩ := exists_tokens_of_parse h
    rw [hs] at hus
    cases hus
    exact hd
  · intro hd
    obtain ⟨position, hts⟩ := leads_ended_iff.mpr hs
    have hlength := hts.length_eq
    have hread := hd.reads (Nat.le_of_eq hlength.symm) hts trivial
    have hexpression : expression (s.length + 1) s = .ok (e, .ended position) := hread
    rw [parse, hexpression]
    rfl

theorem Derives.unique {ts : List Token} {e e' : Expr} (h : Derives .disjunction ts e)
    (h' : Derives .disjunction ts e') : e = e' := by
  have hs := Stream.tokens?_ofTokens ts
  have he := (Stream.parse_eq_ok_iff hs).mpr h
  have he' := (Stream.parse_eq_ok_iff hs).mpr h'
  rw [he] at he'
  exact Except.ok.inj he'

theorem parse_iff_derives {source : String} {ts : List Token}
    (h : (Stream.scan (.start source)).tokens? = some ts) (e : Expr) :
    parse source = .ok e ↔ Derives .disjunction ts e :=
  Stream.parse_eq_ok_iff h

def precedenceText : String := "a && !b < 1 || c.d()"

def precedenceTokens : List Token :=
  [.identifier "a", .and, .not, .identifier "b", .less, .integer 1, .or, .identifier "c", .dot,
    .identifier "d", .openParen, .closeParen]

theorem tokens?_precedenceText :
    (Stream.scan (.start precedenceText)).tokens? = some precedenceTokens := by
  have ha : next (.start precedenceText) =
      (.ok (.identifier "a"), ⟨1, " && !b < 1 || c.d()".toList⟩) := rfl
  have hand : next ⟨1, " && !b < 1 || c.d()".toList⟩ =
      (.ok .and, ⟨4, " !b < 1 || c.d()".toList⟩) := rfl
  have hnot : next ⟨4, " !b < 1 || c.d()".toList⟩ =
      (.ok .not, ⟨6, "b < 1 || c.d()".toList⟩) := rfl
  have hb : next ⟨6, "b < 1 || c.d()".toList⟩ =
      (.ok (.identifier "b"), ⟨7, " < 1 || c.d()".toList⟩) := rfl
  have hless : next ⟨7, " < 1 || c.d()".toList⟩ = (.ok .less, ⟨9, " 1 || c.d()".toList⟩) := rfl
  have hone : next ⟨9, " 1 || c.d()".toList⟩ =
      (.ok (.integer 1), ⟨11, " || c.d()".toList⟩) := rfl
  have hor : next ⟨11, " || c.d()".toList⟩ = (.ok .or, ⟨14, " c.d()".toList⟩) := rfl
  have hc : next ⟨14, " c.d()".toList⟩ = (.ok (.identifier "c"), ⟨16, ".d()".toList⟩) := rfl
  have hdot : next ⟨16, ".d()".toList⟩ = (.ok .dot, ⟨17, "d()".toList⟩) := rfl
  have hd : next ⟨17, "d()".toList⟩ = (.ok (.identifier "d"), ⟨18, "()".toList⟩) := rfl
  have hopen : next ⟨18, "()".toList⟩ = (.ok .openParen, ⟨19, ")".toList⟩) := rfl
  have hclose : next ⟨19, ")".toList⟩ = (.ok .closeParen, ⟨20, []⟩) := rfl
  have hend : next ⟨20, []⟩ = (.ok .endOfInput, ⟨20, []⟩) := rfl
  rw [Stream.scan_token ha nofun, Stream.scan_token hand nofun, Stream.scan_token hnot nofun,
    Stream.scan_token hb nofun, Stream.scan_token hless nofun, Stream.scan_token hone nofun,
    Stream.scan_token hor nofun, Stream.scan_token hc nofun, Stream.scan_token hdot nofun,
    Stream.scan_token hd nofun, Stream.scan_token hopen nofun, Stream.scan_token hclose nofun,
    Stream.scan_ended hend]
  rfl

theorem parse_iff_derives_precedence :
    (Stream.scan (.start precedenceText)).tokens? = some precedenceTokens ∧
      parse precedenceText = .ok (.or
        (.and (.path ⟨"a", []⟩) (.not (.compare .less (.path ⟨"b", []⟩) (.integer 1))))
        (.call ⟨"c", []⟩ "d")) := by
  refine ⟨tokens?_precedenceText, (parse_iff_derives tokens?_precedenceText _).mpr ?_⟩
  have ha : Derives .primary [.identifier "a"] (.path ⟨"a", []⟩) := .path .nil rfl
  have hb : Derives .primary [.identifier "b"] (.path ⟨"b", []⟩) := .path .nil rfl
  have hless : Derives .comparison [.identifier "b", .less, .integer 1]
      (.compare .less (.path ⟨"b", []⟩) (.integer 1)) := .compare rfl hb (.integer 1)
  have hand : Derives .conjunction
      [.identifier "a", .and, .not, .identifier "b", .less, .integer 1]
      (.and (.path ⟨"a", []⟩) (.not (.compare .less (.path ⟨"b", []⟩) (.integer 1)))) :=
    .and (.ofNegation (.ofComparison (.ofPrimary ha))) (.not (.ofComparison hless))
  have hcall : Derives .primary
      [.identifier "c", .dot, .identifier "d", .openParen, .closeParen]
      (.call ⟨"c", []⟩ "d") := .call "d" .nil rfl
  exact .or (.ofConjunction hand) (.ofNegation (.ofComparison (.ofPrimary hcall)))

end SqlTemplate.Condition
