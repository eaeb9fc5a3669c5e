import Mathlib.Logic.Relation
import SqlTemplate.Proofs.LoopTurns

namespace SqlTemplate

/-- A bind variable in the turns of the loops around it, with what its path leads to there and what
is bound for that. -/
structure Visit where
  loops : Loops
  var : Variable
  value : Value
  binds : List Bind

inductive Node.Enters (params : Params) : Loops × Node → Loops × Node → Prop
  | chosen {loops t children otherwise c} :
    Scope.test ⟨params, loops⟩ t = .ok true → c ∈ children →
    Enters params (loops, .ifElse t children otherwise) (loops, c)
  | otherwise {loops t children otherwise c} :
    Scope.test ⟨params, loops⟩ t = .ok false → c ∈ otherwise →
    Enters params (loops, .ifElse t children (some otherwise)) (loops, c)
  | optional {loops children c} : c ∈ children →
    Enters params (loops, .optional children) (loops, c)
  | loop {loops name collection children items turn c} :
    Scope.collection ⟨params, loops⟩ collection = .ok items → turn ∈ turns name items →
    c ∈ children → Enters params (loops, .loop name collection children) (turn :: loops, c)
  | first {loops children c} : loops.head?.any Iteration.isFirst = true → c ∈ children →
    Enters params (loops, .first children) (loops, c)
  | last {loops children c} : loops.head?.any Iteration.isLast = true → c ∈ children →
    Enters params (loops, .last children) (loops, c)
  | root {loops children c} : c ∈ children → Enters params (loops, .root children) (loops, c)

abbrev Node.Reaches (params : Params) : Loops × Node → Loops × Node → Prop :=
  Relation.ReflTransGen (Node.Enters params)

def Loops.Typed (loops : Loops) : Prop :=
  ∀ turn ∈ loops, turn.type = turn.element.type?.getD .object

theorem Loops.Typed.turn {loops : Loops} (h : loops.Typed) {name : String} {items : List Value}
    {turn : Iteration} (hturn : turn ∈ turns name items) : Loops.Typed (turn :: loops) :=
  List.forall_mem_cons.mpr ⟨(mem_turns hturn).2.2, h⟩

/-- Each bind has the type of its value. A null is bound where the variable allows it and its path
leads to one, with the type declared for the path if it starts at the parameters. A list is bound as
one value, or its elements are, in their order and without the nulls. All else is bound as it is,
but for the patterns of LIKE searches. -/
structure Visit.WellTyped (params : Params) (x : Visit) : Prop where
  resolves : ∃ type, Scope.resolve ⟨params, x.loops⟩ x.var.path = .ok ⟨x.value, type⟩
  plain : ∀ b ∈ x.binds, b.value.type? ≠ some .map ∧ b.value.type? ≠ some .bean
  typed : ∀ b ∈ x.binds, b.value.isNull = false → b.value.type? = some b.type
  nullable : ∀ b ∈ x.binds, b.value.isNull = true →
    x.var.options.nullable = true ∧ x.value.isNull = true
  declared : ∀ b ∈ x.binds, b.value.isNull = true →
    Scope.origin? ⟨params, x.loops⟩ x.var.path.head = some .root →
    b.type = (params.declared x.var.path.relative).getD .object
  element : ∀ b ∈ x.binds, b.value.isNull = true →
    Scope.origin? ⟨params, x.loops⟩ x.var.path.head ≠ some .root → b.type = .object
  list : ∀ b ∈ x.binds, b.value.type? = some .list → x.var.grouped = false
  items : ∀ items, x.var.grouped = true → x.value = .list items →
    x.binds.map Bind.value = items.filter fun item => !item.isNull
  whole : (x.var.grouped = true → x.value.type? ≠ some .list) →
    ∃ b, x.binds = [b] ∧ (x.var.options.like = none → b.value = x.value)

theorem Value.type?_of_not_isNull {v : Value} (h : v.isNull = false) (nullType : ValueType) :
    v.type? = some (v.type?.getD nullType) := by
  cases v with
  | null => cases h
  | _ => rfl

namespace Scope

theorem mem_of_origin? {scope : Scope} {head : String} {turn : Iteration}
    (h : scope.origin? head = some (.loop turn)) : turn ∈ scope.loops := by
  rw [origin?] at h
  split at h
  · next i hi =>
    cases h
    exact List.mem_of_find?_eq_some hi
  · split at h
    · cases h
    · split at h
      · obtain ⟨i, hi, h⟩ := Option.map_eq_some_iff.mp h
        cases h
        exact List.mem_of_head? hi
      · cases h

theorem type_of_resolve {scope : Scope} (hloops : scope.loops.Typed) {p : Path} {r : Resolved}
    (h : scope.resolve p = .ok r) :
    (r.value.isNull = false → r.value.type? = some r.type) ∧
      (r.value.isNull = true → scope.origin? p.head = some .root →
        r.type = (scope.params.declared p.relative).getD .object) ∧
      (r.value.isNull = true → scope.origin? p.head ≠ some .root → r.type = .object) := by
  cases horigin : scope.origin? p.head with
  | none =>
    rw [resolve, horigin] at h
    cases h
  | some origin =>
    rw [resolve_of_origin horigin, walk] at h
    obtain ⟨v, hv, h⟩ := TestValue.exists_of_map_eq_ok h
    cases h
    have hnone : v.isNull = true → v.type? = none := Option.isNone_iff_eq_none.mp
    refine ⟨fun hnull => Value.type?_of_not_isNull hnull _, ?_, ?_⟩
    · intro hnull hroot
      cases hroot
      simp [hnone hnull, nullType]
    · intro hnull hloop
      cases origin with
      | root => exact absurd rfl hloop
      | loop turn =>
        simp only [hnone hnull, Option.getD_none, nullType]
        split
        · -- The path is the alias alone, so the element of the loop is the null.
          next htail =>
          rw [List.isEmpty_iff] at htail
          rw [htail] at hv
          cases hv
          have helement : turn.element.type? = none := hnone hnull
          rw [hloops turn (mem_of_origin? horigin), helement]
          rfl
        · rfl

end Scope

theorem Value.type?_of_isScalar {v : Value} (h : v.isScalar = true) :
    v.isNull = false ∧ v.type? ≠ some .list ∧ v.type? ≠ some .map ∧ v.type? ≠ some .bean := by
  cases v with
  | null | list | map | bean => cases h
  | _ => simp [isNull, type?]

namespace Variable

variable {s : Settings} {v : Variable} {r : Resolved} {f : Filling}

theorem bindWhole_binds (h : v.bindWhole s r = .ok f) :
    ∃ value, f.binds = [⟨value, r.type⟩] ∧ value.type? = r.value.type? ∧
      (v.options.like = none → value = r.value) := by
  obtain ⟨value, hvalue, h⟩ := bind_eq_ok.mp h
  cases h
  refine ⟨value, rfl, ?_⟩
  rw [searchValue.eq_def] at hvalue
  split at hvalue
  · cases hvalue
    exact ⟨rfl, fun _ => rfl⟩
  · next hlike htext =>
    cases hvalue
    rw [htext, hlike]
    exact ⟨rfl, by simp⟩
  · cases hvalue

theorem embedText_binds {sql : String} (h : v.embedText sql = .ok f) : f.binds = [] := by
  rw [embedText] at h
  split at h
  · cases h
  · cases h
    rfl

theorem embedFilling_binds (h : v.embedFilling r = .ok f) : f.binds = [] := by
  rw [embedFilling.eq_def] at h
  split at h
  · cases h
    rfl
  · cases h
  · cases h
  · obtain ⟨sql, -, h⟩ := bind_eq_ok.mp h
    exact embedText_binds h
  · exact embedText_binds h

theorem bindFilling_binds (h : v.bindFilling s r = .ok f) :
    (r.value = .null ∧ v.options.nullable = true ∧ f.binds = [⟨.null, r.type⟩]) ∨
    (∃ items, r.value = .list items ∧ v.grouped = true ∧
      (∀ part ∈ (Value.list items).parts, part.isScalar = true) ∧
      f.binds = (Value.list items).parts.map Value.bind) ∨
    ((r.value.isScalar = true ∨ r.value.type? = some .list ∧ v.grouped = false) ∧
      ∃ value, f.binds = [⟨value, r.type⟩] ∧ value.type? = r.value.type? ∧
        (v.options.like = none → value = r.value)) := by
  cases hvalue : r.value with
  | null =>
    rw [bindFilling, hvalue] at h
    dsimp only at h
    split at h
    · next hnullable =>
      cases h
      exact .inl ⟨rfl, hnullable, rfl⟩
    · cases h
  | list items =>
    rw [bindFilling, hvalue] at h
    dsimp only at h
    split at h
    · next hgrouped =>
      obtain ⟨-, hall, rfl⟩ := bindElements_eq_ok_iff.mp h
      exact .inr (.inl ⟨items, rfl, hgrouped, hall, rfl⟩)
    · next hgrouped =>
      have hwhole := bindWhole_binds h
      rw [hvalue] at hwhole
      exact .inr (.inr ⟨.inr ⟨rfl, by simpa using hgrouped⟩, hwhole⟩)
  | map entries | bean typeName properties =>
    rw [bindFilling, hvalue] at h
    cases h
  | _ =>
    rw [bindFilling, hvalue] at h
    have hwhole := bindWhole_binds h
    rw [hvalue] at hwhole
    exact .inr (.inr ⟨.inl rfl, hwhole⟩)

end Variable

section WellTyped
variable {params : Params} {loops : Loops} {v : Variable} {r : Resolved} {binds : List Bind}
  (hr : Scope.resolve ⟨params, loops⟩ v.path = .ok r)
include hr

theorem Visit.wellTyped_null (hloops : loops.Typed) (hnull : r.value = .null)
    (hnullable : v.options.nullable = true) (hbinds : binds = [⟨.null, r.type⟩]) :
    WellTyped params ⟨loops, v, r.value, binds⟩ := by
  obtain ⟨-, hdeclared, helement⟩ := Scope.type_of_resolve hloops hr
  have hvalue : r.value.isNull = true := by
    rw [hnull]
    rfl
  have hb : ∀ b ∈ binds, b = ⟨.null, r.type⟩ := by simp [hbinds]
  constructor
  case resolves => exact ⟨r.type, hr⟩
  case plain =>
    intro b hmem
    rw [hb b hmem]
    simp [Value.type?]
  case typed =>
    intro b hmem h
    rw [hb b hmem] at h
    cases h
  case nullable => exact fun _ _ _ => ⟨hnullable, hvalue⟩
  case declared =>
    intro b hmem _ hroot
    rw [hb b hmem]
    exact hdeclared hvalue hroot
  case element =>
    intro b hmem _ hloop
    rw [hb b hmem]
    exact helement hvalue hloop
  case list =>
    intro b hmem h
    rw [hb b hmem] at h
    cases h
  case items =>
    intro items _ hitems
    rw [hnull] at hitems
    cases hitems
  case whole => exact fun _ => ⟨_, hbinds, fun _ => hnull.symm⟩

theorem Visit.wellTyped_elements {items : List Value} (hitems : r.value = .list items)
    (hgrouped : v.grouped = true)
    (hall : ∀ part ∈ (Value.list items).parts, part.isScalar = true)
    (hbinds : binds = (Value.list items).parts.map Value.bind) :
    WellTyped params ⟨loops, v, r.value, binds⟩ := by
  have hb : ∀ b ∈ binds, b.value.isScalar = true ∧ b.type = b.value.type?.getD .object := by
    rw [hbinds]
    intro b hmem
    obtain ⟨part, hpart, rfl⟩ := List.mem_map.mp hmem
    exact ⟨hall part hpart, rfl⟩
  have hnull : ∀ b ∈ binds, b.value.isNull = false :=
    fun b hmem => (Value.type?_of_isScalar (hb b hmem).1).1
  constructor
  case resolves => exact ⟨r.type, hr⟩
  case plain => exact fun b hmem => (Value.type?_of_isScalar (hb b hmem).1).2.2
  case typed =>
    intro b hmem h
    rw [(hb b hmem).2]
    exact Value.type?_of_not_isNull h .object
  case nullable | declared | element =>
    intro b hmem h
    rw [hnull b hmem] at h
    cases h
  case list =>
    intro b hmem h
    exact absurd h (Value.type?_of_isScalar (hb b hmem).1).2.1
  case items =>
    intro items' _ hitems'
    rw [hitems] at hitems'
    cases hitems'
    have hvalue : Bind.value ∘ Value.bind = id := rfl
    rw [hbinds, List.map_map, hvalue, List.map_id]
    rfl
  case whole =>
    intro hwhole
    rw [hitems] at hwhole
    exact absurd rfl (hwhole hgrouped)

theorem Visit.wellTyped_whole (hloops : loops.Typed)
    (hkind : r.value.isScalar = true ∨ r.value.type? = some .list ∧ v.grouped = false)
    {value : Value} (htype : value.type? = r.value.type?) (hlike : v.options.like = none → value = r.value)
    (hbinds : binds = [⟨value, r.type⟩]) :
    WellTyped params ⟨loops, v, r.value, binds⟩ := by
  obtain ⟨htyped, -, -⟩ := Scope.type_of_resolve hloops hr
  have hb : ∀ b ∈ binds, b.value.type? = r.value.type? ∧ b.type = r.type := by simp [hbinds, htype]
  have hplain : r.value.type? ≠ some .map ∧ r.value.type? ≠ some .bean := by
    rcases hkind with hscalar | ⟨hlist, -⟩
    · exact (Value.type?_of_isScalar hscalar).2.2
    · simp [hlist]
  have hnull : r.value.isNull = false := by
    rcases hkind with hscalar | ⟨hlist, -⟩
    · exact (Value.type?_of_isScalar hscalar).1
    · simp [Value.isNull, hlist]
  have hbnull : ∀ b ∈ binds, b.value.isNull = false := by
    intro b hmem
    rw [Value.isNull, (hb b hmem).1]
    exact hnull
  constructor
  case resolves => exact ⟨r.type, hr⟩
  case plain =>
    intro b hmem
    rw [(hb b hmem).1]
    exact hplain
  case typed =>
    intro b hmem _
    rw [(hb b hmem).1, (hb b hmem).2]
    exact htyped hnull
  case nullable | declared | element =>
    intro b hmem h
    rw [hbnull b hmem] at h
    cases h
  case list =>
    intro b hmem h
    rw [(hb b hmem).1] at h
    rcases hkind with hscalar | ⟨-, hgrouped⟩
    · exact absurd h (Value.type?_of_isScalar hscalar).2.1
    · exact hgrouped
  case items =>
    intro items hgrouped hitems
    rcases hkind with hscalar | ⟨-, hapart⟩
    · exact absurd (congrArg Value.type? hitems) (Value.type?_of_isScalar hscalar).2.1
    · rw [hapart] at hgrouped
      cases hgrouped
  case whole => exact fun _ => ⟨_, hbinds, hlike⟩

theorem Visit.wellTyped_bindFilling (hloops : loops.Typed) {s : Settings} {f : Filling}
    (hf : v.bindFilling s r = .ok f) : WellTyped params ⟨loops, v, r.value, f.binds⟩ := by
  rcases Variable.bindFilling_binds hf with
    ⟨hnull, hnullable, hbinds⟩ | ⟨items, hitems, hgrouped, hall, hbinds⟩ |
      ⟨hkind, value, hbinds, htype, hlike⟩
  · exact Visit.wellTyped_null hr hloops hnull hnullable hbinds
  · exact Visit.wellTyped_elements hr hitems hgrouped hall hbinds
  · exact Visit.wellTyped_whole hr hloops hkind htype hlike hbinds

end WellTyped

namespace Draft

def Visits (p : Visit → Prop) (d e : Draft) : Prop :=
  ∃ visits : List Visit, e.binds = d.binds ++ visits.flatMap Visit.binds ∧ ∀ x ∈ visits, p x

variable {p : Visit → Prop} {d e f : Draft}

theorem visits_of_binds_eq (h : e.binds = d.binds) : d.Visits p e := ⟨[], by simp [h], by simp⟩

theorem Visits.trans (hde : d.Visits p e) (hef : e.Visits p f) : d.Visits p f := by
  obtain ⟨xs, hxs, hp⟩ := hde
  obtain ⟨ys, hys, hq⟩ := hef
  exact ⟨xs ++ ys, by simp [hys, hxs], List.forall_mem_append.mpr ⟨hp, hq⟩⟩

theorem Visits.commit (s : Settings) (hd : d.binds = []) (h : d.Visits p e) (f : Draft) :
    f.Visits p (e.commit s f) := by
  obtain ⟨xs, hxs, hp⟩ := h
  exact ⟨xs, by simp [Draft.commit, append, hxs, hd], hp⟩

end Draft

namespace Step

variable {p q : Visit → Prop} {step next : Step}

def Visits (p : Visit → Prop) (step : Step) : Prop :=
  ∀ d e keeps, step d = .ok (e, keeps) → d.Visits p e

theorem Visits.mono (h : step.Visits p) (hpq : ∀ x, p x → q x) : step.Visits q := by
  intro d e keeps he
  obtain ⟨xs, hxs, hp⟩ := h d e keeps he
  exact ⟨xs, hxs, fun x hx => hpq x (hp x hx)⟩

theorem visits_nothing : nothing.Visits p := by
  intro d e keeps h
  cases h
  exact Draft.visits_of_binds_eq rfl

theorem visits_appendSql (sql : String) : (appendSql sql).Visits p := by
  intro d e keeps h
  cases h
  exact Draft.visits_of_binds_eq rfl

theorem visits_fill_nil {f : Filling} (hf : f.binds = []) : (fill f).Visits p := by
  intro d e keeps h
  cases h
  exact Draft.visits_of_binds_eq (by simp [Draft.fill, Draft.append, Draft.beginIf, hf])

theorem visits_fill {f : Filling} {x : Visit} (hx : p x) (hf : x.binds = f.binds) :
    (fill f).Visits p := by
  intro d e keeps h
  cases h
  exact ⟨[x], by simp [Draft.fill, Draft.append, Draft.beginIf, hf], by simpa using hx⟩

theorem visits_bind {α : Type} {x : Except RenderError α} {f : α → Step}
    (h : ∀ a, x = .ok a → (f a).Visits p) : Step.Visits p fun d => x >>= fun a => f a d := by
  intro d e keeps he
  obtain ⟨a, ha, he⟩ := bind_eq_ok.mp he
  exact h a ha d e keeps he

theorem Visits.andThen (hs : step.Visits p) (hn : next.Visits p) :
    Step.Visits p fun d => do
      let (d, a) ← step d
      let (d, b) ← next d
      return (d, a || b) := by
  intro d e keeps h
  obtain ⟨⟨d₁, a⟩, hfirst, h⟩ := bind_eq_ok.mp h
  obtain ⟨⟨d₂, b⟩, hrest, h⟩ := bind_eq_ok.mp h
  cases h
  exact (hs d d₁ a hfirst).trans (hn d₁ _ b hrest)

theorem visits_sequence {steps : List Step} (h : ∀ step ∈ steps, step.Visits p) :
    (sequence steps).Visits p := by
  induction steps with
  | nil => exact visits_nothing
  | cons step steps ih =>
    have hs := h step List.mem_cons_self
    have hn := ih fun next hnext => h next (List.mem_cons_of_mem _ hnext)
    exact hs.andThen hn

theorem Visits.settled (h : step.Visits p) : step.settled.Visits p := by
  intro d e keeps he
  obtain ⟨⟨d₁, a⟩, hstep, he⟩ := bind_eq_ok.mp he
  cases he
  exact (h d d₁ _ hstep).trans (Draft.visits_of_binds_eq rfl)

theorem Visits.branch (s : Settings) (h : step.Visits p) : (branch s step).Visits p := by
  intro d e keeps he
  rw [Step.branch] at he
  split at he
  · obtain ⟨⟨fragment, a⟩, hstep, he⟩ := bind_eq_ok.mp he
    cases he
    exact (h {} fragment a hstep).commit s rfl d
  · obtain ⟨⟨d₁, a⟩, hstep, he⟩ := bind_eq_ok.mp he
    cases he
    exact h d _ a hstep

theorem Visits.optional (s : Settings) (h : step.Visits p) : (optional s step).Visits p := by
  intro d e keeps he
  obtain ⟨⟨part, a⟩, hstep, he⟩ := bind_eq_ok.mp he
  cases he
  cases keeps with
  | true => exact (h .forOptional part true hstep).commit s rfl d
  | false =>
    -- A part that is left out takes its binds along.
    exact Draft.visits_of_binds_eq rfl

theorem visits_inTurn {q : Iteration → Bool} {loops : Loops}
    (h : loops.head?.any q = true → step.Visits p) : (inTurn q loops step).Visits p := by
  rw [inTurn]
  split
  · next hq => exact h hq
  · exact visits_nothing

end Step

def Visit.From (params : Params) (a : Loops × Node) (x : Visit) : Prop :=
  Node.Reaches params a (x.loops, .bind x.var) ∧ x.WellTyped params

theorem Step.Visits.entered {params : Params} {step : Step} {loops : Loops} {children : List Node}
    (h : step.Visits fun x => ∃ c ∈ children, x.From params (loops, c)) {a : Loops × Node}
    (henters : ∀ c ∈ children, Node.Enters params a (loops, c)) :
    step.Visits (Visit.From params a) := by
  apply h.mono
  rintro x ⟨c, hc, hreaches, htyped⟩
  exact ⟨hreaches.head (henters c hc), htyped⟩

mutual

theorem Node.visits_render (s : Settings) (params : Params) {loops : Loops} (hloops : loops.Typed)
    (n : Node) : (n.render s params loops).Visits (Visit.From params (loops, n)) := by
  cases n with
  | text sql =>
    rw [Node.render]
    exact Step.visits_appendSql sql
  | bind v =>
    rw [Node.render]
    apply Step.Visits.settled
    apply Step.visits_bind
    intro r hr
    apply Step.visits_bind
    intro f hf
    have htyped := Visit.wellTyped_bindFilling (mapError_eq_ok.mp hr) hloops hf
    exact Step.visits_fill (x := ⟨loops, v, r.value, f.binds⟩) ⟨.refl, htyped⟩ rfl
  | embed v =>
    rw [Node.render]
    apply Step.Visits.settled
    apply Step.visits_bind
    intro r hr
    apply Step.visits_bind
    intro f hf
    exact Step.visits_fill_nil (Variable.embedFilling_binds hf)
  | ifElse t children otherwise =>
    have hc := visits_renderAll s params hloops children
    cases otherwise with
    | none =>
      rw [Node.render]
      apply Step.Visits.settled
      apply Step.visits_bind
      rintro (_ | _) ht
      · exact Step.visits_nothing
      · exact (hc.branch s).entered fun c hmem => .chosen ht hmem
    | some otherwise =>
      have ho := visits_renderAll s params hloops otherwise
      rw [Node.render]
      apply Step.Visits.settled
      apply Step.visits_bind
      rintro (_ | _) ht
      · exact (ho.branch s).entered fun c hmem => .otherwise ht hmem
      · exact (hc.branch s).entered fun c hmem => .chosen ht hmem
  | optional children =>
    have hc := visits_renderAll s params hloops children
    rw [Node.render]
    exact ((hc.optional s).entered fun c hmem => .optional hmem).settled
  | loop name collection children =>
    rw [Node.render]
    apply Step.Visits.settled
    apply Step.visits_bind
    intro items hitems
    apply Step.visits_sequence
    intro step hstep
    obtain ⟨turn, hturn, rfl⟩ := List.mem_map.mp hstep
    have hc := visits_renderAll s params (hloops.turn hturn) children
    exact hc.entered fun c hmem => .loop hitems hturn hmem
  | first children =>
    have hc := visits_renderAll s params hloops children
    rw [Node.render]
    apply Step.Visits.settled
    apply Step.visits_inTurn
    intro hfirst
    exact hc.entered fun c hmem => .first hfirst hmem
  | last children =>
    have hc := visits_renderAll s params hloops children
    rw [Node.render]
    apply Step.Visits.settled
    apply Step.visits_inTurn
    intro hlast
    exact hc.entered fun c hmem => .last hlast hmem
  | next sql =>
    rw [Node.render]
    exact Step.visits_inTurn fun _ => Step.visits_appendSql sql
  | root children =>
    have hc := visits_renderAll s params hloops children
    rw [Node.render]
    exact (hc.entered fun c hmem => .root hmem).settled

theorem visits_renderAll (s : Settings) (params : Params) {loops : Loops} (hloops : loops.Typed)
    (ns : List Node) :
    Step.Visits (fun x => ∃ c ∈ ns, x.From params (loops, c)) (renderAll s params loops ns) := by
  cases ns with
  | nil => exact Step.visits_nothing
  | cons n ns =>
    have hn := Node.visits_render s params hloops n
    have hns := visits_renderAll s params hloops ns
    apply Step.Visits.andThen
    · exact hn.mono fun x hx => ⟨n, List.mem_cons_self, hx⟩
    · apply hns.mono
      rintro x ⟨c, hc, hx⟩
      exact ⟨c, List.mem_cons_of_mem n hc, hx⟩

end

/-- What a statement binds is what the bind variables contribute that the renderer comes by, one
after the other, and all of it is well typed. -/
theorem Node.evaluate_binds {s : Settings} {params : Params} {root : Node} {bound : Statement}
    (h : root.evaluate s params = .ok bound) :
    ∃ visits : List Visit, bound.binds = visits.flatMap Visit.binds ∧
      ∀ x ∈ visits, Node.Reaches params ([], root) (x.loops, .bind x.var) ∧ x.WellTyped params := by
  obtain ⟨⟨d, keeps⟩, hd, h⟩ := bind_eq_ok.mp h
  cases h
  have hloops : Loops.Typed [] := by simp [Loops.Typed]
  exact root.visits_render s params hloops {} d keeps hd

def ownerVariable : Variable := ⟨⟨"pmb", [.property "owner"]⟩, "1", false, { nullable := true }⟩

def tagsVariable : Variable := ⟨⟨"pmb", [.property "tags"]⟩, "1", true, {}⟩

def ownedTags : Params where
  rootName := "pmb"
  root := .map [("owner", .null), ("tags", .list [.string "a", .null, .boolean true])]
  declared := fun path => if path = "owner" then some .integer else none

theorem Node.evaluate_binds_declared :
    (Node.root [.bind ownerVariable, .text ", ", .bind tagsVariable]).evaluate {} ownedTags =
        .ok ⟨"?, (?, ?)", [⟨.null, .integer⟩, ⟨.string "a", .string⟩, ⟨.boolean true, .boolean⟩]⟩ ∧
      ∃ visits : List Visit,
        [⟨.null, .integer⟩, ⟨.string "a", .string⟩, ⟨.boolean true, .boolean⟩] =
          visits.flatMap Visit.binds ∧
        ∀ x ∈ visits,
          Node.Reaches ownedTags
            ([], .root [.bind ownerVariable, .text ", ", .bind tagsVariable])
            (x.loops, .bind x.var) ∧ x.WellTyped ownedTags := by
  have h : (Node.root [.bind ownerVariable, .text ", ", .bind tagsVariable]).evaluate {} ownedTags =
      .ok ⟨"?, (?, ?)", [⟨.null, .integer⟩, ⟨.string "a", .string⟩, ⟨.boolean true, .boolean⟩]⟩ :=
    rfl
  exact ⟨h, Node.evaluate_binds h⟩

end SqlTemplate
