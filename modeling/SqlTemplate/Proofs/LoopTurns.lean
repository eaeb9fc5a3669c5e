import SqlTemplate.Proofs.LikeOption
import SqlTemplate.Proofs.PathOrigin
import SqlTemplate.Proofs.StepFrame

namespace SqlTemplate

mutual

/-- The node in turn `i` of the `n` turns of the loop around it. What belongs to single turns is
there or is not. Loops inside have turns of their own. -/
def Node.atTurn (i n : Nat) : Node → List Node
  | .first children => if i = 0 then nodesAtTurn i n children else []
  | .last children => if i + 1 = n then nodesAtTurn i n children else []
  | .next sql => if i = 0 then [] else [.text sql]
  | .ifElse t children none => [.ifElse t (nodesAtTurn i n children) none]
  | .ifElse t children (some otherwise) =>
    [.ifElse t (nodesAtTurn i n children) (some (nodesAtTurn i n otherwise))]
  | .optional children => [.optional (nodesAtTurn i n children)]
  | .root children => [.root (nodesAtTurn i n children)]
  | .text sql => [.text sql]
  | .bind v => [.bind v]
  | .embed v => [.embed v]
  | .loop name collection children => [.loop name collection children]

def nodesAtTurn (i n : Nat) : List Node → List Node
  | [] => []
  | node :: nodes => node.atTurn i n ++ nodesAtTurn i n nodes

end

namespace Draft

def writeAll (outputs : List (Draft × Bool)) (d : Draft) : Draft :=
  { d with
    sql := d.sql ++ String.join (outputs.map fun o => o.1.sql)
    binds := d.binds ++ outputs.flatMap fun o => o.1.binds
    begun := d.begun || outputs.any fun o => o.1.begun }

theorem writeAll_nil (d : Draft) : d.writeAll [] = d := by
  simp [writeAll]

theorem writeAll_cons (o : Draft × Bool) (os : List (Draft × Bool)) (d : Draft) :
    d.writeAll (o :: os) = (d.followedBy o.1).writeAll os := by
  simp [writeAll, followedBy, String.join_cons, String.append_assoc, Bool.or_assoc]

theorem beginIf_of_begun {d : Draft} (h : d.begun = true) (begins : Bool) :
    d.beginIf begins = d := by
  obtain ⟨sql, binds, inOptional, begun⟩ := d
  cases h
  rfl

theorem beginIf_writeAll {os : List (Draft × Bool)} (h : ∀ o ∈ os, o.2 = true → o.1.begun = true)
    (d : Draft) : (d.writeAll os).beginIf (os.any Prod.snd) = d.writeAll os := by
  cases hany : os.any Prod.snd with
  | false => simp [beginIf]
  | true =>
    obtain ⟨o, ho, hkeeps⟩ := List.any_eq_true.mp hany
    have hbegun : os.any (fun o => o.1.begun) = true :=
      List.any_eq_true.mpr ⟨o, ho, h o ho hkeeps⟩
    apply beginIf_of_begun
    simp [writeAll, hbegun]

end Draft

namespace Step

def Begins (step : Step) : Prop := ∀ d e, step d = .ok (e, true) → e.begun = true

theorem begins_settled (step : Step) : step.settled.Begins := by
  intro d e h
  obtain ⟨⟨f, keeps⟩, -, h⟩ := bind_eq_ok.mp h
  cases h
  simp [Draft.beginIf]

theorem Begins.settled_eq {step : Step} (h : step.Begins) : step.settled = step := by
  funext d
  rw [settled]
  cases hd : step d with
  | error e => rfl
  | ok r =>
    obtain ⟨e, keeps⟩ := r
    cases keeps with
    | false => simp [bind, Except.bind, pure, Except.pure, Draft.beginIf]
    | true => simp [bind, Except.bind, pure, Except.pure, Draft.beginIf_of_begun (h d e hd)]

theorem Framed.begun {step : Step} (h : step.Framed) {d e : Draft} {keeps : Bool}
    (he : step d = .ok (e, keeps)) (hd : d.begun = true) : e.begun = true := by
  rw [h d] at he
  obtain ⟨r, -, he⟩ := TestValue.exists_of_map_eq_ok he
  cases he
  simp [Draft.followedBy, hd]

theorem begins_nothing : nothing.Begins := by
  intro d e h
  cases h

theorem Begins.inTurn {step : Step} (h : step.Begins) (p : Iteration → Bool) (loops : Loops) :
    (inTurn p loops step).Begins := by
  rw [Step.inTurn]
  split
  · exact h
  · exact begins_nothing

theorem inTurn_cons {p : Iteration → Bool} {turn : Iteration} {q : Prop} [Decidable q]
    (hq : p turn = decide q) (loops : Loops) (step : Step) :
    inTurn p (turn :: loops) step = if q then step else nothing := by
  have hturn : (turn :: loops).head?.any p = p turn := rfl
  rw [inTurn, hturn, hq]
  simp only [decide_eq_true_eq]

theorem sequence_eq_mapM {α : Type} {f : α → Step} (h : ∀ x, (f x).Framed) (xs : List α)
    {d : Draft} (hd : d.inOptional = false) :
    sequence (xs.map f) d =
      (xs.mapM fun x => f x {}).map fun os => (d.writeAll os, os.any Prod.snd) := by
  induction xs generalizing d with
  | nil => simp [sequence, pure, Except.pure, Except.map, Draft.writeAll_nil]
  | cons x xs ih =>
    have hfirst := h x d
    have hstrips : d.strips = false := by simp [Draft.strips, hd]
    rw [hstrips] at hfirst
    rw [List.map_cons, sequence, List.mapM_cons, hfirst]
    have hapart : f x (.fresh false) = f x {} := rfl
    rw [hapart]
    cases f x {} with
    | error e => rfl
    | ok o =>
      have hrest : (d.followedBy o.1).inOptional = false := hd
      simp only [Except.map, bind, Except.bind, ih hrest]
      cases xs.mapM fun x => f x {} with
      | error e => rfl
      | ok os => simp [pure, Except.pure, Draft.writeAll_cons]

end Step

section Render
variable (s : Settings) (params : Params) (loops : Loops)

theorem Node.render_begins (n : Node) : (n.render s params loops).Begins := by
  cases n with
  | text sql =>
    intro d e h
    rw [Node.render] at h
    cases h
  | next sql =>
    intro d e h
    rw [Node.render, Step.inTurn] at h
    split at h <;> cases h
  | ifElse t children otherwise =>
    cases otherwise <;> (rw [Node.render]; exact Step.begins_settled _)
  | _ =>
    rw [Node.render]
    exact Step.begins_settled _

theorem renderAll_begins (ns : List Node) : Step.Begins (renderAll s params loops ns) := by
  induction ns with
  | nil =>
    intro d e h
    cases h
  | cons n ns ih =>
    intro d e h
    obtain ⟨⟨e₁, a⟩, hfirst, h⟩ := bind_eq_ok.mp h
    obtain ⟨⟨e₂, b⟩, hrest, h⟩ := bind_eq_ok.mp h
    obtain ⟨rfl, hab⟩ := Prod.mk.inj (Except.ok.inj h)
    rcases Bool.or_eq_true_iff.mp hab with rfl | rfl
    · have hbegun := n.render_begins s params loops d e₁ hfirst
      exact (renderAll_framed s params loops ns).begun hrest hbegun
    · exact ih e₁ _ hrest

theorem renderAll_singleton (n : Node) :
    renderAll s params loops [n] = n.render s params loops := by
  funext d
  rw [renderAll]
  cases n.render s params loops d with
  | error e => rfl
  | ok r => simp [bind, Except.bind, pure, Except.pure, renderAll]

theorem renderAll_append (as bs : List Node) :
    renderAll s params loops (as ++ bs) = fun d => do
      let (d, a) ← renderAll s params loops as d
      let (d, b) ← renderAll s params loops bs d
      return (d, a || b) := by
  induction as with
  | nil =>
    funext d
    simp only [List.nil_append, renderAll, bind, Except.bind]
    cases renderAll s params loops bs d with
    | error e => rfl
    | ok r => simp [pure, Except.pure]
  | cons n as ih =>
    funext d
    simp only [List.cons_append, renderAll, ih]
    cases n.render s params loops d with
    | error e => rfl
    | ok r =>
      simp only [bind, Except.bind]
      cases renderAll s params loops as r.1 with
      | error e => rfl
      | ok q =>
        simp only [pure, Except.pure]
        cases renderAll s params loops bs q.1 with
        | error e => rfl
        | ok p => simp [Bool.or_assoc]

end Render

mutual

theorem Node.render_atTurn (s : Settings) (params : Params) (loops : Loops) (turn : Iteration)
    (n : Node) :
    renderAll s params (turn :: loops) (n.atTurn turn.index turn.size) =
      n.render s params (turn :: loops) := by
  cases n with
  | ifElse t children otherwise =>
    have hc := renderAll_atTurn s params loops turn children
    cases otherwise with
    | none => rw [Node.atTurn, renderAll_singleton, Node.render, Node.render, hc]
    | some otherwise =>
      have ho := renderAll_atTurn s params loops turn otherwise
      rw [Node.atTurn, renderAll_singleton, Node.render, Node.render, hc, ho]
  | optional children =>
    have hc := renderAll_atTurn s params loops turn children
    rw [Node.atTurn, renderAll_singleton, Node.render, Node.render, hc]
  | root children =>
    have hc := renderAll_atTurn s params loops turn children
    rw [Node.atTurn, renderAll_singleton, Node.render, Node.render, hc]
  | first children =>
    have hc := renderAll_atTurn s params loops turn children
    have hbegins := renderAll_begins s params (turn :: loops) children
    have hfirst : turn.isFirst = decide (turn.index = 0) := rfl
    rw [Node.atTurn, Node.render, (hbegins.inTurn _ _).settled_eq, Step.inTurn_cons hfirst]
    split
    · exact hc
    · rfl
  | last children =>
    have hc := renderAll_atTurn s params loops turn children
    have hbegins := renderAll_begins s params (turn :: loops) children
    have hlast : turn.isLast = decide (turn.index + 1 = turn.size) := rfl
    rw [Node.atTurn, Node.render, (hbegins.inTurn _ _).settled_eq, Step.inTurn_cons hlast]
    split
    · exact hc
    · rfl
  | next sql =>
    have hnext : (!turn.isFirst) = decide (turn.index ≠ 0) := decide_not.symm
    rw [Node.atTurn, Node.render, Step.inTurn_cons hnext, ite_not]
    split
    · rfl
    · rw [renderAll_singleton, Node.render]
  | _ => rw [Node.atTurn, renderAll_singleton]

theorem renderAll_atTurn (s : Settings) (params : Params) (loops : Loops) (turn : Iteration)
    (ns : List Node) :
    renderAll s params (turn :: loops) (nodesAtTurn turn.index turn.size ns) =
      renderAll s params (turn :: loops) ns := by
  cases ns with
  | nil => rfl
  | cons n ns =>
    have hn := n.render_atTurn s params loops turn
    have hns := renderAll_atTurn s params loops turn ns
    funext d
    rw [nodesAtTurn, renderAll_append, hn, hns, renderAll]

end

theorem mem_turns {name : String} {items : List Value} {turn : Iteration}
    (h : turn ∈ turns name items) :
    turn.name = name ∧ turn.element ∈ items ∧ turn.type = turn.element.type?.getD .object := by
  obtain ⟨i, hi, rfl⟩ := List.mem_mapIdx.mp h
  exact ⟨rfl, List.getElem_mem hi, rfl⟩

def listTurn (sep : String) (v : Variable) (turn : Iteration) : Draft × Bool :=
  ({ sql := (if turn.isFirst then "" else sep) ++ v.placeholder, binds := [turn.element.bind],
     begun := true }, true)

theorem Variable.bindFilling_scalar (s : Settings) {v : Variable} (hlike : v.options.like = none)
    {value : Value} (h : value.isScalar = true) :
    v.bindFilling s ⟨value, value.type?.getD .object⟩ =
      .ok ⟨v.placeholder, [value.bind], true, true⟩ := by
  have hwhole : v.bindWhole s ⟨value, value.type?.getD .object⟩ =
      .ok ⟨v.placeholder, [value.bind], true, true⟩ := by
    simp [bindWhole, searchValue, escapeClause, hlike, bind, Except.bind, pure, Except.pure,
      Value.bind]
  cases value with
  | null | list | map | bean => cases h
  | _ => exact hwhole

theorem Scope.resolve_element (params : Params) (loops : Loops) {turn : Iteration}
    (htype : turn.type = turn.element.type?.getD .object) :
    resolve ⟨params, turn :: loops⟩ ⟨turn.name, []⟩ =
      .ok ⟨turn.element, turn.element.type?.getD .object⟩ := by
  have horigin : origin? ⟨params, turn :: loops⟩ turn.name = some (.loop turn) := by
    simp [origin?, Loops.find?]
  rw [resolve_of_origin (p := ⟨turn.name, []⟩) horigin]
  have hnull : nullType ⟨params, turn :: loops⟩ (.loop turn) ⟨turn.name, []⟩ = turn.type := rfl
  rw [hnull, htype, walk]
  cases h : turn.element.type? <;> simp [start, Except.map, pure, Except.pure, h]

theorem renderAll_listTurn (s : Settings) (params : Params) (loops : Loops) (sep : String)
    {v : Variable} {turn : Iteration} (hpath : v.path = ⟨turn.name, []⟩)
    (hlike : v.options.like = none) (htype : turn.type = turn.element.type?.getD .object)
    (h : turn.element.isScalar = true) :
    renderAll s params (turn :: loops) [.next sep, .bind v] {} = .ok (listTurn sep v turn) := by
  have hr : Scope.resolveVariable ⟨params, turn :: loops⟩ v =
      .ok ⟨turn.element, turn.element.type?.getD .object⟩ := by
    rw [Scope.resolveVariable, hpath, Scope.resolve_element params loops htype]
    rfl
  have hbind : ∀ d, renderAll s params (turn :: loops) [.bind v] d =
      .ok ((d.append v.placeholder [turn.element.bind]).beginIf true, true) := by
    intro d
    rw [renderAll_singleton, Node.render_bind hr, v.bindFilling_scalar s hlike h]
    simp [Except.map, Draft.fill, Draft.append, Draft.beginIf]
  have hnext : (Node.next sep).render s params (turn :: loops) {} =
      .ok ({ sql := if turn.isFirst then "" else sep }, false) := by
    have hturn : (!turn.isFirst) = decide (turn.index ≠ 0) := decide_not.symm
    rw [Node.render, Step.inTurn_cons hturn, ite_not]
    by_cases hfirst : turn.index = 0
    · simp [Iteration.isFirst, hfirst, Step.nothing]
    · simp [Iteration.isFirst, hfirst, Step.appendSql, Draft.appendSql]
  rw [renderAll, hnext]
  simp only [bind, Except.bind, hbind]
  rfl

theorem join_replicate (sep p : String) (n : Nat) :
    p ++ String.join (List.replicate n (sep ++ p)) =
      sep.intercalate (List.replicate (n + 1) p) := by
  induction n with
  | zero => simp
  | succ n ih =>
    rw [List.replicate_succ, String.join_cons, List.replicate_succ, List.replicate_succ,
      String.intercalate_cons_cons, ← List.replicate_succ, ← ih]
    simp [String.append_assoc]

theorem join_listTurns (sep : String) (v : Variable) (name : String) (items : List Value) :
    String.join ((turns name items).map fun turn => (listTurn sep v turn).1.sql) =
      sep.intercalate (List.replicate items.length v.placeholder) := by
  cases items with
  | nil => rfl
  | cons item items =>
    have hrest : ((items.mapIdx fun i item =>
          (⟨name, item, item.type?.getD .object, i + 1, items.length + 1⟩ : Iteration)).map
        fun turn => (listTurn sep v turn).1.sql) =
        List.replicate items.length (sep ++ v.placeholder) := by
      apply List.eq_replicate_iff.mpr
      refine ⟨by simp, ?_⟩
      intro sql hsql
      obtain ⟨turn, hturn, rfl⟩ := List.mem_map.mp hsql
      obtain ⟨i, -, rfl⟩ := List.mem_mapIdx.mp hturn
      rfl
    rw [turns, List.mapIdx_cons, List.map_cons, List.length_cons, hrest, String.join_cons,
      ← join_replicate]
    simp [listTurn, Iteration.isFirst]

theorem map_element_turns (name : String) (items : List Value) :
    (turns name items).map Iteration.element = items := by
  apply List.ext_getElem
  · simp [turns]
  · intro i _ _
    simp [turns]

theorem binds_listTurns (sep : String) (v : Variable) (name : String) (items : List Value) :
    ((turns name items).map (listTurn sep v)).flatMap (fun o => o.1.binds) =
      items.map Value.bind := by
  have hone : (turns name items).flatMap (fun turn => (listTurn sep v turn).1.binds) =
      (turns name items).map (Value.bind ∘ Iteration.element) := List.map_eq_flatMap.symm
  rw [List.flatMap_map, hone, ← List.map_map, map_element_turns]

theorem any_listTurns {p : Draft × Bool → Bool} {sep : String} {v : Variable}
    (hp : ∀ turn, p (listTurn sep v turn) = true) (name : String) (items : List Value) :
    ((turns name items).map (listTurn sep v)).any p = !items.isEmpty := by
  cases items with
  | nil => rfl
  | cons item items => simp [turns, List.mapIdx_cons, hp]

theorem writeAll_listTurns (sep : String) (v : Variable) (name : String) (items : List Value)
    (d : Draft) :
    d.writeAll ((turns name items).map (listTurn sep v)) =
      { d with
        sql := d.sql ++ sep.intercalate (List.replicate items.length v.placeholder)
        binds := d.binds ++ items.map Value.bind
        begun := d.begun || !items.isEmpty } := by
  rw [Draft.writeAll, binds_listTurns, any_listTurns fun _ => rfl, List.map_map,
    ← join_listTurns sep v name items]
  rfl

theorem mapM_listTurns (s : Settings) (params : Params) (loops : Loops) (sep : String)
    {v : Variable} {name : String} (hpath : v.path = ⟨name, []⟩) (hlike : v.options.like = none)
    {items : List Value} (hscalar : ∀ item ∈ items, item.isScalar = true) :
    (turns name items).mapM
        (fun turn => renderAll s params (turn :: loops) [.next sep, .bind v] {}) =
      .ok ((turns name items).map (listTurn sep v)) := by
  refine (mapM_eq_ok_iff (p := fun _ => True) ?_).mpr ⟨fun _ _ => trivial, rfl⟩
  intro turn hturn output
  obtain ⟨hname, helement, htype⟩ := mem_turns hturn
  rw [← hname] at hpath
  rw [renderAll_listTurn s params loops sep hpath hlike htype (hscalar _ helement)]
  simp [eq_comm]

theorem Node.render_loop {s : Settings} {params : Params} {loops : Loops} {collection : Path}
    {items : List Value} (hitems : Scope.collection ⟨params, loops⟩ collection = .ok items)
    {d : Draft} (hd : d.inOptional = false) (name : String) (children : List Node) :
    (Node.loop name collection children).render s params loops d =
      ((turns name items).mapM fun turn => renderAll s params (turn :: loops) children {}).map
        fun outputs => (d.writeAll outputs, outputs.any Prod.snd) := by
  have hsequence := Step.sequence_eq_mapM
    (fun turn => renderAll_framed s params (turn :: loops) children) (turns name items) hd
  simp only [Node.render, Step.settled, hitems, Bind.bind, Except.bind, hsequence]
  cases hturns :
      (turns name items).mapM fun turn => renderAll s params (turn :: loops) children {} with
  | error e => rfl
  | ok outputs =>
    -- A turn that keeps the optional part around the loop has begun it already.
    have hbegun : ∀ o ∈ outputs, o.2 = true → o.1.begun = true := by
      rintro ⟨e, keeps⟩ ho rfl
      obtain ⟨turn, -, hturn⟩ := exists_of_mem_mapM hturns _ ho
      exact renderAll_begins s params (turn :: loops) children {} e hturn
    simp only [Except.map, pure, Except.pure, Draft.beginIf_writeAll hbegun]

/-- Outside of optional parts a loop over a list writes what its turns write apart, in the order of
the list, or fails as the first turn does that fails. In turn `i` of `n` the content counts as it
stands in that turn: what is marked for the first turn, for the last one or for all but the first
is there or not. So the elements of a list of scalars are bound one by one with the text between
their placeholders. -/
theorem Node.render_loop_turns {s : Settings} {params : Params} {loops : Loops} {collection : Path}
    {items : List Value} (hitems : Scope.collection ⟨params, loops⟩ collection = .ok items)
    {d : Draft} (hd : d.inOptional = false) (name : String) :
    (∀ children, (Node.loop name collection children).render s params loops d =
      ((turns name items).mapM fun turn => renderAll s params (turn :: loops) children {}).map
        fun outputs => (d.writeAll outputs, outputs.any Prod.snd)) ∧
    (∀ turn children, renderAll s params (turn :: loops) children =
      renderAll s params (turn :: loops) (nodesAtTurn turn.index turn.size children)) ∧
    ∀ sep (v : Variable), v.path = ⟨name, []⟩ → v.options.like = none →
      (∀ item ∈ items, item.isScalar = true) →
      (Node.loop name collection [.next sep, .bind v]).render s params loops d =
        .ok ({ d with
          sql := d.sql ++ sep.intercalate (List.replicate items.length v.placeholder)
          binds := d.binds ++ items.map Value.bind
          begun := d.begun || !items.isEmpty }, !items.isEmpty) := by
  refine ⟨Node.render_loop hitems hd name,
    fun turn children => (renderAll_atTurn s params loops turn children).symm, ?_⟩
  intro sep v hpath hlike hscalar
  rw [Node.render_loop hitems hd, mapM_listTurns s params loops sep hpath hlike hscalar,
    Except.map, writeAll_listTurns, any_listTurns fun _ => rfl]

def idsParams (ids : List Value) : Params := ⟨"pmb", .map [("ids", .list ids)], fun _ => none⟩

def idVariable : Variable := ⟨⟨"id", []⟩, "1", false, {}⟩

theorem Node.render_loop_turns_ids :
    Scope.collection ⟨idsParams [.integer 7, .string "x"], []⟩ ⟨"pmb", [.property "ids"]⟩ =
        .ok [.integer 7, .string "x"] ∧
      (Node.loop "id" ⟨"pmb", [.property "ids"]⟩ [.next ", ", .bind idVariable]).render {}
          (idsParams [.integer 7, .string "x"]) [] {} =
        .ok (⟨"?, ?", [⟨.integer 7, .integer⟩, ⟨.string "x", .string⟩], false, true⟩, true) := by
  have hitems : Scope.collection ⟨idsParams [.integer 7, .string "x"], []⟩
      ⟨"pmb", [.property "ids"]⟩ = .ok [.integer 7, .string "x"] := rfl
  have hscalar : ∀ item ∈ [Value.integer 7, .string "x"], item.isScalar = true := by decide
  obtain ⟨-, -, hjoin⟩ := Node.render_loop_turns (s := {}) hitems (d := {}) rfl "id"
  exact ⟨hitems, hjoin ", " idVariable rfl rfl hscalar⟩

example : (Node.loop "id" ⟨"pmb", [.property "ids"]⟩
      [.first [.text "("], .next ", ", .bind idVariable, .last [.text ")"]]).render {}
        (idsParams [.integer 7]) [] {} =
      .ok (⟨"(?)", [⟨.integer 7, .integer⟩], false, true⟩, true) := rfl

end SqlTemplate
