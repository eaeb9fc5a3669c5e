import SqlTemplate.Proofs.NamesInScope
import SqlTemplate.Proofs.SortedEntries

namespace SqlTemplate

inductive Value.AgreeBut (name : String) : Value → Value → Prop where
  | map {as bs : List (String × Value)}
    (others : ∀ other ≠ name, Entries.find? other as = Entries.find? other bs) :
    AgreeBut name (.map as) (.map bs)
  | bean {typeName : String} {as bs : List (String × Value)}
    (others : ∀ other ≠ name, Entries.find? other as = Entries.find? other bs) :
    AgreeBut name (.bean typeName as) (.bean typeName bs)

def Path.Avoids (rootName name : String) (p : Path) : Prop :=
  p.head = rootName → ∃ segment rest, p.tail = segment :: rest ∧ segment.text ≠ name

theorem Value.AgreeBut.insert (name : String) (v : Value) (entries : List (String × Value)) :
    (Value.map entries).AgreeBut name (.map (Entries.insert name v entries)) := by
  apply AgreeBut.map
  intro other hne
  rw [Entries.find?_insert, if_neg hne]

theorem Value.AgreeBut.step {name : String} {v w : Value} (h : v.AgreeBut name w)
    {segment : Segment} (hs : segment.text ≠ name) (path : Path) :
    v.step path segment = w.step path segment := by
  cases h with
  | map others => rw [Value.step, Value.step, others _ hs]
  | bean others =>
    cases segment with
    | property key =>
      have hkey := others key hs
      rw [Value.step, Value.step, hkey]
    | index i => rfl

namespace Scope

theorem head_of_origin_root {scope : Scope} {head : String}
    (h : scope.origin? head = some .root) : head = scope.params.rootName := by
  rw [origin?] at h
  split at h
  · cases h
  · split at h
    · assumption
    · split at h
      · cases hloops : scope.loops.head? <;> rw [hloops] at h <;> cases h
      · cases h

def Alike (params others : Params) (p : Path) : Prop :=
  ∀ loops, resolve ⟨params, loops⟩ p = resolve ⟨others, loops⟩ p

theorem alike_of_avoids {params : Params} {name : String} {root : Value}
    (hroot : params.root.AgreeBut name root) {p : Path} (hp : p.Avoids params.rootName name) :
    Alike params { params with root } p := by
  intro loops
  have horigin : origin? ⟨params, loops⟩ p.head = origin? ⟨{ params with root }, loops⟩ p.head :=
    rfl
  rw [resolve, resolve, ← horigin]
  cases ho : origin? ⟨params, loops⟩ p.head with
  | none => rfl
  | some origin =>
    cases origin with
    | loop i => rfl
    | root =>
      obtain ⟨segment, rest, htail, hne⟩ := hp (head_of_origin_root ho)
      have hstep := hroot.step hne p
      simp only [htail, List.foldlM_cons, start, hstep]
      rfl

end Scope

section Alike

variable {params others : Params}

theorem Condition.Expr.eval_congr (e : Expr) (h : ∀ p ∈ e.paths, Scope.Alike params others p)
    (loops : Loops) : e.eval ⟨params, loops⟩ = e.eval ⟨others, loops⟩ := by
  have hlook : ∀ p, Scope.Alike params others p →
      lookUp ⟨params, loops⟩ p = lookUp ⟨others, loops⟩ p := by
    intro p hp
    rw [lookUp, lookUp, hp]
  induction e with
  | path p => exact hlook p (h p (by simp [paths]))
  | call target method => rw [eval, eval, hlook target (h target (by simp [paths]))]
  | not e ih => rw [eval, eval, ih h]
  | and l r ihl ihr | or l r ihl ihr | compare op l r ihl ihr =>
    have hl := ihl fun p hp => h p (List.mem_append_left _ hp)
    have hr := ihr fun p hp => h p (List.mem_append_right _ hp)
    rw [eval, eval, hl, hr]
  | _ => rfl

namespace Scope

theorem resolveVariable_congr {v : Variable} (h : Alike params others v.path) (loops : Loops) :
    resolveVariable ⟨params, loops⟩ v = resolveVariable ⟨others, loops⟩ v := by
  rw [resolveVariable, resolveVariable, h]

theorem collection_congr {p : Path} (h : Alike params others p) (loops : Loops) :
    collection ⟨params, loops⟩ p = collection ⟨others, loops⟩ p := by
  rw [collection, collection, h]

theorem test_congr {t : Test} (h : ∀ p ∈ t.expr.paths, Alike params others p) (loops : Loops) :
    test ⟨params, loops⟩ t = test ⟨others, loops⟩ t := by
  rw [test, test, Condition.Expr.holds, Condition.Expr.holds, t.expr.eval_congr h]

end Scope

end Alike

section Render

variable (s : Settings) {params others : Params}

mutual

theorem Node.render_congr (loops : Loops) {n : Node} {names : List String}
    (h : ∀ m ∈ n.mentions names, Scope.Alike params others m.path) :
    n.render s params loops = n.render s others loops := by
  cases n with
  | text sql => rw [Node.render, Node.render]
  | next sql => rw [Node.render, Node.render]
  | bind v =>
    have hv : Scope.Alike params others v.path := h ⟨names, v.path⟩ (by simp [Node.mentions])
    rw [Node.render, Node.render, Scope.resolveVariable_congr hv]
  | embed v =>
    have hv : Scope.Alike params others v.path := h ⟨names, v.path⟩ (by simp [Node.mentions])
    rw [Node.render, Node.render, Scope.resolveVariable_congr hv]
  | ifElse t children otherwise =>
    have ht : ∀ p ∈ t.expr.paths, Scope.Alike params others p := by
      intro p hp
      apply h ⟨names, p⟩
      cases otherwise <;> simp [Node.mentions, hp]
    have hc : ∀ m ∈ mentionsAll names children, Scope.Alike params others m.path := by
      intro m hm
      apply h m
      cases otherwise <;> simp [Node.mentions, hm]
    cases otherwise with
    | none =>
      rw [Node.render, Node.render, Scope.test_congr ht, renderAll_congr loops hc]
    | some otherwise =>
      have ho : ∀ m ∈ mentionsAll names otherwise, Scope.Alike params others m.path :=
        fun m hm => h m (by simp [Node.mentions, hm])
      rw [Node.render, Node.render, Scope.test_congr ht, renderAll_congr loops hc,
        renderAll_congr loops ho]
  | loop name collection children =>
    rw [Node.mentions, List.forall_mem_cons] at h
    have hcollection := Scope.collection_congr h.1 loops
    have hturn : ∀ turn : Iteration, renderAll s params (turn :: loops) children =
        renderAll s others (turn :: loops) children := fun turn => renderAll_congr _ h.2
    simp only [Node.render, hcollection, hturn]
  | optional children | first children | last children | root children =>
    have hc : ∀ m ∈ mentionsAll names children, Scope.Alike params others m.path := by
      simpa [Node.mentions] using h
    rw [Node.render, Node.render, renderAll_congr loops hc]

theorem renderAll_congr (loops : Loops) {ns : List Node} {names : List String}
    (h : ∀ m ∈ mentionsAll names ns, Scope.Alike params others m.path) :
    renderAll s params loops ns = renderAll s others loops ns := by
  cases ns with
  | nil => rfl
  | cons n ns =>
    rw [mentionsAll, List.forall_mem_append] at h
    funext d
    rw [renderAll, renderAll, Node.render_congr loops h.1, renderAll_congr loops h.2]

end

end Render

/-- An entry of the root that no path goes through, and that no path to the root itself brings
along, does not count: roots that agree in all other entries give the same statement or error. -/
theorem Node.evaluate_unmentioned {root : Node} {params : Params} {name : String} {other : Value}
    (havoids : ∀ m ∈ root.mentions [], m.path.Avoids params.rootName name)
    (hagree : params.root.AgreeBut name other) (s : Settings) :
    root.evaluate s { params with root := other } = root.evaluate s params := by
  have hrender : root.render s params [] = root.render s { params with root := other } [] :=
    Node.render_congr s [] fun m hm => Scope.alike_of_avoids hagree (havoids m hm)
  rw [evaluate, evaluate, hrender]

def rowsTemplate : Node :=
  .root [.loop "pmb" ⟨"pmb", [.property "rows"]⟩
    [.bind ⟨⟨"pmb", [.property "id"]⟩, "", false, {}⟩]]

def rowsEntries : List (String × Value) := [("rows", .list [.map [("id", .integer 1)]])]

theorem Node.evaluate_unmentioned_rows :
    (∀ m ∈ rowsTemplate.mentions [], m.path.Avoids "pmb" "size") ∧
      (Value.map rowsEntries).AgreeBut "size"
        (.map (Entries.insert "size" (.integer 2) rowsEntries)) ∧
      rowsTemplate.evaluate {}
          ⟨"pmb", .map (Entries.insert "size" (.integer 2) rowsEntries), fun _ => none⟩ =
        rowsTemplate.evaluate {} ⟨"pmb", .map rowsEntries, fun _ => none⟩ := by
  have havoids : ∀ m ∈ rowsTemplate.mentions [], m.path.Avoids "pmb" "size" := by
    simp [rowsTemplate, Node.mentions, mentionsAll, Path.Avoids, Segment.text]
  have hagree := Value.AgreeBut.insert "size" (.integer 2) rowsEntries
  let params : Params := ⟨"pmb", .map rowsEntries, fun _ => none⟩
  have heq := @Node.evaluate_unmentioned rowsTemplate params "size" _ havoids hagree {}
  exact ⟨havoids, hagree, heq⟩

end SqlTemplate
