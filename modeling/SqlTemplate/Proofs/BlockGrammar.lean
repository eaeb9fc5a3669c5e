import SqlTemplate.Template.Outline

/-!
The grammar of templates. A template has a tree if its lexemes derive from the grammar, the tree is
that of the derivation, and otherwise the first lexeme that no derivation goes on with is to blame,
or the innermost block that stays open.
-/
namespace SqlTemplate

namespace Lexeme

def isEnd : Lexeme → Bool
  | directive _ .closes => true
  | _ => false

def isElse : Lexeme → Bool
  | lineElse _ => true
  | directive _ .otherwise => true
  | _ => false

end Lexeme

namespace Block

def node (ns : List Node) : Block → Node
  | optional => .optional ns
  | test t => .ifElse t ns none
  | loop name collection => .loop name collection ns
  | first => .first ns
  | last => .last ns

def allowed (inLoop : Bool) : Block → Bool
  | first | last => inLoop
  | _ => true

def contentInLoop (inLoop : Bool) : Block → Bool
  | loop _ _ => true
  | _ => inLoop

end Block

inductive Blocks : (inLoop : Bool) → List (Placed Lexeme) → List Node → Prop where
  | nil {inLoop} : Blocks inLoop [] []
  | sql {inLoop here text ls ns} (rest : Blocks inLoop ls ns) :
    Blocks inLoop (⟨here, .sql text⟩ :: ls) (.text (String.ofList text) :: ns)
  | bind {inLoop here body v ls ns} (rest : Blocks inLoop ls ns) :
    Blocks inLoop (⟨here, .slot body false v⟩ :: ls) (.bind v :: ns)
  | embed {inLoop here body v ls ns} (rest : Blocks inLoop ls ns) :
    Blocks inLoop (⟨here, .slot body true v⟩ :: ls) (.embed v :: ns)
  | next {here body sql ls ns} (rest : Blocks true ls ns) :
    Blocks true (⟨here, .directive body (.next (some sql))⟩ :: ls) (.next sql :: ns)
  | block {inLoop here body b content e ls children ns} (allowed : b.allowed inLoop = true)
    (inner : Blocks (b.contentInLoop inLoop) content children) (hend : e.item.isEnd = true)
    (rest : Blocks inLoop ls ns) :
    Blocks inLoop (⟨here, .directive body (.opens b)⟩ :: (content ++ e :: ls))
      (b.node children :: ns)
  | ifElse {inLoop here body t content l other e ls children otherwise ns}
    (inner : Blocks inLoop content children) (helse : l.item.isElse = true)
    (second : Blocks inLoop other otherwise) (hend : e.item.isEnd = true)
    (rest : Blocks inLoop ls ns) :
    Blocks inLoop
      (⟨here, .directive body (.opens (.test t))⟩ :: (content ++ l :: (other ++ e :: ls)))
      (.ifElse t children (some otherwise) :: ns)

def Frame.inLoop (frames : List Frame) : Bool := frames.any fun f => f.opened.isLoop

theorem Frame.inLoop_block (b : Block) (d : Placed (List Char)) (before : List Node)
    (frames : List Frame) :
    inLoop (⟨.block b, d, before⟩ :: frames) = b.contentInLoop (inLoop frames) := by
  cases b <;> rfl

/-- The lexemes are the start of a derivation: `frames` are the blocks that are open behind them,
and `nodes` stand in the innermost one so far. -/
inductive Partial : List (Placed Lexeme) → (nodes : List Node) → (frames : List Frame) → Prop where
  | top {ls ns} (blocks : Blocks false ls ns) : Partial ls ns []
  | block {ls before frames here body b content ns} (front : Partial ls before frames)
    (allowed : b.allowed (Frame.inLoop frames) = true)
    (inner : Blocks (b.contentInLoop (Frame.inLoop frames)) content ns) :
    Partial (ls ++ ⟨here, .directive body (.opens b)⟩ :: content) ns
      (⟨.block b, ⟨here, body⟩, before⟩ :: frames)
  | elsePart {ls children t d before frames l content ns}
    (front : Partial ls children (⟨.block (.test t), d, before⟩ :: frames))
    (helse : l.item.isElse = true) (inner : Blocks (Frame.inLoop frames) content ns) :
    Partial (ls ++ l :: content) ns (⟨.elsePart t children, d, before⟩ :: frames)

/-- No derivation goes on with the lexeme when these blocks are open, for this reason. -/
inductive Offends : List Frame → Placed Lexeme → Fault → Prop where
  | strayEnd {l} (hend : l.item.isEnd = true) : Offends [] l .unexpectedEnd
  | strayElse {l} (helse : l.item.isElse = true) : Offends [] l .misplacedElse
  | elseInBlock {l b d before frames} (helse : l.item.isElse = true)
    (hb : ∀ t, b ≠ .test t) : Offends (⟨.block b, d, before⟩ :: frames) l .misplacedElse
  | secondElse {l t children d before frames} (helse : l.item.isElse = true) :
    Offends (⟨.elsePart t children, d, before⟩ :: frames) l .repeatedElse
  | block {frames here body b} (hb : b.allowed (Frame.inLoop frames) = false) :
    Offends frames ⟨here, .directive body (.opens b)⟩ (.outsideLoop (String.ofList body))
  | next {frames here body sql} (hl : Frame.inLoop frames = false) :
    Offends frames ⟨here, .directive body (.next (some sql))⟩ (.outsideLoop (String.ofList body))

namespace Outline

def run (o : Outline) (ls : List (Placed Lexeme)) : Except (Placed Fault) Outline :=
  ls.foldlM (fun o l => (o.read l).mapError (⟨l.here, ·⟩)) o

theorem run_nil (o : Outline) : o.run [] = .ok o := rfl

theorem run_cons {o p : Outline} {l : Placed Lexeme} (h : o.read l = .ok p)
    (ls : List (Placed Lexeme)) : o.run (l :: ls) = p.run ls := by
  rw [run, List.foldlM_cons, h]
  rfl

theorem run_cons_error {o : Outline} {l : Placed Lexeme} {f : Fault} (h : o.read l = .error f)
    (ls : List (Placed Lexeme)) : o.run (l :: ls) = .error ⟨l.here, f⟩ := by
  rw [run, List.foldlM_cons, h]
  rfl

theorem run_append {o p : Outline} {as : List (Placed Lexeme)} (h : o.run as = .ok p)
    (bs : List (Placed Lexeme)) : o.run (as ++ bs) = p.run bs := by
  rw [run] at h
  rw [run, List.foldlM_append, h]
  rfl

theorem read_end {l : Placed Lexeme} (h : l.item.isEnd = true) (o : Outline) :
    o.read l = o.close := by
  obtain ⟨here, item⟩ := l
  cases item with
  | directive body d => cases d <;> first | rfl | cases h
  | _ => cases h

theorem read_else {l : Placed Lexeme} (h : l.item.isElse = true) (o : Outline) :
    o.read l = o.otherwise := by
  obtain ⟨here, item⟩ := l
  cases item with
  | lineElse comment => rfl
  | directive body d => cases d <;> first | rfl | cases h
  | _ => cases h

theorem read_opens {b : Block} {frames : List Frame}
    (h : b.allowed (Frame.inLoop frames) = true) (here body : List Char) (before : List Node) :
    (Outline.mk before frames).read ⟨here, .directive body (.opens b)⟩ =
      .ok ⟨[], ⟨.block b, ⟨here, body⟩, before⟩ :: frames⟩ := by
  have hn : ¬(needsLoop b = true ∧ (!(Outline.mk before frames).inLoop) = true) := by
    rintro ⟨hb, hl⟩
    have hf : Frame.inLoop frames = false := (Bool.not_eq_true' _).mp hl
    rw [hf] at h
    cases b <;> simp [needsLoop, Block.allowed] at hb h
  exact if_neg hn

theorem read_next {frames : List Frame} (h : Frame.inLoop frames = true) (here body : List Char)
    (sql : String) (before : List Node) :
    (Outline.mk before frames).read ⟨here, .directive body (.next (some sql))⟩ =
      .ok ⟨before ++ [.next sql], frames⟩ := by
  have hi : (Outline.mk before frames).inLoop = true := h
  simp [Outline.read, Outline.next, hi, Outline.add]

end Outline

namespace Blocks

theorem append {loop : Bool} {as bs : List (Placed Lexeme)} {ms ns : List Node}
    (ha : Blocks loop as ms) (hb : Blocks loop bs ns) : Blocks loop (as ++ bs) (ms ++ ns) := by
  induction ha with
  | nil => exact hb
  | sql _ ih => exact .sql (ih hb)
  | bind _ ih => exact .bind (ih hb)
  | embed _ ih => exact .embed (ih hb)
  | next _ ih => exact .next (ih hb)
  | block allowed inner hend _ _ ih =>
    rw [List.cons_append, List.append_assoc, List.cons_append]
    exact .block allowed inner hend (ih hb)
  | ifElse inner helse second hend _ _ _ ih =>
    rw [List.cons_append, List.append_assoc, List.cons_append, List.append_assoc, List.cons_append]
    exact .ifElse inner helse second hend (ih hb)

theorem run {loop : Bool} {ls : List (Placed Lexeme)} {ns : List Node} (h : Blocks loop ls ns)
    (before : List Node) (frames : List Frame) (hl : Frame.inLoop frames = loop) :
    (Outline.mk before frames).run ls = .ok ⟨before ++ ns, frames⟩ := by
  -- The blocks inside are read behind other nodes and in more frames.
  induction h generalizing before frames with
  | nil => simp [Outline.run_nil]
  | @sql _ here text ls ns _ ih =>
    rw [Outline.run_cons (p := ⟨before ++ [.text (String.ofList text)], frames⟩) rfl,
      ih _ _ hl, List.append_assoc, List.singleton_append]
  | @bind _ here body v ls ns _ ih =>
    rw [Outline.run_cons (p := ⟨before ++ [.bind v], frames⟩) rfl, ih _ _ hl,
      List.append_assoc, List.singleton_append]
  | @embed _ here body v ls ns _ ih =>
    rw [Outline.run_cons (p := ⟨before ++ [.embed v], frames⟩) rfl, ih _ _ hl,
      List.append_assoc, List.singleton_append]
  | @next here body sql ls ns _ ih =>
    rw [Outline.run_cons (Outline.read_next hl here body sql before), ih _ _ hl,
      List.append_assoc, List.singleton_append]
  | @block _ here body b content e ls children ns allowed inner hend _ ihi ih =>
    subst hl
    rw [Outline.run_cons (Outline.read_opens allowed here body before)]
    have he : (Outline.mk children (⟨.block b, ⟨here, body⟩, before⟩ :: frames)).read e =
        .ok ⟨before ++ [b.node children], frames⟩ := by
      rw [Outline.read_end hend]
      cases b <;> rfl
    rw [Outline.run_append (ihi [] _ (Frame.inLoop_block _ _ _ _)), List.nil_append,
      Outline.run_cons he, ih _ _ rfl, List.append_assoc, List.singleton_append]
  | @ifElse _ here body t content l other e ls children otherwise ns inner helse second hend _
      ihi ihs ih =>
    subst hl
    let opened : Frame := ⟨.block (.test t), ⟨here, body⟩, before⟩
    let elsePart : Frame := ⟨.elsePart t children, ⟨here, body⟩, before⟩
    have hi : (Outline.mk [] (opened :: frames)).run content = .ok ⟨children, opened :: frames⟩ :=
      ihi [] _ rfl
    have hm : (Outline.mk children (opened :: frames)).read l = .ok ⟨[], elsePart :: frames⟩ :=
      Outline.read_else helse _
    have ho : (Outline.mk [] (elsePart :: frames)).run other =
        .ok ⟨otherwise, elsePart :: frames⟩ := ihs [] _ rfl
    have he : (Outline.mk otherwise (elsePart :: frames)).read e =
        .ok ⟨before ++ [.ifElse t children (some otherwise)], frames⟩ := Outline.read_end hend _
    rw [Outline.run_cons (Outline.read_opens rfl here body before), Outline.run_append hi,
      Outline.run_cons hm, Outline.run_append ho, Outline.run_cons he, ih _ _ rfl,
      List.append_assoc, List.singleton_append]

end Blocks

namespace Partial

theorem append {as bs : List (Placed Lexeme)} {ms ns : List Node} {frames : List Frame}
    (ha : Partial as ms frames) (hb : Blocks (Frame.inLoop frames) bs ns) :
    Partial (as ++ bs) (ms ++ ns) frames := by
  cases ha with
  | top blocks => exact .top (blocks.append hb)
  | @block ls before frames here body b content _ front allowed inner =>
    rw [Frame.inLoop_block] at hb
    rw [List.append_assoc, List.cons_append]
    exact .block front allowed (inner.append hb)
  | elsePart front helse inner =>
    rw [List.append_assoc, List.cons_append]
    exact .elsePart front helse (inner.append hb)

theorem run {ls : List (Placed Lexeme)} {ns : List Node} {frames : List Frame}
    (h : Partial ls ns frames) : Outline.empty.run ls = .ok ⟨ns, frames⟩ := by
  induction h with
  | top blocks => exact blocks.run [] [] rfl
  | @block ls before frames here body b content ns _ allowed inner ih =>
    rw [Outline.run_append ih, Outline.run_cons (Outline.read_opens allowed here body before)]
    exact inner.run [] _ (Frame.inLoop_block _ _ _ _)
  | @elsePart ls children t d before frames l content ns _ helse inner ih =>
    have hm : (Outline.mk children (⟨.block (.test t), d, before⟩ :: frames)).read l =
        .ok ⟨[], ⟨.elsePart t children, d, before⟩ :: frames⟩ := Outline.read_else helse _
    rw [Outline.run_append ih, Outline.run_cons hm]
    exact inner.run [] _ rfl

end Partial
end SqlTemplate
