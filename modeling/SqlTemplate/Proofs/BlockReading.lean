import SqlTemplate.Proofs.BlockGrammar

namespace SqlTemplate

namespace Outline

theorem read_opens_outside {b : Block} {frames : List Frame}
    (h : b.allowed (Frame.inLoop frames) = false) (here body : List Char) (ns : List Node) :
    (Outline.mk ns frames).read ⟨here, .directive body (.opens b)⟩ =
      .error (.outsideLoop (String.ofList body)) := by
  have hn : needsLoop b = true ∧ (!(Outline.mk ns frames).inLoop) = true := by
    cases b with
    | first => exact ⟨rfl, (Bool.not_eq_true' _).mpr h⟩
    | last => exact ⟨rfl, (Bool.not_eq_true' _).mpr h⟩
    | _ => cases h
  exact if_pos hn

theorem read_next_outside {frames : List Frame} (h : Frame.inLoop frames = false)
    (here body : List Char) (sql : Option String) (ns : List Node) :
    (Outline.mk ns frames).read ⟨here, .directive body (.next sql)⟩ =
      .error (.outsideLoop (String.ofList body)) := by
  have hi : (Outline.mk ns frames).inLoop = false := h
  simp [Outline.read, Outline.next, hi]

theorem otherwise_eq_error {o : Outline} {l : Placed Lexeme} {f : Fault}
    (hl : l.item.isElse = true) (h : o.otherwise = .error f) : Offends o.frames l f := by
  obtain ⟨ns, frames⟩ := o
  cases frames with
  | nil => cases h; exact .strayElse hl
  | cons frame frames =>
    obtain ⟨opened, d, before⟩ := frame
    cases opened with
    | elsePart t children => cases h; exact .secondElse hl
    | block b =>
      cases b with
      | test t => cases h
      | _ => cases h; exact .elseInBlock hl (by simp)

theorem close_eq_error {o : Outline} {l : Placed Lexeme} {f : Fault}
    (hl : l.item.isEnd = true) (h : o.close = .error f) : Offends o.frames l f := by
  obtain ⟨ns, frames⟩ := o
  cases frames with
  | nil => cases h; exact .strayEnd hl
  | cons frame frames => cases h

theorem read_eq_error_iff {o : Outline} {l : Placed Lexeme} {f : Fault}
    (hl : ∀ body, l.item ≠ .directive body (.next none)) :
    o.read l = .error f ↔ Offends o.frames l f := by
  constructor
  · intro h
    obtain ⟨here, item⟩ := l
    obtain ⟨ns, frames⟩ := o
    cases item with
    | sql text => cases h
    | lineElse comment => exact otherwise_eq_error rfl h
    | slot body embedded v => cases embedded <;> cases h
    | directive body d =>
      cases d with
      | otherwise => exact otherwise_eq_error rfl h
      | closes => exact close_eq_error rfl h
      | opens b =>
        cases hb : b.allowed (Frame.inLoop frames) with
        | true => rw [read_opens hb] at h; cases h
        | false => rw [read_opens_outside hb] at h; cases h; exact .block hb
      | next sql =>
        cases sql with
        | none => exact absurd rfl (hl body)
        | some sql =>
          cases hi : Frame.inLoop frames with
          | true => rw [read_next hi] at h; cases h
          | false => rw [read_next_outside hi] at h; cases h; exact .next hi
  · intro h
    obtain ⟨ns, frames⟩ := o
    cases h with
    | strayEnd hend => exact read_end hend _
    | strayElse helse => exact read_else helse _
    | @elseInBlock _ b _ _ _ helse hb =>
      rw [read_else helse]
      cases b with
      | test t => exact absurd rfl (hb t)
      | _ => rfl
    | secondElse helse => exact read_else helse _
    | block hb => exact read_opens_outside hb _ _ _
    | next hi => exact read_next_outside hi _ _ _ _

end Outline

namespace Partial

theorem opens {ls : List (Placed Lexeme)} {ns : List Node} {frames : List Frame}
    (h : Partial ls ns frames) {b : Block} (hb : b.allowed (Frame.inLoop frames) = true)
    (here body : List Char) :
    Partial (ls ++ [⟨here, .directive body (.opens b)⟩]) []
      (⟨.block b, ⟨here, body⟩, ns⟩ :: frames) := .block h hb .nil

theorem otherwise {ls : List (Placed Lexeme)} {o p : Outline} {l : Placed Lexeme}
    (h : Partial ls o.nodes o.frames) (hl : l.item.isElse = true) (ho : o.otherwise = .ok p) :
    Partial (ls ++ [l]) p.nodes p.frames := by
  obtain ⟨ns, frames⟩ := o
  cases frames with
  | nil => cases ho
  | cons f frames =>
    obtain ⟨opened, d, before⟩ := f
    cases opened with
    | elsePart t children => cases ho
    | block b =>
      cases b with
      | test t => cases ho; exact .elsePart h hl .nil
      | _ => cases ho

theorem close {ls : List (Placed Lexeme)} {o p : Outline} {l : Placed Lexeme}
    (h : Partial ls o.nodes o.frames) (hl : l.item.isEnd = true) (ho : o.close = .ok p) :
    Partial (ls ++ [l]) p.nodes p.frames := by
  obtain ⟨ns, frames⟩ := o
  cases h with
  | top blocks => cases ho
  | @block ls before frames here body b content _ front allowed inner =>
    have hnode : (Opened.block b).close ns = b.node ns := by cases b <;> rfl
    cases ho
    rw [hnode, List.append_assoc, List.cons_append]
    exact front.append (.block allowed inner hl .nil)
  | @elsePart ls children t d before frames e content _ front helse inner =>
    cases ho
    -- The tests of both parts are one block: what is in front of it is in front of the first part.
    cases front with
    | @block ls _ _ here body _ first _ front allowed second =>
      have hb : Blocks (Frame.inLoop frames)
          (⟨here, .directive body (.opens (.test t))⟩ :: (first ++ e :: (content ++ l :: [])))
          [.ifElse t children (some ns)] := .ifElse second helse inner hl .nil
      have hnode : (Opened.elsePart t children).close ns = .ifElse t children (some ns) := rfl
      simpa [hnode] using front.append hb

theorem read {ls : List (Placed Lexeme)} {o p : Outline} {l : Placed Lexeme}
    (h : Partial ls o.nodes o.frames) (hr : o.read l = .ok p) :
    Partial (ls ++ [l]) p.nodes p.frames := by
  obtain ⟨here, item⟩ := l
  obtain ⟨ns, frames⟩ := o
  cases item with
  | sql text => cases hr; exact h.append (.sql .nil)
  | lineElse comment => exact h.otherwise rfl hr
  | slot body embedded v =>
    cases embedded with
    | false => cases hr; exact h.append (.bind .nil)
    | true => cases hr; exact h.append (.embed .nil)
  | directive body d =>
    cases d with
    | otherwise => exact h.otherwise rfl hr
    | closes => exact h.close rfl hr
    | opens b =>
      cases hb : b.allowed (Frame.inLoop frames) with
      | true =>
        rw [Outline.read_opens hb] at hr
        cases hr
        exact h.opens hb here body
      | false => rw [Outline.read_opens_outside hb] at hr; cases hr
    | next sql =>
      cases hi : Frame.inLoop frames with
      | false => rw [Outline.read_next_outside hi] at hr; cases hr
      | true =>
        cases sql with
        | none =>
          have hloop : Outline.inLoop ⟨ns, frames⟩ = true := hi
          simp [Outline.read, Outline.next, hloop] at hr
        | some sql =>
          rw [Outline.read_next hi] at hr
          cases hr
          exact h.append (hi ▸ .next .nil)

theorem blocks {ls : List (Placed Lexeme)} {ns : List Node} (h : Partial ls ns []) :
    Blocks false ls ns := by
  cases h with
  | top blocks => exact blocks

theorem of_run {ls more : List (Placed Lexeme)} {o p : Outline}
    (h : Partial ls o.nodes o.frames) (hr : o.run more = .ok p) :
    Partial (ls ++ more) p.nodes p.frames := by
  -- What has been read so far grows: the derivation it starts is the invariant.
  induction more generalizing ls o with
  | nil => cases hr; simpa using h
  | cons l more ih =>
    cases hl : o.read l with
    | error f => rw [Outline.run_cons_error hl] at hr; cases hr
    | ok q =>
      rw [Outline.run_cons hl] at hr
      have hp := ih (h.read hl) hr
      rwa [List.append_assoc, List.singleton_append] at hp

theorem run_iff {ls : List (Placed Lexeme)} {o : Outline} :
    Outline.empty.run ls = .ok o ↔ Partial ls o.nodes o.frames := by
  constructor
  · have hempty : Partial [] Outline.empty.nodes Outline.empty.frames := .top .nil
    exact hempty.of_run
  · exact Partial.run

end Partial

namespace Outline

theorem run_eq_error_iff {o : Outline} {ls : List (Placed Lexeme)} {e : Placed Fault} :
    o.run ls = .error e ↔ ∃ front l behind p f, ls = front ++ l :: behind ∧
      o.run front = .ok p ∧ p.read l = .error f ∧ e = ⟨l.here, f⟩ := by
  constructor
  · intro h
    induction ls generalizing o with
    | nil => cases h
    | cons l ls ih =>
      cases hl : o.read l with
      | error f =>
        rw [run_cons_error hl] at h
        cases h
        exact ⟨[], l, ls, o, f, rfl, rfl, hl, rfl⟩
      | ok q =>
        rw [run_cons hl] at h
        obtain ⟨front, m, behind, p, f, rfl, hp, hf, he⟩ := ih h
        exact ⟨l :: front, m, behind, p, f, rfl, by rw [run_cons hl]; exact hp, hf, he⟩
  · rintro ⟨front, l, behind, p, f, rfl, hp, hf, rfl⟩
    rw [run_append hp, run_cons_error hf]

theorem run_iff_blocks {ls : List (Placed Lexeme)} {ns : List Node} :
    empty.run ls = .ok ⟨ns, []⟩ ↔ Blocks false ls ns := by
  rw [Partial.run_iff]
  constructor
  · intro h
    exact h.blocks
  · intro h
    exact .top h

theorem bind_finish_eq_ok_iff {r : Except (Placed Fault) Outline} {root : Node} :
    r.bind finish = .ok root ↔ ∃ ns, root = .root ns ∧ r = .ok ⟨ns, []⟩ := by
  constructor
  · intro h
    cases r with
    | error e => cases h
    | ok o =>
      obtain ⟨ns, frames⟩ := o
      cases frames with
      | nil => cases h; exact ⟨ns, rfl, rfl⟩
      | cons f frames => cases h
  · rintro ⟨ns, rfl, rfl⟩
    rfl

end Outline

end SqlTemplate
