import Mathlib.Data.List.Chain
import SqlTemplate.Proofs.TemplateTexts
import SqlTemplate.Proofs.Piece

namespace SqlTemplate

structure Variable.Proper (v : Variable) : Prop where
  grouped : v.grouped = true ↔ v.testValue.toList.head? = some '('
  placeholderCount : Sql.placeholderCount v.testValue.toList = 0

def Test.Proper (t : Test) : Prop := Condition.parse t.source = .ok t.expr

def Node.isText (n : Node) : Bool := n.text?.isSome

mutual

def Node.Proper (inLoop : Bool) : Node → Prop
  | .text sql => sql ≠ ""
  | .bind v => v.Proper
  | .embed v => v.Proper ∧ v.options.like = none
  | .ifElse t children none => t.Proper ∧ ProperAll inLoop children
  | .ifElse t children (some otherwise) =>
    t.Proper ∧ ProperAll inLoop children ∧ ProperAll inLoop otherwise
  | .optional children => ProperAll inLoop children
  | .loop _ _ children => ProperAll true children
  | .first children | .last children => inLoop = true ∧ ProperAll inLoop children
  | .next _ => inLoop = true
  | .root _ => False

def ProperAll (inLoop : Bool) : List Node → Prop
  | [] => True
  | n :: ns => n.Proper inLoop ∧ (n.isText = true → ∀ m ∈ ns.head?, m.isText = false) ∧
    ProperAll inLoop ns

end

namespace Marker

def Proper : Marker → Prop
  | directive (.opens (.test t)) => t.Proper
  | slot embedded _ options => embedded = true → options.like = none
  | _ => True

theorem proper_parseTest {argument : List Char} {d : Directive}
    (h : parseTest argument = .ok d) : (directive d).Proper := by
  rw [parseTest] at h
  split at h
  · next hparse =>
    cases h
    exact hparse
  · cases h

theorem proper_parseLoop {argument : List Char} {d : Directive}
    (h : parseLoop argument = .ok d) : (directive d).Proper := by
  rw [parseLoop] at h
  split at h
  split at h
  · cases h
  split at h
  · cases h
    trivial
  · cases h

theorem proper_parseVariable {embedded : Bool} {text : List Char} {m : Marker}
    (h : parseVariable embedded text = .ok m) : m.Proper := by
  rw [parseVariable] at h
  split at h
  split at h
  · cases h
  split at h
  · cases h
  split at h
  · cases h
  · next hlike =>
    cases h
    intro he
    simpa [he] using hlike

theorem proper_keyword {text : String} {d : Directive} (h : keyword? text = some d) :
    (directive d).Proper := by
  have hmem := mem_of_lookup h
  simp only [List.mem_cons, Prod.mk.injEq, List.not_mem_nil, or_false] at hmem
  rcases hmem with ⟨-, rfl⟩ | ⟨-, rfl⟩ | ⟨-, rfl⟩ | ⟨-, rfl⟩ | ⟨-, rfl⟩ <;> trivial

theorem proper_parse {body : List Char} {m : Marker} (h : parse body = .ok m) : m.Proper := by
  rw [parse.eq_def] at h
  dsimp only at h
  cases hk : keyword? (String.ofList body) with
  | some d =>
    rw [hk] at h
    cases h
    exact proper_keyword hk
  | none =>
    rw [hk] at h
    dsimp only at h
    split at h
    · cases h
    split at h
    · obtain ⟨d, hd, rfl⟩ := TestValue.exists_of_map_eq_ok h
      exact proper_parseTest hd
    · obtain ⟨d, hd, rfl⟩ := TestValue.exists_of_map_eq_ok h
      exact proper_parseLoop hd
    · cases h
      trivial
    · split at h
      · exact proper_parseVariable h
      · exact proper_parseVariable h

end Marker

namespace Lexeme

def isSql : Lexeme → Bool
  | sql _ => true
  | _ => false

def Proper : Lexeme → Prop
  | sql text => text ≠ []
  | lineElse _ => True
  | directive _ d => (Marker.directive d).Proper
  | slot _ embedded v => v.Proper ∧ (embedded = true → v.options.like = none)

end Lexeme

namespace Lexemes

structure Proper (ls : List (Placed Lexeme)) : Prop where
  each : ∀ l ∈ ls, l.item.Proper
  apart : ls.IsChain fun l m => l.item.isSql = true → m.item.isSql = false

namespace Proper

theorem nil : Proper [] := ⟨by simp, .nil⟩

theorem push {l : Lexeme} {ls : Lexemes} (hl : l.Proper) (hsql : l.isSql = false)
    (h : Proper ls.1) (here : List Char) : Proper (push here l ls).1 := by
  refine ⟨List.forall_mem_cons.mpr ⟨hl, h.each⟩, List.isChain_cons.mpr ⟨?_, h.apart⟩⟩
  intro m _ hl
  rw [hsql] at hl
  cases hl

theorem pushSql {ls : Lexemes} (h : Proper ls.1)
    (hfirst : ∀ l ∈ ls.1.head?, l.item.isSql = false) (here text : List Char) :
    Proper (pushSql here text ls).1 := by
  rw [Lexemes.pushSql]
  split
  · exact h
  · next hne =>
    have htext : text ≠ [] := fun he => hne (List.isEmpty_iff.mpr he)
    exact ⟨List.forall_mem_cons.mpr ⟨htext, h.each⟩,
      List.isChain_cons.mpr ⟨fun m hm _ => hfirst m hm, h.apart⟩⟩

theorem of_infix {ls part : List (Placed Lexeme)} (h : Proper ls) (hp : part <:+: ls) :
    Proper part :=
  ⟨fun l hl => h.each l (hp.subset hl), h.apart.infix hp⟩

theorem tail {l : Placed Lexeme} {ls : List (Placed Lexeme)} (h : Proper (l :: ls)) : Proper ls :=
  h.of_infix (List.suffix_cons l ls).isInfix

theorem front {as bs : List (Placed Lexeme)} (h : Proper (as ++ bs)) : Proper as :=
  h.of_infix (List.prefix_append as bs).isInfix

theorem behind {as bs : List (Placed Lexeme)} (h : Proper (as ++ bs)) : Proper bs :=
  h.of_infix (List.suffix_append as bs).isInfix

end Proper

theorem scan_proper (blank : Bool) (cs : List Char) : Proper (scan blank cs).1 := by
  fun_induction scan blank cs with
  | case1 => exact .nil
  | case2 => exact .pushSql .nil (by simp) _ _
  | case3 => exact .nil
  | case4 blank cs _ sql here comment rest _ ih =>
    have hrest := ih.push (l := .lineElse comment) trivial rfl
    exact .pushSql (hrest _) (by simp [push, Lexeme.isSql]) _ _
  | case5 blank cs _ sql here body rest _ ihd ihs =>
    -- SQL may be followed by a fault, and then it is the last lexeme.
    split
    · exact .pushSql .nil (by simp [fail]) _ _
    · next d hm =>
      have hd : (Lexeme.directive body d).Proper := Marker.proper_parse hm
      exact .pushSql (.push hd rfl ihd _) (by simp [push, Lexeme.isSql]) _ _
    · next embedded path options hm =>
      split
      · exact .pushSql .nil (by simp [fail]) _ _
      · next value behind hr =>
        obtain ⟨-, hplain⟩ := TestValue.read_eq_ok hr
        let v : Variable := ⟨path, String.ofList value, TestValue.isGroup value, options⟩
        have hv : (Lexeme.slot body embedded v).Proper := by
          refine ⟨⟨?_, ?_⟩, Marker.proper_parse hm⟩
          · simp [v, TestValue.isGroup]
          · simpa [v, Sql.hasPlaceholder] using hplain
        exact .pushSql (.push hv rfl (ihs _ _ hr) _) (by simp [push, Lexeme.isSql]) _ _

end Lexemes

theorem Block.isText_node (b : Block) (ns : List Node) : (b.node ns).isText = false := by
  cases b <;> rfl

namespace Blocks

variable {inLoop : Bool} {ls : List (Placed Lexeme)} {ns : List Node}

theorem isSql_head (h : Blocks inLoop ls ns) {n : Node} (hn : n ∈ ns.head?)
    (ht : n.isText = true) : ∃ l ∈ ls.head?, l.item.isSql = true := by
  cases h with
  | nil => cases hn
  | sql => exact ⟨_, rfl, rfl⟩
  | block =>
    cases hn
    rw [Block.isText_node] at ht
    cases ht
  | _ =>
    cases hn
    cases ht

theorem properAll_cons {n : Node} (hn : n.Proper inLoop) (ht : n.isText = false)
    (hns : ProperAll inLoop ns) : ProperAll inLoop (n :: ns) := by
  refine ⟨hn, fun h => ?_, hns⟩
  rw [ht] at h
  cases h

theorem proper (h : Blocks inLoop ls ns) (hp : Lexemes.Proper ls) : ProperAll inLoop ns := by
  induction h with
  | nil => trivial
  | @sql _ here text ls ns rest ih =>
    refine ⟨?_, ?_, ih hp.tail⟩
    · have htext : text ≠ [] := hp.each _ List.mem_cons_self
      simpa [Node.Proper] using htext
    · intro _ m hm
      rw [← Bool.not_eq_true]
      intro ht
      obtain ⟨l, hl, hsql⟩ := rest.isSql_head hm ht
      have hapart := (List.isChain_cons.mp hp.apart).1 l hl rfl
      rw [hapart] at hsql
      cases hsql
  | bind _ ih =>
    have hv := hp.each _ List.mem_cons_self
    exact properAll_cons hv.1 rfl (ih hp.tail)
  | embed _ ih =>
    have hv := hp.each _ List.mem_cons_self
    exact properAll_cons ⟨hv.1, hv.2 rfl⟩ rfl (ih hp.tail)
  | next _ ih => exact properAll_cons rfl rfl (ih hp.tail)
  | @block inLoop here body b content e ls children ns allowed _ _ _ ihi ih =>
    have hchildren := ihi hp.tail.front
    refine properAll_cons ?_ (b.isText_node children) (ih hp.tail.behind.tail)
    cases b with
    | test t => exact ⟨hp.each _ List.mem_cons_self, hchildren⟩
    | first | last => exact ⟨allowed, hchildren⟩
    | optional | loop => exact hchildren
  | ifElse _ _ _ _ _ ihi ihs ih =>
    have ht := hp.each _ List.mem_cons_self
    have hother := hp.tail.behind.tail
    exact properAll_cons ⟨ht, ihi hp.tail.front, ihs hother.front⟩ rfl (ih hother.behind.tail)

end Blocks

theorem Node.parse_proper {text : String} {root : Node} (h : Node.parse text = .ok root) :
    ∃ ns, root = .root ns ∧ ProperAll false ns := by
  obtain ⟨ns, rfl, -, hblocks⟩ := Node.blocks_of_parse h
  have hproper : Lexemes.Proper (Lexemes.ofText text.toList).1 :=
    Lexemes.scan_proper true text.toList
  exact ⟨ns, rfl, hblocks.proper hproper⟩

theorem Node.parse_proper_choice : Node.parse choiceText = .ok choice ∧
    ∃ ns, choice = .root ns ∧ ProperAll false ns :=
  ⟨parse_choiceText, Node.parse_proper parse_choiceText⟩

end SqlTemplate
