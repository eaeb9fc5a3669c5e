import SqlTemplate.Json.Writer
import SqlTemplate.Proofs.JsonGrammar

namespace SqlTemplate.Json

theorem hexDigits_eq : ∀ n < 0xA0,
    hexDigits n = ['0', '0', Nat.digitChar (n / 16), Nat.digitChar (n % 16)] := by
  decide +kernel

theorem hexValue?_digitChar : ∀ n < 16, hexValue? (Nat.digitChar n) = some n := by
  decide

theorem hex4?_digitChar {n : Nat} (h : n < 0xA0) :
    hex4? '0' '0' (Nat.digitChar (n / 16)) (Nat.digitChar (n % 16)) = some n := by
  have hzero : hexValue? '0' = some 0 := hexValue?_digitChar 0 (by decide)
  rw [hex4?, hzero, hexValue?_digitChar _ (by omega), hexValue?_digitChar _ (by omega)]
  simp
  omega

theorem spellsChar_escapeChar (c : Char) : SpellsChar (escapeChar c) c := by
  rw [escapeChar]
  split
  · next h =>
    simp only [Bool.or_eq_true, decide_eq_true_eq] at h
    rcases h with rfl | rfl <;> exact .short (by decide)
  split
  · next h =>
    rw [h]
    exact .short (by decide)
  split
  · next h =>
    rw [h]
    exact .short (by decide)
  split
  · next h =>
    rw [h]
    exact .short (by decide)
  split
  · next h =>
    have hc : c.toNat < 0xA0 := by
      simp only [isControl, Bool.or_eq_true, Bool.and_eq_true, decide_eq_true_eq] at h
      omega
    have hspells := SpellsChar.unicode (hex4?_digitChar hc) (.inl (by omega))
    rwa [Char.ofNat_toNat, ← hexDigits_eq _ hc] at hspells
  · next hquote _ _ _ hcontrol =>
    simp only [Bool.or_eq_true, decide_eq_true_eq, not_or] at hquote
    simp only [isControl, Bool.or_eq_true, not_or, decide_eq_true_eq] at hcontrol
    exact .plain (Nat.not_lt.mp hcontrol.1) hquote.1 hquote.2

theorem spellsString_writeString (s : String) : SpellsString (writeString s) s := by
  refine ⟨s.toList.map escapeChar, ?_, ?_⟩
  · rw [List.forall₂_map_left_iff]
    exact List.forall₂_same.mpr fun c _ => spellsChar_escapeChar c
  · rw [writeString, List.flatMap_def]

mutual

def Printable : Json → Prop
  | number text => SpellsNumber text.toList
  | array items => PrintableItems items
  | object members => PrintableMembers members
  | meaningless => False
  | _ => True

def PrintableItems : List Json → Prop
  | [] => True
  | j :: js => j.Printable ∧ PrintableItems js

def PrintableMembers : List (String × Json) → Prop
  | [] => True
  | m :: ms => m.2.Printable ∧ PrintableMembers ms

end

theorem isBlank_nil : IsBlank [] := List.forall_mem_nil _

theorem isBlank_indentation (level : Nat) : IsBlank ('\n' :: indentation level) := by
  refine List.forall_mem_cons.mpr ⟨by decide, ?_⟩
  intro c hc
  rw [List.eq_of_mem_replicate hc]
  decide

theorem IsBlank.append {before after : List Char} (h : IsBlank before) (h' : IsBlank after) :
    IsBlank (before ++ after) := List.forall_mem_append.mpr ⟨h, h'⟩

theorem Spells.toElement {text : List Char} {j : Json} (h : Spells text (.value j)) :
    Spells text (.element j) := by
  have helement := Spells.element isBlank_nil h isBlank_nil
  rwa [List.nil_append, List.append_nil] at helement

section Blanks
variable {blank text : List Char} {part : Part} (hblank : IsBlank blank) (h : Spells text part)
  (hpart : ∀ j, part ≠ .value j)
include hblank h hpart

theorem Spells.append_blank : Spells (text ++ blank) part := by
  induction h with
  | null | true | false | number | string | emptyArray | array | emptyObject | object =>
    exact absurd rfl (hpart _)
  | element hbefore h hafter _ =>
    rw [List.append_assoc, List.append_assoc]
    exact .element hbefore h (hafter.append hblank)
  | lastElement _ ih => exact .lastElement (ih nofun)
  | moreElements h _ _ ih =>
    rw [List.append_assoc, List.cons_append]
    exact .moreElements h (ih nofun)
  | member hname _ ih =>
    rw [List.append_assoc]
    exact .member hname (ih nofun)
  | lastMember _ ih => exact .lastMember (ih nofun)
  | moreMembers h _ _ ih =>
    rw [List.append_assoc, List.cons_append]
    exact .moreMembers h (ih nofun)

theorem Spells.blank_append : Spells (blank ++ text) part := by
  induction h with
  | null | true | false | number | string | emptyArray | array | emptyObject | object =>
    exact absurd rfl (hpart _)
  | element hbefore h hafter _ =>
    rw [← List.append_assoc]
    exact .element (hblank.append hbefore) h hafter
  | lastElement _ ih => exact .lastElement (ih nofun)
  | moreElements _ hs ih _ =>
    rw [← List.append_assoc]
    exact .moreElements (ih nofun) hs
  | member hname h _ =>
    obtain ⟨before, spelling, after, hbefore, hs, hafter, rfl⟩ := hname
    rw [← List.append_assoc]
    exact .member ⟨_, spelling, after, hblank.append hbefore, hs, hafter, by simp⟩ h
  | lastMember _ ih => exact .lastMember (ih nofun)
  | moreMembers _ hs ih _ =>
    rw [← List.append_assoc]
    exact .moreMembers (ih nofun) hs

end Blanks

section Series
variable {α : Type} {one : α → Part} {all : List α → Part}
  (last : ∀ {text a}, Spells text (one a) → Spells text (all [a]))
  (more : ∀ {text rest a as}, Spells text (one a) → Spells rest (all as) →
    Spells (text ++ ',' :: rest) (all (a :: as)))
  {text : List Char} {texts : List (List Char)} {a : α} {as : List α} (ha : Spells text (one a))
  (h : List.Forall₂ (fun text a => Spells text (one a)) texts as)
include last more ha h

theorem spells_series : Spells ([','].intercalate (text :: texts)) (all (a :: as)) := by
  induction h generalizing text a with
  | nil =>
    rw [List.intercalate_singleton]
    exact last ha
  | cons hb _ ih =>
    rw [List.intercalate_cons_cons, List.append_assoc]
    exact more ha (ih hb)

theorem spells_lines (hone : ∀ a j, one a ≠ .value j) (hall : ∀ as j, all as ≠ .value j)
    (level : Nat) : Spells ([','].intercalate ((text :: texts).map fun text =>
      '\n' :: (indentation (level + 1) ++ text)) ++ '\n' :: indentation level)
        (all (a :: as)) := by
  have hline {text : List Char} {a : α} (ha : Spells text (one a)) :
      Spells ('\n' :: (indentation (level + 1) ++ text)) (one a) :=
    ha.blank_append (isBlank_indentation (level + 1)) (hone a)
  have hlines : List.Forall₂ (fun text a => Spells text (one a))
      (texts.map fun text => '\n' :: (indentation (level + 1) ++ text)) as :=
    List.forall₂_map_left_iff.mpr (h.imp fun _ _ => hline)
  exact (spells_series last more (hline ha) hlines).append_blank (isBlank_indentation level)
    (hall _)

end Series

section Compact

theorem spells_enclose_array {texts : List (List Char)} {js : List Json}
    (h : List.Forall₂ (fun text j => Spells text (.element j)) texts js) :
    Spells (enclose '[' ']' texts) (.value (array js)) := by
  cases h with
  | nil => exact .emptyArray isBlank_nil
  | cons hj hjs => exact .array (spells_series .lastElement .moreElements hj hjs)

theorem spells_enclose_object {texts : List (List Char)} {ms : List (String × Json)}
    (h : List.Forall₂ (fun text m => Spells text (.member m)) texts ms) :
    Spells (enclose '\x7b' '\x7d' texts) (.value (object ms)) := by
  cases h with
  | nil => exact .emptyObject isBlank_nil
  | cons hm hms => exact .object (spells_series .lastMember .moreMembers hm hms)

theorem spellsName_colon (name : String) : SpellsName (writeString name ++ [':']) name :=
  ⟨[], writeString name, [], isBlank_nil, spellsString_writeString name, isBlank_nil, rfl⟩

mutual

theorem spells_compact : (j : Json) → j.Printable → Spells j.compact (.value j)
  | null, _ => by
    rw [compact]
    exact .null
  | bool true, _ => by
    rw [compact]
    exact .true
  | bool false, _ => by
    rw [compact]
    exact .false
  | number text, h => by
    rw [compact]
    rw [Printable] at h
    exact .number h
  | string s, _ => by
    rw [compact]
    exact .string (spellsString_writeString s)
  | array js, h => by
    rw [compact]
    rw [Printable] at h
    exact spells_enclose_array (spells_compactItems js h)
  | object ms, h => by
    rw [compact]
    rw [Printable] at h
    exact spells_enclose_object (spells_compactMembers ms h)

theorem spells_compactItems : (js : List Json) → PrintableItems js →
    List.Forall₂ (fun text j => Spells text (.element j)) (compactItems js) js
  | [], _ => by
    rw [compactItems]
    exact .nil
  | j :: js, h => by
    rw [compactItems]
    rw [PrintableItems] at h
    exact .cons (spells_compact j h.1).toElement (spells_compactItems js h.2)

theorem spells_compactMembers : (ms : List (String × Json)) → PrintableMembers ms →
    List.Forall₂ (fun text m => Spells text (.member m)) (compactMembers ms) ms
  | [], _ => by
    rw [compactMembers]
    exact .nil
  | (name, j) :: ms, h => by
    rw [compactMembers]
    rw [PrintableMembers] at h
    refine .cons ?_ (spells_compactMembers ms h.2)
    rw [← List.singleton_append, ← List.append_assoc]
    exact .member (spellsName_colon name) (spells_compact j h.1).toElement

end

end Compact

section Pretty

theorem spells_encloseLines_array {texts : List (List Char)} {js : List Json}
    (h : List.Forall₂ (fun text j => Spells text (.element j)) texts js) (level : Nat) :
    Spells (encloseLines level '[' ']' texts) (.value (array js)) := by
  cases h with
  | nil => exact .emptyArray isBlank_nil
  | cons hj hjs =>
    have hlines := spells_lines .lastElement .moreElements hj hjs nofun nofun level
    have harray := Spells.array hlines
    rwa [List.append_assoc, List.cons_append] at harray

theorem spells_encloseLines_object {texts : List (List Char)} {ms : List (String × Json)}
    (h : List.Forall₂ (fun text m => Spells text (.member m)) texts ms) (level : Nat) :
    Spells (encloseLines level '\x7b' '\x7d' texts) (.value (object ms)) := by
  cases h with
  | nil => exact .emptyObject isBlank_nil
  | cons hm hms =>
    have hlines := spells_lines .lastMember .moreMembers hm hms nofun nofun level
    have hobject := Spells.object hlines
    rwa [List.append_assoc, List.cons_append] at hobject

mutual

theorem spells_pretty : (j : Json) → j.Printable → ∀ level, Spells (j.pretty level) (.value j)
  | null, h | bool _, h | number _, h | string _, h => fun level => by
    rw [pretty]
    · exact spells_compact _ h
    · exact nofun
    · exact nofun
  | array js, h => fun level => by
    rw [pretty]
    rw [Printable] at h
    exact spells_encloseLines_array (spells_prettyItems js h (level + 1)) level
  | object ms, h => fun level => by
    rw [pretty]
    rw [Printable] at h
    exact spells_encloseLines_object (spells_prettyMembers ms h (level + 1)) level

theorem spells_prettyItems : (js : List Json) → PrintableItems js → ∀ level,
    List.Forall₂ (fun text j => Spells text (.element j)) (prettyItems level js) js
  | [], _ => fun level => by
    rw [prettyItems]
    exact .nil
  | j :: js, h => fun level => by
    rw [prettyItems]
    rw [PrintableItems] at h
    exact .cons (spells_pretty j h.1 level).toElement (spells_prettyItems js h.2 level)

theorem spells_prettyMembers : (ms : List (String × Json)) → PrintableMembers ms → ∀ level,
    List.Forall₂ (fun text m => Spells text (.member m)) (prettyMembers level ms) ms
  | [], _ => fun level => by
    rw [prettyMembers]
    exact .nil
  | (name, j) :: ms, h => fun level => by
    rw [prettyMembers]
    rw [PrintableMembers] at h
    refine .cons ?_ (spells_prettyMembers ms h.2 level)
    have hvalue := (spells_pretty j h.1 level).toElement
    have hblank : IsBlank [' '] := List.forall_mem_singleton.mpr (by decide)
    rw [← List.singleton_append, ← List.append_assoc]
    exact .member (spellsName_colon name) (hvalue.blank_append hblank nofun)

end

end Pretty

end SqlTemplate.Json
