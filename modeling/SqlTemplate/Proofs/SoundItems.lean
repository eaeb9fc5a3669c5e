import SqlTemplate.Proofs.Output
import SqlTemplate.Proofs.Success
import SqlTemplate.Proofs.TemplateTexts

namespace SqlTemplate

namespace Item

def Sound : Item → Prop
  | sql .template text | sql .generated text => Sql.Closed text
  | sql .embedded text => Sql.Zone.code.placeholders text = 0
  | _ => True

theorem Sound.cut_text {source : Source} {text : List Char} (h : Sound (.sql source text))
    {kept dropped : Nat} (hr : ∀ c ∈ text.take (kept + dropped), Connector.isRemovable c = true) :
    Sound (.sql source (text.take kept ++ text.drop (kept + dropped))) := by
  -- What is cut out stands between what is kept in front and the rest.
  have htext : text = text.take kept ++ (text.drop kept).take dropped ++
      text.drop (kept + dropped) := by
    rw [← List.take_add, List.take_append_drop]
  rw [List.take_add] at hr
  have hf : ∀ c ∈ text.take kept, Sql.Zone.isInert c = true := by
    intro c hc
    exact Sql.Zone.isInert_of_isRemovable (hr c (List.mem_append_left _ hc))
  have hm : ∀ c ∈ (text.drop kept).take dropped, Sql.Zone.isInert c = true := by
    intro c hc
    exact Sql.Zone.isInert_of_isRemovable (hr c (List.mem_append_right _ hc))
  have hafter := Sql.Zone.after_removed hf hm (text.drop (kept + dropped))
  have hcount := Sql.Zone.placeholders_removed hf hm (text.drop (kept + dropped))
  rw [← htext] at hafter hcount
  cases source with
  | next => trivial
  | embedded => exact hcount.symm.trans h
  | _ =>
    obtain ⟨hcode, hzero⟩ := h
    exact ⟨hafter ▸ hcode, hcount ▸ hzero⟩

theorem cut_sound {kept dropped : Nat} {items : List Item} (h : ∀ i ∈ items, i.Sound)
    (hr : ∀ c ∈ (lead items).take (kept + dropped), Connector.isRemovable c = true) :
    ∀ i ∈ cut kept dropped items, i.Sound := by
  fun_induction cut kept dropped items with
  | case1 kept dropped source text items ih =>
    simp only [lead, List.take_append, List.mem_append] at hr
    intro i hi
    rcases List.mem_cons.mp hi with rfl | hi
    · exact (h _ List.mem_cons_self).cut_text fun c hc => hr c (.inl hc)
    · have hlen : kept - text.length + (dropped - (text.length - kept)) =
          kept + dropped - text.length := by omega
      refine ih (fun j hj => h j (List.mem_cons_of_mem _ hj)) ?_ i hi
      rw [hlen]
      exact fun c hc => hr c (.inr hc)
  | case2 => exact h

theorem stripped_sound {s : Settings} (hs : ∀ w ∈ s.connectors, isIdentifier w.toList = true)
    {items : List Item} (h : ∀ i ∈ items, i.Sound) : ∀ i ∈ stripped s items, i.Sound :=
  cut_sound h (Connector.isRemovable_of_mem_take hs (lead items))

end Item

namespace Output

def Sound (o : Output) : Prop := ∀ i ∈ o.items, i.Sound

theorem sound_nothing : nothing.Sound := by
  intro i hi
  cases hi

theorem sound_append {a b : Output} (ha : a.Sound) (hb : b.Sound) : (a.append b).Sound := by
  intro i hi
  rcases List.mem_append.mp hi with hi | hi
  · exact ha i hi
  · exact hb i hi

end Output

namespace Writer

def Sound (w : Writer) : Prop := ∀ strips o, w strips = .ok o → o.Sound

theorem sound_ok {o : Output} (h : o.Sound) : Sound fun _ => .ok o := by
  rintro strips _ ⟨⟩
  exact h

theorem sound_nothing : Sound nothing := sound_ok Output.sound_nothing

theorem sound_andThen {w v : Writer} (hw : w.Sound) (hv : v.Sound) :
    Sound fun strips => do
      let a ← w strips
      let b ← v (strips && !a.begins)
      return a.append b := by
  intro strips o h
  obtain ⟨a, ha, h⟩ := bind_eq_ok.mp h
  obtain ⟨b, hb, h⟩ := bind_eq_ok.mp h
  cases h
  exact Output.sound_append (hw _ a ha) (hv _ b hb)

theorem sound_sequence {ws : List Writer} (h : ∀ w ∈ ws, w.Sound) : Sound (sequence ws) := by
  induction ws with
  | nil => exact sound_nothing
  | cons w ws ih =>
    have hws := ih fun v hv => h v (List.mem_cons_of_mem _ hv)
    exact sound_andThen (h w List.mem_cons_self) hws

theorem sound_inTurn {p : Iteration → Bool} {loops : Loops} {w : Writer} (h : w.Sound) :
    Sound (inTurn p loops w) := by
  rw [inTurn]
  split
  · exact h
  · exact sound_nothing

variable {s : Settings} (hs : ∀ w ∈ s.connectors, isIdentifier w.toList = true)
include hs

theorem sound_fragment {strips : Bool} {items : List Item} (h : ∀ i ∈ items, i.Sound) :
    (Output.fragment (if strips then Item.stripped s items else items)).Sound := by
  cases strips with
  | true => exact Item.stripped_sound hs h
  | false => exact h

theorem sound_branch {content : Writer} (h : content.Sound) : Sound (branch s content) := by
  intro strips o ho
  obtain ⟨a, ha, ho⟩ := bind_eq_ok.mp ho
  cases ho
  exact sound_fragment hs (h _ a ha)

theorem sound_optional {content : Writer} (h : content.Sound) : Sound (optional s content) := by
  intro strips o ho
  obtain ⟨a, ha, ho⟩ := bind_eq_ok.mp ho
  cases hk : a.keeps with
  | true =>
    rw [hk] at ho
    cases ho
    exact sound_fragment hs (h _ a ha)
  | false =>
    rw [hk] at ho
    cases ho
    exact Output.sound_nothing

end Writer
end SqlTemplate
