import SqlTemplate.Proofs.RenderedItems
import SqlTemplate.Proofs.SoundItems

namespace SqlTemplate

theorem Like.closed_escapeClause {c : Char} (h : Settings.isEscape c = true) :
    Sql.Closed (escapeClause c).toList := by
  have hquote : c ≠ '\'' := by
    rintro rfl
    revert h
    decide
  have hopen : Sql.Zone.code.after " escape '".toList = .literal := by decide
  have hnone : Sql.Zone.code.placeholders " escape '".toList = 0 := by decide
  have hc : Sql.Zone.literal.after [c] = .literal := by simp [Sql.Zone.after, Sql.Zone.next, hquote]
  have hcount : Sql.Zone.literal.placeholders [c] = 0 := by
    simp [Sql.Zone.placeholders, Sql.Zone.isCode]
  have htext : (escapeClause c).toList = " escape '".toList ++ [c] ++ "'".toList := by
    simp [escapeClause]
  rw [htext, Sql.Closed]
  simp only [Sql.Zone.after_append, Sql.Zone.placeholders_append, hopen, hnone, hc, hcount]
  decide

namespace Variable

theorem sound_enclose (v : Variable) {items : List Item} (h : ∀ i ∈ items, i.Sound) :
    ∀ i ∈ v.enclose items, i.Sound := by
  have hopen : Sql.Closed ['('] := by decide
  have hclose : Sql.Closed [')'] := by decide
  rw [enclose]
  split
  · simp only [List.mem_cons, List.mem_append, List.not_mem_nil, or_false]
    rintro i (rfl | hi | rfl)
    · exact hopen
    · exact h i hi
    · exact hclose
  · exact h

theorem sound_commaSlots (bs : List Bind) : ∀ i ∈ commaSlots bs, i.Sound := by
  have hcomma : Sql.Closed [',', ' '] := by decide
  fun_induction commaSlots bs with
  | case1 => simp
  | case2 b => simp [Item.Sound]
  | case3 b bs _ ih =>
    simp only [List.mem_cons]
    rintro i (rfl | rfl | hi)
    · trivial
    · exact hcomma
    · exact ih i hi

theorem sound_bindOne {s : Settings} (hs : s.check = .ok ()) {v : Variable} {r : Resolved}
    {o : Output} (h : bindOutput.bindOne s v r = .ok o) : o.Sound := by
  obtain ⟨value, -, h⟩ := bind_eq_ok.mp h
  cases h
  have hslot : ∀ i ∈ v.enclose [.slot ⟨value, r.type⟩], i.Sound := by
    apply v.sound_enclose
    simp [Item.Sound]
  have hescape : Sql.Closed (v.escapeClause s).toList := by
    rw [escapeClause]
    split
    · exact Like.closed_escapeClause (s.isEscape_of_check hs)
    · decide
  intro i hi
  rcases List.mem_append.mp hi with hi | hi
  · exact hslot i hi
  · rw [List.mem_singleton.mp hi]
    exact hescape

theorem sound_bindOutput {s : Settings} (hs : s.check = .ok ()) {v : Variable} {r : Resolved}
    {o : Output} (h : v.bindOutput s r = .ok o) : o.Sound := by
  rw [bindOutput] at h
  split at h
  · split at h
    · cases h
      apply v.sound_enclose
      simp [Item.Sound]
    · cases h
  · cases h
  · cases h
  · split at h
    · obtain ⟨present, -, h⟩ := bind_eq_ok.mp h
      obtain ⟨binds, -, h⟩ := bind_eq_ok.mp h
      cases h
      exact v.sound_enclose (sound_commaSlots binds)
    · exact sound_bindOne hs h
  · exact sound_bindOne hs h

theorem sound_embedOutput {v : Variable} {r : Resolved} {o : Output}
    (h : v.embedOutput r = .ok o) : o.Sound := by
  obtain ⟨f, hf, h⟩ := bind_eq_ok.mp h
  cases h
  intro i hi
  rw [List.mem_singleton.mp hi]
  by_cases hr : ∃ s, r.value = .string s
  · obtain ⟨s, hs⟩ := hr
    rw [hs, embeddedFrom]
    rw [embedFilling, hs] at hf
    rw [(embedText_eq_ok hf).1]
    exact (embedText_eq_ok hf).2
  · have hne : ∀ s, r.value ≠ .string s := fun s hs => hr ⟨s, hs⟩
    have hsource : embeddedFrom r.value = .generated := by
      rw [embeddedFrom]
      exact hne
    rw [hsource]
    exact closed_embedFilling hne hf

end Variable

mutual

theorem Node.output_sound {s : Settings} (hs : s.check = .ok ()) (params : Params) (loops : Loops)
    (n : Node) (h : ∀ text, .text text ∈ n.leaves → Sql.Closed text.toList) :
    (n.output s params loops).Sound := by
  have hi := s.isIdentifier_of_check hs
  cases n with
  | text sql =>
    rw [Node.output]
    apply Writer.sound_ok
    intro i hmem
    rw [List.mem_singleton.mp hmem]
    exact h sql (by simp [Node.leaves])
  | bind v =>
    rw [Node.output]
    intro strips o ho
    obtain ⟨r, -, ho⟩ := bind_eq_ok.mp ho
    exact Variable.sound_bindOutput hs ho
  | embed v =>
    rw [Node.output]
    intro strips o ho
    obtain ⟨r, -, ho⟩ := bind_eq_ok.mp ho
    exact Variable.sound_embedOutput ho
  | ifElse t children otherwise =>
    cases otherwise with
    | none =>
      have hc := outputAll_sound hs params loops children (by simpa [Node.leaves] using h)
      rw [Node.output]
      intro strips o ho
      obtain ⟨b, -, ho⟩ := bind_eq_ok.mp ho
      cases b with
      | true => exact Writer.sound_branch hi hc strips o ho
      | false => exact Writer.sound_nothing strips o ho
    | some otherwise =>
      rw [Node.leaves] at h
      have hc := outputAll_sound hs params loops children
        fun text ht => h text (List.mem_append_left _ ht)
      have ho := outputAll_sound hs params loops otherwise
        fun text ht => h text (List.mem_append_right _ ht)
      rw [Node.output]
      intro strips o hr
      obtain ⟨b, -, hr⟩ := bind_eq_ok.mp hr
      cases b with
      | true => exact Writer.sound_branch hi hc strips o hr
      | false => exact Writer.sound_branch hi ho strips o hr
  | optional children =>
    have hc := outputAll_sound hs params loops children (by simpa [Node.leaves] using h)
    rw [Node.output]
    exact Writer.sound_optional hi hc
  | loop name collection children =>
    rw [Node.output]
    intro strips o ho
    obtain ⟨items, -, ho⟩ := bind_eq_ok.mp ho
    refine Writer.sound_sequence ?_ strips o ho
    intro w hw
    obtain ⟨turn, -, rfl⟩ := List.mem_map.mp hw
    exact outputAll_sound hs params (turn :: loops) children (by simpa [Node.leaves] using h)
  | first children =>
    rw [Node.output]
    exact Writer.sound_inTurn
      (outputAll_sound hs params loops children (by simpa [Node.leaves] using h))
  | last children =>
    rw [Node.output]
    exact Writer.sound_inTurn
      (outputAll_sound hs params loops children (by simpa [Node.leaves] using h))
  | next sql =>
    rw [Node.output]
    apply Writer.sound_inTurn
    apply Writer.sound_ok
    intro i hmem
    rw [List.mem_singleton.mp hmem]
    trivial
  | root children =>
    rw [Node.output]
    exact outputAll_sound hs params loops children (by simpa [Node.leaves] using h)

theorem outputAll_sound {s : Settings} (hs : s.check = .ok ()) (params : Params) (loops : Loops)
    (ns : List Node) (h : ∀ text, .text text ∈ leavesAll ns → Sql.Closed text.toList) :
    Writer.Sound (outputAll s params loops ns) := by
  cases ns with
  | nil => exact Writer.sound_nothing
  | cons n ns =>
    rw [leavesAll] at h
    have hn := Node.output_sound hs params loops n fun text ht => h text (List.mem_append_left _ ht)
    have hns := outputAll_sound hs params loops ns
      fun text ht => h text (List.mem_append_right _ ht)
    exact Writer.sound_andThen hn hns

end

end SqlTemplate
