import SqlTemplate.Sql.Zone
import SqlTemplate.Template.Error

/-!
The SQL behind a variable that stands for its value: a literal, a group in parentheses or a bare
word.
-/
namespace SqlTemplate.TestValue

def keep (front : List Char) (r : List Char × List Char) : List Char × List Char :=
  (front ++ r.1, r.2)

def literalRest? : List Char → Option (List Char × List Char)
  | '\'' :: '\'' :: cs => (literalRest? cs).map (keep ['\'', '\''])
  | '\'' :: cs => some (['\''], cs)
  | c :: cs => (literalRest? cs).map (keep [c])
  | [] => none

/-- The rest of a group up to the parenthesis that closes it, and the text behind it. `depth` groups
are open inside, and `quote` is where an open literal starts; `start` is where the group does. The
error is the start of what is not closed. -/
def groupRest (start : List Char) :
    (depth : Nat) → (quote : Option (List Char)) → List Char →
      Except (List Char) (List Char × List Char)
  | _, quote, [] => .error (quote.getD start)
  | depth, some quote, '\'' :: '\'' :: cs =>
    (groupRest start depth (some quote) cs).map (keep ['\'', '\''])
  | depth, some _, '\'' :: cs => (groupRest start depth none cs).map (keep ['\''])
  | depth, some quote, c :: cs => (groupRest start depth (some quote) cs).map (keep [c])
  | depth, none, '\'' :: cs =>
    (groupRest start depth (some ('\'' :: cs)) cs).map (keep ['\''])
  | depth, none, '(' :: cs => (groupRest start (depth + 1) none cs).map (keep ['('])
  | 0, none, ')' :: cs => .ok ([')'], cs)
  | depth + 1, none, ')' :: cs => (groupRest start depth none cs).map (keep [')'])
  | depth, none, c :: cs => (groupRest start depth none cs).map (keep [c])

theorem length_literalRest? {cs : List Char} {r : List Char × List Char}
    (h : literalRest? cs = some r) : r.2.length < cs.length := by
  fun_induction literalRest? cs generalizing r with
  | case1 cs ih =>
    obtain ⟨u, hu, rfl⟩ := Option.map_eq_some_iff.1 h
    have := ih hu
    simp only [keep, List.length_cons]
    omega
  | case2 cs => cases h; simp
  | case3 c cs _ _ ih =>
    obtain ⟨u, hu, rfl⟩ := Option.map_eq_some_iff.1 h
    have := ih hu
    simp only [keep, List.length_cons]
    omega
  | case4 => cases h

theorem exists_of_map_eq_ok {ε α β : Type} {f : α → β} {x : Except ε α} {b : β}
    (h : x.map f = .ok b) : ∃ a, x = .ok a ∧ f a = b := by
  cases x with
  | error e => cases h
  | ok a => cases h; exact ⟨a, rfl, rfl⟩

theorem length_groupRest {start : List Char} {depth : Nat} {quote : Option (List Char)}
    {cs : List Char} {r : List Char × List Char} (h : groupRest start depth quote cs = .ok r) :
    r.2.length < cs.length := by
  fun_induction groupRest start depth quote cs generalizing r with
  | case1 => cases h
  | case7 => cases h; simp
  | _ =>
    rename_i ih
    obtain ⟨u, hu, rfl⟩ := exists_of_map_eq_ok h
    have := ih hu
    simp only [keep, List.length_cons]
    omega

def endsBare : List Char → Bool
  | '/' :: '*' :: _ => true
  | '-' :: '-' :: _ => true
  | c :: _ => [' ', '\t', '\n', '\x0c', '\r', ',', ')', ';'].contains c
  | [] => true

def bare : List Char → List Char × List Char
  | [] => ([], [])
  | c :: cs => if endsBare (c :: cs) then ([], c :: cs) else keep [c] (bare cs)

theorem length_bare_le (cs : List Char) : (bare cs).2.length ≤ cs.length := by
  fun_induction bare cs with
  | case1 => simp
  | case2 => simp
  | case3 c cs _ ih => simp only [keep, List.length_cons]; omega

def excerpt (cs : List Char) : String := String.ofList (cs.take 20)

def unterminated (here : List Char) : Placed Fault := ⟨here, .unterminatedLiteral (excerpt here)⟩

def span (cs : List Char) : Except (Placed Fault) (List Char × List Char) :=
  match cs with
  | '\'' :: rest =>
    match literalRest? rest with
    | some r => .ok (keep ['\''] r)
    | none => .error (unterminated cs)
  | '(' :: rest => ((groupRest cs 0 none rest).map (keep ['('])).mapError unterminated
  | cs => .ok (bare cs)

def read (cs : List Char) : Except (Placed Fault) (List Char × List Char) := do
  let (value, rest) ← span cs
  if Sql.hasPlaceholder value then throw ⟨cs, .placeholderInTestValue (String.ofList value)⟩
  else return (value, rest)

theorem length_span_le {cs : List Char} {r : List Char × List Char} (h : span cs = .ok r) :
    r.2.length ≤ cs.length := by
  unfold span at h
  split at h
  · split at h
    · next hr =>
      have := length_literalRest? hr
      cases h
      simp only [keep, List.length_cons]
      omega
    · cases h
  · next rest =>
    cases hg : groupRest ('(' :: rest) 0 none rest with
    | error e => rw [hg] at h; cases h
    | ok u =>
      have := length_groupRest hg
      rw [hg] at h
      cases h
      simp only [keep, List.length_cons]
      omega
  · cases h; exact length_bare_le cs

theorem length_read_le {cs : List Char} {r : List Char × List Char} (h : read cs = .ok r) :
    r.2.length ≤ cs.length := by
  unfold read at h
  cases hs : span cs with
  | error e => rw [hs] at h; cases h
  | ok u =>
    rw [hs] at h
    simp only [bind, Except.bind] at h
    split at h
    · cases h
    · cases h; exact length_span_le hs

def isGroup (value : List Char) : Bool := value.head? = some '('

end SqlTemplate.TestValue
