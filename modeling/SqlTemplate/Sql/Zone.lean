/-!
Where in a piece of SQL a character stands. Question marks in code are placeholders; those in
literals and comments are not.
-/
namespace SqlTemplate.Sql

inductive Zone where
  | code
  | afterMinus
  | afterSlash
  | literal
  | lineComment
  | blockComment
  /-- A block comment that ends in a star: a slash closes it. This star may be the one that opens
  the comment. -/
  | afterStar
deriving DecidableEq, Repr

namespace Zone

def ofCode (c : Char) : Zone :=
  if c = '\'' then literal else if c = '-' then afterMinus else if c = '/' then afterSlash else code

def next : Zone → Char → Zone
  | code, c => ofCode c
  | afterMinus, c => if c = '-' then lineComment else ofCode c
  | afterSlash, c => if c = '*' then afterStar else ofCode c
  | literal, c => if c = '\'' then code else literal
  | lineComment, c => if c = '\n' then code else lineComment
  | blockComment, c => if c = '*' then afterStar else blockComment
  | afterStar, c => if c = '/' then code else if c = '*' then afterStar else blockComment

def after (z : Zone) (cs : List Char) : Zone := cs.foldl next z

def isCode : Zone → Bool
  | code | afterMinus | afterSlash => true
  | _ => false

def placeholders : Zone → List Char → Nat
  | _, [] => 0
  | z, c :: cs => (if z.isCode ∧ c = '?' then 1 else 0) + (z.next c).placeholders cs

def fill : Zone → List (List Char) → List Char → List Char
  | _, _, [] => []
  | z, fillings, c :: cs =>
    if z.isCode ∧ c = '?' then
      (fillings.head?.getD [c]) ++ (z.next c).fill fillings.tail cs
    else c :: (z.next c).fill fillings cs

theorem after_append (z : Zone) (as bs : List Char) :
    z.after (as ++ bs) = (z.after as).after bs := by
  simp [after]

theorem placeholders_append (z : Zone) (as bs : List Char) :
    z.placeholders (as ++ bs) = z.placeholders as + (z.after as).placeholders bs := by
  induction as generalizing z with
  | nil => simp [placeholders, after]
  | cons a as ih => simp only [List.cons_append, placeholders, ih, after, List.foldl_cons]; omega

end Zone

def placeholderCount (sql : List Char) : Nat := Zone.code.placeholders sql

def hasPlaceholder (sql : List Char) : Bool := 0 < placeholderCount sql

end SqlTemplate.Sql
