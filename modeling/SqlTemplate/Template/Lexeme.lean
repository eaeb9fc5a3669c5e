import SqlTemplate.Template.Verbatim

/-!
Templates as rows of SQL stretches, directives and variables. Nothing of the text gets lost: the
sources of the lexemes, one after the other, are the text.
-/
namespace SqlTemplate

inductive Lexeme where
  | sql (text : List Char)
  | lineElse (comment : List Char)
  | directive (body : List Char) (d : Directive)
  | slot (body : List Char) (embedded : Bool) (v : Variable)
deriving DecidableEq

namespace Lexeme

def comment (body : List Char) : List Char := '/' :: '*' :: (body ++ ['*', '/'])

def source : Lexeme → List Char
  | sql text => text
  | lineElse text => text
  | directive body _ => comment body
  | slot body _ v => comment body ++ v.testValue.toList

end Lexeme

abbrev Lexemes := List (Placed Lexeme) × Option (Placed Fault)

namespace Lexemes

def push (here : List Char) (l : Lexeme) (ls : Lexemes) : Lexemes := (⟨here, l⟩ :: ls.1, ls.2)

def fail (f : Placed Fault) : Lexemes := ([], some f)

def pushSql (here text : List Char) (ls : Lexemes) : Lexemes :=
  if text.isEmpty then ls else push here (.sql text) ls

end Lexemes

namespace Lexemes

def scan (blank : Bool) (cs : List Char) : Lexemes :=
  if _hc : cs = [] then ([], none)
  else
    match _hs : Verbatim.span (.code blank) cs with
    | (sql, .ended) => pushSql cs sql ([], none)
    | (_, .failed f) => fail f
    | (sql, .lineElse here comment rest) =>
      pushSql cs sql (push here (.lineElse comment) (scan false rest))
    | (sql, .marker here body rest) =>
      pushSql cs sql <|
        match Marker.parse body with
        | .error e => fail ⟨here, e.fault body⟩
        | .ok (.directive d) => push here (.directive body d) (scan false rest)
        | .ok (.slot embedded path options) =>
          match _hr : TestValue.read rest with
          | .error f => fail f
          | .ok (value, rest) =>
            let v := ⟨path, String.ofList value, TestValue.isGroup value, options⟩
            push here (.slot body embedded v) (scan false rest)
termination_by cs.length
decreasing_by
  all_goals
    have hlt := Verbatim.length_span_lt (.code blank) cs (by assumption)
    rw [_hs] at hlt
  · exact hlt
  · exact hlt
  · exact Nat.lt_of_le_of_lt (TestValue.length_read_le _hr) hlt

def ofText (text : List Char) : Lexemes := scan true text

end Lexemes
end SqlTemplate
