import Mathlib.Data.List.Forall2
import SqlTemplate.Json.Reader

namespace SqlTemplate.Json

def IsBlank (text : List Char) : Prop := ∀ c ∈ text, isBlank c = true

def IsDigits (text : List Char) : Prop := text ≠ [] ∧ ∀ c ∈ text, Number.isDigit c = true

structure IsNumber (sign whole fraction exponent : List Char) : Prop where
  sign : sign = [] ∨ sign = ['-']
  whole : whole = ['0'] ∨ IsDigits whole ∧ whole.head? ≠ some '0'
  fraction : fraction = [] ∨ ∃ digits, IsDigits digits ∧ fraction = '.' :: digits
  exponent : exponent = [] ∨ ∃ e sign digits, (e = 'e' ∨ e = 'E') ∧
    (sign = [] ∨ sign = ['+'] ∨ sign = ['-']) ∧ IsDigits digits ∧
    exponent = e :: (sign ++ digits)

def SpellsNumber (text : List Char) : Prop :=
  ∃ sign whole fraction exponent, IsNumber sign whole fraction exponent ∧
    text = sign ++ (whole ++ (fraction ++ exponent))

def shortEscapes : List (Char × Char) :=
  [('"', '"'), ('\\', '\\'), ('/', '/'), ('b', '\x08'), ('f', '\x0c'), ('n', '\n'), ('r', '\r'),
   ('t', '\t')]

inductive SpellsChar : List Char → Char → Prop
  | plain {c : Char} (hblank : ' ' ≤ c) (hquote : c ≠ '"') (hbackslash : c ≠ '\\') :
      SpellsChar [c] c
  | short {e c : Char} (h : (e, c) ∈ shortEscapes) : SpellsChar ['\\', e] c
  | unicode {a b c d : Char} {n : Nat} (h : hex4? a b c d = some n)
      (hn : n < 0xD800 ∨ 0xE000 ≤ n) : SpellsChar ['\\', 'u', a, b, c, d] (Char.ofNat n)
  | pair {a b c d a' b' c' d' : Char} {high low : Nat} (h : hex4? a b c d = some (0xD800 + high))
      (h' : hex4? a' b' c' d' = some (0xDC00 + low)) (hhigh : high < 0x400) (hlow : low < 0x400) :
      SpellsChar ['\\', 'u', a, b, c, d, '\\', 'u', a', b', c', d']
        (Char.ofNat (0x10000 + high * 0x400 + low))

def SpellsString (text : List Char) (s : String) : Prop :=
  ∃ spellings, List.Forall₂ SpellsChar spellings s.toList ∧
    text = '"' :: (spellings.flatten ++ ['"'])

def SpellsName (text : List Char) (name : String) : Prop :=
  ∃ before spelling after, IsBlank before ∧ SpellsString spelling name ∧ IsBlank after ∧
    text = before ++ (spelling ++ (after ++ [':']))

inductive Part where
  | value (j : Json)
  | element (j : Json)
  | elements (js : List Json)
  | member (m : String × Json)
  | members (ms : List (String × Json))

inductive Spells : List Char → Part → Prop
  | null : Spells "null".toList (.value null)
  | true : Spells "true".toList (.value (bool true))
  | false : Spells "false".toList (.value (bool false))
  | number {text : String} (h : SpellsNumber text.toList) :
      Spells text.toList (.value (number text))
  | string {text : List Char} {s : String} (h : SpellsString text s) :
      Spells text (.value (string s))
  | emptyArray {blank : List Char} (h : IsBlank blank) :
      Spells ('[' :: (blank ++ [']'])) (.value (array []))
  | array {text : List Char} {js : List Json} (h : Spells text (.elements js)) :
      Spells ('[' :: (text ++ [']'])) (.value (array js))
  | emptyObject {blank : List Char} (h : IsBlank blank) :
      Spells ('\x7b' :: (blank ++ ['\x7d'])) (.value (object []))
  | object {text : List Char} {ms : List (String × Json)} (h : Spells text (.members ms)) :
      Spells ('\x7b' :: (text ++ ['\x7d'])) (.value (object ms))
  | element {before text after : List Char} {j : Json} (hbefore : IsBlank before)
      (h : Spells text (.value j)) (hafter : IsBlank after) :
      Spells (before ++ (text ++ after)) (.element j)
  | lastElement {text : List Char} {j : Json} (h : Spells text (.element j)) :
      Spells text (.elements [j])
  | moreElements {text rest : List Char} {j : Json} {js : List Json} (h : Spells text (.element j))
      (hs : Spells rest (.elements js)) : Spells (text ++ ',' :: rest) (.elements (j :: js))
  | member {name text : List Char} {m : String × Json} (hname : SpellsName name m.1)
      (h : Spells text (.element m.2)) : Spells (name ++ text) (.member m)
  | lastMember {text : List Char} {m : String × Json} (h : Spells text (.member m)) :
      Spells text (.members [m])
  | moreMembers {text rest : List Char} {m : String × Json} {ms : List (String × Json)}
      (h : Spells text (.member m)) (hs : Spells rest (.members ms)) :
      Spells (text ++ ',' :: rest) (.members (m :: ms))

def SpellsDocument (text : String) (j : Json) : Prop := Spells text.toList (.element j)

end SqlTemplate.Json
