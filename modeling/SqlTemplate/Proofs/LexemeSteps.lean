import SqlTemplate.Template.Lexeme

namespace SqlTemplate

namespace Lexemes

theorem scan_nil (blank : Bool) : scan blank [] = ([], none) := by
  rw [scan]
  rfl

theorem scan_ended {blank : Bool} {cs sql : List Char}
    (hs : Verbatim.span (.code blank) cs = (sql, .ended)) :
    scan blank cs = pushSql cs sql ([], none) := by
  rw [scan]
  split
  · next hc =>
    subst hc
    cases hs
    rfl
  · split
    · next h =>
      rw [hs] at h
      cases h
      rfl
    · next h => rw [hs] at h; cases h
    · next h => rw [hs] at h; cases h
    · next h => rw [hs] at h; cases h

theorem scan_lineElse {blank : Bool} {cs sql here comment rest : List Char}
    (hs : Verbatim.span (.code blank) cs = (sql, .lineElse here comment rest)) :
    scan blank cs = pushSql cs sql (push here (.lineElse comment) (scan false rest)) := by
  have hc : cs ≠ [] := by
    rintro rfl
    cases hs
  rw [scan, dif_neg hc]
  split
  · next h => rw [hs] at h; cases h
  · next h => rw [hs] at h; cases h
  · next h =>
    rw [hs] at h
    cases h
    rfl
  · next h => rw [hs] at h; cases h

section Scan
variable {blank : Bool} {cs sql here body rest : List Char}
  (hs : Verbatim.span (.code blank) cs = (sql, .marker here body rest))
include hs

theorem scan_marker :
    scan blank cs = pushSql cs sql
      (match Marker.parse body with
      | .error e => fail ⟨here, e.fault body⟩
      | .ok (.directive d) => push here (.directive body d) (scan false rest)
      | .ok (.slot embedded path options) =>
        match TestValue.read rest with
        | .error f => fail f
        | .ok (value, behind) =>
          push here (.slot body embedded
            ⟨path, String.ofList value, TestValue.isGroup value, options⟩) (scan false behind)) := by
  have hc : cs ≠ [] := by
    rintro rfl
    cases hs
  rw [scan, dif_neg hc]
  split
  · next h => rw [hs] at h; cases h
  · next h => rw [hs] at h; cases h
  · next h => rw [hs] at h; cases h
  · next h =>
    rw [hs] at h
    cases h
    congr 1
    cases Marker.parse body with
    | error e => rfl
    | ok m =>
      cases m with
      | directive d => rfl
      | slot embedded path options =>
        dsimp only
        split
        · next hr => rw [hr]
        · next hr => rw [hr]

theorem scan_directive {d : Directive} (hm : Marker.parse body = .ok (.directive d)) :
    scan blank cs = pushSql cs sql (push here (.directive body d) (scan false rest)) := by
  rw [scan_marker hs, hm]

theorem scan_slot {embedded : Bool} {path : Path} {options : Options} {value behind : List Char}
    (hm : Marker.parse body = .ok (.slot embedded path options))
    (hr : TestValue.read rest = .ok (value, behind)) :
    scan blank cs = pushSql cs sql (push here (.slot body embedded
      ⟨path, String.ofList value, TestValue.isGroup value, options⟩) (scan false behind)) := by
  rw [scan_marker hs, hm]
  simp only [hr]

end Scan

end Lexemes
end SqlTemplate
