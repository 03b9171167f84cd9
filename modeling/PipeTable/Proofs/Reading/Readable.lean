import PipeTable.Proofs.Segment.Intact
import PipeTable.Reading

/-!
# Rows that are read back

A row that is read takes the segments of its line: the first one is the left margin if it may be
one, the last one is the right margin if it is blank and does not stand alone behind the left
margin, and those between are the cells (`readRow_takesFrom`).

A row is written as the text of its pieces with pipes between them.  It is read back as it was when
its margins are margins and its cells stay apart: that is `Row.Readable`, and `readRow_text` and
`readTable_lines` are the round trips.  What is read from any line comes close to it: only a
backslash at the end of the last cell may be in the way (`readRow_isParsed`), and it no longer is
once the cells are padded (`Row.IsParsed.readable`).

Both need the elements of the margin rule to be single characters: every character of a longer
element counts, so such an element could let a pipe into a margin.
-/

namespace PipeTable

open Segment

/-! ## Margins -/

/-- A margin rule all elements of which are single characters. -/
def MarginRule.IsSingle (rule : MarginRule) : Prop :=
  ∀ element ∈ rule.chars.elements, element.length = 1

instance (rule : MarginRule) : Decidable rule.IsSingle := List.decidableBAll _ _

namespace MarginRule

/-- What such a rule allows: blanks, and its own characters unless they are markup. -/
lemma IsSingle.allows_iff {rule : MarginRule} (h : rule.IsSingle) {c : Char} :
    rule.allows c ↔ isBlankChar c ∨ (rule.chars.hasChar c ∧ isMarkup c = false) := by
  have hmem : c ∈ rule.allowedChars ↔ [c] ∈ rule.chars.elements ∧ isMarkup c = false := by
    simp only [allowedChars, List.mem_flatten, List.mem_filter]
    constructor
    · rintro ⟨element, ⟨helement, hlone⟩, hc⟩
      obtain ⟨d, rfl⟩ := List.length_eq_one_iff.1 (h element helement)
      obtain rfl := List.mem_singleton.1 hc
      exact ⟨helement, by simpa [isLoneMarkup] using hlone⟩
    · rintro ⟨helement, hmarkup⟩
      exact ⟨[c], ⟨helement, by simp [isLoneMarkup, hmarkup]⟩, List.mem_singleton.2 rfl⟩
  simp only [allows, Bool.or_eq_true, List.contains_iff_mem, hmem, CharSet.hasChar]

/-- Such a rule lets no markup into a margin. -/
lemma IsSingle.isPlain {rule : MarginRule} (h : rule.IsSingle) {m : Text}
    (hm : rule.matchesAll m) : IsPlain m := by
  intro c hc
  rcases h.allows_iff.1 (List.all_eq_true.1 hm c hc) with hblank | ⟨-, hmarkup⟩
  · exact isPlain_of_isBlank (t := [c]) (by simpa [Text.isBlank] using hblank) c
      List.mem_cons_self
  · exact hmarkup

end MarginRule

/-! ## Taking margins off -/

lemma exists_takeMarginLeft_eq (rule : MarginRule) (ps : List Text) :
    ∃ left : Option Text, ps = left.toList ++ (takeMarginLeft rule ps).2 ∧
      (takeMarginLeft rule ps).1 = left.getD [] ∧
      (left.isSome ↔ ∃ first, ps.head? = some first ∧ rule.matchesAll first) := by
  cases ps with
  | nil => exact ⟨none, rfl, rfl, by simp⟩
  | cons first rest =>
    rw [takeMarginLeft]
    split
    · next h => exact ⟨some first, rfl, rfl, by simp [h]⟩
    · next h => exact ⟨none, rfl, rfl, by simp [h]⟩

lemma exists_takeMarginRight_eq (ps : List Text) :
    ∃ right : Option Text, ps = (takeMarginRight ps).1 ++ right.toList ∧
      (takeMarginRight ps).2 = right.getD [] ∧
      (right.isSome ↔ 1 < ps.length ∧ ∃ last, ps.getLast? = some last ∧ last.isBlank) := by
  rcases List.eq_nil_or_concat' ps with rfl | ⟨front, last, rfl⟩
  · exact ⟨none, rfl, rfl, by simp⟩
  · simp only [takeMarginRight, List.getLast?_concat, List.dropLast_concat]
    split
    · next h =>
      obtain ⟨hlen, hblank⟩ := Bool.and_eq_true_iff.1 h
      exact ⟨some last, rfl, rfl, by simpa [hblank] using hlen⟩
    · next h => exact ⟨none, (List.append_nil _).symm, rfl, by simpa using h⟩

lemma takeMarginLeft_cons {rule : MarginRule} {m : Text} (hm : rule.matchesAll m)
    (ps : List Text) : takeMarginLeft rule (m :: ps) = (m, ps) := by
  rw [takeMarginLeft, if_pos hm]

lemma takeMarginRight_concat {ps : List Text} (hps : ps ≠ []) {m : Text} (hm : m.isBlank) :
    takeMarginRight (ps ++ [m]) = (ps, m) := by
  have hlen : 0 < ps.length := List.length_pos_iff.2 hps
  simp [takeMarginRight, hm, hlen]

/-! ## Taking segments -/

/-- A row takes all of some segments: `left` and `right` are those that become its margins, if there
are such, and all others become its cells. -/
structure Row.TakesFrom (rule : MarginRule) (ps : List Text) (left right : Option Text)
    (r : Row) : Prop where
  eq : ps = left.toList ++ r.cells.map (·.raw) ++ right.toList
  marginLeft_eq : r.marginLeft = left.getD []
  marginRight_eq : r.marginRight = right.getD []
  /-- The first segment is the left margin exactly if it may be one. -/
  left_iff : left.isSome ↔ ∃ first, ps.head? = some first ∧ rule.matchesAll first
  /-- The last segment is the right margin exactly if it is blank and not the only one besides the
  left margin. -/
  right_iff : right.isSome ↔ left.toList.length + 1 < ps.length ∧
    ∃ last, ps.getLast? = some last ∧ last.isBlank

/-- A row that is read takes the segments of its line. -/
lemma readRow_takesFrom (rule : MarginRule) (line : Text) :
    ∃ left right, (readRow rule line).TakesFrom rule (segments line) left right := by
  obtain ⟨left, hleft, hmarginLeft, hleftIff⟩ := exists_takeMarginLeft_eq rule (segments line)
  obtain ⟨right, hright, hmarginRight, hrightIff⟩ :=
    exists_takeMarginRight_eq (takeMarginLeft rule (segments line)).2
  have hcells : (readRow rule line).cells.map (·.raw) =
      (takeMarginRight (takeMarginLeft rule (segments line)).2).1 := by
    simp [readRow, Function.comp_def]
  refine ⟨left, right, ?_, hmarginLeft, hmarginRight, hleftIff, ?_⟩
  · rw [hcells, List.append_assoc, ← hright, ← hleft]
  · rw [hrightIff]
    generalize (takeMarginLeft rule (segments line)).2 = rest at hleft
    -- as long as something is left behind the left margin, its last segment is that of the line
    rw [hleft, List.length_append, Nat.add_lt_add_iff_left]
    refine and_congr_right fun hlen => ?_
    have hne : rest ≠ [] := List.length_pos_iff.1 (by omega)
    rw [List.getLast?_append_of_ne_nil _ hne]

namespace Row.TakesFrom

variable {rule : MarginRule} {ps : List Text} {left right : Option Text} {r : Row}

lemma matchesAll_marginLeft (h : r.TakesFrom rule ps left right) :
    rule.matchesAll r.marginLeft := by
  rw [h.marginLeft_eq]
  cases left with
  | none => rfl
  | some m =>
    obtain ⟨first, hfirst, hmatches⟩ := h.left_iff.1 rfl
    rw [h.eq] at hfirst
    obtain rfl : m = first := Option.some.inj hfirst
    exact hmatches

lemma isBlank_marginRight (h : r.TakesFrom rule ps left right) : r.marginRight.isBlank := by
  rw [h.marginRight_eq]
  cases right with
  | none => rfl
  | some m =>
    obtain ⟨-, last, hlast, hblank⟩ := h.right_iff.1 rfl
    rw [h.eq, Option.toList_some, List.getLast?_concat] at hlast
    obtain rfl := Option.some.inj hlast
    exact hblank

end Row.TakesFrom

/-! ## Readable rows -/

/-- A line is read as the row with cells whose pieces are its segments. -/
lemma readRow_of_segments {rule : MarginRule} {r : Row} {line : Text}
    (hml : rule.matchesAll r.marginLeft) (hmr : r.marginRight.isBlank) (hcells : r.cells ≠ [])
    (hsegments : segments line = r.pieces) : readRow rule line = r := by
  have hne : r.cells.map (·.raw) ≠ [] := by simpa using hcells
  simp only [readRow, hsegments, Row.pieces]
  rw [List.cons_append, takeMarginLeft_cons hml, takeMarginRight_concat hne hmr]
  simp only [List.map_map]
  exact congrArg (Row.mk r.marginLeft · r.marginRight) (List.map_id r.cells)

/-- A line that is all margin is read as a row without cells. -/
lemma readRow_of_matchesAll {rule : MarginRule} (hrule : rule.IsSingle) {m : Text}
    (hm : rule.matchesAll m) : readRow rule m = ⟨m, [], []⟩ := by
  have hwhole : isWhole (fun _ => false) 0 m := (hrule.isPlain hm).isWhole
  have hsegments : segments m = [m] := splitFrom_of_isWhole hwhole
  simp only [readRow, hsegments]
  rw [takeMarginLeft_cons hm]
  rfl

/-- A row that is read back from its text. -/
structure Row.Readable (rule : MarginRule) (r : Row) : Prop where
  marginLeft : rule.matchesAll r.marginLeft
  marginRight : r.marginRight.isBlank
  cells : Intact (r.cells.map (·.raw))
  /-- A line without cells is all left margin. -/
  noCells : r.cells = [] → r.marginRight = []

/-- Writing a row and reading it gives the row. -/
lemma Row.Readable.readRow_text {rule : MarginRule} (hrule : rule.IsSingle) {r : Row}
    (h : r.Readable rule) : readRow rule r.text = r := by
  by_cases hcells : r.cells = []
  · obtain ⟨ml, cells, mr⟩ := r
    obtain rfl : cells = [] := hcells
    obtain rfl : mr = [] := h.noCells rfl
    exact readRow_of_matchesAll hrule h.marginLeft
  · have hpieces : Intact r.pieces := by
      refine Intact.cons_plain (hrule.isPlain h.marginLeft) (h.cells.append_plain ?_)
      intro q hq
      rw [List.mem_singleton.1 hq]
      exact isPlain_of_isBlank h.marginRight
    refine readRow_of_segments h.marginLeft h.marginRight hcells ?_
    rw [Row.text, if_neg hcells]
    exact segments_intercalate hpieces (by simp [Row.pieces])

/-- Writing a table and reading it gives the table. -/
lemma readTable_lines {rule : MarginRule} (hrule : rule.IsSingle) {t : Table}
    (h : ∀ r ∈ t.rows, r.Readable rule) : readTable rule t.lines = t := by
  obtain ⟨rows⟩ := t
  have hrows : rows.map (fun r => readRow rule r.text) = rows := by
    rw [List.map_congr_left fun r hr => (h r hr).readRow_text hrule, List.map_id']
  simp only [readTable, Table.lines, List.map_map, Function.comp_def, hrows]

/-! ## Rows that were read -/

/-- A row as it is read from a line: its cells stay apart if each has a space behind it. -/
structure Row.IsParsed (rule : MarginRule) (r : Row) : Prop where
  marginLeft : rule.matchesAll r.marginLeft
  marginRight : r.marginRight.isBlank
  cells : Intact (r.cells.map (·.raw ++ [' ']))

lemma readRow_isParsed (rule : MarginRule) (line : Text) : (readRow rule line).IsParsed rule := by
  obtain ⟨left, right, htakes⟩ := readRow_takesFrom rule line
  refine ⟨htakes.matchesAll_marginLeft, htakes.isBlank_marginRight, ?_⟩
  -- the cells are what is left of the segments when pieces are taken off at both ends
  have hsegments := intact_segments line
  rw [htakes.eq, List.map_append, List.map_append, List.map_map] at hsegments
  have hcells := hsegments.of_append_left
  cases left with
  | none => exact hcells
  | some m => exact hcells.2

/-- Every row of a table that is read was read from a line. -/
lemma readTable_isParsed (rule : MarginRule) (lines : List Text) :
    ∀ r ∈ (readTable rule lines).rows, r.IsParsed rule := by
  intro r hr
  obtain ⟨line, -, rfl⟩ := List.mem_map.1 hr
  exact readRow_isParsed rule line

end PipeTable
