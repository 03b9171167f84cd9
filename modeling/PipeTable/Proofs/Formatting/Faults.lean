import PipeTable.Proofs.Formatting.Reshape

/-!
# What formatting refuses

The settings of a style are not looked at until a table is formatted, so it is there that they are
found to be of no use.  `Table.RefusedFor` lists the reasons in the order in which they count: a
layout that is none, and in the normal layout of a table with a header, a default that names no
alignment, a header alignment that names none, and at last a cell that has no side to go to.  The
main statement, `Table.format_eq_error_iff`, is that these are the reasons and that there is no
other one.
-/

namespace PipeTable

/-- The fault of a cell without a side to go to. -/
def Fault.noSide : Fault := .unexpectedAlignment (.choice (.alignment .unset))

/-! ## What the columns leave open -/

namespace Table

namespace Parts

/-- The delimiter row has no cell in the column, or one that declares no side. -/
def LeavesUnset (p : Parts) (column : Nat) : Prop :=
  ∀ d, p.delimiter? = some d → ∀ c, d.cells[column]? = some c → c.alignment? = some .unset

/-- A cell of the row is in a column that is left unset. -/
def HasUnset (p : Parts) (r : Row) : Prop := ∃ column < r.width, p.LeavesUnset column

variable {style : Style} {p : Parts}

lemma declared_eq_unset_iff (h : ∀ d, p.delimiter? = some d → d.isDelimiter) (column : Nat) :
    p.declared column = .unset ↔ p.LeavesUnset column := by
  unfold declared LeavesUnset
  cases hd : p.delimiter? with
  | none => simp
  | some d =>
    have hcells := (Row.isDelimiter_iff.1 (h d hd)).2
    simp only [Row.alignments, List.getElem?_map, Option.some.injEq, forall_eq']
    cases hc : d.cells[column]? with
    | none => simp
    | some c =>
      obtain ⟨bar, hbar⟩ := Option.isSome_iff_exists.1 (hcells c (List.mem_of_getElem? hc))
      simp [Cell.alignment, Cell.alignment?, hbar]

end Parts

end Table

lemma Alignment.orElse_eq_unset_iff {own fallback : Alignment} :
    own.orElse fallback = .unset ↔ own = .unset ∧ fallback = .unset := by
  cases own <;> simp [Alignment.orElse]

/-! ## Filling a row -/

lemma Measure.align_eq_error_iff {m : Measure} {t : Text} {width : Int} {a : Alignment}
    {fault : Fault} :
    m.align t width (.choice (.alignment a)) = .error fault ↔ a = .unset ∧ fault = .noSide := by
  have hside (e : Fault) :
      (Value.choice (.alignment a)).toSide = .error e ↔ a = .unset ∧ e = .noSide := by
    rcases a with _ | side
    · constructor
      · rintro ⟨⟩
        exact ⟨rfl, rfl⟩
      · rintro ⟨-, rfl⟩
        rfl
    · constructor
      · intro h
        cases h
      · rintro ⟨h, -⟩
        cases h
  rw [Measure.align, bind_eq_error_iff_or hside fun side e => pure_eq_error_iff _ .noSide e,
    or_false]

/-- A row is refused exactly when one of its cells has no side to go to. -/
lemma Row.fillColumns_eq_error_iff {style : Style} {columns : List Column}
    {override : Option Alignment} {r : Row} {fault : Fault} :
    r.fillColumns style columns override = .error fault ↔
      (∃ cell ∈ r.cells.zip columns, override.getD cell.2.alignment = .unset) ∧
        fault = .noSide := by
  rw [fillColumns]
  refine mapM_eq_error_iff fun cell _ e => ?_
  rw [bind_eq_error_iff_or (fun e => Measure.align_eq_error_iff)
    fun text e => pure_eq_error_iff _ .noSide e, or_false]

namespace Table

namespace Parts

variable {style : Style} {p : Parts} {fallback : Alignment} {fault : Fault}

/-- The cells of a row stand in the columns of the table. -/
lemma exists_mem_zip_columns_iff {r : Row} (hr : r.width ≤ p.toTable.width)
    {P : Alignment → Prop} :
    (∃ cell ∈ r.cells.zip (p.columns style fallback), P cell.2.alignment) ↔
      ∃ column < r.width, P ((p.declared column).orElse fallback) := by
  have hlength : (r.cells.zip (p.columns style fallback)).length = r.width := by
    rw [List.length_zip, length_columns]
    exact Nat.min_eq_left hr
  have halignment (column : Nat) (h : column < (r.cells.zip (p.columns style fallback)).length) :
      (r.cells.zip (p.columns style fallback))[column].2.alignment =
        (p.declared column).orElse fallback := by
    simp [columns]
  constructor
  · rintro ⟨cell, hcell, hP⟩
    obtain ⟨column, hcolumn, rfl⟩ := List.getElem_of_mem hcell
    rw [halignment column hcolumn] at hP
    exact ⟨column, hlength ▸ hcolumn, hP⟩
  · rintro ⟨column, hcolumn, hP⟩
    have hlt : column < (r.cells.zip (p.columns style fallback)).length := by rwa [hlength]
    refine ⟨_, List.getElem_mem hlt, ?_⟩
    rwa [halignment column hlt]

/-- A row whose cells follow their columns is refused exactly when one of them is in a column that
is left unset, and the default is unset as well. -/
lemma fillColumns_none_eq_error_iff (h : ∀ d, p.delimiter? = some d → d.isDelimiter) {r : Row}
    (hr : r.width ≤ p.toTable.width) :
    r.fillColumns style (p.columns style fallback) none = .error fault ↔
      (fallback = .unset ∧ p.HasUnset r) ∧ fault = .noSide := by
  rw [Row.fillColumns_eq_error_iff]
  refine and_congr_left fun _ => ?_
  rw [exists_mem_zip_columns_iff hr (P := fun a => (none : Option Alignment).getD a = .unset)]
  simp only [Option.getD_none, Alignment.orElse_eq_unset_iff, declared_eq_unset_iff h, HasUnset]
  constructor
  · rintro ⟨column, hcolumn, hunset, hfallback⟩
    exact ⟨hfallback, column, hcolumn, hunset⟩
  · rintro ⟨hfallback, column, hcolumn, hunset⟩
    exact ⟨column, hcolumn, hunset, hfallback⟩

/-- A row whose cells all go to one side is refused exactly when it has a cell and the side is
none. -/
lemma fillColumns_some_eq_error_iff {r : Row} (hr : r.width ≤ p.toTable.width) {a : Alignment} :
    r.fillColumns style (p.columns style fallback) (some a) = .error fault ↔
      (a = .unset ∧ r.cells ≠ []) ∧ fault = .noSide := by
  rw [Row.fillColumns_eq_error_iff]
  refine and_congr_left fun _ => ?_
  rw [exists_mem_zip_columns_iff hr (P := fun b => (some a).getD b = .unset),
    ← List.length_pos_iff, ← Row.width]
  simp only [Option.getD_some]
  constructor
  · rintro ⟨column, hcolumn, ha⟩
    exact ⟨ha, Nat.zero_lt_of_lt hcolumn⟩
  · rintro ⟨ha, hpos⟩
    exact ⟨0, hpos, ha⟩

end Parts

end Table

/-! ## Settings -/

lemma Value.toAlignment_eq_error_iff {v : Value} {fault : Fault} :
    v.toAlignment = .error fault ↔ v.alignment? = none ∧ fault = .unknownAlignment v := by
  unfold toAlignment
  cases v.alignment? <;> simp [eq_comm]

lemma Value.toAlignment_eq_ok_iff {v : Value} {a : Alignment} :
    v.toAlignment = .ok a ↔ v.alignment? = some a := by
  unfold toAlignment
  cases v.alignment? <;> simp

namespace Style

variable {style : Style}

lemma headerOverride_eq_error_iff {fault : Fault} :
    style.headerOverride = .error fault ↔
      (style.headerAlignment.isFollow = false ∧ style.headerAlignment.alignment? = none) ∧
        fault = .unknownAlignment style.headerAlignment := by
  unfold headerOverride
  split
  · next hfollow => simp [hfollow]
  · next hfollow =>
    rw [bind_eq_error_iff_or (fun e => Value.toAlignment_eq_error_iff)
      fun a e => pure_eq_error_iff _ (.unknownAlignment style.headerAlignment) e, or_false]
    simp [hfollow]

lemma headerOverride_eq_ok_iff {override : Option Alignment} :
    style.headerOverride = .ok override ↔
      (style.headerAlignment.isFollow = true ∧ override = none) ∨
        (style.headerAlignment.isFollow = false ∧
          ∃ a, style.headerAlignment.alignment? = some a ∧ override = some a) := by
  unfold headerOverride
  split
  · next hfollow => simp [hfollow, eq_comm]
  · next hfollow =>
    rw [bind_eq_ok_iff]
    simp only [hfollow, Value.toAlignment_eq_ok_iff, Bool.false_eq_true, false_and, false_or,
      true_and]
    refine exists_congr fun a => and_congr_right fun _ => ?_
    exact ⟨fun h => (Except.ok.inj h).symm, fun h => h ▸ rfl⟩

end Style

/-! ## Formatting -/

namespace Table

/-- The parts of a table whose cells have to be filled: there are cells in the header, and the
layout is the normal one. -/
structure FilledIn (style : Style) (t : Table) (p : Parts) : Prop where
  layout_eq : style.layout.layout? = some .normal
  parts_eq : t.parts? = some p
  header_ne_nil : p.header.cells ≠ []

/-- Why a table is refused in a style.  Of several reasons the first one counts. -/
inductive RefusedFor (style : Style) (t : Table) : Fault → Prop
  /-- The layout is none, whatever the table. -/
  | layout (h : style.layout.layout? = none) : RefusedFor style t (.unknownLayout style.layout)
  /-- The default names no alignment. -/
  | default {p : Parts} (hp : t.FilledIn style p) (h : style.defaultAlignment.alignment? = none) :
      RefusedFor style t (.unknownAlignment style.defaultAlignment)
  /-- Header cells do not follow their columns, and no alignment is named for them. -/
  | header {p : Parts} (hp : t.FilledIn style p)
      (hdefault : style.defaultAlignment.alignment? ≠ none)
      (hfollow : style.headerAlignment.isFollow = false)
      (h : style.headerAlignment.alignment? = none) :
      RefusedFor style t (.unknownAlignment style.headerAlignment)
  /-- Header cells go to no side. -/
  | unsetHeader {p : Parts} (hp : t.FilledIn style p)
      (hdefault : style.defaultAlignment.alignment? ≠ none)
      (hfollow : style.headerAlignment.isFollow = false)
      (h : style.headerAlignment.alignment? = some .unset) : RefusedFor style t .noSide
  /-- The default is unset, and a cell needs it: one of the body, or one of a header whose cells
  follow their columns. -/
  | unsetDefault {p : Parts} (hp : t.FilledIn style p)
      (hdefault : style.defaultAlignment.alignment? = some .unset)
      (hheader : style.headerAlignment.isFollow = true ∨ style.headerAlignment.alignment? ≠ none)
      (h : style.headerAlignment.isFollow = true ∧ p.HasUnset p.header ∨
        ∃ r ∈ p.body, p.HasUnset r) : RefusedFor style t .noSide

variable {style : Style} {t : Table} {p : Parts} {fault : Fault}

namespace Parts

/-- A cell of the header has no side to go to: its column has none, or none is named for all cells
of the header at once. -/
def HeaderUnset (p : Parts) (fallback : Alignment) : Option Alignment → Prop
  | none => fallback = .unset ∧ p.HasUnset p.header
  | some a => a = .unset

section
variable (h : ∀ d, p.delimiter? = some d → d.isDelimiter)
include h

lemma fillHeader_eq_error_iff (hheader : p.header.cells ≠ []) (fallback : Alignment)
    (override : Option Alignment) (fault : Fault) :
    p.header.fillColumns style (p.columns style fallback) override = .error fault ↔
      p.HeaderUnset fallback override ∧ fault = .noSide := by
  cases override with
  | none => exact fillColumns_none_eq_error_iff h (width_le_of_mem (.inl rfl))
  | some a =>
    rw [fillColumns_some_eq_error_iff (width_le_of_mem (.inl rfl)), and_iff_left hheader,
      HeaderUnset]

lemma fillBody_eq_error_iff (fallback : Alignment) (fault : Fault) :
    p.body.mapM (fun r => r.fillColumns style (p.columns style fallback) none) = .error fault ↔
      (fallback = .unset ∧ ∃ r ∈ p.body, p.HasUnset r) ∧ fault = .noSide := by
  rw [mapM_eq_error_iff fun r hr e =>
    fillColumns_none_eq_error_iff h (width_le_of_mem (.inr (.inr hr)))]
  refine and_congr_left fun _ => ?_
  constructor
  · rintro ⟨r, hr, hfallback, hunset⟩
    exact ⟨hfallback, r, hr, hunset⟩
  · rintro ⟨hfallback, r, hr, hunset⟩
    exact ⟨r, hr, hfallback, hunset⟩

/-- In the normal layout the settings are looked at one after the other, and then the cells. -/
lemma formatNormal_eq_error_iff (hheader : p.header.cells ≠ []) :
    p.formatNormal style = .error fault ↔
      (style.defaultAlignment.alignment? = none ∧
        fault = .unknownAlignment style.defaultAlignment) ∨
      ∃ fallback, style.defaultAlignment.alignment? = some fallback ∧
        (style.headerOverride = .error fault ∨
          ∃ override, style.headerOverride = .ok override ∧
            (p.HeaderUnset fallback override ∨ fallback = .unset ∧ ∃ r ∈ p.body, p.HasUnset r) ∧
              fault = .noSide) := by
  unfold formatNormal
  rw [bind_eq_error_iff, Value.toAlignment_eq_error_iff]
  simp only [Value.toAlignment_eq_ok_iff]
  refine or_congr_right (exists_congr fun fallback => and_congr_right fun _ => ?_)
  rw [bind_eq_error_iff]
  refine or_congr_right (exists_congr fun override => and_congr_right fun _ => ?_)
  rw [bind_eq_error_iff_or (fillHeader_eq_error_iff h hheader fallback override) fun header e =>
    bind_eq_error_iff_or (fillBody_eq_error_iff h fallback) fun body e =>
      pure_eq_error_iff _ .noSide e, or_false]

end

end Parts

namespace FilledIn

/-- What parts are refused for is one of the reasons of the table. -/
lemma refusedFor_of_formatNormal (hp : t.FilledIn style p)
    (h : p.formatNormal style = .error fault) : t.RefusedFor style fault := by
  rw [Parts.formatNormal_eq_error_iff (fun d hd => isDelimiter_of_parts? hp.parts_eq hd)
    hp.header_ne_nil] at h
  rcases h with ⟨hdefault, rfl⟩ | ⟨fallback, hfallback, hrest⟩
  · exact .default hp hdefault
  have hdefault : style.defaultAlignment.alignment? ≠ none := by
    rw [hfallback]
    exact Option.some_ne_none _
  rcases hrest with hoverride | ⟨override, hoverride, hcells, rfl⟩
  · obtain ⟨⟨hfollow, hnone⟩, rfl⟩ := Style.headerOverride_eq_error_iff.1 hoverride
    exact .header hp hdefault hfollow hnone
  rcases Style.headerOverride_eq_ok_iff.1 hoverride with ⟨hfollow, rfl⟩ | ⟨hfollow, a, ha, rfl⟩
  · rcases hcells with ⟨rfl, hunset⟩ | ⟨rfl, hunset⟩
    · exact .unsetDefault hp hfallback (.inl hfollow) (.inl ⟨hfollow, hunset⟩)
    · exact .unsetDefault hp hfallback (.inl hfollow) (.inr hunset)
  · rcases hcells with rfl | ⟨rfl, hunset⟩
    · exact .unsetHeader hp hdefault hfollow ha
    · refine .unsetDefault hp hfallback (.inr ?_) (.inr hunset)
      rw [ha]
      exact Option.some_ne_none _

/-- The parts of a table are refused for each of its reasons. -/
lemma formatNormal_of_refusedFor (hp : t.FilledIn style p) (h : t.RefusedFor style fault) :
    p.formatNormal style = .error fault := by
  rw [Parts.formatNormal_eq_error_iff (fun d hd => isDelimiter_of_parts? hp.parts_eq hd)
    hp.header_ne_nil]
  cases h with
  | layout hnone => exact absurd (hp.layout_eq.symm.trans hnone) (Option.some_ne_none _)
  | default _ hnone => exact .inl ⟨hnone, rfl⟩
  | header _ hdefault hfollow hnone =>
    obtain ⟨fallback, hfallback⟩ := Option.ne_none_iff_exists'.1 hdefault
    have hoverride := Style.headerOverride_eq_error_iff.2 ⟨⟨hfollow, hnone⟩, rfl⟩
    exact .inr ⟨fallback, hfallback, .inl hoverride⟩
  | unsetHeader _ hdefault hfollow hunset =>
    obtain ⟨fallback, hfallback⟩ := Option.ne_none_iff_exists'.1 hdefault
    refine .inr ⟨fallback, hfallback, .inr ⟨some .unset, ?_, .inl rfl, rfl⟩⟩
    exact Style.headerOverride_eq_ok_iff.2 (.inr ⟨hfollow, _, hunset, rfl⟩)
  | unsetDefault hp' hdefault hheader hunset =>
    obtain rfl := Option.some.inj (hp.parts_eq.symm.trans hp'.parts_eq)
    refine .inr ⟨_, hdefault, .inr ?_⟩
    cases hfollow : style.headerAlignment.isFollow with
    | true =>
      refine ⟨none, Style.headerOverride_eq_ok_iff.2 (.inl ⟨hfollow, rfl⟩), ?_, rfl⟩
      rcases hunset with ⟨-, hunset⟩ | hunset
      · exact .inl ⟨rfl, hunset⟩
      · exact .inr ⟨rfl, hunset⟩
    | false =>
      rw [hfollow] at hheader hunset
      obtain ⟨a, ha⟩ := Option.ne_none_iff_exists'.1 (hheader.resolve_left Bool.false_ne_true)
      refine ⟨some a, Style.headerOverride_eq_ok_iff.2 (.inr ⟨hfollow, a, ha, rfl⟩), .inr ?_, rfl⟩
      exact ⟨rfl, hunset.resolve_left fun hfalse => Bool.false_ne_true hfalse.1⟩

lemma formatNormal_eq_error_iff (hp : t.FilledIn style p) :
    p.formatNormal style = .error fault ↔ t.RefusedFor style fault :=
  ⟨hp.refusedFor_of_formatNormal, hp.formatNormal_of_refusedFor⟩

end FilledIn

/-- Where there is a layout and no cell has to be filled, nothing is refused. -/
lemma exists_filledIn_of_format {layout : Layout} (hlayout : style.layout.layout? = some layout)
    (h : t.format style = .error fault) : ∃ p, t.FilledIn style p := by
  simp only [format, hlayout, formatIn] at h
  cases hp : t.parts? with
  | none =>
    rw [hp] at h
    cases h
  | some p =>
    rw [hp] at h
    dsimp only at h
    split at h
    · cases h
    · next hcells =>
      cases layout with
      | weak => cases h
      | normal => exact ⟨p, hlayout, hp, hcells⟩

/-- A table is refused for its reasons and for no other ones. -/
lemma format_eq_error_iff : t.format style = .error fault ↔ t.RefusedFor style fault := by
  by_cases hfilled : ∃ p, t.FilledIn style p
  · obtain ⟨p, hp⟩ := hfilled
    rw [← hp.formatNormal_eq_error_iff, format_eq hp.parts_eq hp.header_ne_nil, map_eq_error_iff,
      Parts.formatBy, hp.layout_eq]
    rfl
  · constructor
    · intro h
      cases hlayout : style.layout.layout? with
      | none =>
        simp only [format, hlayout, Except.error.injEq] at h
        exact h ▸ .layout hlayout
      | some layout => exact absurd (exists_filledIn_of_format hlayout h) hfilled
    · rintro (h | hp | hp | hp | hp)
      · simp [format, h]
      all_goals exact absurd ⟨_, hp⟩ hfilled

/-- With an unset default, a cell of the body behind the end of the delimiter row is enough. -/
example :
    (Table.mk [⟨[], [⟨"a".toList⟩], []⟩, ⟨[], [⟨":-".toList⟩], []⟩,
      ⟨[], [⟨"b".toList⟩, ⟨"c".toList⟩], []⟩]).format
        { Style.standard with defaultAlignment := .choice (.alignment .unset) } =
      .error .noSide := rfl

end Table

end PipeTable
