import PipeTable.Proofs.Delimiter

/-!
# What delimiter cells are read as

Reading a bar is the reverse of writing one: what is read as an alignment and some dashes is the bar
of these and nothing else (`ofText?_eq_some_iff`).  So the raw texts of delimiter cells are bars
with blanks around them (`Cell.isDelimiter_iff_isBar`), and the alignment can be told from the two
ends of the content alone (`Cell.alignment?_eq`).

The main statement, `isDelimiter_iff_holdsBar`, compares this with `delimiterText`, which writes
bars of any number of dashes and a space where there is no colon.
-/

namespace PipeTable

open Text

/-! ## Bars that are read -/

/-- What is read behind the first colon is dashes, at least one, and perhaps another colon. -/
lemma exists_of_ofBar? {before : Bool} {bar : Text} {d : Delimiter}
    (h : Delimiter.ofBar? before bar = some d) :
    0 < d.dashes ∧ ∃ after, d.alignment = .ofColons before after ∧
      bar = List.replicate d.dashes '-' ++ if after then [':'] else [] := by
  have hdashes : bar.takeWhile (· == '-') =
      List.replicate (bar.takeWhile (· == '-')).length '-' := by
    rw [List.eq_replicate_iff]
    refine ⟨rfl, fun c hc => ?_⟩
    simpa using List.mem_takeWhile_imp hc
  have hsplit := List.takeWhile_append_dropWhile (p := (· == '-')) (l := bar)
  rw [hdashes] at hsplit
  simp only [Delimiter.ofBar?] at h
  split at h
  · cases h
  · next hpos =>
    -- behind the dashes there is nothing, one colon, or what makes it no bar
    split at h
    · next hrest =>
      rw [hrest] at hsplit
      cases h
      exact ⟨Nat.pos_of_ne_zero hpos, false, rfl, hsplit.symm⟩
    · next hrest =>
      rw [hrest] at hsplit
      cases h
      exact ⟨Nat.pos_of_ne_zero hpos, true, rfl, hsplit.symm⟩
    · cases h

lemma barText_ofColons (before after : Bool) (dashes : Nat) :
    barText (.ofColons before after) dashes = (if before then [':'] else []) ++
      (List.replicate dashes '-' ++ if after then [':'] else []) := by
  rw [barText, Alignment.colonBefore_ofColons, Alignment.colonAfter_ofColons, List.append_assoc]

/-- A text is read as the bar that it is. -/
lemma ofText?_eq_some_iff {t : Text} {d : Delimiter} :
    Delimiter.ofText? t = some d ↔ 0 < d.dashes ∧ t = barText d.alignment d.dashes := by
  constructor
  · intro h
    unfold Delimiter.ofText? at h
    split at h
    · next bar =>
      obtain ⟨hpos, after, halignment, rfl⟩ := exists_of_ofBar? h
      exact ⟨hpos, by rw [halignment, barText_ofColons]; rfl⟩
    · obtain ⟨hpos, after, halignment, rfl⟩ := exists_of_ofBar? h
      exact ⟨hpos, by rw [halignment, barText_ofColons]; rfl⟩
  · rintro ⟨hpos, rfl⟩
    exact ofText?_barText d.alignment hpos

/-! ## The ends of a bar -/

lemma head?_barText (a : Alignment) {dashes : Nat} (h : 0 < dashes) :
    (barText a dashes).head? = some ':' ↔ a.colonBefore := by
  obtain ⟨n, rfl⟩ := Nat.exists_eq_succ_of_ne_zero (Nat.ne_of_gt h)
  cases hcolon : a.colonBefore <;> simp [barText, hcolon, List.replicate_succ]

lemma getLast?_barText (a : Alignment) {dashes : Nat} (h : 0 < dashes) :
    (barText a dashes).getLast? = some ':' ↔ a.colonAfter := by
  obtain ⟨n, rfl⟩ := Nat.exists_eq_succ_of_ne_zero (Nat.ne_of_gt h)
  cases hcolon : a.colonAfter <;> simp [barText, hcolon, List.replicate_succ']

/-! ## Cells -/

/-- Dashes, at least one, with or without a colon at either end, and blanks around them. -/
def Text.IsBar (t : Text) : Prop :=
  ∃ (l r : Text) (a : Alignment) (dashes : Nat),
    isBlank l ∧ isBlank r ∧ 0 < dashes ∧ t = l ++ barText a dashes ++ r

namespace Cell

variable {c : Cell} {a : Alignment} {dashes : Int}

/-- Trimmed, the cell is the bar that is written for an alignment and some dashes. -/
def HoldsBar (c : Cell) (a : Alignment) (dashes : Int) : Prop :=
  1 ≤ dashes ∧ c.content = (delimiterText a dashes).trim

lemma delimiter?_eq_some_iff {d : Delimiter} :
    c.delimiter? = some d ↔ 0 < d.dashes ∧ c.content = barText d.alignment d.dashes :=
  ofText?_eq_some_iff

lemma holdsBar_iff : c.HoldsBar a dashes ↔ 1 ≤ dashes ∧ c.delimiter? = some ⟨a, dashes.toNat⟩ := by
  rw [HoldsBar, delimiter?_eq_some_iff, trim_delimiterText]
  refine and_congr_right fun h => ?_
  have hpos : 0 < dashes.toNat := by omega
  exact (and_iff_right hpos).symm

lemma isDelimiter_iff_exists : c.isDelimiter ↔ ∃ d, c.delimiter? = some d :=
  Option.isSome_iff_exists

/-- The recogniser reads the content, and this is what it says of the raw text. -/
lemma isDelimiter_iff_isBar : c.isDelimiter ↔ IsBar c.raw := by
  rw [isDelimiter_iff_exists]
  constructor
  · rintro ⟨d, hd⟩
    obtain ⟨hpos, hcontent⟩ := delimiter?_eq_some_iff.1 hd
    obtain ⟨l, r, hl, hr, hraw⟩ := exists_trim c.raw
    refine ⟨l, r, d.alignment, d.dashes, hl, hr, hpos, ?_⟩
    rwa [← hcontent, content]
  · rintro ⟨l, r, a, dashes, hl, hr, hpos, hraw⟩
    refine ⟨⟨a, dashes⟩, delimiter?_eq_some_iff.2 ⟨hpos, ?_⟩⟩
    rw [content, hraw, trim_append_right hr, trim_append_left hl, trim_barText]

lemma isDelimiter_iff_exists_holdsBar : c.isDelimiter ↔ ∃ a dashes, c.HoldsBar a dashes := by
  rw [isDelimiter_iff_exists]
  constructor
  · rintro ⟨d, hd⟩
    have hpos := (delimiter?_eq_some_iff.1 hd).1
    exact ⟨d.alignment, d.dashes, holdsBar_iff.2 ⟨by omega, hd⟩⟩
  · rintro ⟨a, dashes, h⟩
    exact ⟨_, (holdsBar_iff.1 h).2⟩

lemma HoldsBar.alignment?_eq (h : c.HoldsBar a dashes) : c.alignment? = some a := by
  rw [alignment?, (holdsBar_iff.1 h).2, Option.map_some]

lemma HoldsBar.unique (h : c.HoldsBar a dashes) {a' : Alignment} {dashes' : Int}
    (h' : c.HoldsBar a' dashes') : a' = a ∧ dashes' = dashes := by
  obtain ⟨hpos, hd⟩ := holdsBar_iff.1 h
  obtain ⟨hpos', hd'⟩ := holdsBar_iff.1 h'
  rw [hd, Option.some.injEq, Delimiter.mk.injEq] at hd'
  obtain ⟨ha, hdashes⟩ := hd'
  exact ⟨ha.symm, by omega⟩

/-- The alignment of a delimiter cell is told from the ends of its content. -/
lemma alignment?_eq (c : Cell) :
    c.alignment? = if c.isDelimiter then
      some (.ofColons (c.content.head? = some ':') (c.content.getLast? = some ':')) else none := by
  cases hd : c.delimiter? with
  | none => rw [alignment?, isDelimiter, hd]; rfl
  | some d =>
    obtain ⟨hpos, hcontent⟩ := delimiter?_eq_some_iff.1 hd
    have hends : Alignment.ofColons (c.content.head? = some ':') (c.content.getLast? = some ':') =
        d.alignment := by
      simp only [hcontent, head?_barText _ hpos, getLast?_barText _ hpos, Bool.decide_eq_true,
        Alignment.ofColons_colons]
    rw [alignment?, isDelimiter, hd, hends]
    rfl

end Cell

/-- The delimiter cells are the cells whose raw text is a bar with blanks around it, and these are
the ones that hold the bar of an alignment and at least one dash.  They hold no other bar; the
alignment is the one that they declare, by the colons at the ends of their content; and other cells
declare none.  A bar that is written with at least one dash is such a cell, and one that is written
without dashes is not. -/
theorem isDelimiter_iff_holdsBar (c : Cell) :
    (c.isDelimiter ↔ IsBar c.raw) ∧
    (c.isDelimiter ↔ ∃ a dashes, c.HoldsBar a dashes) ∧
    (∀ a dashes, c.HoldsBar a dashes → c.alignment? = some a ∧
      ∀ a' dashes', c.HoldsBar a' dashes' → a' = a ∧ dashes' = dashes) ∧
    (c.alignment? = if c.isDelimiter then
      some (.ofColons (c.content.head? = some ':') (c.content.getLast? = some ':')) else none) ∧
    ∀ a dashes, ((Cell.mk (delimiterText a dashes)).isDelimiter ↔ 1 ≤ dashes) ∧
      (1 ≤ dashes → (Cell.mk (delimiterText a dashes)).alignment? = some a) := by
  refine ⟨Cell.isDelimiter_iff_isBar, Cell.isDelimiter_iff_exists_holdsBar, fun a dashes h => ?_,
    c.alignment?_eq, fun a dashes => ?_⟩
  · exact ⟨h.alignment?_eq, fun a' dashes' h' => h.unique h'⟩
  · exact ⟨Cell.isDelimiter_mk_delimiterText_iff a, Cell.alignment?_mk_delimiterText a⟩

/-- One dash with a colon behind it, between blanks of other kinds. -/
theorem isDelimiter_iff_holdsBar_right :
    (Cell.mk "\t-:\u3000".toList).HoldsBar (.to .right) 1 ∧
      (Cell.mk "\t-:\u3000".toList).alignment? = some (.to .right) ∧
      (Cell.mk " :---------- ".toList).alignment? = some (.to .left) := by
  have hbar : (Cell.mk "\t-:\u3000".toList).HoldsBar (.to .right) 1 := ⟨by decide, by decide⟩
  obtain ⟨-, -, halignment, -, hwritten⟩ := isDelimiter_iff_holdsBar ⟨"\t-:\u3000".toList⟩
  exact ⟨hbar, (halignment _ _ hbar).1, (hwritten (.to .left) 10).2 (by decide)⟩

end PipeTable
