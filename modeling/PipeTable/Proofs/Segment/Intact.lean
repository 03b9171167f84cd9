import Mathlib.Data.List.Forall2
import PipeTable.Proofs.Segment.CodeSpan

/-!
# Pieces that stay apart

A piece of a line is scanned in the company of what follows it: an open run of backticks in it may
be closed there.  `isWhole later` is what the scan of a piece has to do for the piece to be a
segment of its own: it meets no pipe that splits, it leaves no run open that a run `later` in the
line closes, and it ends with nothing held.  Pieces of which each is whole in front of the others
are `Intact`, and these are exactly the ones that stay apart when they are joined by pipes
(`segments_intercalate`, and the reverse `intact_segments`).

The reverse has one exception, which is why it is stated with a space behind each piece: at the end
of a line a backslash stands alone, and in front of a pipe it would escape that pipe.  A blank takes
this danger away, and it changes nothing else.  So blanks around the content of pieces can be
exchanged at will as long as one is left behind it (`Intact.repad`), which is what formatting does.

A piece that is whole although every run could be closed later is whole in any company, and these
are the pieces that stay apart from whatever follows their pipe (`isWhole_iff_segments`).
-/

namespace PipeTable.Segment

open Text

/-! ## Whole pieces -/

/-- Whether a piece of a line, of which the first `held` characters are kept as they are, is scanned
to its end without a pipe that splits, without holding what comes after it, and without a run of
backticks that stays open although a run of its size stands `later` in the line. -/
def isWhole (later : Nat → Bool) : (held : Nat) → Text → Bool
  | held, [] => held == 0
  | held + 1, _ :: rest => isWhole later held rest
  | 0, c :: rest =>
    c != pipe && !(c == backtick && spanLength rest == 0 && later (openerSize rest)) &&
      isWhole later (heldBy c rest) rest

section
variable {later : Nat → Bool}

lemma isWhole_zero_cons {c : Char} {rest : Text} :
    isWhole later 0 (c :: rest) ↔
      c ≠ pipe ∧ (c = backtick → spanLength rest = 0 → later (openerSize rest) = false) ∧
        isWhole later (heldBy c rest) rest := by
  simp only [isWhole, Bool.and_eq_true, bne_iff_ne, ne_eq, Bool.not_eq_true', Bool.and_eq_false_iff,
    beq_eq_false_iff_ne, and_assoc]
  constructor
  · rintro ⟨hc, hopen, hrest⟩
    refine ⟨hc, fun hb hs => ?_, hrest⟩
    rcases hopen with (h | h) | h
    · exact absurd hb h
    · exact absurd hs h
    · exact h
  · rintro ⟨hc, hopen, hrest⟩
    refine ⟨hc, ?_, hrest⟩
    by_cases hb : c = backtick
    · by_cases hs : spanLength rest = 0
      · exact .inr (hopen hb hs)
      · exact .inl (.inr hs)
    · exact .inl (.inl hb)

/-- A whole piece is at least as long as what is held of it. -/
lemma held_le_of_isWhole {held : Nat} {t : Text} (h : isWhole later held t) : held ≤ t.length := by
  induction t generalizing held with
  | nil => simpa [isWhole] using h
  | cons c t ih =>
    cases held with
    | zero => exact Nat.zero_le _
    | succ held => exact Nat.succ_le_succ (ih h)

/-- Fewer runs later in the line close fewer open ones. -/
lemma isWhole_mono {later' : Nat → Bool} (hle : ∀ size, 0 < size → later' size → later size)
    {held : Nat} {t : Text} (h : isWhole later held t) : isWhole later' held t := by
  induction t generalizing held with
  | nil => exact h
  | cons c t ih =>
    cases held with
    | succ held =>
      rw [isWhole] at h ⊢
      exact ih h
    | zero =>
      obtain ⟨hc, hopen, hrest⟩ := isWhole_zero_cons.1 h
      refine isWhole_zero_cons.2 ⟨hc, fun hb hs => ?_, ih hrest⟩
      by_contra hlater
      have hsize : later (openerSize t) = true :=
        hle _ (Nat.succ_pos _) (Bool.not_eq_false _ ▸ hlater)
      rw [hopen hb hs] at hsize
      cases hsize

/-! ## Plain texts -/

/-- A text without characters that have a meaning of their own. -/
def IsPlain (t : Text) : Prop := ∀ c ∈ t, isMarkup c = false

lemma isMarkup_eq_false {c : Char} :
    isMarkup c = false ↔ c ≠ pipe ∧ c ≠ backslash ∧ c ≠ backtick := by
  simp [isMarkup, and_assoc]

lemma isPlain_nil : IsPlain [] := fun _ hc => absurd hc List.not_mem_nil

lemma IsPlain.ne_backtick {t : Text} (h : IsPlain t) : ∀ c ∈ t, c ≠ backtick :=
  fun c hc => (isMarkup_eq_false.1 (h c hc)).2.2

lemma isPlain_of_isBlank {t : Text} (h : t.isBlank) : IsPlain t := by
  intro c hc
  have hblank := isBlank_iff.1 h c hc
  rw [isMarkup_eq_false]
  refine ⟨?_, ?_, ?_⟩ <;> rintro rfl <;> revert hblank <;> decide

lemma heldBy_of_not_isMarkup {c : Char} (h : isMarkup c = false) (rest : Text) :
    heldBy c rest = 0 := by
  obtain ⟨-, hslash, htick⟩ := isMarkup_eq_false.1 h
  simp [heldBy, hslash, htick]

/-- Plain text in front of a piece is scanned character by character. -/
lemma isWhole_append_left {l : Text} (hl : IsPlain l) (t : Text) :
    isWhole later 0 (l ++ t) = isWhole later 0 t := by
  induction l with
  | nil => rfl
  | cons c l ih =>
    have hc := hl c List.mem_cons_self
    obtain ⟨hpipe, -, htick⟩ := isMarkup_eq_false.1 hc
    have hl' : IsPlain l := fun d hd => hl d (List.mem_cons_of_mem c hd)
    simp [isWhole, hpipe, htick, heldBy_of_not_isMarkup hc, ih hl']

lemma IsPlain.isWhole {t : Text} (h : IsPlain t) : isWhole later 0 t := by
  have happend : Segment.isWhole later 0 (t ++ []) = Segment.isWhole later 0 [] :=
    isWhole_append_left h []
  rw [List.append_nil] at happend
  rw [happend]
  rfl

/-! ## Text behind a piece -/

lemma heldBy_le (c : Char) (rest : Text) : heldBy c rest ≤ rest.length + 1 := by
  have hspan := spanLength_le rest
  unfold heldBy
  split
  · omega
  · split <;> omega

lemma heldBy_append {c d : Char} (t u : Text) (hd : d ≠ backtick)
    (h : c = backtick → spanLength t ≠ 0 ∨ closes (openerSize t) u = false) :
    heldBy c (t ++ d :: u) = heldBy c t := by
  unfold heldBy
  split
  · rfl
  · split
    · next hc => exact spanLength_append t u hd (h hc)
    · rfl

/-- A character that ends a run and a plain text may stand behind any piece: it holds the first of
them if a backslash precedes, and nothing otherwise. -/
lemma isWhole_append_plain {held : Nat} {t u : Text} {d : Char} (hheld : held ≤ t.length + 1)
    (hd : isMarkup d = false) (hu : IsPlain u) :
    isWhole later held (t ++ d :: u) = isWhole later held (t ++ [' ']) := by
  have hclosed (size : Nat) (hsize : 0 < size) (v : Text) (hv : IsPlain v) :
      closes size v = false := closes_eq_false hsize hv.ne_backtick
  have htick : d ≠ backtick := (isMarkup_eq_false.1 hd).2.2
  have hspace : ' ' ≠ backtick := by decide
  induction t generalizing held with
  | nil =>
    have hplain : IsPlain (d :: u) := by
      intro c hc
      rcases List.mem_cons.1 hc with rfl | hc
      · exact hd
      · exact hu c hc
    -- at most the first character is held, and both texts are plain
    cases held with
    | zero =>
      rw [List.nil_append, List.nil_append, hplain.isWhole]
      rfl
    | succ held =>
      have hzero : held = 0 := by simpa using hheld
      subst hzero
      rw [List.nil_append, List.nil_append, isWhole, hu.isWhole]
      rfl
  | cons c t ih =>
    cases held with
    | succ held =>
      have hheld' : held ≤ t.length + 1 := Nat.succ_le_succ_iff.1 hheld
      rw [List.cons_append, List.cons_append, isWhole, isWhole]
      exact ih hheld'
    | zero =>
      have hsize : 0 < openerSize t := Nat.succ_pos _
      have hu' : heldBy c (t ++ d :: u) = heldBy c t :=
        heldBy_append t u htick fun _ => .inr (hclosed _ hsize u hu)
      have hs' : heldBy c (t ++ [' ']) = heldBy c t :=
        heldBy_append t [] hspace fun _ => .inr (closes_nil hsize)
      have hspan : spanLength (t ++ d :: u) = spanLength (t ++ [' ']) := by
        rw [spanLength_append t u htick (.inr (hclosed _ hsize u hu)),
          spanLength_append t [] hspace (.inr (closes_nil hsize))]
      simp only [List.cons_append, isWhole, hu', hs', hspan, ih (heldBy_le c t),
        openerSize_append t u htick, openerSize_append t [] hspace]

/-- A whole piece stays whole with a space behind it. -/
lemma isWhole_append_space {held : Nat} {t : Text} (h : isWhole later held t) :
    isWhole later held (t ++ [' ']) := by
  induction t generalizing held with
  | nil =>
    have hzero : held = 0 := by simpa [isWhole] using h
    subst hzero
    rfl
  | cons c t ih =>
    cases held with
    | succ held =>
      rw [isWhole] at h
      rw [List.cons_append, isWhole]
      exact ih h
    | zero =>
      have hspace : ' ' ≠ backtick := by decide
      have hsize : 0 < openerSize t := Nat.succ_pos _
      obtain ⟨hc, hopen, hrest⟩ := isWhole_zero_cons.1 h
      rw [List.cons_append, isWhole_zero_cons, openerSize_append t [] hspace,
        spanLength_append t [] hspace (.inr (closes_nil hsize)),
        heldBy_append t [] hspace fun _ => .inr (closes_nil hsize)]
      exact ⟨hc, hopen, ih hrest⟩

/-- The blanks around the content of a piece may be exchanged, as long as one is left behind it. -/
lemma isWhole_repad {t u : Text} (h : isWhole later 0 (t ++ [' '])) (hu : Repads t u) :
    isWhole later 0 u := by
  obtain ⟨l, r, hl, hr, ht⟩ := exists_trim t
  obtain ⟨l', r', hl', hr', -, hne, rfl⟩ := hu
  obtain ⟨d, r', rfl⟩ := List.exists_cons_of_ne_nil hne
  have hdr := isPlain_of_isBlank hr'
  have hd : isMarkup d = false := hdr d List.mem_cons_self
  have hplain : IsPlain r' := fun c hc => hdr c (List.mem_cons_of_mem d hc)
  have hcontent : isWhole later 0 (t.trim ++ [' ']) := by
    -- what stands behind the content of `t` is blank, and so is its beginning
    rw [ht, List.append_assoc, List.append_assoc,
      isWhole_append_left (isPlain_of_isBlank hl)] at h
    cases r with
    | nil => exact h
    | cons b r =>
      have hbr := isPlain_of_isBlank hr
      have hrest : IsPlain (r ++ [' ']) := by
        intro c hc
        rcases List.mem_append.1 hc with hc | hc
        · exact hbr c (List.mem_cons_of_mem b hc)
        · rw [List.mem_singleton.1 hc]
          decide
      rwa [List.cons_append, isWhole_append_plain (Nat.zero_le _) (hbr b List.mem_cons_self)
        hrest] at h
  rw [List.append_assoc, isWhole_append_left (isPlain_of_isBlank hl'),
    isWhole_append_plain (Nat.zero_le _) hd hplain]
  exact hcontent

end

/-! ## Splitting at the end of a whole piece -/

lemma splitFrom_append_pipe {held : Nat} {t u : Text} (h : isWhole (closes · u) held t) :
    splitFrom held (t ++ pipe :: u) = t :: splitFrom 0 u := by
  have htick : pipe ≠ backtick := by decide
  induction t generalizing held with
  | nil =>
    have hzero : held = 0 := by simpa [isWhole] using h
    subst hzero
    simp [splitFrom]
  | cons c t ih =>
    cases held with
    | succ held =>
      rw [isWhole] at h
      rw [List.cons_append, splitFrom, ih h]
      rfl
    | zero =>
      obtain ⟨hc, hopen, hrest⟩ := isWhole_zero_cons.1 h
      have hheld : heldBy c (t ++ pipe :: u) = heldBy c t := by
        refine heldBy_append t u htick ?_
        intro hb
        by_cases hs : spanLength t = 0
        · exact .inr (hopen hb hs)
        · exact .inl hs
      rw [List.cons_append, splitFrom, if_neg hc, hheld, ih hrest]
      rfl

lemma splitFrom_of_isWhole {later : Nat → Bool} {held : Nat} {t : Text}
    (h : isWhole later held t) : splitFrom held t = [t] := by
  induction t generalizing held with
  | nil => simp [splitFrom]
  | cons c t ih =>
    cases held with
    | succ held =>
      rw [isWhole] at h
      rw [splitFrom, ih h]
      rfl
    | zero =>
      obtain ⟨hc, -, hrest⟩ := isWhole_zero_cons.1 h
      rw [splitFrom, if_neg hc, ih hrest]
      rfl

/-- A line is a single segment, or its first one is a whole piece that ends at a pipe.  A single
segment is whole but for a backslash at its end. -/
lemma splitFrom_cases {held : Nat} {line : Text} (hheld : held ≤ line.length + 1) :
    (splitFrom held line = [line] ∧ isWhole (fun _ => false) held (line ++ [' '])) ∨
      ∃ t u, line = t ++ pipe :: u ∧ splitFrom held line = t :: splitFrom 0 u ∧
        isWhole (closes · u) held t := by
  have htick : pipe ≠ backtick := by decide
  have hspace : ' ' ≠ backtick := by decide
  induction line generalizing held with
  | nil =>
    left
    refine ⟨by simp [splitFrom], ?_⟩
    have hheld' : held = 0 ∨ held = 1 := by
      simp only [List.length_nil] at hheld
      omega
    rcases hheld' with rfl | rfl <;> rfl
  | cons c rest ih =>
    cases held with
    | succ held =>
      have hheld' : held ≤ rest.length + 1 := Nat.succ_le_succ_iff.1 hheld
      rcases ih hheld' with ⟨hsplit, hwhole⟩ | ⟨t, u, rfl, hsplit, hwhole⟩
      · exact .inl ⟨by rw [splitFrom, hsplit]; rfl, hwhole⟩
      · exact .inr ⟨c :: t, u, rfl, by rw [splitFrom, hsplit]; rfl, hwhole⟩
    | zero =>
      by_cases hc : c = pipe
      · subst hc
        exact .inr ⟨[], rest, rfl, by simp [splitFrom], rfl⟩
      · have hsize : 0 < openerSize rest := Nat.succ_pos _
        rcases ih (heldBy_le c rest) with ⟨hsplit, hwhole⟩ | ⟨t, u, rfl, hsplit, hwhole⟩
        · refine .inl ⟨by rw [splitFrom, if_neg hc, hsplit]; rfl, ?_⟩
          rw [List.cons_append, isWhole_zero_cons,
            heldBy_append rest [] hspace fun _ => .inr (closes_nil hsize)]
          exact ⟨hc, fun _ _ => rfl, hwhole⟩
        · -- a run in `t` that `u` closes would hold the pipe between them
          have hopen : c = backtick → spanLength t = 0 → closes (openerSize t) u = false := by
            intro hb hs
            by_contra hcloses
            have hlt := lt_spanLength_append t u htick hs (Bool.not_eq_false _ ▸ hcloses)
            have hle := held_le_of_isWhole hwhole
            have hslash : backtick ≠ backslash := by decide
            rw [hb, heldBy, if_neg hslash, if_pos rfl] at hle
            omega
          have hheld' : heldBy c (t ++ pipe :: u) = heldBy c t := by
            refine heldBy_append t u htick ?_
            intro hb
            by_cases hs : spanLength t = 0
            · exact .inr (hopen hb hs)
            · exact .inl hs
          refine .inr ⟨c :: t, u, rfl, by rw [splitFrom, if_neg hc, hsplit]; rfl, ?_⟩
          rw [hheld'] at hwhole
          exact isWhole_zero_cons.2 ⟨hc, hopen, hwhole⟩

/-! ## Pieces that are whole in any company -/

lemma modifyHead_cons_eq_iff {c : Char} {ps rest : List Text} {t : Text} :
    ps.modifyHead (c :: ·) = (c :: t) :: rest ↔ ps = t :: rest := by
  cases ps <;> simp

/-- A pipe that is held is no end of a piece. -/
lemma splitFrom_append_ne {held : Nat} {t : Text} (h : t.length < held) (u : Text)
    (rest : List Text) : splitFrom held (t ++ pipe :: u) ≠ t :: rest := by
  induction t generalizing held with
  | nil =>
    obtain ⟨n, rfl⟩ := Nat.exists_eq_succ_of_ne_zero (Nat.ne_of_gt h)
    obtain ⟨p, ps, hp⟩ := List.exists_cons_of_ne_nil (splitFrom_ne_nil n u)
    rw [List.nil_append, splitFrom, hp]
    simp
  | cons c t ih =>
    cases held with
    | zero => exact absurd h (Nat.not_lt_zero _)
    | succ held =>
      rw [List.cons_append, splitFrom, Ne, modifyHead_cons_eq_iff]
      exact ih (Nat.lt_of_succ_lt_succ h)

lemma isWhole_of_splitFrom {held : Nat} {t : Text}
    (h : ∀ u, splitFrom held (t ++ pipe :: u) = t :: splitFrom 0 u) :
    isWhole (fun _ => true) held t := by
  have htick : pipe ≠ backtick := by decide
  induction t generalizing held with
  | nil =>
    cases held with
    | zero => rfl
    | succ held => exact absurd (h []) (splitFrom_append_ne (Nat.succ_pos held) [] _)
  | cons c t ih =>
    cases held with
    | succ held =>
      rw [isWhole]
      refine ih ?_
      intro u
      have hu := h u
      rwa [List.cons_append, splitFrom, modifyHead_cons_eq_iff] at hu
    | zero =>
      have hc : c ≠ pipe := by
        rintro rfl
        have hu := h []
        simp [splitFrom] at hu
      have hsplit (u : Text) :
          splitFrom (heldBy c (t ++ pipe :: u)) (t ++ pipe :: u) = t :: splitFrom 0 u := by
        have hu := h u
        rwa [List.cons_append, splitFrom, if_neg hc, modifyHead_cons_eq_iff] at hu
      -- a run that nothing closes would be closed by a run behind the pipe
      have hopen : c = backtick → spanLength t ≠ 0 := by
        intro hb hs
        have hlt := lt_spanLength_append t _ htick hs (closes_replicate (openerSize t))
        have hslash : backtick ≠ backslash := by decide
        have hheld : t.length < heldBy c (t ++ pipe :: List.replicate (openerSize t) backtick) := by
          rw [heldBy, hb, if_neg hslash, if_pos rfl]
          exact hlt
        exact splitFrom_append_ne hheld _ _ (hsplit _)
      refine isWhole_zero_cons.2 ⟨hc, fun hb hs => absurd hs (hopen hb), ih ?_⟩
      intro u
      have hu := hsplit u
      rwa [heldBy_append t u htick fun hb => .inl (hopen hb)] at hu

/-- The pieces that are whole in any company are those that stay apart from whatever follows. -/
lemma isWhole_iff_segments {t : Text} :
    isWhole (fun _ => true) 0 t ↔ ∀ u, segments (t ++ pipe :: u) = t :: segments u := by
  constructor
  · exact fun h u => splitFrom_append_pipe (isWhole_mono (fun _ _ _ => rfl) h)
  · exact isWhole_of_splitFrom

/-! ## Intact pieces -/

/-- Pieces of which each is whole in front of those after it. -/
def Intact : List Text → Prop
  | [] => True
  | t :: rest => isWhole (fun size => rest.any (closes size)) 0 t ∧ Intact rest

/-- The runs that a line closes are those that its pieces close. -/
lemma closes_intercalate {size : Nat} (h : 0 < size) (ps : List Text) :
    closes size (List.intercalate [pipe] ps) = ps.any (closes size) := by
  have htick : pipe ≠ backtick := by decide
  induction ps with
  | nil => exact closes_nil h
  | cons t ps ih =>
    cases ps with
    | nil => simp
    | cons u ps =>
      rw [List.intercalate_cons_cons, List.append_assoc, List.singleton_append,
        closes_append size t _ htick, ih]
      rfl

/-- Intact pieces come back when they are joined by pipes and split again. -/
lemma segments_intercalate {ps : List Text} (h : Intact ps) (hne : ps ≠ []) :
    segments (List.intercalate [pipe] ps) = ps := by
  induction ps with
  | nil => exact absurd rfl hne
  | cons t ps ih =>
    cases ps with
    | nil =>
      rw [List.intercalate_singleton]
      exact splitFrom_of_isWhole h.1
    | cons u ps =>
      have hwhole : isWhole (closes · (List.intercalate [pipe] (u :: ps))) 0 t := by
        refine isWhole_mono (fun size hsize hcloses => ?_) h.1
        rwa [closes_intercalate hsize] at hcloses
      rw [List.intercalate_cons_cons, List.append_assoc, List.singleton_append, segments,
        splitFrom_append_pipe hwhole, ← segments, ih h.2 (List.cons_ne_nil u ps)]

lemma closes_append_space {size : Nat} (h : 0 < size) (t : Text) :
    closes size (t ++ [' ']) = closes size t := by
  refine closes_append_right h t ?_
  intro c hc
  rw [List.mem_singleton.1 hc]
  decide

/-- The segments of a line are intact but for a backslash at the end of the last one. -/
lemma intact_segments (line : Text) : Intact ((segments line).map (· ++ [' '])) := by
  induction hn : line.length using Nat.strong_induction_on generalizing line with
  | _ n ih =>
    rcases splitFrom_cases (Nat.zero_le (line.length + 1)) with
      ⟨hsplit, hwhole⟩ | ⟨t, u, rfl, hsplit, hwhole⟩
    · rw [segments, hsplit]
      exact ⟨hwhole, trivial⟩
    · have hlt : u.length < n := by
        rw [← hn, List.length_append, List.length_cons]
        omega
      rw [segments, hsplit, List.map_cons, ← segments]
      refine ⟨isWhole_append_space (isWhole_mono (fun size hsize hlater => ?_) hwhole),
        ih _ hlt u rfl⟩
      rw [List.any_map] at hlater
      have hany : (segments u).any (closes size) = true := by
        rw [← hlater]
        congr 1
        funext s
        exact (closes_append_space hsize s).symm
      rwa [← closes_intercalate hsize, join_segments] at hany

namespace Intact

lemma of_append_left {ps qs : List Text} (h : Intact (ps ++ qs)) : Intact ps := by
  induction ps with
  | nil => trivial
  | cons t ps ih =>
    rw [List.cons_append] at h
    refine ⟨isWhole_mono (fun size _ hlater => ?_) h.1, ih h.2⟩
    rw [List.any_append, hlater, Bool.true_or]

lemma cons_plain {t : Text} (ht : IsPlain t) {ps : List Text} (h : Intact ps) :
    Intact (t :: ps) :=
  ⟨ht.isWhole, h⟩

lemma of_isPlain {qs : List Text} (hqs : ∀ q ∈ qs, IsPlain q) : Intact qs := by
  induction qs with
  | nil => trivial
  | cons q qs ih =>
    exact cons_plain (hqs q List.mem_cons_self)
      (ih fun p hp => hqs p (List.mem_cons_of_mem q hp))

/-- Plain pieces close no run, so they may be added behind others. -/
lemma append_plain {ps qs : List Text} (h : Intact ps) (hqs : ∀ q ∈ qs, IsPlain q) :
    Intact (ps ++ qs) := by
  induction ps with
  | nil => exact of_isPlain hqs
  | cons t ps ih =>
    rw [List.cons_append]
    refine ⟨isWhole_mono (fun size hsize hlater => ?_) h.1, ih h.2⟩
    have hnone : qs.any (closes size) = false := by
      rw [List.any_eq_false]
      intro q hq
      rw [closes_eq_false hsize (hqs q hq).ne_backtick]
      exact Bool.false_ne_true
    rwa [List.any_append, hnone, Bool.or_false] at hlater

/-- Other blanks around the contents of pieces keep them apart. -/
lemma repad {ts us : List Text} (h : Intact (ts.map (· ++ [' '])))
    (hu : List.Forall₂ Repads ts us) : Intact us := by
  have hcloses {size : Nat} (hsize : 0 < size) {t u : Text} (hrepads : Repads t u) :
      closes size u = closes size t := by
    obtain ⟨l, r, hl, hr, ht⟩ := exists_trim t
    obtain ⟨l', r', hl', hr', -, -, rfl⟩ := hrepads
    conv_rhs => rw [ht]
    rw [List.append_assoc, List.append_assoc,
      closes_append_left hsize (isPlain_of_isBlank hl').ne_backtick,
      closes_append_right hsize _ (isPlain_of_isBlank hr').ne_backtick,
      closes_append_left hsize (isPlain_of_isBlank hl).ne_backtick,
      closes_append_right hsize _ (isPlain_of_isBlank hr).ne_backtick]
  have hany {size : Nat} (hsize : 0 < size) {ts us : List Text} (hus : List.Forall₂ Repads ts us) :
      us.any (closes size) = (ts.map (· ++ [' '])).any (closes size) := by
    induction hus with
    | nil => rfl
    | cons htu _ ih =>
      rw [List.any_cons, List.map_cons, List.any_cons, ih, hcloses hsize htu,
        closes_append_space hsize]
  induction hu with
  | nil => trivial
  | cons htu hus ih =>
    refine ⟨isWhole_repad (isWhole_mono (fun size hsize hlater => ?_) h.1) htu, ih h.2⟩
    rwa [← hany hsize hus]

/-- Pieces that no run of backticks can do anything to are intact in any company. -/
lemma of_isWhole {ps : List Text} (h : ∀ t ∈ ps, isWhole (fun _ => true) 0 t) : Intact ps := by
  induction ps with
  | nil => trivial
  | cons t ps ih =>
    exact ⟨isWhole_mono (fun _ _ _ => rfl) (h t List.mem_cons_self),
      ih fun u hu => h u (List.mem_cons_of_mem t hu)⟩

end Intact

end PipeTable.Segment
