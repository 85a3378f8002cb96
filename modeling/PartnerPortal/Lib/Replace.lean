import Mathlib.Tactic.Common
import Mathlib.Data.List.Infix

/-!
# Replacing a pattern

Every occurrence of a pattern in a list replaced by another list, the leftmost first and none
overlapping.

Results:
- `intercalate_pieces` — the list falls into pieces without the pattern, which stay;
- `replaceAll_intercalate` — what keeps apart from a pattern is not touched when it is replaced;
- `infix_replaceAll` — what is found in the result and keeps apart from the replacement was found
  before, and holds no pattern;
- `Apart.infix_take_iff` — what keeps apart from what stands between pieces is found in one of them.
-/

namespace Replace

variable {α : Type*}

/-- A list that can neither lie in another nor reach into it from either side. -/
structure Apart (mark w : List α) : Prop where
  not_inside : ¬ w <:+: mark
  not_around : ¬ mark <:+: w
  not_before : ∀ u, u ≠ [] → u <:+ w → ¬ u <+: mark
  not_after : ∀ u, u ≠ [] → u <+: w → ¬ u <:+ mark

/-- What keeps apart from the middle of a list lies on one side of it. -/
theorem Apart.infix_append {mark w a b : List α} (h : Apart mark w)
    (hw : w <:+: a ++ (mark ++ b)) : w <:+: a ∨ w <:+: b := by
  rcases List.infix_append_iff_ne_nil.1 hw with ha | hrest | ⟨l, r, hl, hr, rfl, hla, hrb⟩
  · exact Or.inl ha
  · rcases List.infix_append_iff_ne_nil.1 hrest with hm | hb | ⟨l, r, hl, hr, rfl, hlm, hrb⟩
    · exact absurd hm h.not_inside
    · exact Or.inr hb
    · exact absurd hlm (h.not_after l hl (List.prefix_append l r))
  · rcases List.prefix_or_prefix_of_prefix hrb (List.prefix_append mark b) with hm | hm
    · exact absurd hm (h.not_before r hr (List.suffix_append l r))
    · exact absurd (hm.isInfix.trans (List.suffix_append l r).isInfix) h.not_around

theorem Apart.ne_nil {mark w : List α} (h : Apart mark w) : w ≠ [] := by
  rintro rfl
  exact h.not_inside List.nil_prefix.isInfix

/-- What keeps apart from a list, the start of which ends another, lies before that start. -/
theorem Apart.infix_append_prefix {mark w a u : List α} (h : Apart mark w) (hu : u <+: mark)
    (hw : w <:+: a ++ u) : w <:+: a := by
  rcases List.infix_append_iff_ne_nil.1 hw with ha | hinside | ⟨l, r, hl, hr, rfl, hla, hru⟩
  · exact ha
  · exact absurd (hinside.trans hu.isInfix) h.not_inside
  · exact absurd (hru.trans hu) (h.not_before r hr (List.suffix_append l r))

/-- What keeps apart from the end of a list lies before it. -/
theorem Apart.infix_append_right {mark w a : List α} (h : Apart mark w)
    (hw : w <:+: a ++ mark) : w <:+: a :=
  h.infix_append_prefix List.prefix_rfl hw

/-! ## Something between pieces -/

theorem infix_intercalate {sep piece : List α} {list : List (List α)} (h : piece ∈ list) :
    piece <:+: sep.intercalate list := by
  induction list with
  | nil => exact absurd h List.not_mem_nil
  | cons first others ih =>
    cases others with
    | nil =>
      rw [List.mem_singleton.1 h, List.intercalate_singleton]
    | cons second others =>
      rw [List.intercalate_cons_cons, List.append_assoc]
      rcases List.mem_cons.1 h with rfl | h
      · exact (List.prefix_append _ _).isInfix
      · refine (ih h).trans ?_
        rw [← List.append_assoc]
        exact (List.suffix_append _ _).isInfix

theorem intercalate_append {sep : List α} {front back : List (List α)} (hfront : front ≠ [])
    (hback : back ≠ []) :
    sep.intercalate (front ++ back) = sep.intercalate front ++ (sep ++ sep.intercalate back) := by
  induction front with
  | nil => exact absurd rfl hfront
  | cons first others ih =>
    cases others with
    | nil =>
      rw [List.singleton_append, List.intercalate_cons_of_ne_nil hback, List.intercalate_singleton,
        List.append_assoc]
    | cons second others =>
      rw [List.cons_append, List.intercalate_cons_of_ne_nil (by simp), ih (List.cons_ne_nil _ _),
        List.intercalate_cons_cons]
      simp only [List.append_assoc]

/-- What keeps apart from what stands between pieces is found in one of them. -/
theorem Apart.infix_intercalate_iff {mark w : List α} (h : Apart mark w) (list : List (List α)) :
    w <:+: mark.intercalate list ↔ ∃ piece ∈ list, w <:+: piece := by
  constructor
  · intro hw
    induction list with
    | nil => exact absurd (List.infix_nil.1 hw) h.ne_nil
    | cons first others ih =>
      cases others with
      | nil => exact ⟨first, List.mem_cons_self, by rwa [List.intercalate_singleton] at hw⟩
      | cons second others =>
        rw [List.intercalate_cons_cons, List.append_assoc] at hw
        rcases h.infix_append hw with hw | hw
        · exact ⟨first, List.mem_cons_self, hw⟩
        · obtain ⟨piece, hmem, hw⟩ := ih hw
          exact ⟨piece, List.mem_cons_of_mem first hmem, hw⟩
  · rintro ⟨piece, hmem, hw⟩
    exact hw.trans (infix_intercalate hmem)

/-- As far as there is room, the pieces that a list is made of when something of that length stands
between them. -/
def takePieces (between : Nat) : Nat → List (List α) → List (List α)
  | _, [] => []
  | room, piece :: others =>
    piece.take room :: takePieces between (room - piece.length - between) others

/-- What keeps apart from what stands between pieces is found in the start of a list exactly when it
is found in what the start holds of a piece. -/
theorem Apart.infix_take_iff {mark w : List α} (h : Apart mark w) (room : Nat)
    (list : List (List α)) :
    w <:+: (mark.intercalate list).take room ↔
      ∃ piece ∈ takePieces mark.length room list, w <:+: piece := by
  induction list generalizing room with
  | nil => simp [takePieces, h.ne_nil]
  | cons first others ih =>
    cases others with
    | nil => simp [takePieces]
    | cons second others =>
      rw [List.intercalate_cons_cons, List.append_assoc, List.take_append, List.take_append, takePieces,
        List.exists_mem_cons_iff, ← ih]
      constructor
      · intro hw
        rcases Nat.le_total mark.length (room - first.length) with hwhole | hpart
        · rw [List.take_of_length_le hwhole] at hw
          exact h.infix_append hw
        · rw [Nat.sub_eq_zero_of_le hpart, List.take_zero, List.append_nil] at hw
          exact Or.inl (h.infix_append_prefix (List.take_prefix _ _) hw)
      · rintro (hw | hw)
        · exact hw.trans (List.prefix_append _ _).isInfix
        · refine hw.trans ?_
          rw [← List.append_assoc]
          exact (List.suffix_append _ _).isInfix

/-! ## Replacing -/

variable [DecidableEq α]

instance (mark w : List α) : Decidable (Apart mark w) :=
  decidable_of_iff
    ((¬ w <:+: mark ∧ ¬ mark <:+: w) ∧ (∀ u ∈ w.tails, u ≠ [] → ¬ u <+: mark) ∧
      ∀ u ∈ w.inits, u ≠ [] → ¬ u <:+ mark)
    ⟨fun ⟨⟨hinside, haround⟩, hbefore, hafter⟩ => ⟨hinside, haround,
        fun u hne hu => hbefore u ((List.mem_tails u w).2 hu) hne,
        fun u hne hu => hafter u ((List.mem_inits u w).2 hu) hne⟩,
      fun h => ⟨⟨h.not_inside, h.not_around⟩,
        fun u hu hne => h.not_before u hne ((List.mem_tails u w).1 hu),
        fun u hu hne => h.not_after u hne ((List.mem_inits u w).1 hu)⟩⟩

/-- The rest of a list in which the next elements belong to an occurrence already replaced. -/
def replaceFrom (pattern replacement : List α) : Nat → List α → List α
  | _, [] => []
  | skip + 1, _ :: list => replaceFrom pattern replacement skip list
  | 0, a :: list =>
    if pattern <+: a :: list then
      replacement ++ replaceFrom pattern replacement (pattern.length - 1) list
    else a :: replaceFrom pattern replacement 0 list

def replaceAll (pattern replacement list : List α) : List α :=
  replaceFrom pattern replacement 0 list

theorem replaceFrom_skip (pattern replacement : List α) (skip : Nat) (list : List α) :
    replaceFrom pattern replacement skip list = replaceAll pattern replacement (list.drop skip) := by
  induction list generalizing skip with
  | nil => cases skip <;> simp [replaceFrom, replaceAll]
  | cons a list ih =>
    cases skip with
    | zero => rfl
    | succ skip => exact ih skip

theorem replaceAll_front {pattern replacement list : List α} (hpattern : pattern ≠ []) :
    replaceAll pattern replacement (pattern ++ list) =
      replacement ++ replaceAll pattern replacement list := by
  obtain ⟨a, rest, rfl⟩ := List.exists_cons_of_ne_nil hpattern
  have hprefix : a :: rest <+: a :: (rest ++ list) := List.prefix_append (a :: rest) list
  change replaceFrom _ _ 0 (a :: (rest ++ list)) = _
  rw [replaceFrom, if_pos hprefix, replaceFrom_skip]
  simp

theorem replaceAll_cons {pattern replacement list : List α} {a : α}
    (h : ¬ pattern <+: a :: list) :
    replaceAll pattern replacement (a :: list) = a :: replaceAll pattern replacement list := by
  change replaceFrom _ _ 0 (a :: list) = _
  rw [replaceFrom, if_neg h]
  rfl

/-- A list is gone through as a replacement goes through it. -/
@[elab_as_elim]
theorem pattern_induction {pattern : List α} (hpattern : pattern ≠ []) {motive : List α → Prop}
    (list : List α) (nil : motive []) (front : ∀ rest, motive rest → motive (pattern ++ rest))
    (cons : ∀ a rest, ¬ pattern <+: a :: rest → motive rest → motive (a :: rest)) : motive list := by
  induction hlength : list.length using Nat.strong_induction_on generalizing list with
  | _ n ih =>
    cases list with
    | nil => exact nil
    | cons a list =>
      rw [List.length_cons] at hlength
      by_cases hprefix : pattern <+: a :: list
      · obtain ⟨rest, hrest⟩ := hprefix
        have hpos := List.length_pos_iff.2 hpattern
        have hlength' := congrArg List.length hrest
        rw [List.length_append, List.length_cons] at hlength'
        rw [← hrest]
        exact front rest (ih rest.length (by omega) rest rfl)
      · exact cons a list hprefix (ih list.length (by omega) list rfl)

theorem replaceAll_self {pattern : List α} (hpattern : pattern ≠ []) (list : List α) :
    replaceAll pattern pattern list = list := by
  induction list using pattern_induction hpattern with
  | nil => rfl
  | front rest ih => rw [replaceAll_front hpattern, ih]
  | cons a rest hno ih => rw [replaceAll_cons hno, ih]

theorem replaceAll_of_absent {pattern : List α} (hpattern : pattern ≠ []) (replacement : List α)
    {list : List α} (h : ¬ pattern <:+: list) : replaceAll pattern replacement list = list := by
  induction list using pattern_induction hpattern with
  | nil => rfl
  | front rest _ => exact absurd (List.prefix_append pattern rest).isInfix h
  | cons a rest hno ih =>
    rw [replaceAll_cons hno, ih fun hrest => h (hrest.trans (List.suffix_cons a rest).isInfix)]

/-- A pattern that keeps apart from what stands before the rest of a list begins in the rest. -/
theorem replaceAll_suffix {mark pattern replacement u : List α} (h : Apart mark pattern)
    (hu : u <:+ mark) (rest : List α) :
    replaceAll pattern replacement (u ++ rest) = u ++ replaceAll pattern replacement rest := by
  induction u with
  | nil => rfl
  | cons a u ih =>
    have hno : ¬ pattern <+: a :: (u ++ rest) := by
      intro hprefix
      rcases List.prefix_or_prefix_of_prefix hprefix (List.prefix_append (a :: u) rest) with hp | hp
      · exact h.not_inside (hp.isInfix.trans hu.isInfix)
      · exact h.not_after (a :: u) (List.cons_ne_nil a u) hp hu
    rw [List.cons_append, replaceAll_cons hno, ih ((List.suffix_cons a u).trans hu), List.cons_append]

/-- What keeps apart from a pattern parts the list it is replaced in. -/
theorem replaceAll_append {mark pattern replacement : List α} (h : Apart mark pattern)
    (list rest : List α) :
    replaceAll pattern replacement (list ++ (mark ++ rest)) =
      replaceAll pattern replacement list ++ (mark ++ replaceAll pattern replacement rest) := by
  induction list using pattern_induction h.ne_nil with
  | nil => exact replaceAll_suffix h List.suffix_rfl rest
  | front list ih =>
    rw [List.append_assoc, replaceAll_front h.ne_nil, replaceAll_front h.ne_nil, ih, List.append_assoc]
  | cons a list hno ih =>
    have hno' : ¬ pattern <+: a :: list ++ (mark ++ rest) := by
      intro hprefix
      rcases List.prefix_or_prefix_of_prefix hprefix (List.prefix_append (a :: list) _) with hp | ⟨q, hq⟩
      · exact hno hp
      have hne : q ≠ [] := by
        rintro rfl
        rw [List.append_nil] at hq
        exact hno (hq ▸ List.prefix_rfl)
      have hsuffix : q <:+ pattern := hq ▸ List.suffix_append _ q
      rw [← hq] at hprefix
      rcases List.prefix_or_prefix_of_prefix ((List.prefix_append_right_inj _).1 hprefix)
        (List.prefix_append mark rest) with hmark | hmark
      · exact h.not_before q hne hsuffix hmark
      · exact h.not_around (hmark.isInfix.trans hsuffix.isInfix)
    rw [List.cons_append] at hno' ⊢
    rw [replaceAll_cons hno', replaceAll_cons hno, ih, List.cons_append]

/-! ## Pieces -/

/-- The pieces of the rest of a list in which the next elements belong to an occurrence. -/
def piecesFrom (pattern : List α) : Nat → List α → List (List α)
  | _, [] => [[]]
  | skip + 1, _ :: list => piecesFrom pattern skip list
  | 0, a :: list =>
    if pattern <+: a :: list then [] :: piecesFrom pattern (pattern.length - 1) list
    else (piecesFrom pattern 0 list).modifyHead (a :: ·)

/-- What stands between the occurrences of a pattern that are replaced. -/
def pieces (pattern list : List α) : List (List α) := piecesFrom pattern 0 list

theorem piecesFrom_skip (pattern : List α) (skip : Nat) (list : List α) :
    piecesFrom pattern skip list = pieces pattern (list.drop skip) := by
  induction list generalizing skip with
  | nil => cases skip <;> simp [piecesFrom, pieces]
  | cons a list ih =>
    cases skip with
    | zero => rfl
    | succ skip => exact ih skip

theorem pieces_front {pattern list : List α} (hpattern : pattern ≠ []) :
    pieces pattern (pattern ++ list) = [] :: pieces pattern list := by
  obtain ⟨a, rest, rfl⟩ := List.exists_cons_of_ne_nil hpattern
  have hprefix : a :: rest <+: a :: (rest ++ list) := List.prefix_append (a :: rest) list
  change piecesFrom _ 0 (a :: (rest ++ list)) = _
  rw [piecesFrom, if_pos hprefix, piecesFrom_skip]
  simp

theorem pieces_cons {pattern list : List α} {a : α} (h : ¬ pattern <+: a :: list) :
    pieces pattern (a :: list) = (pieces pattern list).modifyHead (a :: ·) := by
  change piecesFrom _ 0 (a :: list) = _
  rw [piecesFrom, if_neg h]
  rfl

theorem pieces_ne_nil {pattern : List α} (hpattern : pattern ≠ []) (list : List α) :
    pieces pattern list ≠ [] := by
  induction list using pattern_induction hpattern with
  | nil => exact List.cons_ne_nil [] []
  | front rest _ =>
    rw [pieces_front hpattern]
    exact List.cons_ne_nil _ _
  | cons a rest hno ih =>
    rw [pieces_cons hno]
    exact fun h => ih (List.modifyHead_eq_nil_iff.1 h)

/-- The pieces stay, and the replacement stands between them. -/
theorem intercalate_pieces {pattern : List α} (hpattern : pattern ≠ []) (replacement list : List α) :
    replacement.intercalate (pieces pattern list) = replaceAll pattern replacement list := by
  induction list using pattern_induction hpattern with
  | nil => exact List.intercalate_singleton
  | front rest ih =>
    rw [pieces_front hpattern, replaceAll_front hpattern,
      List.intercalate_cons_of_ne_nil (pieces_ne_nil hpattern rest), ih, List.nil_append]
  | cons a rest hno ih =>
    rw [pieces_cons hno, replaceAll_cons hno, ← ih]
    obtain ⟨piece, others, hpieces⟩ := List.exists_cons_of_ne_nil (pieces_ne_nil hpattern rest)
    rw [hpieces, List.modifyHead_cons, List.intercalate_cons_cons_left]

theorem infix_of_mem_pieces {pattern list piece : List α} (hpattern : pattern ≠ [])
    (h : piece ∈ pieces pattern list) : piece <:+: list := by
  have hinfix : piece <:+: pattern.intercalate (pieces pattern list) := infix_intercalate h
  rwa [intercalate_pieces hpattern, replaceAll_self hpattern] at hinfix

theorem first_piece_prefix {pattern list piece : List α} {others : List (List α)}
    (hpattern : pattern ≠ []) (h : pieces pattern list = piece :: others) : piece <+: list := by
  have hlist : pattern.intercalate (piece :: others) = list := by
    rw [← h, intercalate_pieces hpattern, replaceAll_self hpattern]
  rw [← hlist]
  cases others with
  | nil => rw [List.intercalate_singleton]
  | cons second others =>
    rw [List.intercalate_cons_cons, List.append_assoc]
    exact List.prefix_append _ _

theorem not_infix_of_mem_pieces {pattern list piece : List α} (hpattern : pattern ≠ [])
    (h : piece ∈ pieces pattern list) : ¬ pattern <:+: piece := by
  induction list using pattern_induction hpattern generalizing piece with
  | nil =>
    rw [List.mem_singleton.1 h, List.infix_nil]
    exact hpattern
  | front rest ih =>
    rw [pieces_front hpattern] at h
    rcases List.mem_cons.1 h with rfl | h
    · rw [List.infix_nil]
      exact hpattern
    · exact ih h
  | cons a rest hno ih =>
    obtain ⟨first, others, hpieces⟩ := List.exists_cons_of_ne_nil (pieces_ne_nil hpattern rest)
    rw [pieces_cons hno, hpieces, List.modifyHead_cons] at h
    rw [hpieces] at ih
    rcases List.mem_cons.1 h with rfl | h
    · intro hinfix
      rcases List.infix_cons_iff.1 hinfix with hfront | hinfix
      · have hfirst := first_piece_prefix hpattern hpieces
        exact hno (hfront.trans (List.cons_prefix_cons.2 ⟨rfl, hfirst⟩))
      · exact ih List.mem_cons_self hinfix
    · exact ih (List.mem_cons_of_mem first h)

/-! ## What is found after a replacement -/

/-- What is found after a replacement and keeps apart from what was put in was found before, and
holds no pattern. -/
theorem infix_replaceAll {pattern replacement list w : List α} (hpattern : pattern ≠ [])
    (hapart : Apart replacement w) (hw : w <:+: replaceAll pattern replacement list) :
    w <:+: list ∧ ¬ pattern <:+: w := by
  rw [← intercalate_pieces hpattern, hapart.infix_intercalate_iff] at hw
  obtain ⟨piece, hpiece, hw⟩ := hw
  exact ⟨hw.trans (infix_of_mem_pieces hpattern hpiece),
    fun hp => not_infix_of_mem_pieces hpattern hpiece (hp.trans hw)⟩

/-- A pattern that keeps apart from its replacement is replaced in each of the pieces that replacements
have left before. -/
theorem replaceAll_intercalate {pattern replacement : List α} (h : Apart replacement pattern)
    (list : List (List α)) :
    replaceAll pattern replacement (replacement.intercalate list) =
      replacement.intercalate (list.flatMap (pieces pattern)) := by
  induction list with
  | nil => rfl
  | cons first others ih =>
    cases others with
    | nil =>
      rw [List.intercalate_singleton, List.flatMap_singleton, intercalate_pieces h.ne_nil]
    | cons second others =>
      have hothers : (second :: others).flatMap (pieces pattern) ≠ [] := by
        rw [List.flatMap_cons]
        exact List.append_ne_nil_of_left_ne_nil (pieces_ne_nil h.ne_nil second) _
      rw [List.intercalate_cons_cons, List.append_assoc, replaceAll_append h, ih,
        @List.flatMap_cons _ _ first (second :: others),
        intercalate_append (pieces_ne_nil h.ne_nil first) hothers, intercalate_pieces h.ne_nil]

end Replace
