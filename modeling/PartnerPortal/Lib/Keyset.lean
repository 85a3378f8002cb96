import Mathlib.Data.List.Sort
import Mathlib.Data.Prod.Lex
import Mathlib.Tactic.Common
import PartnerPortal.Lib.OrderBy

/-!
# Keyset pagination

A list is read from its greatest key down, a page at a time: a page looks up one row more than it
gives, and where there was one it gives the key it ended with as the cursor of the next page.  The
rows may change between the pages.

Results:
- `page_spec` — what is on a page, what its cursor says, and what is left for the next page;
- `Walk.descends` — the pages of a walk list strictly falling keys;
- `Walk.more` — a page is followed by another one exactly where more was asked for;
- `Walk.lists` — a row that is asked for throughout a walk is on one of its pages;
- `exists_walk` — the walk ends.
-/

namespace Keyset

variable {α κ : Type*} [LinearOrder κ] (key : α → κ)

/-- `ORDER BY key DESC` -/
def newestFirst (rows : List α) : List α := rows.insertionSort fun a b => key b ≤ key a

structure Page (α κ : Type*) where
  items : List α
  next : Option κ

/-- A page of so many rows at most. -/
def page (limit : Nat) (wanted : List α) : Page α κ :=
  let found := (newestFirst key wanted).take (limit + 1)
  if limit < found.length then
    { items := found.take limit, next := (found.take limit).getLast?.map key }
  else { items := found, next := none }

/-! ## One page -/

section Page

variable {key} {limit : Nat} {wanted : List α}

theorem mem_newestFirst {a : α} : a ∈ newestFirst key wanted ↔ a ∈ wanted :=
  List.mem_insertionSort _

/-- Rows of distinct keys are in falling order. -/
theorem newestFirst_descends (hkeys : (wanted.map key).Nodup) :
    (newestFirst key wanted).Pairwise fun a b => key b < key a := by
  have hle : (newestFirst key wanted).Pairwise fun a b => key b ≤ key a :=
    @OrderBy.insertionSort_pairwise _ _ _ (fun a => OrderDual.toDual (key a)) _ _ wanted
      fun _ _ _ _ => Iff.rfl
  have hne : (newestFirst key wanted).Pairwise fun a b => key a ≠ key b := by
    have hperm := (List.perm_insertionSort (fun a b => key b ≤ key a) wanted).map key
    exact List.pairwise_map.1 (hperm.nodup_iff.2 hkeys)
  exact (hle.and hne).imp fun h => lt_of_le_of_ne h.1 (Ne.symm h.2)

theorem page_of_lt (h : limit < (newestFirst key wanted).length) :
    (page key limit wanted).items = (newestFirst key wanted).take limit ∧
      (page key limit wanted).next =
        Option.map key ((newestFirst key wanted).take limit).getLast? := by
  have hfound : limit < ((newestFirst key wanted).take (limit + 1)).length := by
    rw [List.length_take]
    exact Nat.lt_min.2 ⟨Nat.lt_succ_self limit, h⟩
  have htake : ((newestFirst key wanted).take (limit + 1)).take limit =
      (newestFirst key wanted).take limit := by
    rw [List.take_take, Nat.min_eq_left (Nat.le_succ limit)]
  rw [page, if_pos hfound, htake]
  exact ⟨rfl, rfl⟩

theorem page_of_le (h : (newestFirst key wanted).length ≤ limit) :
    page key limit wanted = { items := newestFirst key wanted, next := none } := by
  have htake : (newestFirst key wanted).take (limit + 1) = newestFirst key wanted :=
    List.take_of_length_le (Nat.le_succ_of_le h)
  rw [page, htake, if_neg (Nat.not_lt.2 h)]

/-- What a page says about the rows asked for. -/
structure PageSpec (key : α → κ) (limit : Nat) (wanted : List α) (p : Page α κ) : Prop where
  length : p.items.length ≤ limit
  mem : ∀ a ∈ p.items, a ∈ wanted
  descends : p.items.Pairwise fun a b => key b < key a
  last : p.next = none → ∀ a ∈ wanted, a ∈ p.items
  /-- the cursor is the key the page ended with, and exactly the rows below it are left -/
  more : ∀ c, p.next = some c → (∃ a ∈ p.items, key a = c) ∧ (∃ a ∈ wanted, key a < c) ∧
    (∀ a ∈ p.items, c ≤ key a) ∧ ∀ a ∈ wanted, a ∈ p.items ∨ key a < c

theorem page_spec (hlimit : 0 < limit) (hkeys : (wanted.map key).Nodup) :
    PageSpec key limit wanted (page key limit wanted) := by
  have hsorted := newestFirst_descends hkeys
  rcases Nat.lt_or_ge limit (newestFirst key wanted).length with hlt | hle
  · have hsplit := List.take_append_drop limit (newestFirst key wanted)
    obtain ⟨hitems, hnext⟩ := page_of_lt hlt
    refine ⟨?_, ?_, ?_, ?_, ?_⟩
    all_goals rw [hitems]
    · exact List.length_take_le _ _
    · exact fun a ha => mem_newestFirst.1 (List.mem_of_mem_take ha)
    · exact hsorted.sublist (List.take_sublist _ _)
    all_goals rw [hnext]
    · -- a page that is followed by another one is not empty, and has a last item
      intro hnone
      have hlength : ((newestFirst key wanted).take limit).length = limit := by
        rw [List.length_take, Nat.min_eq_left (Nat.le_of_lt hlt)]
      have hempty := List.getLast?_eq_none_iff.1 (Option.map_eq_none_iff.1 hnone)
      rw [hempty] at hlength
      exact absurd hlength (Nat.ne_of_lt hlimit)
    · intro c hc
      -- what is cut off is below the last item of the page
      obtain ⟨last, hlast, rfl⟩ := Option.map_eq_some_iff.1 hc
      obtain ⟨before, hbefore⟩ := List.getLast?_eq_some_iff.1 hlast
      have hlastMem : last ∈ (newestFirst key wanted).take limit := List.mem_of_getLast? hlast
      have hbelow : ∀ a ∈ (newestFirst key wanted).drop limit, key a < key last := by
        intro a ha
        rw [← hsplit, List.pairwise_append] at hsorted
        exact hsorted.2.2 last hlastMem a ha
      refine ⟨⟨last, hlastMem, rfl⟩, ?_, ?_, ?_⟩
      · have hmore : (newestFirst key wanted).drop limit ≠ [] := by
          rw [Ne, List.drop_eq_nil_iff]
          exact Nat.not_le.2 hlt
        obtain ⟨a, ha⟩ := List.exists_mem_of_ne_nil _ hmore
        exact ⟨a, mem_newestFirst.1 (List.mem_of_mem_drop ha), hbelow a ha⟩
      · intro a ha
        have htaken := hsorted.sublist (List.take_sublist limit _)
        rw [hbefore] at htaken ha
        rcases List.mem_append.1 ha with ha | ha
        · exact le_of_lt ((List.pairwise_append.1 htaken).2.2 a ha last List.mem_cons_self)
        · rw [List.mem_singleton.1 ha]
      · intro a ha
        have hmem : a ∈ newestFirst key wanted := mem_newestFirst.2 ha
        rw [← hsplit] at hmem
        exact (List.mem_append.1 hmem).imp_right (hbelow a)
  · rw [page_of_le hle]
    exact ⟨hle, fun a ha => mem_newestFirst.1 ha, hsorted, fun _ a ha => mem_newestFirst.2 ha,
      fun c hc => nomatch hc⟩

end Page

/-! ## A walk over changing rows -/

/-- The rows at one request, and which of them are asked for. -/
structure Request (α : Type*) where
  rows : List α
  wants : α → Bool

/-- What a request asks for beyond a cursor. -/
def Request.wanted (q : Request α) (after : Option κ) : List α :=
  q.rows.filter fun a => q.wants a && after.all fun c => key a < c

def Request.ask (q : Request α) (limit : Nat) (after : Option κ) : Page α κ :=
  page key limit (q.wanted key after)

/-- The pages from one request on, each with the cursor of the page before it, to the last one. -/
inductive Walk (limit : Nat) (q : Nat → Request α) : Nat → Option κ → List (List α) → Prop
  | last {i : Nat} {after : Option κ} : ((q i).ask key limit after).next = none →
      Walk limit q i after [((q i).ask key limit after).items]
  | next {i : Nat} {after : Option κ} {c : κ} {pages : List (List α)} :
      ((q i).ask key limit after).next = some c → Walk limit q (i + 1) (some c) pages →
      Walk limit q i after (((q i).ask key limit after).items :: pages)

section Walk

variable {key} {limit : Nat} {q : Nat → Request α} {i : Nat} {after : Option κ}
  {pages : List (List α)}

theorem mem_wanted {q : Request α} {a : α} : a ∈ q.wanted key after ↔
    a ∈ q.rows ∧ q.wants a = true ∧ ∀ c ∈ after, key a < c := by
  cases after <;> simp [Request.wanted]

theorem ask_spec (hlimit : 0 < limit) {q : Request α} (hkeys : (q.rows.map key).Nodup) :
    PageSpec key limit (q.wanted key after) (q.ask key limit after) :=
  page_spec hlimit (hkeys.sublist ((List.filter_sublist).map key))

theorem Walk.length_pos (h : Walk key limit q i after pages) : 0 < pages.length := by
  cases h <;> simp

/-- Every page of a walk is one of a request. -/
theorem Walk.pages_length (hlimit : 0 < limit) (hkeys : ∀ j, ((q j).rows.map key).Nodup)
    (h : Walk key limit q i after pages) : ∀ p ∈ pages, p.length ≤ limit := by
  induction h with
  | last _ =>
    intro p hp
    rw [List.mem_singleton.1 hp]
    exact (ask_spec hlimit (hkeys _)).length
  | next _ _ ih =>
    intro p hp
    rcases List.mem_cons.1 hp with rfl | hp
    · exact (ask_spec hlimit (hkeys _)).length
    · exact ih p hp

/-- A walk lists strictly falling keys, all of them below its cursor. -/
theorem Walk.descends (hlimit : 0 < limit) (hkeys : ∀ j, ((q j).rows.map key).Nodup)
    (h : Walk key limit q i after pages) :
    pages.flatten.Pairwise (fun a b => key b < key a) ∧
      ∀ a ∈ pages.flatten, ∀ c ∈ after, key a < c := by
  induction h with
  | @last i after _ =>
    have hspec := @ask_spec _ _ _ key limit after hlimit (q i) (hkeys i)
    rw [List.flatten_singleton]
    exact ⟨hspec.descends, fun a ha => (mem_wanted.1 (hspec.mem a ha)).2.2⟩
  | @next i after c pages hnext _ ih =>
    have hspec := @ask_spec _ _ _ key limit after hlimit (q i) (hkeys i)
    obtain ⟨⟨last, hlast, hc⟩, -, hfloor, -⟩ := hspec.more c hnext
    obtain ⟨hrest, hbelow⟩ := ih
    have hlower := fun a ha => hbelow a ha c rfl
    rw [List.flatten_cons]
    refine ⟨List.pairwise_append.2 ⟨hspec.descends, hrest, ?_⟩, ?_⟩
    · exact fun a ha b hb => lt_of_lt_of_le (hlower b hb) (hfloor a ha)
    · intro a ha bound hbound
      rcases List.mem_append.1 ha with ha | ha
      · exact (mem_wanted.1 (hspec.mem a ha)).2.2 bound hbound
      · have hlastBelow := (mem_wanted.1 (hspec.mem last hlast)).2.2 bound hbound
        exact lt_trans (hlower a ha) (hc ▸ hlastBelow)

/-- What is on a page was asked for at its request. -/
theorem Walk.asked (hlimit : 0 < limit) (hkeys : ∀ j, ((q j).rows.map key).Nodup)
    (h : Walk key limit q i after pages) {j : Nat} {rows : List α} (hrows : pages[j]? = some rows) :
    ∀ a ∈ rows, a ∈ (q (i + j)).rows ∧ (q (i + j)).wants a = true := by
  have hask : ∀ i after, ∀ a ∈ ((q i).ask key limit after).items,
      a ∈ (q i).rows ∧ (q i).wants a = true := by
    intro i after a ha
    have hmem := mem_wanted.1 ((ask_spec hlimit (hkeys i)).mem a ha)
    exact ⟨hmem.1, hmem.2.1⟩
  induction h generalizing j with
  | @last i after _ =>
    cases j with
    | zero =>
      cases hrows
      exact hask i after
    | succ j => cases hrows
  | @next i after c pages _ _ ih =>
    cases j with
    | zero =>
      cases hrows
      exact hask i after
    | succ j =>
      rw [← Nat.add_assoc, Nat.add_right_comm]
      exact ih hrows

/-- A page is followed by another one exactly where a row was asked for below all that is listed. -/
theorem Walk.more (hlimit : 0 < limit) (hkeys : ∀ j, ((q j).rows.map key).Nodup)
    (h : Walk key limit q i after pages) {j : Nat} (hj : j < pages.length) :
    (∃ a ∈ (q (i + j)).rows, (q (i + j)).wants a = true ∧ (∀ c ∈ after, key a < c) ∧
      ∀ b ∈ (pages.take (j + 1)).flatten, key a < key b) ↔ j + 1 < pages.length := by
  induction h generalizing j with
  | @last i after hlast =>
    have hspec := @ask_spec _ _ _ key limit after hlimit (q i) (hkeys i)
    obtain rfl : j = 0 := Nat.lt_one_iff.1 hj
    refine iff_of_false ?_ (lt_irrefl 1)
    rintro ⟨a, ha, hwants, hafter, hbelow⟩
    have hpage := hspec.last hlast a (mem_wanted.2 ⟨ha, hwants, hafter⟩)
    exact lt_irrefl (key a) (hbelow a (by simpa using hpage))
  | @next i after c pages hnext hrest ih =>
    have hspec := @ask_spec _ _ _ key limit after hlimit (q i) (hkeys i)
    obtain ⟨⟨last, hlast, rfl⟩, ⟨more, hmore, hbeyond⟩, hfloor, -⟩ := hspec.more c hnext
    have hlastAfter := (mem_wanted.1 (hspec.mem last hlast)).2.2
    cases j with
    | zero =>
      refine iff_of_true ?_ (Nat.succ_lt_succ hrest.length_pos)
      obtain ⟨hrow, hwants, hafter⟩ := mem_wanted.1 hmore
      refine ⟨more, hrow, hwants, hafter, fun b hb => ?_⟩
      exact lt_of_lt_of_le hbeyond (hfloor b (by simpa using hb))
    | succ j =>
      have hstep := @ih j (Nat.lt_of_succ_lt_succ hj)
      rw [Nat.add_right_comm, Nat.add_assoc] at hstep
      rw [List.length_cons, Nat.add_lt_add_iff_right, ← hstep, List.take_succ_cons, List.flatten_cons]
      -- a row is below the page exactly where it is below the page's last row
      constructor
      · rintro ⟨a, ha, hwants, -, hbelow⟩
        refine ⟨a, ha, hwants, fun c hc => ?_, fun b hb => hbelow b (List.mem_append_right _ hb)⟩
        rw [← Option.some.inj hc]
        exact hbelow last (List.mem_append_left _ hlast)
      · rintro ⟨a, ha, hwants, hcursor, hbelow⟩
        have hlt : key a < key last := hcursor (key last) rfl
        refine ⟨a, ha, hwants, fun c hc => lt_trans hlt (hlastAfter c hc), fun b hb => ?_⟩
        rcases List.mem_append.1 hb with hb | hb
        · exact lt_of_lt_of_le hlt (hfloor b hb)
        · exact hbelow b hb

/-- A key that is asked for at every request of a walk is on one of its pages. -/
theorem Walk.lists (hlimit : 0 < limit) (hkeys : ∀ j, ((q j).rows.map key).Nodup) {k : κ}
    (h : Walk key limit q i after pages) (hafter : ∀ c ∈ after, k < c)
    (hthroughout : ∀ j < pages.length, ∃ a ∈ (q (i + j)).rows, key a = k ∧
      (q (i + j)).wants a = true) : ∃ a ∈ pages.flatten, key a = k := by
  induction h with
  | @last i after hlast =>
    have hspec := @ask_spec _ _ _ key limit after hlimit (q i) (hkeys i)
    obtain ⟨a, ha, rfl, hwants⟩ := hthroughout 0 (by simp)
    rw [List.flatten_singleton]
    exact ⟨a, hspec.last hlast a (mem_wanted.2 ⟨ha, hwants, hafter⟩), rfl⟩
  | @next i after c pages hnext _ ih =>
    have hspec := @ask_spec _ _ _ key limit after hlimit (q i) (hkeys i)
    obtain ⟨a, ha, rfl, hwants⟩ := hthroughout 0 (by simp)
    rw [List.flatten_cons]
    rcases (hspec.more c hnext).2.2.2 a (mem_wanted.2 ⟨ha, hwants, hafter⟩) with hpage | hbelow
    · exact ⟨a, List.mem_append_left _ hpage, rfl⟩
    · have hrest : ∀ j < pages.length, ∃ b ∈ (q (i + 1 + j)).rows, key b = key a ∧
          (q (i + 1 + j)).wants b = true := by
        intro j hj
        rw [Nat.add_right_comm, Nat.add_assoc]
        exact hthroughout (j + 1) (by simpa using hj)
      obtain ⟨b, hb, hkey⟩ := ih (fun c' hc' => by cases hc'; exact hbelow) hrest
      exact ⟨b, List.mem_append_right _ hb, hkey⟩

/-- A walk ends where the keys can fall only so often. -/
theorem exists_walk (hlimit : 0 < limit) (hkeys : ∀ j, ((q j).rows.map key).Nodup) (rank : κ → Nat)
    (hrank : ∀ j j', ∀ a ∈ (q j).rows, ∀ b ∈ (q j').rows, key a < key b →
      rank (key a) < rank (key b)) : ∃ pages, Walk key limit q i none pages := by
  -- every cursor is the key of a row, so the ranks of the cursors fall
  have hfrom : ∀ n i c, rank c = n → (∃ j, ∃ a ∈ (q j).rows, key a = c) →
      ∃ pages, Walk key limit q i (some c) pages := by
    intro n
    induction n using Nat.strong_induction_on with
    | _ n ih =>
      rintro i c rfl ⟨j, a, ha, rfl⟩
      cases hnext : ((q i).ask key limit (some (key a))).next with
      | none => exact ⟨_, .last hnext⟩
      | some c' =>
        have hspec := @ask_spec _ _ _ key limit (some (key a)) hlimit (q i) (hkeys i)
        obtain ⟨⟨b, hb, rfl⟩, -⟩ := hspec.more c' hnext
        obtain ⟨hrow, -, hbelow⟩ := mem_wanted.1 (hspec.mem b hb)
        have hlt := hrank i j b hrow a ha (hbelow (key a) rfl)
        obtain ⟨pages, hpages⟩ := ih _ hlt (i + 1) (key b) rfl ⟨i, b, hrow, rfl⟩
        exact ⟨_, .next hnext hpages⟩
  cases hnext : ((q i).ask key limit none).next with
  | none => exact ⟨_, .last hnext⟩
  | some c =>
    have hspec := @ask_spec _ _ _ key limit none hlimit (q i) (hkeys i)
    obtain ⟨⟨b, hb, rfl⟩, -⟩ := hspec.more c hnext
    obtain ⟨pages, hpages⟩ := hfrom _ (i + 1) (key b) rfl ⟨i, b, (mem_wanted.1 (hspec.mem b hb)).1, rfl⟩
    exact ⟨_, .next hnext hpages⟩

end Walk

end Keyset
