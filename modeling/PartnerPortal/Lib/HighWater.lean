import Mathlib.Data.List.Sort
import Mathlib.Tactic.Common

/-!
# Catching up from a high-water mark

Work items come in an order, and a pass attempts every open item past the newest one that is done,
within a window `floor … top`.  Nothing but the newest done item is remembered.  An item before it
is never attempted again, so nothing is lost exactly as long as the done items have no gap.

Results:
- `GapFree.attempted` — without gaps, a pass attempts every open item of its window;
- `GapFree.pass` — a pass in which no item lands after an earlier one failed leaves no gap.
-/

namespace HighWater

variable {α : Type*} [LinearOrder α]

/-- From `origin` on and inside the window, an item before a done one is done. -/
def GapFree (origin floor : α) (done : α → Prop) : Prop :=
  ∀ d d', origin ≤ d → floor ≤ d → d ≤ d' → done d' → done d

/-- A pass attempts every item of the window that is past all done ones. -/
def Covers (origin floor top : α) (done attempted : α → Prop) : Prop :=
  ∀ d, origin ≤ d → floor ≤ d → d ≤ top → (∀ m, done m → m < d) → attempted d

/-- What is done after a pass: what was, and the attempted items that landed. -/
def after (done attempted lands : α → Prop) (d : α) : Prop :=
  done d ∨ attempted d ∧ lands d

theorem gapFree_of_none {origin floor : α} {done : α → Prop} (h : ∀ d, ¬ done d) :
    GapFree origin floor done :=
  fun _ d' _ _ _ hdone => absurd hdone (h d')

/-- A window that moves forward keeps the property. -/
theorem GapFree.mono {origin floor floor' : α} {done : α → Prop}
    (h : GapFree origin floor done) (hfloor : floor ≤ floor') : GapFree origin floor' done :=
  fun d d' horigin hd => h d d' horigin (hfloor.trans hd)

/-- Without gaps, a pass attempts every open item of its window. -/
theorem GapFree.attempted {origin floor top : α} {done attempted : α → Prop}
    (h : GapFree origin floor done) (hcovers : Covers origin floor top done attempted) {d : α}
    (horigin : origin ≤ d) (hfloor : floor ≤ d) (htop : d ≤ top) (hopen : ¬ done d) :
    attempted d := by
  apply hcovers d horigin hfloor htop
  intro m hm
  by_contra hle
  exact hopen (h d m horigin hfloor (not_lt.1 hle) hm)

/-- A pass in which no item lands after an earlier one failed leaves no gap. -/
theorem GapFree.pass {origin floor top : α} {done attempted lands : α → Prop}
    (h : GapFree origin floor done) (hcovers : Covers origin floor top done attempted)
    (htop : ∀ d, attempted d → d ≤ top)
    (horder : ∀ d d', origin ≤ d → floor ≤ d → d ≤ d' → attempted d → attempted d' → lands d' →
      lands d) :
    GapFree origin floor (after done attempted lands) := by
  rintro d d' horigin hfloor hle (hdone | ⟨hattempted, hlands⟩)
  · exact Or.inl (h d d' horigin hfloor hle hdone)
  · by_cases hopen : done d
    · exact Or.inl hopen
    · have hd := h.attempted hcovers horigin hfloor (hle.trans (htop d' hattempted)) hopen
      exact Or.inr ⟨hd, horder d d' horigin hfloor hle hd hattempted hlands⟩

end HighWater
