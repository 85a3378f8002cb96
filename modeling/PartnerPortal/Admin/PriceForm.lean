import PartnerPortal.Admin.Partners

/-!
# The price list in the browser

The form checks each price with a regular expression while it is typed, and sends the rows it finds
no fault with.  The server reads a price with its own loop, and knows a largest one.

Results:
- `priceError_eq_none_iff` — what the form accepts is what the server takes for a price, with at
  most six digits after the point;
- `price_form_agrees` — the server then reads the decimal that was typed, if an `i64` of
  micro-dollars holds it.
-/

namespace PartnerPortal.PriceForm

open MachineInt Decimal

/-! ## The check -/

/-- White space and line terminators of the browser's language. -/
def isSpace (c : Char) : Bool :=
  let n := c.toNat
  (9 ≤ n && n ≤ 13) || n = 32 || n = 160 || n = 5760 || (8192 ≤ n && n ≤ 8202) || n = 8232 ||
    n = 8233 || n = 8239 || n = 8287 || n = 12288 || n = 65279

/-- `String.prototype.trim` -/
def trim (text : String) : String :=
  String.ofList ((text.toList.dropWhile isSpace).rdropWhile isSpace)

/-- The groups of a match that the check looks at; a group that took no part has none. -/
structure PriceMatch where
  second : Option (List Char)
  third : Option (List Char)

/-- `/^(\d+)(?:\.(\d+))?$|^\.(\d+)$/.exec` -/
def priceMatch (text : List Char) : Option PriceMatch :=
  let whole := text.takeWhile Char.isDigit
  match text.dropWhile Char.isDigit with
  | [] => if whole = [] then none else some { second := none, third := none }
  | c :: fraction =>
    if c = '.' ∧ fraction ≠ [] ∧ fraction.all Char.isDigit then
      -- without digits in front of the point it is the second alternative
      if whole = [] then some { second := none, third := some fraction }
      else some { second := some fraction, third := none }
    else none

def priceError (value : String) : Option String :=
  let text := trim value
  if text = "" then some "a price is required"
  else
    match priceMatch text.toList with
    | none => some "a price is dollars per million tokens, e.g. 0.095"
    | some found =>
      let fraction := (found.second.or found.third).getD []
      if 6 < fraction.length then some "at most six decimal places — a price is micro-USD"
      else none

/-- The prices of a row, with the names the form has for them. -/
def pricesOf (row : Admin.ModelPriceView) : List (String × String) :=
  [("input", row.inputPerMillion), ("cached_input", row.cachedInputPerMillion),
    ("output", row.outputPerMillion)]

/-- The first fault of a row's prices. -/
def rowError (row : Admin.ModelPriceView) : Option String :=
  (pricesOf row).findSome? fun price =>
    (priceError price.2).map fun problem =>
      trim row.model ++ ": " ++ price.1 ++ " — " ++ problem

/-- The rows from an index on, after the models that were seen. -/
def validateFrom (index : Nat) (seen : List String) : List Admin.ModelPriceView → Option String
  | [] => none
  | row :: rest =>
    let model := trim row.model
    if model = "" then some ("row " ++ toString (index + 1) ++ " needs a model name")
    else if model ∈ seen then some (model ++ " is listed twice; a model has one price")
    else
      match rowError row with
      | some problem => some problem
      | none => validateFrom (index + 1) (model :: seen) rest

def validateModels (rows : List Admin.ModelPriceView) : Option String := validateFrom 0 [] rows

/-! ## What it accepts -/

theorem priceText_chars {chars whole fraction : List Char} (h : PriceText chars whole fraction) :
    ∀ c ∈ chars, c.isDigit = true ∨ c = '.' := by
  intro c hc
  cases h with
  | whole hwhole hne => exact .inl (hwhole c hc)
  | point hwhole hfraction hne =>
    rcases List.mem_append.1 hc with hc | hc
    · exact .inl (hwhole c hc)
    · rcases List.mem_cons.1 hc with rfl | hc
      · exact .inr rfl
      · exact .inl (hfraction c hc)

/-- A price has no white space to trim, in the browser or on the server. -/
theorem not_space {c : Char} (h : c.isDigit = true ∨ c = '.') :
    isSpace c = false ∧ Text.isWhitespace c = false := by
  rcases h with h | rfl
  · obtain ⟨hlow, hhigh⟩ := Char.isDigit_iff_toNat.1 h
    have hzero : '0'.toNat = 48 := rfl
    have hnine : '9'.toNat = 57 := rfl
    simp only [isSpace, Text.isWhitespace, Bool.or_eq_false_iff, Bool.and_eq_false_iff,
      decide_eq_false_iff_not]
    omega
  · decide

theorem trim_priceText {text : String} {whole fraction : List Char}
    (h : PriceText text.toList whole fraction) : trim text = text ∧ Text.trim text = text := by
  have hchars := fun c hc => not_space (priceText_chars h c hc)
  refine ⟨?_, Text.trim_eq_self fun c hc => (hchars c hc).2⟩
  rw [trim, Text.strip_eq_self fun c hc => (hchars c hc).1, String.ofList_toList]

/-- The regular expression matches the texts that the server takes for a price, and the groups hold
the digits after the point. -/
theorem priceMatch_iff {chars fraction : List Char} :
    (∃ found, priceMatch chars = some found ∧
        (found.second.or found.third).getD [] = fraction) ↔
      ∃ whole, PriceText chars whole fraction := by
  have hsplit : chars.takeWhile Char.isDigit ++ chars.dropWhile Char.isDigit = chars :=
    List.takeWhile_append_dropWhile
  have hwhole : Digits (chars.takeWhile Char.isDigit) := fun c hc => List.mem_takeWhile_imp hc
  constructor
  · rintro ⟨found, hfound, rfl⟩
    unfold priceMatch at hfound
    dsimp only at hfound
    split at hfound
    · -- the digits reach to the end: the second and third groups are not there
      rename_i hrest
      split at hfound
      · cases hfound
      · rename_i hne
        cases hfound
        rw [hrest, List.append_nil] at hsplit
        rw [hsplit] at hwhole hne
        exact ⟨chars, .whole hwhole hne⟩
    · -- they stop at a character, which has to be a point with digits behind it
      rename_i c rest hrest
      split at hfound
      · rename_i hpoint
        obtain ⟨rfl, hne, hdigits⟩ := hpoint
        have htext : PriceText chars (chars.takeWhile Char.isDigit) rest := by
          have hprice := PriceText.point hwhole (digits_iff_all.2 hdigits) hne
          rwa [← hrest, hsplit] at hprice
        split at hfound
        · cases hfound
          exact ⟨_, htext⟩
        · cases hfound
          exact ⟨_, htext⟩
      · cases hfound
  · rintro ⟨whole, h⟩
    unfold priceMatch
    dsimp only
    cases h with
    | whole hdigits hne =>
      rw [List.dropWhile_eq_nil_iff.2 hdigits, List.takeWhile_eq_self_iff.2 hdigits]
      exact ⟨_, if_neg hne, rfl⟩
    | point hdigits hfraction hne =>
      have hstop : ('.' :: fraction).takeWhile Char.isDigit = [] ∧
          ('.' :: fraction).dropWhile Char.isDigit = '.' :: fraction := ⟨rfl, rfl⟩
      rw [List.takeWhile_append_of_pos hdigits, List.dropWhile_append_of_pos hdigits, hstop.1,
        hstop.2, List.append_nil]
      dsimp only
      rw [if_pos ⟨rfl, hne, digits_iff_all.1 hfraction⟩]
      split
      · exact ⟨_, rfl, rfl⟩
      · exact ⟨_, rfl, rfl⟩

/-- The form accepts prices with at most six digits after the point. -/
theorem priceError_eq_none_iff {value : String} :
    priceError value = none ↔
      ∃ whole fraction, PriceText (trim value).toList whole fraction ∧ fraction.length ≤ 6 := by
  have hmatch := fun fraction => @priceMatch_iff (trim value).toList fraction
  unfold priceError
  dsimp only
  split
  · rename_i hempty
    refine iff_of_false nofun ?_
    rintro ⟨whole, fraction, h, -⟩
    rw [hempty] at h
    obtain ⟨found, hfound, -⟩ := priceMatch_iff.2 ⟨whole, h⟩
    cases hfound
  · split
    · rename_i hnone
      refine iff_of_false nofun ?_
      rintro ⟨whole, fraction, h, -⟩
      obtain ⟨found, hfound, -⟩ := (hmatch fraction).2 ⟨whole, h⟩
      rw [hnone] at hfound
      cases hfound
    · rename_i found hfound
      obtain ⟨whole, hprice⟩ := (hmatch _).1 ⟨found, hfound, rfl⟩
      split
      · -- the text is read in one way only, so the fraction found is the one that was typed
        rename_i hlong
        refine iff_of_false nofun ?_
        rintro ⟨whole', fraction, h, hshort⟩
        obtain ⟨found', hfound', hfraction⟩ := (hmatch fraction).2 ⟨whole', h⟩
        rw [hfound] at hfound'
        cases hfound'
        exact Nat.not_le_of_lt hlong (hfraction ▸ hshort)
      · rename_i hshort
        exact iff_of_true rfl ⟨whole, _, hprice, Nat.le_of_not_lt hshort⟩

/-! ## What the server makes of it -/

/-- A price with at most six digits after the point: the server reads the decimal that was typed, if
it is in range, and otherwise none. -/
structure Honoured (text : String) (whole fraction : List Char) : Prop where
  price : PriceText (trim text).toList whole fraction
  short : fraction.length ≤ 6
  /-- the server trims once more -/
  trimmed : Text.trim (trim text) = trim text
  reads : value whole fraction * 10 ^ priceDecimalPlaces ≤ i64Max →
    ∃ price, parsePrice (trim text) = .ok (.ok price) ∧
      (price.value : ℚ) = value whole fraction * 10 ^ priceDecimalPlaces
  refuses : (i64Max : ℚ) < value whole fraction * 10 ^ priceDecimalPlaces →
    ∀ price, parsePrice (trim text) ≠ .ok (.ok price)

/-- Six digits after the point are not rounded. -/
theorem exactMicros_exact {whole fraction : List Char} (hdigits : Digits fraction)
    (h : fraction.length ≤ priceDecimalPlaces) :
    (exactMicros whole fraction : ℚ) = value whole fraction * 10 ^ priceDecimalPlaces := by
  have hunits : (fractionUnits 6 fraction : ℚ) = _ := fractionUnits_exact h
  rw [exactMicros_eq hdigits, value, add_mul, Int.cast_add, Int.cast_natCast, hunits]
  push_cast
  rfl

theorem honoured {text : String} {whole fraction : List Char}
    (h : PriceText (trim text).toList whole fraction) (hshort : fraction.length ≤ 6) :
    Honoured text whole fraction := by
  have hexact := @exactMicros_exact whole fraction h.digits.2 hshort
  have hunits := @exactMicros_eq whole fraction h.digits.2
  obtain ⟨hoverflows, hreads⟩ := parsePrice_eq h
  refine ⟨h, hshort, (trim_priceText h).2, fun hfits => ?_, fun hpast price hread => ?_⟩
  · rw [← hexact] at hfits ⊢
    have hmax : exactMicros whole fraction ≤ i64Max := Int.cast_le.1 hfits
    have hnonneg : 0 ≤ exactMicros whole fraction := by
      rw [hunits, show (10 : Int) ^ 6 = 1000000 from rfl]
      exact add_nonneg (mul_nonneg (Nat.cast_nonneg _) (by decide)) (Nat.cast_nonneg _)
    have hend : ¬AtEnd whole fraction := by
      rw [atEnd_iff h.digits.2, ← hunits]
      exact fun hend => absurd (hend.2.trans_le hmax) (by decide)
    obtain ⟨price, hprice⟩ := Option.isSome_iff_exists.1 (Count.ofInt_isSome_iff.2 ⟨hnonneg, hmax⟩)
    have hvalue := Count.ofInt_eq_some_iff.1 hprice
    refine ⟨price, ?_, congrArg Int.cast hvalue⟩
    rw [hreads hend, priceOf, hprice]
  · rw [← hexact] at hpast
    by_cases hend : AtEnd whole fraction
    · -- the sum of whole part and fraction leaves its type, and the server panics
      rw [hoverflows hend] at hread
      cases hread
    · rw [hreads hend, priceOf_of_gt (Int.cast_lt.1 hpast)] at hread
      cases hread

theorem validateModels_prices {rows : List Admin.ModelPriceView} (h : validateModels rows = none)
    {row : Admin.ModelPriceView} (hrow : row ∈ rows) {name text : String}
    (hprice : (name, text) ∈ pricesOf row) : priceError text = none := by
  have hfrom : ∀ rows index seen, validateFrom index seen rows = none → row ∈ rows →
      rowError row = none := by
    intro rows
    induction rows with
    | nil => exact fun _ _ _ hmem => absurd hmem List.not_mem_nil
    | cons first rest ih =>
      intro index seen hvalid hmem
      rw [validateFrom] at hvalid
      split at hvalid
      · cases hvalid
      · split at hvalid
        · cases hvalid
        · split at hvalid
          · cases hvalid
          · rename_i hfirst
            rcases List.mem_cons.1 hmem with rfl | hmem
            · exact hfirst
            · exact ih _ _ hvalid hmem
  have hnone := List.findSome?_eq_none_iff.1 (hfrom rows 0 [] h hrow) _ hprice
  exact Option.map_eq_none_iff.1 hnone

/-- A price the form accepts is read by the server as the decimal that was typed, not rounded, or it
is out of range there; so is every price of a list the form sends.  What the server reads with at
most six digits after the point, the form accepts. -/
theorem price_form_agrees :
    (∀ text, priceError text = none → ∃ whole fraction, Honoured text whole fraction) ∧
      (∀ rows, validateModels rows = none → ∀ row ∈ rows, ∀ price ∈ pricesOf row,
        ∃ whole fraction, Honoured price.2 whole fraction) ∧
      ∀ text whole fraction price, parsePrice text = .ok (.ok price) →
        PriceText text.toList whole fraction → fraction.length ≤ 6 → priceError text = none := by
  have haccepted : ∀ text, priceError text = none →
      ∃ whole fraction, Honoured text whole fraction := by
    intro text h
    obtain ⟨whole, fraction, hprice, hshort⟩ := priceError_eq_none_iff.1 h
    exact ⟨whole, fraction, honoured hprice hshort⟩
  refine ⟨haccepted, fun rows hrows row hrow price hprice => ?_, ?_⟩
  · exact haccepted price.2 (validateModels_prices hrows hrow hprice)
  · intro text whole fraction price _ h hshort
    refine priceError_eq_none_iff.2 ⟨whole, fraction, ?_, hshort⟩
    rw [(trim_priceText h).1]
    exact h

/-- One micro-dollar more than there is. -/
def Sample.priceTooHigh : String := "9223372036854.775808"

theorem price_form_passes_too_high : priceError Sample.priceTooHigh = none ∧
    parsePrice (trim Sample.priceTooHigh) = .ok (.error (.outOfRange Sample.priceTooHigh)) := by
  decide +kernel

end PartnerPortal.PriceForm
