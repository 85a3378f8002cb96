import PartnerPortal.Billing.Pricing
import PartnerPortal.Lib.Rounding

/-!
# Pricing is exact

What a line costs, against the rational amount it stands for, and the same arithmetic with every
operation on its machine type.

Results:
- `componentCost_ok_iff_halfAway` — a component costs the rounded amount, when an `i64` holds it;
- `priceLineRun_eq` — on the machine types nothing overflows, wraps or panics;
- `pricing_exact` — what is priced, what is refused and why, and that more tokens or a higher
  price never cost less.
-/

namespace PartnerPortal

open MachineInt Rounding

/-- What `tokens` cost before rounding, in micro-dollars. -/
def rationalCost (tokens : Nat) (price : PricePerMillion) : ℚ := tokens * price.value / 1000000

/-! ## One component -/

theorem rationalCost_mono {tokens tokens' : Nat} {price price' : PricePerMillion}
    (htokens : tokens ≤ tokens') (hprice : price.value ≤ price'.value) :
    rationalCost tokens price ≤ rationalCost tokens' price' := by
  have hproduct : (tokens : ℤ) * price.value ≤ tokens' * price'.value :=
    mul_le_mul (Int.ofNat_le.2 htokens) hprice price.nonneg (Int.natCast_nonneg tokens')
  have hcast : (tokens : ℚ) * price.value ≤ tokens' * price'.value := by exact_mod_cast hproduct
  unfold rationalCost
  linarith

theorem halfAway_rationalCost (tokens : Nat) (price : PricePerMillion) :
    halfAway (rationalCost tokens price) = (tokens * price.value * 2 + 1000000) / 2000000 := by
  have hproduct : 0 ≤ (tokens : ℤ) * price.value :=
    mul_nonneg (Int.natCast_nonneg tokens) price.nonneg
  have hrounded := @halfAway_div _ 1000000 hproduct (by decide)
  push_cast at hrounded
  exact hrounded

theorem halfAway_rationalCost_nonneg (tokens : Nat) (price : PricePerMillion) :
    0 ≤ halfAway (rationalCost tokens price) := by
  have hproduct : 0 ≤ (tokens : ℤ) * price.value :=
    mul_nonneg (Int.natCast_nonneg tokens) price.nonneg
  rw [halfAway_rationalCost]
  exact Int.ediv_nonneg (by omega) (by decide)

/-- A component costs the rounded amount, when an `i64` holds it. -/
theorem componentCost_ok_iff_halfAway {tokens : Nat} {price : PricePerMillion} {cost : MicroUsd} :
    componentCost tokens price = .ok cost ↔ cost.value = halfAway (rationalCost tokens price) := by
  rw [componentCost_ok_iff, halfAway_rationalCost]

theorem componentCost_isOk_iff {tokens : Nat} {price : PricePerMillion} :
    (∃ cost, componentCost tokens price = .ok cost) ↔
      FitsI64 (halfAway (rationalCost tokens price)) := by
  simp only [componentCost_ok_iff_halfAway]
  constructor
  · rintro ⟨cost, hcost⟩
    rw [← hcost]
    exact cost.fits
  · intro hfits
    exact ⟨⟨_, halfAway_rationalCost_nonneg tokens price, hfits.2⟩, rfl⟩

/-- A component that is not priced is refused as an overflow. -/
theorem componentCost_cases (tokens : Nat) (price : PricePerMillion) :
    (∃ cost, componentCost tokens price = .ok cost) ∨
      componentCost tokens price = .error (.overflow "pricing a token count") := by
  unfold componentCost
  split
  · exact Or.inl ⟨_, rfl⟩
  · exact Or.inr rfl

theorem componentCost_mono {tokens tokens' : Nat} {price price' : PricePerMillion}
    {cost' : MicroUsd} (htokens : tokens ≤ tokens') (hprice : price.value ≤ price'.value)
    (hcost' : componentCost tokens' price' = .ok cost') :
    ∃ cost, componentCost tokens price = .ok cost ∧ cost.value ≤ cost'.value := by
  have hrounded := halfAway_mono (rationalCost_mono htokens hprice)
  rw [← componentCost_ok_iff_halfAway.1 hcost'] at hrounded
  refine ⟨⟨_, halfAway_rationalCost_nonneg tokens price, le_trans hrounded cost'.le_max⟩, ?_, hrounded⟩
  exact componentCost_ok_iff_halfAway.2 rfl

/-! ## A line -/

variable {input cached output : Nat} {prices : PricingSnapshot}

/-- The parts of a line, each priced by itself: `(input, cached, output)`. -/
def PartsCost (input cached output : Nat) (prices : PricingSnapshot)
    (parts : MicroUsd × MicroUsd × MicroUsd) : Prop :=
  componentCost (input - cached) prices.input = .ok parts.1 ∧
    componentCost cached prices.cachedInput = .ok parts.2.1 ∧
    componentCost output prices.output = .ok parts.2.2

/-- What the parts add up to. -/
def partsTotal (parts : MicroUsd × MicroUsd × MicroUsd) : Int :=
  parts.1.value + parts.2.1.value + parts.2.2.value

theorem partsTotal_nonneg (parts : MicroUsd × MicroUsd × MicroUsd) : 0 ≤ partsTotal parts :=
  add_nonneg (add_nonneg parts.1.nonneg parts.2.1.nonneg) parts.2.2.nonneg

theorem components_ok_iff {parts : MicroUsd × MicroUsd × MicroUsd} :
    components input cached output prices = .ok parts ↔
      cached ≤ input ∧ PartsCost input cached output prices parts := by
  unfold components PartsCost
  by_cases hexceeds : input < cached
  · rw [if_pos hexceeds]
    constructor
    · intro h
      cases h
    · rintro ⟨hle, -⟩
      exact absurd hle (Nat.not_le.2 hexceeds)
  · rw [if_neg hexceeds]
    simp only [Result.bind_ok_iff, Result.pure_eq, Except.ok.injEq]
    constructor
    · rintro ⟨inputCost, hinput, cachedCost, hcached, outputCost, houtput, rfl⟩
      exact ⟨Nat.not_lt.1 hexceeds, hinput, hcached, houtput⟩
    · rintro ⟨-, hinput, hcached, houtput⟩
      exact ⟨_, hinput, _, hcached, _, houtput, rfl⟩

theorem components_exceeds (hexceeds : input < cached) :
    components input cached output prices = .error (.cachedExceedsInput input cached) := by
  unfold components
  rw [if_pos hexceeds]

/-- A line whose parts are not all priced is refused as the first overflow. -/
theorem components_overflow (hle : cached ≤ input)
    (hparts : ¬ ∃ parts, PartsCost input cached output prices parts) :
    components input cached output prices = .error (.overflow "pricing a token count") := by
  unfold components
  rw [if_neg (Nat.not_lt.2 hle)]
  dsimp only
  rcases componentCost_cases (input - cached) prices.input with ⟨inputCost, hinput⟩ | hinput
  · rcases componentCost_cases cached prices.cachedInput with ⟨cachedCost, hcached⟩ | hcached
    · rcases componentCost_cases output prices.output with ⟨outputCost, houtput⟩ | houtput
      · exact absurd ⟨(inputCost, cachedCost, outputCost), hinput, hcached, houtput⟩ hparts
      · rw [hinput, hcached, houtput]
        rfl
    · rw [hinput, hcached]
      rfl
  · rw [hinput]
    rfl

/-- The two additions are one: what is added is not negative, so the first cannot overflow where
the whole does not. -/
theorem ofParts_ok_iff {inputCost cachedCost outputCost : MicroUsd} {uncached : Nat}
    {cost : LineCost} :
    LineCost.ofParts inputCost cachedCost outputCost uncached = .ok cost ↔
      cost.uncachedInputTokens = uncached ∧ cost.inputCost = inputCost ∧
        cost.cachedInputCost = cachedCost ∧ cost.outputCost = outputCost ∧
        cost.total.value = inputCost.value + cachedCost.value + outputCost.value := by
  have hsum : ∀ total : MicroUsd,
      ((inputCost.checkedAdd cachedCost).bind fun sum => sum.checkedAdd outputCost) = some total ↔
        total.value = inputCost.value + cachedCost.value + outputCost.value := by
    intro total
    rw [Option.bind_eq_some_iff]
    simp only [Count.checkedAdd_eq_some_iff]
    constructor
    · rintro ⟨sum, hsum, htotal⟩
      rw [htotal, hsum]
    · intro htotal
      have hinput := inputCost.nonneg
      have hcached := cachedCost.nonneg
      have houtput := outputCost.nonneg
      have hmax := total.le_max
      exact ⟨⟨inputCost.value + cachedCost.value, by omega, by omega⟩, rfl, htotal⟩
  unfold LineCost.ofParts
  split
  · rename_i total htotal
    rw [hsum total] at htotal
    rw [Except.ok.injEq]
    constructor
    · rintro rfl
      exact ⟨rfl, rfl, rfl, rfl, htotal⟩
    · rintro ⟨huncached, hinput, hcached, houtput, hvalue⟩
      obtain ⟨_, _, _, _, total'⟩ := cost
      have htotals : total = total' := Count.ext (htotal.trans hvalue.symm)
      dsimp only at huncached hinput hcached houtput
      rw [huncached, hinput, hcached, houtput, htotals]
  · rename_i hnone
    constructor
    · intro h
      cases h
    · rintro ⟨-, -, -, -, hvalue⟩
      rw [(hsum cost.total).2 hvalue] at hnone
      cases hnone

theorem ofParts_overflow {inputCost cachedCost outputCost : MicroUsd} {uncached : Nat}
    (hfits : ¬ FitsI64 (partsTotal (inputCost, cachedCost, outputCost))) :
    LineCost.ofParts inputCost cachedCost outputCost uncached =
      .error (.overflow "adding up a line's component costs") := by
  cases hline : LineCost.ofParts inputCost cachedCost outputCost uncached with
  | ok cost =>
    obtain ⟨-, -, -, -, hvalue⟩ := ofParts_ok_iff.1 hline
    refine absurd ?_ hfits
    rw [partsTotal, ← hvalue]
    exact cost.total.fits
  | error e =>
    unfold LineCost.ofParts at hline
    split at hline
    · cases hline
    · rw [← hline]

/-- A line is priced exactly when it has more input than was cached, its parts are priced and an
`i64` holds their sum. -/
theorem priceLine_ok_iff {cost : LineCost} :
    priceLine input cached output prices = .ok cost ↔
      cached ≤ input ∧ cost.uncachedInputTokens = input - cached ∧
        PartsCost input cached output prices
          (cost.inputCost, cost.cachedInputCost, cost.outputCost) ∧
        cost.total.value =
          partsTotal (cost.inputCost, cost.cachedInputCost, cost.outputCost) := by
  unfold priceLine
  rw [Result.bind_ok_iff]
  constructor
  · rintro ⟨⟨inputCost, cachedCost, outputCost⟩, hparts, htotal⟩
    obtain ⟨hle, hparts⟩ := components_ok_iff.1 hparts
    obtain ⟨huncached, rfl, rfl, rfl, hvalue⟩ := ofParts_ok_iff.1 htotal
    exact ⟨hle, huncached, hparts, hvalue⟩
  · rintro ⟨hle, huncached, hparts, hvalue⟩
    refine ⟨_, components_ok_iff.2 ⟨hle, hparts⟩, ?_⟩
    exact ofParts_ok_iff.2 ⟨huncached, rfl, rfl, rfl, hvalue⟩

theorem priceLine_isOk_iff :
    (∃ cost, priceLine input cached output prices = .ok cost) ↔
      cached ≤ input ∧
        ∃ parts, PartsCost input cached output prices parts ∧ FitsI64 (partsTotal parts) := by
  constructor
  · rintro ⟨cost, hcost⟩
    obtain ⟨hle, -, hparts, hvalue⟩ := priceLine_ok_iff.1 hcost
    refine ⟨hle, _, hparts, ?_⟩
    rw [← hvalue]
    exact cost.total.fits
  · rintro ⟨hle, ⟨inputCost, cachedCost, outputCost⟩, hparts, hfits⟩
    exact ⟨{ uncachedInputTokens := input - cached
             inputCost := inputCost
             cachedInputCost := cachedCost
             outputCost := outputCost
             total := ⟨_, partsTotal_nonneg _, hfits.2⟩ },
      priceLine_ok_iff.2 ⟨hle, rfl, hparts, rfl⟩⟩

theorem priceLine_exceeds (hexceeds : input < cached) :
    priceLine input cached output prices = .error (.cachedExceedsInput input cached) := by
  unfold priceLine
  rw [components_exceeds hexceeds]
  rfl

theorem priceLine_component_overflow (hle : cached ≤ input)
    (hparts : ¬ ∃ parts, PartsCost input cached output prices parts) :
    priceLine input cached output prices = .error (.overflow "pricing a token count") := by
  unfold priceLine
  rw [components_overflow hle hparts]
  rfl

theorem priceLine_total_overflow (hle : cached ≤ input) {parts : MicroUsd × MicroUsd × MicroUsd}
    (hparts : PartsCost input cached output prices parts) (hfits : ¬ FitsI64 (partsTotal parts)) :
    priceLine input cached output prices =
      .error (.overflow "adding up a line's component costs") := by
  unfold priceLine
  rw [components_ok_iff.2 ⟨hle, hparts⟩, Result.ok_bind]
  exact ofParts_overflow hfits

/-- More tokens of a kind, or a higher price, never cost less. -/
theorem priceLine_mono {uncached uncached' cached cached' output output' : Nat}
    {prices prices' : PricingSnapshot} {cost' : LineCost}
    (huncached : uncached ≤ uncached') (hcached : cached ≤ cached') (houtput : output ≤ output')
    (hinputPrice : prices.input.value ≤ prices'.input.value)
    (hcachedPrice : prices.cachedInput.value ≤ prices'.cachedInput.value)
    (houtputPrice : prices.output.value ≤ prices'.output.value)
    (hcost' : priceLine (uncached' + cached') cached' output' prices' = .ok cost') :
    ∃ cost, priceLine (uncached + cached) cached output prices = .ok cost ∧
      cost.total.value ≤ cost'.total.value := by
  obtain ⟨-, -, ⟨hinput', hcached', houtput'⟩, hvalue'⟩ := priceLine_ok_iff.1 hcost'
  rw [Nat.add_sub_cancel] at hinput'
  obtain ⟨inputCost, hinputCost, hinputLe⟩ := componentCost_mono huncached hinputPrice hinput'
  obtain ⟨cachedCost, hcachedCost, hcachedLe⟩ := componentCost_mono hcached hcachedPrice hcached'
  obtain ⟨outputCost, houtputCost, houtputLe⟩ := componentCost_mono houtput houtputPrice houtput'
  have hparts : PartsCost (uncached + cached) cached output prices
      (inputCost, cachedCost, outputCost) := by
    refine ⟨?_, hcachedCost, houtputCost⟩
    rw [Nat.add_sub_cancel]
    exact hinputCost
  have htotal : partsTotal (inputCost, cachedCost, outputCost) ≤ cost'.total.value := by
    rw [hvalue']
    exact add_le_add (add_le_add hinputLe hcachedLe) houtputLe
  have hfits : FitsI64 (partsTotal (inputCost, cachedCost, outputCost)) :=
    ⟨le_trans (by decide) (partsTotal_nonneg _), le_trans htotal cost'.total.le_max⟩
  obtain ⟨cost, hcost⟩ := priceLine_isOk_iff.2 ⟨Nat.le_add_left cached uncached, _, hparts, hfits⟩
  refine ⟨cost, hcost, ?_⟩
  obtain ⟨-, -, ⟨hinput, hcached, houtput⟩, hvalue⟩ := priceLine_ok_iff.1 hcost
  rw [Nat.add_sub_cancel] at hinput
  have hinputEq : inputCost = cost.inputCost := Except.ok.inj (hinputCost.symm.trans hinput)
  have hcachedEq : cachedCost = cost.cachedInputCost :=
    Except.ok.inj (hcachedCost.symm.trans hcached)
  have houtputEq : outputCost = cost.outputCost := Except.ok.inj (houtputCost.symm.trans houtput)
  rw [hvalue, ← hinputEq, ← hcachedEq, ← houtputEq]
  exact htotal

/-! ## The same arithmetic on its machine types -/

/-- An unchecked subtraction of `u64`s: it panics below zero. -/
def subU64 (a b : UInt64) : Option UInt64 := if b ≤ a then some (a - b) else none

/-- An unchecked division of `i128`s: it panics on a zero divisor and past the type. -/
def divI128 (a b : Int) : Option Int := if b = 0 then none else checkedI128 (a.tdiv b)

/-- `component_cost` over a `u64`, which panics where an unchecked step does. -/
def componentCostRun (tokens : UInt64) (price : PricePerMillion) :
    Option (Except PriceError MicroUsd) :=
  let doubled := (checkedI128 (tokens.toNat * price.value)).bind fun product =>
    (checkedI128 (product * 2)).bind fun doubled => checkedI128 (doubled + tokensPerPriceUnit)
  match doubled with
  | none => some (.error (.overflow "pricing a token count"))
  | some p =>
    (checkedI128 (tokensPerPriceUnit * 2)).bind fun unit =>
      (divI128 p unit).map fun rounded =>
        match Count.ofInt rounded with
        | some cost => .ok cost
        | none => .error (.overflow "pricing a token count")

/-- `price_line` over `u64`s, which panics where an unchecked step does. -/
def priceLineRun (input cached output : UInt64) (prices : PricingSnapshot) :
    Option (Except PriceError LineCost) :=
  if input < cached then
    some (.error (.cachedExceedsInput input.toNat cached.toNat))
  else
    (subU64 input cached).bind fun uncached =>
      (componentCostRun uncached prices.input).bind fun inputCost =>
        match inputCost with
        | .error e => some (.error e)
        | .ok inputCost =>
          (componentCostRun cached prices.cachedInput).bind fun cachedCost =>
            match cachedCost with
            | .error e => some (.error e)
            | .ok cachedCost =>
              (componentCostRun output prices.output).bind fun outputCost =>
                match outputCost with
                | .error e => some (.error e)
                | .ok outputCost =>
                  (subU64 input cached).map fun uncached =>
                    LineCost.ofParts inputCost cachedCost outputCost uncached.toNat

/-- The divisor is a constant and the dividend is not negative, so the division returns. -/
theorem divI128_twice_unit {p : Int} (hp : checkedI128 p = some p) (hnonneg : 0 ≤ p) :
    divI128 p (tokensPerPriceUnit * 2) = some (p.tdiv (tokensPerPriceUnit * 2)) := by
  unfold divI128 tokensPerPriceUnit
  rw [if_neg (by decide), Int.tdiv_eq_ediv_of_nonneg hnonneg]
  unfold checkedI128 at hp
  split at hp
  · rename_i hrange
    exact checkedI128_of_range (by omega) (by omega)
  · cases hp

theorem checkedI128_some {n p : Int} (h : checkedI128 n = some p) : p = n := by
  unfold checkedI128 at h
  split at h
  · exact (Option.some.inj h).symm
  · cases h

theorem componentCostRun_eq (tokens : UInt64) (price : PricePerMillion) :
    componentCostRun tokens price = some (componentCost tokens.toNat price) := by
  have hproduct : 0 ≤ (tokens.toNat : Int) * price.value :=
    mul_nonneg (Int.natCast_nonneg _) price.nonneg
  unfold componentCostRun componentCost roundedCost
  cases hp : checkedI128 (tokens.toNat * price.value) with
  | none => rfl
  | some product =>
    have hproductEq := checkedI128_some hp
    cases hd : checkedI128 (product * 2) with
    | none => simp only [Option.bind_some, hd, Option.bind_none]
    | some doubled =>
      have hdoubledEq := checkedI128_some hd
      cases hs : checkedI128 (doubled + tokensPerPriceUnit) with
      | none => simp only [Option.bind_some, hd, hs, Option.bind_none, Option.map_none]
      | some p =>
        have hpEq := checkedI128_some hs
        have hnonneg : 0 ≤ p := by
          unfold tokensPerPriceUnit at hpEq
          omega
        have hunit : checkedI128 (tokensPerPriceUnit * 2) = some (tokensPerPriceUnit * 2) := by
          decide
        rw [← hpEq] at hs
        simp only [Option.bind_some, hd, ← hpEq, hs, hunit]
        exact congrArg (Option.map _) (divI128_twice_unit hs hnonneg)

/-- On the machine types nothing overflows, wraps or panics. -/
theorem priceLineRun_eq (input cached output : UInt64) (prices : PricingSnapshot) :
    priceLineRun input cached output prices =
      some (priceLine input.toNat cached.toNat output.toNat prices) := by
  unfold priceLineRun
  by_cases hexceeds : input < cached
  · rw [if_pos hexceeds, priceLine_exceeds (UInt64.lt_iff_toNat_lt.1 hexceeds)]
  · have hle : cached ≤ input := UInt64.not_lt.1 hexceeds
    have hsub : subU64 input cached = some (input - cached) := by
      unfold subU64
      rw [if_pos hle]
    have huncached : (input - cached).toNat = input.toNat - cached.toNat :=
      UInt64.toNat_sub_of_le _ _ hle
    have hlt : ¬ input.toNat < cached.toNat := fun h => hexceeds (UInt64.lt_iff_toNat_lt.2 h)
    rw [if_neg hexceeds, hsub]
    simp only [Option.bind_some, componentCostRun_eq, Option.map_some]
    unfold priceLine components
    rw [if_neg hlt, huncached]
    dsimp only
    generalize componentCost (input.toNat - cached.toNat) prices.input = inputCost
    generalize componentCost cached.toNat prices.cachedInput = cachedCost
    generalize componentCost output.toNat prices.output = outputCost
    cases inputCost with
    | error e => rfl
    | ok inputCost =>
      cases cachedCost with
      | error e => rfl
      | ok cachedCost =>
        cases outputCost with
        | error e => rfl
        | ok outputCost => rfl

/-! ## The whole rule -/

/-- Pricing is exact: a component is the rounded rational wherever an `i64` holds it, a line is
its parts and their sum, every refusal has its own reason, no step leaves its machine type, and
neither more tokens nor a higher price cost less. -/
theorem pricing_exact :
    (∀ (tokens : UInt64) (price : PricePerMillion),
      componentCostRun tokens price = some (componentCost tokens.toNat price) ∧
      (∀ cost, componentCost tokens.toNat price = .ok cost ↔
        cost.value = halfAway (rationalCost tokens.toNat price)) ∧
      ((∃ cost, componentCost tokens.toNat price = .ok cost) ↔
        FitsI64 (halfAway (rationalCost tokens.toNat price))) ∧
      (¬ FitsI64 (halfAway (rationalCost tokens.toNat price)) →
        componentCost tokens.toNat price = .error (.overflow "pricing a token count"))) ∧
    (∀ (input cached output : UInt64) (prices : PricingSnapshot),
      priceLineRun input cached output prices =
        some (priceLine input.toNat cached.toNat output.toNat prices)) ∧
    (∀ (input cached output : Nat) (prices : PricingSnapshot),
      (∀ cost, priceLine input cached output prices = .ok cost ↔
        cached ≤ input ∧ cost.uncachedInputTokens = input - cached ∧
          PartsCost input cached output prices
            (cost.inputCost, cost.cachedInputCost, cost.outputCost) ∧
          cost.total.value =
            partsTotal (cost.inputCost, cost.cachedInputCost, cost.outputCost)) ∧
      ((∃ cost, priceLine input cached output prices = .ok cost) ↔
        cached ≤ input ∧
          ∃ parts, PartsCost input cached output prices parts ∧ FitsI64 (partsTotal parts)) ∧
      (input < cached →
        priceLine input cached output prices = .error (.cachedExceedsInput input cached)) ∧
      (cached ≤ input → (¬ ∃ parts, PartsCost input cached output prices parts) →
        priceLine input cached output prices = .error (.overflow "pricing a token count")) ∧
      (∀ parts, cached ≤ input → PartsCost input cached output prices parts →
        ¬ FitsI64 (partsTotal parts) →
        priceLine input cached output prices =
          .error (.overflow "adding up a line's component costs"))) ∧
    (∀ (tokens tokens' : Nat) (price price' : PricePerMillion) (cost' : MicroUsd),
      tokens ≤ tokens' → price.value ≤ price'.value →
      componentCost tokens' price' = .ok cost' →
      ∃ cost, componentCost tokens price = .ok cost ∧ cost.value ≤ cost'.value) ∧
    (∀ (uncached uncached' cached cached' output output' : Nat) (prices prices' : PricingSnapshot)
      (cost' : LineCost),
      uncached ≤ uncached' → cached ≤ cached' → output ≤ output' →
      prices.input.value ≤ prices'.input.value →
      prices.cachedInput.value ≤ prices'.cachedInput.value →
      prices.output.value ≤ prices'.output.value →
      priceLine (uncached' + cached') cached' output' prices' = .ok cost' →
      ∃ cost, priceLine (uncached + cached) cached output prices = .ok cost ∧
        cost.total.value ≤ cost'.total.value) := by
  refine ⟨fun tokens price => ⟨componentCostRun_eq tokens price, ?_, componentCost_isOk_iff, ?_⟩,
    priceLineRun_eq, fun input cached output prices => ⟨?_, priceLine_isOk_iff,
      priceLine_exceeds, priceLine_component_overflow, ?_⟩, ?_, ?_⟩
  · intro cost
    exact componentCost_ok_iff_halfAway
  · intro hfits
    rcases componentCost_cases tokens.toNat price with hok | herror
    · exact absurd (componentCost_isOk_iff.1 hok) hfits
    · exact herror
  · intro cost
    exact priceLine_ok_iff
  · intro parts hle hparts hfits
    exact priceLine_total_overflow hle hparts hfits
  · intro tokens tokens' price price' cost' htokens hprice hcost'
    exact componentCost_mono htokens hprice hcost'
  · intro uncached uncached' cached cached' output output' prices prices' cost' huncached hcached
      houtput hinputPrice hcachedPrice houtputPrice hcost'
    exact priceLine_mono huncached hcached houtput hinputPrice hcachedPrice houtputPrice hcost'

end PartnerPortal
