import PartnerPortal.Lib.MachineInt
import PartnerPortal.Lib.Result

/-!
# Prices and amounts

Prices in micro-dollars per million tokens, amounts in micro-dollars, and the cost of a statement
line.  Every intermediate is checked, and an amount that does not fit is refused.

Results:
- `componentCost_ok_iff` — a component costs the rounded product, when an `i64` holds it;
- `priceLine_ok` — what a priced line is made of.
-/

namespace PartnerPortal

open MachineInt

/-- An amount in micro-dollars.  No amount is negative. -/
abbrev MicroUsd := Count

/-- A price in micro-dollars per million tokens. -/
abbrev PricePerMillion := Count

def tokensPerPriceUnit : Int := 1000000

/-- The three prices a request is metered at. -/
@[ext] structure PricingSnapshot where
  input : PricePerMillion
  cachedInput : PricePerMillion
  output : PricePerMillion
deriving DecidableEq

/-- Why a row cannot be priced. -/
inductive PriceError where
  | noPriceSnapshot (column : String)
  | incompleteUsage
  | cachedExceedsInput (inputTokens cachedTokens : Nat)
  | overflow (context : String)
  | notANumber (text : String)
  | outOfRange (text : String)
deriving Repr, DecidableEq

/-- `require` -/
def requireColumn (value : Option Count) (column : String) : Except PriceError Count :=
  match value with
  | some value => .ok value
  | none => .error (.noPriceSnapshot column)

namespace PricingSnapshot

/-- The prices of a usage row, which are there only when all three columns are. -/
def fromColumns (input cachedInput output : Option Count) :
    Except PriceError PricingSnapshot := do
  let input ← requireColumn input "input_price_snapshot"
  let cachedInput ← requireColumn cachedInput "cached_input_price_snapshot"
  let output ← requireColumn output "output_price_snapshot"
  return { input := input, cachedInput := cachedInput, output := output }

theorem fromColumns_ok_iff {input cachedInput output : Option Count} {prices : PricingSnapshot} :
    fromColumns input cachedInput output = .ok prices ↔
      input = some prices.input ∧ cachedInput = some prices.cachedInput ∧
        output = some prices.output := by
  cases input with
  | none => simp [fromColumns, requireColumn]
  | some i =>
    cases cachedInput with
    | none => simp [fromColumns, requireColumn]
    | some c =>
      cases output with
      | none => simp [fromColumns, requireColumn]
      | some o => simp [fromColumns, requireColumn, PricingSnapshot.ext_iff]

end PricingSnapshot

/-! ## Costs -/

/-- `tokens × price / 1_000_000`, rounded half away from zero, with every step checked in `i128`. -/
def roundedCost (tokens : Nat) (price : PricePerMillion) : Option Int :=
  (checkedI128 (tokens * price.value)).bind fun product =>
    (checkedI128 (product * 2)).bind fun doubled =>
      (checkedI128 (doubled + tokensPerPriceUnit)).map fun p => p.tdiv (tokensPerPriceUnit * 2)

/-- The cost of one component, if an `i64` holds it. -/
def componentCost (tokens : Nat) (price : PricePerMillion) : Except PriceError MicroUsd :=
  match (roundedCost tokens price).bind Count.ofInt with
  | some cost => .ok cost
  | none => .error (.overflow "pricing a token count")

/-- The three component costs of a line, each rounded by itself. -/
def components (inputTokens cachedInputTokens outputTokens : Nat) (prices : PricingSnapshot) :
    Except PriceError (MicroUsd × MicroUsd × MicroUsd) := do
  if inputTokens < cachedInputTokens then
    .error (.cachedExceedsInput inputTokens cachedInputTokens)
  else
    let uncached := inputTokens - cachedInputTokens
    let input ← componentCost uncached prices.input
    let cached ← componentCost cachedInputTokens prices.cachedInput
    let output ← componentCost outputTokens prices.output
    return (input, cached, output)

/-- What one line costs. -/
structure LineCost where
  uncachedInputTokens : Nat
  inputCost : MicroUsd
  cachedInputCost : MicroUsd
  outputCost : MicroUsd
  total : MicroUsd
deriving DecidableEq

/-- `LineCost::total`: the parts are added, never recomputed from the tokens. -/
def LineCost.ofParts (inputCost cachedInputCost outputCost : MicroUsd)
    (uncachedInputTokens : Nat) : Except PriceError LineCost :=
  match (inputCost.checkedAdd cachedInputCost).bind fun sum => sum.checkedAdd outputCost with
  | some total =>
    .ok { uncachedInputTokens := uncachedInputTokens
          inputCost := inputCost
          cachedInputCost := cachedInputCost
          outputCost := outputCost
          total := total }
  | none => .error (.overflow "adding up a line's component costs")

/-- Price a line, or say why it cannot be priced. -/
def priceLine (inputTokens cachedInputTokens outputTokens : Nat) (prices : PricingSnapshot) :
    Except PriceError LineCost := do
  let (inputCost, cachedInputCost, outputCost) ←
    components inputTokens cachedInputTokens outputTokens prices
  LineCost.ofParts inputCost cachedInputCost outputCost (inputTokens - cachedInputTokens)

/-- The token counts a charge is computed from: `(input, output, cached)`. -/
def billable (inputTokens outputTokens cachedInputTokens : Option Nat) :
    Except PriceError (Nat × Nat × Nat) :=
  match inputTokens, outputTokens with
  | some input, some output => .ok (input, output, cachedInputTokens.getD 0)
  | _, _ => .error .incompleteUsage

/-- Whether a cached count must be known before a line can be charged. -/
def needsCachedCount (prices : PricingSnapshot) : Bool :=
  prices.cachedInput ≠ prices.input

/-! ## What a priced line is made of -/

theorem checkedI128_of_range {n : Int} (h0 : 0 ≤ n)
    (h1 : n ≤ 170141183460469231731687303715884105727) : checkedI128 n = some n := by
  unfold checkedI128
  rw [if_pos (by omega)]

theorem checkedI128_of_gt {n : Int} (h : 170141183460469231731687303715884105727 < n) :
    checkedI128 n = none := by
  unfold checkedI128
  rw [if_neg (by omega)]

/-- The rounding overflows only where the product itself is past half of an `i128`. -/
theorem roundedCost_eq (tokens : Nat) (price : PricePerMillion) :
    roundedCost tokens price =
      if tokens * price.value * 2 + 1000000 ≤ 170141183460469231731687303715884105727 then
        some ((tokens * price.value * 2 + 1000000) / 2000000)
      else none := by
  have hnonneg : 0 ≤ (tokens : Int) * price.value := Int.mul_nonneg (by omega) price.nonneg
  unfold roundedCost tokensPerPriceUnit
  generalize (tokens : Int) * price.value = product at *
  split
  · rename_i hrange
    rw [checkedI128_of_range hnonneg (by omega), Option.bind_some,
      checkedI128_of_range (by omega) (by omega), Option.bind_some,
      checkedI128_of_range (by omega) hrange, Option.map_some,
      Int.tdiv_eq_ediv_of_nonneg (by omega)]
    rfl
  · rename_i hrange
    by_cases hproduct : product ≤ 170141183460469231731687303715884105727
    · rw [checkedI128_of_range hnonneg hproduct, Option.bind_some]
      by_cases hdoubled : product * 2 ≤ 170141183460469231731687303715884105727
      · rw [checkedI128_of_range (by omega) hdoubled, Option.bind_some,
          checkedI128_of_gt (by omega), Option.map_none]
      · rw [checkedI128_of_gt (by omega), Option.bind_none]
    · rw [checkedI128_of_gt (by omega), Option.bind_none]

/-- A component costs the product rounded half up, when an `i64` holds it. -/
theorem componentCost_ok_iff {tokens : Nat} {price : PricePerMillion} {cost : MicroUsd} :
    componentCost tokens price = .ok cost ↔
      cost.value = (tokens * price.value * 2 + 1000000) / 2000000 := by
  have hcost : componentCost tokens price = .ok cost ↔
      (roundedCost tokens price).bind Count.ofInt = some cost := by
    unfold componentCost
    split <;> rename_i h <;> simp [h]
  rw [hcost, roundedCost_eq]
  split
  · rw [Option.bind_some, Count.ofInt_eq_some_iff]
  · rename_i hrange
    have hmax := cost.le_max
    unfold i64Max at hmax
    simp only [Option.bind_none, reduceCtorEq, false_iff]
    omega

/-- A priced line has its parts: they are priced one by one, and their sum is the total. -/
theorem priceLine_ok {input cached output : Nat} {prices : PricingSnapshot} {cost : LineCost}
    (h : priceLine input cached output prices = .ok cost) :
    cached ≤ input ∧ cost.uncachedInputTokens = input - cached ∧
      componentCost (input - cached) prices.input = .ok cost.inputCost ∧
      componentCost cached prices.cachedInput = .ok cost.cachedInputCost ∧
      componentCost output prices.output = .ok cost.outputCost ∧
      cost.total.value =
        cost.inputCost.value + cost.cachedInputCost.value + cost.outputCost.value := by
  obtain ⟨⟨inputCost, cachedCost, outputCost⟩, hparts, h⟩ := Result.bind_ok_iff.1 h
  unfold components at hparts
  split at hparts
  · cases hparts
  · rename_i hle
    obtain ⟨inputCost', hinput, hparts⟩ := Result.bind_ok_iff.1 hparts
    obtain ⟨cachedCost', hcached, hparts⟩ := Result.bind_ok_iff.1 hparts
    obtain ⟨outputCost', houtput, hparts⟩ := Result.bind_ok_iff.1 hparts
    cases hparts
    simp only [LineCost.ofParts] at h
    split at h
    · rename_i total htotal
      cases h
      obtain ⟨sum, hsum, htotal⟩ := Option.bind_eq_some_iff.1 htotal
      rw [Count.checkedAdd_eq_some_iff] at hsum htotal
      exact ⟨Nat.not_lt.1 hle, rfl, hinput, hcached, houtput, by simp only; omega⟩
    · cases h

end PartnerPortal
