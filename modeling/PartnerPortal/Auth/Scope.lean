import PartnerPortal.Lib.Prepared
import PartnerPortal.Lib.Text
import PartnerPortal.Proxy.Handler

/-!
# What a credential may see

The consumers one query may read, and the condition on a row that says so.

Results:
- `resolveScope_partner` — the scope of a key is its own consumer, whatever is asked for;
- `Scope.boundCond_selects` — the rendered condition selects the rows of the consumers in scope.
-/

namespace PartnerPortal

open Prepared

/-- The consumers one query may read. -/
inductive Scope where
  | one (consumerId : String)
  /-- the consumers a manager asked to see -/
  | list (consumerIds : List String)
  | all
deriving Repr, DecidableEq

/-- The names in a comma-separated list. -/
def requestedConsumers (consumers : String) : List String :=
  ((consumers.toList.splitOn ',').map fun name => Text.trim (String.ofList name)).filter (· ≠ "")

def resolveScope (consumer : ConsumerContext) (consumers : String) : Scope :=
  if consumer.isManager then
    let requested := requestedConsumers consumers
    if requested = [] then .all else .list requested
  else .one consumer.consumerId

namespace Scope

variable {ρ : Type*}

/-- The condition of `scope_clause`, over a table with a consumer column. -/
def cond (consumer : ρ → String) : Scope → Cond ρ
  | .one _ => .column (fun row => .text (consumer row)) Value.equals .next
  | .list consumers => .oneOf (fun row => .text (consumer row)) consumers.length
  | .all => .test fun _ => some true

/-- The parameters of `scope_clause`. -/
def params : Scope → List Value
  | .one consumerId => [.text consumerId]
  | .list consumers => consumers.map .text
  | .all => []

def contains (consumerId : String) : Scope → Bool
  | .one id => consumerId = id
  | .list consumers => consumerId ∈ consumers
  | .all => true

/-- The condition with its parameters. -/
def boundCond (consumer : ρ → String) (scope : Scope) : BoundCond ρ where
  cond := scope.cond consumer
  values := scope.params
  anonymous := by cases scope <;> trivial
  enough := by cases scope <;> simp [cond, params, Cond.arity]

theorem selects_within_text (value : String) (consumers : List String) :
    Sql.selects (within (.text value) (consumers.map .text)) = decide (value ∈ consumers) := by
  induction consumers with
  | nil => rfl
  | cons name consumers ih =>
    rw [List.map_cons, within, List.foldr_cons, Sql.selects_or]
    change (_ || Sql.selects (within _ _)) = _
    rw [ih]
    by_cases h : value = name <;> simp [Value.equals, Sql.selects, h]

/-- The rendered condition selects the rows of the consumers in scope. -/
theorem boundCond_selects (consumer : ρ → String) (scope : Scope) (row : ρ) :
    (scope.boundCond consumer).selects row = scope.contains (consumer row) := by
  cases scope with
  | one id =>
    show Sql.selects (Value.equals (.text (consumer row)) (.text id)) = decide (consumer row = id)
    by_cases h : consumer row = id <;> simp [Value.equals, Sql.selects, h]
  | list consumers =>
    show Sql.selects (within _ ((List.range consumers.length).map fun i =>
      (consumers.map Value.text).getD (0 + i) .null)) = decide (consumer row ∈ consumers)
    rw [← selects_within_text]
    congr 2
    apply List.ext_getElem
    · simp
    · intro i h₁ h₂
      simp only [List.length_map] at h₂
      simp [List.getD_eq_getElem?_getD, List.getElem?_eq_getElem h₂]
  | all => rfl

end Scope

/-- The scope of a key is its own consumer, whatever is asked for. -/
theorem resolveScope_partner (config : PartnerRuntimeConfig) (consumers : String) :
    resolveScope (.partner config) consumers = .one config.consumerId := rfl

end PartnerPortal
