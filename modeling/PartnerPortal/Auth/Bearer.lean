import PartnerPortal.Config.Loader
import PartnerPortal.Dashboard.Cursor
import PartnerPortal.Dashboard.Query
import PartnerPortal.Lib.HeaderMap

/-!
# Bearer credentials

The credential of a request: a partner key, which is hashed and looked up in the snapshot, or the
manager's password.

Results:
- `extractBearerToken_bearer` — a plaintext sent after `Bearer` is extracted without the white space
  around it.
-/

namespace PartnerPortal

open Dashboard

inductive AuthError where
  | missingAuthorization
  | invalidFormat
  | invalidKey
deriving Repr, DecidableEq

/-- `Config::find_manager` -/
def Config.findManager (config : Config) (token : String) : Option ManagerConfig :=
  config.manager.filter fun manager =>
    manager.password ≠ "" && constantTimeEq (asBytes manager.password.toList) (asBytes token.toList)

section Request

variable (texts : HeaderText) (headers : HeaderMap (List UInt8))

/-- The token of the first `Authorization` line, if that is a text. -/
def extractBearerToken : Except AuthError String :=
  match (HeaderMap.get headers "authorization").bind texts.toStr with
  | none => .error .missingAuthorization
  | some header =>
    match splitOnce ' ' header.toList with
    | none => .error .invalidFormat
    | some (scheme, token) =>
      if !eqIgnoreAsciiCase (String.ofList scheme) "bearer" then .error .invalidFormat
      else if Text.trim (String.ofList token) = "" then .error .invalidFormat
      else .ok (Text.trim (String.ofList token))

/-- `Authenticated::from_request_parts` -/
def authenticated (deriveKeyHash : String → String) (snapshot : PartnerSnapshot) (config : Config) :
    Except AuthError ConsumerContext := do
  let token ← extractBearerToken texts headers
  match authenticate deriveKeyHash snapshot token with
  | some partner => return .partner partner
  | none => if (config.findManager token).isSome then return .manager else .error .invalidKey

/-- What `Authorization: Bearer <plaintext>` has as its value. -/
def bearer (plaintext : String) : List UInt8 := headerValue ("Bearer " ++ plaintext)

variable {headers}

theorem extractBearerToken_bearer {plaintext : String}
    (hvisible : ∀ c ∈ plaintext.toList, isVisible c = true) (hblank : Text.trim plaintext ≠ "")
    (hheader : HeaderMap.get headers "authorization" = some (bearer plaintext)) :
    extractBearerToken texts headers = .ok (Text.trim plaintext) := by
  have hall : ∀ c ∈ ("Bearer " ++ plaintext).toList, isVisible c = true := by
    intro c hc
    rw [String.toList_append, List.mem_append] at hc
    rcases hc with hc | hc
    · exact (show ∀ c ∈ ['B', 'e', 'a', 'r', 'e', 'r', ' '], isVisible c = true by simp [isVisible]) c hc
    · exact hvisible c hc
  have hsplit : splitOnce ' ' ("Bearer " ++ plaintext).toList =
      some (['B', 'e', 'a', 'r', 'e', 'r'], plaintext.toList) := by
    have hspace : ' ' ∉ ['B', 'e', 'a', 'r', 'e', 'r'] := by decide
    rw [String.toList_append]
    exact splitOnce_append hspace
  have hscheme : eqIgnoreAsciiCase (String.ofList ['B', 'e', 'a', 'r', 'e', 'r']) "bearer" = true := by
    decide
  simp only [extractBearerToken, hheader, Option.bind_some, bearer, texts.toStr_headerValue hall, hsplit,
    hscheme, Bool.not_true, Bool.false_eq_true, if_false, String.ofList_toList, if_neg hblank]

end Request

namespace Sample

/-- Texts are read as they should be. -/
def headerText : HeaderText where
  toStr value := if (latin1 value).all isVisible then some (String.ofList (latin1 value)) else none
  visible _ h := if_pos h
  other _ h := if_neg (ne_true_of_eq_false h)

end Sample

end PartnerPortal
