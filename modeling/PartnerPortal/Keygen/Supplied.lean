import PartnerPortal.ApiKeys.Working
import PartnerPortal.Auth.Bearer
import PartnerPortal.Config.Dates

/-!
# Supplied plaintexts

A plaintext that an operator supplies is stored as given, from standard input without its newline.  A
request's token is trimmed.

Results:
- `resolvePlaintext_given` — the plaintext of each source;
- `supplied_plaintext_authenticates_iff` — when a supplied plaintext is authenticated.
-/

namespace PartnerPortal

/-! ## The plaintext -/

/-- Where the plaintext comes from. -/
inductive Plaintext where
  | generated
  | supplied (value : String)
  | fromStdin
deriving Repr, DecidableEq

inductive StdinError where
  /-- reading failed -/
  | stdin
  | emptyStdin
deriving Repr, DecidableEq

/-- `read_line`: a line with its newline, if it has one. -/
def readLine (text : List Char) : List Char :=
  text.takeWhile (· ≠ '\n') ++ (text.dropWhile (· ≠ '\n')).take 1

/-- `strip_suffix('\n')`, or the line. -/
def stripNewline (line : List Char) : List Char :=
  if line.getLast? = some '\n' then line.dropLast else line

/-- `resolve_plaintext`, with what standard input has where it can be read. -/
def resolvePlaintext (source : Plaintext) (stdin : Option String) :
    Except StdinError (Option String) :=
  match source with
  | .generated => .ok none
  | .supplied value => .ok (some value)
  | .fromStdin =>
    match stdin with
    | none => .error .stdin
    | some text =>
      let line := readLine text.toList
      if line = [] then .error .emptyStdin else .ok (some (String.ofList (stripNewline line)))

/-- What the operator gave: the value, or the first line without its end. -/
def Plaintext.given (stdin : Option String) : Plaintext → String
  | .generated => ""
  | .supplied value => value
  | .fromStdin => String.ofList ((stdin.getD "").toList.takeWhile (· ≠ '\n'))

theorem stripNewline_readLine (text : List Char) :
    stripNewline (readLine text) = text.takeWhile (· ≠ '\n') := by
  rw [readLine]
  cases hrest : text.dropWhile (· ≠ '\n') with
  | nil =>
    -- without a newline the last character is another one
    rw [List.take_nil, List.append_nil, stripNewline, if_neg]
    intro hlast
    have hmem := List.mem_takeWhile_imp (List.mem_of_getLast? hlast)
    exact absurd rfl (of_decide_eq_true hmem)
  | cons c rest =>
    have hc : c = '\n' := by
      have hnot := @List.head_dropWhile_not _ (· ≠ '\n') text (by rw [hrest]; exact List.cons_ne_nil _ _)
      simpa only [hrest, List.head_cons, decide_eq_false_iff_not, not_not] using hnot
    rw [hc, List.take_one, List.head?_cons, Option.toList_some, stripNewline,
      List.getLast?_concat, if_pos rfl, List.dropLast_concat]

theorem resolvePlaintext_given {source : Plaintext} {stdin : Option String} {plaintext : String}
    (h : resolvePlaintext source stdin = .ok (some plaintext)) : plaintext = source.given stdin := by
  cases source with
  | generated => cases h
  | supplied value =>
    cases h
    rfl
  | fromStdin =>
    cases stdin with
    | none => cases h
    | some text =>
      simp only [resolvePlaintext, stripNewline_readLine] at h
      split at h
      · cases h
      · cases h
        rfl

/-! ## The request -/

section Request

variable {deriveKeyHash : String → String} {iso : Iso8601} {db written : Database}
  {fault : Option SqliteError} {now later : Instant} {row : ApiKeyRow} {plaintext : String}
  {rows : List (String × PartnerRuntimeConfig)}

/-- A request is authenticated as a key of a consumer. -/
def RequestAuthenticatesAs (texts : HeaderText) (deriveKeyHash : String → String)
    (snapshot : PartnerSnapshot) (config : Config) (headers : HeaderMap (List UInt8))
    (consumerId : String) : Prop :=
  ∃ partner, authenticated texts headers deriveKeyHash snapshot config = .ok (.partner partner) ∧
    partner.consumerId = consumerId

/-- A request with a plaintext is authenticated as what its trimmed text is. -/
theorem requestAuthenticatesAs_iff {texts : HeaderText} {snapshot : PartnerSnapshot} {config : Config}
    {headers : HeaderMap (List UInt8)} {consumerId : String}
    (hvisible : ∀ c ∈ plaintext.toList, isVisible c = true) (hblank : Text.trim plaintext ≠ "")
    (hheader : HeaderMap.get headers "authorization" = some (bearer plaintext)) :
    RequestAuthenticatesAs texts deriveKeyHash snapshot config headers consumerId ↔
      AuthenticatesAs deriveKeyHash snapshot (Text.trim plaintext) consumerId := by
  rw [RequestAuthenticatesAs, authenticated, extractBearerToken_bearer texts hvisible hblank hheader,
    Result.ok_bind, AuthenticatesAs]
  cases hfound : authenticate deriveKeyHash snapshot (Text.trim plaintext) with
  | none =>
    simp only [reduceCtorEq, false_and, exists_false, iff_false, not_exists, not_and]
    intro partner hpartner
    split at hpartner <;> cases hpartner
  | some partner => simp [pure, Except.pure]

/-- No other key is active for the consumer of a created one. -/
theorem created_authenticatesAs_trim_iff (hinjective : Function.Injective deriveKeyHash)
    {name consumerId : String} {expiresAt : Option OffsetDateTime}
    (h : createWithPlaintext deriveKeyHash fault now name consumerId expiresAt plaintext db =
      .ok (.ok (written, .ok row)))
    (hload : loadActive iso written later = .ok rows) :
    AuthenticatesAs deriveKeyHash (.fromRows rows) (Text.trim plaintext) row.consumerId ↔
      Text.trim plaintext = plaintext ∧ ∀ expiry, expiresAt = some expiry → later.utc < expiry := by
  constructor
  · intro hauth
    obtain ⟨config, hconfig, hconsumer⟩ := id hauth
    obtain ⟨-, key, hinsert, hhash, -⟩ := createWithPlaintext_inserts h
    obtain ⟨hrow, -, -, hactive⟩ := insertKey_only hinsert
    obtain ⟨k, hk, husable, hsame, hkconsumer⟩ := authenticate_key hload hconfig
    have hstatus : k.row.status = .active := by
      rw [KeyRecord.usable, Bool.and_eq_true] at husable
      exact of_decide_eq_true husable.1
    have hrecord := hactive k hk (by rw [hkconsumer, hconsumer, hrow]; rfl) hstatus
    rw [hrecord] at hsame
    have htrim : Text.trim plaintext = plaintext := hinjective (hsame.symm.trans hhash)
    exact ⟨htrim, (created_authenticatesAs_iff h hload).1 (by rwa [htrim] at hauth)⟩
  · rintro ⟨htrim, hunexpired⟩
    rw [htrim]
    exact (created_authenticatesAs_iff h hload).2 hunexpired

/-- A request with a supplied plaintext is authenticated as its key exactly where what the operator gave
has no white space at its ends, until the key expires. -/
theorem supplied_plaintext_authenticates_iff (texts : HeaderText) (config : Config)
    (hinjective : Function.Injective deriveKeyHash) {source : Plaintext} {stdin : Option String}
    (hsource : resolvePlaintext source stdin = .ok (some plaintext))
    (hvisible : ∀ c ∈ plaintext.toList, isVisible c = true)
    {name consumerId : String} {expiresAt : Option OffsetDateTime}
    (hcreate : createWithPlaintext deriveKeyHash fault now name consumerId expiresAt plaintext db =
      .ok (.ok (written, .ok row)))
    (hload : loadActive iso written later = .ok rows) {headers : HeaderMap (List UInt8)}
    (hheader : HeaderMap.get headers "authorization" = some (bearer plaintext)) :
    RequestAuthenticatesAs texts deriveKeyHash (.fromRows rows) config headers row.consumerId ↔
      Text.trim (source.given stdin) = source.given stdin ∧
        ∀ expiry, expiresAt = some expiry → later.utc < expiry := by
  obtain ⟨hblank, -⟩ := createWithPlaintext_inserts hcreate
  rw [requestAuthenticatesAs_iff hvisible hblank hheader,
    created_authenticatesAs_trim_iff hinjective hcreate hload, ← resolvePlaintext_given hsource]

end Request

namespace Sample

def noKeys : Database := { keyDatabase with keys := [], nextKeyId := 1 }

/-- The database after a key with this plaintext was created. -/
def suppliedDatabase (plaintext : String) : Database :=
  { noKeys with keys := [suppliedKey.record 1], nextKeyId := 2 }
where
  suppliedKey : NewKey :=
    { name := "first"
      consumerId := "acme"
      keyPrefix := keyPrefixOf plaintext
      hash := keyHash plaintext
      now := formatInstant keyClock
      expiresAt := none }

def suppliedRow (plaintext : String) : ApiKeyRow :=
  ((suppliedDatabase.suppliedKey plaintext).record 1).row

theorem supplied_sample {plaintext : String} (h : Text.trim plaintext ≠ "") :
    createWithPlaintext keyHash none keyClock "first" "acme" none plaintext noKeys =
      .ok (.ok (suppliedDatabase plaintext, .ok (suppliedRow plaintext))) := by
  have hcheck : checkNewKey "first" "acme" plaintext = .ok ("first", "acme") := by
    have hname : requireText "name" "first" = .ok "first" := by decide +kernel
    have hconsumer : requireText "consumer_id" "acme" = .ok "acme" := by decide +kernel
    rw [checkNewKey, hname, hconsumer, Result.ok_bind, Result.ok_bind, if_neg h, Result.pure_eq]
  rw [createWithPlaintext, hcheck]
  rfl

theorem loadActive_supplied (plaintext : String) :
    loadActive iso (suppliedDatabase plaintext) keyClock = .ok [(keyHash plaintext, keyConfig)] := rfl

theorem keyHash_injective : Function.Injective keyHash := by
  intro a b h
  have hlist := congrArg String.toList h
  rw [keyHash, keyHash, String.toList_append, String.toList_append] at hlist
  exact String.toList_injective (List.append_cancel_left hlist)

end Sample

/-- A plaintext on a line of standard input. -/
theorem supplied_plaintext_authenticates_iff_sample :
    RequestAuthenticatesAs Sample.headerText Sample.keyHash
        (.fromRows [(Sample.keyHash "secret", Sample.keyConfig)]) Sample.defaultConfig
        [("authorization", bearer "secret")] (Sample.suppliedRow "secret").consumerId ↔
      Text.trim (Plaintext.fromStdin.given (some "secret\n")) =
          Plaintext.fromStdin.given (some "secret\n") ∧
        ∀ expiry, none = some expiry → Sample.keyClock.utc < expiry :=
  supplied_plaintext_authenticates_iff Sample.headerText Sample.defaultConfig Sample.keyHash_injective
    (show resolvePlaintext .fromStdin (some "secret\n") = .ok (some "secret") by decide +kernel)
    (List.all_eq_true.1 (by decide +kernel)) (Sample.supplied_sample (by decide +kernel))
    (Sample.loadActive_supplied "secret") rfl

/-- A plaintext with a space at its end is accepted, and refused in a request. -/
theorem padded_plaintext_refused : ¬∀ texts config deriveKeyHash iso db written now later row plaintext rows
      headers, Function.Injective deriveKeyHash →
    (∀ c ∈ plaintext.toList, isVisible c = true) →
    createWithPlaintext deriveKeyHash none now "first" "acme" none plaintext db =
      .ok (.ok (written, .ok row)) →
    loadActive iso written later = .ok rows →
    HeaderMap.get headers "authorization" = some (bearer plaintext) →
    RequestAuthenticatesAs texts deriveKeyHash (.fromRows rows) config headers row.consumerId := by
  intro hall
  have hvisible : ∀ c ∈ "secret ".toList, isVisible c = true := List.all_eq_true.1 (by decide +kernel)
  have hauth := hall Sample.headerText Sample.defaultConfig Sample.keyHash Sample.iso _ _ _ _ _ "secret " _
    [("authorization", bearer "secret ")] Sample.keyHash_injective hvisible
    (Sample.supplied_sample (by decide +kernel)) (Sample.loadActive_supplied "secret ") rfl
  rw [requestAuthenticatesAs_iff hvisible (by decide +kernel) rfl,
    created_authenticatesAs_trim_iff Sample.keyHash_injective
      (Sample.supplied_sample (by decide +kernel)) (Sample.loadActive_supplied "secret ")] at hauth
  exact absurd hauth.1 (by decide +kernel)

end PartnerPortal
