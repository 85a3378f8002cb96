import Mathlib.Data.List.DropRight
import PartnerPortal.Auth.Bearer

/-!
# Headers across the proxy

A request's headers are stripped and sent on with the upstream's credential; a response's headers are copied
over one by one.  Only the request's are compared with what `Connection` names, and only with its first
line, where that is a text.

Results:
- `mem_connectionTokens_iff` — the tokens of a line that is a text are those of its bytes;
- `getAll_stripHopByHop`, `getAll_forwardResponseHeaders` — what is left of each name;
- `headers_cross_iff` — when no header of one hop crosses, in both directions.
-/

namespace PartnerPortal

/-- `to_ascii_lowercase` -/
def asciiLower (text : String) : String := String.ofList (text.toList.map Char.toLower)

/-- `HOP_BY_HOP` -/
def hopByHop : List String :=
  ["connection", "keep-alive", "proxy-authenticate", "proxy-authorization", "te", "trailer",
    "transfer-encoding", "upgrade"]

def isHopByHop (name : String) : Bool := asciiLower name ∈ hopByHop

/-- The names in the text of a `Connection` line. -/
def connectionTokens (value : String) : List String :=
  ((value.toList.splitOn ',').map fun token =>
    asciiLower (Text.trim (String.ofList token))).filter (· ≠ "")

section Directions

variable (texts : HeaderText) (apiKey : String) (builder headers : HeaderMap (List UInt8))

/-- The names of the first `Connection` line. -/
def connectionNamed : List String :=
  match (HeaderMap.get headers "connection").bind texts.toStr with
  | some value => connectionTokens value
  | none => []

/-- `strip_hop_by_hop` -/
def stripHopByHop : HeaderMap (List UInt8) :=
  let named := connectionNamed texts headers
  HeaderMap.remove (HeaderMap.removeAll (HeaderMap.removeAll headers hopByHop) named) "host"

/-- The framing headers, the local credential and the encoding that would hide the usage. -/
def replacedHeaders : List String := ["content-length", "authorization", "accept-encoding"]

/-- `HeaderValue::try_from`: a value has no control characters but tabs. -/
def tryHeaderValue (text : String) : Option (List UInt8) :=
  let bytes := text.toUTF8.toList
  if bytes.all fun b => (32 ≤ b.toNat && b.toNat ≠ 127) || b.toNat = 9 then some bytes else none

/-- A header that a request has anyway. -/
def defaulted (name : String) (headers : HeaderMap (List UInt8)) : HeaderMap (List UInt8) :=
  if HeaderMap.contains headers name then [] else [(name, headerValue "application/json")]

/-- The headers `proxy` sends to the upstream, where its credential can be written. -/
def proxyHeaders : Option (HeaderMap (List UInt8)) :=
  let kept := HeaderMap.removeAll (stripHopByHop texts headers) replacedHeaders
  (tryHeaderValue ("Bearer " ++ apiKey)).map fun credential =>
    kept ++ [("authorization", credential)] ++ defaulted "content-type" kept ++ defaulted "accept" kept

/-- `forward_response_headers` -/
def forwardResponseHeaders : HeaderMap (List UInt8) :=
  builder ++ headers.filter fun line =>
    !isHopByHop line.1 && line.1 ≠ "content-length" && line.1 ≠ "set-cookie"

end Directions

/-! ## Headers of one hop -/

section Hop

variable (headers after : HeaderMap (List UInt8)) (name : String)

def isBlank (c : Char) : Bool := c = ' ' || c = '\t'

/-- A line of `Connection` names a header, in any case and with blanks around it. -/
def NamedIn (value : List UInt8) : Prop :=
  name ≠ "" ∧ ∃ token ∈ (latin1 value).splitOn ',',
    asciiLower (String.ofList ((token.dropWhile isBlank).rdropWhile isBlank)) = name

/-- Any line of `Connection` names a header. -/
def NamedByConnection : Prop := ∃ value ∈ HeaderMap.getAll headers "connection", NamedIn name value

/-- No header of one hop is left of a message. -/
def HopFree : Prop :=
  ∀ name, name ∈ hopByHop ∨ NamedByConnection headers name → HeaderMap.getAll after name = []

/-- Every other header that is there, and is not one of those that are dropped, is sent with all its
values in order. -/
def Forwards (dropped : List String) : Prop :=
  ∀ name, asciiLower name = name → name ∉ hopByHop → ¬NamedByConnection headers name → name ∉ dropped →
    HeaderMap.getAll headers name ≠ [] → HeaderMap.getAll after name = HeaderMap.getAll headers name

/-- The first line of `Connection` is a text and names a header. -/
def FirstLineNames : Prop :=
  ∃ value, HeaderMap.get headers "connection" = some value ∧ (latin1 value).all isVisible = true ∧
    NamedIn name value

/-- A header that is removed from a request: one of one hop, the host, or one that the first line
names. -/
def RemovedFromRequest : Prop := name ∈ hopByHop ∨ name = "host" ∨ FirstLineNames headers name

/-- Every header there that `Connection` names is removed, for its first line if for nothing else. -/
def FirstLineSuffices : Prop :=
  ∀ name, NamedByConnection headers name → HeaderMap.getAll headers name ≠ [] →
    RemovedFromRequest headers name

/-- `Connection` names no header there that a response keeps. -/
def NamesNothingKept : Prop :=
  ∀ name, NamedByConnection headers name → HeaderMap.getAll headers name ≠ [] →
    name ∈ hopByHop ∨ name = "content-length" ∨ name = "set-cookie"

end Hop

/-! ## Tokens -/

section Tokens

theorem toLower_toLower (c : Char) : c.toLower.toLower = c.toLower := by
  by_cases hupper : 'A'.val ≤ c.val ∧ c.val ≤ 'Z'.val
  · have hlower : c.toLower.val = c.val + 32 := congrArg Char.val (dif_pos hupper)
    have hlow : (65 : UInt32) ≤ c.val := hupper.1
    have hhigh : c.val ≤ (90 : UInt32) := hupper.2
    have hnot : ¬('A'.val ≤ c.toLower.val ∧ c.toLower.val ≤ 'Z'.val) := by
      rw [hlower]
      show ¬((65 : UInt32) ≤ c.val + 32 ∧ c.val + 32 ≤ (90 : UInt32))
      grind
    exact dif_neg hnot
  · have hsame : c.toLower = c := dif_neg hupper
    rw [hsame, hsame]

theorem asciiLower_asciiLower (text : String) : asciiLower (asciiLower text) = asciiLower text := by
  rw [asciiLower, asciiLower, String.toList_ofList, List.map_map]
  exact congrArg String.ofList (List.map_congr_left fun c _ => toLower_toLower c)

theorem dropWhile_congr {p q : Char → Bool} {text : List Char} (h : ∀ c ∈ text, p c = q c) :
    text.dropWhile p = text.dropWhile q := by
  induction text with
  | nil => rfl
  | cons c rest ih =>
    rw [List.dropWhile_cons, List.dropWhile_cons, h c List.mem_cons_self,
      ih fun d hd => h d (List.mem_cons_of_mem c hd)]

/-- The only white space in a text of visible characters is blank. -/
theorem isWhitespace_of_visible {c : Char} (h : isVisible c = true) :
    Text.isWhitespace c = isBlank c := by
  have hspace : c = ' ' ↔ c.toNat = 32 := Char.toNat_inj.symm
  have htab : c = '\t' ↔ c.toNat = 9 := Char.toNat_inj.symm
  simp only [isVisible, Bool.or_eq_true, Bool.and_eq_true, decide_eq_true_eq, htab] at h
  rw [Bool.eq_iff_iff]
  simp only [Text.isWhitespace, isBlank, Bool.or_eq_true, Bool.and_eq_true, decide_eq_true_eq, hspace,
    htab]
  omega

theorem trim_of_visible {token : List Char} (h : ∀ c ∈ token, isVisible c = true) :
    Text.trim (String.ofList token) =
      String.ofList ((token.dropWhile isBlank).rdropWhile isBlank) := by
  have hdrop : token.dropWhile Text.isWhitespace = token.dropWhile isBlank :=
    dropWhile_congr fun c hc => isWhitespace_of_visible (h c hc)
  have hrdrop : (token.dropWhile isBlank).rdropWhile Text.isWhitespace =
      (token.dropWhile isBlank).rdropWhile isBlank := by
    rw [List.rdropWhile, List.rdropWhile, dropWhile_congr fun c hc => isWhitespace_of_visible (h c ?_)]
    exact (List.dropWhile_sublist isBlank).subset (List.mem_reverse.1 hc)
  rw [Text.trim, String.toList_ofList, hdrop, hrdrop]

/-- The tokens of a line that is a text are those of its bytes. -/
theorem mem_connectionTokens_iff {value : List UInt8} (h : (latin1 value).all isVisible = true)
    {name : String} :
    name ∈ connectionTokens (String.ofList (latin1 value)) ↔ NamedIn name value := by
  have htrim : ∀ token ∈ (latin1 value).splitOn ',', Text.trim (String.ofList token) =
      String.ofList ((token.dropWhile isBlank).rdropWhile isBlank) := fun token htoken =>
    trim_of_visible fun c hc => List.all_eq_true.1 h c (Text.mem_of_mem_splitOn htoken hc)
  rw [connectionTokens, List.mem_filter, List.mem_map, String.toList_ofList, decide_eq_true_eq, and_comm]
  constructor
  · rintro ⟨hname, token, htoken, rfl⟩
    exact ⟨hname, token, htoken, by rw [htrim token htoken]⟩
  · rintro ⟨hname, token, htoken, rfl⟩
    exact ⟨hname, token, htoken, by rw [htrim token htoken]⟩

theorem mem_connectionNamed_iff {texts : HeaderText} {headers : HeaderMap (List UInt8)} {name : String} :
    name ∈ connectionNamed texts headers ↔ FirstLineNames headers name := by
  unfold connectionNamed FirstLineNames
  cases hfirst : HeaderMap.get headers "connection" with
  | none => simp
  | some value =>
    cases hvisible : (latin1 value).all isVisible with
    | true =>
      rw [Option.bind_some, texts.visible value hvisible]
      constructor
      · exact fun hname => ⟨value, rfl, hvisible, (mem_connectionTokens_iff hvisible).1 hname⟩
      · rintro ⟨_, ⟨⟩, -, hname⟩
        exact (mem_connectionTokens_iff hvisible).2 hname
    | false =>
      rw [Option.bind_some, texts.other value hvisible]
      constructor
      · exact fun hname => absurd hname List.not_mem_nil
      · rintro ⟨_, ⟨⟩, hvisible', -⟩
        exact absurd (hvisible.symm.trans hvisible') Bool.false_ne_true

end Tokens

/-! ## What is left of a name -/

section Left

variable {texts : HeaderText} {headers sent : HeaderMap (List UInt8)} {name apiKey : String}

theorem getAll_removeAll (names : List String) :
    HeaderMap.getAll (HeaderMap.removeAll headers names) name =
      if name ∈ names then [] else HeaderMap.getAll headers name := by
  have hfilter := HeaderMap.getAll_filter headers name fun n => n ∉ names
  rw [HeaderMap.removeAll_eq]
  by_cases hname : name ∈ names
  · rw [if_pos hname]
    simpa only [hname, not_true, decide_false, Bool.false_eq_true, if_false] using hfilter
  · rw [if_neg hname]
    simpa only [hname, not_false_eq_true, decide_true, if_true] using hfilter

/-- Of the headers of a request, those of one hop and those of the first `Connection` line are left out,
and the host. -/
theorem getAll_stripHopByHop : HeaderMap.getAll (stripHopByHop texts headers) name =
    if name ∈ hopByHop ∨ name = "host" ∨ name ∈ connectionNamed texts headers then []
    else HeaderMap.getAll headers name := by
  have hhost : stripHopByHop texts headers = HeaderMap.removeAll (HeaderMap.removeAll
      (HeaderMap.removeAll headers hopByHop) (connectionNamed texts headers)) ["host"] := rfl
  rw [hhost, getAll_removeAll, getAll_removeAll, getAll_removeAll]
  by_cases hname : name = "host" <;> by_cases hnamed : name ∈ connectionNamed texts headers <;>
    by_cases hhop : name ∈ hopByHop <;> simp [hname, hnamed, hhop]

theorem getAll_of_removed (h : RemovedFromRequest headers name) :
    HeaderMap.getAll (stripHopByHop texts headers) name = [] := by
  rw [getAll_stripHopByHop, if_pos]
  rcases h with hhop | hhost | hfirst
  · exact .inl hhop
  · exact .inr (.inl hhost)
  · exact .inr (.inr (mem_connectionNamed_iff.2 hfirst))

theorem getAll_of_not_removed (h : ¬RemovedFromRequest headers name) :
    HeaderMap.getAll (stripHopByHop texts headers) name = HeaderMap.getAll headers name := by
  rw [getAll_stripHopByHop, if_neg]
  rintro (hhop | hhost | hnamed)
  · exact h (.inl hhop)
  · exact h (.inr (.inl hhost))
  · exact h (.inr (.inr (mem_connectionNamed_iff.1 hnamed)))

/-- What a request sends of a header that was there and is not replaced. -/
theorem getAll_proxyHeaders (h : proxyHeaders texts apiKey headers = some sent)
    (hreplaced : name ∉ replacedHeaders)
    (hleft : HeaderMap.getAll (stripHopByHop texts headers) name ≠ []) :
    HeaderMap.getAll sent name = HeaderMap.getAll (stripHopByHop texts headers) name := by
  obtain ⟨credential, -, rfl⟩ := Option.map_eq_some_iff.1 h
  have hkept : HeaderMap.getAll (HeaderMap.removeAll (stripHopByHop texts headers) replacedHeaders) name =
      HeaderMap.getAll (stripHopByHop texts headers) name := by
    rw [getAll_removeAll, if_neg hreplaced]
  -- a default is added only where the name has no value
  have hdefault : ∀ other, HeaderMap.getAll (defaulted other
      (HeaderMap.removeAll (stripHopByHop texts headers) replacedHeaders)) name = [] := by
    intro other
    unfold defaulted
    split
    · rfl
    · rename_i habsent
      have hother : other ≠ name := by
        rintro rfl
        rw [HeaderMap.contains_iff, hkept] at habsent
        exact habsent hleft
      simp [HeaderMap.getAll, hother]
  have hcredential : HeaderMap.getAll [("authorization", credential)] name = [] := by
    have hother : "authorization" ≠ name := by
      rintro rfl
      exact hreplaced (by decide)
    simp [HeaderMap.getAll, hother]
  rw [HeaderMap.getAll_append, HeaderMap.getAll_append, HeaderMap.getAll_append, hdefault, hdefault,
    hcredential, hkept, List.append_nil, List.append_nil, List.append_nil]

/-- A response keeps all values of a name or none. -/
theorem getAll_forwardResponseHeaders :
    HeaderMap.getAll (forwardResponseHeaders [] headers) name =
      if isHopByHop name = true ∨ name = "content-length" ∨ name = "set-cookie" then []
      else HeaderMap.getAll headers name := by
  have hfilter := HeaderMap.getAll_filter headers name fun n =>
    !isHopByHop n && n ≠ "content-length" && n ≠ "set-cookie"
  refine hfilter.trans ?_
  by_cases hhop : isHopByHop name = true <;> by_cases hlength : name = "content-length" <;>
    by_cases hcookie : name = "set-cookie" <;> simp [hhop, hlength, hcookie]

end Left

/-! ## The two directions -/

section Cross

variable {texts : HeaderText} {headers : HeaderMap (List UInt8)} {apiKey : String}

theorem hopByHop_lower : ∀ name ∈ hopByHop, isHopByHop name = true :=
  List.forall_iff_forall_mem.1 (by decide)

/-- The names in a line are in lower case. -/
theorem NamedByConnection.hopByHop {name : String} (h : NamedByConnection headers name)
    (hhop : isHopByHop name = true) : name ∈ hopByHop := by
  obtain ⟨value, -, -, token, -, rfl⟩ := h
  rwa [isHopByHop, decide_eq_true_eq, asciiLower_asciiLower] at hhop

/-- What the first line names, some line names. -/
theorem FirstLineNames.named {name : String} (h : FirstLineNames headers name) :
    NamedByConnection headers name := by
  obtain ⟨value, hfirst, -, hname⟩ := h
  rw [HeaderMap.get_eq_head?] at hfirst
  exact ⟨value, List.mem_of_mem_head? hfirst, hname⟩

theorem request_hopFree_iff :
    HopFree headers (stripHopByHop texts headers) ↔ FirstLineSuffices headers := by
  constructor
  · intro hfree name hnamed hthere
    by_contra hkept
    exact hthere ((getAll_of_not_removed hkept).symm.trans (hfree name (.inr hnamed)))
  · intro hsuffices name hname
    by_cases hremoved : RemovedFromRequest headers name
    · exact getAll_of_removed hremoved
    · rw [getAll_of_not_removed hremoved]
      by_contra hthere
      rcases hname with hhop | hnamed
      · exact hremoved (.inl hhop)
      · exact hremoved (hsuffices name hnamed hthere)

theorem request_forwards {sent : HeaderMap (List UInt8)}
    (h : proxyHeaders texts apiKey headers = some sent) :
    Forwards headers sent ("host" :: replacedHeaders) := by
  intro name _ hhop hnamed hdropped hthere
  rw [List.mem_cons, not_or] at hdropped
  have hkept : ¬RemovedFromRequest headers name := by
    rintro (hhop' | hhost | hfirst)
    · exact hhop hhop'
    · exact hdropped.1 hhost
    · exact hnamed hfirst.named
  have hleft := @getAll_of_not_removed texts headers name hkept
  rw [getAll_proxyHeaders h hdropped.2 (by rwa [hleft]), hleft]

theorem response_hopFree_iff :
    HopFree headers (forwardResponseHeaders [] headers) ↔ NamesNothingKept headers := by
  constructor
  · intro hfree name hnamed hthere
    have hleft := hfree name (.inr hnamed)
    rw [getAll_forwardResponseHeaders] at hleft
    split at hleft
    · rename_i hdropped
      rcases hdropped with hhop | hlength | hcookie
      · exact .inl (NamedByConnection.hopByHop hnamed hhop)
      · exact .inr (.inl hlength)
      · exact .inr (.inr hcookie)
    · exact absurd hleft hthere
  · intro hnothing name hname
    rw [getAll_forwardResponseHeaders]
    split
    · rfl
    · rename_i hkept
      by_contra hthere
      rcases hname with hhop | hnamed
      · exact hkept (.inl (hopByHop_lower name hhop))
      · rcases hnothing name hnamed hthere with hhop | hlength | hcookie
        · exact hkept (.inl (hopByHop_lower name hhop))
        · exact hkept (.inr (.inl hlength))
        · exact hkept (.inr (.inr hcookie))

theorem response_forwards :
    Forwards headers (forwardResponseHeaders [] headers) ["content-length", "set-cookie"] := by
  intro name hlower hhop _ hdropped _
  rw [getAll_forwardResponseHeaders, if_neg]
  rintro (hhop' | hlength | hcookie)
  · rw [isHopByHop, hlower, decide_eq_true_eq] at hhop'
    exact hhop hhop'
  · exact hdropped (hlength ▸ List.mem_cons_self)
  · exact hdropped (hcookie ▸ List.mem_cons_of_mem _ List.mem_cons_self)

end Cross

/-- No header of one hop crosses, and every other one does, exactly where the first `Connection` line of
a request names all that its lines name, and a response's lines name nothing it keeps. -/
theorem headers_cross_iff (texts : HeaderText) (apiKey : String)
    (request response : HeaderMap (List UInt8)) :
    ((HopFree request (stripHopByHop texts request) ∧
        ∀ sent, proxyHeaders texts apiKey request = some sent →
          Forwards request sent ("host" :: replacedHeaders)) ↔
      FirstLineSuffices request) ∧
    ((HopFree response (forwardResponseHeaders [] response) ∧
        Forwards response (forwardResponseHeaders [] response) ["content-length", "set-cookie"]) ↔
      NamesNothingKept response) := by
  constructor
  · rw [request_hopFree_iff]
    exact and_iff_left fun sent hsent => request_forwards hsent
  · rw [response_hopFree_iff]
    exact and_iff_left response_forwards

namespace Sample

/-- The header that a second line names. -/
def secondLine : HeaderMap (List UInt8) :=
  [("connection", headerValue "close"), ("connection", headerValue "x-hop"), ("x-hop", headerValue "v")]

/-- The header that a response names. -/
def namedInResponse : HeaderMap (List UInt8) :=
  [("connection", headerValue "x-hop"), ("x-hop", headerValue "v")]

end Sample

/-- A header that the second line names is sent to the upstream, and one that a response names is sent to
the client. -/
theorem named_header_crosses :
    ¬(∀ texts request, HopFree request (stripHopByHop texts request)) ∧
      ¬∀ response, HopFree response (forwardResponseHeaders [] response) := by
  constructor
  · intro hall
    have hnamed : NamedByConnection Sample.secondLine "x-hop" :=
      ⟨headerValue "x-hop", by decide +kernel, by decide +kernel, "x-hop".toList,
        by decide +kernel, by decide +kernel⟩
    have hthere : HeaderMap.getAll Sample.secondLine "x-hop" ≠ [] := by decide +kernel
    rcases request_hopFree_iff.1 (hall Sample.headerText Sample.secondLine) "x-hop" hnamed hthere with
      hhop | hhost | ⟨value, hfirst, -, -, token, htoken, hname⟩
    · exact absurd hhop (by decide +kernel)
    · exact absurd hhost (by decide +kernel)
    · cases hfirst
      have hnone : ∀ token ∈ (latin1 (headerValue "close")).splitOn ',',
          asciiLower (String.ofList ((token.dropWhile isBlank).rdropWhile isBlank)) ≠ "x-hop" := by
        decide +kernel
      exact hnone token htoken hname
  · intro hall
    have hnamed : NamedByConnection Sample.namedInResponse "x-hop" :=
      ⟨headerValue "x-hop", by decide +kernel, by decide +kernel, "x-hop".toList,
        by decide +kernel, by decide +kernel⟩
    have hthere : HeaderMap.getAll (forwardResponseHeaders [] Sample.namedInResponse) "x-hop" ≠ [] := by
      decide +kernel
    exact hthere (hall Sample.namedInResponse "x-hop" (.inr hnamed))

end PartnerPortal
