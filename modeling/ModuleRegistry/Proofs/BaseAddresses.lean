import ModuleRegistry.Proofs.Identifiers
import ModuleRegistry.Proofs.Stripping

/-!
# Accepted base addresses

What a client takes for a base address is said here without the steps of `BaseUrl.parse`.  A text
writes an address (`BaseUrl.Writes`) if it is the address with some slashes behind it, and gives it
(`BaseUrl.Gives`) if, in addition, there is neither a query nor a fragment and something stands where
the host should be.  Any other text has a first flaw (`BaseUrl.FirstFlaw`).

Both schemes begin with `http`, but no text begins with both of them, so a text writes at most one
address.  `BaseUrl.firstFlaw_or_gives` says that every text is one or the other, and `parse_of_gives`
and `parse_of_firstFlaw` that `BaseUrl.parse` finds which.

Main statement: `Client.connect_eq_iff_verdict`.
-/

namespace ModuleRegistry

open Text (ascii)

/-! ## Ends of texts -/

namespace Text

variable {s : Text}

/-- A text is the longest prefix of another that does not end in the byte `b`. -/
structure LongestWithout (b : UInt8) (s t : Text) : Prop where
  begins : s <+: t
  last : s.getLast? ≠ some b
  longest : ∀ p, p <+: t → p.getLast? ≠ some b → p <+: s

lemma longestWithout_append_replicate {b : UInt8} (hs : s.getLast? ≠ some b) (n : ℕ) :
    LongestWithout b s (s ++ List.replicate n b) := by
  refine ⟨List.prefix_append _ _, hs, fun p hp hlast => ?_⟩
  rcases List.prefix_or_prefix_of_prefix hp (List.prefix_append s _) with h | ⟨r, rfl⟩
  · exact h
  · have hr : r <+: List.replicate n b := (List.prefix_append_right_inj s).1 hp
    obtain ⟨-, hreplicate⟩ := List.prefix_replicate_iff.1 hr
    cases r with
    | nil => simp
    | cons c r =>
      rw [hreplicate] at hlast
      simp [List.replicate_succ'] at hlast

lemma LongestWithout.unique {b : UInt8} {s s' t : Text} (h : LongestWithout b s t)
    (h' : LongestWithout b s' t) : s = s' := by
  have hle : s <+: s' := h'.longest s h.begins h.last
  have hge : s' <+: s := h.longest s' h'.begins h'.last
  exact hle.eq_of_length_le hge.length_le

end Text

/-! ## Schemes -/

namespace Scheme

/-- The two schemes differ at their fifth byte. -/
lemma text_append_inj {s s' : Scheme} {r r' : Text} (h : s.text ++ r = s'.text ++ r') :
    s = s' ∧ r = r' := by
  have hne : some ':'.toUInt8 ≠ some 's'.toUInt8 := by decide
  have hfifth : (s.text ++ r)[4]? = (s'.text ++ r')[4]? := congrArg (·[4]?) h
  cases s with
  | http =>
    cases s' with
    | http => exact ⟨rfl, List.append_cancel_left h⟩
    | https => exact absurd hfifth hne
  | https =>
    cases s' with
    | http => exact absurd hfifth hne.symm
    | https => exact ⟨rfl, List.append_cancel_left h⟩

lemma split?_eq_some_iff {s : Scheme} {t r : Text} : split? t = some (s, r) ↔ t = s.text ++ r := by
  unfold split?
  split
  · next r' hr' =>
    rw [List.isPrefixOf?_eq_some_iff_append_eq] at hr'
    rw [← hr']
    constructor
    · intro h
      obtain ⟨rfl, rfl⟩ := Prod.mk.inj (Option.some.inj h)
      rfl
    · intro h
      obtain ⟨rfl, rfl⟩ := text_append_inj h
      rfl
  · next hhttps =>
    constructor
    · intro h
      obtain ⟨r', hr', hs⟩ := Option.map_eq_some_iff.1 h
      obtain ⟨rfl, rfl⟩ := Prod.mk.inj hs
      exact (List.isPrefixOf?_eq_some_iff_append_eq.1 hr').symm
    · rintro rfl
      cases s with
      | http =>
        rw [List.isPrefixOf?_eq_some_iff_append_eq.2 rfl]
        rfl
      | https =>
        rw [List.isPrefixOf?_eq_some_iff_append_eq.2 rfl] at hhttps
        contradiction

end Scheme

/-! ## The grammar -/

namespace BaseUrl

/-- A text begins with a scheme. -/
def HasScheme (t : Text) : Prop := ∃ s : Scheme, s.text <+: t

/-- A text has neither a query nor a fragment. -/
def SuffixFree (t : Text) : Prop := '?'.toUInt8 ∉ t ∧ '#'.toUInt8 ∉ t

/-- Something stands where the host should be. -/
def Hosted (u : BaseUrl) : Prop := u.rest ≠ [] ∧ u.rest.head? ≠ some '/'.toUInt8

/-- A text is an address and the slashes behind it, which are all those at the end of the text. -/
structure Writes (t : Text) (u : BaseUrl) : Prop where
  text : ∃ n, t = u.text ++ List.replicate n '/'.toUInt8
  last : u.rest.getLast? ≠ some '/'.toUInt8

/-- A text gives the address that it writes, if there is nothing wrong with it. -/
structure Gives (t : Text) (u : BaseUrl) : Prop where
  writes : Writes t u
  suffixFree : SuffixFree t
  hosted : u.Hosted

/-- The first thing wrong with a text.  The place of the host is looked at last. -/
inductive FirstFlaw (t : Text) : Flaw → Prop
  | scheme (h : ¬HasScheme t) : FirstFlaw t .scheme
  | queryOrFragment (h : HasScheme t) (hsuffix : ¬SuffixFree t) : FirstFlaw t .queryOrFragment
  | host {u : BaseUrl} (h : Writes t u) (hsuffix : SuffixFree t) (hhost : ¬u.Hosted) :
      FirstFlaw t .host

lemma isSlash_iff {b : UInt8} : isSlash b = true ↔ b = '/'.toUInt8 := beq_iff_eq

lemma suffixFree_iff {t : Text} : SuffixFree t ↔ t.any beginsSuffix = false := by
  simp only [SuffixFree, List.any_eq_false, beginsSuffix, Bool.or_eq_true, beq_iff_eq, not_or]
  constructor
  · rintro ⟨hquery, hfragment⟩ b hb
    exact ⟨fun h => hquery (h ▸ hb), fun h => hfragment (h ▸ hb)⟩
  · intro h
    exact ⟨fun hb => (h _ hb).1 rfl, fun hb => (h _ hb).2 rfl⟩

/-- A scheme holds no byte that begins a query or a fragment. -/
lemma suffixFree_scheme_append_iff {s : Scheme} {r : Text} :
    SuffixFree (s.text ++ r) ↔ r.any beginsSuffix = false := by
  have hscheme : s.text.any beginsSuffix = false := by
    cases s <;> decide
  rw [suffixFree_iff, List.any_append, hscheme, Bool.false_or]

lemma hosted_iff {u : BaseUrl} : u.Hosted ↔ u.rest.head?.all isSlash = false := by
  unfold Hosted
  cases u.rest with
  | nil => simp
  | cons b r => simp [isSlash]

/-! ## Addresses that are written -/

lemma writes_dropEnd (s : Scheme) (r : Text) : Writes (s.text ++ r) ⟨s, Text.dropEnd isSlash r⟩ := by
  have hslashes : ∀ b ∈ Text.takeEnd isSlash r, b = '/'.toUInt8 := by
    intro b hb
    exact isSlash_iff.1 (List.all_eq_true.1 (Text.all_takeEnd isSlash r) b hb)
  refine ⟨⟨(Text.takeEnd isSlash r).length, ?_⟩, fun hlast => ?_⟩
  · rw [text, List.append_assoc, ← List.eq_replicate_of_mem hslashes, Text.dropEnd_append_takeEnd]
  · have hrejected := Text.not_of_getLast?_dropEnd _ hlast
    simp [isSlash] at hrejected

/-- The rest of an address is what is left of all that follows the scheme. -/
lemma Writes.exists_tail {t : Text} {u : BaseUrl} (h : Writes t u) :
    ∃ r, t = u.scheme.text ++ r ∧ Text.dropEnd isSlash r = u.rest := by
  obtain ⟨n, rfl⟩ := h.text
  refine ⟨u.rest ++ List.replicate n '/'.toUInt8, by simp [BaseUrl.text], ?_⟩
  have hlast : ∀ b ∈ u.rest.getLast?, isSlash b = false := by
    refine fun b hb => Bool.eq_false_iff.2 fun hslash => h.last ?_
    rwa [← isSlash_iff.1 hslash]
  have hslashes : Text.dropEnd isSlash (List.replicate n '/'.toUInt8) = [] := by
    refine List.rdropWhile_eq_nil_iff.2 fun b hb => ?_
    exact isSlash_iff.2 (List.eq_of_mem_replicate hb)
  rw [Text.dropEnd_append_of_last hlast, hslashes, List.append_nil]

/-- The last byte of a scheme is a slash, but it belongs to the address. -/
lemma Gives.longestWithout {t : Text} {u : BaseUrl} (h : Gives t u) :
    Text.LongestWithout '/'.toUInt8 u.text t := by
  obtain ⟨n, rfl⟩ := h.writes.text
  refine Text.longestWithout_append_replicate ?_ n
  rw [text, List.getLast?_append_of_ne_nil _ h.hosted.1]
  exact h.writes.last

/-! ## Every text is accepted or rejected -/

lemma firstFlaw_or_gives (t : Text) : (∃ flaw, FirstFlaw t flaw) ∨ ∃ u, Gives t u := by
  by_cases hscheme : HasScheme t
  · obtain ⟨s, r, rfl⟩ := hscheme
    by_cases hsuffix : SuffixFree (s.text ++ r)
    · have hwrites := writes_dropEnd s r
      by_cases hhost : Hosted ⟨s, Text.dropEnd isSlash r⟩
      · exact .inr ⟨_, hwrites, hsuffix, hhost⟩
      · exact .inl ⟨_, .host hwrites hsuffix hhost⟩
    · exact .inl ⟨_, .queryOrFragment ⟨s, r, rfl⟩ hsuffix⟩
  · exact .inl ⟨_, .scheme hscheme⟩

lemma parse_of_gives {raw : Text} {u : BaseUrl} (h : Gives (Text.trim raw) u) :
    parse raw = .ok u := by
  obtain ⟨r, htrim, hrest⟩ := h.writes.exists_tail
  have hsuffix := h.suffixFree
  rw [htrim, suffixFree_scheme_append_iff] at hsuffix
  have hhost := hosted_iff.1 h.hosted
  simp [parse, Scheme.split?_eq_some_iff.2 htrim, hsuffix, hrest, hhost]

/-- One case for each flaw. -/
lemma parse_of_firstFlaw {raw : Text} {flaw : Flaw} (h : FirstFlaw (Text.trim raw) flaw) :
    parse raw = .error flaw := by
  unfold parse
  cases h with
  | scheme h =>
    have hsplit : Scheme.split? (Text.trim raw) = none := by
      refine Option.eq_none_iff_forall_ne_some.2 fun ⟨s, r⟩ hs => h ?_
      exact ⟨s, r, (Scheme.split?_eq_some_iff.1 hs).symm⟩
    rw [hsplit]
  | queryOrFragment h hsuffix =>
    obtain ⟨s, r, htrim⟩ := h
    rw [← htrim, suffixFree_scheme_append_iff, Bool.not_eq_false] at hsuffix
    simp [Scheme.split?_eq_some_iff.2 htrim.symm, hsuffix]
  | host h hsuffix hhost =>
    obtain ⟨r, htrim, hrest⟩ := h.exists_tail
    rw [htrim, suffixFree_scheme_append_iff] at hsuffix
    rw [hosted_iff, Bool.not_eq_false] at hhost
    simp [Scheme.split?_eq_some_iff.2 htrim, hsuffix, hrest, hhost]

theorem parse_eq_ok_iff {raw : Text} {u : BaseUrl} :
    parse raw = .ok u ↔ Gives (Text.trim raw) u := by
  refine ⟨fun h => ?_, parse_of_gives⟩
  rcases firstFlaw_or_gives (Text.trim raw) with ⟨flaw, hflaw⟩ | ⟨u', hu'⟩
  · rw [parse_of_firstFlaw hflaw] at h
    contradiction
  · rw [parse_of_gives hu'] at h
    rwa [← Except.ok.inj h]

theorem parse_eq_error_iff {raw : Text} {flaw : Flaw} :
    parse raw = .error flaw ↔ FirstFlaw (Text.trim raw) flaw := by
  refine ⟨fun h => ?_, parse_of_firstFlaw⟩
  rcases firstFlaw_or_gives (Text.trim raw) with ⟨flaw', hflaw'⟩ | ⟨u, hu⟩
  · rw [parse_of_firstFlaw hflaw'] at h
    rwa [← Except.error.inj h]
  · rw [parse_of_gives hu] at h
    contradiction

end BaseUrl

/-! ## Clients -/

namespace Client

/-- What the arguments of a client lead to.  The version is judged first, then the address, and the
transport last. -/
inductive Verdict (transport : Bool) (apiVersion raw : Text) : Except Rejection Client → Prop
  | blankVersion (h : apiVersion.OnlyBlanks) :
      Verdict transport apiVersion raw
        (.error (.invalid (.emptyArgument (ascii "api_version"))))
  | flawed (h : ¬apiVersion.OnlyBlanks) {flaw : BaseUrl.Flaw}
      (hflaw : BaseUrl.FirstFlaw (Text.trim raw) flaw) :
      Verdict transport apiVersion raw (.error (.invalid (.invalidUrl flaw raw)))
  | unconnected (h : ¬apiVersion.OnlyBlanks) {u : BaseUrl}
      (hgives : BaseUrl.Gives (Text.trim raw) u) (htransport : transport = false) :
      Verdict transport apiVersion raw (.error .noTransport)
  | connected (h : ¬apiVersion.OnlyBlanks) {u : BaseUrl}
      (hgives : BaseUrl.Gives (Text.trim raw) u) (htransport : transport = true) :
      Verdict transport apiVersion raw (.ok { apiVersion := apiVersion, baseUrl := u })

section Connect

variable {transport : Bool} {apiVersion raw : Text}

lemma connect_of_blank (h : apiVersion.OnlyBlanks) :
    connect transport apiVersion raw =
      .error (.invalid (.emptyArgument (ascii "api_version"))) := by
  rw [connect, make, HubError.requireArgument_blank _ (Text.isBlank_iff.2 h)]

lemma connect_of_flaw (h : ¬apiVersion.OnlyBlanks) {flaw : BaseUrl.Flaw}
    (hparse : BaseUrl.parse raw = .error flaw) :
    connect transport apiVersion raw = .error (.invalid (.invalidUrl flaw raw)) := by
  rw [connect, make, HubError.requireArgument_present _ (Text.isBlank_eq_false_iff.2 h)]
  simp only [hparse]

lemma connect_of_url (h : ¬apiVersion.OnlyBlanks) {u : BaseUrl}
    (hparse : BaseUrl.parse raw = .ok u) :
    connect transport apiVersion raw =
      if transport then .ok { apiVersion := apiVersion, baseUrl := u } else .error .noTransport := by
  rw [connect, make, HubError.requireArgument_present _ (Text.isBlank_eq_false_iff.2 h)]
  simp only [hparse]

variable (transport apiVersion raw) in
lemma verdict_connect :
    Verdict transport apiVersion raw (connect transport apiVersion raw) := by
  by_cases hversion : apiVersion.OnlyBlanks
  · rw [connect_of_blank hversion]
    exact .blankVersion hversion
  · cases hparse : BaseUrl.parse raw with
    | error flaw =>
      rw [connect_of_flaw hversion hparse]
      exact .flawed hversion (BaseUrl.parse_eq_error_iff.1 hparse)
    | ok u =>
      have hgives := BaseUrl.parse_eq_ok_iff.1 hparse
      rw [connect_of_url hversion hparse]
      cases transport with
      | false => exact .unconnected hversion hgives rfl
      | true => exact .connected hversion hgives rfl

lemma Verdict.connect_eq {r : Except Rejection Client} (h : Verdict transport apiVersion raw r) :
    connect transport apiVersion raw = r := by
  cases h with
  | blankVersion h => exact connect_of_blank h
  | flawed h hflaw => exact connect_of_flaw h (BaseUrl.parse_of_firstFlaw hflaw)
  | unconnected h hgives htransport =>
    rw [connect_of_url h (BaseUrl.parse_of_gives hgives), htransport]
    rfl
  | connected h hgives htransport =>
    rw [connect_of_url h (BaseUrl.parse_of_gives hgives), htransport]
    rfl

lemma exists_gives_of_connect {c : Client} (h : connect transport apiVersion raw = .ok c) :
    ¬apiVersion.OnlyBlanks ∧ transport = true ∧
      ∃ u, BaseUrl.Gives (Text.trim raw) u ∧ c = { apiVersion := apiVersion, baseUrl := u } := by
  have hverdict := verdict_connect transport apiVersion raw
  rw [h] at hverdict
  cases hverdict with
  | connected hversion hgives htransport => exact ⟨hversion, htransport, _, hgives, rfl⟩

end Connect

/-- The three messages hold no NUL byte, so only the text that they quote is cut. -/
lemma shown_invalidUrl (flaw : BaseUrl.Flaw) (raw : Text) :
    (HubError.invalidUrl flaw raw).shown = flaw.message ++ Text.untilNul raw := by
  have hnul : 0 ∉ flaw.message := by
    cases flaw <;> decide
  rw [HubError.shown, HubError.invalidUrl, Text.untilNul, Text.before,
    List.takeWhile_append_of_pos (Text.bne_of_mem hnul)]
  rfl

/-- **A client is made exactly as the grammar of addresses says**, and what is wrong with the arguments
is found in a fixed order: a blank version, the first flaw of the address, a missing transport.  The
message for a flaw names it and quotes the address as it was given, up to its first NUL byte.  The
address that is kept is the longest prefix of the trimmed one that does not end in a slash. -/
theorem connect_eq_iff_verdict (transport : Bool) (apiVersion raw : Text) :
    (∀ r, connect transport apiVersion raw = r ↔ Verdict transport apiVersion raw r) ∧
    (∀ flaw, (HubError.invalidUrl flaw raw).kind = .invalidUrl ∧
      (HubError.invalidUrl flaw raw).shown =
        (match flaw with
          | .scheme => ascii "Base URL must start with http:// or https://: "
          | .queryOrFragment => ascii "Base URL must not carry a query or fragment: "
          | .host => ascii "Base URL has no host: ") ++ Text.untilNul raw) ∧
    ∀ u, BaseUrl.Gives (Text.trim raw) u →
      Text.LongestWithout '/'.toUInt8 u.text (Text.trim raw) := by
  refine ⟨fun r => ⟨?_, Verdict.connect_eq⟩, fun flaw => ⟨rfl, ?_⟩,
    fun u => BaseUrl.Gives.longestWithout⟩
  · rintro rfl
    exact verdict_connect transport apiVersion raw
  · rw [shown_invalidUrl]
    cases flaw <;> rfl

end Client

/-! ## Hosts -/

namespace BaseUrl

/-- Whether a byte ends the host of an address. -/
def endsHost (b : UInt8) : Bool := b == '/'.toUInt8 || b == ':'.toUInt8

/-- The host in what follows a scheme: all before the first slash, the first colon or the end. -/
def hostIn (r : Text) : Text := r.takeWhile fun b => !endsHost b

/-- The host of an address, which may be empty. -/
def host (u : BaseUrl) : Text := hostIn u.rest

/-- A host is not empty and holds no blank. -/
def IsHost (h : Text) : Prop := h ≠ [] ∧ ∀ b ∈ h, b ∉ Text.blanks

/-- A text has the form `http(s)://host[:port][/path]`, whatever stands for the port and the path. -/
structure NamesHost (t h : Text) : Prop where
  text : ∃ (s : Scheme) (r : Text), t = s.text ++ (h ++ r) ∧ ∀ b ∈ r.head?, endsHost b = true
  ends : ∀ b ∈ h, endsHost b = false
  isHost : IsHost h

lemma hostIn_append {h r : Text} (hh : ∀ b ∈ h, endsHost b = false)
    (hr : ∀ b ∈ r.head?, endsHost b = true) : hostIn (h ++ r) = h := by
  have hstop : hostIn r = [] := by
    cases r with
    | nil => rfl
    | cons b r => simp [hostIn, hr b rfl]
  rw [hostIn, List.takeWhile_append_of_pos]
  · rw [hostIn] at hstop
    rw [hstop, List.append_nil]
  · intro b hb
    simp [hh b hb]

lemma endsHost_of_mem_hostIn {r : Text} : ∀ b ∈ hostIn r, endsHost b = false := by
  intro b hb
  have hkept := List.all_eq_true.1 (List.all_takeWhile (p := fun b => !endsHost b) (l := r)) b hb
  simpa using hkept

lemma exists_hostIn_append (r : Text) :
    ∃ r', r = hostIn r ++ r' ∧ ∀ b ∈ r'.head?, endsHost b = true := by
  refine ⟨r.dropWhile fun b => !endsHost b, List.takeWhile_append_dropWhile.symm, fun b hb => ?_⟩
  have hhead := List.head?_dropWhile_not (fun b => !endsHost b) r
  rw [Option.mem_def.1 hb] at hhead
  simpa using hhead

/-- The slashes at the end of an address are no part of its host. -/
lemma hostIn_append_slashes (r : Text) (n : ℕ) :
    hostIn (r ++ List.replicate n '/'.toUInt8) = hostIn r := by
  obtain ⟨r', hr, hends⟩ := exists_hostIn_append r
  have hhead : ∀ b ∈ (r' ++ List.replicate n '/'.toUInt8).head?, endsHost b = true := by
    cases r' with
    | nil =>
      intro b hb
      obtain rfl := List.eq_of_mem_replicate (List.mem_of_head? hb)
      rfl
    | cons b' r' => exact fun b hb => hends b hb
  conv_lhs => rw [hr, List.append_assoc]
  exact hostIn_append endsHost_of_mem_hostIn hhead

/-- **A text has the form that is asked for exactly if the host of its address is one.** -/
lemma Writes.namesHost_iff {t : Text} {u : BaseUrl} (ht : Writes t u) {h : Text} :
    NamesHost t h ↔ u.host = h ∧ IsHost h := by
  obtain ⟨n, rfl⟩ := ht.text
  have htail : u.text ++ List.replicate n '/'.toUInt8 =
      u.scheme.text ++ (u.rest ++ List.replicate n '/'.toUInt8) := by
    rw [BaseUrl.text, List.append_assoc]
  rw [htail]
  constructor
  · rintro ⟨⟨s, r, hr, hends⟩, hh, hhost⟩
    obtain ⟨-, hrest⟩ := Scheme.text_append_inj hr
    refine ⟨?_, hhost⟩
    rw [host, ← hostIn_append_slashes u.rest n, hrest, hostIn_append hh hends]
  · rintro ⟨rfl, hhost⟩
    obtain ⟨r, hr, hends⟩ := exists_hostIn_append (u.rest ++ List.replicate n '/'.toUInt8)
    rw [hostIn_append_slashes] at hr
    exact ⟨⟨u.scheme, r, by rw [host, ← hr], hends⟩, endsHost_of_mem_hostIn, hhost⟩

lemma host_eq_nil_iff {u : BaseUrl} :
    u.host = [] ↔ ∀ b ∈ u.rest.head?, endsHost b = true := by
  unfold host hostIn
  cases u.rest with
  | nil => simp
  | cons b r => simp [List.takeWhile_cons]

lemma hosted_of_host_ne_nil {u : BaseUrl} (h : u.host ≠ []) : u.Hosted := by
  rw [ne_eq, host_eq_nil_iff] at h
  refine ⟨fun hrest => h ?_, fun hslash => h ?_⟩
  · simp [hrest]
  · rw [hslash]
    rintro b ⟨⟩
    rfl

/-- A text gives an address without a host if a colon follows the scheme. -/
lemma Gives.host_eq_nil_iff {t : Text} {u : BaseUrl} (ht : Gives t u) :
    u.host = [] ↔ u.scheme.text ++ ascii ":" <+: t := by
  obtain ⟨n, rfl⟩ := ht.writes.text
  obtain ⟨hrest, hslash⟩ := ht.hosted
  rw [BaseUrl.host_eq_nil_iff, BaseUrl.text, List.append_assoc, List.prefix_append_right_inj]
  obtain ⟨b, r, hbr⟩ := List.exists_cons_of_ne_nil hrest
  rw [hbr] at hslash ⊢
  have hb : b ≠ '/'.toUInt8 := fun h => hslash (congrArg some h)
  have hends : endsHost b = true ↔ ':'.toUInt8 = b := by
    simp only [endsHost, Bool.or_eq_true, beq_iff_eq, hb, false_or]
    exact eq_comm
  have hcolon : ascii ":" = [':'.toUInt8] := rfl
  rw [hcolon, List.cons_append, List.cons_prefix_cons]
  simpa using hends

/-- A text of the form that is asked for gives an address. -/
lemma NamesHost.exists_gives {t h : Text} (ht : NamesHost t h) (hsuffix : SuffixFree t) :
    ∃ u, Gives t u ∧ u.host = h := by
  obtain ⟨s, r, rfl, -⟩ := ht.text
  have hwrites := writes_dropEnd s (h ++ r)
  obtain ⟨hhost, hne, -⟩ := hwrites.namesHost_iff.1 ht
  rw [← hhost] at hne
  exact ⟨_, ⟨hwrites, hsuffix, hosted_of_host_ne_nil hne⟩, hhost⟩

end BaseUrl

/-- **The host of an accepted address is one exactly if the address has the form that is asked for.**
An address `http(s)://host[:port][/path]` without query and fragment is accepted with that host.  What
else is accepted has no host in front of its port, or a blank in its host. -/
theorem Client.host_real_iff {apiVersion : Text} (hversion : ¬apiVersion.OnlyBlanks) (raw : Text) :
    (∀ h, BaseUrl.NamesHost (Text.trim raw) h → BaseUrl.SuffixFree (Text.trim raw) →
      ∃ c, connect true apiVersion raw = .ok c ∧ c.baseUrl.host = h) ∧
    ∀ c, connect true apiVersion raw = .ok c →
      (BaseUrl.IsHost c.baseUrl.host ↔ ∃ h, BaseUrl.NamesHost (Text.trim raw) h) ∧
      (c.baseUrl.host = [] ↔ c.baseUrl.scheme.text ++ ascii ":" <+: Text.trim raw) := by
  constructor
  · intro h hnames hsuffix
    obtain ⟨u, hgives, hhost⟩ := hnames.exists_gives hsuffix
    exact ⟨_, (Verdict.connected hversion hgives rfl).connect_eq, hhost⟩
  · intro c hc
    obtain ⟨-, -, u, hgives, rfl⟩ := exists_gives_of_connect hc
    refine ⟨⟨fun hhost => ?_, ?_⟩, hgives.host_eq_nil_iff⟩
    · exact ⟨_, hgives.writes.namesHost_iff.2 ⟨rfl, hhost⟩⟩
    · rintro ⟨h, hnames⟩
      obtain ⟨rfl, hhost⟩ := hgives.writes.namesHost_iff.1 hnames
      exact hhost

/-- A host with a port, a path and slashes behind them. -/
theorem Client.host_real_iff_port :
    let raw := ascii " https://hub:443/x//"
    let c : Client := ⟨ascii "v", ⟨.https, ascii "hub:443/x"⟩, 30000⟩
    ¬(ascii "v").OnlyBlanks ∧ BaseUrl.NamesHost (Text.trim raw) (ascii "hub") ∧
      connect true (ascii "v") raw = .ok c ∧ c.baseUrl.host = ascii "hub" ∧
      BaseUrl.IsHost c.baseUrl.host := by
  intro raw c
  have hversion : ¬(ascii "v").OnlyBlanks := Text.isBlank_eq_false_iff.1 rfl
  have hc : connect true (ascii "v") raw = .ok c := rfl
  have hends : ∀ b ∈ ascii "hub", (!BaseUrl.endsHost b) = true := List.all_eq_true.1 rfl
  have hblanks : ∀ b ∈ ascii "hub", (!Text.isBlankByte b) = true := List.all_eq_true.1 rfl
  have hnames : BaseUrl.NamesHost (Text.trim raw) (ascii "hub") := by
    refine ⟨⟨.https, ascii ":443/x//", rfl, ?_⟩, by simpa using hends, by decide, ?_⟩
    · rintro b ⟨⟩
      rfl
    · simpa [Text.isBlankByte] using hblanks
  exact ⟨hversion, hnames, hc, rfl, ((host_real_iff hversion raw).2 c hc).1.2 ⟨_, hnames⟩⟩

/-- A port without a host is accepted, and so is a host with a blank in it. -/
theorem Client.host_missed :
    let portOnly : Client := ⟨ascii "v", ⟨.https, ascii ":80"⟩, 30000⟩
    let parted : Client := ⟨ascii "v", ⟨.https, ascii "a b"⟩, 30000⟩
    connect true (ascii "v") (ascii "https://:80") = .ok portOnly ∧ portOnly.baseUrl.host = [] ∧
      ¬BaseUrl.IsHost portOnly.baseUrl.host ∧
      connect true (ascii "v") (ascii "https://a b") = .ok parted ∧
      parted.baseUrl.host = ascii "a b" ∧ ¬BaseUrl.IsHost parted.baseUrl.host := by
  intro portOnly parted
  have hportOnly : portOnly.baseUrl.host = [] := rfl
  have hparted : parted.baseUrl.host = ascii "a b" := rfl
  have hblank : ' '.toUInt8 ∈ Text.blanks := by decide
  refine ⟨rfl, hportOnly, fun h => h.1 hportOnly, rfl, hparted, fun h => ?_⟩
  exact h.2 ' '.toUInt8 (by decide) hblank

end ModuleRegistry
