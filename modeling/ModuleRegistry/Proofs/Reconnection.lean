import ModuleRegistry.Proofs.BaseAddresses

/-!
# Connecting to an address that was kept

A client trims the address that it is given and then drops the slashes at its end, each of them once.
What it keeps does not end in a slash.  But a blank that stood before those slashes is now the last
byte, so the address that is kept need not be what the next client keeps of it.

`BaseUrl.Gives.gives_text` and `BaseUrl.Gives.firstFlaw_or_shorter` settle the two cases: without a
blank at its end, an address that was kept gives itself; with one, it gives a shorter address or none.

Main statement: `Client.reconnect_iff`.
-/

namespace ModuleRegistry

open Text (ascii)

/-! ## Trimmed texts -/

namespace Text

variable {s : Text}

/-- The last byte of a text is a blank. -/
def EndsInBlank (s : Text) : Prop := ∃ b ∈ s.getLast?, isBlankByte b = true

lemma not_endsInBlank_iff : ¬s.EndsInBlank ↔ ∀ b ∈ s.getLast?, isBlankByte b = false := by
  simp [EndsInBlank]

lemma not_endsInBlank_dropEnd : ¬(dropEnd isBlankByte s).EndsInBlank :=
  not_endsInBlank_iff.2 not_of_getLast?_dropEnd

lemma not_endsInBlank_trim (s : Text) : ¬(trim s).EndsInBlank :=
  not_endsInBlank_dropEnd

lemma dropEnd_of_not_endsInBlank (h : ¬s.EndsInBlank) : dropEnd isBlankByte s = s := by
  simpa using dropEnd_append_of_last (not_endsInBlank_iff.1 h) []

/-- Only the end of a text is trimmed if it does not begin with a blank. -/
lemma trim_of_head? (h : ∀ b ∈ s.head?, isBlankByte b = false) : trim s = dropEnd isBlankByte s := by
  rw [trim, strip, dropWhile_of_head? h]

end Text

/-! ## Addresses that are given again -/

namespace BaseUrl

lemma SuffixFree.of_prefix {s t : Text} (h : s <+: t) (ht : SuffixFree t) : SuffixFree s :=
  ⟨fun hb => ht.1 (h.subset hb), fun hb => ht.2 (h.subset hb)⟩

/-- An address begins with the first letter of its scheme. -/
lemma not_blank_of_head?_text (u : BaseUrl) : ∀ b ∈ u.text.head?, Text.isBlankByte b = false := by
  have hletter : u.text.head? = some 'h'.toUInt8 := by
    rw [text]
    cases u.scheme <;> rfl
  rw [hletter]
  rintro b ⟨⟩
  decide

lemma trim_text (u : BaseUrl) : Text.trim u.text = Text.dropEnd Text.isBlankByte u.text :=
  Text.trim_of_head? u.not_blank_of_head?_text

/-- The blanks at the end of an address are behind its scheme. -/
lemma dropEnd_text (u : BaseUrl) :
    Text.dropEnd Text.isBlankByte u.text =
      u.scheme.text ++ Text.dropEnd Text.isBlankByte u.rest := by
  refine Text.dropEnd_append_of_last (fun b hb => ?_) u.rest
  have hslash : u.scheme.text.getLast? = some '/'.toUInt8 := by
    cases u.scheme <;> rfl
  rw [hslash] at hb
  obtain rfl := Option.some.inj hb
  decide

variable {t : Text} {u : BaseUrl}

/-- An address that does not end in a blank gives itself. -/
lemma Gives.gives_text (h : Gives t u) (hblank : ¬u.text.EndsInBlank) :
    Gives (Text.trim u.text) u := by
  rw [trim_text, Text.dropEnd_of_not_endsInBlank hblank]
  refine ⟨⟨⟨0, by simp⟩, h.writes.last⟩, ?_, h.hosted⟩
  exact h.suffixFree.of_prefix h.longestWithout.begins

/-- An address that ends in a blank gives a shorter one, or none because nothing else follows the
scheme. -/
lemma Gives.firstFlaw_or_shorter (h : Gives t u) (hblank : u.text.EndsInBlank) :
    FirstFlaw (Text.trim u.text) .host ∨
      ∃ u', Gives (Text.trim u.text) u' ∧ u'.text <+: u.text ∧ u'.text ≠ u.text := by
  have hpart : Text.trim u.text <+: u.text := by
    rw [trim_text]
    exact List.rdropWhile_prefix _ _
  have hsuffix : SuffixFree (Text.trim u.text) :=
    h.suffixFree.of_prefix (hpart.trans h.longestWithout.begins)
  obtain ⟨u', hwrites⟩ : ∃ u', Writes (Text.trim u.text) u' := by
    rw [trim_text, dropEnd_text]
    exact ⟨_, writes_dropEnd u.scheme _⟩
  by_cases hhost : u'.Hosted
  · have hgives : Gives (Text.trim u.text) u' := ⟨hwrites, hsuffix, hhost⟩
    have hbegins := hgives.longestWithout.begins
    refine .inr ⟨u', hgives, hbegins.trans hpart, fun heq => ?_⟩
    -- Otherwise nothing was trimmed, although there is a blank to trim.
    rw [heq] at hbegins
    have htrim : Text.trim u.text = u.text := hpart.eq_of_length_le hbegins.length_le
    exact Text.not_endsInBlank_trim u.text (htrim.symm ▸ hblank)
  · exact .inl (.host hwrites hsuffix hhost)

/-- An address ends in a blank if it was written with a blank before the slashes at its end. -/
lemma Gives.endsInBlank_iff (h : Gives t u) (ht : ¬t.EndsInBlank) :
    u.text.EndsInBlank ↔ ∃ (s : Text) (b : UInt8) (n : ℕ),
      t = s ++ b :: List.replicate (n + 1) '/'.toUInt8 ∧ Text.isBlankByte b = true := by
  constructor
  · rintro ⟨b, hlast, hb⟩
    obtain ⟨s, hs⟩ := List.getLast?_eq_some_iff.1 hlast
    obtain ⟨n, hn⟩ := h.writes.text
    cases n with
    | zero =>
      rw [List.replicate_zero, List.append_nil] at hn
      exact absurd ⟨b, hn ▸ hlast, hb⟩ ht
    | succ n => exact ⟨s, b, n, by rw [hn, hs]; simp, hb⟩
  · rintro ⟨s, b, n, rfl, hb⟩
    have hslash : (s ++ [b]).getLast? ≠ some '/'.toUInt8 := by
      rw [List.getLast?_concat]
      rintro ⟨⟩
      contradiction
    have hlongest := Text.longestWithout_append_replicate hslash (n + 1)
    rw [List.append_assoc, List.singleton_append] at hlongest
    rw [h.longestWithout.unique hlongest]
    exact ⟨b, List.getLast?_concat, hb⟩

end BaseUrl

namespace Client

/-- **An address that a client keeps is kept again exactly if it does not end in a blank.**  It never
begins with a blank, and never ends in a slash.  It ends in a blank if one stood before the slashes at
the end of the trimmed address; then another client rejects it for want of a host, or keeps less of
it. -/
theorem reconnect_iff {transport : Bool} {apiVersion raw : Text} {c : Client}
    (h : connect transport apiVersion raw = .ok c) :
    let kept := c.baseUrl.text
    (∀ b ∈ kept.head?, Text.isBlankByte b = false) ∧
    kept.getLast? ≠ some '/'.toUInt8 ∧
    (connect transport apiVersion kept = .ok c ↔ ¬kept.EndsInBlank) ∧
    (kept.EndsInBlank ↔ ∃ (s : Text) (b : UInt8) (n : ℕ),
      Text.trim raw = s ++ b :: List.replicate (n + 1) '/'.toUInt8 ∧ Text.isBlankByte b = true) ∧
    (kept.EndsInBlank →
      connect transport apiVersion kept = .error (.invalid (.invalidUrl .host kept)) ∨
        ∃ c', connect transport apiVersion kept = .ok c' ∧ c'.baseUrl.text <+: kept ∧
          c'.baseUrl.text ≠ kept) := by
  intro kept
  obtain ⟨hversion, htransport, u, hgives, rfl⟩ := exists_gives_of_connect h
  have hshorter : kept.EndsInBlank →
      connect transport apiVersion kept = .error (.invalid (.invalidUrl .host kept)) ∨
        ∃ c', connect transport apiVersion kept = .ok c' ∧ c'.baseUrl.text <+: kept ∧
          c'.baseUrl.text ≠ kept := by
    intro hblank
    rcases hgives.firstFlaw_or_shorter hblank with hflaw | ⟨u', hu', hpart, hne⟩
    · exact .inl (Verdict.flawed hversion hflaw).connect_eq
    · exact .inr ⟨_, (Verdict.connected hversion hu' htransport).connect_eq, hpart, hne⟩
  refine ⟨fun b hb => ?_, hgives.longestWithout.last, ⟨fun hagain hblank => ?_, fun hblank => ?_⟩,
    hgives.endsInBlank_iff (Text.not_endsInBlank_trim raw), hshorter⟩
  · exact u.not_blank_of_head?_text b hb
  · rcases hshorter hblank with herror | ⟨c', hc', -, hne⟩
    · rw [herror] at hagain
      contradiction
    · rw [hc'] at hagain
      exact hne (congrArg (·.baseUrl.text) (Except.ok.inj hagain))
  · exact (Verdict.connected hversion (hgives.gives_text hblank) htransport).connect_eq

/-- Slashes and blanks in turn at the end of an address: the first client keeps a blank, the second
drops it and the slash before it, and nothing changes after that. -/
theorem reconnect_iff_in_turns :
    let c : Client := ⟨ascii "v", ⟨.https, ascii "hub/ "⟩, 30000⟩
    let c' : Client := ⟨ascii "v", ⟨.https, ascii "hub"⟩, 30000⟩
    connect true (ascii "v") (ascii "https://hub/ // ") = .ok c ∧ c.baseUrl.text.EndsInBlank ∧
      connect true (ascii "v") c.baseUrl.text = .ok c' ∧ ¬c'.baseUrl.text.EndsInBlank ∧
      connect true (ascii "v") c'.baseUrl.text = .ok c' := by
  intro c c'
  have hc : connect true (ascii "v") (ascii "https://hub/ // ") = .ok c := rfl
  have hblank : c.baseUrl.text.EndsInBlank := ⟨' '.toUInt8, rfl, by decide⟩
  have hc' : connect true (ascii "v") c.baseUrl.text = .ok c' := rfl
  have hagain : connect true (ascii "v") c'.baseUrl.text = .ok c' := rfl
  exact ⟨hc, hblank, hc', (reconnect_iff hc').2.2.1.1 hagain, hagain⟩

/-- A blank in front of the last slash is kept, but not kept again.  Where it stands in place of the
host, what is kept is rejected. -/
theorem normal_form_missed :
    let blankEnd : Client := ⟨ascii "v", ⟨.https, ascii "h/a "⟩, 30000⟩
    let trimmed : Client := ⟨ascii "v", ⟨.https, ascii "h/a"⟩, 30000⟩
    let blankHost : Client := ⟨ascii "v", ⟨.https, ascii " "⟩, 30000⟩
    connect true (ascii "v") (ascii "https://h/a /") = .ok blankEnd ∧
      connect true (ascii "v") blankEnd.baseUrl.text = .ok trimmed ∧
      blankEnd.baseUrl.text.EndsInBlank ∧ trimmed.baseUrl.text ≠ blankEnd.baseUrl.text ∧
      connect true (ascii "v") (ascii "https:// /") = .ok blankHost ∧
      connect true (ascii "v") blankHost.baseUrl.text =
        .error (.invalid (.invalidUrl .host (ascii "https:// "))) := by
  intro blankEnd trimmed blankHost
  have hblank : blankEnd.baseUrl.text.EndsInBlank := ⟨' '.toUInt8, rfl, by decide⟩
  exact ⟨rfl, rfl, hblank, by decide, rfl, rfl⟩

end Client

end ModuleRegistry
