import ModuleRegistry.Proofs.Operations

/-!
# What a server reads in an address

An identifier passes three layers on its way into an address: it is percent-encoded, the path of its
device or module is put together around it, and the client puts the path between its base address and
the query.  This module reads the way back.

`Spelled` is the grammar of a text that is written with plain bytes of some kind and escapes `%XY` in
upper case.  What `Percent.encode` writes is spelled with unreserved bytes only, so no separator of an
address can come out of it, whatever went in; a cut at a separator therefore hits one that the path
or the query put there.  `pathOf` is a path as the list of its segments, each behind a slash.

`Device.Operation.ReadsBack` says what a server finds in the part of an address behind the base
address: the segments of the path, with the identifiers in them, and the version in the query.

Main statement: `address_reads_back`, the address of every operation reads back, and the operation,
the device and the module can be told from it and the method.
-/

namespace ModuleRegistry

open Text (ascii)
open Text.Percent (isUnreserved escape encodeByte encode decode hexDigit)

namespace Text.Percent

/-! ## Spelling -/

/-- Whether a byte is a hexadecimal digit as the encoder writes it. -/
def isUpperHex (b : UInt8) : Bool := (0x30 ≤ b && b ≤ 0x39) || (0x41 ≤ b && b ≤ 0x46)

/-- A text of plain bytes of some kind and of escapes in upper case. -/
inductive Spelled (plain : UInt8 → Prop) : Text → Prop where
  | nil : Spelled plain []
  | byte {b : UInt8} {s : Text} : plain b → Spelled plain s → Spelled plain (b :: s)
  | escape {x y : UInt8} {s : Text} : isUpperHex x = true → isUpperHex y = true →
      Spelled plain s → Spelled plain (0x25 :: x :: y :: s)

namespace Spelled

variable {plain plain' : UInt8 → Prop} {s t : Text}

lemma append (hs : Spelled plain s) (ht : Spelled plain t) : Spelled plain (s ++ t) := by
  induction hs with
  | nil => exact ht
  | byte hb _ ih => exact .byte hb ih
  | escape hx hy _ ih => exact .escape hx hy ih

lemma mono (h : ∀ b, plain b → plain' b) (hs : Spelled plain s) : Spelled plain' s := by
  induction hs with
  | nil => exact .nil
  | byte hb _ ih => exact .byte (h _ hb) ih
  | escape hx hy _ ih => exact .escape hx hy ih

lemma of_forall (h : ∀ b ∈ s, plain b) : Spelled plain s := by
  induction s with
  | nil => exact .nil
  | cons b s ih => exact .byte (h b (by simp)) (ih fun b' hb' => h b' (by simp [hb']))

lemma plain_or_hex (hs : Spelled plain s) {b : UInt8} (hb : b ∈ s) :
    plain b ∨ b = 0x25 ∨ isUpperHex b = true := by
  induction hs with
  | nil => simp at hb
  | byte hplain _ ih =>
    rcases List.mem_cons.1 hb with rfl | hb
    · exact .inl hplain
    · exact ih hb
  | escape hx hy _ ih =>
    simp only [List.mem_cons] at hb
    rcases hb with rfl | rfl | rfl | hb
    · exact .inr (.inl rfl)
    · exact .inr (.inr hx)
    · exact .inr (.inr hy)
    · exact ih hb

end Spelled

/-- The unreserved bytes of an address (RFC 3986, section 2.3), one by one. -/
def unreserved : Text :=
  ascii "ABCDEFGHIJKLMNOPQRSTUVWXYZabcdefghijklmnopqrstuvwxyz0123456789-._~"

lemma mem_unreserved_iff {b : UInt8} : b ∈ unreserved ↔ isUnreserved b = true := by
  have listed : ∀ b ∈ unreserved, isUnreserved b = true := by decide +kernel
  have all : (List.range 256).all (fun n =>
      !isUnreserved (UInt8.ofNat n) || unreserved.contains (UInt8.ofNat n)) = true := by
    decide +kernel
  refine ⟨listed b, fun h => ?_⟩
  have := List.all_eq_true.1 all b.toNat (List.mem_range.2 b.toNat_lt)
  simpa [h] using this

lemma isUpperHex_hexDigit {n : UInt8} (h : n < 16) : isUpperHex (hexDigit n) = true := by
  have key : ∀ i : Fin 16, isUpperHex (hexDigit (UInt8.ofNat i)) = true := by decide
  have := key ⟨n.toNat, UInt8.lt_iff_toNat_lt.1 h⟩
  simpa using this

lemma isUnreserved_of_isUpperHex {b : UInt8} (h : isUpperHex b = true) :
    isUnreserved b = true := by
  simp only [isUpperHex, Bool.or_eq_true] at h
  rcases h with h | h
  · simp [isUnreserved, h]
  · have h' : 0x41 ≤ b ∧ b ≤ 0x46 := by simpa using h
    have hle : b ≤ 0x5A := UInt8.le_trans h'.2 (by decide)
    simp [isUnreserved, h'.1, hle]

lemma spelled_encodeByte (b : UInt8) : Spelled (isUnreserved · = true) (encodeByte b) := by
  rw [encodeByte]
  split
  · next h => exact .byte h .nil
  · exact .escape (isUpperHex_hexDigit (div_lt b)) (isUpperHex_hexDigit (mod_lt b)) .nil

lemma spelled_encode (s : Text) : Spelled (isUnreserved · = true) (encode s) := by
  induction s with
  | nil => exact .nil
  | cons b s ih => exact (spelled_encodeByte b).append ih

/-- **No separator leaks out**: a byte that is neither unreserved nor `%` does not occur in a text
spelled with unreserved bytes. -/
lemma Spelled.not_mem {s : Text} (hs : Spelled (isUnreserved · = true) s) {sep : UInt8}
    (h : isUnreserved sep = false) (hp : sep ≠ 0x25) : sep ∉ s := by
  intro hmem
  rcases hs.plain_or_hex hmem with hplain | hpercent | hhex
  · exact absurd hplain (by simp [h])
  · exact hp hpercent
  · exact absurd (isUnreserved_of_isUpperHex hhex) (by simp [h])

end Text.Percent

/-! ## Paths as lists of segments -/

/-- The path with the given segments, each behind a slash. -/
def Text.pathOf (segments : List Text) : Text := segments.flatMap ('/'.toUInt8 :: ·)

@[simp] lemma Text.pathOf_nil : Text.pathOf [] = [] := rfl

@[simp] lemma Text.pathOf_cons (s : Text) (r : List Text) :
    Text.pathOf (s :: r) = '/'.toUInt8 :: (s ++ Text.pathOf r) := rfl

lemma Text.pathOf_append (r r' : List Text) :
    Text.pathOf (r ++ r') = Text.pathOf r ++ Text.pathOf r' :=
  List.flatMap_append

lemma Text.before_append_pathOf {s : Text} (hs : '/'.toUInt8 ∉ s) (r : List Text) :
    Text.before '/'.toUInt8 (s ++ Text.pathOf r) = s := by
  cases r with
  | nil => simpa using Text.before_eq_self hs
  | cons t r => exact Text.before_append_cons hs _

lemma Text.dropWhile_append_pathOf {s : Text} (hs : '/'.toUInt8 ∉ s) (r : List Text) :
    (s ++ Text.pathOf r).dropWhile (· != '/'.toUInt8) = Text.pathOf r := by
  rw [List.dropWhile_append_of_pos (Text.bne_of_mem hs)]
  cases r <;> simp

/-- Any text is a segment and a path behind it. -/
lemma Text.exists_append_pathOf (x : Text) :
    ∃ s r, x = s ++ Text.pathOf r ∧ '/'.toUInt8 ∉ s ∧ ∀ t ∈ r, '/'.toUInt8 ∉ t := by
  induction x with
  | nil => exact ⟨[], [], by simp⟩
  | cons b x ih =>
    obtain ⟨s, r, rfl, hs, hr⟩ := ih
    by_cases hb : b = '/'.toUInt8
    · subst hb
      refine ⟨[], s :: r, by simp, by simp, ?_⟩
      intro t ht
      rcases List.mem_cons.1 ht with rfl | ht
      · exact hs
      · exact hr t ht
    · exact ⟨b :: s, r, by simp, by simp [Ne.symm hb, hs], hr⟩

/-- A text and more texts, each behind a separator that none of them holds, are cut where they were
put together. -/
lemma Text.splitOn_append_flatMap {sep : UInt8} {s : Text} {r : List Text} (hs : sep ∉ s)
    (hr : ∀ t ∈ r, sep ∉ t) : (s ++ r.flatMap (sep :: ·)).splitOn sep = s :: r := by
  induction r generalizing s with
  | nil => simpa using List.splitOn_eq_singleton hs
  | cons t r ih =>
    rw [List.flatMap_cons, List.cons_append, List.splitOn_append_cons_self_of_not_mem hs,
      ih (hr t (by simp)) fun t' ht' => hr t' (by simp [ht'])]

/-- A path is cut into its segments, behind an empty one. -/
lemma Text.splitOn_pathOf {r : List Text} (hr : ∀ t ∈ r, '/'.toUInt8 ∉ t) :
    (Text.pathOf r).splitOn '/'.toUInt8 = [] :: r :=
  Text.splitOn_append_flatMap (s := []) (by simp) hr

lemma Text.spelled_pathOf {r : List Text}
    (hr : ∀ t ∈ r, Percent.Spelled (isUnreserved · = true) t) :
    Percent.Spelled (fun b => isUnreserved b = true ∨ b = '/'.toUInt8) (Text.pathOf r) := by
  induction r with
  | nil => exact .nil
  | cons t r ih =>
    rw [Text.pathOf_cons]
    refine .byte (.inr rfl) (.append ?_ (ih fun t' ht' => hr t' (by simp [ht'])))
    exact (hr t (by simp)).mono fun b hb => .inl hb

lemma Text.not_mem_pathOf {sep : UInt8} (hsep : sep ≠ '/'.toUInt8) {r : List Text}
    (hr : ∀ t ∈ r, sep ∉ t) : sep ∉ Text.pathOf r := by
  intro hmem
  obtain ⟨t, ht, hb⟩ := List.mem_flatMap.1 hmem
  rcases List.mem_cons.1 hb with h | h
  · exact hsep h
  · exact hr t ht h

/-! ## The address of an operation -/

namespace BaseUrl

lemma suffixFree_dropEnd {p : UInt8 → Bool} {s : Text} (h : s.any beginsSuffix = false) :
    (Text.dropEnd p s).any beginsSuffix = false := by
  rw [← Text.dropEnd_append_takeEnd p s, List.any_append, Bool.or_eq_false_iff] at h
  exact h.1

/-- An accepted base address has neither a query nor a fragment. -/
lemma not_beginsSuffix_of_parse {raw : Text} {u : BaseUrl} (h : parse raw = .ok u) :
    u.text.any beginsSuffix = false := by
  obtain ⟨tail, -, htail, hrest, -⟩ := of_parse_eq_ok h
  have hscheme : u.scheme.text.any beginsSuffix = false := by
    cases u.scheme <;> decide
  rw [text, List.any_append, hscheme, hrest, suffixFree_dropEnd htail]
  rfl

end BaseUrl

namespace Device.Operation

open Text.Percent (Spelled unreserved mem_unreserved_iff spelled_encode)

/-- The segments of the path of an operation. -/
def segments (d : Device) (op : Operation) : List Text :=
  [ascii "devices", encode d.id, ascii "modules"] ++ op.moduleId?.toList.map encode

/-- What an operation puts behind the base address. -/
def tail (d : Device) (op : Operation) : Text :=
  op.path d ++ '?'.toUInt8 :: (ascii "api-version=" ++ encode d.client.apiVersion)

/-- What a server finds behind the base address: the device and the module, if there is one, in the
path, the version in the query, and no byte that an address must not hold. -/
structure ReadsBack (op : Operation) (version id tail : Text) : Prop where
  path : ∃ e es, (Text.before '?'.toUInt8 tail).splitOn '/'.toUInt8 =
      [[], ascii "devices", e, ascii "modules"] ++ es ∧
    decode e = id ∧ es.map decode = op.moduleId?.toList
  query : ∃ e, Text.after '?'.toUInt8 tail = ascii "api-version=" ++ e ∧ decode e = version
  spelled : Spelled (fun b => b ∈ unreserved ∨ b ∈ ascii "/?=") tail

lemma path_eq_pathOf (d : Device) (op : Operation) : op.path d = Text.pathOf (op.segments d) := by
  have hdevices : ascii "/devices/" = '/'.toUInt8 :: (ascii "devices" ++ ['/'.toUInt8]) := rfl
  have hmodules : ascii "/modules" = '/'.toUInt8 :: ascii "modules" := rfl
  have hslash : ascii "/" = ['/'.toUInt8] := rfl
  cases op <;>
    simp [path, memberPath, collectionPath, segments, moduleId?, hdevices, hmodules, hslash]

lemma url_request (d : Device) (op : Operation) :
    (op.request d).url = d.client.baseUrl.text ++ op.tail d := by
  have hrooted : Client.rooted (op.path d) = op.path d := by
    rw [path_eq_pathOf]
    simp [Client.rooted, segments]
  have hmark : ascii "?" = ['?'.toUInt8] := rfl
  show d.client.url (op.path d) ∅ = _
  simp [Client.url, Client.query, hrooted, hmark, tail]

lemma spelled_segments (d : Device) (op : Operation) :
    ∀ s ∈ op.segments d, Spelled (isUnreserved · = true) s := by
  intro s hs
  simp only [segments, List.mem_append, List.mem_cons, List.not_mem_nil, or_false,
    List.mem_map] at hs
  rcases hs with (rfl | rfl | rfl) | ⟨moduleId, -, rfl⟩
  · exact .of_forall (by decide +kernel)
  · exact spelled_encode d.id
  · exact .of_forall (by decide +kernel)
  · exact spelled_encode moduleId

lemma not_mem_segments {sep : UInt8} (h : isUnreserved sep = false) (hp : sep ≠ 0x25)
    (d : Device) (op : Operation) : ∀ s ∈ op.segments d, sep ∉ s :=
  fun s hs => (spelled_segments d op s hs).not_mem h hp

lemma spelled_tail (d : Device) (op : Operation) :
    Spelled (fun b => b ∈ unreserved ∨ b ∈ ascii "/?=") (op.tail d) := by
  have hpath : Spelled (fun b => b ∈ unreserved ∨ b ∈ ascii "/?=") (op.path d) := by
    rw [path_eq_pathOf]
    refine (Text.spelled_pathOf (spelled_segments d op)).mono fun b hb => ?_
    rcases hb with hb | rfl
    · exact .inl (mem_unreserved_iff.2 hb)
    · exact .inr (by decide)
  have hkey : Spelled (fun b => b ∈ unreserved ∨ b ∈ ascii "/?=") (ascii "api-version=") :=
    .of_forall (by decide +kernel)
  have hversion : Spelled (fun b => b ∈ unreserved ∨ b ∈ ascii "/?=")
      (encode d.client.apiVersion) :=
    (spelled_encode _).mono fun b hb => .inl (mem_unreserved_iff.2 hb)
  exact hpath.append (.byte (.inr (by decide)) (hkey.append hversion))

lemma readsBack_tail (d : Device) (op : Operation) :
    op.ReadsBack d.client.apiVersion d.id (op.tail d) := by
  have hmark : '?'.toUInt8 ∉ op.path d := by
    rw [path_eq_pathOf]
    exact Text.not_mem_pathOf (by decide) (not_mem_segments (by decide) (by decide) d op)
  have hslash : ∀ s ∈ op.segments d, '/'.toUInt8 ∉ s :=
    not_mem_segments (by decide) (by decide) d op
  refine ⟨⟨encode d.id, op.moduleId?.toList.map encode, ?_, ?_, ?_⟩,
    ⟨encode d.client.apiVersion, ?_, ?_⟩, spelled_tail d op⟩
  · rw [tail, Text.before_append_cons hmark, path_eq_pathOf, Text.splitOn_pathOf hslash]
    rfl
  · exact Text.Percent.decode_encode d.id
  · simp [Function.comp_def]
  · rw [tail, Text.after_append_cons hmark]
  · exact Text.Percent.decode_encode d.client.apiVersion

/-- A tail reads back in one way only. -/
lemma ReadsBack.unique {op op' : Operation} {version version' id id' tail : Text}
    (h : op.ReadsBack version id tail) (h' : op'.ReadsBack version' id' tail) :
    id = id' ∧ op.moduleId? = op'.moduleId? := by
  obtain ⟨e, es, hpath, hid, hes⟩ := h.path
  obtain ⟨e', es', hpath', hid', hes'⟩ := h'.path
  have hsegments : [[], ascii "devices", e, ascii "modules"] ++ es =
      [[], ascii "devices", e', ascii "modules"] ++ es' := hpath.symm.trans hpath'
  obtain ⟨rfl, rfl⟩ : e = e' ∧ es = es' := by simpa using hsegments
  have hmodule : op.moduleId?.toList = op'.moduleId?.toList := hes.symm.trans hes'
  refine ⟨hid.symm.trans hid', ?_⟩
  cases hm : op.moduleId? <;> cases hm' : op'.moduleId? <;> simp_all

lemma eq_of_method_of_moduleId? {op op' : Operation} (hmethod : op.method = op'.method)
    (hmodule : op.moduleId? = op'.moduleId?) : op = op' := by
  cases op <;> cases op' <;> simp_all [method, moduleId?]

/-- **A server can read back whom an operation names.**  A client that was made for a version and a
base address, however long it waits, sends for an operation one request, unless the log cannot take
the entry before it, which a log that holds the base address can.  The address of the request is the
base address and a tail that reads back; no query or fragment begins before the tail; and two
operations of such a client that agree in method and address agree in everything. -/
theorem address_reads_back {version raw : Text} {c : Client}
    (hc : Client.connect true version raw = .ok c) {ms : Int} {id : Text} {d : Device}
    (hd : Device.make (c.withTimeout ms) id = .ok d) {op : Operation} (hop : op.Named)
    (format : DocumentFormat) (t : Traffic) :
    (op.call d format t).2.sent =
      t.sent ++ (if t.Opens format (op.request d) then [op.request d] else []) ∧
    (t.Holds format [c.baseUrl.text] → t.Opens format (op.request d)) ∧
    (∃ tail, (op.request d).url = c.baseUrl.text ++ tail ∧ op.ReadsBack version id tail) ∧
    c.baseUrl.text.any BaseUrl.beginsSuffix = false ∧
    ∀ {ms' : Int} {id' : Text} {d' : Device} {op' : Operation},
      Device.make (c.withTimeout ms') id' = .ok d' →
      (op'.request d').method = (op.request d).method →
      (op'.request d').url = (op.request d).url → op' = op ∧ id' = id := by
  obtain ⟨-, u, hu, rfl⟩ := Client.make_eq_ok_iff.1 (Client.connect_eq_ok_iff.1 hc).2
  obtain ⟨-, rfl⟩ := Device.make_eq_ok_iff.1 hd
  have hread := readsBack_tail ⟨Client.withTimeout ⟨version, u, 30000⟩ ms, id⟩ op
  refine ⟨sent_call hop, fun h => opens_of_holds h List.mem_cons_self,
    ⟨_, url_request _ op, hread⟩, BaseUrl.not_beginsSuffix_of_parse hu, ?_⟩
  intro ms' id' d' op' hd' hmethod hurl
  obtain ⟨-, rfl⟩ := Device.make_eq_ok_iff.1 hd'
  have hread' := readsBack_tail ⟨Client.withTimeout ⟨version, u, 30000⟩ ms', id'⟩ op'
  -- both addresses begin with the same base address, so their tails are equal
  rw [url_request, url_request] at hurl
  rw [List.append_cancel_left hurl] at hread'
  obtain ⟨hid, hmodule⟩ := hread'.unique hread
  exact ⟨eq_of_method_of_moduleId? hmethod hmodule, hid⟩

/-- The module `a/b?` of the device `%` and NUL, through a client made with untidy arguments. -/
theorem address_reads_back_separators :
    let d : Device := ⟨⟨ascii "2018 06", ⟨.https, ascii "hub/api"⟩, 5⟩, [0x25, 0]⟩
    Client.connect true (ascii "2018 06") (ascii " https://hub/api//\n") =
      .ok ⟨ascii "2018 06", ⟨.https, ascii "hub/api"⟩, 30000⟩ ∧
    Device.make (Client.withTimeout ⟨ascii "2018 06", ⟨.https, ascii "hub/api"⟩, 30000⟩ 5)
      [0x25, 0] = .ok d ∧
    (delete (ascii "a/b?")).Named ∧
    ∃ tail, ((delete (ascii "a/b?")).request d).url = ascii "https://hub/api" ++ tail ∧
      (delete (ascii "a/b?")).ReadsBack (ascii "2018 06") [0x25, 0] tail := by
  intro d
  have hc : Client.connect true (ascii "2018 06") (ascii " https://hub/api//\n") =
      .ok ⟨ascii "2018 06", ⟨.https, ascii "hub/api"⟩, 30000⟩ := rfl
  have hd : Device.make (Client.withTimeout ⟨ascii "2018 06", ⟨.https, ascii "hub/api"⟩, 30000⟩ 5)
      [0x25, 0] = .ok d := rfl
  have hop : (delete (ascii "a/b?")).Named := named_of_moduleId? rfl (by decide)
  exact ⟨hc, hd, hop, (address_reads_back hc hd hop .none {}).2.2.1⟩

end Device.Operation

end ModuleRegistry
