import ModuleRegistry.Proofs.Addresses
import ModuleRegistry.Proofs.Reconnection

/-!
# What a server reads in a query

An address is put together from the base address, a path and a query.  This module takes it apart
again, for any path and any parameters.  The first question mark ends the path, because neither the
base address nor an encoded path holds one.  Behind it the query is cut at every ampersand, each piece
at its first equals sign, and both sides are decoded (`readQuery`).

No key and no value can disturb the cuts, whatever bytes it is made of: an encoded text holds neither
separator.  A query is therefore a list of pieces (`query_eq_pieces`), of which each reads back as its
pair (`readPiece_piece`).

Nothing is lost on the way, so an address tells the path and the parameters, up to the slash that a
path is given if it has none (`rooted_eq_rooted_iff`).

Main statement: `Client.url_reads_back`.
-/

namespace ModuleRegistry

open Text (ascii)
open Text.Percent (isUnreserved encode decode spelled_encode)

namespace Client

/-! ## Pieces of a query -/

/-- The pair that a piece of a query stands for. -/
def readPiece (s : Text) : Text × Text :=
  (decode (Text.before '='.toUInt8 s), decode (Text.after '='.toUInt8 s))

/-- The pairs that a query stands for, in its order. -/
def readQuery (s : Text) : List (Text × Text) := (s.splitOn '&'.toUInt8).map readPiece

/-- The piece that stands for a pair. -/
def piece (p : Text × Text) : Text := encode p.1 ++ '='.toUInt8 :: encode p.2

lemma not_mem_encode {sep : UInt8} (h : isUnreserved sep = false) (hp : sep ≠ 0x25) (s : Text) :
    sep ∉ encode s :=
  (spelled_encode s).not_mem h hp

lemma readPiece_piece (p : Text × Text) : readPiece (piece p) = p := by
  have hsep : '='.toUInt8 ∉ encode p.1 := not_mem_encode (by decide) (by decide) p.1
  rw [readPiece, piece, Text.before_append_cons hsep, Text.after_append_cons hsep,
    Text.Percent.decode_encode, Text.Percent.decode_encode]

lemma ampersand_not_mem_piece (p : Text × Text) : '&'.toUInt8 ∉ piece p := by
  have hsep (s : Text) : '&'.toUInt8 ∉ encode s := not_mem_encode (by decide) (by decide) s
  have hne : '&'.toUInt8 ≠ '='.toUInt8 := by decide
  simp [piece, hsep, hne]

/-- The version is a pair like any other, in front of the parameters. -/
lemma query_eq_pieces (c : Client) (parameters : Table Text) :
    c.query parameters = piece (ascii "api-version", c.apiVersion) ++
      (parameters.toList.map piece).flatMap ('&'.toUInt8 :: ·) := by
  have hparameter (p : Text × Text) : parameter p = '&'.toUInt8 :: piece p := by
    simp [parameter, piece, ascii]
  have hkey : ascii "api-version=" = encode (ascii "api-version") ++ ['='.toUInt8] := by
    decide +kernel
  rw [query, hkey, funext hparameter, List.flatMap_map]
  simp [piece]

/-- **A query reads back**: the version, then the parameters in their order. -/
lemma readQuery_query (c : Client) (parameters : Table Text) :
    readQuery (c.query parameters) = (ascii "api-version", c.apiVersion) :: parameters.toList := by
  have hpieces : ∀ s ∈ parameters.toList.map piece, '&'.toUInt8 ∉ s := by
    intro s hs
    obtain ⟨p, -, rfl⟩ := List.mem_map.1 hs
    exact ampersand_not_mem_piece p
  rw [readQuery, query_eq_pieces, Text.splitOn_append_flatMap (ampersand_not_mem_piece _) hpieces,
    List.map_cons, List.map_map, readPiece_piece]
  simp [Function.comp_def, readPiece_piece]

/-! ## Paths -/

lemma rooted_of_head? {path : Text} (h : path.head? = some '/'.toUInt8) : rooted path = path :=
  if_pos h

lemma rooted_of_ne {path : Text} (h : path.head? ≠ some '/'.toUInt8) :
    rooted path = '/'.toUInt8 :: path :=
  if_neg h

/-- Two paths are the same behind the base address if they are equal, or if one is the other with the
slash that it lacked. -/
lemma rooted_eq_rooted_iff {path path' : Text} :
    rooted path' = rooted path ↔ path' = path ∨
      path.head? ≠ some '/'.toUInt8 ∧ path' = '/'.toUInt8 :: path ∨
      path'.head? ≠ some '/'.toUInt8 ∧ path = '/'.toUInt8 :: path' := by
  by_cases h : path.head? = some '/'.toUInt8
  · by_cases h' : path'.head? = some '/'.toUInt8
    · simp [rooted_of_head? h, rooted_of_head? h', h, h']
    · have hne : path' ≠ path := fun e => h' (e ▸ h)
      simp [rooted_of_head? h, rooted_of_ne h', h, h', hne, eq_comm]
  · by_cases h' : path'.head? = some '/'.toUInt8
    · have hne : path' ≠ path := fun e => h (e ▸ h')
      simp [rooted_of_ne h, rooted_of_head? h', h, h', hne]
    · have hslash : path' ≠ '/'.toUInt8 :: path := fun e => h' (congrArg List.head? e)
      have hslash' : path ≠ '/'.toUInt8 :: path' := fun e => h (congrArg List.head? e)
      simp [rooted_of_ne h, rooted_of_ne h', hslash, hslash']

lemma mark_not_mem_rooted {path : Text} (h : '?'.toUInt8 ∉ path) : '?'.toUInt8 ∉ rooted path := by
  have hne : '?'.toUInt8 ≠ '/'.toUInt8 := by decide
  rw [rooted]
  split
  · exact h
  · simp [h, hne]

/-! ## Addresses -/

section Url

variable {c : Client} {path : Text}

lemma url_eq_append_cons (c : Client) (path : Text) (parameters : Table Text) :
    c.url path parameters =
      (c.baseUrl.text ++ rooted path) ++ '?'.toUInt8 :: c.query parameters := by
  have hmark : ascii "?" = ['?'.toUInt8] := rfl
  rw [url, hmark, List.append_assoc _ ['?'.toUInt8], List.singleton_append]

lemma before_mark_url (hbase : BaseUrl.SuffixFree c.baseUrl.text) (hpath : '?'.toUInt8 ∉ path)
    (parameters : Table Text) :
    Text.before '?'.toUInt8 (c.url path parameters) = c.baseUrl.text ++ rooted path := by
  rw [url_eq_append_cons, Text.before_append_cons]
  simp [hbase.1, mark_not_mem_rooted hpath]

lemma after_mark_url (hbase : BaseUrl.SuffixFree c.baseUrl.text) (hpath : '?'.toUInt8 ∉ path)
    (parameters : Table Text) :
    Text.after '?'.toUInt8 (c.url path parameters) = c.query parameters := by
  rw [url_eq_append_cons, Text.after_append_cons]
  simp [hbase.1, mark_not_mem_rooted hpath]

/-- An address tells everything that it was put together from. -/
lemma url_eq_url_iff (hbase : BaseUrl.SuffixFree c.baseUrl.text) {path' : Text}
    (hpath : '?'.toUInt8 ∉ path) (hpath' : '?'.toUInt8 ∉ path') {parameters parameters' : Table Text} :
    c.url path' parameters' = c.url path parameters ↔
      parameters' = parameters ∧ rooted path' = rooted path := by
  constructor
  · intro h
    have hbefore := congrArg (Text.before '?'.toUInt8) h
    rw [before_mark_url hbase hpath', before_mark_url hbase hpath] at hbefore
    have hafter := congrArg (readQuery ∘ Text.after '?'.toUInt8) h
    simp only [Function.comp_apply] at hafter
    rw [after_mark_url hbase hpath', after_mark_url hbase hpath, readQuery_query,
      readQuery_query] at hafter
    exact ⟨Table.ext (List.cons.inj hafter).2, List.append_cancel_left hbefore⟩
  · rintro ⟨rfl, hrooted⟩
    rw [url, url, hrooted]

end Url

/-- **An address reads back, and nothing else has it.**  Take a client that was made for a version and
a base address, however long it waits, and a path without a question mark.  Of the address of the path
with any parameters, the part before the first question mark is the base address, which does not end
in a slash, and the path, with a slash before it if it has none.  What follows reads as the version and
then the parameters, in ascending order of their keys.  Two such addresses are equal exactly if the
parameters are and the paths are, up to the slash that was put before one of them. -/
theorem url_reads_back {transport : Bool} {version raw : Text} {c : Client}
    (hc : connect transport version raw = .ok c) (ms : Int) {path : Text}
    (hpath : '?'.toUInt8 ∉ path) (parameters : Table Text) :
    let url := (c.withTimeout ms).url path parameters
    Text.before '?'.toUInt8 url = c.baseUrl.text ++
      (if path.head? = some '/'.toUInt8 then path else '/'.toUInt8 :: path) ∧
    c.baseUrl.text.getLast? ≠ some '/'.toUInt8 ∧
    (∃ pairs, readQuery (Text.after '?'.toUInt8 url) = (ascii "api-version", version) :: pairs ∧
      pairs.Pairwise (fun p p' => p.1 < p'.1) ∧
      ∀ key value, (key, value) ∈ pairs ↔ parameters.get? key = some value) ∧
    ∀ {ms' : Int} {path' : Text} {parameters' : Table Text}, '?'.toUInt8 ∉ path' →
      ((c.withTimeout ms').url path' parameters' = url ↔
        parameters' = parameters ∧ (path' = path ∨
          path.head? ≠ some '/'.toUInt8 ∧ path' = '/'.toUInt8 :: path ∨
          path'.head? ≠ some '/'.toUInt8 ∧ path = '/'.toUInt8 :: path')) := by
  intro url
  obtain ⟨-, -, u, hgives, rfl⟩ := exists_gives_of_connect hc
  have hbase : BaseUrl.SuffixFree u.text :=
    hgives.suffixFree.of_prefix hgives.longestWithout.begins
  refine ⟨before_mark_url hbase hpath parameters, hgives.longestWithout.last,
    ⟨parameters.toList, ?_, parameters.ascending, fun key value => ?_⟩, fun hpath' => ?_⟩
  · rw [after_mark_url hbase hpath, readQuery_query]
    rfl
  · exact (parameters.get?_eq_some_iff key value).symm
  · rw [← rooted_eq_rooted_iff]
    exact url_eq_url_iff hbase hpath hpath'

/-- Separators in the values, a parameter without key and value, one with the key of the version, and a
path that is given its slash. -/
theorem url_reads_back_separators :
    let c : Client := ⟨ascii "v 1", ⟨.https, ascii "hub/a"⟩, 30000⟩
    let parameters : Table Text :=
      .ofList [(ascii "k=", ascii "a b"), ([], []), (ascii "api-version", ascii "&=?%")]
    let url := (c.withTimeout 5).url (ascii "x/y") parameters
    connect true (ascii "v 1") (ascii " https://hub/a//") = .ok c ∧
      '?'.toUInt8 ∉ ascii "x/y" ∧ '?'.toUInt8 ∉ ascii "/x/y" ∧
      Text.before '?'.toUInt8 url = ascii "https://hub/a/x/y" ∧
      (∃ pairs, readQuery (Text.after '?'.toUInt8 url) =
          (ascii "api-version", ascii "v 1") :: pairs ∧
        (ascii "api-version", ascii "&=?%") ∈ pairs ∧ ([], []) ∈ pairs) ∧
      (c.withTimeout 7).url (ascii "/x/y") parameters = url := by
  intro c parameters url
  have hc : connect true (ascii "v 1") (ascii " https://hub/a//") = .ok c := rfl
  have hpath : '?'.toUInt8 ∉ ascii "x/y" := by decide
  have hpath' : '?'.toUInt8 ∉ ascii "/x/y" := by decide
  obtain ⟨hbefore, -, ⟨pairs, hquery, -, hmem⟩, hunique⟩ := url_reads_back hc 5 hpath parameters
  have hslash : (ascii "x/y").head? ≠ some '/'.toUInt8 := by decide
  exact ⟨hc, hpath, hpath', hbefore, ⟨pairs, hquery, (hmem _ _).2 rfl, (hmem _ _).2 rfl⟩,
    (hunique hpath').2 ⟨rfl, .inr (.inl ⟨hslash, rfl⟩)⟩⟩

end Client

end ModuleRegistry
